import RenderLoop.Gpu.PipelineCache
import RenderLoop.Proofs.Files
import RenderLoop.Proofs.Op.Ensures

/-!
# RenderLoop — the file of the pipeline cache

Data is **headed** by a device if it begins with the header of that device, word for
word (`CacheHeader.Headed`), and the check at the file decides just that, for data of any
length (`CacheHeader.names_iff`).

A load hands the device the content of the file, whole, if that is headed by the device,
and nothing otherwise, whatever is the matter with the file. It makes a single call and
fails only if the device refuses that one (`PipelineCache.Creates`). A file that a cache was
saved to is therefore loaded as it was saved whenever its data is headed by the device
(`PipelineCache.creates_of_load`).
-/

namespace RenderLoop

open Op

-- ---------------------------------------------------------------------------
-- Headers
-- ---------------------------------------------------------------------------

namespace CacheHeader

variable {data : List UInt8} {identity : DeviceIdentity} {offset : Nat} {w : UInt32}

/-- Data begins with the header of a device: its length of 32 bytes or more, the version, the numbers
of vendor and device, and the sixteen bytes of the driver. -/
def Headed (identity : DeviceIdentity) (data : List UInt8) : Prop :=
  identity.driver.length = 16 ∧ ∃ length rest, size ≤ length.toNat ∧
    data = bytesOfWords [length, version, identity.vendor, identity.device] ++
      (identity.driver ++ rest)

/-- A word is read where its bytes are. -/
theorem wordAt?_eq_some_iff :
    wordAt? data offset = some w ↔ data.drop offset = littleEndian w ++ data.drop (offset + 4) := by
  rw [wordAt?, ← List.drop_drop]
  constructor
  · intro hWord
    -- fewer than four bytes are no word
    match hDrop : data.drop offset with
    | [] | [_] | [_, _] | [_, _, _] =>
      rw [hDrop] at hWord
      cases hWord
    | a :: b :: c :: d :: rest =>
      rw [hDrop] at hWord
      cases hWord
      rw [littleEndian_wordOfBytes]
      rfl
  · intro hDrop
    have hTake : (data.drop offset).take 4 = bytesOfWords [w] := by
      rw [hDrop]
      rfl
    rw [hTake, wordsOfBytes_bytesOfWords]
    rfl

/-- A header is 32 bytes long. -/
theorem Headed.size_le (h : Headed identity data) : size ≤ data.length := by
  obtain ⟨hSixteen, length, rest, -, rfl⟩ := h
  rw [List.length_append, List.length_append, length_bytesOfWords, hSixteen, size]
  simp only [List.length_cons, List.length_nil]
  omega

/-- The header that is checked at the file is that of the device. -/
theorem names_iff : names data identity = true ↔ size ≤ data.length ∧ Headed identity data := by
  simp only [names, isComplete, Bool.and_eq_true, decide_eq_true_eq, beq_iff_eq, Option.any_eq_true,
    wordAt?_eq_some_iff]
  constructor
  · rintro ⟨⟨⟨⟨⟨hSize, length, hLength, hLong⟩, hVersion⟩, hVendor⟩, hDevice⟩, hDriver⟩
    have hSixteen : identity.driver.length = 16 := by
      rw [← hDriver, List.length_take, List.length_drop]
      rw [size] at hSize
      omega
    -- after the four words stand the sixteen bytes of the driver
    have hRest : data.drop 16 = identity.driver ++ (data.drop 16).drop 16 := by
      rw [← hDriver, List.take_append_drop]
    refine ⟨hSize, hSixteen, length, (data.drop 16).drop 16, hLong, ?_⟩
    calc data = littleEndian length ++ data.drop 4 := hLength
      _ = littleEndian length ++ (littleEndian version ++ data.drop 8) := by rw [hVersion]
      _ = littleEndian length ++ (littleEndian version ++
            (littleEndian identity.vendor ++ data.drop 12)) := by rw [hVendor]
      _ = littleEndian length ++ (littleEndian version ++ (littleEndian identity.vendor ++
            (littleEndian identity.device ++ data.drop 16))) := by rw [hDevice]
      _ = bytesOfWords [length, version, identity.vendor, identity.device] ++
            (identity.driver ++ (data.drop 16).drop 16) := by
        rw [← hRest]
        rfl
  · rintro ⟨hSize, hSixteen, length, rest, hLong, rfl⟩
    exact ⟨⟨⟨⟨⟨hSize, length, rfl, hLong⟩, rfl⟩, rfl⟩, rfl⟩, List.take_left' hSixteen⟩

end CacheHeader

-- ---------------------------------------------------------------------------
-- Loading
-- ---------------------------------------------------------------------------

/-- A call of the setup returns what the device answers, or fails if that refuses. -/
theorem Host.start_setUp {α : Type} (source noticed told : String) (step : GpuStep α) (s : Host) :
    start (Host.setUp source noticed told step) s = some (match step s.gpu with
      | (.ok a, g) => (.ok a, { s with gpu := g })
      | (.error code, g) => (.error (.initializationFailed s!"Failed to {told}: {code.name}"),
          Logging.push (.error source s!"Failed to {noticed}: {code.name}") { s with gpu := g })) := by
  rw [Host.setUp, start_bind, Host.call, start_act]
  rcases step s.gpu with ⟨_ | _, g⟩ <;> rfl

namespace PipelineCache

variable {s t : Host} {data : List UInt8} {identity : DeviceIdentity} {path : String}

/-- A load asks the device for a cache with initial data, calls it for nothing else, and fails exactly
if the device refuses. -/
def Creates (data : List UInt8) (s : Host) : Except RenderError PipelineCache × Host → Prop
  | (.ok c, t) =>
    t.gpu.history = ⟨.create (.pipelineCache data), .handle c.handle⟩ :: s.gpu.history
  | (.error e, t) => ∃ code,
    e = .initializationFailed s!"Failed to create pipeline cache: {code.name}" ∧
      t.gpu.history = ⟨.create (.pipelineCache data), .failed code⟩ :: s.gpu.history

/-- A load comes to an end, and asks for a cache with what the file has to offer. -/
theorem exists_creates (context : GpuContext) (path : String) (s : Host) :
    ∃ outcome, start (load context path) s = some outcome ∧
      Creates (initial context.physical.identity path (s.files.read path)).1 s outcome := by
  rcases hInitial : initial context.physical.identity path (s.files.read path) with ⟨data, entry⟩
  rw [load, start_bind_of_ok (start_get s), hInitial]
  dsimp only
  rw [start_bind_of_ok (start_log entry s), start_bind, Host.start_setUp, Gpu.create]
  cases hRefusal : (Logging.push entry s).gpu.refusal?
      (GpuCall.create (.pipelineCache data)).name with
  | some code =>
    rw [Gpu.attempt_of_refusal hRefusal]
    exact ⟨_, rfl, code, rfl, rfl⟩
  | none =>
    rw [Gpu.attempt_of_none hRefusal]
    exact ⟨_, rfl, rfl⟩

/-- A file that cannot be read gives no data. -/
theorem initial_of_error (e : FileError) : (initial identity path (.error e)).1 = [] := by
  cases e <;> rfl

/-- A file that is headed by the device gives all of its data. -/
theorem initial_of_headed (hHeaded : CacheHeader.Headed identity data) :
    (initial identity path (.ok data)).1 = data := by
  rw [initial, if_pos (CacheHeader.names_iff.mpr ⟨hHeaded.size_le, hHeaded⟩)]

/-- A file that is not headed by the device gives none. -/
theorem initial_of_not_headed (hHeaded : ¬ CacheHeader.Headed identity data) :
    (initial identity path (.ok data)).1 = [] := by
  rw [initial, if_neg fun hNames => hHeaded (CacheHeader.names_iff.mp hNames).2]

/-- What a save that returns leaves in the file is the content of the cache. -/
theorem read_of_save {c : PipelineCache} (hSave : start c.save s = some (.ok (), t)) :
    t.files.read c.path = .ok s.gpu.cacheData := by
  rw [save, start_bind_eq_ok_iff] at hSave
  obtain ⟨data, u, hContent, hWrite⟩ := hSave
  -- the content is asked of the device, unless a fault refuses that
  have hData : data = s.gpu.cacheData := by
    rw [content, Host.call, start_bind, start_act, Gpu.ask] at hContent
    cases hRefusal : s.gpu.refusal? "vkGetPipelineCacheData" with
    | some code =>
      rw [hRefusal] at hContent
      cases hContent
    | none =>
      rw [hRefusal] at hContent
      cases hContent
      rfl
  rw [start_bind_of_ok (start_get u)] at hWrite
  cases hFiles : u.files.write c.path data with
  | error e =>
    rw [hFiles] at hWrite
    cases hWrite
  | ok files =>
    rw [hFiles] at hWrite
    cases hWrite
    rw [← hData]
    exact Files.read_of_write hFiles

/-- **The file of the cache fails soft.** Whatever the file is like, a load comes to an end, with one
call to the device and no failure but a refusal of that. A file that cannot be read gives no data. One
that can gives nothing or its whole content, and its content exactly if it has 32 bytes or more and
begins with the header of the device. What a save has left in the file is loaded as the device had it,
if that begins with the header. -/
theorem creates_of_load (context : GpuContext) (path : String) (s : Host) :
    ∃ data outcome, start (load context path) s = some outcome ∧ Creates data s outcome ∧
      (∀ e, s.files.read path = .error e → data = []) ∧
      (∀ bytes, s.files.read path = .ok bytes → (data = [] ∨ data = bytes) ∧
        (data = bytes ∧ bytes ≠ [] ↔ CacheHeader.size ≤ bytes.length ∧
          CacheHeader.Headed context.physical.identity bytes)) ∧
      ∀ (c : PipelineCache) (before after : Host),
        start c.save before = some (.ok (), after) →
        s.files.read path = after.files.read c.path →
        CacheHeader.Headed context.physical.identity before.gpu.cacheData →
        data = before.gpu.cacheData := by
  obtain ⟨outcome, hRun, hCreates⟩ := exists_creates context path s
  refine ⟨_, outcome, hRun, hCreates, fun e hError => ?_, fun bytes hBytes => ?_,
    fun c before after hSave hFile hHeaded => ?_⟩
  · rw [hError]
    exact initial_of_error e
  · rw [hBytes]
    by_cases hHeaded : CacheHeader.Headed context.physical.identity bytes
    · rw [initial_of_headed hHeaded]
      have hSize := hHeaded.size_le
      refine ⟨.inr rfl, iff_of_true ⟨rfl, ?_⟩ ⟨hSize, hHeaded⟩⟩
      -- data that is headed is not empty
      rintro rfl
      cases hSize
    · rw [initial_of_not_headed hHeaded]
      exact ⟨.inl rfl, iff_of_false (fun h => h.2 h.1.symm) fun h => hHeaded h.2⟩
  · rw [hFile, read_of_save hSave]
    exact initial_of_headed hHeaded

/-- A header with two bytes behind it, for the device that is simulated by default. -/
def recognizedData : List UInt8 :=
  bytesOfWords [32, 1, 4318, 7864] ++ ((List.range 16).map UInt8.ofNat ++ [171, 205])

/-- A world in which the cache has that content. -/
def cachedHost : Host := { gpu := { cacheData := recognizedData } }

/-- A cache that is kept in a file of the working directory. -/
def filedCache : PipelineCache := ⟨1, "cache.bin"⟩

/-- The world of a later run, with a new device and the files that the save has left. -/
def laterHost : Host := { files := (filedCache.save.after cachedHost).files }

theorem creates_of_load_after_save : ∃ outcome,
    start (load default "cache.bin") laterHost = some outcome ∧
    Creates recognizedData laterHost outcome := by
  have hSaved : filedCache.save.succeeds cachedHost = true := by decide +kernel
  obtain ⟨⟨⟩, hSave⟩ := start_of_succeeds hSaved
  have hHeaded : CacheHeader.Headed (default : GpuContext).physical.identity recognizedData :=
    ⟨rfl, 32, [171, 205], by decide, rfl⟩
  obtain ⟨data, outcome, hRun, hCreates, -, -, hLoaded⟩ :=
    creates_of_load default "cache.bin" laterHost
  rw [hLoaded filedCache cachedHost _ hSave rfl hHeaded] at hCreates
  exact ⟨outcome, hRun, hCreates⟩

end PipelineCache

end RenderLoop
