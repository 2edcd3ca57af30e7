import RenderLoop.Error
import RenderLoop.Bytes

/-!
# RenderLoop — values as plain data

Numbers, texts, lists and records with labelled fields: the form in which tools
display, store and hand in values of the library. `Reportable` says how a type is
reported as plain data, `Readable` how it is read back.
-/

namespace RenderLoop

/-- A value as plain data. -/
inductive Data where
  | null
  | bool (value : Bool)
  | number (value : Int)
  | text (value : String)
  | list (items : List Data)
  | record (fields : List (String × Data))
  deriving Repr, Inhabited

/-- Types whose values can be reported. -/
class Reportable (α : Type) where
  report : α → Data

export Reportable (report)

namespace Data

instance : Reportable Data := ⟨id⟩
instance : Reportable Unit := ⟨fun _ => null⟩
instance : Reportable Bool := ⟨bool⟩
instance : Reportable Nat := ⟨fun n => number n⟩
instance : Reportable Int := ⟨number⟩
instance : Reportable UInt32 := ⟨fun n => number n.toNat⟩
instance : Reportable UInt64 := ⟨fun n => number n.toNat⟩
instance : Reportable Int32 := ⟨fun n => number n.toInt⟩
instance : Reportable String := ⟨text⟩

variable {α β : Type}

instance [Reportable α] : Reportable (List α) := ⟨fun xs => list (xs.map report)⟩

/-- A missing value is reported as nothing. -/
instance [Reportable α] : Reportable (Option α) :=
  ⟨fun o => match o with
    | some a => report a
    | none => null⟩

/-- A pair is a list of two. -/
instance [Reportable α] [Reportable β] : Reportable (α × β) :=
  ⟨fun p => list [report p.1, report p.2]⟩

/-- A choice is reported by its name. -/
instance [Named α] : Reportable α := ⟨fun a => text (Named.name a)⟩

/-- A record with further fields. -/
def withFields (extra : List (String × Data)) : Data → Data
  | record fields => record (fields ++ extra)
  | r => r

/-- The value of a field; a missing one is null. -/
def field (d : Data) (key : String) : Data :=
  match d with
  | record fields => (fields.lookup key).getD null
  | _ => null

/-- Whether a record has a field, be it null. -/
def mentions (d : Data) (key : String) : Bool :=
  match d with
  | record fields => fields.any (·.1 == key)
  | _ => false

/-- Whether a record has a field that is not null. -/
def has (d : Data) (key : String) : Bool :=
  match d.field key with
  | null => false
  | _ => true

end Data

/-- A value that was read, or what is wrong with the data. -/
abbrev Reading := Except String

/-- Types whose values can be read from plain data. -/
class Readable (α : Type) where
  ofData : Data → Reading α

export Readable (ofData)

namespace Data

/-- The value of a field. -/
def get {α : Type} [Readable α] (d : Data) (key : String) : Reading α := ofData (d.field key)

/-- The value of a field, or a default if there is none. -/
def getD {α : Type} [Readable α] (d : Data) (key : String) (default : α) : Reading α :=
  if d.has key then d.get key else pure default

/-- Data of a form that does not fit. -/
def unfit {α : Type} (what : String) : Reading α := throw s!"not {what}"

instance : Readable Data := ⟨pure⟩
instance : Readable Bool := ⟨fun d => match d with
  | bool b => pure b
  | _ => unfit "a truth value"⟩
instance : Readable String := ⟨fun d => match d with
  | text s => pure s
  | _ => unfit "a text"⟩
instance : Readable Int := ⟨fun d => match d with
  | number n => pure n
  | _ => unfit "a whole number"⟩
instance : Readable Nat := ⟨fun d => match d with
  | number (.ofNat n) => pure n
  | _ => unfit "a natural number"⟩
instance : Readable UInt32 := ⟨fun d => do
  let n : Nat ← ofData d
  if n < UInt32.size then pure (UInt32.ofNat n) else unfit "a 32-bit word"⟩
instance : Readable UInt64 := ⟨fun d => do
  let n : Nat ← ofData d
  if n < UInt64.size then pure (UInt64.ofNat n) else unfit "a 64-bit word"⟩
instance : Readable Int32 := ⟨fun d => do return Int32.ofInt (← ofData d)⟩

variable {α β : Type}

/-- The items of a list. -/
def items (d : Data) : Reading (List Data) :=
  match d with
  | list xs => pure xs
  | _ => unfit "a list"

/-- The fields of a record; null has none. -/
def fields (d : Data) : Reading (List (String × Data)) :=
  match d with
  | record fs => pure fs
  | null => pure []
  | _ => unfit "a record"

instance [Readable α] : Readable (List α) := ⟨fun d => do (← d.items).mapM ofData⟩

instance [Readable α] : Readable (Option α) := ⟨fun d => match d with
  | null => pure none
  | d => some <$> ofData d⟩

instance [Readable α] [Readable β] : Readable (α × β) := ⟨fun d => do
  match ← d.items with
  | [a, b] => return (← ofData a, ← ofData b)
  | _ => unfit "a pair"⟩

/-- A choice is read by its name. -/
instance [Named α] : Readable α := ⟨fun d => do
  match Named.ofName? (← ofData d : String) with
  | some a => pure a
  | none => unfit "the name of a choice"⟩

/-- A list of words as a value, if it has as many words as are needed. -/
def ofWords {γ : Type} (f : List UInt32 → Option γ) (d : Data) : Reading γ := do
  match f (← ofData d) with
  | some c => pure c
  | none => unfit "a list of that many words"

/-- The fields of a record, their names read as keys. -/
def table {κ γ : Type} [Readable κ] (value : Data → Reading γ) (d : Data) :
    Reading (List (κ × γ)) := do
  (← d.fields).mapM fun (k, v) => do return (← ofData (text k), ← value v)

/-- Bytes in hexadecimal digits. -/
def bytes (d : Data) : Reading (List UInt8) := do
  match bytesOfHex? (← ofData d : String) with
  | some bs => pure bs
  | none => unfit "a text of hexadecimal digits"

/-- A key in hexadecimal digits. -/
def key (d : Data) : Reading UInt64 := do
  match (← ofData d : String).toList.mapM hexDigit? with
  | some digits => pure (UInt64.ofNat (digits.foldl (fun n digit => 16 * n + digit) 0))
  | none => unfit "a text of hexadecimal digits"

end Data

end RenderLoop
