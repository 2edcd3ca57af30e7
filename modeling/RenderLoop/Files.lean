/-!
# RenderLoop — files

The directory tree the renderer reads shaders from and keeps its pipeline cache
in. A path is resolved component by component: every component before the last
has to be a directory, `.` and empty components stay where they are, and `..`
goes up, which at the top leads to the top. So a slash at the end of a path asks
for a directory.

A path with a slash in front is followed from the top, any other one from the
**working directory**. That one lies below the top under a name that no path can
spell, so what is in it is reached by relative paths alone.
-/

namespace RenderLoop

/-- Why a file cannot be read or written. -/
inductive FileError where
  | notFound
  | notDirectory
  | isDirectory
  | nameTooLong
  | zeroByte
  | invalidText
  deriving DecidableEq, Repr, Inhabited

def FileError.message : FileError → String
  | notFound => "No such file or directory (os error 2)"
  | notDirectory => "Not a directory (os error 20)"
  | isDirectory => "Is a directory (os error 21)"
  | nameTooLong => "File name too long (os error 36)"
  | zeroByte => "file name contained an unexpected NUL byte"
  | invalidText => "stream did not contain valid UTF-8"

-- ---------------------------------------------------------------------------
-- Paths
-- ---------------------------------------------------------------------------

namespace Path

/-- What stands between the occurrences of a character in a text. -/
def parts (separator : Char) (text : String) : List String :=
  (text.toList.splitOn separator).map String.ofList

/-- The components of a path. -/
def components (path : String) : List String := parts '/' path

/-- The last component that is not empty and not `.`; there is none if that is `..`. -/
def fileName? (path : String) : Option String :=
  match ((components path).filter fun c => c ≠ "" && c ≠ ".").getLast? with
  | some ".." | none => none
  | some name => some name

/-- What follows the last dot of a file name. A dot in front does not begin an extension. -/
def extension? (path : String) : Option String := do
  let name ← fileName? path
  match parts '.' name with
  | [] | [_] | ["", _] => none
  | parts => parts.getLast?

/-- Whether a path has this extension, letter case aside. -/
def hasExtension (path extension : String) : Bool :=
  (extension? path).any fun e => e.map Char.toLower == extension

/-- The bytes a component may have. -/
def nameLimit : Nat := 255

/-- The bytes a path may have. -/
def lengthLimit : Nat := 4095

/-- What is wrong with a path wherever it is followed. -/
def fault? (path : String) : Option FileError :=
  if path.toList.contains '\x00' then some .zeroByte
  else if path = "" then some .notFound
  else if lengthLimit < path.utf8ByteSize then some .nameTooLong
  else none

/-- The components that lead to the directory in which the last component is looked up. Slashes
at the end are no component. -/
def directory (path : String) : List String :=
  ((components path).reverse.dropWhile (· = "")).tail.reverse

/-- Whether a path ends in a slash, in `.` or in `..`, so that only a directory can be meant. -/
def meansDirectory (path : String) : Bool :=
  ["", ".", ".."].contains ((components path).getLast?.getD "")

end Path

-- ---------------------------------------------------------------------------
-- The tree
-- ---------------------------------------------------------------------------

/-- An entry of the tree. -/
inductive FileNode where
  | file (bytes : List UInt8)
  | directory
  deriving DecidableEq, Repr, Inhabited

/-- A directory tree: the entries by their components from the top. The top itself and the working
directory are there always. -/
structure Files where
  nodes : List (List String × FileNode) := []
  deriving DecidableEq, Repr, Inhabited

namespace Files

/-- The top of the tree. -/
def top : List String := []

/-- The working directory. No component that is looked up has its name. -/
def workingDirectory : List String := [""]

/-- Where a path is followed from. -/
def start (path : String) : List String :=
  if (Path.components path).head? = some "" then top else workingDirectory

/-- The entry at a place. -/
def nodeAt (t : Files) (place : List String) : Option FileNode :=
  if place = top ∨ place = workingDirectory then some .directory else t.nodes.lookup place

/-- Follows components from a place. The place reached need not exist. -/
def walk (t : Files) (place : List String) : List String → Except FileError (List String)
  | [] => .ok place
  | c :: rest =>
    match t.nodeAt place with
    | some .directory =>
      if c = "" ∨ c = "." then t.walk place rest
      else if c = ".." then t.walk place.dropLast rest
      else if Path.nameLimit < c.utf8ByteSize then .error .nameTooLong
      else t.walk (place ++ [c]) rest
    | some (.file _) => .error .notDirectory
    | none => .error .notFound

/-- The place that components of a path lead to. -/
def follow (t : Files) (path : String) (components : List String) :
    Except FileError (List String) :=
  match Path.fault? path with
  | some e => .error e
  | none => t.walk (start path) components

/-- The place a path leads to. -/
def locate (t : Files) (path : String) : Except FileError (List String) :=
  t.follow path (Path.components path)

/-- The content of a file. -/
def read (t : Files) (path : String) : Except FileError (List UInt8) := do
  match t.nodeAt (← t.locate path) with
  | some (.file bytes) => .ok bytes
  | some .directory => .error .isDirectory
  | none => .error .notFound

/-- The content of a file as text. -/
def readText (t : Files) (path : String) : Except FileError String := do
  match String.fromUTF8? (ByteArray.mk (← t.read path).toArray) with
  | some text => .ok text
  | none => .error .invalidText

/-- Whether a path leads to a file. -/
def isFile (t : Files) (path : String) : Bool :=
  match t.read path with
  | .ok _ => true
  | .error _ => false

/-- Replaces the entry at a place. -/
def put (t : Files) (place : List String) (node : FileNode) : Files :=
  ⟨(place, node) :: t.nodes.filter fun e => e.1 ≠ place⟩

/-- Removing the entries at one place changes no look-up of another. -/
theorem lookup_filter_place_ne {place other : List String} (h : other ≠ place)
    (nodes : List (List String × FileNode)) :
    (nodes.filter fun e => e.1 ≠ place).lookup other = nodes.lookup other := by
  induction nodes with
  | nil => rfl
  | cons e rest ih =>
    obtain ⟨key, node⟩ := e
    by_cases hKey : key = place
    · -- the entry is taken out, and the look-up passes it anyway
      have hNe : (other == place) = false := by simp [h]
      simpa [hKey, List.lookup_cons, hNe] using ih
    · by_cases hOther : other == key
      · simp [hKey, List.lookup_cons, hOther]
      · simpa [hKey, List.lookup_cons, hOther] using ih

/-- After an entry is replaced it is the new one, and all others are as before. -/
theorem nodeAt_put (t : Files) {place : List String} (node : FileNode) (other : List String)
    (hTop : place ≠ top) (hWorking : place ≠ workingDirectory) :
    (t.put place node).nodeAt other = if other = place then some node else t.nodeAt other := by
  by_cases h : other = place
  · subst h
    simp [nodeAt, put, hTop, hWorking]
  · have hLookup : (t.put place node).nodes.lookup other = t.nodes.lookup other := by
      have hNe : (other == place) = false := by simp [h]
      simp only [put, List.lookup_cons, hNe]
      exact lookup_filter_place_ne h t.nodes
    simp [nodeAt, h, hLookup]

/-- Writes a file. Its directory has to exist. After that, a path that means a directory is refused
whether or not there is one. -/
def write (t : Files) (path : String) (bytes : List UInt8) : Except FileError Files := do
  let _ ← t.follow path (Path.directory path ++ ["."])
  if Path.meansDirectory path then .error .isDirectory
  else
    let place ← t.locate path
    match t.nodeAt place with
    | some .directory => .error .isDirectory
    | _ => .ok (t.put place (.file bytes))

/-- Makes a directory and those above it, where there is nothing yet. -/
def makeDirectory (t : Files) (place : List String) : Files :=
  (List.range (place.length + 1)).foldl
    (fun t n => if (t.nodeAt (place.take n)).isNone then t.put (place.take n) .directory else t) t

/-- The place a path names when missing directories are made on the way. -/
def intended (path : String) : List String :=
  (Path.components path).foldl
    (fun place c => if c = "" ∨ c = "." then place else if c = ".." then place.dropLast
      else place ++ [c]) (start path)

/-- Writes a file, making its directory if need be. -/
def install (t : Files) (path : String) (bytes : List UInt8) : Files :=
  let place := intended path
  (t.makeDirectory place.dropLast).put place (.file bytes)

/-- Makes a directory. -/
def installDirectory (t : Files) (path : String) : Files := t.makeDirectory (intended path)

/-- Removes a file, or a directory with all it holds. -/
def remove (t : Files) (path : String) : Files :=
  ⟨t.nodes.filter fun e => !(intended path).isPrefixOf e.1⟩

end Files

end RenderLoop
