import JavaChecker.Files.FileSystem
import JavaChecker.Text.Pieces

/-!
# JavaChecker.Files.Snapshot

A file system held in memory: directories and regular files at locations, where a location is the
list of names that leads to it from the root. There are no links, so a location is one thing only,
and following a path is a walk over its names in which every name but the last must be that of a
directory. Names and paths have a greatest length, which counts the bytes of their encoding. What is
asked about a path is refused if the path is too long, except for its canonical form, which is found
name by name.

Besides being read, a snapshot can be appended to.
-/

namespace JavaChecker.Files

/-- Where something is: the names on the way from the root. -/
abbrev Location := List String

/-- What may be at a location. -/
inductive Entry where
  | file (bytes : List UInt8)
  | directory
deriving DecidableEq, Inhabited

/-- What is where. -/
structure Snapshot where
  entries : List (Location × Entry) := []
deriving DecidableEq, Inhabited

namespace Snapshot

/-- What is at a location. The root is always a directory. -/
def entry? (s : Snapshot) (loc : Location) : Option Entry :=
  if loc = [] then some .directory else (s.entries.find? (·.1 == loc)).map Prod.snd

/-- Put something at a location in place of what is there. -/
def put (s : Snapshot) (loc : Location) (e : Entry) : Snapshot :=
  ⟨s.entries.filter (·.1 != loc) ++ [(loc, e)]⟩

/-! ## Following paths -/

/-- The names of a path: the texts between its slashes, which may be empty. -/
def names (path : String) : List String := (Text.pieces '/' path.toList).map String.ofList

/-- The greatest length of a name. -/
def maxName : Nat := 255

/-- The greatest length of a path. -/
def maxPath : Nat := 4095

/-- Go on from a location by one name. An empty name and a point stay where they are and two
points go back; all of them, like every other name, go on from directories only. -/
def follow (s : Snapshot) (loc : Location) (name : String) : Except ReadError Location :=
  if s.entry? loc ≠ some .directory then .error .notDirectory
  else if name = "" ∨ name = "." then .ok loc
  else if name = ".." then .ok loc.dropLast
  else if name.utf8ByteSize > maxName then .error .nameTooLong
  else if (s.entry? (loc ++ [name])).isSome then .ok (loc ++ [name])
  else .error .notFound

/-- Where names lead, one after the other, from the root. -/
def walk (s : Snapshot) (names : List String) : Except ReadError Location :=
  names.foldlM s.follow []

/-- Whether a path holds the character with code zero. -/
def hasNul (path : String) : Bool := path.toList.contains (Char.ofNat 0)

/-- Where a path leads, whatever its length. Paths that are not absolute are seen from the
root. -/
def locate (s : Snapshot) (path : String) : Except ReadError Location :=
  if hasNul path then .error .nulInPath
  else if path = "" then .error .notFound
  else s.walk (names path)

/-- Where a path leads that is not too long. -/
def resolve (s : Snapshot) (path : String) : Except ReadError Location :=
  if path.utf8ByteSize > maxPath ∧ !hasNul path then .error .nameTooLong else s.locate path

/-- The canonical path to a location. -/
def pathTo (loc : Location) : String := "/" ++ "/".intercalate loc

/-! ## Reading -/

/-- The bytes of the file that a path leads to. -/
def read (s : Snapshot) (path : String) : Except ReadError (List UInt8) := do
  match s.entry? (← s.resolve path) with
  | some (.file bytes) => .ok bytes
  | some .directory => .error .isDirectory
  | none => .error .notFound

/-- Whether a path leads to a regular file. -/
def isFile (s : Snapshot) (path : String) : Bool :=
  match s.read path with
  | .ok _ => true
  | .error _ => false

/-- The canonical form of a path that leads somewhere. -/
def canonical? (s : Snapshot) (path : String) : Option String :=
  (s.locate path).toOption.map pathTo

/-- Make a directory, and the directories on the way to it. -/
def makeDirectory (s : Snapshot) (loc : Location) : Snapshot :=
  ((List.range (loc.length + 1)).map loc.take).foldl
    (fun s l => if (s.entry? l).isSome then s else s.put l .directory) s

/-- Put a file at a location, and make the directories on the way to it. -/
def makeFile (s : Snapshot) (loc : Location) (bytes : List UInt8) : Snapshot :=
  (s.makeDirectory loc.dropLast).put loc (.file bytes)

/-- The location that names would lead to if the last of them were there. -/
def newLocation? (s : Snapshot) (names : List String) : Option Location :=
  match names.getLast?, s.walk names.dropLast with
  | some name, .ok loc =>
    match s.follow loc name with
    | .error .notFound => some (loc ++ [name])
    | _ => none
  | _, _ => none

/-- Open a file to append to it. A file that is not there is made, empty, if its directory is
there. -/
def openToAppend? (s : Snapshot) (path : String) : Option (Snapshot × Location) :=
  match s.resolve path with
  | .ok loc =>
    match s.entry? loc with
    | some (.file _) => some (s, loc)
    | _ => none
  | .error .notFound => (s.newLocation? (names path)).map fun loc => (s.put loc (.file []), loc)
  | .error _ => none

/-- Append to the file at a location. -/
def append (s : Snapshot) (loc : Location) (bytes : List UInt8) : Snapshot :=
  match s.entry? loc with
  | some (.file old) => s.put loc (.file (old ++ bytes))
  | _ => s

end Snapshot

end JavaChecker.Files
