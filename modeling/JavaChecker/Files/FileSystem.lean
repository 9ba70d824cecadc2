import JavaChecker.Text.Utf8

/-!
# JavaChecker.Files.FileSystem

File paths, and what a program that only reads can ask of a file system: the bytes of a file,
whether a path leads to a regular file, and the canonical form of a path that leads somewhere.

Paths are texts. Names are separated by slashes, and a path that begins with a slash is absolute.
-/

namespace JavaChecker.Files

/-! ## Paths -/

/-- Whether a path stands by itself, whatever directory it is seen from. -/
def isAbsolute (path : String) : Bool := path.toList.head? == some '/'

/-- A path as seen from a directory. -/
def join (directory path : String) : String :=
  if isAbsolute path || directory.isEmpty then path
  else if directory.toList.getLast? == some '/' then directory ++ path
  else directory ++ "/" ++ path

/-! ## File systems -/

/-- Why a file cannot be read. -/
inductive ReadError where
  /-- The path leads nowhere. -/
  | notFound
  /-- The path goes on from something that is not a directory. -/
  | notDirectory
  /-- The path leads to a directory. -/
  | isDirectory
  /-- The path, or a name on it, is longer than the system allows. -/
  | nameTooLong
  /-- The path holds the character with code zero, which ends paths. -/
  | nulInPath
  /-- The bytes of the file are not the encoding of a text. -/
  | notText
deriving DecidableEq, Inhabited

/-- The failure in words. -/
def ReadError.message : ReadError → String
  | .notFound => "No such file or directory (os error 2)"
  | .notDirectory => "Not a directory (os error 20)"
  | .isDirectory => "Is a directory (os error 21)"
  | .nameTooLong => "File name too long (os error 36)"
  | .nulInPath => "file name contained an unexpected NUL byte"
  | .notText => "stream did not contain valid UTF-8"

/-- A file system, as far as reading goes. -/
structure FileSystem where
  /-- The bytes of the file that a path leads to. -/
  read : String → Except ReadError (List UInt8)
  /-- Whether a path leads to a regular file. -/
  isFile : String → Bool
  /-- The one path, absolute and without detours, to where a path leads. -/
  canonical? : String → Option String

namespace FileSystem

/-- The canonical form of a path, or the path itself where there is none. -/
def canonical (fs : FileSystem) (path : String) : String := (fs.canonical? path).getD path

end FileSystem

end JavaChecker.Files
