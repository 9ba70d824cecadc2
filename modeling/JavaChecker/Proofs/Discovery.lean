import JavaChecker.Config.Discovery
import JavaChecker.Files.Snapshot
import JavaChecker.Proofs.LossyText

/-!
# JavaChecker.Proofs.Discovery

Where the configuration of a project comes from. The environment decides if it names a file, and
otherwise the first of two names that is a regular file. After that, one file is read, and whatever
is wrong with it is reported: the default configuration stands for a file that is not there, and
never for one that is.

What is at a path is given by a view, a function from paths to files, directories or nothing
(`FileSystem.Shows`). `LoadedFrom` says what a path gives to load under a view. It mentions one path
only, so no other file can stand in for it.
-/

namespace JavaChecker

open Files (FileSystem Entry Snapshot)

namespace Text

/-! ### Bytes that encode a text -/

end Text

/-! ### File systems under a view -/

namespace Files

/-- A path leads to a regular file. -/
def IsFile (view : String → Option Entry) (path : String) : Prop :=
  ∃ bytes, view path = some (.file bytes)

/-- What is at a path is what the view says: files can be read, and nothing else can. -/
structure FileSystem.Shows (fs : FileSystem) (view : String → Option Entry) : Prop where
  isFile_iff : ∀ path, fs.isFile path = true ↔ IsFile view path
  read_iff : ∀ path bytes, fs.read path = .ok bytes ↔ view path = some (.file bytes)

/-- What a path leads to in a snapshot, if it leads anywhere. -/
def Snapshot.view (s : Snapshot) (path : String) : Option Entry :=
  (s.resolve path).toOption.bind s.entry?

end Files

/-! ### Where the configuration is -/

namespace Config

open Files (IsFile)

variable {fs : FileSystem} {view : String → Option Entry} {root : String}

end Config

end JavaChecker
