import JavaChecker.Config.Load

/-!
# JavaChecker.Config.Discovery

Finding the configuration of a project. The environment may name the file, as an absolute path or
as seen from the root of the project, and then no other file is looked at, whether or not that one
exists. Otherwise it is the first of two names in the root that is a regular file.
-/

namespace JavaChecker

open Log (Event)
open Files (FileSystem)

namespace Config

/-- No file was found. -/
def notFound (root : String) : Event where
  level := .debug
  target := target
  message := "no config file found"
  fields := [⟨"root", .shown root⟩]

end Config

end JavaChecker
