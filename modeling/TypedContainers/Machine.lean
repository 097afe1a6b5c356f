import TypedContainers.Files.Tree
import TypedContainers.Log.Event

/-!
# Machines

What a run needs from its surroundings: files, environment variables, a program
to start, and somebody to report to.  Every reply says whether the request
succeeded, so that a run decides itself what a failure means.
-/

namespace TypedContainers

/-- A monad in which the requests of a run can be made. -/
class Machine (m : Type → Type) where
  /-- Whether a path leads to a file or a directory. -/
  pathExists : Path → m Bool
  readText : Path → m (Except IoError String)
  /-- Make a text the whole content of a file, which may be new. -/
  writeText : Path → String → m (Except IoError Unit)
  /-- Create a directory and the missing ones around it. -/
  createDirs : Path → m (Except IoError Unit)
  environment : String → m (Option String)
  /-- Run a program with arguments, and tell whether it was successful. -/
  invoke : String → List String → m (Except IoError Bool)
  report : Log.Event → m Unit

end TypedContainers
