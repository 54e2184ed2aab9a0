import LedBench.Bench.Log
import LedBench.Files.Store

namespace LedBench.CommandLine

open Files

/-- A monad in which commands can be carried out. -/
class Console (m : Type → Type) extends FileStore m where
  /-- Prints a line. -/
  print (line : String) : m Unit
  log (line : LogLine) : m Unit

/-- Surroundings kept as a value: what a command has done to them can be looked at. -/
structure Workspace where
  files : FileTree
  /-- The printed lines, the latest in front. -/
  page : List String := []
  /-- The log, the latest line in front. -/
  logged : List LogLine := []

namespace Workspace

/-- What has been printed. -/
def printed (w : Workspace) : String := String.join (w.page.reverse.map (· ++ "\n"))

/-- The log in its order. -/
def log (w : Workspace) : List LogLine := w.logged.reverse

/-- Works on the files alone. -/
def onFiles {α : Type} (action : StateM FileTree α) : StateM Workspace α :=
  modifyGet fun w =>
    let (a, files) := action.run w.files
    (a, { w with files })

end Workspace

instance : Console (StateM Workspace) where
  read path := Workspace.onFiles (FileStore.read path)
  write path text := Workspace.onFiles (FileStore.write path text)
  ensureDirectories path := Workspace.onFiles (FileStore.ensureDirectories path)
  print line := modify fun w => { w with page := line :: w.page }
  log line := modify fun w => { w with logged := line :: w.logged }

end LedBench.CommandLine
