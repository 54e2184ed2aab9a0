import LedBench.Files.Tree

namespace LedBench.Files

/-- A monad in which files are read and written. -/
class FileStore (m : Type → Type) where
  /-- The text of a file; none if what is at the path is no text. -/
  read (path : String) : m (Except FileError (Option String))
  /-- Makes a file with a text, or gives an existing file a new text. -/
  write (path text : String) : m (Except FileError Unit)
  /-- Makes a directory and all those around it that are missing. -/
  ensureDirectories (path : String) : m (Except FileError Unit)

/-- The text of an entry, if it is a file. -/
def Entry.text? : Entry → Option String
  | file text => some text
  | directory => none

instance : FileStore (StateM FileTree) where
  read path := return ((← get).read path).map Entry.text?
  write path text := do
    match (← get).write path text with
    | .ok t => set t; return .ok ()
    | .error e => return .error e
  ensureDirectories path := modifyGet fun t =>
    let (t, result) := t.ensureDirectories path
    (result, t)

end LedBench.Files
