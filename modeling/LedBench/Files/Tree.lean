import LedBench.Files.Path

namespace LedBench.Files

inductive FileError where
  | notFound
  | alreadyExists
  | notDirectory
  | isDirectory
  | nameTooLong
  | invalidName
  /-- Any other failure, in the words of the system. -/
  | other (text : String)
  deriving DecidableEq, Repr

def FileError.message : FileError → String
  | notFound => "No such file or directory (os error 2)"
  | alreadyExists => "File exists (os error 17)"
  | notDirectory => "Not a directory (os error 20)"
  | isDirectory => "Is a directory (os error 21)"
  | nameTooLong => "File name too long (os error 36)"
  | invalidName => "file name contained an unexpected NUL byte"
  | other text => text

/-- What a path leads to: a file, with its text, or a directory. -/
inductive Entry where
  | file (text : String)
  | directory
  deriving DecidableEq, Repr

/-- The place of an entry: the names on the way from the root. -/
abbrev Place := List String

/-- Files and directories by place, no place twice. The root is always a directory. -/
structure FileTree where
  entries : List (Place × Entry)
  /-- The working directory, which relative paths start from. -/
  home : Place
  deriving DecidableEq, Repr

namespace FileTree

def lookup (t : FileTree) : Place → Option Entry
  | [] => some .directory
  | place => t.entries.lookup place

/-- Puts an entry at a place, for the one that was there. -/
def put (t : FileTree) (place : Place) (e : Entry) : FileTree :=
  { t with entries := t.entries.filter (·.1 ≠ place) ++ [(place, e)] }

/-- The place of a name in a directory. -/
def child (t : FileTree) (here : Place) (name : String) : Except FileError Place :=
  match t.lookup here with
  | none => .error .notFound
  | some (.file _) => .error .notDirectory
  | some .directory =>
    if name = "." then .ok here
    else if name = ".." then .ok here.dropLast
    else if 255 < name.utf8ByteSize then .error .nameTooLong
    else .ok (here ++ [name])

/-- The place that names lead to. What is at that place, if anything, is not looked at. -/
def follow (t : FileTree) (start : Place) (names : List String) : Except FileError Place :=
  names.foldlM t.child start

/-- Refuses what no path may be. -/
def checkPath (path : String) : Except FileError Unit :=
  if path.toList.contains '\x00' then .error .invalidName
  else if path.isEmpty then .error .notFound
  else if 4096 ≤ path.utf8ByteSize then .error .nameTooLong
  else .ok ()

def start (t : FileTree) (path : String) : Place := if Path.isAbsolute path then [] else t.home

def read (t : FileTree) (path : String) : Except FileError Entry := do
  checkPath path
  let place ← t.follow (t.start path) (Path.parts path)
  match t.lookup place with
  | none => .error .notFound
  | some (.file text) =>
    if Path.endsInSlash path then .error .notDirectory else .ok (.file text)
  | some .directory => .ok .directory

/-- The directory that a new entry would be in, and its name there. -/
def slot (t : FileTree) (path : String) : Except FileError (Place × String) := do
  checkPath path
  match (Path.parts path).getLast? with
  | none => .ok ([], ".")
  | some name =>
    let place ← t.follow (t.start path) (Path.parts path).dropLast
    let _ ← t.child place name
    .ok (place, name)

/-- The name stands for a directory that there is already. -/
def isDots (name : String) : Bool := name = "." || name = ".."

/-- Makes a file with a text, or gives an existing file a new text. -/
def write (t : FileTree) (path text : String) : Except FileError FileTree := do
  let (place, name) ← t.slot path
  if isDots name || Path.endsInSlash path then .error .isDirectory
  else match t.lookup (place ++ [name]) with
    | some .directory => .error .isDirectory
    | _ => .ok (t.put (place ++ [name]) (.file text))

def makeDirectory (t : FileTree) (path : String) : Except FileError FileTree := do
  let (place, name) ← t.slot path
  if isDots name || (t.lookup (place ++ [name])).isSome then .error .alreadyExists
  else .ok (t.put (place ++ [name]) .directory)

def isDirectory (t : FileTree) (path : String) : Bool :=
  match t.read path with
  | .ok .directory => true
  | _ => false

def ensureDirectory (t : FileTree) (path : String) : Except FileError FileTree :=
  match t.makeDirectory path with
  | .ok t => .ok t
  | .error e => if t.isDirectory path then .ok t else .error e

/-- Makes a directory and those around it that are missing, at most so many. A directory that was
made stays, even if a later one cannot be made. -/
def ensureWithin : Nat → FileTree → String → FileTree × Except FileError Unit
  | 0, t, _ => (t, .error .notFound)
  | fuel + 1, t, path =>
    if path.isEmpty then (t, .ok ())
    else match t.ensureDirectory path with
      | .ok t => (t, .ok ())
      | .error .notFound =>
        match Path.parent? path with
        | none => (t, .error .notFound)
        | some parent =>
          match ensureWithin fuel t parent with
          | (t, .error e) => (t, .error e)
          | (t, .ok ()) =>
            match t.ensureDirectory path with
            | .ok t => (t, .ok ())
            | .error e => (t, .error e)
      | .error e => (t, .error e)

/-- Makes a directory and all those around it that are missing. -/
def ensureDirectories (t : FileTree) (path : String) : FileTree × Except FileError Unit :=
  ensureWithin (path.length + 1) t path

/-- Adds the directories on the way to a place. -/
def addParents (t : FileTree) (place : Place) : FileTree :=
  (List.range place.length).foldl
    (fun t n => if (t.lookup (place.take n)).isSome then t else t.put (place.take n) .directory) t

/-- A tree whose working directory holds the given files. A path that ends in a slash is an empty
directory; directories around a file are added. -/
def ofFiles (home : Place) (files : List (String × String)) : FileTree :=
  let empty : FileTree := ({ entries := [], home } : FileTree).addParents (home ++ [""])
  files.foldl (fun t (path, text) =>
    let place := home ++ Path.parts path
    (t.addParents place).put place
      (if Path.endsInSlash path then .directory else .file text)) empty

/-- The files below the working directory, by their paths from there. -/
def files (t : FileTree) : List (String × String) :=
  t.entries.filterMap fun (place, e) =>
    match e with
    | .directory => none
    | .file text =>
      if t.home.isPrefixOf place then some ("/".intercalate (place.drop t.home.length), text)
      else none

/-- The files of `after` that `before` does not have with the same text. -/
def changes (before after : FileTree) : List (String × String) :=
  after.files.filter fun (path, text) => before.files.lookup path ≠ some text

end FileTree

end LedBench.Files
