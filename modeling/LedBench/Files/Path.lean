namespace LedBench.Files.Path

/-- The parts between slashes, empty ones included. -/
def split (cs : List Char) : List (List Char) :=
  cs.foldr (fun c parts =>
    if c = '/' then [] :: parts
    else match parts with
      | part :: rest => (c :: part) :: rest
      | [] => [[c]]) [[]]

def unsplit (parts : List (List Char)) : List Char := ['/'].intercalate parts

/-- A part that names nothing: an empty one, or the directory itself. -/
def isIdle (part : List Char) : Bool := part.isEmpty || part = ['.']

def isAbsolute (path : String) : Bool := path.toList.head? = some '/'

def endsInSlash (path : String) : Bool := path.toList.getLast? = some '/'

def parts (path : String) : List String :=
  ((split path.toList).filter (!·.isEmpty)).map String.ofList

/-- A path as its start, which is the root, the current directory or nothing, and what follows it. -/
def cutStart : List Char → List Char × List Char
  | '/' :: rest => (['/'], rest)
  | ['.'] => (['.'], [])
  | '.' :: '/' :: rest => (['.'], '/' :: rest)
  | cs => ([], cs)

/-- Parts without the idle ones at the end. -/
def trimEnd (parts : List (List Char)) : List (List Char) :=
  (parts.reverse.dropWhile isIdle).reverse

/-- The path without its last part; idle parts at the end do not count. None if there is no part. -/
def parent? (path : String) : Option String :=
  let (start, rest) := cutStart path.toList
  match trimEnd (split rest) with
  | [] => if start = ['.'] then some "" else none
  | parts => some (String.ofList (start ++ unsplit (trimEnd parts.dropLast)))

/-- The directory that a file's path is in; the current one if the path has no part. -/
def directory (path : String) : String := (parent? path).getD "."

/-- A path seen from a directory. One from the root stands as it is. -/
def join (base path : String) : String :=
  if isAbsolute path || base.isEmpty then path
  else if endsInSlash base then base ++ path
  else base ++ "/" ++ path

/-- A path that is written in a file and seen from that file's directory. -/
def besides (file path : String) : String := join (directory file) path

end LedBench.Files.Path
