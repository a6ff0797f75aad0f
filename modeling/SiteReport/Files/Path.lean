/-!
Paths of files as people write them: names with slashes between them. Empty names and dots lead
nowhere; two dots lead to the folder around.
-/

namespace SiteReport.Path

/-- The names between slashes; there is at least one. -/
def split : List Char → List (List Char)
  | [] => [[]]
  | c :: rest =>
    match split rest with
    | [] => [[c]]
    | name :: more => if c = '/' then [] :: name :: more else (c :: name) :: more

def glue (names : List (List Char)) : List Char := ['/'].intercalate names

/-- A name that leads nowhere. -/
def isIdle (name : List Char) : Bool := name == [] || name == ['.']

/-- What a path starts at, the root or the current folder by name, and the rest of it. -/
def anchor : List Char → List Char × List Char
  | '/' :: rest => (['/'], rest)
  | ['.'] => (['.'], [])
  | '.' :: '/' :: rest => (['.'], '/' :: rest)
  | cs => ([], cs)

/-- Without names at the end that lead nowhere. -/
def trimIdle (names : List (List Char)) : List (List Char) :=
  (names.reverse.dropWhile isIdle).reverse

def isAbsolute (path : String) : Bool := path.toList.head? == some '/'

/-- The folder around, as far as the path tells; the current folder is the empty text then. -/
def folder? (path : String) : Option String :=
  let (start, body) := anchor path.toList
  match (trimIdle (split body)).reverse with
  | [] => if start = ['.'] then some "" else none
  | _ :: names => some (String.ofList (start ++ glue (trimIdle names.reverse)))

/-- The folder around as a path that can be looked at. -/
def around (path : String) : String :=
  match folder? path with
  | some "" => "."
  | some folder => folder
  | none => "."

/-- The last name of a path, or the path itself if it ends in none. -/
def name (path : String) : String :=
  match (trimIdle (split (anchor path.toList).2)).getLast? with
  | some last => if last = ['.', '.'] then path else String.ofList last
  | none => path

/-- Does the path end in a name, as that of a file does? -/
def endsInName (path : String) : Bool :=
  match (split path.toList).getLast? with
  | some last => !isIdle last && last != ['.', '.']
  | none => false

/-- A path as seen from a folder. -/
def join (folder path : String) : String :=
  if isAbsolute path then path
  else match folder.toList.getLast? with
    | none => path
    | some '/' => folder ++ path
    | some _ => folder ++ "/" ++ path

end SiteReport.Path
