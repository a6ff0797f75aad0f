import SiteReport.Files.Path

/-!
What stands at a path, and folders of files that are kept in memory.
-/

namespace SiteReport

inductive Look where
  | absent
  | folder
  /-- A file that may not be read. -/
  | locked
  | file (bytes : List UInt8)
  deriving DecidableEq, Inhabited

inductive ReadError where
  | absent
  | folder
  | locked
  /-- The bytes are no UTF-8. -/
  | notText
  deriving DecidableEq

def ReadError.message : ReadError → String
  | .absent => "No such file or directory (os error 2)"
  | .folder => "Is a directory (os error 21)"
  | .locked => "Permission denied (os error 13)"
  | .notText => "stream did not contain valid UTF-8"

namespace Look

def bytes : Look → Except ReadError (List UInt8)
  | .absent => .error .absent
  | .folder => .error .folder
  | .locked => .error .locked
  | .file bytes => .ok bytes

def text (l : Look) : Except ReadError String :=
  match l.bytes with
  | .error e => .error e
  | .ok bytes =>
    match String.fromUTF8? ⟨bytes.toArray⟩ with
    | some s => .ok s
    | none => .error .notText

end Look

/-- Files by their places: the names that lead to them, none of which is idle or two dots. -/
structure Folder where
  files : List (List (List Char) × List UInt8) := []

namespace Folder

def find? (f : Folder) (place : List (List Char)) : Option (List UInt8) := f.files.lookup place

/-- The outermost folder, or one with files in it. -/
def isFolder (f : Folder) (place : List (List Char)) : Bool :=
  place.isEmpty || f.files.any fun file => place.isPrefixOf file.1 && file.1 != place

/-- Follows the names of a path; files and missing folders lead no further. -/
def follow (f : Folder) (place : List (List Char)) :
    List (List Char) → Option (List (List Char))
  | [] => some place
  | name :: rest =>
    if f.isFolder place then
      if Path.isIdle name then f.follow place rest
      else if name = ['.', '.'] then
        match place with
        | [] => none
        | _ => f.follow place.dropLast rest
      else f.follow (place ++ [name]) rest
    else none

/-- The place that a path leads to. Nothing lies outside of the folder. -/
def place? (f : Folder) (path : String) : Option (List (List Char)) :=
  if path.isEmpty || Path.isAbsolute path then none else f.follow [] (Path.split path.toList)

def look (f : Folder) (path : String) : Look :=
  match f.place? path with
  | none => .absent
  | some place =>
    match f.find? place with
    | some bytes => .file bytes
    | none => if f.isFolder place then .folder else .absent

def put (f : Folder) (place : List (List Char)) (bytes : List UInt8) : Folder :=
  ⟨(place, bytes) :: f.files.filter (·.1 != place)⟩

/-- Writes a file into a folder that is there, in the place of an earlier file. -/
def write (f : Folder) (path : String) (bytes : List UInt8) : Folder :=
  match f.place? path with
  | some place => f.put place bytes
  | none => f

/-- Writes a file together with the folders that it needs. -/
def add (f : Folder) (path : String) (bytes : List UInt8) : Folder :=
  f.put ((Path.split path.toList).filter (!Path.isIdle ·)) bytes

end Folder

end SiteReport
