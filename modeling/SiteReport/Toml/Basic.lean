/-!
TOML documents as trees. Floats and dates stay as they are written, because nothing here reckons
with them; keys of a table are text and occur once.
-/

namespace SiteReport

inductive Toml where
  | string (text : String)
  | integer (value : Int)
  | float (numeral : List Char)
  | bool (value : Bool)
  | moment (written : List Char)
  | array (items : List Toml)
  | table (entries : List (String × Toml))
  deriving Inhabited

namespace Toml

/-- A key of several parts, from the outermost table inwards. -/
abbrev Path := List String

/-- One line of a document that says something. -/
inductive Statement where
  /-- The lines that follow fill this table. -/
  | table (path : Path)
  /-- The lines that follow fill a new table at the end of this array. -/
  | element (path : Path)
  | entry (path : Path) (value : Toml)

/-- Neither keys nor nested values go as deep as this. -/
def depthLimit : Nat := 80

end Toml

end SiteReport
