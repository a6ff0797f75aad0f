/-!
JSON as a tree. Numbers and strings stay as they are written, because what a numeral or a string
literal may say depends on the place that reads it; objects keep their members in order, repeated
keys included.
-/

namespace SiteReport

inductive Json where
  | null
  | bool (value : Bool)
  /-- The characters of the numeral. -/
  | number (numeral : List Char)
  /-- What stands between the quotes, escapes and all. -/
  | string (literal : List Char)
  | array (items : List Json)
  | object (members : List (List Char × Json))
  deriving Inhabited

namespace Json

mutual

/-- How deep arrays and objects are nested; a scalar has depth zero. -/
def depth : Json → Nat
  | .array items => depthItems items + 1
  | .object members => depthMembers members + 1
  | _ => 0

def depthItems : List Json → Nat
  | [] => 0
  | v :: rest => max (depth v) (depthItems rest)

def depthMembers : List (List Char × Json) → Nat
  | [] => 0
  | (_, v) :: rest => max (depth v) (depthMembers rest)

end

mutual

/-- Every numeral, string literal and key of the tree passes its test. -/
def allLeaves (numeral literal : List Char → Bool) : Json → Bool
  | .number cs => numeral cs
  | .string cs => literal cs
  | .array items => allItems numeral literal items
  | .object members => allMembers numeral literal members
  | _ => true

def allItems (numeral literal : List Char → Bool) : List Json → Bool
  | [] => true
  | v :: rest => allLeaves numeral literal v && allItems numeral literal rest

def allMembers (numeral literal : List Char → Bool) : List (List Char × Json) → Bool
  | [] => true
  | (key, v) :: rest =>
    literal key && allLeaves numeral literal v && allMembers numeral literal rest

end

end Json

end SiteReport
