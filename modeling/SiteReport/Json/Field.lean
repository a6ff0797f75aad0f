import SiteReport.Json.Record

/-!
Fields of an object read one at a time. Null counts as missing, other keys do not matter, and of a
repeated key the first one counts.
-/

namespace SiteReport.Json

/-- The value under a key, unless it is null. -/
def field? (v : Json) (key : String) : Option Json :=
  match v with
  | .object members =>
    match members.find? fun m => Quoted.text? m.1 == some key.toList with
    | some (_, .null) => none
    | some (_, w) => some w
    | none => none
  | _ => none

/-- The value under a key, read by `item`. -/
def fieldAs? {α : Type} (v : Json) (key : String) (item : Json → Option α) : Option α :=
  (v.field? key).bind item

def textAt? (v : Json) (key : String) : Option String := v.fieldAs? key toText?

/-- A whole number of any size. -/
def intAt? (v : Json) (key : String) : Option Int :=
  v.fieldAs? key fun
    | .number cs => Numeral.int? cs
    | _ => none

def natAt? (v : Json) (key : String) : Option Nat :=
  match v.intAt? key with
  | some (.ofNat n) => some n
  | _ => none

/-- The items of an array; none where there is no array. -/
def itemsAt (v : Json) (key : String) : List Json :=
  match v.field? key with
  | some (.array items) => items
  | _ => []

/-- The members of an object with keys of any name. -/
def membersAt (v : Json) (key : String) : List (String × Json) :=
  (v.fieldAs? key members?).getD []

end SiteReport.Json
