import SiteReport.Json.Record

/-!
The one spelling of a JSON value: every numeral and literal written as a printer would write it, and
every key of an object once.
-/

namespace SiteReport.Json

mutual

/-- The value with every numeral and literal in its one spelling, and every key once: at its first
place, with its last value. -/
def canonical? : Json → Option Json
  | .number cs => (Json.Numeral.canonical? cs).map .number
  | .string literal => (Json.Quoted.text? literal).map fun cs => .string (Json.Quoted.escape cs)
  | .array items => (canonicalItems? items).map .array
  | .object members => (canonicalMembers? members).map fun members =>
    .object (members.foldl (fun done m => Json.putEntry done m.1 m.2) [])
  | v => some v

def canonicalItems? : List Json → Option (List Json)
  | [] => some []
  | v :: rest => do
    let v ← canonical? v
    let rest ← canonicalItems? rest
    some (v :: rest)

def canonicalMembers? : List (List Char × Json) → Option (List (List Char × Json))
  | [] => some []
  | (key, v) :: rest => do
    let key ← Json.Quoted.text? key
    let v ← canonical? v
    let rest ← canonicalMembers? rest
    some ((Json.Quoted.escape key, v) :: rest)

end

end SiteReport.Json
