import SiteReport.Json.Basic
import SiteReport.Json.Numeral
import SiteReport.Json.Quoted

/-!
Records and tagged choices as JSON. A record is an object or the array of its fields in order. A
tagged choice is read whole before its tag is looked for, so everything in it has to be readable;
what a record passes over only has to be well formed. `Place` keeps the two situations apart.
-/

namespace SiteReport.Json

/-- Where a value stands. Streamed values are read from the text itself, inside so many arrays and
objects; held values are part of a choice that has been read whole already. -/
inductive Place where
  | streamed (enclosing : Nat)
  | held

/-- The start of the text. -/
def Place.top : Place := .streamed 0

/-- One array or object further in. -/
def Place.inside : Place → Place
  | .streamed n => .streamed (n + 1)
  | .held => .held

/-- No value that is read whole may lie deeper than this. -/
def depthLimit : Nat := 127

/-- Every literal is text, every numeral a number, and nothing is nested too deep. -/
def isWhole (enclosing : Nat) (v : Json) : Bool :=
  enclosing + v.depth ≤ depthLimit
    && v.allLeaves Numeral.isFinite (fun literal => (Quoted.text? literal).isSome)

def Place.admits (place : Place) (v : Json) : Bool :=
  match place with
  | .streamed n => v.isWhole n
  | .held => true

/-- What a value must satisfy that is passed over. -/
def isIgnorable (v : Json) : Bool := v.allLeaves (fun _ => true) Quoted.isScannable

def toText? : Json → Option String
  | .string literal => (Quoted.text? literal).map String.ofList
  | _ => none

/-- A whole number up to `limit`. -/
def toNat? (limit : Nat) : Json → Option Nat
  | .number cs => (Numeral.nat? cs).bind fun n => if n ≤ limit then some n else none
  | _ => none

/-- A whole number between `low` and `high`. -/
def toInt? (low high : Int) : Json → Option Int
  | .number cs => (Numeral.int? cs).bind fun i => if low ≤ i ∧ i ≤ high then some i else none
  | _ => none

/-- A whole number of 32 bits. -/
def toInt32? (v : Json) : Option Int32 :=
  (v.toInt? Int32.minValue.toInt Int32.maxValue.toInt).map Int32.ofInt

def toBool? : Json → Option Bool
  | .bool b => some b
  | _ => none

/-- The items of an array, each read by `item`. -/
def toList? {α : Type} (item : Json → Option α) : Json → Option (List α)
  | .array items => items.mapM item
  | _ => none

/-- Null is nothing; any other value has to be readable. -/
def toOption? {α : Type} (item : Json → Option α) : Json → Option (Option α)
  | .null => some none
  | v => (item v).map some

/-- Bytes as an array of numbers, or as a string that stands for its own bytes. -/
def toBytes? : Json → Option (List UInt8)
  | .string literal => Quoted.bytes? literal
  | .array items => items.mapM fun v => (v.toNat? 255).map UInt8.ofNat
  | _ => none

def ofBytes (bytes : List UInt8) : Json := .array (bytes.map fun b => ofByte b)
where
  ofByte (b : UInt8) : Json := .number (Nat.toDigits 10 b.toNat)

/-- The members with their keys as text. -/
def members? : Json → Option (List (String × Json))
  | .object members => members.mapM fun (key, v) =>
    (Quoted.text? key).map fun key => (String.ofList key, v)
  | _ => none

/-- Puts the members of an object in the order of the field names. A name that occurs twice is
refused, and what is passed over has to be well formed. -/
def pick? (names : List String) (members : List (String × Json)) : Option (List (Option Json)) :=
  if members.all (fun (key, v) => names.contains key || v.isIgnorable) then
    names.mapM fun name =>
      match members.filter (·.1 == name) with
      | [] => some none
      | [(_, v)] => some (some v)
      | _ => none
  else none

/-- The first items of an array as fields, the missing ones being none. -/
def align? : (names : List String) → (items : List Json) → Option (List (Option Json))
  | [], [] => some []
  | [], _ :: _ => none
  | _ :: names, [] => (align? names []).map (none :: ·)
  | _ :: names, v :: items => (align? names items).map (some v :: ·)

/-- The fields of a record, from an object or from an array. -/
def record? (names : List String) : Json → Option (List (Option Json))
  | .array items => align? names items
  | v => (v.members?).bind (pick? names)

/-- The fields of a record that has to be an object. -/
def object? (names : List String) (v : Json) : Option (List (Option Json)) :=
  (v.members?).bind (pick? names)

/-- A field that may be missing. -/
def orElse? {α : Type} (default : α) (item : Json → Option α) : Option Json → Option α
  | none => some default
  | some v => item v

/-- A choice without data: its name, or an object with the name as its only key and null (in a held
value also an empty object). -/
def choice? {α : Type} (place : Place) (ofName? : String → Option α) : Json → Option α
  | .string literal => ((Quoted.text? literal).map String.ofList).bind ofName?
  | .object [(key, v)] => do
    let name ← Quoted.text? key
    match v, place with
    | .null, _ => ofName? (String.ofList name)
    | .object [], .held => ofName? (String.ofList name)
    | _, _ => none
  | _ => none

/-- The tag of a tagged choice: a name, or in a held value the position among `all`. -/
def tag? {α : Type} (place : Place) (ofName? : String → Option α) (all : List α) :
    Json → Option α
  | .string literal => ((Quoted.text? literal).map String.ofList).bind ofName?
  | .number cs =>
    match place with
    | .held => (Numeral.nat? cs).bind fun n => all[n]?
    | .streamed _ => none
  | _ => none

/-- Splits a tagged choice into the value of its tag and the record of the rest. The tag is the
member called `key`, or the first item of the array form. -/
def tagged? (place : Place) (key : String) (v : Json) : Option (Json × Json) :=
  if place.admits v then
    match v with
    | .array (tag :: items) => some (tag, .array items)
    | .object members => do
      let isTag := fun (m : List Char × Json) => Quoted.text? m.1 == some key.toList
      match members.filter isTag with
      | [(_, tag)] => some (tag, .object (members.filter (!isTag ·)))
      | _ => none
    | _ => none
  else none

/-- Entries of a map, a repeated key keeping its first position and its last value. -/
def putEntry {α β : Type} [BEq α] (entries : List (α × β)) (key : α) (value : β) : List (α × β) :=
  if entries.any (·.1 == key) then
    entries.map fun entry => if entry.1 == key then (entry.1, value) else entry
  else entries ++ [(key, value)]

end SiteReport.Json
