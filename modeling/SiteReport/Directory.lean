import SiteReport.Document.Header
import SiteReport.Json.Canonical
import SiteReport.Json.Parser
import SiteReport.Json.Printer
import SiteReport.Service.Error
import SiteReport.Text.Blank

/-!
The directory of stores. An entry has an identifier, a name and whatever else the directory tells;
the directory lists its entries in the order of their identifiers.
-/

namespace SiteReport

structure DirectoryEntry where
  id : String
  name : String
  /-- Other fields in their order, each with a value of one spelling. -/
  extra : List (String × Json) := []

namespace DirectoryEntry

def ofJson? (v : Json) : Option DirectoryEntry := do
  if v.isWhole 0 then
    let members ← v.members?
    match members.filter (·.1 == "id"), members.filter (·.1 == "name") with
    | [(_, id)], [(_, name)] => do
      let id ← id.toText?
      let name ← name.toText?
      let others := members.filter fun m => m.1 != "id" && m.1 != "name"
      let extra ← others.mapM fun m => m.2.canonical?.map (m.1, ·)
      some { id, name, extra := extra.foldl (fun done m => Json.putEntry done m.1 m.2) [] }
    | _, _ => none
  else none

def toJson (e : DirectoryEntry) : Json :=
  .record ([("id", .ofText e.id), ("name", .ofText e.name)] ++ e.extra)

/-- Another field, if it is there and a text. -/
def text? (e : DirectoryEntry) (key : String) : Option String :=
  (e.extra.lookup key).bind Json.toText?

/-- The header for a report on the store. -/
def applyTo (e : DirectoryEntry) (h : Header) : Header :=
  { h with storeId := e.id, storeName := e.name, brand := (e.text? "brand").getD h.brand }

end DirectoryEntry

structure Directory where
  entries : List DirectoryEntry := []

namespace Directory

def place (e : DirectoryEntry) : List DirectoryEntry → List DirectoryEntry
  | [] => [e]
  | f :: rest =>
    if e.id = f.id then e :: rest
    else if e.id < f.id then e :: f :: rest
    else f :: place e rest

/-- Adds an entry, in the place of the one with its identifier if there is one. -/
def insert (d : Directory) (e : DirectoryEntry) : Directory := ⟨place e d.entries⟩

def ofList (entries : List DirectoryEntry) : Directory := entries.foldl insert {}

def find? (d : Directory) (id : String) : Option DirectoryEntry := d.entries.find? (·.id == id)

/-- Looks a store up, white space around its identifier left out. -/
def findStore (d : Directory) (id : String) : Except ServiceError DirectoryEntry :=
  match d.find? (Text.trim id) with
  | some e => .ok e
  | none => .error (.notFound ("store " ++ Text.trim id))

/-- A directory as a JSON array of entries. -/
def parse? (text : String) : Option Directory := do
  let v ← Json.parse? text
  let entries ← v.toList? fun e => if e.isWhole 1 then DirectoryEntry.ofJson? e else none
  some (ofList entries)

end Directory

end SiteReport
