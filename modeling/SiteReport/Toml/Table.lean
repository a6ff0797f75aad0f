import SiteReport.Toml.Basic

/-!
Tables under construction. A table remembers how it came about, because that decides what may still
be added to it: a table with a header of its own is finished by the next header, a table that only
lies on the way to another one can still get a header, and a table made by dotted keys takes more
dotted keys, but no header.
-/

namespace SiteReport.Toml

inductive Origin where
  | header
  | implied
  | dotted
  deriving DecidableEq

inductive Node where
  | value (v : Toml)
  | table (origin : Origin) (entries : List (String × Node))
  /-- Tables that were begun one by one, the last one still open. -/
  | tables (items : List (List (String × Node)))

abbrev Entries := List (String × Node)

namespace Entries

/-- Replaces the node under a key that is there. -/
def replace (es : Entries) (key : String) (node : Node) : Entries :=
  es.map fun e => if e.1 = key then (key, node) else e

/-- The tables with the last one changed. -/
def changeLast? (f : Entries → Option Entries) : List Entries → Option (List Entries)
  | [] => none
  | [es] => (f es).map fun es => [es]
  | es :: e :: rest => (changeLast? f (e :: rest)).map (es :: ·)

/-- Changes the entries of the table under a key that lies on the way of a header; a table that is
not there yet is implied. -/
def below? (es : Entries) (key : String) (f : Entries → Option Entries) : Option Entries :=
  match es.lookup key with
  | none => (f []).map fun sub => es ++ [(key, .table .implied sub)]
  | some (.table origin sub) => (f sub).map fun sub => es.replace key (.table origin sub)
  | some (.tables items) => (changeLast? f items).map fun items => es.replace key (.tables items)
  | some (.value _) => none

/-- Begins the table of a header. One that was implied so far keeps its entries. -/
def openTable? : Path → Entries → Option Entries
  | [], _ => none
  | [key], es =>
    match es.lookup key with
    | none => some (es ++ [(key, .table .header [])])
    | some (.table .implied sub) => some (es.replace key (.table .header sub))
    | some _ => none
  | key :: rest, es => es.below? key (openTable? rest)

/-- Begins a new table in an array of tables. -/
def openElement? : Path → Entries → Option Entries
  | [], _ => none
  | [key], es =>
    match es.lookup key with
    | none => some (es ++ [(key, .tables [[]])])
    | some (.tables items) => some (es.replace key (.tables (items ++ [[]])))
    | some _ => none
  | key :: rest, es => es.below? key (openElement? rest)

/-- Puts a value under a dotted key. The key leads through tables without a header only, and ends
in one that dotted keys have made; `mayEnd` says whether the present table is the right one to end
in. No key is given twice. -/
def put? (value : Toml) : (mayEnd : Bool) → Path → Entries → Option Entries
  | _, [], _ => none
  | mayEnd, [key], es =>
    match mayEnd, es.lookup key with
    | true, none => some (es ++ [(key, .value value)])
    | _, _ => none
  | _, key :: rest, es =>
    match es.lookup key with
    | none => (put? value true rest []).map fun sub => es ++ [(key, .table .dotted sub)]
    | some (.table .header _) => none
    | some (.table origin sub) =>
      (put? value (origin == .dotted) rest sub).map fun sub => es.replace key (.table origin sub)
    | some (.tables items) =>
      (changeLast? (put? value false rest) items).map fun items => es.replace key (.tables items)
    | some (.value _) => none

/-- Puts a value into the table that a header began. -/
def putBelow? (value : Toml) (path : Path) : (header : Path) → Entries → Option Entries
  | [], es => put? value true path es
  | key :: rest, es => es.below? key (putBelow? value path rest)

end Entries

mutual

/-- The finished value. -/
def Node.finish : Node → Toml
  | .value v => v
  | .table _ entries => .table (finishEntries entries)
  | .tables items => .array (finishTables items)

def finishEntries : List (String × Node) → List (String × Toml)
  | [] => []
  | (key, node) :: rest => (key, node.finish) :: finishEntries rest

def finishTables : List (List (String × Node)) → List Toml
  | [] => []
  | entries :: rest => .table (finishEntries entries) :: finishTables rest

end

/-- The entries of a document, with the header under which the next lines stand. -/
structure Draft where
  header : Path := []
  entries : Entries := []

def Draft.add? (d : Draft) : Statement → Option Draft
  | .table path => (Entries.openTable? path d.entries).map (⟨path, ·⟩)
  | .element path => (Entries.openElement? path d.entries).map (⟨path, ·⟩)
  | .entry path value => (Entries.putBelow? value path d.header d.entries).map (⟨d.header, ·⟩)

/-- The table of a whole document. -/
def ofStatements? (statements : List Statement) : Option Toml :=
  (statements.foldlM Draft.add? {}).map fun d => .table (finishEntries d.entries)

/-- An inline table. -/
def ofPairs? (pairs : List (Path × Toml)) : Option Toml :=
  ((pairs.foldlM fun es p => Entries.put? p.2 true p.1 es) ([] : Entries)).map fun es =>
    .table (finishEntries es)

end SiteReport.Toml
