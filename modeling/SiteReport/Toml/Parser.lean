import SiteReport.Toml.Number
import SiteReport.Toml.Strings
import SiteReport.Toml.Table

/-!
Reading TOML. A document is a list of statements, one a line; its tables are put together from them.
-/

namespace SiteReport.Toml.Parser

def isBlank (c : Char) : Bool := c = ' ' || c = '\t'

def skip (cs : List Char) : List Char := cs.dropWhile isBlank

/-- Passes over a comment, if there is one. -/
def skipComment : List Char → List Char
  | '#' :: rest => rest.dropWhile Strings.isPlain
  | cs => cs

/-- The end of a line or of the document. -/
def lineEnd? : List Char → Option (List Char)
  | [] => some []
  | cs => Strings.newline? cs

/-- What may follow a statement on its line. -/
def endOfStatement? (cs : List Char) : Option (List Char) := lineEnd? (skipComment (skip cs))

def isBareKey (c : Char) : Bool := c.isAlphanum || c = '_' || c = '-'

/-- One part of a key. -/
def keyPart? (cs : List Char) : Option (String × List Char) :=
  match cs.takeWhile isBareKey with
  | [] => Strings.line? cs
  | part => some (String.ofList part, cs.dropWhile isBareKey)

/-- A key with its dots, white space around each part passed over. -/
def path? : (steps : Nat) → List Char → Option (Path × List Char)
  | 0, _ => none
  | steps + 1, cs => do
    let (part, cs) ← keyPart? (skip cs)
    match skip cs with
    | '.' :: rest => do
      let (path, rest) ← path? steps rest
      some (part :: path, rest)
    | rest => some ([part], rest)

/-- A key of a depth within the limit. -/
def key? (cs : List Char) : Option (Path × List Char) := path? (depthLimit - 1) cs

/-- White space, line ends and comments between the items of an array. -/
def skipLines : (steps : Nat) → List Char → List Char
  | 0, cs => cs
  | steps + 1, cs =>
    let cs := skip cs
    match Strings.newline? (skipComment cs) with
    | some rest => skipLines steps rest
    | none => cs

mutual

/-- A value. The fuel bounds the steps, and `room` the arrays and tables that may still be opened. -/
def value? : (fuel room : Nat) → List Char → Option (Toml × List Char)
  | 0, _, _ => none
  | fuel + 1, room, cs =>
    match cs, room with
    | 't' :: 'r' :: 'u' :: 'e' :: rest, _ => some (.bool true, rest)
    | 'f' :: 'a' :: 'l' :: 's' :: 'e' :: rest, _ => some (.bool false, rest)
    | '[' :: rest, room + 1 => (items? fuel room rest).map fun (xs, rest) => (.array xs, rest)
    | '\x7b' :: rest, room + 1 => do
      let (pairs, rest) ← pairs? fuel room rest
      some (← ofPairs? pairs, rest)
    | cs, _ =>
      match Strings.read? cs with
      | some (s, rest) => some (.string s, rest)
      | none => Number.read? cs

/-- The items of an array, of which the last may be followed by a comma. -/
def items? : (fuel room : Nat) → List Char → Option (List Toml × List Char)
  | 0, _, _ => none
  | fuel + 1, room, cs =>
    match skipLines cs.length cs with
    | ']' :: rest => some ([], rest)
    | cs => do
      let (v, cs) ← value? fuel room cs
      match skipLines cs.length cs with
      | ',' :: rest => do
        let (vs, rest) ← items? fuel room rest
        some (v :: vs, rest)
      | ']' :: rest => some ([v], rest)
      | _ => none

/-- The pairs of an inline table, all on one line. -/
def pairs? : (fuel room : Nat) → List Char → Option (List (Path × Toml) × List Char)
  | 0, _, _ => none
  | fuel + 1, room, cs =>
    match skip cs with
    | '\x7d' :: rest => some ([], rest)
    | cs => morePairs? fuel room cs

/-- One pair at least. -/
def morePairs? : (fuel room : Nat) → List Char → Option (List (Path × Toml) × List Char)
  | 0, _, _ => none
  | fuel + 1, room, cs => do
    let (path, v, cs) ← pair? fuel room cs
    match skip cs with
    | ',' :: rest => do
      let (more, rest) ← morePairs? fuel room rest
      some ((path, v) :: more, rest)
    | '\x7d' :: rest => some ([(path, v)], rest)
    | _ => none

/-- A key, an equals sign and a value. -/
def pair? : (fuel room : Nat) → List Char → Option (Path × Toml × List Char)
  | 0, _, _ => none
  | fuel + 1, room, cs => do
    let (path, cs) ← key? cs
    match cs with
    | '=' :: cs => do
      let (v, rest) ← value? fuel room (skip cs)
      some (path, v, rest)
    | _ => none

end

/-- The statement at the start of a line, without what follows it. -/
def statement? (cs : List Char) : Option (Statement × List Char) :=
  match cs with
  | '[' :: '[' :: cs => do
    let (path, cs) ← key? cs
    match cs with
    | ']' :: ']' :: rest => some (.element path, rest)
    | _ => none
  | '[' :: cs => do
    let (path, cs) ← key? cs
    match cs with
    | ']' :: rest => some (.table path, rest)
    | _ => none
  | cs => do
    let (path, v, rest) ← pair? (3 * cs.length + 3) (depthLimit - 1) cs
    some (.entry path v, rest)

/-- All statements, with empty lines and comments between them. -/
def statements? : (steps : Nat) → List Char → Option (List Statement)
  | 0, _ => none
  | steps + 1, cs =>
    match skip cs with
    | [] => some []
    | cs =>
      match endOfStatement? cs with
      | some rest => statements? steps rest
      | none => do
        let (s, cs) ← statement? cs
        let rest ← endOfStatement? cs
        let more ← statements? steps rest
        some (s :: more)

/-- A mark of the byte order at the start is passed over. -/
def withoutMark : List Char → List Char
  | c :: rest => if c.toNat = 0xFEFF then rest else c :: rest
  | [] => []

end Parser

def parse? (text : String) : Option Toml := do
  let cs := Parser.withoutMark text.toList
  ofStatements? (← Parser.statements? (cs.length + 1) cs)

end SiteReport.Toml
