import SiteReport.Json.Basic

/-!
Reading JSON text as a tree. The grammar is the strict one: no comments, no trailing commas, no
leading zeros, and nothing but white space after the value. String literals are only cut out here;
what they say is decided where they are read.
-/

namespace SiteReport.Json.Parser

def isSpace (c : Char) : Bool := c = ' ' || c = '\n' || c = '\t' || c = '\r'

def skip (cs : List Char) : List Char := cs.dropWhile isSpace

/-- The literal up to the closing quote, and what follows the quote. -/
def literal? : List Char → Option (List Char × List Char)
  | [] => none
  | c :: rest =>
    if c = '"' then some ([], rest)
    else if c = '\\' then
      match rest with
      | [] => none
      | e :: rest => do
        let (body, rest) ← literal? rest
        some (c :: e :: body, rest)
    else do
      let (body, rest) ← literal? rest
      some (c :: body, rest)

/-- One digit or more. -/
def digits? (cs : List Char) : Option (List Char × List Char) :=
  match cs.takeWhile Char.isDigit with
  | [] => none
  | ds => some (ds, cs.dropWhile Char.isDigit)

/-- A zero stands alone in front of the point. -/
def whole? : List Char → Option (List Char × List Char)
  | '0' :: rest => some (['0'], rest)
  | cs => digits? cs

def fraction? : List Char → Option (List Char × List Char)
  | '.' :: cs => do
    let (ds, rest) ← digits? cs
    some ('.' :: ds, rest)
  | cs => some ([], cs)

def exponentDigits? (mark : Char) : List Char → Option (List Char × List Char)
  | '+' :: cs => do
    let (ds, rest) ← digits? cs
    some (mark :: '+' :: ds, rest)
  | '-' :: cs => do
    let (ds, rest) ← digits? cs
    some (mark :: '-' :: ds, rest)
  | cs => do
    let (ds, rest) ← digits? cs
    some (mark :: ds, rest)

def exponent? : List Char → Option (List Char × List Char)
  | 'e' :: cs => exponentDigits? 'e' cs
  | 'E' :: cs => exponentDigits? 'E' cs
  | cs => some ([], cs)

def unsigned? (cs : List Char) : Option (List Char × List Char) := do
  let (whole, cs) ← whole? cs
  let (fraction, cs) ← fraction? cs
  let (exponent, cs) ← exponent? cs
  some (whole ++ fraction ++ exponent, cs)

def numeral? : List Char → Option (List Char × List Char)
  | '-' :: cs => do
    let (numeral, rest) ← unsigned? cs
    some ('-' :: numeral, rest)
  | cs => unsigned? cs

mutual

/-- A value and the rest of the text. The fuel bounds the steps; `parse?` gives enough. -/
def value? : (fuel : Nat) → List Char → Option (Json × List Char)
  | 0, _ => none
  | fuel + 1, cs =>
    match skip cs with
    | '"' :: rest => do
      let (body, rest) ← literal? rest
      some (.string body, rest)
    | '[' :: rest => do
      let (items, rest) ← items? fuel rest
      some (.array items, rest)
    | '\x7b' :: rest => do
      let (members, rest) ← members? fuel rest
      some (.object members, rest)
    | 'n' :: 'u' :: 'l' :: 'l' :: rest => some (.null, rest)
    | 't' :: 'r' :: 'u' :: 'e' :: rest => some (.bool true, rest)
    | 'f' :: 'a' :: 'l' :: 's' :: 'e' :: rest => some (.bool false, rest)
    | cs => do
      let (numeral, rest) ← numeral? cs
      some (.number numeral, rest)

/-- The items after the opening bracket. -/
def items? : (fuel : Nat) → List Char → Option (List Json × List Char)
  | 0, _ => none
  | fuel + 1, cs =>
    match skip cs with
    | ']' :: rest => some ([], rest)
    | cs => moreItems? fuel cs

/-- One item at least. -/
def moreItems? : (fuel : Nat) → List Char → Option (List Json × List Char)
  | 0, _ => none
  | fuel + 1, cs => do
    let (v, cs) ← value? fuel cs
    match skip cs with
    | ',' :: cs => do
      let (items, rest) ← moreItems? fuel cs
      some (v :: items, rest)
    | ']' :: rest => some ([v], rest)
    | _ => none

/-- The members after the opening brace. -/
def members? : (fuel : Nat) → List Char → Option (List (List Char × Json) × List Char)
  | 0, _ => none
  | fuel + 1, cs =>
    match skip cs with
    | '\x7d' :: rest => some ([], rest)
    | cs => moreMembers? fuel cs

/-- One member at least. -/
def moreMembers? : (fuel : Nat) → List Char → Option (List (List Char × Json) × List Char)
  | 0, _ => none
  | fuel + 1, cs =>
    match skip cs with
    | '"' :: cs => do
      let (key, cs) ← literal? cs
      match skip cs with
      | ':' :: cs => do
        let (v, cs) ← value? fuel cs
        match skip cs with
        | ',' :: cs => do
          let (members, rest) ← moreMembers? fuel cs
          some ((key, v) :: members, rest)
        | '\x7d' :: rest => some ([(key, v)], rest)
        | _ => none
      | _ => none
    | _ => none

end

/-- The whole text is one value. Three steps for each character are more than enough. -/
def parse? (cs : List Char) : Option Json := do
  let (v, rest) ← value? (3 * cs.length + 3) cs
  if skip rest = [] then some v else none

end SiteReport.Json.Parser

namespace SiteReport.Json

def parse? (s : String) : Option Json := Parser.parse? s.toList

end SiteReport.Json
