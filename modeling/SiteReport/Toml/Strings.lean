import SiteReport.Text.Hex

/-!
The four kinds of TOML strings: between quotes with escapes, between apostrophes without, and each
of the two over several lines. Each reader takes what follows the opening mark, and gives the text
and the rest of the document.
-/

namespace SiteReport.Toml.Strings

/-- Characters that may stand in a comment, and in a string if they have no meaning of their own. -/
def isPlain (c : Char) : Bool := c = '\t' || (0x20 ≤ c.toNat && c.toNat ≠ 0x7F)

/-- A line end, with a carriage return in front or not. -/
def newline? : List Char → Option (List Char)
  | '\n' :: rest => some rest
  | '\r' :: '\n' :: rest => some rest
  | _ => none

/-- The code point of so many hexadecimal digits, if it is that of a character. -/
def codePoint? (digits : Nat) (cs : List Char) : Option (Char × List Char) := do
  let ds := cs.take digits
  if ds.length = digits then
    let n ← Text.Hex.read? ds 0
    if n < 0xD800 ∨ (0xDFFF < n ∧ n < 0x110000) then some (Char.ofNat n, cs.drop digits) else none
  else none

/-- What follows a backslash, except a line end. -/
def escape? : List Char → Option (Char × List Char)
  | 'b' :: rest => some ('\x08', rest)
  | 'f' :: rest => some ('\x0c', rest)
  | 'n' :: rest => some ('\n', rest)
  | 'r' :: rest => some ('\r', rest)
  | 't' :: rest => some ('\t', rest)
  | '"' :: rest => some ('"', rest)
  | '\\' :: rest => some ('\\', rest)
  | 'u' :: rest => codePoint? 4 rest
  | 'U' :: rest => codePoint? 8 rest
  | _ => none

/-- One line between quotes. -/
def basic? : (steps : Nat) → List Char → Option (List Char × List Char)
  | 0, _ => none
  | steps + 1, cs =>
    match cs with
    | [] => none
    | '"' :: rest => some ([], rest)
    | '\\' :: rest => do
      let (c, rest) ← escape? rest
      let (text, rest) ← basic? steps rest
      some (c :: text, rest)
    | c :: rest =>
      if isPlain c then (basic? steps rest).map fun (text, rest) => (c :: text, rest) else none

/-- One line between apostrophes. -/
def literal? : List Char → Option (List Char × List Char)
  | [] => none
  | '\'' :: rest => some ([], rest)
  | c :: rest =>
    if isPlain c then (literal? rest).map fun (text, rest) => (c :: text, rest) else none

/-- A run of marks: fewer than three stand for themselves, three close the string, and up to two
more belong to it. Gives the marks of the text, and whether the string is closed after so many. -/
def closing (marks : Nat) : Nat × Option Nat :=
  if marks < 3 then (marks, none) else (min marks 5 - 3, some (min marks 5))

/-- White space and line ends after a backslash at the end of a line. -/
def isGap (c : Char) : Bool := c = ' ' || c = '\t' || c = '\n' || c = '\r'

/-- Passes over a gap, in which carriage returns stand in front of line feeds only. -/
def skipGap : List Char → Option (List Char)
  | '\r' :: '\n' :: rest => skipGap rest
  | '\r' :: _ => none
  | c :: rest => if isGap c then skipGap rest else some (c :: rest)
  | [] => some []

/-- Several lines between three marks each. Only quotes know escapes. -/
def lines? (mark : Char) : (steps : Nat) → List Char → Option (List Char × List Char)
  | 0, _ => none
  | steps + 1, cs =>
    match cs with
    | [] => none
    | c :: rest =>
      if c = mark then
        let marks := (cs.takeWhile (· = mark)).length
        match closing marks with
        | (kept, some taken) => some (List.replicate kept mark, cs.drop taken)
        | (kept, none) => (lines? mark steps (cs.drop marks)).map fun (text, rest) =>
          (List.replicate kept mark ++ text, rest)
      else if c = '\\' ∧ mark = '"' then
        match newline? (rest.dropWhile fun c => c = ' ' || c = '\t') with
        | some rest => do
          let rest ← skipGap rest
          lines? mark steps rest
        | none => do
          let (c, rest) ← escape? rest
          let (text, rest) ← lines? mark steps rest
          some (c :: text, rest)
      else
        match newline? cs with
        | some rest => (lines? mark steps rest).map fun (text, rest) => ('\n' :: text, rest)
        | none =>
          if isPlain c then
            (lines? mark steps rest).map fun (text, rest) => (c :: text, rest)
          else none

/-- A line end right after the opening marks is left out. -/
def opened (cs : List Char) : List Char := (newline? cs).getD cs

/-- A string of one line. -/
def line? (cs : List Char) : Option (String × List Char) :=
  match cs with
  | '"' :: rest => (basic? cs.length rest).map fun (text, rest) => (String.ofList text, rest)
  | '\'' :: rest => (literal? rest).map fun (text, rest) => (String.ofList text, rest)
  | _ => none

/-- A string of any kind. -/
def read? (cs : List Char) : Option (String × List Char) :=
  match cs with
  | '"' :: '"' :: '"' :: rest =>
    (lines? '"' cs.length (opened rest)).map fun (text, rest) => (String.ofList text, rest)
  | '\'' :: '\'' :: '\'' :: rest =>
    (lines? '\'' cs.length (opened rest)).map fun (text, rest) => (String.ofList text, rest)
  | cs => line? cs

end SiteReport.Toml.Strings
