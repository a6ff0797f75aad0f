import SiteReport.Text.Hex

/-!
String literals of JSON: the escapes that writing uses, and the three ways a literal is read. As
text every escape must make sense and surrogates must come in pairs; as bytes lone surrogates and
raw control characters pass; a literal that nobody reads only has to be free of raw control
characters and of unknown escapes.
-/

namespace SiteReport.Json.Quoted

/-- Quote, backslash and control characters are escaped; all else stands for itself. -/
def escapeChar (c : Char) : List Char :=
  if c = '"' then ['\\', '"']
  else if c = '\\' then ['\\', '\\']
  else if c = '\n' then ['\\', 'n']
  else if c = '\r' then ['\\', 'r']
  else if c = '\t' then ['\\', 't']
  else if c = '\x08' then ['\\', 'b']
  else if c = '\x0c' then ['\\', 'f']
  else if c.toNat < 0x20 then '\\' :: 'u' :: Text.Hex.fixed 4 c.toNat
  else [c]

def escape : List Char → List Char
  | [] => []
  | c :: rest => escapeChar c ++ escape rest

/-- One step of a literal: a character written directly, one written by a short escape, or a
sixteen-bit unit. -/
inductive Piece where
  | plain (c : Char)
  | short (c : Char)
  | unit (n : Nat)

def shortEscape? : Char → Option Char
  | '"' => some '"'
  | '\\' => some '\\'
  | '/' => some '/'
  | 'b' => some '\x08'
  | 'f' => some '\x0c'
  | 'n' => some '\n'
  | 'r' => some '\r'
  | 't' => some '\t'
  | _ => none

def pieces? : List Char → Option (List Piece)
  | [] => some []
  | c :: rest =>
    if c = '\\' then
      match rest with
      | [] => none
      | e :: rest =>
        if e = 'u' then
          match rest with
          | a :: b :: c :: d :: rest => do
            let n ← Text.Hex.read? [a, b, c, d] 0
            let more ← pieces? rest
            some (.unit n :: more)
          | _ => none
        else do
          let c ← shortEscape? e
          let more ← pieces? rest
          some (.short c :: more)
    else do
      let more ← pieces? rest
      some (.plain c :: more)

def isLead (n : Nat) : Bool := 0xD800 ≤ n && n < 0xDC00

def isTrail (n : Nat) : Bool := 0xDC00 ≤ n && n < 0xE000

/-- The code point that a pair of surrogates stands for. -/
def pair (lead trail : Nat) : Nat := 0x10000 + (lead - 0xD800) * 0x400 + (trail - 0xDC00)

def Piece.isControl : Piece → Bool
  | .plain c => c.toNat < 0x20
  | _ => false

def join? : List Piece → Option (List Char)
  | [] => some []
  | .plain c :: more => if c.toNat < 0x20 then none else (join? more).map (c :: ·)
  | .short c :: more => (join? more).map (c :: ·)
  | .unit n :: more =>
    if isLead n then
      match more with
      | .unit t :: more =>
        if isTrail t then (join? more).map (Char.ofNat (pair n t) :: ·) else none
      | _ => none
    else if isTrail n then none
    else (join? more).map (Char.ofNat n :: ·)

/-- Three bytes for a surrogate that stands alone. -/
def loneBytes (n : Nat) : List UInt8 :=
  [UInt8.ofNat (0xE0 + n / 4096), UInt8.ofNat (0x80 + n / 64 % 64), UInt8.ofNat (0x80 + n % 64)]

def joinBytes : List Piece → List UInt8
  | [] => []
  | .plain c :: more => String.utf8EncodeChar c ++ joinBytes more
  | .short c :: more => String.utf8EncodeChar c ++ joinBytes more
  | .unit n :: more =>
    if isLead n then
      match more with
      | .unit t :: rest =>
        if isTrail t then String.utf8EncodeChar (Char.ofNat (pair n t)) ++ joinBytes rest
        else loneBytes n ++ joinBytes (.unit t :: rest)
      | more => loneBytes n ++ joinBytes more
    else if isTrail n then loneBytes n ++ joinBytes more
    else String.utf8EncodeChar (Char.ofNat n) ++ joinBytes more

/-- The literal read as text. -/
def text? (literal : List Char) : Option (List Char) := (pieces? literal).bind join?

/-- The literal read as bytes. -/
def bytes? (literal : List Char) : Option (List UInt8) := (pieces? literal).map joinBytes

/-- What a literal must satisfy that is passed over. -/
def isScannable (literal : List Char) : Bool :=
  match pieces? literal with
  | some pieces => pieces.all (!·.isControl)
  | none => false

end SiteReport.Json.Quoted
