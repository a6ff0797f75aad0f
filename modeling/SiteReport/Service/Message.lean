import SiteReport.Service.Client

/-!
Requests and replies as they go over a connection that serves one of each: HTTP/1.1 messages, a
reply's body being given by its length, in chunks, or by the end of the connection.
-/

namespace SiteReport

namespace Request

/-- The server, with the port where it does not go without saying. -/
def hostText (u : Url) : String :=
  u.host ++ if u.port = (if u.secure then 443 else 80) then "" else ":" ++ u.port.repr

def headLines (r : Request) (size : Nat) : List String :=
  [r.method.name ++ " " ++ r.url.target ++ " HTTP/1.1", "host: " ++ hostText r.url,
    "authorization: " ++ r.authorization, "content-type: " ++ r.contentType, "accept: */*",
    "content-length: " ++ size.repr, "connection: close", "", ""]

def message (r : Request) : ByteArray :=
  let body := r.body.toUTF8
  ("\r\n".intercalate (r.headLines body.size)).toUTF8 ++ body

end Request

namespace Reply

/-- The text of bytes. A byte that is no part of a character is replaced. -/
def textOf (bytes : ByteArray) : (steps start : Nat) → List Char
  | 0, _ => []
  | steps + 1, start =>
    if start < bytes.size then
      match bytes.utf8DecodeChar? start with
      | some c => c :: textOf bytes steps (start + c.utf8Size)
      | none => '\uFFFD' :: textOf bytes steps (start + 1)
    else []

/-- A line up to its end, and what follows. -/
def line? : List UInt8 → Option (List Char × List UInt8)
  | [] => none
  | 13 :: 10 :: rest => some ([], rest)
  | b :: rest => (line? rest).map fun (cs, rest) => (Char.ofNat b.toNat :: cs, rest)

/-- The lines of a head up to the empty one, and what follows. -/
def head? : (steps : Nat) → List UInt8 → Option (List (List Char) × List UInt8)
  | 0, _ => none
  | steps + 1, bytes =>
    match line? bytes with
    | none => none
    | some ([], rest) => some ([], rest)
    | some (line, rest) => (head? steps rest).map fun (lines, rest) => (line :: lines, rest)

/-- The three digits after the version. -/
def status? (line : List Char) : Option Nat :=
  let digits := ((line.dropWhile (· ≠ ' ')).drop 1).take 3
  if digits.length = 3 ∧ digits.all Char.isDigit ∧ "HTTP/1.".toList.isPrefixOf line then
    some (Nat.ofDigitChars 10 digits 0)
  else none

/-- The value of a field of the head. -/
def field? (name : String) (lines : List (List Char)) : Option (List Char) :=
  lines.findSome? fun line =>
    if String.ofList ((line.takeWhile (· ≠ ':')).map Char.toLower) = name then
      some (Text.trimEnd (Text.trimStart ((line.dropWhile (· ≠ ':')).drop 1)))
    else none

/-- The size of a chunk, in hexadecimal digits; what follows them does not matter. -/
def chunkSize? (line : List Char) : Option Nat :=
  match line.takeWhile fun c => (Text.Hex.value? c).isSome with
  | [] => none
  | digits => Text.Hex.read? digits 0

def chunks? : (steps : Nat) → List UInt8 → Option (List UInt8)
  | 0, _ => none
  | steps + 1, bytes =>
    match line? bytes with
    | none => none
    | some (line, rest) =>
      match chunkSize? line with
      | none => none
      | some 0 => some []
      | some size =>
        if rest.length < size + 2 then none
        else (chunks? steps (rest.drop (size + 2))).map (rest.take size ++ ·)

def body? (fields : List (List Char)) (bytes : List UInt8) : Option (List UInt8) :=
  match field? "transfer-encoding" fields, field? "content-length" fields with
  | some _, _ => chunks? (bytes.length + 1) bytes
  | none, some digits =>
    if digits ≠ [] ∧ digits.all Char.isDigit then
      let size := Nat.ofDigitChars 10 digits 0
      if bytes.length < size then none else some (bytes.take size)
    else none
  | none, none => some bytes

/-- The reply that came over a connection until it was closed. -/
def ofMessage (bytes : List UInt8) : Reply :=
  match head? (bytes.length + 1) bytes with
  | some (first :: fields, rest) =>
    match status? first with
    | none => .broken
    | some status =>
      if Client.hasBody status then
        match body? fields rest with
        | some body =>
          .answered status (String.ofList (textOf ⟨body.toArray⟩ body.length 0))
        | none => .broken
      else .answered status ""
  | _ => .broken

end Reply

end SiteReport
