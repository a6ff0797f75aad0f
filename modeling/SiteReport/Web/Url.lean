import SiteReport.Text.Hex

/-!
Addresses of web servers, read the way browsers read them: white space around the text and line
ends within it do not count, backslashes count as slashes, dot segments are resolved, and what may
not stand in a path or a query is percent-encoded byte by byte. The fragment is dropped, because
it is never sent.
-/

namespace SiteReport

structure Url where
  secure : Bool
  host : String
  port : Nat
  /-- Path and query, as they stand in a request. -/
  target : String
  deriving DecidableEq

namespace Url

/-- Two hexadecimal digits in upper case behind a percent sign. -/
def encodeByte (b : UInt8) : List Char :=
  ['%', Text.Hex.upperDigit (b.toNat / 16), Text.Hex.upperDigit (b.toNat % 16)]

def encodeChar (c : Char) : List Char := (String.utf8EncodeChar c).flatMap encodeByte

/-- Control characters and everything beyond ASCII are encoded everywhere. -/
def isForeign (c : Char) : Bool := c.toNat < 0x20 || 0x7E < c.toNat

def isEncodedInPath (c : Char) : Bool :=
  isForeign c || [' ', '"', '<', '>', '`', '#', '?', '\x7b', '\x7d'].contains c

def isEncodedInQuery (c : Char) : Bool := isForeign c || [' ', '"', '#', '<', '>', '\''].contains c

def encode (isEncoded : Char → Bool) (cs : List Char) : List Char :=
  cs.flatMap fun c => if isEncoded c then encodeChar c else [c]

def isSlash (c : Char) : Bool := c = '/' || c = '\\'

/-- A dot may be written as a percent sign and its code. -/
def plainDots : List Char → List Char
  | '%' :: '2' :: e :: rest => if e = 'e' ∨ e = 'E' then '.' :: plainDots rest
    else '%' :: '2' :: e :: plainDots rest
  | c :: rest => c :: plainDots rest
  | [] => []

def isDot (segment : List Char) : Bool := plainDots segment == ['.']

def isDoubleDot (segment : List Char) : Bool := plainDots segment == ['.', '.']

/-- One segment more. Two dots take the segment before away, and at the end of a path dots leave an
empty segment. -/
def step (path : List (List Char)) (segment : List Char) (isLast : Bool) : List (List Char) :=
  if isDoubleDot segment then path.dropLast ++ (if isLast then [[]] else [])
  else if isDot segment then path ++ (if isLast then [[]] else [])
  else path ++ [encode isEncodedInPath segment]

/-- The segments of a path, dots resolved. -/
def resolve (path : List (List Char)) : List (List Char) → List (List Char)
  | [] => path
  | [segment] => step path segment true
  | segment :: rest => resolve (step path segment false) rest

/-- The parts between slashes. -/
def splitSlashes : List Char → List (List Char)
  | [] => [[]]
  | c :: rest =>
    match splitSlashes rest with
    | [] => [[c]]
    | part :: more => if isSlash c then [] :: part :: more else (c :: part) :: more

/-- Every segment with a slash in front. -/
def pathText (segments : List (List Char)) : List Char := segments.flatMap ('/' :: ·)

/-- The path and query that a text after the host stands for. -/
def targetOf (cs : List Char) : List Char :=
  let isEnd := fun c => c = '?' || c = '#'
  let path := cs.takeWhile (!isEnd ·)
  let segments := splitSlashes (if path.head?.any isSlash then path.drop 1 else path)
  let query := match cs.dropWhile (!isEnd ·) with
    | '?' :: rest => '?' :: encode isEncodedInQuery (rest.takeWhile (· ≠ '#'))
    | _ => []
  pathText (resolve [] segments) ++ query

/-- The text without what browsers take away before reading it. -/
def tidy (cs : List Char) : List Char :=
  let isBlank := fun (c : Char) => c.toNat ≤ 0x20
  let cs := ((cs.dropWhile isBlank).reverse.dropWhile isBlank).reverse
  cs.filter fun c => !(c = '\t' || c = '\n' || c = '\r')

/-- Does the text begin with the scheme, in any case of letters? Gives what follows the colon. -/
def afterScheme? (scheme : String) (cs : List Char) : Option (List Char) :=
  let name := scheme.toList ++ [':']
  if (cs.take name.length).map Char.toLower = name then some (cs.drop name.length) else none

/-- A part of a numeric host: octal after a zero, hexadecimal after `0x`. -/
def hostNumber? (label : List Char) : Option Nat :=
  let read := fun (base : Nat) (ds : List Char) => ds.foldlM
    (fun n c => (Text.Hex.value? c).bind fun d => if d < base then some (n * base + d) else none) 0
  match label with
  | '0' :: x :: ds => if x = 'x' ∨ x = 'X' then read 16 ds else read 8 (x :: ds)
  | [] => none
  | ds => read 10 ds

/-- The parts between dots, a dot at the end left out. -/
def labels (host : List Char) : List (List Char) :=
  let parts := host.splitOn '.'
  if 1 < parts.length ∧ parts.getLast? = some [] then parts.dropLast else parts

/-- A host whose last part is a number has to be four bytes or fewer numbers for as many. -/
def isNumeric (host : List Char) : Bool :=
  match (labels host).getLast? with
  | some label => (label ≠ [] && label.all Char.isDigit) || (hostNumber? label).isSome
  | none => false

def isAddress (host : List Char) : Bool :=
  let parts := labels host
  match parts.mapM hostNumber? with
  | some ns =>
    ns.length ≤ 4 && ns.dropLast.all (· < 256) && ns.getLast?.all (· < Nat.pow 256 (5 - ns.length))
  | none => false

def isForbiddenInHost (c : Char) : Bool :=
  c.toNat ≤ 0x20 || c.toNat = 0x7F || ['%', '<', '>', '[', ']', '^', '|'].contains c

def isHost (host : List Char) : Bool :=
  match host with
  | [] => false
  | '[' :: rest => rest.getLast? = some ']' && rest.dropLast.all fun c =>
    (Text.Hex.value? c).isSome || c = ':' || c = '.'
  | host => !host.any isForbiddenInHost && (!isNumeric host || isAddress host)

/-- Host and port of what stands between the slashes, the name of a user left out. -/
def splitPort (cs : List Char) : List Char × List Char :=
  match cs with
  | '[' :: _ =>
    let inside := cs.takeWhile (· ≠ ']')
    (inside ++ [']'], cs.drop (inside.length + 1))
  | cs => (cs.takeWhile (· ≠ ':'), cs.dropWhile (· ≠ ':'))

def port? (default : Nat) : List Char → Option Nat
  | [] => some default
  | [':'] => some default
  | ':' :: ds =>
    let n := Nat.ofDigitChars 10 ds 0
    if ds.all Char.isDigit ∧ n < 65536 then some n else none
  | _ => none

/-- What follows the last at-sign. -/
def afterUser (cs : List Char) : List Char :=
  if cs.contains '@' then (cs.reverse.takeWhile (· ≠ '@')).reverse else cs

def ofAuthority? (secure : Bool) (cs : List Char) : Option Url := do
  let cs := cs.dropWhile isSlash
  let isEnd := fun c => isSlash c || c = '?' || c = '#'
  let (host, port) := splitPort (afterUser (cs.takeWhile (!isEnd ·)))
  let port ← port? (if secure then 443 else 80) port
  if isHost host then
    some ⟨secure, String.ofList (host.map Char.toLower), port,
      String.ofList (targetOf (cs.dropWhile (!isEnd ·)))⟩
  else none

/-- Reads an address with the scheme `http` or `https`. -/
def parse? (text : String) : Option Url :=
  let cs := tidy text.toList
  match afterScheme? "http" cs, afterScheme? "https" cs with
  | some rest, _ => ofAuthority? false rest
  | none, some rest => ofAuthority? true rest
  | none, none => none

/-- The address as it is shown; a port that goes without saying is left out. -/
def text (u : Url) : String :=
  let scheme := if u.secure then "https" else "http"
  let port := if u.port = (if u.secure then 443 else 80) then "" else ":" ++ u.port.repr
  scheme ++ "://" ++ u.host ++ port ++ u.target

end Url

end SiteReport
