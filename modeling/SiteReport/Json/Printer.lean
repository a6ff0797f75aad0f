import SiteReport.Json.Basic
import SiteReport.Json.Quoted

/-!
Writing JSON, compactly or one entry a line with two spaces for each level, and the builders for
the values that programs write: text, whole numbers and objects with text keys.
-/

namespace SiteReport.Json

def ofText (s : String) : Json := .string (Quoted.escape s.toList)

def ofNat (n : Nat) : Json := .number (Nat.toDigits 10 n)

def ofInt : Int → Json
  | .ofNat n => ofNat n
  | .negSucc n => .number ('-' :: Nat.toDigits 10 (n + 1))

/-- An object with the given fields in their order. -/
def record (fields : List (String × Json)) : Json :=
  .object (fields.map fun (key, v) => (Quoted.escape key.toList, v))

/-- Null where there is nothing. -/
def ofOption {α : Type} (f : α → Json) : Option α → Json
  | some a => f a
  | none => .null

def ofList {α : Type} (f : α → Json) (xs : List α) : Json := .array (xs.map f)

mutual

/-- The compact text of a value, with `k` after it. -/
def put : Json → (k : List Char) → List Char
  | .null, k => 'n' :: 'u' :: 'l' :: 'l' :: k
  | .bool true, k => 't' :: 'r' :: 'u' :: 'e' :: k
  | .bool false, k => 'f' :: 'a' :: 'l' :: 's' :: 'e' :: k
  | .number cs, k => cs ++ k
  | .string cs, k => '"' :: (cs ++ '"' :: k)
  | .array items, k => '[' :: putItems items (']' :: k)
  | .object members, k => '\x7b' :: putMembers members ('\x7d' :: k)

def putItems : List Json → (k : List Char) → List Char
  | [], k => k
  | [v], k => put v k
  | v :: w :: rest, k => put v (',' :: putItems (w :: rest) k)

def putMembers : List (List Char × Json) → (k : List Char) → List Char
  | [], k => k
  | [(key, v)], k => '"' :: (key ++ '"' :: ':' :: put v k)
  | (key, v) :: m :: rest, k =>
    '"' :: (key ++ '"' :: ':' :: put v (',' :: putMembers (m :: rest) k))

end

def compact (v : Json) : String := String.ofList (put v [])

def newLine (level : Nat) (k : List Char) : List Char :=
  '\n' :: (List.replicate (2 * level) ' ' ++ k)

mutual

/-- The text of a value over several lines, with `k` after it. Empty arrays and objects stay on
one line. -/
def putLines (level : Nat) : Json → (k : List Char) → List Char
  | .array [], k => '[' :: ']' :: k
  | .array (v :: rest), k =>
    '[' :: newLine (level + 1) (putItemLines (level + 1) (v :: rest) (newLine level (']' :: k)))
  | .object [], k => '\x7b' :: '\x7d' :: k
  | .object (m :: rest), k =>
    '\x7b' :: newLine (level + 1) (putMemberLines (level + 1) (m :: rest)
      (newLine level ('\x7d' :: k)))
  | .null, k => put .null k
  | .bool b, k => put (.bool b) k
  | .number cs, k => put (.number cs) k
  | .string cs, k => put (.string cs) k

def putItemLines (level : Nat) : List Json → (k : List Char) → List Char
  | [], k => k
  | [v], k => putLines level v k
  | v :: w :: rest, k =>
    putLines level v (',' :: newLine level (putItemLines level (w :: rest) k))

def putMemberLines (level : Nat) : List (List Char × Json) → (k : List Char) → List Char
  | [], k => k
  | [(key, v)], k => '"' :: (key ++ '"' :: ':' :: ' ' :: putLines level v k)
  | (key, v) :: m :: rest, k =>
    '"' :: (key ++ '"' :: ':' :: ' ' :: putLines level v
      (',' :: newLine level (putMemberLines level (m :: rest) k)))

end

def pretty (v : Json) : String := String.ofList (putLines 0 v [])

end SiteReport.Json
