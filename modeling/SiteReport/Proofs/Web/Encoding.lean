import Mathlib.Tactic.IntervalCases
import SiteReport.Web.Url

/-!
Percent-encoding read back. A text in which nothing is encoded yet can be told from its encoding,
whichever characters are encoded.
-/

namespace SiteReport

theorem Text.Hex.value?_upperDigit {n : Nat} (small : n < 16) : value? (upperDigit n) = some n := by
  interval_cases n <;> rfl

namespace Url

/-- The bytes that a percent-encoded text stands for. A percent sign without two digits stands for
itself. -/
def decode : List Char → List UInt8
  | '%' :: high :: low :: rest =>
    match Text.Hex.toBytes? [high, low] with
    | some bytes => bytes ++ decode rest
    | none => String.utf8EncodeChar '%' ++ decode (high :: low :: rest)
  | c :: rest => String.utf8EncodeChar c ++ decode rest
  | [] => []

theorem decode_cons {c : Char} (literal : c ≠ '%') (rest : List Char) :
    decode (c :: rest) = String.utf8EncodeChar c ++ decode rest := by
  rw [decode]
  rintro high low rest rfl
  exact absurd rfl literal

theorem halves_lt (b : UInt8) : b.toNat / 16 < 16 ∧ b.toNat % 16 < 16 := by
  have small := b.toNat_lt
  omega

theorem decode_encodeByte (b : UInt8) (rest : List Char) :
    decode (encodeByte b ++ rest) = b :: decode rest := by
  obtain ⟨high, low⟩ := halves_lt b
  have digits : Text.Hex.toBytes? [Text.Hex.upperDigit (b.toNat / 16),
      Text.Hex.upperDigit (b.toNat % 16)] = some [b] := by
    rw [Text.Hex.toBytes?, Text.Hex.value?_upperDigit high, Text.Hex.value?_upperDigit low]
    show some [UInt8.ofNat (b.toNat / 16 * 16 + b.toNat % 16)] = some [b]
    rw [Nat.div_add_mod', UInt8.ofNat_toNat]
  simp [encodeByte, decode, digits]

theorem decode_encodeChar (c : Char) (rest : List Char) :
    decode (encodeChar c ++ rest) = String.utf8EncodeChar c ++ decode rest := by
  unfold encodeChar
  induction String.utf8EncodeChar c with
  | nil => rfl
  | cons b bytes ih =>
      rw [List.flatMap_cons, List.append_assoc, decode_encodeByte, ih, List.cons_append]

variable {isEncoded : Char → Bool} {cs ds : List Char}

/-- Decoding gives the text back, in UTF-8. -/
theorem decode_encode (literal : '%' ∉ cs) :
    decode (encode isEncoded cs) = cs.flatMap String.utf8EncodeChar := by
  induction cs with
  | nil => rfl
  | cons c rest ih =>
      rw [List.mem_cons, not_or] at literal
      obtain ⟨here, others⟩ := literal
      rw [encode, List.flatMap_cons, List.flatMap_cons]
      split
      · exact (decode_encodeChar c _).trans (congrArg _ (ih others))
      · exact (decode_cons (Ne.symm here) _).trans (congrArg _ (ih others))

theorem flatMap_utf8EncodeChar_inj
    (same : cs.flatMap String.utf8EncodeChar = ds.flatMap String.utf8EncodeChar) : cs = ds := by
  have bytes : cs.utf8Encode = ds.utf8Encode := by rw [List.utf8Encode, List.utf8Encode, same]
  have read := congrArg ByteArray.utf8Decode? bytes
  rw [List.utf8Decode?_utf8Encode, List.utf8Decode?_utf8Encode] at read
  exact List.toArray_inj (Option.some.inj read)

/-- Texts without percent signs can be told from their encodings. -/
theorem encode_inj (literal : '%' ∉ cs) (literal' : '%' ∉ ds)
    (same : encode isEncoded cs = encode isEncoded ds) : cs = ds := by
  have decoded := congrArg decode same
  rw [decode_encode literal, decode_encode literal'] at decoded
  exact flatMap_utf8EncodeChar_inj decoded

/-! ### The characters of an encoding -/

/-- What encodings are written with. -/
def codeChars : List Char :=
  ['%', '0', '1', '2', '3', '4', '5', '6', '7', '8', '9', 'A', 'B', 'C', 'D', 'E', 'F']

theorem mem_encodeChar {c x : Char} (member : x ∈ encodeChar c) : x ∈ codeChars := by
  obtain ⟨b, -, written⟩ := List.mem_flatMap.mp member
  have digit {n : Nat} (small : n < 16) : Text.Hex.upperDigit n ∈ codeChars := by
    interval_cases n <;> decide
  obtain ⟨high, low⟩ := halves_lt b
  rcases List.mem_cons.mp written with rfl | written
  · exact List.mem_cons_self
  · rcases List.mem_cons.mp written with rfl | written
    · exact digit high
    · rw [List.mem_singleton.mp written]
      exact digit low

/-- A character that is encoded, or was not there, is not in the encoding, unless it is one that
encodings are written with. -/
theorem not_mem_encode {x : Char} (other : x ∉ codeChars)
    (gone : isEncoded x = true ∨ x ∉ cs) : x ∉ encode isEncoded cs := by
  intro member
  obtain ⟨c, there, written⟩ := List.mem_flatMap.mp member
  split at written
  · exact other (mem_encodeChar written)
  · rename_i kept
    rw [List.mem_singleton] at written
    subst written
    exact gone.elim kept (fun absent => absent there)

end Url

end SiteReport
