import SiteReport.Json.Parser
import SiteReport.Json.Quoted
import SiteReport.Proofs.Photo.Id

/-!
String literals that were written read back. An escaped text is cut out of a longer text at its own
closing quote, and then says what was escaped.
-/

namespace SiteReport.Json.Quoted

open Text

/-! ### One character -/

theorem text?_plain {c : Char} (direct : c ≠ '\\') (printable : ¬ c.toNat < 0x20)
    (k : List Char) : text? (c :: k) = (text? k).map (c :: ·) := by
  unfold text?
  rw [pieces?.eq_def]
  dsimp only
  rw [if_neg direct]
  cases pieces? k with
  | none => rfl
  | some pieces => exact if_neg printable

theorem text?_short {e c : Char} (known : shortEscape? e = some c) (k : List Char) :
    text? ('\\' :: e :: k) = (text? k).map (c :: ·) := by
  have other : e ≠ 'u' := by
    rintro rfl
    cases known
  unfold text?
  rw [pieces?.eq_def]
  dsimp only
  rw [if_pos rfl, if_neg other, known]
  cases pieces? k <;> rfl

theorem text?_unit {n : Nat} (control : n < 0x20) (k : List Char) :
    text? ('\\' :: 'u' :: (Hex.fixed 4 n ++ k)) = (text? k).map (Char.ofNat n :: ·) := by
  have digits : Hex.read? (Hex.fixed 4 n) 0 = some n := by
    rw [Hex.read?_fixed (by omega)]
    simp
  have lead : isLead n = false := by
    simp [isLead]
    omega
  have trail : isTrail n = false := by
    simp [isTrail]
    omega
  have read : pieces? ('\\' :: 'u' :: (Hex.fixed 4 n ++ k)) =
      (Hex.read? (Hex.fixed 4 n) 0).bind fun n => (pieces? k).map (.unit n :: ·) := by
    rw [pieces?.eq_def]
    simp only [Hex.fixed, List.nil_append, List.cons_append, if_true, Option.bind_eq_bind]
    cases pieces? k <;> rfl
  unfold text?
  rw [read, digits]
  cases pieces? k with
  | none => rfl
  | some pieces =>
      show join? (.unit n :: pieces) = _
      rw [join?.eq_def]
      simp [lead, trail]

/-- A character is written by a short escape, as a unit, or directly. -/
theorem escapeChar_cases (c : Char) :
    (∃ e, shortEscape? e = some c ∧ escapeChar c = ['\\', e]) ∨
    (c.toNat < 0x20 ∧ escapeChar c = '\\' :: 'u' :: Hex.fixed 4 c.toNat) ∨
    (c ≠ '"' ∧ c ≠ '\\' ∧ ¬ c.toNat < 0x20 ∧ escapeChar c = [c]) := by
  by_cases special : c ∈ ['"', '\\', '\n', '\r', '\t', '\x08', '\x0c']
  · left
    simp only [List.mem_cons, List.not_mem_nil, or_false] at special
    rcases special with rfl | rfl | rfl | rfl | rfl | rfl | rfl <;> exact ⟨_, rfl, rfl⟩
  · right
    simp only [List.mem_cons, List.not_mem_nil, or_false, not_or] at special
    obtain ⟨quote, backslash, line, carriage, tab, back, feed⟩ := special
    rw [escapeChar, if_neg quote, if_neg backslash, if_neg line, if_neg carriage, if_neg tab,
      if_neg back, if_neg feed]
    by_cases control : c.toNat < 0x20
    · exact .inl ⟨control, if_pos control⟩
    · exact .inr ⟨quote, backslash, control, if_neg control⟩

theorem text?_escapeChar (c : Char) (k : List Char) :
    text? (escapeChar c ++ k) = (text? k).map (c :: ·) := by
  rcases escapeChar_cases c with ⟨e, known, written⟩ | ⟨control, written⟩ |
    ⟨-, backslash, printable, written⟩
  · rw [written]
    exact text?_short known k
  · have unit := text?_unit control k
    rw [Char.ofNat_toNat] at unit
    rw [written]
    exact unit
  · rw [written]
    exact text?_plain backslash printable k

/-- An escaped text says what was escaped. -/
theorem text?_escape (cs : List Char) : text? (escape cs) = some cs := by
  induction cs with
  | nil => rfl
  | cons c rest ih => rw [escape, text?_escapeChar, ih, Option.map_some]

end SiteReport.Json.Quoted

namespace SiteReport.Json.Parser

open Quoted

/-! ### The closing quote -/

/-- Characters in front of those that a literal is cut out of. -/
def Opened (cs : List Char) : Prop :=
  ∀ k, literal? (cs ++ k) = (literal? k).map fun r => (cs ++ r.1, r.2)

theorem Opened.nil : Opened [] := by
  intro k
  rw [List.nil_append]
  cases literal? k <;> rfl

theorem Opened.append {cs ds : List Char} (first : Opened cs) (second : Opened ds) :
    Opened (cs ++ ds) := by
  intro k
  rw [List.append_assoc, first, second]
  cases literal? k with
  | none => rfl
  | some r => simp

theorem opened_plain {c : Char} (quote : c ≠ '"') (backslash : c ≠ '\\') : Opened [c] := by
  intro k
  rw [List.singleton_append, literal?.eq_def]
  dsimp only
  rw [if_neg quote, if_neg backslash]
  cases literal? k <;> rfl

theorem opened_short (e : Char) : Opened ['\\', e] := by
  intro k
  show literal? ('\\' :: e :: k) = _
  rw [literal?.eq_def]
  dsimp only
  rw [if_neg (by decide), if_pos rfl]
  cases literal? k <;> rfl

theorem opened_fixed (width n : Nat) : Opened (Text.Hex.fixed width n) := by
  have digits : ∀ d < 16, Text.Hex.digit d ≠ '"' ∧ Text.Hex.digit d ≠ '\\' := by decide
  induction width generalizing n with
  | zero => exact .nil
  | succ width ih =>
      obtain ⟨quote, backslash⟩ := digits (n % 16) (Nat.mod_lt n (by decide))
      exact (ih (n / 16)).append (opened_plain quote backslash)

theorem opened_escapeChar (c : Char) : Opened (escapeChar c) := by
  rcases escapeChar_cases c with ⟨e, -, written⟩ | ⟨-, written⟩ | ⟨quote, backslash, -, written⟩
  · rw [written]
    exact opened_short e
  · rw [written]
    exact (opened_short 'u').append (opened_fixed 4 _)
  · rw [written]
    exact opened_plain quote backslash

theorem opened_escape (cs : List Char) : Opened (escape cs) := by
  induction cs with
  | nil => exact .nil
  | cons c rest ih => exact (opened_escapeChar c).append ih

/-- An escaped text ends at the quote that is put behind it. -/
theorem literal?_escape (cs k : List Char) :
    literal? (escape cs ++ '"' :: k) = some (escape cs, k) := by
  have closed : literal? ('"' :: k) = some ([], k) := by
    rw [literal?.eq_def]
    exact if_pos rfl
  rw [opened_escape cs, closed, Option.map_some, List.append_nil]

end SiteReport.Json.Parser
