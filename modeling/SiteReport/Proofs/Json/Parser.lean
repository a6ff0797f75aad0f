import SiteReport.Json.Printer
import SiteReport.Proofs.Json.Printer
import SiteReport.Proofs.Json.Quoted
import SiteReport.Proofs.Text.Digits

/-!
A value that was built and printed is parsed as that value. What comes after the value must not
carry it on, so it is the end of the text or a mark that follows a value in an array or an object.
-/

namespace SiteReport.Json

/-- Values as programs build them. -/
inductive Built : Json → Prop where
  | null : Built .null
  | bool (b : Bool) : Built (.bool b)
  | nat (n : Nat) : Built (.ofNat n)
  | text (s : String) : Built (.ofText s)
  | array {items : List Json} (each : ∀ v ∈ items, Built v) : Built (.array items)
  | record {fields : List (String × Json)} (each : ∀ field ∈ fields, Built field.2) :
      Built (.record fields)

namespace Parser

/-- The end of the text, or a mark that no value goes on with. -/
def Ends (k : List Char) : Prop := ∀ c ∈ k.head?, c = ',' ∨ c = ']' ∨ c = '\x7d'

/-- The printed value is parsed, with three steps for each of its characters. -/
def Reads (v : Json) : Prop :=
  ∀ fuel k, Ends k → 3 * (put v k).length ≤ fuel + 3 * k.length →
    value? fuel (put v k) = some (v, k)

/-! ### One step -/

theorem skip_cons {c : Char} (dark : isSpace c = false) (k : List Char) :
    skip (c :: k) = c :: k := by
  rw [skip, List.dropWhile_cons, dark]
  rfl

theorem value?_string (fuel : Nat) (rest : List Char) :
    value? (fuel + 1) ('"' :: rest) = (literal? rest).map fun r => (.string r.1, r.2) := by
  rw [value?, skip_cons rfl]
  show (literal? rest).bind (fun r => some (Json.string r.1, r.2)) = _
  cases literal? rest <;> rfl

theorem value?_array (fuel : Nat) (rest : List Char) :
    value? (fuel + 1) ('[' :: rest) = (items? fuel rest).map fun r => (.array r.1, r.2) := by
  rw [value?, skip_cons rfl]
  show (items? fuel rest).bind (fun r => some (Json.array r.1, r.2)) = _
  cases items? fuel rest <;> rfl

theorem value?_object (fuel : Nat) (rest : List Char) :
    value? (fuel + 1) ('\x7b' :: rest) = (members? fuel rest).map fun r => (.object r.1, r.2) := by
  rw [value?, skip_cons rfl]
  show (members? fuel rest).bind (fun r => some (Json.object r.1, r.2)) = _
  cases members? fuel rest <;> rfl

theorem isSpace_digit {d : Char} (digit : d.isDigit = true) : isSpace d = false := by
  cases space : isSpace d with
  | false => rfl
  | true =>
      simp only [isSpace, Bool.or_eq_true, decide_eq_true_eq] at space
      rcases space with ((rfl | rfl) | rfl) | rfl <;> cases digit

theorem value?_digit (fuel : Nat) {d : Char} (digit : d.isDigit = true) (rest : List Char) :
    value? (fuel + 1) (d :: rest) = (numeral? (d :: rest)).map fun r => (.number r.1, r.2) := by
  rw [value?, skip_cons (isSpace_digit digit)]
  -- no digit opens a value of another kind
  split
  case h_7 => cases numeral? (d :: rest) <;> rfl
  all_goals
    rename_i opened
    cases opened
    cases digit

theorem items?_nil (fuel : Nat) (k : List Char) :
    items? (fuel + 1) (']' :: k) = some ([], k) := by
  rw [items?, skip_cons rfl]
  rfl

theorem items?_cons (fuel : Nat) {c : Char} (dark : isSpace c = false) (other : c ≠ ']')
    (k : List Char) : items? (fuel + 1) (c :: k) = moreItems? fuel (c :: k) := by
  rw [items?, skip_cons dark]
  split
  · rename_i closed
    cases closed
    exact absurd rfl other
  · rfl

theorem moreItems?_last {fuel : Nat} {cs k : List Char} {v : Json}
    (read : value? fuel cs = some (v, ']' :: k)) : moreItems? (fuel + 1) cs = some ([v], k) := by
  rw [moreItems?, read]
  dsimp only [Option.bind_eq_bind, Option.bind_some]
  rw [skip_cons rfl]
  rfl

theorem moreItems?_more {fuel : Nat} {cs k : List Char} {v : Json}
    (read : value? fuel cs = some (v, ',' :: k)) :
    moreItems? (fuel + 1) cs = (moreItems? fuel k).map fun r => (v :: r.1, r.2) := by
  rw [moreItems?, read]
  dsimp only [Option.bind_eq_bind, Option.bind_some]
  rw [skip_cons rfl]
  show (moreItems? fuel k).bind (fun r => some (v :: r.1, r.2)) = _
  cases moreItems? fuel k <;> rfl

theorem members?_nil (fuel : Nat) (k : List Char) :
    members? (fuel + 1) ('\x7d' :: k) = some ([], k) := by
  rw [members?, skip_cons rfl]
  rfl

theorem members?_cons (fuel : Nat) (k : List Char) :
    members? (fuel + 1) ('"' :: k) = moreMembers? fuel ('"' :: k) := by
  rw [members?, skip_cons rfl]
  rfl

theorem moreMembers?_last {fuel : Nat} {cs k : List Char} {v : Json} (key : List Char)
    (read : value? fuel cs = some (v, '\x7d' :: k)) :
    moreMembers? (fuel + 1) ('"' :: (Quoted.escape key ++ '"' :: ':' :: cs)) =
      some ([(Quoted.escape key, v)], k) := by
  rw [moreMembers?, skip_cons rfl]
  show (literal? (Quoted.escape key ++ '"' :: ':' :: cs)).bind _ = _
  rw [literal?_escape, Option.bind_some]
  dsimp only
  rw [skip_cons rfl]
  show (value? fuel cs).bind _ = _
  rw [read, Option.bind_some]
  dsimp only
  rw [skip_cons rfl]
  rfl

theorem moreMembers?_more {fuel : Nat} {cs k : List Char} {v : Json} (key : List Char)
    (read : value? fuel cs = some (v, ',' :: k)) :
    moreMembers? (fuel + 1) ('"' :: (Quoted.escape key ++ '"' :: ':' :: cs)) =
      (moreMembers? fuel k).map fun r => ((Quoted.escape key, v) :: r.1, r.2) := by
  rw [moreMembers?, skip_cons rfl]
  show (literal? (Quoted.escape key ++ '"' :: ':' :: cs)).bind _ = _
  rw [literal?_escape, Option.bind_some]
  dsimp only
  rw [skip_cons rfl]
  show (value? fuel cs).bind _ = _
  rw [read, Option.bind_some]
  dsimp only
  rw [skip_cons rfl]
  show (moreMembers? fuel k).bind (fun r => some ((Quoted.escape key, v) :: r.1, r.2)) = _
  cases moreMembers? fuel k <;> rfl

/-! ### Numerals -/

theorem Ends.halts {k : List Char} (ends : Ends k) : Text.Halts k := by
  intro c first
  rcases ends c first with rfl | rfl | rfl <;> rfl

theorem digits?_append {ds k : List Char} (some' : ds ≠ [])
    (digits : ∀ c ∈ ds, c.isDigit = true) (halts : Text.Halts k) :
    digits? (ds ++ k) = some (ds, k) := by
  rw [digits?, Text.takeWhile_digits digits halts, Text.dropWhile_digits digits halts]
  cases ds with
  | nil => exact absurd rfl some'
  | cons d rest => rfl

theorem whole?_toDigits (n : Nat) {k : List Char} (halts : Text.Halts k) :
    whole? (Nat.toDigits 10 n ++ k) = some (Nat.toDigits 10 n, k) := by
  have taken := digits?_append Nat.toDigits_ne_nil (Text.toDigits_digits n) halts
  rcases Nat.eq_zero_or_pos n with rfl | positive
  · rfl
  · obtain ⟨d, rest, written, other⟩ := Text.toDigits_head positive
    rw [written] at taken ⊢
    rw [List.cons_append] at taken ⊢
    unfold whole?
    split
    · rename_i zero
      cases zero
      exact absurd rfl other
    · exact taken

theorem numeral?_toDigits (n : Nat) {k : List Char} (ends : Ends k) :
    numeral? (Nat.toDigits 10 n ++ k) = some (Nat.toDigits 10 n, k) := by
  have fraction : fraction? k = some ([], k) := by
    unfold fraction?
    split
    · rename_i point
      rcases ends '.' rfl with h | h | h <;> cases h
    · rfl
  have exponent : exponent? k = some ([], k) := by
    unfold exponent?
    split
    · rcases ends 'e' rfl with h | h | h <;> cases h
    · rcases ends 'E' rfl with h | h | h <;> cases h
    · rfl
  have unsigned : unsigned? (Nat.toDigits 10 n ++ k) = some (Nat.toDigits 10 n, k) := by
    rw [unsigned?, whole?_toDigits n ends.halts]
    dsimp only [Option.bind_eq_bind, Option.bind_some]
    rw [fraction]
    dsimp only [Option.bind_some]
    rw [exponent]
    simp
  unfold numeral?
  split
  · rename_i minus
    obtain ⟨d, rest, written, digit⟩ := Text.toDigits_cons n
    rw [written] at minus
    cases minus
    cases digit
  · exact unsigned

/-! ### Values -/

/-- The first character of a value that was built. -/
theorem put_opens {v : Json} (built : Built v) (k : List Char) :
    ∃ c rest, put v k = c :: rest ∧ isSpace c = false ∧ c ≠ ']' := by
  cases built with
  | null => exact ⟨'n', _, rfl, rfl, by decide⟩
  | bool b => cases b with
    | true => exact ⟨'t', _, rfl, rfl, by decide⟩
    | false => exact ⟨'f', _, rfl, rfl, by decide⟩
  | nat n =>
      obtain ⟨d, rest, written, digit⟩ := Text.toDigits_cons n
      refine ⟨d, rest ++ k, ?_, isSpace_digit digit, ?_⟩
      · rw [ofNat, put, written, List.cons_append]
      · rintro rfl
        cases digit
  | text s => exact ⟨'"', _, rfl, rfl, by decide⟩
  | array each => exact ⟨'[', _, rfl, rfl, by decide⟩
  | record each => exact ⟨'\x7b', _, rfl, rfl, by decide⟩

theorem ends_comma (k : List Char) : Ends (',' :: k) := by
  intro c first
  cases first
  exact .inl rfl

theorem ends_bracket (k : List Char) : Ends (']' :: k) := by
  intro c first
  cases first
  exact .inr (.inl rfl)

theorem ends_brace (k : List Char) : Ends ('\x7d' :: k) := by
  intro c first
  cases first
  exact .inr (.inr rfl)

theorem length_le_put (v : Json) (k : List Char) : k.length ≤ (put v k).length :=
  (suffix_put v k).length_le

theorem moreItems?_put {items : List Json} (some' : items ≠ []) (each : ∀ v ∈ items, Reads v)
    {fuel : Nat} {k : List Char}
    (enough : 3 * (putItems items (']' :: k)).length + 1 ≤ fuel + 3 * k.length) :
    moreItems? fuel (putItems items (']' :: k)) = some (items, k) := by
  induction items generalizing fuel with
  | nil => exact absurd rfl some'
  | cons v rest ih =>
      have longer := (suffix_putItems (v :: rest) (']' :: k)).length_le
      rw [List.length_cons] at longer
      obtain ⟨fuel, rfl⟩ : ∃ f, fuel = f + 1 := ⟨fuel - 1, by omega⟩
      have reads := each v List.mem_cons_self
      cases rest with
      | nil =>
          rw [putItems] at enough ⊢
          refine moreItems?_last (reads fuel _ (ends_bracket k) ?_)
          rw [List.length_cons]
          omega
      | cons w rest =>
          rw [putItems] at enough ⊢
          have first := length_le_put v (',' :: putItems (w :: rest) (']' :: k))
          have later := (suffix_putItems (w :: rest) (']' :: k)).length_le
          rw [List.length_cons] at first later
          have value := reads fuel (',' :: putItems (w :: rest) (']' :: k)) (ends_comma _) (by
            rw [List.length_cons]
            omega)
          have others :
              moreItems? fuel (putItems (w :: rest) (']' :: k)) = some (w :: rest, k) := by
            apply ih (List.cons_ne_nil w rest)
            · exact fun u member => each u (List.mem_cons_of_mem v member)
            · omega
          rw [moreItems?_more value, others]
          rfl

theorem moreMembers?_put {members : List (List Char × Json)} (some' : members ≠ [])
    (each : ∀ m ∈ members, (∃ key, m.1 = Quoted.escape key) ∧ Reads m.2) {fuel : Nat}
    {k : List Char}
    (enough : 3 * (putMembers members ('\x7d' :: k)).length + 1 ≤ fuel + 3 * k.length) :
    moreMembers? fuel (putMembers members ('\x7d' :: k)) = some (members, k) := by
  induction members generalizing fuel with
  | nil => exact absurd rfl some'
  | cons m rest ih =>
      have longer := (suffix_putMembers (m :: rest) ('\x7d' :: k)).length_le
      rw [List.length_cons] at longer
      obtain ⟨fuel, rfl⟩ : ∃ f, fuel = f + 1 := ⟨fuel - 1, by omega⟩
      obtain ⟨name, v⟩ := m
      obtain ⟨⟨key, written⟩, reads⟩ := each (name, v) List.mem_cons_self
      dsimp only at written reads
      subst written
      cases rest with
      | nil =>
          simp only [putMembers, List.length_cons, List.length_append] at enough ⊢
          apply moreMembers?_last key
          apply reads fuel _ (ends_brace k)
          rw [List.length_cons]
          omega
      | cons m rest =>
          simp only [putMembers, List.length_cons, List.length_append] at enough ⊢
          have first := length_le_put v (',' :: putMembers (m :: rest) ('\x7d' :: k))
          have later := (suffix_putMembers (m :: rest) ('\x7d' :: k)).length_le
          rw [List.length_cons] at first later
          have value := reads fuel (',' :: putMembers (m :: rest) ('\x7d' :: k)) (ends_comma _) (by
            rw [List.length_cons]
            omega)
          have others : moreMembers? fuel (putMembers (m :: rest) ('\x7d' :: k)) =
              some (m :: rest, k) := by
            apply ih (List.cons_ne_nil m rest)
            · exact fun n member => each n (List.mem_cons_of_mem _ member)
            · omega
          rw [moreMembers?_more key value, others]
          rfl

theorem reads_array {items : List Json} (built : ∀ v ∈ items, Built v)
    (each : ∀ v ∈ items, Reads v) : Reads (.array items) := by
  intro fuel k ends enough
  have inner := (suffix_putItems items (']' :: k)).length_le
  rw [put, List.length_cons] at enough
  rw [List.length_cons] at inner
  obtain ⟨fuel, rfl⟩ : ∃ f, fuel = f + 2 := ⟨fuel - 2, by omega⟩
  rw [put, value?_array]
  cases items with
  | nil => rw [putItems, items?_nil, Option.map_some]
  | cons v rest =>
      have listed : moreItems? fuel (putItems (v :: rest) (']' :: k)) = some (v :: rest, k) := by
        apply moreItems?_put (List.cons_ne_nil v rest) each
        omega
      have opens : ∃ c cs, putItems (v :: rest) (']' :: k) = c :: cs ∧ isSpace c = false ∧
          c ≠ ']' := by
        cases rest with
        | nil => exact put_opens (built v List.mem_cons_self) _
        | cons w rest => exact put_opens (built v List.mem_cons_self) _
      obtain ⟨c, cs, starts, dark, other⟩ := opens
      rw [starts] at listed ⊢
      rw [items?_cons fuel dark other, listed, Option.map_some]

theorem reads_object {members : List (List Char × Json)}
    (each : ∀ m ∈ members, (∃ key, m.1 = Quoted.escape key) ∧ Reads m.2) :
    Reads (.object members) := by
  intro fuel k ends enough
  have inner := (suffix_putMembers members ('\x7d' :: k)).length_le
  rw [put, List.length_cons] at enough
  rw [List.length_cons] at inner
  obtain ⟨fuel, rfl⟩ : ∃ f, fuel = f + 2 := ⟨fuel - 2, by omega⟩
  rw [put, value?_object]
  cases members with
  | nil => rw [putMembers, members?_nil, Option.map_some]
  | cons m rest =>
      have listed : moreMembers? fuel (putMembers (m :: rest) ('\x7d' :: k)) =
          some (m :: rest, k) := by
        apply moreMembers?_put (List.cons_ne_nil m rest) each
        omega
      have opens : ∃ cs, putMembers (m :: rest) ('\x7d' :: k) = '"' :: cs := by
        obtain ⟨key, v⟩ := m
        cases rest with
        | nil => exact ⟨_, rfl⟩
        | cons n rest => exact ⟨_, rfl⟩
      obtain ⟨cs, starts⟩ := opens
      rw [starts] at listed ⊢
      rw [members?_cons, listed, Option.map_some]

theorem reads_of_built {v : Json} (built : Built v) : Reads v := by
  have step {v : Json} {k : List Char} {fuel : Nat} (some' : k.length < (put v k).length)
      (enough : 3 * (put v k).length ≤ fuel + 3 * k.length) : ∃ f, fuel = f + 1 :=
    ⟨fuel - 1, by omega⟩
  induction built with
  | null =>
      intro fuel k ends enough
      obtain ⟨fuel, rfl⟩ := step (by simp [put]; omega) enough
      rfl
  | bool b =>
      intro fuel k ends enough
      obtain ⟨fuel, rfl⟩ := step (by cases b <;> simp [put] <;> omega) enough
      cases b <;> rfl
  | nat n =>
      intro fuel k ends enough
      obtain ⟨d, rest, written, digit⟩ := Text.toDigits_cons n
      have longer : k.length < (put (.ofNat n) k).length := by
        rw [ofNat, put, written, List.cons_append, List.length_cons, List.length_append]
        omega
      obtain ⟨fuel, rfl⟩ := step longer enough
      have numeral := numeral?_toDigits n ends
      rw [ofNat, put, written, List.cons_append, value?_digit fuel digit]
      rw [written, List.cons_append] at numeral
      rw [numeral, Option.map_some]
  | text s =>
      intro fuel k ends enough
      obtain ⟨fuel, rfl⟩ := step (by simp [ofText, put]; omega) enough
      rw [ofText, put, value?_string, literal?_escape, Option.map_some]
  | array each ih => exact reads_array each ih
  | record each ih =>
      apply reads_object
      intro m member
      obtain ⟨field, inside, rfl⟩ := List.mem_map.mp member
      exact ⟨⟨_, rfl⟩, ih field inside⟩

end Parser

/-- What was built and printed is parsed. -/
theorem parse?_compact {v : Json} (built : Built v) : Json.parse? v.compact = some v := by
  have read := Parser.reads_of_built built (3 * (put v []).length + 3) [] nofun (by
    rw [List.length_nil]
    omega)
  rw [Json.parse?, compact, String.toList_ofList, Parser.parse?, read]
  rfl

end SiteReport.Json
