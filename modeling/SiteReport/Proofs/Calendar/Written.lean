import SiteReport.Calendar.Written
import SiteReport.Proofs.Json.Record

/-!
Dates, times and instants that were written read back: years of any length with their sign,
fractions of a second of every width, and the leap second that is written as the second sixty. Only
a leap second within a minute does not come back, since it is written as the second after it.
-/

namespace SiteReport

theorem Date.of?_self (d : Date) : of? d.year d.month d.day = some d :=
  dif_pos ⟨d.year_mem, d.month_mem, d.day_mem⟩

namespace TimeOfDay

theorem of?_self {t : TimeOfDay} (h : t.OnMinute) :
    of? t.hour t.minute t.second t.nano = some t :=
  dif_pos ⟨t.hour_lt, t.minute_lt, t.second_lt, t.nano_lt, h⟩

/-- The time that the text of a time tells: a leap second within a minute is told as the second
after it. -/
def told (t : TimeOfDay) : TimeOfDay :=
  if h : 1000000000 ≤ t.nano ∧ t.second ≠ 59 then
    { t with
      second := t.second + 1
      nano := t.nano - 1000000000
      second_lt := by
        have := t.second_lt
        omega
      nano_lt := Nat.lt_of_le_of_lt (Nat.sub_le _ _) t.nano_lt }
  else t

theorem told_of_onMinute {t : TimeOfDay} (h : t.OnMinute) : t.told = t :=
  dif_neg fun within => within.2 (h within.1)

theorem told_eq_self_iff {t : TimeOfDay} : t.told = t ↔ t.OnMinute := by
  refine ⟨fun same leap => ?_, told_of_onMinute⟩
  by_contra within
  have later : t.told.second = t.second + 1 := by rw [told, dif_pos ⟨leap, within⟩]
  rw [same] at later
  exact Nat.succ_ne_self _ later.symm

theorem map_told_eq_self_iff {t? : Option TimeOfDay} :
    t?.map (·.told) = t? ↔ ∀ t ∈ t?, t.OnMinute := by
  cases t? with
  | none => simp
  | some t => simp [told_eq_self_iff]

/-- What a text tells lies in no leap second within a minute. -/
theorem onMinute_told (t : TimeOfDay) : t.told.OnMinute := by
  have limit := t.nano_lt
  unfold told
  split
  · intro leap
    dsimp only at leap
    omega
  · rename_i whole
    intro leap
    by_contra within
    exact whole ⟨leap, within⟩

end TimeOfDay

namespace Calendar

variable {k : List Char}

/-! ### Numbers of a fixed width -/

theorem padded_digits (width n : Nat) : ∀ c ∈ padded width n, c.isDigit = true := by
  intro c member
  rcases List.mem_append.mp member with zero | digit
  · rw [List.eq_of_mem_replicate zero]
    rfl
  · exact Text.toDigits_digits n c digit

theorem ofDigitChars_padded (width n : Nat) : Nat.ofDigitChars 10 (padded width n) 0 = n := by
  rw [padded, Nat.ofDigitChars_append, Nat.ofDigitChars_replicate_zero, Nat.mul_zero,
    Nat.ofDigitChars_toDigits (by decide) (by decide)]

theorem length_padded {width n : Nat} (positive : 0 < width) (fits : n < 10 ^ width) :
    (padded width n).length = width := by
  have short := (Nat.length_toDigits_le_iff (by decide : 1 < 10) positive).mpr fits
  rw [padded, List.length_append, List.length_replicate]
  omega

theorem padded_ne_nil (width n : Nat) : padded width n ≠ [] := by
  rw [padded, ne_eq, List.append_eq_nil_iff]
  exact fun empty => Nat.toDigits_ne_nil empty.2

theorem padded_cons (width n : Nat) :
    ∃ d rest, padded width n = d :: rest ∧ d.isDigit = true := by
  cases written : padded width n with
  | nil => exact absurd written (padded_ne_nil width n)
  | cons d rest => exact ⟨d, rest, rfl, padded_digits width n d (by simp [written])⟩

/-- Digits are read up to the next character that is none. -/
theorem digits?_padded {most width n : Nat} (fits : (padded width n).length ≤ most)
    (halts : Text.Halts k) : digits? most (padded width n ++ k) = some (padded width n, k) := by
  rw [digits?, Text.takeWhile_digits (padded_digits width n) halts, List.take_of_length_le fits]
  split
  · rename_i empty
    exact absurd empty (padded_ne_nil width n)
  · rw [List.drop_left]

/-- As many digits as asked for are read, whatever comes after them. -/
theorem digits?_exact {most width n : Nat} (full : (padded width n).length = most) :
    digits? most (padded width n ++ k) = some (padded width n, k) := by
  rw [digits?, List.takeWhile_append_of_pos (padded_digits width n), ← full, List.take_left]
  split
  · rename_i empty
    exact absurd empty (padded_ne_nil width n)
  · rw [List.drop_left]

theorem trimStart_digit {d : Char} (digit : d.isDigit = true) (rest : List Char) :
    Text.trimStart (d :: rest) = d :: rest := by
  have dark : Text.isSpace d = false := by
    simp only [Char.isDigit, Bool.and_eq_true, decide_eq_true_eq, ge_iff_le,
      UInt32.le_iff_toNat_le] at digit
    obtain ⟨low, high⟩ := digit
    change 48 ≤ d.toNat at low
    change d.toNat ≤ 57 at high
    simp only [Text.isSpace, Bool.or_eq_false_iff, Bool.and_eq_false_iff, decide_eq_false_iff_not,
      beq_eq_false_iff_ne]
    omega
  rw [Text.trimStart, List.dropWhile_cons, dark]
  rfl

theorem trimStart_padded (width n : Nat) (k : List Char) :
    Text.trimStart (padded width n ++ k) = padded width n ++ k := by
  obtain ⟨d, rest, written, digit⟩ := padded_cons width n
  rw [written, List.cons_append, trimStart_digit digit]

theorem short?_padded {n : Nat} (fits : n < 100) (k : List Char) :
    short? (padded 2 n ++ k) = some (n, k) := by
  have full : (padded 2 n).length = 2 := length_padded (by decide) fits
  rw [short?, trimStart_padded, digits?_exact full]
  exact congrArg some (Prod.ext (ofDigitChars_padded 2 n) rfl)

/-! ### Years -/

theorem halts_dash (k : List Char) : Text.Halts ('-' :: k) := by
  intro c first
  cases first
  rfl

/-- After a sign the digits may be as many as there are. -/
theorem digits?_year (n : Nat) (k : List Char) :
    digits? (padded 4 n ++ '-' :: k).length (padded 4 n ++ '-' :: k) =
      some (padded 4 n, '-' :: k) := by
  refine digits?_padded ?_ (halts_dash k)
  rw [List.length_append]
  exact Nat.le_add_right _ _

theorem year?_plain {n : Nat} (fits : n < 10 ^ 4) (k : List Char) :
    year? (padded 4 n ++ '-' :: k) = some ((n : Int), '-' :: k) := by
  obtain ⟨d, rest, written, digit⟩ := padded_cons 4 n
  have read : digits? 4 (padded 4 n ++ '-' :: k) = some (padded 4 n, '-' :: k) :=
    digits?_exact (length_padded (by decide) fits)
  unfold year?
  rw [trimStart_padded]
  -- a digit is no sign
  split
  · rename_i minus
    rw [written] at minus
    cases minus
    cases digit
  · rename_i plus
    rw [written] at plus
    cases plus
    cases digit
  · rw [read]
    dsimp only [Option.bind_eq_bind, Option.bind_some]
    rw [ofDigitChars_padded]

theorem year?_minus (n : Nat) (k : List Char) :
    year? ('-' :: (padded 4 n ++ '-' :: k)) = some (-(n : Int), '-' :: k) := by
  show (digits? (padded 4 n ++ '-' :: k).length (padded 4 n ++ '-' :: k)).bind _ = _
  rw [digits?_year, Option.bind_some]
  dsimp only
  rw [ofDigitChars_padded]

theorem year?_plus (n : Nat) (k : List Char) :
    year? ('+' :: (padded 4 n ++ '-' :: k)) = some ((n : Int), '-' :: k) := by
  show (digits? (padded 4 n ++ '-' :: k).length (padded 4 n ++ '-' :: k)).bind _ = _
  rw [digits?_year, Option.bind_some]
  dsimp only
  rw [ofDigitChars_padded]

theorem year?_writeYear (year : Int) (k : List Char) :
    year? (writeYear year ++ '-' :: k) = some (year, '-' :: k) := by
  unfold writeYear
  split
  · rename_i short
    rw [year?_plain (by omega), Int.toNat_of_nonneg short.1]
  · by_cases negative : year < 0
    · rw [if_pos negative, List.cons_append, year?_minus,
        Int.ofNat_natAbs_of_nonpos (Int.le_of_lt negative), Int.neg_neg]
    · rw [if_neg negative, List.cons_append, year?_plus,
        Int.natAbs_of_nonneg (Int.not_lt.mp negative)]

/-! ### Fractions of a second -/

theorem padded_fraction {width n : Nat} (positive : 0 < width) (small : width ≤ 9)
    (fits : n < 10 ^ width) (halts : Text.Halts k) :
    fraction? ('.' :: (padded width n ++ k)) = some (n * Nat.pow 10 (9 - width), k) := by
  have length := length_padded positive fits
  have none : ∀ c ∈ ([] : List Char), c.isDigit = true := nofun
  have all : k.dropWhile Char.isDigit = k := Text.dropWhile_digits none halts
  show (digits? 9 (padded width n ++ k)).bind _ = _
  rw [digits?_padded (by omega) halts, Option.bind_some]
  show some (Nat.ofDigitChars 10 (padded width n) 0 * _, k.dropWhile Char.isDigit) = _
  rw [ofDigitChars_padded, length, all]

/-- Only a point would carry a fraction on. -/
theorem fraction?_writeFraction {nano : Nat} (fits : nano < 1000000000) (halts : Text.Halts k)
    (point : k.head? ≠ some '.') : fraction? (writeFraction nano ++ k) = some (nano, k) := by
  unfold writeFraction
  split
  · rename_i zero
    subst zero
    rw [List.nil_append]
    unfold fraction?
    split
    · exact (point rfl).elim
    · rfl
  split
  · rename_i millis
    have back : nano / 1000000 * Nat.pow 10 (9 - 3) = nano := by
      show nano / 1000000 * 1000000 = nano
      omega
    rw [List.cons_append, padded_fraction (by decide) (by decide) (by omega) halts, back]
  split
  · rename_i micros
    have back : nano / 1000 * Nat.pow 10 (9 - 6) = nano := by
      show nano / 1000 * 1000 = nano
      omega
    rw [List.cons_append, padded_fraction (by decide) (by decide) (by omega) halts, back]
  · have back : nano * Nat.pow 10 (9 - 9) = nano := Nat.mul_one nano
    rw [List.cons_append, padded_fraction (by decide) (by decide) (by omega) halts, back]

/-- A leap second is written as the second after it, which may be the second sixty. -/
def writtenSecond (t : TimeOfDay) : Nat := if 1000000000 ≤ t.nano then t.second + 1 else t.second

theorem writtenSecond_lt (t : TimeOfDay) : writtenSecond t < 100 := by
  have bound := t.second_lt
  unfold writtenSecond
  split <;> omega

theorem timeOf?_written (t : TimeOfDay) :
    timeOf? t.hour t.minute (writtenSecond t) (t.nano % 1000000000) = some t.told := by
  have bound := t.second_lt
  have limit := t.nano_lt
  unfold timeOf? writtenSecond
  by_cases leap : 1000000000 ≤ t.nano
  · rw [if_pos leap]
    by_cases last : t.second = 59
    · have nano : t.nano % 1000000000 + 1000000000 = t.nano := by omega
      have ends : t.OnMinute := fun _ => last
      rw [if_pos (by omega), nano, ← last, TimeOfDay.told_of_onMinute ends,
        TimeOfDay.of?_self ends]
    · have nano : t.nano % 1000000000 = t.nano - 1000000000 := by omega
      have within : t.told.hour = t.hour ∧ t.told.minute = t.minute ∧
          t.told.second = t.second + 1 ∧ t.told.nano = t.nano - 1000000000 := by
        rw [TimeOfDay.told, dif_pos ⟨leap, last⟩]
        exact ⟨rfl, rfl, rfl, rfl⟩
      obtain ⟨hour, minute, second, rest⟩ := within
      rw [if_neg (by omega), nano, ← hour, ← minute, ← second, ← rest]
      exact TimeOfDay.of?_self t.onMinute_told
  · have nano : t.nano % 1000000000 = t.nano := by omega
    have regular : t.OnMinute := fun late => absurd late leap
    rw [if_neg leap, if_neg (by omega), nano, TimeOfDay.told_of_onMinute regular]
    exact TimeOfDay.of?_self regular

/-- No text tells a leap second within a minute. -/
theorem onMinute_of_timeOf? {hour minute second nano : Nat} {t : TimeOfDay}
    (made : timeOf? hour minute second nano = some t) : t.OnMinute := by
  have of_of? : ∀ {second nano}, TimeOfDay.of? hour minute second nano = some t → t.OnMinute := by
    intro second nano made
    unfold TimeOfDay.of? at made
    split at made
    · rename_i fits
      cases made
      exact fits.2.2.2.2
    · cases made
  unfold timeOf? at made
  split at made <;> exact of_of? made

end Calendar

open Calendar

/-! ### Dates and times -/

theorem Date.month_lt (d : Date) : d.month < 100 := by
  have := d.month_mem
  omega

theorem Date.day_lt (d : Date) : d.day < 100 := by
  have most : ∀ month, daysInMonth d.year month ≤ 31 := by
    intro month
    unfold daysInMonth
    repeat' split
    all_goals omega
  have := d.day_mem
  have := most d.month
  omega

theorem expect?_self (c : Char) (k : List Char) : expect? c (c :: k) = some k := if_pos rfl

theorem trimStart_nil : Text.trimStart [] = [] := rfl

theorem trimStart_dash (k : List Char) : Text.trimStart ('-' :: k) = '-' :: k := rfl

theorem trimStart_colon (k : List Char) : Text.trimStart (':' :: k) = ':' :: k := rfl

theorem Date.read?_write (d : Date) : read? d.write = some d := by
  have last : short? (padded 2 d.day) = some (d.day, []) := by
    have read := short?_padded d.day_lt []
    rwa [List.append_nil] at read
  rw [read?, write, year?_writeYear]
  dsimp only [Option.bind_eq_bind, Option.bind_some]
  rw [trimStart_dash, expect?_self, Option.bind_some, short?_padded d.month_lt]
  dsimp only [Option.bind_some]
  rw [trimStart_dash, expect?_self, Option.bind_some, last]
  dsimp only [Option.bind_some]
  rw [if_pos trimStart_nil, d.of?_self]

theorem TimeOfDay.write_eq (t : TimeOfDay) : t.write = padded 2 t.hour ++ ':' ::
    (padded 2 t.minute ++ ':' :: (padded 2 (writtenSecond t) ++
      writeFraction (t.nano % 1000000000))) := rfl

theorem TimeOfDay.hour_small (t : TimeOfDay) : t.hour < 100 := by
  have := t.hour_lt
  omega

theorem TimeOfDay.minute_small (t : TimeOfDay) : t.minute < 100 := by
  have := t.minute_lt
  omega

theorem TimeOfDay.read?_write (t : TimeOfDay) : read? t.write = some t.told := by
  have nano : t.nano % 1000000000 < 1000000000 := Nat.mod_lt _ (by decide)
  have fraction : fraction? (writeFraction (t.nano % 1000000000)) =
      some (t.nano % 1000000000, []) := by
    have read := fraction?_writeFraction (k := []) nano nofun nofun
    rwa [List.append_nil] at read
  rw [read?, write_eq, short?_padded t.hour_small]
  dsimp only [Option.bind_eq_bind, Option.bind_some]
  rw [trimStart_colon, expect?_self, Option.bind_some, short?_padded t.minute_small]
  dsimp only [Option.bind_some]
  rw [trimStart_colon]
  show (short? (padded 2 (writtenSecond t) ++ _)).bind _ = _
  rw [short?_padded (writtenSecond_lt t), Option.bind_some]
  show (fraction? (writeFraction (t.nano % 1000000000))).bind _ = _
  rw [fraction, Option.bind_some]
  show (if Text.trimStart [] = [] then timeOf? _ _ _ _ else none) = _
  rw [if_pos trimStart_nil, timeOf?_written]

theorem TimeOfDay.atMinute_self (t : TimeOfDay) : t.atMinute (t.hour * 60 + t.minute) = t := by
  have hour := t.hour_lt
  have minute := t.minute_lt
  have hours : (t.hour * 60 + t.minute) / 60 % 24 = t.hour := by omega
  have minutes : (t.hour * 60 + t.minute) % 60 = t.minute := by omega
  obtain ⟨_, _, second, nano, _, _, _, _⟩ := t
  simp only [atMinute, hours, minutes]

theorem Timestamp.ofZone?_zero (t : Timestamp) : ofZone? t 0 = some t := by
  have hour := t.time.hour_lt
  have minute := t.time.minute_lt
  have total : ((t.time.hour * 60 + t.time.minute : Nat) : Int) - 0 =
      (t.time.hour * 60 + t.time.minute : Nat) := Int.sub_zero _
  have inDay : (((t.time.hour * 60 + t.time.minute : Nat) : Int) % 1440).toNat =
      t.time.hour * 60 + t.time.minute := by omega
  unfold ofZone?
  dsimp only
  rw [total, if_neg (by omega), if_neg (by omega), inDay, t.time.atMinute_self]
  rfl

namespace Timestamp

/-- The instant that the text of an instant tells. -/
def told (t : Timestamp) : Timestamp := { t with time := t.time.told }

theorem told_eq_self_iff {t : Timestamp} : t.told = t ↔ t.time.OnMinute := by
  obtain ⟨date, time⟩ := t
  rw [told, Timestamp.mk.injEq]
  exact ⟨fun same => TimeOfDay.told_eq_self_iff.mp same.2,
    fun h => ⟨rfl, TimeOfDay.told_of_onMinute h⟩⟩

end Timestamp

theorem Timestamp.read?_write (t : Timestamp) : read? t.write = some t.told := by
  have nano : t.time.nano % 1000000000 < 1000000000 := Nat.mod_lt _ (by decide)
  have fraction : fraction? (writeFraction (t.time.nano % 1000000000) ++ ['Z']) =
      some (t.time.nano % 1000000000, ['Z']) := by
    apply fraction?_writeFraction nano
    · intro c first
      cases first
      rfl
    · decide
  rw [read?, write, Date.write, TimeOfDay.write_eq]
  simp only [List.append_assoc, List.cons_append]
  rw [year?_writeYear]
  dsimp only [Option.bind_eq_bind, Option.bind_some]
  rw [expect?_self, Option.bind_some, short?_padded t.date.month_lt]
  dsimp only [Option.bind_some]
  rw [expect?_self, Option.bind_some, short?_padded t.date.day_lt]
  dsimp only [Option.bind_some]
  rw [t.date.of?_self, Option.bind_some]
  show (short? (padded 2 t.time.hour ++ _)).bind _ = _
  rw [short?_padded t.time.hour_small]
  dsimp only [Option.bind_some]
  rw [expect?_self, Option.bind_some, short?_padded t.time.minute_small]
  dsimp only [Option.bind_some]
  rw [expect?_self, Option.bind_some, short?_padded (writtenSecond_lt t.time)]
  dsimp only [Option.bind_some]
  rw [fraction]
  dsimp only [Option.bind_some]
  rw [timeOf?_written, Option.bind_some]
  show (if Text.trimStart [] = [] then inZone? t.date t.time.told 0 else none) = _
  rw [if_pos trimStart_nil, inZone?, if_pos (by decide)]
  exact t.told.ofZone?_zero

/-! ### As JSON -/

theorem Date.ofJson?_toJson (d : Date) : ofJson? d.toJson = some d := by
  rw [ofJson?, toJson, Json.toText?_ofText, Option.bind_some, text, String.toList_ofList,
    d.read?_write]

theorem TimeOfDay.ofJson?_toJson (t : TimeOfDay) : ofJson? t.toJson = some t.told := by
  rw [ofJson?, toJson, Json.toText?_ofText, Option.bind_some, text, String.toList_ofList,
    t.read?_write]

theorem TimeOfDay.onMinute_of_read? {cs : List Char} {t : TimeOfDay} (read : read? cs = some t) :
    t.OnMinute := by
  simp only [read?, Option.bind_eq_bind, Option.bind_eq_some_iff] at read
  obtain ⟨_, -, _, -, _, -, last⟩ := read
  split at last
  · exact onMinute_of_timeOf? last
  · obtain ⟨second, -, last⟩ := Option.bind_eq_some_iff.mp last
    obtain ⟨nano, -, made⟩ := Option.bind_eq_some_iff.mp last
    split at made
    · exact onMinute_of_timeOf? made
    · cases made
  · cases last

theorem TimeOfDay.onMinute_of_ofJson? {v : Json} {t : TimeOfDay} (read : ofJson? v = some t) :
    t.OnMinute := by
  obtain ⟨s, -, told⟩ := Option.bind_eq_some_iff.mp read
  exact onMinute_of_read? told

/-- A time where there may be none. -/
theorem TimeOfDay.toOption?_toJson (t : TimeOfDay) :
    t.toJson.toOption? ofJson? = some (some t.told) :=
  congrArg (Option.map some) t.ofJson?_toJson

theorem Timestamp.ofJson?_toJson (t : Timestamp) : ofJson? t.toJson = some t.told := by
  rw [ofJson?, toJson, Json.toText?_ofText, Option.bind_some, text, String.toList_ofList,
    t.read?_write]

end SiteReport
