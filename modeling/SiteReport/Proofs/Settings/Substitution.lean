import Mathlib.Algebra.Order.BigOperators.Group.List
import Mathlib.Algebra.Order.Group.Nat
import Mathlib.Data.List.Pairwise
import SiteReport.Settings.File

/-!
What the environment makes of a settings file. A text is cut at its dollars, and each piece takes
the first variable whose name it begins with. So the settings do not depend on the order of the
variables exactly where those that fit a piece fill it alike, as long as no value brings in another
variable and no name runs on into the next piece.
-/

namespace SiteReport

/-! ### One variable -/

theorem Settings.replaceAll_eq_of_lt {first : Char} {others value : List Char} {steps more : Nat}
    {cs : List Char} (enough : cs.length < steps) (also : cs.length < more) :
    replaceAll first others value steps cs = replaceAll first others value more cs := by
  induction steps generalizing cs more with
  | zero => omega
  | succ steps ih =>
      cases more with
      | zero => omega
      | succ more =>
          cases cs with
          | nil => rfl
          | cons c rest =>
              have dropped : (rest.drop others.length).length ≤ rest.length := by simp
              simp only [List.length_cons] at enough also
              have behind : replaceAll first others value steps (rest.drop others.length) =
                  replaceAll first others value more (rest.drop others.length) :=
                ih (by omega) (by omega)
              have next : replaceAll first others value steps rest =
                  replaceAll first others value more rest := ih (by omega) (by omega)
              simp only [replaceAll]
              rw [behind, next]

namespace Variable

/-- One variable put in wherever it stands. -/
def put (v : Variable) (cs : List Char) : List Char :=
  Settings.replaceAll '$' v.name.toList v.value.toList (cs.length + 1) cs

/-- The name stands at the beginning of what follows a dollar. -/
def Fits (v : Variable) (piece : List Char) : Prop :=
  v.name.toList <+: piece

instance (v : Variable) (piece : List Char) : Decidable (v.Fits piece) :=
  inferInstanceAs (Decidable (v.name.toList <+: piece))

def fill (v : Variable) (piece : List Char) : List Char :=
  v.value.toList ++ piece.drop v.name.toList.length

variable {v : Variable} {c : Char} {cs piece rest : List Char}

theorem put_cons_of_ne (other : c ≠ '$') : v.put (c :: rest) = c :: v.put rest := by
  simp only [put, List.length_cons, Settings.replaceAll, other, false_and, if_false]

theorem put_dollar_of_fits (fits : v.Fits rest) :
    v.put ('$' :: rest) = v.value.toList ++ v.put (rest.drop v.name.toList.length) := by
  have starts : v.name.toList.isPrefixOf rest = true := List.isPrefixOf_iff_prefix.mpr fits
  have dropped : (rest.drop v.name.toList.length).length ≤ rest.length := by simp
  simp only [put, List.length_cons]
  rw [Settings.replaceAll, if_pos ⟨rfl, starts⟩]
  exact congrArg _ (Settings.replaceAll_eq_of_lt (by omega) (by omega))

theorem put_dollar_of_not_fits (misses : ¬ v.Fits rest) :
    v.put ('$' :: rest) = '$' :: v.put rest := by
  have starts : ¬ ('$' = '$' ∧ v.name.toList.isPrefixOf rest = true) :=
    fun h => misses (List.isPrefixOf_iff_prefix.mp h.2)
  simp only [put, List.length_cons]
  rw [Settings.replaceAll, if_neg starts]

/-- Text without a dollar stays as it is. -/
theorem put_append_of_plain (plain : '$' ∉ cs) : v.put (cs ++ rest) = cs ++ v.put rest := by
  induction cs with
  | nil => rfl
  | cons c cs ih =>
      obtain ⟨other, more⟩ := not_or.mp (mt List.mem_cons.mpr plain)
      rw [List.cons_append, put_cons_of_ne (Ne.symm other), ih more, List.cons_append]

theorem fits_append (fits : v.Fits (piece ++ rest)) :
    v.Fits piece ∨ piece <+: v.name.toList :=
  List.prefix_or_prefix_of_prefix fits (List.prefix_append piece rest)

theorem put_piece_of_fits (plain : '$' ∉ piece) (fits : v.Fits piece) :
    v.put ('$' :: piece ++ rest) = v.fill piece ++ v.put rest := by
  have starts : v.Fits (piece ++ rest) := fits.trans (List.prefix_append piece rest)
  have left : '$' ∉ piece.drop v.name.toList.length := fun h => plain (List.mem_of_mem_drop h)
  rw [List.cons_append, put_dollar_of_fits starts, List.drop_append_of_le_length fits.length_le,
    put_append_of_plain left, fill, List.append_assoc]

theorem put_piece_of_not_fits (plain : '$' ∉ piece) (misses : ¬ v.Fits (piece ++ rest)) :
    v.put ('$' :: piece ++ rest) = '$' :: piece ++ v.put rest := by
  rw [List.cons_append, put_dollar_of_not_fits misses, put_append_of_plain plain, List.cons_append]

end Variable

/-! ### A text in pieces -/

namespace Settings

/-- What stands before the first dollar, and what follows each of them. -/
def pieces : List Char → List Char × List (List Char)
  | [] => ([], [])
  | c :: cs =>
    if c = '$' then ([], (pieces cs).1 :: (pieces cs).2) else (c :: (pieces cs).1, (pieces cs).2)

theorem pieces_join (cs : List Char) :
    (pieces cs).1 ++ (pieces cs).2.flatMap ('$' :: ·) = cs := by
  induction cs with
  | nil => rfl
  | cons c cs ih =>
      unfold pieces
      split
      · rename_i dollar
        simp only [List.nil_append, List.flatMap_cons, List.cons_append, ih, dollar]
      · simp only [List.cons_append, ih]

theorem pieces_plain (cs : List Char) :
    '$' ∉ (pieces cs).1 ∧ ∀ piece ∈ (pieces cs).2, '$' ∉ piece := by
  induction cs with
  | nil => exact ⟨List.not_mem_nil, fun _ none => absurd none List.not_mem_nil⟩
  | cons c cs ih =>
      unfold pieces
      split
      · exact ⟨List.not_mem_nil, List.forall_mem_cons.mpr ih⟩
      · rename_i other
        exact ⟨List.not_mem_cons_of_ne_of_not_mem (Ne.symm other) ih.1, ih.2⟩

/-- The first variable that fits is put in. -/
def filled (environment : List Variable) (piece : List Char) : List Char :=
  match environment.find? fun v => v.Fits piece with
  | some v => v.fill piece
  | none => '$' :: piece

/-- No dollar of a text begins the name of a variable, whatever comes after the text. -/
def Inert (v : Variable) (cs : List Char) : Prop :=
  ∀ piece ∈ (pieces cs).2, ¬ v.Fits piece ∧ ¬ piece <+: v.name.toList

instance (v : Variable) (cs : List Char) : Decidable (Inert v cs) :=
  inferInstanceAs (Decidable (∀ piece ∈ (pieces cs).2, ¬ v.Fits piece ∧ ¬ piece <+: v.name.toList))

/-- Variables that do not meddle with one another's values, nor with two pieces at a time. -/
structure Apart (environment : List Variable) (ps : List (List Char)) : Prop where
  inert : ∀ piece ∈ ps, ∀ v ∈ environment, v.Fits piece →
    ∀ w ∈ environment, Inert w (v.fill piece)
  within : ∀ piece ∈ ps.dropLast, ∀ v ∈ environment, piece <+: v.name.toList → v.Fits piece

/-- Variables that fit one piece fill it alike. -/
def Agree (environment : List Variable) (ps : List (List Char)) : Prop :=
  ∀ piece ∈ ps, ∀ v ∈ environment, ∀ w ∈ environment, v.Fits piece → w.Fits piece →
    v.fill piece = w.fill piece

variable {v : Variable} {environment known : List Variable} {cs piece rest : List Char}
  {ps : List (List Char)}

theorem put_pieces_of_misses (h : ∀ piece ∈ ps, '$' ∉ piece ∧ ¬ v.Fits piece ∧
      ¬ piece <+: v.name.toList) :
    v.put (ps.flatMap ('$' :: ·) ++ rest) = ps.flatMap ('$' :: ·) ++ v.put rest := by
  induction ps with
  | nil => rfl
  | cons piece ps ih =>
      obtain ⟨⟨plain, misses, short⟩, more⟩ := List.forall_mem_cons.mp h
      have missed : ¬ v.Fits (piece ++ (ps.flatMap ('$' :: ·) ++ rest)) :=
        fun fits => (Variable.fits_append fits).elim misses short
      rw [List.flatMap_cons, List.append_assoc, Variable.put_piece_of_not_fits plain missed, ih more,
        List.append_assoc]

theorem Inert.put_append (h : Inert v cs) : v.put (cs ++ rest) = cs ++ v.put rest := by
  obtain ⟨head, tail⟩ := pieces_plain cs
  have stays : v.put ((pieces cs).2.flatMap ('$' :: ·) ++ rest) =
      (pieces cs).2.flatMap ('$' :: ·) ++ v.put rest :=
    put_pieces_of_misses fun p hp => ⟨tail p hp, h p hp⟩
  calc v.put (cs ++ rest)
      = v.put ((pieces cs).1 ++ ((pieces cs).2.flatMap ('$' :: ·) ++ rest)) := by
        rw [← List.append_assoc, pieces_join]
    _ = (pieces cs).1 ++ ((pieces cs).2.flatMap ('$' :: ·) ++ v.put rest) := by
        rw [Variable.put_append_of_plain head, stays]
    _ = cs ++ v.put rest := by rw [← List.append_assoc, pieces_join]

theorem fits_of_find?_eq_some {u : Variable}
    (found : (known.find? fun v => v.Fits piece) = some u) : u.Fits piece := by
  simpa using List.find?_some found

theorem filled_of_find?_eq_some {u : Variable}
    (found : (known.find? fun v => v.Fits piece) = some u) : filled known piece = u.fill piece := by
  rw [filled, found]

theorem filled_of_find?_eq_none (none : (known.find? fun v => v.Fits piece) = none) :
    filled known piece = '$' :: piece := by
  rw [filled, none]

theorem Apart.tail (h : Apart environment (piece :: ps)) : Apart environment ps where
  inert p hp := h.inert p (List.mem_cons_of_mem _ hp)
  within p hp := by
    cases ps with
    | nil => cases hp
    | cons q ps => exact h.within p (List.mem_cons_of_mem _ hp)

/-- A variable that does not fit a piece does not fit it with what comes after, either. -/
theorem Apart.not_fits_append (h : Apart environment (piece :: ps)) (mem : v ∈ environment)
    (misses : ¬ v.Fits piece) : ¬ v.Fits (piece ++ ps.flatMap (filled known)) := by
  intro fits
  -- Nothing comes after the last piece, and no name runs on past the others.
  cases ps with
  | nil =>
      rw [List.flatMap_nil, List.append_nil] at fits
      exact misses fits
  | cons q ps =>
      rcases Variable.fits_append fits with whole | short
      · exact misses whole
      · exact misses (h.within piece List.mem_cons_self v mem short)

/-- One more variable acts on the pieces that are still to be filled. -/
theorem Apart.put_filled (h : Apart environment ps) (plain : ∀ piece ∈ ps, '$' ∉ piece)
    (known_mem : ∀ u ∈ known, u ∈ environment) (mem : v ∈ environment) :
    v.put (ps.flatMap (filled known)) = ps.flatMap (filled (known ++ [v])) := by
  induction ps with
  | nil => rfl
  | cons piece ps ih =>
      obtain ⟨bare, later⟩ := List.forall_mem_cons.mp plain
      have rest := ih h.tail later
      -- A piece that is filled already holds nothing for the variable, since values are inert.
      rw [List.flatMap_cons, List.flatMap_cons, ← rest]
      cases found : known.find? fun u => u.Fits piece with
      | some u =>
          have inert := h.inert piece List.mem_cons_self u
            (known_mem u (List.mem_of_find?_eq_some found)) (fits_of_find?_eq_some found) v mem
          have still : ((known ++ [v]).find? fun u => u.Fits piece) = some u := by
            rw [List.find?_append, found, Option.some_or]
          rw [filled_of_find?_eq_some found, filled_of_find?_eq_some still, inert.put_append]
      | none =>
          rw [filled_of_find?_eq_none found]
          by_cases fits : v.Fits piece
          · have now : ((known ++ [v]).find? fun u => u.Fits piece) = some v := by
              simp [List.find?_append, found, fits]
            rw [filled_of_find?_eq_some now, Variable.put_piece_of_fits bare fits]
          · have still : ((known ++ [v]).find? fun u => u.Fits piece) = none := by
              simp [List.find?_append, found, fits]
            rw [filled_of_find?_eq_none still,
              Variable.put_piece_of_not_fits bare (h.not_fits_append mem fits)]

/-- Over the variables one after another, with those that were put in so far. -/
theorem Apart.foldl_put (h : Apart environment ps) (plain : ∀ piece ∈ ps, '$' ∉ piece)
    {head : List Char} (bare : '$' ∉ head) (more : List Variable)
    (mem : ∀ u ∈ known ++ more, u ∈ environment) :
    more.foldl (fun cs v => v.put cs) (head ++ ps.flatMap (filled known)) =
      head ++ ps.flatMap (filled (known ++ more)) := by
  induction more generalizing known with
  | nil => rw [List.foldl_nil, List.append_nil]
  | cons v more ih =>
      have step := h.put_filled plain (fun u hu => mem u (List.mem_append_left _ hu))
        (mem v (List.mem_append_right _ List.mem_cons_self))
      have split : known ++ v :: more = (known ++ [v]) ++ more := by simp
      rw [List.foldl_cons, Variable.put_append_of_plain bare, step, split]
      exact ih fun u hu => mem u (split ▸ hu)

/-- What is put in, for every order of the variables. -/
theorem substitute_of_apart {text : String} (h : Apart environment (pieces text.toList).2)
    {ordered : List Variable} (same : ordered.Perm environment) :
    substitute ordered text = String.ofList ((pieces text.toList).1 ++
      (pieces text.toList).2.flatMap (filled ordered)) := by
  obtain ⟨head, tail⟩ := pieces_plain text.toList
  have known : ∀ u ∈ [] ++ ordered, u ∈ environment := fun u hu => same.subset hu
  have run := h.foldl_put tail head ordered known
  have begun : (pieces text.toList).1 ++ (pieces text.toList).2.flatMap (filled []) = text.toList :=
    pieces_join text.toList
  rw [begun, List.nil_append] at run
  exact congrArg String.ofList run

/-! ### Two orders -/

theorem filled_cons (v : Variable) (environment : List Variable) (piece : List Char) :
    filled (v :: environment) piece =
      if v.Fits piece then v.fill piece else filled environment piece := by
  unfold filled
  by_cases fits : v.Fits piece <;> simp [fits]

/-- If the parts of two texts lie in order by their lengths, equal texts have equal parts. -/
theorem eq_of_flatMap_eq {α β : Type} {f g : α → List β} {xs : List α}
    (shorter : ∀ x ∈ xs, (f x).length ≤ (g x).length) (same : xs.flatMap f = xs.flatMap g) :
    ∀ x ∈ xs, f x = g x := by
  induction xs with
  | nil => exact fun _ none => absurd none List.not_mem_nil
  | cons x xs ih =>
      obtain ⟨first, others⟩ := List.forall_mem_cons.mp shorter
      rw [List.flatMap_cons, List.flatMap_cons] at same
      have total := congrArg List.length same
      have rest : (xs.flatMap f).length ≤ (xs.flatMap g).length := by
        rw [List.length_flatMap, List.length_flatMap]
        exact List.sum_le_sum others
      rw [List.length_append, List.length_append] at total
      -- No part is longer than its partner and the sums are equal, so the first two are as long.
      obtain ⟨head, tail⟩ := List.append_inj same (by omega)
      exact List.forall_mem_cons.mpr ⟨head, ih others tail⟩

theorem length_fill {v : Variable} {piece : List Char} (fits : v.Fits piece) :
    (v.fill piece).length + v.name.toList.length = v.value.toList.length + piece.length := by
  have fit := fits.length_le
  rw [Variable.fill, List.length_append, List.length_drop]
  omega

/-- Of two variables, the one that lengthens a text less makes no piece longer by being first. -/
theorem length_filled_swap {v w : Variable}
    (less : v.value.toList.length + w.name.toList.length ≤
      w.value.toList.length + v.name.toList.length) (others : List Variable) (piece : List Char) :
    (filled (v :: w :: others) piece).length ≤ (filled (w :: v :: others) piece).length := by
  simp only [filled_cons]
  by_cases first : v.Fits piece
  · by_cases second : w.Fits piece
    · rw [if_pos first, if_pos second]
      have := length_fill first
      have := length_fill second
      omega
    · rw [if_pos first, if_neg second, if_pos first]
  · rw [if_neg first, if_neg first]

theorem fill_eq_of_swap {v w : Variable} {others : List Variable} {ps : List (List Char)}
    (same : ps.flatMap (filled (v :: w :: others)) = ps.flatMap (filled (w :: v :: others))) :
    ∀ piece ∈ ps, v.Fits piece → w.Fits piece → v.fill piece = w.fill piece := by
  intro piece mem first second
  have alike : filled (v :: w :: others) piece = filled (w :: v :: others) piece := by
    -- All pieces that both fit change their length by the same, so one order is never the longer.
    rcases le_total (v.value.toList.length + w.name.toList.length)
      (w.value.toList.length + v.name.toList.length) with less | more
    · exact eq_of_flatMap_eq (fun p _ => length_filled_swap less others p) same piece mem
    · exact (eq_of_flatMap_eq (fun p _ => length_filled_swap more others p) same.symm piece mem).symm
  rwa [filled_cons, if_pos first, filled_cons, if_pos second] at alike

theorem filled_eq_of_perm {environment ordered : List Variable} {ps : List (List Char)}
    (agree : Agree environment ps) (same : ordered.Perm environment) :
    ∀ piece ∈ ps, filled ordered piece = filled environment piece := by
  intro piece mem
  cases found : ordered.find? fun v => v.Fits piece with
  | some v =>
      have fits := fits_of_find?_eq_some found
      have known := same.subset (List.mem_of_find?_eq_some found)
      obtain ⟨w, other⟩ : ∃ w, (environment.find? fun v => v.Fits piece) = some w :=
        Option.isSome_iff_exists.mp (List.find?_isSome.mpr ⟨v, known, decide_eq_true fits⟩)
      rw [filled_of_find?_eq_some found, filled_of_find?_eq_some other]
      exact agree piece mem v known w (List.mem_of_find?_eq_some other) fits
        (fits_of_find?_eq_some other)
  | none =>
      have still : (environment.find? fun v => v.Fits piece) = none :=
        List.find?_eq_none.mpr fun v hv => List.find?_eq_none.mp found v (same.symm.subset hv)
      rw [filled_of_find?_eq_none found, filled_of_find?_eq_none still]

theorem agree_of_substitute_eq {environment : List Variable} {text : String}
    (h : Apart environment (pieces text.toList).2)
    (same : ∀ ordered, ordered.Perm environment →
      substitute ordered text = substitute environment text) :
    Agree environment (pieces text.toList).2 := by
  intro piece mem v hv w hw first second
  by_cases one : v = w
  · rw [one]
  · have other : w ∈ environment.erase v := (List.mem_erase_of_ne (Ne.symm one)).mpr hw
    let others := (environment.erase v).erase w
    have front : (v :: w :: others).Perm environment :=
      ((List.perm_cons_erase hv).trans ((List.perm_cons_erase other).cons v)).symm
    have back : (w :: v :: others).Perm environment := (List.Perm.swap v w others).trans front
    have texts := (same _ front).trans (same _ back).symm
    rw [substitute_of_apart h front, substitute_of_apart h back] at texts
    have parts := List.append_cancel_left (String.ofList_injective texts)
    exact fill_eq_of_swap parts piece mem first second

/-- Neither name begins with the other. -/
def Unlike (v w : Variable) : Prop :=
  ¬ v.name.toList <+: w.name.toList ∧ ¬ w.name.toList <+: v.name.toList

instance : Std.Symm Unlike where
  symm _ _ h := ⟨h.2, h.1⟩

theorem agree_of_unlike {environment : List Variable} (unlike : environment.Pairwise Unlike)
    (ps : List (List Char)) : Agree environment ps := by
  intro piece _ v hv w hw first second
  by_cases one : v = w
  · rw [one]
  · have apart := unlike.forall hv hw one
    exact ((List.prefix_or_prefix_of_prefix first second).elim apart.1 apart.2).elim

/-- For variables that keep apart, the text that is read does not depend on their order exactly if
those that fit a piece fill it alike, as they do when no name begins with another. Then every order
gives the same settings or the same refusal. -/
theorem parse_eq_of_perm_of_agree (environment : List Variable) (text : String)
    (apart : Apart environment (pieces text.toList).2) :
    (environment.Pairwise Unlike → Agree environment (pieces text.toList).2) ∧
    ((∀ ordered, ordered.Perm environment →
        substitute ordered text = substitute environment text) ↔
      Agree environment (pieces text.toList).2) ∧
    (Agree environment (pieces text.toList).2 → ∀ ordered, ordered.Perm environment →
      parse ordered text = parse environment text) := by
  have alike (agree : Agree environment (pieces text.toList).2) (ordered : List Variable)
      (same : ordered.Perm environment) :
      substitute ordered text = substitute environment text := by
    rw [substitute_of_apart apart same, substitute_of_apart apart (.refl _),
      List.flatMap_congr (filled_eq_of_perm agree same)]
  refine ⟨fun unlike => agree_of_unlike unlike _, ⟨agree_of_substitute_eq apart, alike⟩,
    fun agree ordered same => ?_⟩
  rw [parse, parse, alike agree ordered same]

namespace Environment

/-- The dollar of the value names nothing. -/
def home : Variable := ⟨"HOME", "/home/$ada"⟩

def data : Variable := ⟨"DATA", "/d"⟩

def dataDir : Variable := ⟨"DATA_DIR", "/srv"⟩

def storedAt (path : String) : Except SettingsError Settings :=
  .ok { storage := ⟨path⟩ }

/-- The name of one variable begins with the name of the other, and the order decides. -/
theorem longer_name_cut_short :
    ([data, dataDir].map (·.name)).Nodup ∧ [data, dataDir].Perm [dataDir, data] ∧
    parse [data, dataDir] "[storage]\ndb_path = \"$DATA_DIR/reports.db\"\n" =
      storedAt "/d_DIR/reports.db" ∧
    parse [dataDir, data] "[storage]\ndb_path = \"$DATA_DIR/reports.db\"\n" =
      storedAt "/srv/reports.db" := by
  refine ⟨by decide, .swap _ _ _, ?_, ?_⟩ <;> decide +kernel

def page : String := "[storage]\ndb_path = \"$HOME$DATA_DIR/reports.db\"\n"

/-- One variable is named right behind the other. -/
theorem page_parsed_in_any_order :
    Apart [home, dataDir] (pieces page.toList).2 ∧
    Agree [home, dataDir] (pieces page.toList).2 ∧
    parse [home, dataDir] page = storedAt "/home/$ada/srv/reports.db" ∧
    ∀ ordered, ordered.Perm [home, dataDir] →
      parse ordered page = storedAt "/home/$ada/srv/reports.db" := by
  have apart : Apart [home, dataDir] (pieces page.toList).2 :=
    ⟨by decide +kernel, by decide +kernel⟩
  obtain ⟨unlike, -, alike⟩ := parse_eq_of_perm_of_agree _ page apart
  have agree := unlike (.cons (List.forall_mem_singleton.mpr ⟨by decide +kernel, by decide +kernel⟩)
    (List.pairwise_singleton _ _))
  have read : parse [home, dataDir] page = storedAt "/home/$ada/srv/reports.db" := by
    decide +kernel
  exact ⟨apart, agree, read, fun ordered same => (alike agree ordered same).trans read⟩

end Environment

end Settings

end SiteReport
