import SiteReport.Batches

/-!
Batches lose nothing and mix nothing up: joined together they are the list that was cut. All are of
the full size but the last, so the count of what is done after each of them goes up by the size and
ends at the length of the list. In a batch things end in any order, each of them once.
-/

namespace SiteReport

variable {α : Type}

theorem flatten_batchesOf (size : Nat) {steps : Nat} {xs : List α}
    (h : xs.length ≤ steps) : (batchesOf size steps xs).flatten = xs := by
  induction steps generalizing xs with
  | zero => rw [List.eq_nil_of_length_eq_zero (Nat.le_zero.mp h), batchesOf, List.flatten_nil]
  | succ steps ih =>
      cases xs with
      | nil => rfl
      | cons x rest =>
          have fits : (rest.drop size).length ≤ steps := by
            simp only [List.length_cons] at h
            rw [List.length_drop]
            omega
          rw [batchesOf, List.flatten_cons, ih fits, List.cons_append, List.take_append_drop]

@[simp] theorem flatten_batches (size : Nat) (xs : List α) :
    (batches size xs).flatten = xs :=
  flatten_batchesOf (size - 1) (Nat.le_refl _)

theorem ne_nil_of_mem_batchesOf {size steps : Nat} {xs batch : List α}
    (h : batch ∈ batchesOf size steps xs) : batch ≠ [] := by
  induction steps generalizing xs with
  | zero => cases h
  | succ steps ih =>
      cases xs with
      | nil => cases h
      | cons x rest =>
          rcases List.mem_cons.mp h with rfl | later
          · exact List.cons_ne_nil x _
          · exact ih later

/-- The first batches hold what comes first. -/
theorem flatten_take_batchesOf (size : Nat) {steps : Nat} {xs : List α} (h : xs.length ≤ steps)
    (k : Nat) : ((batchesOf size steps xs).take k).flatten = xs.take (k * (size + 1)) := by
  induction steps generalizing xs k with
  | zero =>
      rw [List.eq_nil_of_length_eq_zero (Nat.le_zero.mp h), batchesOf, List.take_nil,
        List.take_nil, List.flatten_nil]
  | succ steps ih =>
      cases xs with
      | nil => rw [batchesOf, List.take_nil, List.take_nil, List.flatten_nil]
      | cons x rest =>
          cases k with
          | zero => rw [List.take_zero, Nat.zero_mul, List.take_zero, List.flatten_nil]
          | succ k =>
              have fits : (rest.drop size).length ≤ steps := by
                rw [List.length_cons] at h
                rw [List.length_drop]
                omega
              have more : (k + 1) * (size + 1) = size + k * (size + 1) + 1 := by
                rw [Nat.succ_mul]
                omega
              rw [batchesOf, List.take_succ_cons, List.flatten_cons, ih fits, more,
                List.take_succ_cons, List.cons_append, List.take_add]

theorem flatten_take_batches (size : Nat) (xs : List α) (k : Nat) :
    ((batches size xs).take k).flatten = xs.take (k * max size 1) := by
  have counted : size - 1 + 1 = max size 1 := by omega
  rw [batches, flatten_take_batchesOf (size - 1) (Nat.le_refl _), counted]

/-! ### What is done after each batch -/

/-- How many things are done after each batch, if so many were done before. -/
def doneAfter (before : Nat) : List (List α) → List Nat
  | [] => []
  | batch :: rest => (before + batch.length) :: doneAfter (before + batch.length) rest

/-- A batch takes the full size, or what is left. -/
theorem doneAfter_batchesOf (size : Nat) {steps : Nat} {xs : List α} (h : xs.length ≤ steps)
    (before : Nat) :
    doneAfter before (batchesOf size steps xs) =
      (List.range ((xs.length + size) / (size + 1))).map fun k =>
        before + min ((k + 1) * (size + 1)) xs.length := by
  induction steps generalizing xs before with
  | zero =>
      have empty : (xs.length + size) / (size + 1) = 0 := Nat.div_eq_of_lt (by omega)
      rw [batchesOf, doneAfter, empty, List.range_zero, List.map_nil]
  | succ steps ih =>
      cases xs with
      | nil =>
          have empty : (0 + size) / (size + 1) = 0 := Nat.div_eq_of_lt (by omega)
          rw [batchesOf, doneAfter, List.length_nil, empty, List.range_zero, List.map_nil]
      | cons x rest =>
          simp only [List.length_cons] at h ⊢
          have fits : (rest.drop size).length ≤ steps := by rw [List.length_drop]; omega
          have full : (rest.length + 1 + size) / (size + 1) = rest.length / (size + 1) + 1 := by
            rw [Nat.add_right_comm, Nat.add_assoc, Nat.add_div_right _ (Nat.succ_pos size)]
          have others : ((rest.drop size).length + size) / (size + 1) =
              rest.length / (size + 1) := by
            rw [List.length_drop]
            rcases Nat.le_total size rest.length with enough | short
            · rw [Nat.sub_add_cancel enough]
            · rw [Nat.div_eq_of_lt (by omega), Nat.div_eq_of_lt (by omega)]
          rw [batchesOf, doneAfter, ih fits, others, full, List.range_succ_eq_map, List.map_cons,
            List.map_map]
          congr 1
          · rw [List.length_cons, List.length_take]
            omega
          · refine List.map_congr_left fun k _ => ?_
            rw [Function.comp_apply, List.length_cons, List.length_take, List.length_drop,
              Nat.succ_mul (k + 1)]
            have one : size + 1 ≤ (k + 1) * (size + 1) := Nat.le_mul_of_pos_left _ (Nat.succ_pos k)
            omega

/-- After batch `k` the full size is done `k` times, or everything. -/
theorem doneAfter_batches (size : Nat) (xs : List α) :
    doneAfter 0 (batches size xs) =
      (List.range ((xs.length + max size 1 - 1) / max size 1)).map fun k =>
        min ((k + 1) * max size 1) xs.length := by
  have counted : size - 1 + 1 = max size 1 := by omega
  rw [batches, doneAfter_batchesOf (size - 1) (Nat.le_refl _), counted,
    Nat.add_sub_assoc (Nat.le_max_right size 1)]
  have less : size - 1 = max size 1 - 1 := by omega
  simp only [less, Nat.zero_add]

theorem length_doneAfter (before : Nat) (parts : List (List α)) :
    (doneAfter before parts).length = parts.length := by
  induction parts generalizing before with
  | nil => rfl
  | cons part rest ih => rw [doneAfter, List.length_cons, ih, List.length_cons]

/-- The count ends at everything. -/
theorem getLast?_cons_doneAfter (before : Nat) (parts : List (List α)) :
    (before :: doneAfter before parts).getLast? = some (before + parts.flatten.length) := by
  induction parts generalizing before with
  | nil => rfl
  | cons part rest ih =>
      rw [doneAfter, List.getLast?_cons_cons, ih, List.flatten_cons, List.length_append,
        Nat.add_assoc]

theorem getLast?_doneAfter (before : Nat) {parts : List (List α)} (some_part : parts ≠ []) :
    (doneAfter before parts).getLast? = some (before + parts.flatten.length) := by
  obtain ⟨part, rest, rfl⟩ := List.exists_cons_of_ne_nil some_part
  have last := getLast?_cons_doneAfter before (part :: rest)
  rwa [doneAfter, List.getLast?_cons_cons] at last

/-- Each batch adds to the count. -/
theorem doneAfter_increases (before : Nat) {parts : List (List α)}
    (filled : ∀ part ∈ parts, part ≠ []) : (before :: doneAfter before parts).Pairwise (· < ·) := by
  induction parts generalizing before with
  | nil => exact List.pairwise_singleton _ _
  | cons part rest ih =>
      obtain ⟨here, others⟩ := List.forall_mem_cons.mp filled
      have more : before < before + part.length :=
        Nat.lt_add_of_pos_right (List.length_pos_iff.mpr here)
      have later := ih (before + part.length) others
      refine List.pairwise_cons.mpr ⟨?_, later⟩
      intro count member
      rcases List.mem_cons.mp member with rfl | further
      · exact more
      · exact Nat.lt_trans more (List.rel_of_pairwise_cons later further)

/-! ### The order in a batch -/

theorem filterMap_getElem?_range (xs : List α) :
    (List.range xs.length).filterMap (fun i => xs[i]?) = xs := by
  induction xs with
  | nil => rfl
  | cons x rest ih =>
      rw [List.length_cons, List.range_succ_eq_map, List.filterMap_cons, List.filterMap_map]
      exact congrArg (x :: ·) ih

theorem Completion.arrange_perm (c : Completion) (before : Nat) (xs : List α) :
    (c.arrange before xs).Perm xs := by
  have reordered := (c.order_perm before xs.length).filterMap fun i => xs[i]?
  rwa [filterMap_getElem?_range] at reordered

end SiteReport
