/-!
Cutting a list into batches of one size, of which the last may be shorter. A size of zero counts as
one. What is in one batch is under way together, and comes to its end in some order.
-/

namespace SiteReport

/-- Batches of `size + 1`, in as many steps as there are items at most. -/
def batchesOf {α : Type} (size : Nat) : (steps : Nat) → List α → List (List α)
  | 0, _ => []
  | _ + 1, [] => []
  | steps + 1, x :: rest =>
    (x :: rest.take size) :: batchesOf size steps (rest.drop size)

def batches {α : Type} (size : Nat) (xs : List α) : List (List α) :=
  batchesOf (size - 1) xs.length xs

/-- The order in which things that are under way together end: a permutation of their positions,
which may depend on how many ended before. -/
structure Completion where
  order : (before count : Nat) → List Nat
  order_perm : ∀ before count, (order before count).Perm (List.range count)

namespace Completion

/-- Each thing ends before the next one. -/
def inTurn : Completion := ⟨fun _ count => List.range count, fun _ _ => List.Perm.refl _⟩

instance : Inhabited Completion := ⟨inTurn⟩

/-- The things in the order in which they end. -/
def arrange {α : Type} (c : Completion) (before : Nat) (xs : List α) : List α :=
  (c.order before xs.length).filterMap fun i => xs[i]?

end Completion

end SiteReport
