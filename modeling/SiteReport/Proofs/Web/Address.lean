import SiteReport.Proofs.Web.Target

/-!
How an address is read when a text is added to it at a slash. White space at the end, the scheme and
the host are found as before, so that nothing but the target changes.
-/

namespace SiteReport

namespace Url

/-! ### White space -/

def isBlank (c : Char) : Bool := c.toNat ≤ 0x20

def isKept (c : Char) : Bool := !(c = '\t' || c = '\n' || c = '\r')

/-- The beginning of an address: white space counts at its end, because more follows. -/
def tidyFront (cs : List Char) : List Char := (cs.dropWhile isBlank).filter isKept

theorem tidy_eq (cs : List Char) : tidy cs =
    (((cs.dropWhile isBlank).reverse.dropWhile isBlank).reverse).filter isKept := rfl

theorem dropWhile_append_cons {α : Type} {p : α → Bool} {a : α} (stops : p a = false)
    (front rest : List α) : (front ++ a :: rest).dropWhile p = front.dropWhile p ++ a :: rest := by
  induction front with
  | nil => exact List.dropWhile_cons_of_neg (by simp [stops])
  | cons b front ih =>
      rw [List.cons_append, List.dropWhile_cons, List.dropWhile_cons]
      split
      · exact ih
      · rfl

variable {c : Char} {cs front : List Char}

theorem tidy_append (shown : isBlank c = false) (front rest : List Char) :
    tidy (front ++ c :: rest) = tidyFront front ++ tidy (c :: rest) := by
  have first : (c :: rest).dropWhile isBlank = c :: rest :=
    List.dropWhile_cons_of_neg (by simp [shown])
  rw [tidy_eq, tidy_eq, tidyFront, dropWhile_append_cons shown, first, ← List.filter_append]
  simp only [List.reverse_append, List.reverse_cons, List.append_assoc, List.singleton_append]
  rw [dropWhile_append_cons shown, dropWhile_append_cons shown]
  simp

theorem dropWhile_of_ended (ended : ∀ c ∈ cs.getLast?, isBlank c = false) :
    cs.reverse.dropWhile isBlank = cs.reverse := by
  rw [← List.head?_reverse] at ended
  cases reversed : cs.reverse with
  | nil => rfl
  | cons c rest =>
      rw [reversed] at ended
      exact List.dropWhile_cons_of_neg (by simp [ended c rfl])

theorem tidy_slash_eq (cs : List Char) : tidy ('/' :: cs) =
    '/' :: ((cs.reverse.dropWhile isBlank).reverse).filter isKept := by
  rw [tidy_eq, List.dropWhile_cons_of_neg (by decide), List.reverse_cons,
    dropWhile_append_cons (by decide), List.reverse_append]
  rfl

theorem mem_of_mem_tidyFront (member : c ∈ tidyFront cs) : c ∈ cs :=
  (List.dropWhile_sublist _).subset (List.mem_filter.mp member).1

/-! ### Scheme and host -/

theorem afterScheme?_append {scheme : String} (literal : '/' ∉ scheme.toList)
    (front rest : List Char) : afterScheme? scheme (front ++ '/' :: rest) =
      (afterScheme? scheme front).map (· ++ '/' :: rest) := by
  have colon : '/' ∉ scheme.toList ++ [':'] := by simp [literal]
  unfold afterScheme?
  simp only
  generalize scheme.toList ++ [':'] = name at colon
  by_cases long : name.length ≤ front.length
  · rw [List.take_append_of_le_length long, List.drop_append_of_le_length long]
    split <;> rfl
  · -- the slash would be part of the scheme
    have short : front.length < name.length := Nat.lt_of_not_le long
    have cut : (front.take name.length).map Char.toLower ≠ name := by
      intro same
      have length := congrArg List.length same
      rw [List.length_map, List.length_take] at length
      omega
    have cut' : ((front ++ '/' :: rest).take name.length).map Char.toLower ≠ name := by
      intro same
      rw [← same] at colon
      refine colon (List.mem_map.mpr ⟨'/', ?_, rfl⟩)
      obtain ⟨n, more⟩ := Nat.exists_eq_add_of_lt short
      rw [more, List.take_append, List.take_of_length_le (by omega)]
      have left : front.length + n + 1 - front.length = n + 1 := by omega
      rw [left, List.take_succ_cons]
      exact List.mem_append_right _ List.mem_cons_self
    rw [if_neg cut, if_neg cut']
    rfl

/-- Whether the scheme is the secure one, and what follows it. -/
def scheme? (cs : List Char) : Option (Bool × List Char) :=
  match afterScheme? "http" cs, afterScheme? "https" cs with
  | some rest, _ => some (false, rest)
  | none, some rest => some (true, rest)
  | none, none => none

theorem parse?_eq (text : String) : parse? text =
    (scheme? (tidy text.toList)).bind fun r => ofAuthority? r.1 r.2 := by
  unfold parse? scheme?
  simp only
  cases afterScheme? "http" (tidy text.toList) with
  | some rest => rfl
  | none => cases afterScheme? "https" (tidy text.toList) <;> rfl

theorem scheme?_append (front rest : List Char) : scheme? (front ++ '/' :: rest) =
    (scheme? front).map fun r => (r.1, r.2 ++ '/' :: rest) := by
  unfold scheme?
  rw [afterScheme?_append (by decide), afterScheme?_append (by decide)]
  cases afterScheme? "http" front with
  | some rest => rfl
  | none => cases afterScheme? "https" front <;> rfl

theorem mem_of_scheme? {r : Bool × List Char} (read : scheme? cs = some r) (member : c ∈ r.2) :
    c ∈ cs := by
  have dropped {scheme : String} {rest : List Char} (read : afterScheme? scheme cs = some rest)
      (member : c ∈ rest) : c ∈ cs := by
    unfold afterScheme? at read
    simp only at read
    split at read
    · cases read
      exact List.mem_of_mem_drop member
    · cases read
  unfold scheme? at read
  split at read
  · rename_i plain
    cases read
    exact dropped plain member
  · rename_i secure
    cases read
    exact dropped secure member
  · cases read

/-- Part of what stands between the slashes before the path. -/
def isAuthority (c : Char) : Bool := !(isSlash c || c = '?' || c = '#')

/-- What follows the host, in what follows the scheme. -/
def behindHost (cs : List Char) : List Char := (cs.dropWhile isSlash).dropWhile isAuthority

theorem mem_of_mem_behindHost (member : c ∈ behindHost cs) : c ∈ cs :=
  (List.dropWhile_sublist _).subset ((List.dropWhile_sublist _).subset member)

/-- It is empty or starts a path, if it has neither a query nor a fragment. -/
theorem behindHost_start (cs : List Char) (question : '?' ∉ behindHost cs)
    (number : '#' ∉ behindHost cs) : behindHost cs = [] ∨ Rooted (behindHost cs) := by
  cases behind : behindHost cs with
  | nil => exact .inl rfl
  | cons c rest =>
      rw [behind, List.mem_cons, not_or] at question number
      have stopped := List.head?_dropWhile_not isAuthority (cs.dropWhile isSlash)
      rw [← behindHost, behind] at stopped
      refine .inr ⟨c, rest, rfl, ?_⟩
      simpa [isAuthority, Ne.symm question.1, Ne.symm number.1] using stopped

/-- Scheme, host and port do not depend on what is added at a slash. -/
theorem ofAuthority?_append (secure : Bool) (held : ∃ c ∈ cs, isSlash c = false)
    (rest : List Char) : ofAuthority? secure (cs ++ '/' :: rest) =
      (ofAuthority? secure cs).map fun u =>
        { u with target := String.ofList (targetOf (behindHost cs ++ '/' :: rest)) } := by
  have started : (cs ++ '/' :: rest).dropWhile isSlash = cs.dropWhile isSlash ++ '/' :: rest := by
    obtain ⟨c, member, other⟩ := held
    obtain ⟨before, behind, rfl⟩ := List.append_of_mem member
    rw [List.append_assoc, List.cons_append, dropWhile_append_cons other,
      dropWhile_append_cons other, List.append_assoc, List.cons_append]
  have unfolded (cs : List Char) : ofAuthority? secure cs =
      (let host := splitPort (afterUser ((cs.dropWhile isSlash).takeWhile isAuthority))
      (port? (if secure then 443 else 80) host.2).bind fun port =>
        if isHost host.1 then
          some ⟨secure, String.ofList (host.1.map Char.toLower), port,
            String.ofList (targetOf (behindHost cs))⟩
        else none) := rfl
  have behind : behindHost (cs ++ '/' :: rest) = behindHost cs ++ '/' :: rest := by
    rw [behindHost, started, dropWhile_append_cons rfl, ← behindHost]
  rw [unfolded, unfolded, behind, started, takeWhile_append_cons rfl]
  simp only
  cases port? (if secure then 443 else 80)
    (splitPort (afterUser ((cs.dropWhile isSlash).takeWhile isAuthority))).2 with
  | none => rfl
  | some port =>
      simp only [Option.bind_some]
      split <;> rfl

end Url

end SiteReport
