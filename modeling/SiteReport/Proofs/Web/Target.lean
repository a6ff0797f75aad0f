import SiteReport.Proofs.Web.Encoding

/-!
The target of a request, taken apart: the segments of its path and its query. A target tells them
both, and a text that is added at a slash adds its segments, as long as neither a question mark nor a
number sign came before.
-/

namespace SiteReport

namespace Url

/-- Neither a query nor a fragment begins with the character. -/
def goesOn (c : Char) : Bool := !(c = '?' || c = '#')

/-- The text up to the query or the fragment. -/
def pathPart (cs : List Char) : List Char := cs.takeWhile goesOn

/-- The query as it is sent, with its question mark. -/
def queryPart (cs : List Char) : List Char :=
  match cs.dropWhile goesOn with
  | '?' :: rest => '?' :: encode isEncodedInQuery (rest.takeWhile (· ≠ '#'))
  | _ => []

/-- The path that the text of one stands for. -/
def pathOf (path : List Char) : List Char :=
  pathText (resolve [] (splitSlashes (if path.head?.any isSlash then path.drop 1 else path)))

theorem targetOf_parts (cs : List Char) : targetOf cs = pathOf (pathPart cs) ++ queryPart cs := rfl

/-- The parts of a path behind its slashes. -/
def segments (cs : List Char) : List (List Char) := (splitSlashes (pathPart cs)).tail

/-- The path after some segments, when more of them follow. -/
def below (path segments : List (List Char)) : List (List Char) :=
  segments.foldl (fun path segment => step path segment false) path

/-- A text starts a path: with a slash. -/
def Rooted (cs : List Char) : Prop := ∃ c rest, cs = c :: rest ∧ isSlash c = true

variable {cs ds front : List Char} {path more parts : List (List Char)}

/-! ### Slashes -/

theorem splitSlashes_ne_nil (cs : List Char) : splitSlashes cs ≠ [] := by
  cases cs with
  | nil => exact List.cons_ne_nil _ _
  | cons c rest =>
      rw [splitSlashes]
      split
      · exact List.cons_ne_nil _ _
      · split <;> exact List.cons_ne_nil _ _

theorem splitSlashes_slash {c : Char} (slash : isSlash c = true) (rest : List Char) :
    splitSlashes (c :: rest) = [] :: splitSlashes rest := by
  rw [splitSlashes]
  split
  · rename_i none
    exact absurd none (splitSlashes_ne_nil rest)
  · rename_i split
    rw [if_pos slash, split]

/-- Any other character belongs to the first part. -/
theorem splitSlashes_cons {c : Char} (other : isSlash c = false) (rest : List Char) :
    ∃ part more, splitSlashes rest = part :: more ∧
      splitSlashes (c :: rest) = (c :: part) :: more := by
  obtain ⟨part, more, split⟩ := List.exists_cons_of_ne_nil (splitSlashes_ne_nil rest)
  refine ⟨part, more, split, ?_⟩
  simp [splitSlashes, split, other]

theorem splitSlashes_append (front : List Char) {c : Char} (slash : isSlash c = true)
    (rest : List Char) :
    splitSlashes (front ++ c :: rest) = splitSlashes front ++ splitSlashes rest := by
  induction front with
  | nil => exact splitSlashes_slash slash rest
  | cons d front ih =>
      cases isSlash_d : isSlash d with
      | true =>
          rw [List.cons_append, splitSlashes_slash isSlash_d, splitSlashes_slash isSlash_d, ih,
            List.cons_append]
      | false =>
          obtain ⟨part, more, split, whole⟩ := splitSlashes_cons isSlash_d front
          obtain ⟨part', more', split', whole'⟩ := splitSlashes_cons isSlash_d (front ++ c :: rest)
          rw [ih, split, List.cons_append] at split'
          obtain ⟨rfl, rfl⟩ := List.cons.inj split'
          rw [List.cons_append, whole', whole, List.cons_append]

theorem not_isSlash_of_mem_splitSlashes {segment : List Char}
    (member : segment ∈ splitSlashes cs) : ∀ c ∈ segment, isSlash c = false := by
  induction cs generalizing segment with
  | nil =>
      rw [List.mem_singleton.mp member]
      exact fun _ none => absurd none List.not_mem_nil
  | cons d rest ih =>
      cases isSlash_d : isSlash d with
      | true =>
          rw [splitSlashes_slash isSlash_d] at member
          rcases List.mem_cons.mp member with rfl | later
          · exact fun _ none => absurd none List.not_mem_nil
          · exact ih later
      | false =>
          obtain ⟨part, more, split, whole⟩ := splitSlashes_cons isSlash_d rest
          rw [whole] at member
          rw [split] at ih
          rcases List.mem_cons.mp member with rfl | later
          · exact List.forall_mem_cons.mpr ⟨isSlash_d, ih List.mem_cons_self⟩
          · exact ih (List.mem_cons_of_mem _ later)

theorem splitSlashes_of_no_slash (whole : ∀ c ∈ cs, isSlash c = false) : splitSlashes cs = [cs] := by
  induction cs with
  | nil => rfl
  | cons c rest ih =>
      obtain ⟨here, others⟩ := List.forall_mem_cons.mp whole
      obtain ⟨part, more, split, all⟩ := splitSlashes_cons here rest
      rw [ih others] at split
      cases split
      exact all

/-- Segments without slashes can be read off the text of their path. -/
theorem splitSlashes_pathText (clean : ∀ s ∈ parts, ∀ c ∈ s, isSlash c = false) :
    splitSlashes (pathText parts) = [] :: parts := by
  induction parts with
  | nil => rfl
  | cons s rest ih =>
      obtain ⟨here, others⟩ := List.forall_mem_cons.mp clean
      have unfolded : pathText (s :: rest) = '/' :: (s ++ pathText rest) := rfl
      rw [unfolded, splitSlashes_slash rfl]
      cases rest with
      | nil => rw [pathText, List.flatMap_nil, List.append_nil, splitSlashes_of_no_slash here]
      | cons t rest =>
          have next := ih others
          have unfolded' : pathText (t :: rest) = '/' :: (t ++ pathText rest) := rfl
          rw [unfolded', splitSlashes_slash rfl] at next
          rw [unfolded', splitSlashes_append s rfl, splitSlashes_of_no_slash here,
            List.tail_eq_of_cons_eq next, List.singleton_append]

theorem pathText_splitSlashes (forward : '\\' ∉ cs) : pathText (splitSlashes cs) = '/' :: cs := by
  induction cs with
  | nil => rfl
  | cons c rest ih =>
      rw [List.mem_cons, not_or] at forward
      obtain ⟨here, others⟩ := forward
      cases isSlash_c : isSlash c with
      | true =>
          have slash : c = '/' := by
            simpa [isSlash, Ne.symm here] using isSlash_c
          rw [splitSlashes_slash isSlash_c, slash]
          exact congrArg _ (ih others)
      | false =>
          obtain ⟨part, more, split, whole⟩ := splitSlashes_cons isSlash_c rest
          have same := ih others
          rw [split] at same
          have tail : part ++ pathText more = rest := (List.cons.inj same).2
          rw [whole]
          show '/' :: c :: (part ++ pathText more) = _
          rw [tail]

/-! ### Dots -/

theorem resolve_cons (path : List (List Char)) (segment : List Char) (rest : parts ≠ []) :
    resolve path (segment :: parts) = resolve (step path segment false) parts := by
  obtain ⟨next, others, rfl⟩ := List.exists_cons_of_ne_nil rest
  rfl

theorem resolve_append (path more : List (List Char)) (rest : parts ≠ []) :
    resolve path (more ++ parts) = resolve (below path more) parts := by
  induction more generalizing path with
  | nil => rfl
  | cons segment more ih =>
      have later : more ++ parts ≠ [] := fun none => rest (List.append_eq_nil_iff.mp none).2
      rw [List.cons_append, resolve_cons path segment later, ih]
      rfl

/-- Segments that are no dots are encoded and added. -/
theorem step_of_undotted {segment : List Char} (single : isDot segment = false)
    (double : isDoubleDot segment = false) (path : List (List Char)) (isLast : Bool) :
    step path segment isLast = path ++ [encode isEncodedInPath segment] := by
  rw [step, if_neg (by simp [double]), if_neg (by simp [single])]

theorem resolve_of_undotted
    (undotted : ∀ s ∈ parts, isDot s = false ∧ isDoubleDot s = false) :
    resolve path parts = path ++ parts.map (encode isEncodedInPath) := by
  induction parts generalizing path with
  | nil => exact (List.append_nil _).symm
  | cons s rest ih =>
      obtain ⟨⟨single, double⟩, others⟩ := List.forall_mem_cons.mp undotted
      cases rest with
      | nil => exact step_of_undotted single double path true
      | cons t rest =>
          rw [resolve_cons path s (List.cons_ne_nil t rest), ih others,
            step_of_undotted single double, List.append_assoc]
          rfl

theorem plainDots_of_literal (literal : '%' ∉ cs) : plainDots cs = cs := by
  induction cs with
  | nil => rfl
  | cons c rest ih =>
      rw [List.mem_cons, not_or] at literal
      rw [plainDots, ih literal.2]
      rintro e rest rfl
      exact absurd rfl literal.1

/-! ### Paths that are resolved -/

/-- What the segments of a resolved path have in common: nothing in them ends a segment or a path. -/
def Clean (path : List (List Char)) : Prop :=
  ∀ s ∈ path, ∀ c ∈ s, isSlash c = false ∧ c ≠ '?'

theorem encode_clean {segment : List Char} (whole : ∀ c ∈ segment, isSlash c = false) :
    ∀ c ∈ encode isEncodedInPath segment, isSlash c = false ∧ c ≠ '?' := by
  intro c member
  constructor
  · cases slash : isSlash c with
    | false => rfl
    | true =>
        refine absurd member (not_mem_encode ?_ (.inr fun there => ?_))
        · simp only [isSlash, Bool.or_eq_true, decide_eq_true_eq] at slash
          rcases slash with rfl | rfl <;> decide
        · rw [whole c there] at slash
          cases slash
  · rintro rfl
    exact not_mem_encode (by decide) (.inl (by decide)) member

namespace Clean

theorem append (clean : Clean path) (clean' : Clean more) : Clean (path ++ more) :=
  List.forall_mem_append.mpr ⟨clean, clean'⟩

theorem step (clean : Clean path) {segment : List Char}
    (whole : ∀ c ∈ segment, isSlash c = false) (isLast : Bool) :
    Clean (step path segment isLast) := by
  have ended : Clean (if isLast then [[]] else []) := by
    cases isLast with
    | true => exact List.forall_mem_singleton.mpr fun _ none => absurd none List.not_mem_nil
    | false => exact fun _ none => absurd none List.not_mem_nil
  unfold Url.step
  split
  · exact append (fun s member => clean s (List.dropLast_subset path member)) ended
  · split
    · exact clean.append ended
    · exact clean.append (List.forall_mem_singleton.mpr (encode_clean whole))

theorem below (clean : Clean path) (whole : ∀ s ∈ more, ∀ c ∈ s, isSlash c = false) :
    Clean (below path more) := by
  induction more generalizing path with
  | nil => exact clean
  | cons s rest ih =>
      obtain ⟨here, others⟩ := List.forall_mem_cons.mp whole
      exact ih (clean.step here false) others

theorem resolve (clean : Clean path) (whole : ∀ s ∈ parts, ∀ c ∈ s, isSlash c = false) :
    Clean (resolve path parts) := by
  induction parts generalizing path with
  | nil => exact clean
  | cons s rest ih =>
      obtain ⟨here, others⟩ := List.forall_mem_cons.mp whole
      cases rest with
      | nil => exact clean.step here true
      | cons t rest => exact ih (clean.step here false) others

end Clean

theorem not_isSlash_of_mem_segments {segment : List Char} (member : segment ∈ segments cs) :
    ∀ c ∈ segment, isSlash c = false :=
  not_isSlash_of_mem_splitSlashes (List.mem_of_mem_tail member)

/-! ### Path and query -/

theorem takeWhile_pathText (clean : Clean path) (query : ds = [] ∨ ∃ rest, ds = '?' :: rest) :
    (pathText path ++ ds).takeWhile (· ≠ '?') = pathText path := by
  have free : ∀ c ∈ pathText path, decide (c ≠ '?') = true := by
    intro c member
    obtain ⟨s, there, member⟩ := List.mem_flatMap.mp member
    rcases List.mem_cons.mp member with rfl | member
    · rfl
    · exact decide_eq_true (clean s there c member).2
  rw [List.takeWhile_append_of_pos free]
  rcases query with rfl | ⟨rest, rfl⟩
  · exact List.append_nil _
  · exact List.append_nil _

theorem queryPart_cases (cs : List Char) :
    queryPart cs = [] ∨ ∃ rest, queryPart cs = '?' :: rest := by
  unfold queryPart
  split
  · exact .inr ⟨_, rfl⟩
  · exact .inl rfl

/-- Path and query can be read off a target. -/
theorem target_inj (clean : Clean path) (clean' : Clean more)
    (same : pathText path ++ queryPart cs = pathText more ++ queryPart ds) :
    path = more ∧ queryPart cs = queryPart ds := by
  -- no segment has a question mark in it, so the first one divides path and query
  have paths := congrArg (List.takeWhile (· ≠ '?')) same
  rw [takeWhile_pathText clean (queryPart_cases cs),
    takeWhile_pathText clean' (queryPart_cases ds)] at paths
  have split := congrArg splitSlashes paths
  rw [splitSlashes_pathText fun s there c member => (clean s there c member).1,
    splitSlashes_pathText fun s there c member => (clean' s there c member).1] at split
  refine ⟨(List.cons.inj split).2, ?_⟩
  rw [paths] at same
  exact List.append_cancel_left same

theorem Rooted.pathPart (rooted : Rooted cs) : Rooted (pathPart cs) := by
  obtain ⟨c, rest, rfl, slash⟩ := rooted
  refine ⟨c, Url.pathPart rest, ?_, slash⟩
  have inside : goesOn c = true := by
    simp only [isSlash, Bool.or_eq_true, decide_eq_true_eq] at slash
    rcases slash with rfl | rfl <;> rfl
  exact List.takeWhile_cons_of_pos inside

theorem targetOf_eq (rooted : Rooted cs) :
    targetOf cs = pathText (resolve [] (segments cs)) ++ queryPart cs := by
  obtain ⟨c, rest, path, slash⟩ := rooted.pathPart
  have started : (Url.pathPart cs).head?.any isSlash = true := by
    rw [path]
    exact slash
  have tail : segments cs = splitSlashes ((Url.pathPart cs).drop 1) := by
    rw [segments, path, splitSlashes_slash slash]
    rfl
  rw [targetOf_parts, pathOf, if_pos started, tail]

/-! ### A text that is added -/

theorem takeWhile_append_cons {α : Type} {p : α → Bool} {a : α} (stops : p a = false)
    (front rest : List α) : (front ++ a :: rest).takeWhile p = front.takeWhile p := by
  induction front with
  | nil => exact List.takeWhile_cons_of_neg (by simp [stops])
  | cons b front ih => rw [List.cons_append, List.takeWhile_cons, List.takeWhile_cons, ih]

theorem queryPart_question (rest : List Char) : queryPart ('?' :: rest) =
    '?' :: encode isEncodedInQuery (rest.takeWhile (· ≠ '#')) := rfl

theorem queryPart_cons {c : Char} (question : c ≠ '?') (number : c ≠ '#') (rest : List Char) :
    queryPart (c :: rest) = queryPart rest := by
  have inside : goesOn c = true := by simp [goesOn, question, number]
  rw [queryPart, List.dropWhile_cons_of_pos inside, ← queryPart]

theorem pathPart_cons {c : Char} (question : c ≠ '?') (number : c ≠ '#') (rest : List Char) :
    pathPart (c :: rest) = c :: pathPart rest :=
  List.takeWhile_cons_of_pos (by simp [goesOn, question, number])

theorem queryPart_fragment (front rest : List Char) :
    queryPart (front ++ '#' :: rest) = queryPart front := by
  induction front with
  | nil => rfl
  | cons c front ih =>
      rw [List.cons_append]
      by_cases question : c = '?'
      · rw [question, queryPart_question, queryPart_question, takeWhile_append_cons (by simp)]
      · by_cases number : c = '#'
        · rw [number]
          rfl
        · rw [queryPart_cons question number, queryPart_cons question number, ih]

/-- A fragment is not sent, nor is anything that is added to it. -/
theorem targetOf_fragment (front rest : List Char) :
    targetOf (front ++ '#' :: rest) = targetOf front := by
  have path : pathPart (front ++ '#' :: rest) = pathPart front := takeWhile_append_cons rfl _ _
  rw [targetOf_parts, targetOf_parts, path, queryPart_fragment]

theorem targetOf_append_of_number (number : '#' ∈ front) (cs : List Char) :
    targetOf (front ++ cs) = targetOf front := by
  obtain ⟨before, behind, rfl⟩ := List.append_of_mem number
  rw [List.append_assoc, List.cons_append, targetOf_fragment, targetOf_fragment]

theorem encode_append (isEncoded : Char → Bool) (cs ds : List Char) :
    encode isEncoded (cs ++ ds) = encode isEncoded cs ++ encode isEncoded ds :=
  List.flatMap_append

theorem takeWhile_append_of_not_mem {stop : Char} (absent : stop ∉ front) (cs : List Char) :
    (front ++ cs).takeWhile (· ≠ stop) = front ++ cs.takeWhile (· ≠ stop) := by
  refine List.takeWhile_append_of_pos fun c member => decide_eq_true ?_
  rintro rfl
  exact absent member

theorem takeWhile_of_not_mem {stop : Char} (absent : stop ∉ cs) : cs.takeWhile (· ≠ stop) = cs := by
  have whole := takeWhile_append_of_not_mem absent []
  rwa [List.append_nil, List.takeWhile_nil, List.append_nil] at whole

/-- What is added to a query is encoded there. -/
theorem queryPart_append (number : '#' ∉ front) (question : '?' ∈ front) (cs : List Char) :
    queryPart (front ++ cs) =
      queryPart front ++ encode isEncodedInQuery (cs.takeWhile (· ≠ '#')) := by
  induction front with
  | nil => exact absurd question List.not_mem_nil
  | cons c front ih =>
      rw [List.mem_cons, not_or] at number
      obtain ⟨here, others⟩ := number
      rw [List.cons_append]
      -- the first question mark starts the query, and a later one is a part of it
      by_cases first : c = '?'
      · rw [first, queryPart_question, queryPart_question, takeWhile_append_of_not_mem others,
          encode_append, takeWhile_of_not_mem others, List.cons_append]
      · have later : '?' ∈ front := (List.mem_cons.mp question).resolve_left (Ne.symm first)
        rw [queryPart_cons first (Ne.symm here), queryPart_cons first (Ne.symm here),
          ih others later]

theorem targetOf_append_of_question (number : '#' ∉ front) (question : '?' ∈ front)
    (cs : List Char) : targetOf (front ++ cs) =
      targetOf front ++ encode isEncodedInQuery (cs.takeWhile (· ≠ '#')) := by
  have path : pathPart (front ++ cs) = pathPart front := by
    obtain ⟨before, behind, rfl⟩ := List.append_of_mem question
    rw [pathPart, List.append_assoc, List.cons_append, takeWhile_append_cons rfl]
    exact (takeWhile_append_cons rfl _ _).symm
  rw [targetOf_parts, targetOf_parts, path, queryPart_append number question, List.append_assoc]

section Path

variable (number : '#' ∉ front) (question : '?' ∉ front)

include number question

theorem parts_append (cs : List Char) : pathPart (front ++ cs) = front ++ pathPart cs ∧
    queryPart (front ++ cs) = queryPart cs := by
  induction front with
  | nil => exact ⟨rfl, rfl⟩
  | cons c front ih =>
      rw [List.mem_cons, not_or] at number question
      obtain ⟨path, query⟩ := ih number.2 question.2
      have isQuestion : c ≠ '?' := Ne.symm question.1
      have isNumber : c ≠ '#' := Ne.symm number.1
      rw [List.cons_append, pathPart_cons isQuestion isNumber, queryPart_cons isQuestion isNumber,
        path, query]
      exact ⟨rfl, rfl⟩

theorem segments_append (rooted : Rooted cs) :
    segments (front ++ cs) = (splitSlashes front).tail ++ segments cs := by
  obtain ⟨c, rest, path, slash⟩ := rooted.pathPart
  obtain ⟨first, others, split⟩ := List.exists_cons_of_ne_nil (splitSlashes_ne_nil front)
  rw [segments, segments, (parts_append number question cs).1, path,
    splitSlashes_append front slash, splitSlashes_slash slash, split]
  rfl

/-- What is added to a path is resolved below it. -/
theorem targetOf_append (start : front = [] ∨ Rooted front) (rooted : Rooted cs) :
    targetOf (front ++ cs) =
      pathText (resolve (below [] (splitSlashes front).tail) (segments cs)) ++ queryPart cs := by
  have whole : Rooted (front ++ cs) := by
    rcases start with rfl | ⟨c, rest, rfl, slash⟩
    · exact rooted
    · exact ⟨c, rest ++ cs, rfl, slash⟩
  have some : segments cs ≠ [] := by
    obtain ⟨c, rest, path, slash⟩ := rooted.pathPart
    rw [segments, path, splitSlashes_slash slash]
    exact splitSlashes_ne_nil rest
  rw [targetOf_eq whole, segments_append number question rooted, resolve_append _ _ some,
    (parts_append number question cs).2]

end Path

/-! ### A text read back from its target -/

theorem pathText_map_encode (parts : List (List Char)) :
    pathText (parts.map (encode isEncodedInPath)) = encode isEncodedInPath (pathText parts) := by
  induction parts with
  | nil => rfl
  | cons s rest ih =>
      have unfolded (s : List Char) (rest : List (List Char)) :
          pathText (s :: rest) = '/' :: (s ++ pathText rest) := rfl
      have slash (cs : List Char) :
          encode isEncodedInPath ('/' :: cs) = '/' :: encode isEncodedInPath cs := rfl
      rw [List.map_cons, unfolded, unfolded, ih, slash, encode_append]

theorem pathText_segments (forward : '\\' ∉ cs) :
    pathText (segments ('/' :: cs)) = pathPart ('/' :: cs) := by
  have path : pathPart ('/' :: cs) = '/' :: pathPart cs := pathPart_cons (by decide) (by decide) cs
  have inside : '\\' ∉ pathPart cs := fun member => forward (List.takeWhile_subset _ member)
  rw [segments, path, splitSlashes_slash rfl]
  exact pathText_splitSlashes inside

/-- Without a fragment a text is its path, or its path and its query. -/
theorem parts_cases (number : '#' ∉ cs) : (cs = pathPart cs ∧ queryPart cs = []) ∨
    ∃ rest, cs = pathPart cs ++ '?' :: rest ∧
      queryPart cs = '?' :: encode isEncodedInQuery rest := by
  induction cs with
  | nil => exact .inl ⟨rfl, rfl⟩
  | cons c rest ih =>
      rw [List.mem_cons, not_or] at number
      obtain ⟨here, others⟩ := number
      by_cases question : c = '?'
      · subst question
        refine .inr ⟨rest, rfl, ?_⟩
        rw [queryPart_question, takeWhile_of_not_mem others]
      · rw [pathPart_cons question (Ne.symm here), queryPart_cons question (Ne.symm here)]
        rcases ih others with ⟨path, query⟩ | ⟨more, path, query⟩
        · exact .inl ⟨congrArg _ path, query⟩
        · exact .inr ⟨more, congrArg _ path, query⟩

theorem eq_of_parts (number : '#' ∉ cs) (number' : '#' ∉ ds) (literal : '%' ∉ cs)
    (literal' : '%' ∉ ds) (path : pathPart cs = pathPart ds) (query : queryPart cs = queryPart ds) :
    cs = ds := by
  rcases parts_cases number with ⟨whole, sent⟩ | ⟨rest, whole, sent⟩
  · rcases parts_cases number' with ⟨whole', sent'⟩ | ⟨rest', whole', sent'⟩
    · rw [whole, whole', path]
    · rw [sent, sent'] at query
      cases query
  · rcases parts_cases number' with ⟨whole', sent'⟩ | ⟨rest', whole', sent'⟩
    · rw [sent, sent'] at query
      cases query
    · rw [sent, sent'] at query
      rw [whole] at literal
      rw [whole'] at literal'
      have same : rest = rest' := encode_inj
        (fun member => literal (List.mem_append_right _ (List.mem_cons_of_mem _ member)))
        (fun member => literal' (List.mem_append_right _ (List.mem_cons_of_mem _ member)))
        (List.cons.inj query).2
      rw [whole, whole', path, same]

end Url

end SiteReport
