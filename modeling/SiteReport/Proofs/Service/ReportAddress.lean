import Mathlib.Data.List.DropRight
import SiteReport.Proofs.Web.Address
import SiteReport.Service.Client

/-!
Where the update of a report is sent. The identifier of the report stands in the address as it came,
so that it is read as a part of an address: what follows a number sign is dropped, dots lead
elsewhere, and an identifier and its encoding are the same. Hence each identifier shares its target
with another one. Identifiers in which nothing is read that way have targets of their own, unless
the endpoint itself ends in a fragment.
-/

namespace SiteReport

namespace Client

open Url

/-- What follows the host in the address of all reports. -/
def stem (endpoint : String) : List Char :=
  ((scheme? (tidy (address endpoint "reports").toList)).map fun r => behindHost r.2).getD []

/-- An identifier behind its slash, without the white space that does not count. -/
def tail (id : String) : List Char := tidy ('/' :: id.toList)

/-- The path below which the path of an identifier is resolved. -/
def base (endpoint : String) : List (List Char) := below [] (splitSlashes (stem endpoint)).tail

/-- Two identifiers that are read as the same part of an address. -/
inductive Meet (endpoint id id' : String) : Prop where
  /-- The endpoint has a fragment, and neither of them is sent. -/
  | dropped (number : '#' ∈ stem endpoint)
  /-- The endpoint has a query, and both go on with it. -/
  | asked (question : '?' ∈ stem endpoint)
      (query : encode isEncodedInQuery ((tail id).takeWhile (· ≠ '#')) =
        encode isEncodedInQuery ((tail id').takeWhile (· ≠ '#')))
  | resolved (question : '?' ∉ stem endpoint)
      (path : resolve (base endpoint) (segments (tail id)) =
        resolve (base endpoint) (segments (tail id')))
      (query : queryPart (tail id) = queryPart (tail id'))

/-- An identifier of which nothing is dropped, rewritten or taken for dots, and nothing may be taken
for encoded already. Slashes, question marks and characters that have to be encoded may be in it. -/
structure Verbatim (id : String) : Prop where
  literal : ∀ c ∈ id.toList, c ∉ ['%', '#', '\\', '\t', '\n', '\r']
  ended : ∀ c ∈ id.toList.getLast?, isBlank c = false
  undotted : ∀ s ∈ segments ('/' :: id.toList), s ≠ ['.'] ∧ s ≠ ['.', '.']

variable {endpoint id id' : String} {token token' : Token} {payload payload' : Json}
  {r r' : Request}

/-! ### The address of a report -/

/-- The endpoint without slashes at its end and without white space before it. -/
def trimmed (endpoint : String) : List Char :=
  tidyFront (endpoint.toList.reverse.dropWhile (· = '/')).reverse

theorem tidy_reports (endpoint : String) :
    tidy (address endpoint "reports").toList = trimmed endpoint ++ '/' :: "reports".toList := by
  have text : (address endpoint "reports").toList =
      (endpoint.toList.reverse.dropWhile (· = '/')).reverse ++ '/' :: "reports".toList := by
    simp [address]
  rw [text, tidy_append rfl]
  rfl

theorem tidy_report (endpoint id : String) : tidy (address endpoint ("reports/" ++ id)).toList =
    trimmed endpoint ++ '/' :: ("reports".toList ++ tail id) := by
  have text : (address endpoint ("reports/" ++ id)).toList =
      ((endpoint.toList.reverse.dropWhile (· = '/')).reverse ++ '/' :: "reports".toList) ++
        '/' :: id.toList := by
    simp [address]
  rw [text, tidy_append rfl, tidyFront, dropWhile_append_cons rfl, List.filter_append,
    List.append_assoc]
  rfl

/-- The update of a report goes to the server on which reports are made, and to a target below. -/
theorem parse?_report (endpoint id : String) :
    parse? (address endpoint ("reports/" ++ id)) =
      (parse? (address endpoint "reports")).map fun u =>
        { u with target := String.ofList (targetOf (stem endpoint ++ tail id)) } := by
  obtain ⟨rest, tail_eq⟩ : ∃ rest, tail id = '/' :: rest := ⟨_, tidy_slash_eq id.toList⟩
  rw [parse?_eq, parse?_eq, stem, tidy_reports, tidy_report, scheme?_append, scheme?_append, tail_eq]
  cases scheme? (trimmed endpoint) with
  | none => rfl
  | some r =>
      obtain ⟨secure, start⟩ := r
      -- slashes before the host do not count, so that `reports` may be read as the host
      have held : ∃ c ∈ start ++ '/' :: "reports".toList, isSlash c = false :=
        ⟨'r', by simp, rfl⟩
      have added := ofAuthority?_append secure held rest
      rw [List.append_assoc, List.cons_append] at added
      exact added

theorem update_eq_ok_iff : reportRequest endpoint token (some id) payload = .ok r ↔
    ∃ u, parse? (address endpoint "reports") = some u ∧ fitsHead token.secret = true ∧
      r = { method := .put
            url := { u with target := String.ofList (targetOf (stem endpoint ++ tail id)) }
            authorization := "Bearer " ++ token.secret
            contentType := "application/json", body := payload.compact } := by
  rw [reportRequest, request, parse?_report]
  cases parse? (address endpoint "reports") with
  | none => simp
  | some u =>
      simp only [Option.map_some]
      split
      · rename_i fits
        simp [fits, eq_comm]
      · rename_i unfit
        simp [unfit]

theorem target_of_sent (sent : reportRequest endpoint token (some id) payload = .ok r) :
    r.url.target = String.ofList (targetOf (stem endpoint ++ tail id)) := by
  obtain ⟨u, -, -, rfl⟩ := update_eq_ok_iff.mp sent
  rfl

/-- Whether there is a request at all does not depend on the identifier. -/
theorem sent_of_sent (sent : reportRequest endpoint token (some id) payload = .ok r)
    (other : String) : ∃ r', reportRequest endpoint token (some other) payload = .ok r' := by
  obtain ⟨u, read, fits, -⟩ := update_eq_ok_iff.mp sent
  exact ⟨_, update_eq_ok_iff.mpr ⟨u, read, fits, rfl⟩⟩

/-! ### Identifiers with one target -/

theorem rooted_tail (id : String) : Rooted (tail id) :=
  ⟨'/', _, tidy_slash_eq id.toList, rfl⟩

theorem stem_start (question : '?' ∉ stem endpoint) (number : '#' ∉ stem endpoint) :
    stem endpoint = [] ∨ Rooted (stem endpoint) := by
  unfold stem at question number ⊢
  revert question number
  cases scheme? (tidy (address endpoint "reports").toList) with
  | none => exact fun _ _ => .inl rfl
  | some r => exact behindHost_start r.2

theorem clean_resolved (endpoint : String) (cs : List Char) :
    Clean (resolve (base endpoint) (segments cs)) := by
  have started : Clean [] := fun _ none => absurd none List.not_mem_nil
  refine (started.below fun s member => ?_).resolve fun s member => ?_
  · exact not_isSlash_of_mem_splitSlashes (List.mem_of_mem_tail member)
  · exact not_isSlash_of_mem_segments member

theorem targets_eq_iff : targetOf (stem endpoint ++ tail id) = targetOf (stem endpoint ++ tail id') ↔
    Meet endpoint id id' := by
  by_cases number : '#' ∈ stem endpoint
  · rw [targetOf_append_of_number number, targetOf_append_of_number number]
    exact iff_of_true rfl (.dropped number)
  · by_cases question : '?' ∈ stem endpoint
    · rw [targetOf_append_of_question number question, targetOf_append_of_question number question,
        List.append_right_inj]
      constructor
      · exact .asked question
      · rintro (there | ⟨-, query⟩ | ⟨absent, -, -⟩)
        · exact absurd there number
        · exact query
        · exact absurd question absent
    · have start := stem_start question number
      rw [targetOf_append number question start (rooted_tail id),
        targetOf_append number question start (rooted_tail id')]
      constructor
      · intro same
        obtain ⟨path, query⟩ := target_inj (clean_resolved _ _) (clean_resolved _ _) same
        exact .resolved question path query
      · rintro (there | ⟨there, -⟩ | ⟨-, path, query⟩)
        · exact absurd there number
        · exact absurd there question
        · rw [← base, path, query]

theorem tail_of_ended (ended : ∀ c ∈ id.toList.getLast?, isBlank c = false) :
    tail id = '/' :: id.toList.filter isKept := by
  rw [tail, tidy_slash_eq, dropWhile_of_ended ended, List.reverse_reverse]

theorem tail_marked (ended : ∀ c ∈ id.toList.getLast?, isBlank c = false) :
    tail (id ++ "#") = tail id ++ ['#'] := by
  have marked : (id ++ "#").toList = id.toList ++ ['#'] := by simp
  have ended' : ∀ c ∈ (id ++ "#").toList.getLast?, isBlank c = false := by
    rw [marked, List.getLast?_concat]
    intro c last
    cases last
    rfl
  rw [tail_of_ended ended', tail_of_ended ended, marked, List.filter_append]
  rfl

/-- An identifier without the white space at its end. -/
def stripped (id : String) : String := String.ofList (id.toList.reverse.dropWhile isBlank).reverse

theorem tail_stripped (id : String) : tail (stripped id) = tail id := by
  rw [tail, tail, tidy_slash_eq, tidy_slash_eq, stripped, String.toList_ofList,
    List.reverse_reverse, List.dropWhile_idempotent]

theorem stripped_ended (id : String) : ∀ c ∈ (stripped id).toList.getLast?, isBlank c = false := by
  intro c last
  rw [stripped, String.toList_ofList, ← List.head?_reverse, List.reverse_reverse] at last
  have stopped := List.head?_dropWhile_not isBlank id.toList.reverse
  rw [last] at stopped
  exact stopped

/-- Every identifier has the target of another one as well: white space at the end is dropped, and
so is a number sign. -/
theorem exists_other_with_target (endpoint id : String) : ∃ other, other ≠ id ∧
    targetOf (stem endpoint ++ tail other) = targetOf (stem endpoint ++ tail id) := by
  by_cases ended : ∀ c ∈ id.toList.getLast?, isBlank c = false
  · refine ⟨id ++ "#", ?_, ?_⟩
    · intro same
      have length := congrArg String.length same
      rw [String.length_append] at length
      exact absurd length (Nat.succ_ne_self _)
    · rw [tail_marked ended, ← List.append_assoc, targetOf_fragment]
  · refine ⟨stripped id, ?_, ?_⟩
    · intro same
      exact ended (same ▸ stripped_ended id)
    · rw [tail_stripped]

/-! ### Identifiers with targets of their own -/

theorem mem_endpoint_of_mem_stem {c : Char} (member : c ∈ stem endpoint) :
    c ∈ endpoint.toList ∨ c ∈ "/reports".toList := by
  have inside : c ∈ tidy (address endpoint "reports").toList := by
    unfold stem at member
    cases read : scheme? (tidy (address endpoint "reports").toList) with
    | none =>
        rw [read] at member
        exact absurd member List.not_mem_nil
    | some r =>
        rw [read] at member
        exact mem_of_scheme? read (mem_of_mem_behindHost member)
  rw [tidy_reports] at inside
  refine (List.mem_append.mp inside).imp_left fun start => ?_
  have dropped := (List.dropWhile_sublist _).subset (List.mem_reverse.mp (mem_of_mem_tidyFront start))
  exact List.mem_reverse.mp dropped

namespace Verbatim

theorem not_mem (v : Verbatim id) {c : Char}
    (special : c ∈ ['%', '#', '\\', '\t', '\n', '\r']) : c ∉ '/' :: id.toList := by
  intro member
  rcases List.mem_cons.mp member with rfl | member
  · revert special
    decide
  · exact v.literal c member special

theorem tail_eq (v : Verbatim id) : tail id = '/' :: id.toList := by
  have kept : id.toList.filter isKept = id.toList := by
    refine List.filter_eq_self.mpr fun c member => ?_
    have literal := v.literal c member
    simp only [List.mem_cons, not_or] at literal
    simp [isKept, literal]
  rw [tail_of_ended v.ended, kept]

/-- The segments are read back as they are written. -/
theorem pathText_eq (v : Verbatim id) :
    pathText (segments ('/' :: id.toList)) = pathPart ('/' :: id.toList) :=
  pathText_segments fun member => v.not_mem (by decide) (List.mem_cons_of_mem _ member)

theorem not_percent_mem (v : Verbatim id) : '%' ∉ pathText (segments ('/' :: id.toList)) := by
  rw [v.pathText_eq]
  exact fun member => v.not_mem (by decide) (List.takeWhile_subset _ member)

theorem resolve_eq (v : Verbatim id) (base : List (List Char)) :
    resolve base (segments ('/' :: id.toList)) =
      base ++ (segments ('/' :: id.toList)).map (encode isEncodedInPath) := by
  refine resolve_of_undotted fun s there => ?_
  have literal : '%' ∉ s := fun member =>
    v.not_percent_mem (List.mem_flatMap.mpr ⟨s, there, List.mem_cons_of_mem _ member⟩)
  obtain ⟨single, double⟩ := v.undotted s there
  rw [isDot, isDoubleDot, plainDots_of_literal literal]
  exact ⟨beq_false_of_ne single, beq_false_of_ne double⟩

theorem eq_of_meet (v : Verbatim id) (v' : Verbatim id') (number : '#' ∉ stem endpoint)
    (meet : Meet endpoint id id') : id = id' := by
  have literal : '%' ∉ '/' :: id.toList := v.not_mem (by decide)
  have literal' : '%' ∉ '/' :: id'.toList := v'.not_mem (by decide)
  have unmarked : '#' ∉ '/' :: id.toList := v.not_mem (by decide)
  have unmarked' : '#' ∉ '/' :: id'.toList := v'.not_mem (by decide)
  have same : '/' :: id.toList = '/' :: id'.toList := by
    rcases meet with there | ⟨-, query⟩ | ⟨-, path, query⟩
    · exact absurd there number
    · rw [v.tail_eq, v'.tail_eq, takeWhile_of_not_mem unmarked,
        takeWhile_of_not_mem unmarked'] at query
      exact encode_inj literal literal' query
    · rw [v.tail_eq, v'.tail_eq] at path query
      -- without dots both paths are the base and the segments behind it
      rw [v.resolve_eq, v'.resolve_eq] at path
      have texts := congrArg pathText (List.append_cancel_left path)
      rw [pathText_map_encode, pathText_map_encode] at texts
      have paths := encode_inj v.not_percent_mem v'.not_percent_mem texts
      rw [v.pathText_eq, v'.pathText_eq] at paths
      exact eq_of_parts unmarked unmarked' literal literal' paths query
  exact String.toList_injective (List.cons.inj same).2

end Verbatim

/-- The updates of two reports have one target exactly if their identifiers are read as the same part
of an address. Two identifiers of which nothing is dropped or rewritten are not, if the endpoint has
no number sign. Yet every identifier shares its target with another one. -/
theorem update_targets_eq_iff (sent : reportRequest endpoint token (some id) payload = .ok r)
    (sent' : reportRequest endpoint token' (some id') payload' = .ok r') :
    (r.url.target = r'.url.target ↔ Meet endpoint id id') ∧
    ('#' ∉ endpoint.toList → Verbatim id → Verbatim id' → id ≠ id' →
      r.url.target ≠ r'.url.target) ∧
    ∃ other s, other ≠ id ∧ reportRequest endpoint token (some other) payload = .ok s ∧
      s.url.target = r.url.target := by
  have meet : r.url.target = r'.url.target ↔ Meet endpoint id id' := by
    rw [target_of_sent sent, target_of_sent sent', String.ofList_inj, targets_eq_iff]
  refine ⟨meet, ?_, ?_⟩
  · intro number v v' differs same
    have unmarked : '#' ∉ stem endpoint := fun member =>
      (mem_endpoint_of_mem_stem member).elim number (by decide)
    exact differs (v.eq_of_meet v' unmarked (meet.mp same))
  · obtain ⟨other, differs, same⟩ := exists_other_with_target endpoint id
    obtain ⟨s, accepted⟩ := sent_of_sent sent other
    refine ⟨other, s, differs, accepted, ?_⟩
    rw [target_of_sent accepted, target_of_sent sent, same]

namespace Nearby

def site : String := "http://localhost:8080/api"

def key : Token := ⟨"tok"⟩

/-- The request that updates a report. -/
def update (target : String) : Request where
  method := .put
  url := ⟨false, "localhost", 8080, target⟩
  authorization := "Bearer tok"
  contentType := "application/json"
  body := "null"

/-- An identifier with a slash and a space in it, and one with its beginning. -/
theorem targets_of_verbatim :
    reportRequest site key (some "r-1") .null = .ok (update "/api/reports/r-1") ∧
    reportRequest site key (some "r-1/b c") .null =
      .ok (update "/api/reports/r-1/b%20c") ∧
    (update "/api/reports/r-1").url.target ≠ (update "/api/reports/r-1/b%20c").url.target := by
  have sent : reportRequest site key (some "r-1") .null =
      .ok (update "/api/reports/r-1") := rfl
  have sent' : reportRequest site key (some "r-1/b c") .null =
      .ok (update "/api/reports/r-1/b%20c") := rfl
  have v : Verbatim "r-1" := ⟨by simp, by simp [isBlank], by decide⟩
  have v' : Verbatim "r-1/b c" := ⟨by simp, by simp [isBlank], by decide⟩
  obtain ⟨-, apart, -⟩ := update_targets_eq_iff sent sent'
  exact ⟨sent, sent', apart (by decide) v v' (by decide)⟩

/-- What follows a number sign is lost, and another report is replaced. -/
theorem number_sign_lost :
    "r-1#x" ≠ "r-1" ∧
    reportRequest site key (some "r-1#x") .null = .ok (update "/api/reports/r-1") ∧
    reportRequest site key (some "r-1") .null = .ok (update "/api/reports/r-1") :=
  ⟨by decide, rfl, rfl⟩

end Nearby

end Client

end SiteReport
