import SiteReport.Proofs.Composer.Edits
import SiteReport.Proofs.Draft
import SiteReport.Proofs.Submission.Attempts
import SiteReport.Proofs.Submission.Resubmission

/-!
The attempts that a composer makes to send its report, with edits between them. The document of a
session stays well formed, so each photo is uploaded under the category of every list that shows it.
An address that a later attempt takes from the stock was uploaded under the category that the photo
had at that time, which a move may have changed since.
-/

namespace SiteReport

namespace Composer

/-! ### Sessions -/

/-- The attempt that a command makes. -/
def attempt? (c : Composer) : Command → Option Attempt
  | .runSubmit service batchSize ticket => some ⟨service, batchSize, c.stock, ticket⟩
  | .submit service batchSize => some ⟨service, batchSize, c.stock, c.beginSubmit⟩
  | _ => none

/-- The attempts of a session in their order. -/
def attempts : Composer → List (Clock × Command) → List Attempt
  | _, [] => []
  | c, (clock, command) :: rest =>
    (c.attempt? command).toList ++ attempts (c.perform clock command).2 rest

/-- What a composer can be asked for: to send a ticket that it gave out, to restore the draft of a
well-formed document, and no more identifiers than there are. -/
structure Admits (c : Composer) (tickets : List Ticket) (command : Command) : Prop where
  room : c.body.counter.toNat + c.given command < 4294967296
  ticket : ∀ service batchSize ticket, command = .runSubmit service batchSize ticket →
    ticket ∈ tickets
  draft : ∀ draft, command = .restore draft → ∃ header body remoteId savedAt,
    body.WellFormed ∧ draft = .capture header body remoteId savedAt

/-- Every command of the session is admitted, with the tickets that were given out so far. -/
def Regular : (tickets : List Ticket) → Composer → List (Clock × Command) → Prop
  | _, _, [] => True
  | tickets, c, (clock, command) :: rest =>
    c.Admits (c.beginSubmit :: tickets) command ∧
      Regular (c.beginSubmit :: tickets) (c.perform clock command).2 rest

variable {c : Composer} {clock : Clock}

theorem body_declineDraft (c : Composer) : c.declineDraft.2.body = c.body := by
  unfold declineDraft
  split <;> rfl

theorem body_applySubmit (c : Composer) (clock : Clock) (outcome : SubmitOutcome) :
    (c.applySubmit clock outcome).2.body = c.body ∨
      ∃ resolution, (c.applySubmit clock outcome).2.body = (c.body.resolve resolution).1 := by
  rcases c.applySubmit_cases clock outcome with ⟨-, kept⟩ |
    ⟨-, ⟨e, -, kept⟩ | ⟨report, -, -, applied⟩⟩
  · left
    rw [kept]
  · left
    rw [kept]
  · exact .inr ⟨_, applied.body_eq⟩

theorem wellFormed_applySubmit (h : c.body.WellFormed) (outcome : SubmitOutcome) :
    (c.applySubmit clock outcome).2.body.WellFormed := by
  rcases body_applySubmit c clock outcome with same | ⟨resolution, rewritten⟩
  · rwa [same]
  · rw [rewritten]
    exact h.resolve resolution

theorem perform_wellFormed {tickets : List Ticket} {command : Command} (h : c.body.WellFormed)
    (admits : c.Admits tickets command) : (c.perform clock command).2.body.WellFormed := by
  cases isEdit : command.isEdit with
  | true =>
      have edited := perform_edited isEdit c clock
      rw [edited.body_eq]
      refine h.run edited.plain (Nat.lt_of_le_of_lt ?_ admits.room)
      exact Nat.add_le_add_left (c.countP_editsOf_le command) _
  | false =>
      cases command with
      | restore draft =>
          obtain ⟨header, body, remoteId, savedAt, sound, rfl⟩ := admits.draft draft rfl
          exact sound.restored_capture header remoteId savedAt
      | discardDocument =>
          have emptied : (c.perform clock .discardDocument).2.body = {} := body_declineDraft _
          rw [emptied]
          exact .empty
      | applySubmit outcome => exact wellFormed_applySubmit h outcome
      | submit service batchSize =>
          exact wellFormed_applySubmit (c := (c.runSubmit service batchSize c.beginSubmit).2) h _
      | _ => cases isEdit

/-- The tickets of the attempts are well formed. -/
theorem attempts_wellFormed {tickets : List Ticket} {session : List (Clock × Command)}
    (start : c.body.WellFormed) (known : ∀ t ∈ tickets, t.body.WellFormed)
    (regular : c.Regular tickets session) {a : Attempt} (member : a ∈ c.attempts session) :
    a.ticket.body.WellFormed := by
  induction session generalizing c tickets with
  | nil => cases member
  | cons e rest ih =>
      obtain ⟨clock, command⟩ := e
      obtain ⟨admits, others⟩ := regular
      have known : ∀ t ∈ c.beginSubmit :: tickets, t.body.WellFormed := by
        intro t ht
        rcases List.mem_cons.mp ht with rfl | old
        · exact start
        · exact known t old
      rcases List.mem_append.mp member with now | later
      · cases command with
        | runSubmit service batchSize ticket =>
            cases List.mem_singleton.mp now
            exact known ticket (admits.ticket service batchSize ticket rfl)
        | submit service batchSize =>
            cases List.mem_singleton.mp now
            exact start
        | _ => cases now
      · exact ih (perform_wellFormed start admits) known others later

/-! ### Addresses on record -/

theorem records_discardDocument (c : Composer) (clock : Clock) :
    c.discardDocument.2.stock.store.RecordsFrom c.stock.store := by
  have released := (Stock.foldl_remove_lost (c.body.stagedPhotos.map (·.2)) c.stock).records
  have declined (d : Composer) : d.declineDraft.2.stock.store.RecordsFrom d.stock.store :=
    (filed_declineDraft d clock).records
  exact (declined _).trans released

theorem records_applySubmit (c : Composer) (clock : Clock) (outcome : SubmitOutcome) :
    (c.applySubmit clock outcome).2.stock.store.RecordsFrom c.stock.store := by
  rcases c.applySubmit_cases clock outcome with ⟨-, kept⟩ |
    ⟨-, ⟨e, -, kept⟩ | ⟨report, -, -, applied⟩⟩
  · rw [kept]
    exact .refl _
  · rw [kept]
    exact .refl _
  · exact applied.records

/-- An address comes on record by an attempt, or by hand. -/
theorem perform_recorded {command : Command}
    (byHand : ∀ id url, command ≠ .markUploaded id url) {photo : PhotoId} {url : String}
    (recorded : (c.perform clock command).2.stock.store.recorded? photo = some url) :
    c.stock.store.recorded? photo = some url ∨
      ∃ a ∈ c.attempt? command, ∃ category, a.Uploaded photo category url := by
  cases command with
  | markUploaded id url => exact absurd rfl (byHand id url)
  | restore draft => exact .inl recorded
  | discardDocument => exact .inl (records_discardDocument c clock photo url recorded)
  | applySubmit outcome => exact .inl (records_applySubmit c clock outcome photo url recorded)
  | runSubmit service batchSize ticket =>
      rcases Attempt.recorded_after (a := ⟨service, batchSize, c.stock, ticket⟩) recorded with
        old | uploaded
      · exact .inl old
      · exact .inr ⟨_, rfl, uploaded⟩
  | submit service batchSize =>
      have ran := records_applySubmit (c.runSubmit service batchSize c.beginSubmit).2 clock _
        photo url recorded
      rcases Attempt.recorded_after (a := ⟨service, batchSize, c.stock, c.beginSubmit⟩) ran with
        old | uploaded
      · exact .inl old
      · exact .inr ⟨_, rfl, uploaded⟩
  | _ => exact .inl (perform_records rfl rfl c clock photo url recorded)

theorem stock_of_attempt? {command : Command} {a : Attempt} (made : c.attempt? command = some a) :
    a.stock = c.stock := by
  cases command <;> cases made <;> rfl

/-- Every address on record goes back to an attempt. -/
theorem recorded_uploaded {session : List (Clock × Command)}
    (byHand : ∀ e ∈ session, ∀ id url, e.2 ≠ .markUploaded id url) {past : List Attempt}
    (origin : ∀ photo url, c.stock.store.recorded? photo = some url →
      ∃ e ∈ past, ∃ category, e.Uploaded photo category url)
    {earlier later : List Attempt} {a : Attempt}
    (history : c.attempts session = earlier ++ a :: later) {photo : PhotoId} {url : String}
    (recorded : a.stock.store.recorded? photo = some url) :
    ∃ e ∈ past ++ earlier, ∃ category, e.Uploaded photo category url := by
  induction session generalizing c past earlier with
  | nil => simp [attempts] at history
  | cons e rest ih =>
      obtain ⟨clock, command⟩ := e
      have others : ∀ e ∈ rest, ∀ id url, e.2 ≠ .markUploaded id url :=
        fun e he => byHand e (List.mem_cons_of_mem _ he)
      have next : ∀ photo url,
          (c.perform clock command).2.stock.store.recorded? photo = some url →
          ∃ e ∈ past ++ (c.attempt? command).toList, ∃ category, e.Uploaded photo category url := by
        intro photo url known
        rcases perform_recorded (byHand (clock, command) List.mem_cons_self) known with
          old | ⟨a, made, uploaded⟩
        · obtain ⟨e, he, uploaded⟩ := origin photo url old
          exact ⟨e, List.mem_append_left _ he, uploaded⟩
        · exact ⟨a, List.mem_append_right _ (Option.mem_toList.mpr made), uploaded⟩
      cases made : c.attempt? command with
      | none =>
          rw [attempts, made] at history
          rw [made] at next
          simpa using ih others next history
      | some first =>
          rw [attempts, made] at history
          rw [made] at next
          cases earlier with
          | nil =>
              -- the attempt is the first one, on the stock that the session starts with
              obtain ⟨rfl, -⟩ := List.cons.inj history
              rw [stock_of_attempt? made] at recorded
              simpa using origin photo url recorded
          | cons e earlier =>
              obtain ⟨rfl, tail⟩ := List.cons.inj history
              simpa using ih others next tail

/-- An attempt of a session sends addresses that were uploaded under the categories of their lists,
exactly if those were that it found on record. -/
theorem sent_addresses_uploaded_iff {session : List (Clock × Command)} (start : c.body.WellFormed)
    (regular : c.Regular [] session) {earlier later : List Attempt} {a : Attempt}
    (history : c.attempts session = earlier ++ a :: later) {sending : SendRequest}
    (sent : a.run.sent? = some sending) :
    (∃ date, validate a.ticket.header a.ticket.body = .ok date ∧
      sending.payload = .assemble a.ticket.header date a.ticket.body a.addresses) ∧
    ((∀ id, c.stock.store.recorded? id = none) →
      (∀ e ∈ session, ∀ id url, e.2 ≠ .markUploaded id url) →
      ∀ photo url, a.stock.store.recorded? photo = some url →
        ∃ e ∈ earlier, ∃ category, e.Uploaded photo category url) ∧
    ((∀ list photo url, (list, photo) ∈ a.ticket.body.stagedPhotos →
        a.addresses.lookup photo = some url →
        ∃ e ∈ earlier ++ [a], e.Uploaded photo list.category.uploadedAs url) ↔
      ∀ list photo p url, (list, photo) ∈ a.ticket.body.stagedPhotos →
        a.stock.get photo = .ok (some p) → p.uploadedUrl? = some url →
        ∃ e ∈ earlier, e.Uploaded photo list.category.uploadedAs url) := by
  have member : a ∈ c.attempts session := by simp [history]
  have sound := attempts_wellFormed start (by simp) regular member
  refine ⟨?_, ?_, Attempt.addresses_uploaded_iff sound sent earlier⟩
  · obtain ⟨token, date, answers, before, delivery, rfl, addresses_eq, -⟩ := Attempt.sent_spec sent
    refine ⟨date, delivery.valid, ?_⟩
    rw [addresses_eq]
    rfl
  · intro empty byHand photo url recorded
    have origin : ∀ photo url, c.stock.store.recorded? photo = some url →
        ∃ e ∈ ([] : List Attempt), ∃ category, e.Uploaded photo category url := by
      intro photo url known
      rw [empty photo] at known
      cases known
    simpa using recorded_uploaded byHand origin history recorded

/-! ### A photo that moves between two attempts -/

namespace Moved

def composer : Composer :=
  { Twins.composer with
    body := ⟨[⟨⟨1⟩, .photos (.beforeAfter [.staged Twins.left] [])⟩], 1⟩ }

/-- The server takes photos, but not the report. -/
def busy : Service :=
  { Twins.service with send := fun _ => .error (.status 503 "") }

/-- A failed attempt, the move of the photo to the other list, and an attempt that succeeds. -/
def session : List (Clock × Command) :=
  [(Twins.clock, .submit busy 3),
    (Twins.clock, .moveAcross ⟨⟨1⟩, .before⟩ 0 ⟨⟨1⟩, .after⟩),
    (Twins.clock, .submit Twins.service 3)]

def first : Attempt := ⟨busy, 3, composer.stock, composer.beginSubmit⟩

/-- The attempt after the first one and the given edits. -/
def next (edits : List (Clock × Command)) : Attempt :=
  let live := composer.play ((Twins.clock, .submit busy 3) :: edits)
  ⟨Twins.service, 3, live.stock, live.beginSubmit⟩

def second : Attempt := next [(Twins.clock, .moveAcross ⟨⟨1⟩, .before⟩ 0 ⟨⟨1⟩, .after⟩)]

theorem body_wellFormed : composer.body.WellFormed := by
  refine ⟨by decide, by decide, ?_, ?_⟩
  · intro list photos member
    rcases List.mem_cons.mp member with here | there
    · cases here
      decide
    · cases List.mem_singleton.mp there
      decide
  · intro list list' photos photos' photo member member' staged staged'
    rcases List.mem_cons.mp member with here | there
    · rcases List.mem_cons.mp member' with here' | there'
      · cases here
        cases here'
        rfl
      · cases List.mem_singleton.mp there'
        cases staged'
    · cases List.mem_singleton.mp there
      cases staged

theorem first_uploaded : first.Uploaded Twins.left .before "u" :=
  ⟨Twins.photo Twins.left, 0, _, rfl, rfl, rfl, rfl, rfl, rfl, rfl⟩

/-- The photo was uploaded as one before the work, and stands in the report among those after. -/
theorem moved_photo_keeps_address :
    composer.attempts session = [first, second] ∧
    (second.run.sent?.map (·.payload.sections)) = some
      [.photos ⟨1⟩ .beforeAfter { before := some [], after := some ["u"] }] ∧
    (⟨⟨1⟩, .after⟩, Twins.left) ∈ second.ticket.body.stagedPhotos ∧
    second.addresses.lookup Twins.left = some "u" ∧
    first.Uploaded Twins.left .before "u" ∧
    ∀ e ∈ composer.attempts session, ¬ e.Uploaded Twins.left .after "u" := by
  have attempts_eq : composer.attempts session = [first, second] := rfl
  refine ⟨attempts_eq, rfl, by decide, rfl, first_uploaded, ?_⟩
  intro e he uploaded
  have member := uploaded.category_mem
  rw [attempts_eq] at he
  rcases List.mem_cons.mp he with here | later
  · have asked : (Submission.requestsOf first.run.trace).map (·.category) = [.before] := rfl
    rw [here, asked] at member
    cases List.mem_singleton.mp member
  · have asked : (Submission.requestsOf second.run.trace).map (·.category) = [] := rfl
    rw [List.mem_singleton.mp later, asked] at member
    cases member

/-- Without the move the address is right in the second report. -/
theorem unmoved_photo_address :
    (next []).addresses.lookup Twins.left = some "u" ∧
    ∃ e ∈ [first] ++ [next []], e.Uploaded Twins.left .before "u" := by
  let retry : List (Clock × Command) :=
    [(Twins.clock, .submit busy 3), (Twins.clock, .submit Twins.service 3)]
  have regular : composer.Regular [] retry := by
    refine ⟨⟨by decide, ?_, ?_⟩, ⟨by decide, ?_, ?_⟩, trivial⟩ <;> intros <;> simp_all
  have history : composer.attempts retry = [first] ++ next [] :: [] := rfl
  obtain ⟨-, -, uploads⟩ :=
    sent_addresses_uploaded_iff body_wellFormed regular history rfl
  have found : (next []).addresses.lookup Twins.left = some "u" := rfl
  refine ⟨found, uploads.mpr ?_ ⟨⟨1⟩, .before⟩ Twins.left "u" (by decide) found⟩
  intro list photo p url staged stored recorded
  cases List.mem_singleton.mp staged
  have marked : (next []).stock.get Twins.left =
      .ok (some ((Twins.photo Twins.left).marked "u")) := rfl
  rw [marked] at stored
  cases stored
  cases recorded
  exact ⟨first, List.mem_singleton_self first, first_uploaded⟩

end Moved

end Composer

end SiteReport
