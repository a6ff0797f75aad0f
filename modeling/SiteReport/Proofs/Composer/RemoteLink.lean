import SiteReport.Proofs.Composer.Beside
import SiteReport.Proofs.Composer.LinkedDraft

/-!
The link between a document and its report on the server, through a session in which the reports are
sent one after another. The link is the identifier that became known last, by hand or by a submit
that succeeded. As long as there is one, a submit replaces the report that it names.
-/

namespace SiteReport

/-- The document stays the same one, and a report is sent by a whole submit only. -/
def Command.inTurn : Command → Bool
  | .restore _ => false
  | .discardDocument => false
  | .runSubmit _ _ _ => false
  | .applySubmit _ => false
  | _ => true

/-- A command with the answer that it got. -/
structure Exchange where
  command : Command
  answer : Answer

namespace Exchange

/-- The identifier of a report that becomes known. -/
def link? : Exchange → Option String
  | ⟨.setRemoteId id, _⟩ => some id
  | ⟨.submit _ _, .submitted _ (.ok report)⟩ => some report.remoteId
  | _ => none

/-- A submit that succeeded and made a new report. -/
def creates : Exchange → Bool
  | ⟨.submit _ _, .submitted _ (.ok report)⟩ => report.created
  | _ => false

/-- The identifier that became known last. -/
def lastLink? (talk : List Exchange) : Option String := talk.reverse.findSome? link?

theorem lastLink?_cons (exchange : Exchange) (talk : List Exchange) :
    lastLink? (exchange :: talk) = (lastLink? talk).or exchange.link? := by
  unfold lastLink?
  rw [List.reverse_cons, List.findSome?_append, List.findSome?_cons]
  cases exchange.link? <;> rfl

end Exchange

namespace Composer

/-- A command that is done at a moment, with its answer. -/
def exchangeAt (c : Composer) (m : Moment) (command : Command) : Exchange :=
  ⟨command, ((c.under m.faults).perform m.clock command).1⟩

/-- The commands of a session with their answers. -/
def exchanges : Composer → List (Moment × Command) → List Exchange
  | _, [] => []
  | c, (m, command) :: rest => c.exchangeAt m command :: exchanges (c.performAt m command) rest

variable {c : Composer} {clock : Clock}

/-! ### Commands that leave the link as it is -/

theorem remoteId_setHeader (c : Composer) (clock : Clock) (header : Header) :
    (c.setHeader clock header).remoteId = c.remoteId := by
  unfold setHeader
  split <;> rfl

theorem remoteId_deselect (c : Composer) (id : SectionId) :
    (c.deselect id).remoteId = c.remoteId := by
  unfold deselect
  split <;> rfl

/-- Only a command that links the document, replaces it or takes over a report sets the link. -/
theorem remoteId_perform {command : Command} (inTurn : command.inTurn = true)
    (unlinked : ∀ id, command ≠ .setRemoteId id) (unsent : ∀ service n, command ≠ .submit service n)
    (c : Composer) (clock : Clock) : (c.perform clock command).2.remoteId = c.remoteId := by
  cases within : command.isWithin with
  | true => exact (perform_beside within c clock).remoteId_eq
  | false =>
      cases command with
      | setHeader header => exact c.remoteId_setHeader clock header
      | setRemoteId id => exact absurd rfl (unlinked id)
      | applyStore entry => exact c.remoteId_setHeader clock _
      | removeSection id =>
          simp only [perform, removeSection]
          cases c.body.remove id with
          | error e => rfl
          | ok made =>
              exact (Beside.adopt (c.deselect id) clock made).remoteId_eq.trans
                (c.remoteId_deselect id)
      | toggleSelected id =>
          simp only [perform, toggleSelected]
          split
          · rfl
          · split
            · exact c.remoteId_deselect id
            · rfl
      | clearSelection =>
          simp only [perform, clearSelection]
          split <;> rfl
      | removeSelected =>
          exact (Beside.foldl (removeNext_beside clock) c.selection
            ([], { c with selection := [] })).remoteId_eq
      | submit service n => exact absurd rfl (unsent service n)
      | restore draft => cases inTurn
      | discardDocument => cases inTurn
      | applySubmit outcome => cases inTurn
      | _ => cases within

/-! ### The submits -/

/-- A report is a new one exactly if the document was not linked. -/
theorem created_of_sent {service : Service} {n : Nat} {stock : Stock} {ticket : Ticket}
    {report : SubmitReport}
    (sent : (SubmitRun.start service n stock ticket).outcome.result = .ok report) :
    report.created = ticket.remoteId.isNone := by
  have result : (Submission.attempt service n ticket { stock }).1 = .ok report := sent
  rcases Submission.attempt_cases service n ticket stock with ⟨cause, -, attempted⟩ |
    ⟨date, -, -, attempted⟩ | ⟨token, date, answers, before, -, attempted⟩
  · rw [attempted] at result
    cases result
  · rw [attempted] at result
    cases result
  · rw [attempted] at result
    unfold Submission.resultOf at result
    split at result
    · cases result
      rfl
    · cases result
    · cases result

/-- What a submit asks for and answers, and the link that it leaves. -/
theorem perform_submit (c : Composer) (clock : Clock) (service : Service) (n : Nat) :
    ∃ run result, (c.perform clock (.submit service n)).1 = .submitted run result ∧
      (∀ request, .send request ∈ run.trace → request.update = c.remoteId) ∧
      (∀ report, result = .ok report → report.created = c.remoteId.isNone) ∧
      (c.perform clock (.submit service n)).2.remoteId =
        (Exchange.link? ⟨.submit service n, .submitted run result⟩).or c.remoteId := by
  let a : Attempt := ⟨service, n, c.stock, c.beginSubmit⟩
  let ran : Composer := { c with stock := a.run.stock }
  refine ⟨a.run, (ran.applySubmit clock a.run.outcome).1, rfl, ?_, ?_, ?_⟩
  · intro request sent
    exact update_of_sent (Attempt.mem_trace_send_iff.mp sent)
  · intro report answered
    rcases ran.applySubmit_cases clock a.run.outcome with ⟨-, turned⟩ |
      ⟨-, ⟨e, -, turned⟩ | ⟨other, sent, accepted, -⟩⟩
    · rw [turned] at answered
      cases answered
    · rw [turned] at answered
      cases answered
    · rw [accepted] at answered
      cases answered
      exact created_of_sent sent
  · have same : (c.perform clock (.submit service n)).2 =
        (ran.applySubmit clock a.run.outcome).2 := rfl
    rw [same]
    rcases ran.applySubmit_cases clock a.run.outcome with ⟨-, turned⟩ |
      ⟨-, ⟨e, -, turned⟩ | ⟨report, -, accepted, applied⟩⟩
    · rw [turned]
      rfl
    · rw [turned]
      rfl
    · rw [applied.remoteId_eq, accepted]
      rfl

/-- After a command the document is linked to what the command made known, and else as before. A
submit makes a new report only if no identifier was known, and then one is. -/
theorem perform_linked {command : Command} (inTurn : command.inTurn = true) (c : Composer)
    (clock : Clock) :
    let exchange : Exchange := ⟨command, (c.perform clock command).1⟩
    (c.perform clock command).2.remoteId = exchange.link?.or c.remoteId ∧
    (exchange.creates = true → c.remoteId = none ∧ exchange.link?.isSome = true) := by
  intro exchange
  by_cases links : ∃ id, command = .setRemoteId id
  · obtain ⟨id, rfl⟩ := links
    exact ⟨rfl, nofun⟩
  · by_cases sends : ∃ service n, command = .submit service n
    · obtain ⟨service, n, rfl⟩ := sends
      obtain ⟨run, result, answered, -, created, linked⟩ := c.perform_submit clock service n
      have told : exchange = ⟨.submit service n, .submitted run result⟩ := congrArg _ answered
      rw [told]
      refine ⟨linked, ?_⟩
      cases result with
      | error e => exact nofun
      | ok report =>
          intro made
          have fresh := (created report rfl).symm.trans made
          exact ⟨Option.isNone_iff_eq_none.mp fresh, rfl⟩
    · have unlinked : ∀ id, command ≠ .setRemoteId id := fun id same => links ⟨id, same⟩
      have unsent : ∀ service n, command ≠ .submit service n :=
        fun service n same => sends ⟨service, n, same⟩
      have silent : exchange.link? = none ∧ exchange.creates = false := by
        cases command with
        | setRemoteId id => exact absurd rfl (unlinked id)
        | submit service n => exact absurd rfl (unsent service n)
        | _ => exact ⟨rfl, rfl⟩
      rw [silent.1, silent.2]
      exact ⟨remoteId_perform inTurn unlinked unsent c clock, nofun⟩

/-- The same of a command that is done at a moment. -/
theorem performAt_linked {command : Command} (inTurn : command.inTurn = true) (c : Composer)
    (m : Moment) :
    (c.performAt m command).remoteId = (c.exchangeAt m command).link?.or c.remoteId ∧
    ((c.exchangeAt m command).creates = true →
      c.remoteId = none ∧ (c.exchangeAt m command).link?.isSome = true) :=
  perform_linked inTurn (c.under m.faults) m.clock

/-- The document is linked to the report whose identifier became known last. -/
theorem remoteId_playAt {c : Composer} {session : List (Moment × Command)}
    (inTurn : ∀ e ∈ session, e.2.inTurn = true) :
    (c.playAt session).remoteId = (Exchange.lastLink? (c.exchanges session)).or c.remoteId := by
  induction session generalizing c with
  | nil => rfl
  | cons e rest ih =>
      obtain ⟨m, command⟩ := e
      obtain ⟨here, others⟩ := List.forall_mem_cons.mp inTurn
      have linked := (performAt_linked here c m).1
      have later := ih (c := c.performAt m command) others
      rw [exchanges, Exchange.lastLink?_cons, Option.or_assoc]
      exact later.trans (congrArg _ linked)

/-- A document that is linked makes no new report, and one that is not makes one at most. -/
theorem countP_creates_le {c : Composer} {session : List (Moment × Command)}
    (inTurn : ∀ e ∈ session, e.2.inTurn = true) :
    (c.exchanges session).countP Exchange.creates ≤ if c.remoteId = none then 1 else 0 := by
  induction session generalizing c with
  | nil => exact Nat.zero_le _
  | cons e rest ih =>
      obtain ⟨m, command⟩ := e
      obtain ⟨here, others⟩ := List.forall_mem_cons.mp inTurn
      obtain ⟨linked, creation⟩ := performAt_linked here c m
      have later := ih (c := c.performAt m command) others
      rw [exchanges, List.countP_cons]
      rw [linked] at later
      by_cases made : (c.exchangeAt m command).creates = true
      · -- from the new report on the document is linked
        obtain ⟨unlinked, known⟩ := creation made
        obtain ⟨id, known⟩ := Option.isSome_iff_exists.mp known
        rw [known, Option.some_or, if_neg (by simp)] at later
        rw [if_pos made, if_pos unlinked]
        omega
      · rw [if_neg made]
        refine Nat.le_trans later ?_
        cases (c.exchangeAt m command).link? with
        | none => exact Nat.le_refl _
        | some id => exact Nat.zero_le _

/-- Of the reports that are sent one after another at most one is a new one. Every submit of a
linked document replaces the report whose identifier became known last. -/
theorem one_report_then_updates {c : Composer} {session : List (Moment × Command)}
    (inTurn : ∀ e ∈ session, e.2.inTurn = true) :
    (c.exchanges session).countP Exchange.creates ≤ 1 ∧
    ∀ before m service n after, session = before ++ (m, .submit service n) :: after →
      let live := (c.playAt before).under m.faults
      live.remoteId = (Exchange.lastLink? (c.exchanges before)).or c.remoteId ∧
      ∃ run result, (live.perform m.clock (.submit service n)).1 = .submitted run result ∧
        ∀ id, live.remoteId = some id →
          (∀ request, .send request ∈ run.trace → request.update = some id) ∧
          ∀ report, result = .ok report → report.created = false := by
  constructor
  · have bound := countP_creates_le (c := c) inTurn
    split at bound <;> omega
  · intro before m service n after cut live
    have earlier : ∀ e ∈ before, e.2.inTurn = true := by
      intro e member
      exact inTurn e (cut ▸ List.mem_append_left _ member)
    refine ⟨remoteId_playAt earlier, ?_⟩
    obtain ⟨run, result, answered, updates, created, -⟩ := live.perform_submit m.clock service n
    refine ⟨run, result, answered, fun id known => ⟨?_, ?_⟩⟩
    · intro request sent
      exact (updates request sent).trans known
    · intro report accepted
      rw [created report accepted, known]
      rfl

namespace Relinked

def calm : Moment := { clock := Twins.clock }

/-- A new report, an identifier given by hand, and the report once more. -/
def session : List (Moment × Command) :=
  [(calm, .submit Twins.service 3), (calm, .setRemoteId "s"), (calm, .submit Twins.service 3)]

theorem second_report_replaces_given_one :
    (∀ e ∈ session, e.2.inTurn = true) ∧
    (Twins.composer.exchanges session).countP Exchange.creates = 1 ∧
    let live := (Twins.composer.playAt (session.take 2)).under calm.faults
    live.remoteId = some "s" ∧
    ∃ run result, (live.perform calm.clock (.submit Twins.service 3)).1 = .submitted run result ∧
      run.sent?.isSome = true ∧ (∀ request, .send request ∈ run.trace → request.update = some "s") ∧
      ∀ report, result = .ok report → report.created = false := by
  have inTurn : ∀ e ∈ session, e.2.inTurn = true := by simp [session, Command.inTurn]
  obtain ⟨once, submits⟩ := one_report_then_updates (c := Twins.composer) inTurn
  have first : 1 ≤ (Twins.composer.exchanges session).countP Exchange.creates := Nat.le_refl _
  refine ⟨inTurn, Nat.le_antisymm once first, ?_⟩
  intro live
  obtain ⟨linked, run, result, answered, updates⟩ :=
    submits (session.take 2) calm Twins.service 3 [] rfl
  have given : live.remoteId = some "s" := linked
  obtain ⟨sends, kept⟩ := updates "s" given
  refine ⟨given, run, result, answered, ?_, sends, kept⟩
  cases answered
  rfl

end Relinked

end Composer

end SiteReport
