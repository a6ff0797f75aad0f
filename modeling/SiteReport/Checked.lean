import SiteReport.Composer

/-!
The look at the draft slot, staging and submission once more, with the steps at which the program
can break off: a span of time that cannot be held, and batches of size zero.
-/

namespace SiteReport

/-- The program cannot go on. -/
inductive Breakdown where
  | span
  | emptyBatches
  deriving DecidableEq

/-- A computation that may break off. -/
abbrev Checked := Except Breakdown

namespace Checked

/-- The largest number of 64 bits. -/
def longest : Int := 9223372036854775807

def long (n : Int) : Checked Int :=
  if -longest - 1 ≤ n ∧ n ≤ longest then .ok n else .error .span

/-- A span in nanoseconds. It holds as many milliseconds as fit 64 bits, into the past as into the
future. -/
def span (nanos : Int) : Checked Int :=
  if -longest * 1000000 ≤ nanos ∧ nanos ≤ longest * 1000000 then .ok nanos else .error .span

def hours (n : Int) : Checked Int := do
  let seconds ← long (n * 3600)
  span (seconds * 1000000000)

def chunks {α : Type} (size : Nat) (xs : List α) : Checked (List (List α)) :=
  if size = 0 then .error .emptyBatches else .ok (batches size xs)

end Checked

/-- Looks at the draft slot, with the age of the draft as a span. -/
def Store.Checked.checkDraft (s : Store) (now : Timestamp) (window : Int) :
    Checked (Except StoreError (DraftCheck × Store)) :=
  match s.loadDraft with
  | .ok none => .ok (.ok (.empty, s))
  | .ok (some draft) => do
    let age ← Checked.span (draft.age now)
    if age < window then return .ok (.offer draft, s)
    else return s.clearDraft.map fun after => (.stale, after)
  | .error .undecodable => .ok (s.clearDraft.map fun after => (.corrupt, after))
  | .error e => .ok (.error e)

def Composer.Checked.checkDraft (c : Composer) (now : Timestamp) :
    Checked (Except StoreError (DraftCheck × Composer)) := do
  let window ← Checked.hours c.settings.draftFreshnessHours
  let looked ← Store.Checked.checkDraft c.stock.store now window
  return looked.map fun r => (r.1, c.mapStore r.2)

def Stock.Checked.stageBatch (s : Stock) (completion : Completion) (files : List Incoming) :
    Checked (StageReport × Stock) := do
  let parts ← Checked.chunks (max s.batchSize 1) files
  return s.stageParts completion files.length parts

namespace Submission.Checked

def deliver (service : Service) (batchSize : Nat) (ticket : Ticket) (token : Token) (date : Date)
    (s : State) : Checked (Except SubmitError SubmitReport × State) := do
  let parts ← Checked.chunks (max batchSize 1) (jobs ticket.body)
  return deliverParts service ticket token date s parts

def attempt (service : Service) (batchSize : Nat) (ticket : Ticket) (s : State) :
    Checked (Except SubmitError SubmitReport × State) :=
  let s := s.note (.phase .validating)
  match ready service ticket with
  | .error cause => .ok (.error cause, s)
  | .ok (token, date) => deliver service batchSize ticket token date s

end Submission.Checked

def SubmitRun.Checked.start (service : Service) (batchSize : Nat) (stock : Stock)
    (ticket : Ticket) : Checked SubmitRun := do
  let attempted ← Submission.Checked.attempt service batchSize ticket { stock }
  return SubmitRun.ofAttempt ticket attempted

end SiteReport
