import Mathlib.Control.Monad.Basic
import SiteReport.Checked
import SiteReport.Proofs.Calendar.Days
import SiteReport.Proofs.Picture.Normalize
import SiteReport.Settings.File

/-!
Settings that are accepted do not make the program break off while it stages or submits, whatever the
files and the document are. The look at the draft slot breaks off exactly if the window in hours is
too long for a span, which nobody asks of the settings.
-/

namespace SiteReport

/-! ### Spans of time -/

theorem Date.dayNumber_mem (d : Date) : -97000000 ≤ d.dayNumber ∧ d.dayNumber ≤ 97000000 := by
  have within := d.dayOfYear_lt_year
  have first := daysBeforeYear_mono d.year_mem.1
  have last := daysBeforeYear_mono (Int.add_le_add_right d.year_mem.2 1)
  -- The two ends of the calendar, in days from the year one.
  have bottom : daysBeforeYear (-262143) = -95746130 := by decide
  have top : daysBeforeYear (262142 + 1) = 95745399 := by decide
  rw [d.dayNumber_eq]
  unfold epoch
  omega

namespace Timestamp

theorem secondsBetween_mem (earlier later : TimeOfDay) :
    -86400 ≤ secondsBetween earlier later ∧ secondsBetween earlier later ≤ 86400 := by
  have := earlier.secondOfDay_lt
  have := later.secondOfDay_lt
  unfold secondsBetween
  simp only
  split
  · omega
  · split <;> omega

/-- The time between any two instants is a span: the calendar has half a million years, and a span
some three hundred million. -/
theorem span_nanosBetween (earlier later : Timestamp) :
    Checked.span (nanosBetween earlier later) = .ok (nanosBetween earlier later) := by
  have := earlier.date.dayNumber_mem
  have := later.date.dayNumber_mem
  have := secondsBetween_mem earlier.time later.time
  have := earlier.time.nano_lt
  have := later.time.nano_lt
  refine if_pos ?_
  unfold nanosBetween Checked.longest
  omega

end Timestamp

namespace Checked

variable {n : Int}

theorem hours_of_window
    (window : -EditSettings.windowLimit ≤ n ∧ n ≤ EditSettings.windowLimit) :
    hours n = .ok (n * 3600000000000) := by
  unfold EditSettings.windowLimit at window
  have seconds : long (n * 3600) = .ok (n * 3600) := if_pos (by unfold longest; omega)
  have nanos : span (n * 3600 * 1000000000) = .ok (n * 3600 * 1000000000) :=
    if_pos (by unfold longest; omega)
  rw [hours, seconds]
  exact nanos.trans (congrArg _ (Int.mul_assoc n 3600 1000000000))

/-- The seconds may still fit 64 bits when their milliseconds do not. -/
theorem hours_of_no_window
    (none : ¬ (-EditSettings.windowLimit ≤ n ∧ n ≤ EditSettings.windowLimit)) :
    hours n = .error .span := by
  unfold EditSettings.windowLimit at none
  by_cases fits : -longest - 1 ≤ n * 3600 ∧ n * 3600 ≤ longest
  · rw [hours, long, if_pos fits]
    exact if_neg (by unfold longest; omega)
  · rw [hours, long, if_neg fits]
    rfl

/-- Batches of a size that is raised to one are those that a size of zero gives. -/
theorem chunks_max {α : Type} (size : Nat) (xs : List α) :
    chunks (max size 1) xs = .ok (batches size xs) := by
  have less : max size 1 - 1 = size - 1 := by omega
  rw [chunks, if_neg (by omega), batches, batches, less]

end Checked

/-! ### The draft slot -/

theorem Store.checked_checkDraft (s : Store) (now : Timestamp) (window : Int) :
    Store.Checked.checkDraft s now window = .ok (s.checkDraft now window) := by
  unfold Store.Checked.checkDraft Store.checkDraft
  cases s.loadDraft with
  | ok loaded =>
      cases loaded with
      | none => rfl
      | some draft =>
          simp only [Snapshot.isFresh, Snapshot.age, Timestamp.span_nanosBetween]
          by_cases fresh : Timestamp.nanosBetween draft.savedAt now < window
          · simp only [fresh, decide_true, if_true]
            exact if_pos fresh
          · simp only [fresh, decide_false]
            exact if_neg fresh
  | error e => cases e <;> rfl

namespace EditSettings

/-- The window in hours, into the past or the future, is short enough for a span. -/
def HasWindow (e : EditSettings) : Prop :=
  -windowLimit ≤ e.draftFreshnessHours ∧ e.draftFreshnessHours ≤ windowLimit

end EditSettings

namespace Composer

variable {c : Composer}

theorem checked_checkDraft_of_window (window : c.settings.HasWindow) (now : Timestamp) :
    ∃ answer, Checked.checkDraft c now = .ok answer ∧
      c.checkDraft now = answer.mapError .store := by
  let nanos := c.settings.draftFreshnessHours * 3600000000000
  have spanned : SiteReport.Checked.hours c.settings.draftFreshnessHours = .ok nanos :=
    SiteReport.Checked.hours_of_window window
  have given : c.settings.draftWindow? = some nanos := if_pos window
  unfold Checked.checkDraft checkDraft
  rw [spanned, given]
  refine ⟨(c.stock.store.checkDraft now nanos).map fun r => (r.1, c.mapStore r.2), ?_, ?_⟩
  · simp only [Bind.bind, Except.bind, Store.checked_checkDraft]
    rfl
  · cases looked : c.stock.store.checkDraft now nanos <;> simp only [looked] <;> rfl

theorem checked_checkDraft_of_no_window (none : ¬ c.settings.HasWindow) (now : Timestamp) :
    Checked.checkDraft c now = .error .span := by
  unfold Checked.checkDraft
  rw [SiteReport.Checked.hours_of_no_window none]
  rfl

/-- The look at the slot breaks off exactly for want of a window. -/
theorem checked_checkDraft_eq_error_iff (now : Timestamp) :
    Checked.checkDraft c now = .error .span ↔ ¬ c.settings.HasWindow := by
  refine ⟨fun broken window => ?_, fun none => checked_checkDraft_of_no_window none now⟩
  obtain ⟨answer, answered, -⟩ := checked_checkDraft_of_window window now
  rw [answered] at broken
  cases broken

end Composer

/-! ### Batches -/

theorem Stock.checked_stageBatch (s : Stock) (completion : Completion) (files : List Incoming) :
    Stock.Checked.stageBatch s completion files = .ok (s.stageBatch completion files) := by
  unfold Stock.Checked.stageBatch
  rw [Checked.chunks_max]
  rfl

theorem Submission.checked_deliver (service : Service) (batchSize : Nat) (ticket : Ticket)
    (token : Token) (date : Date) (s : State) :
    Submission.Checked.deliver service batchSize ticket token date s =
      .ok (deliver service batchSize ticket token date s) := by
  unfold Submission.Checked.deliver
  simp only [SiteReport.Checked.chunks_max]
  rfl

theorem Submission.checked_attempt (service : Service) (batchSize : Nat) (ticket : Ticket)
    (s : State) : Submission.Checked.attempt service batchSize ticket s =
      .ok (attempt service batchSize ticket s) := by
  unfold Submission.Checked.attempt attempt
  cases ready service ticket with
  | error cause => rfl
  | ok found => exact checked_deliver service batchSize ticket found.1 found.2 _

theorem SubmitRun.checked_start (service : Service) (batchSize : Nat) (stock : Stock)
    (ticket : Ticket) : SubmitRun.Checked.start service batchSize stock ticket =
      .ok (start service batchSize stock ticket) := by
  unfold SubmitRun.Checked.start
  rw [Submission.checked_attempt]
  rfl

/-! ### Settings that are accepted -/

namespace Settings

theorem check_eq_ok_iff {s given : Settings} : s.check = .ok given ↔
    given = s ∧ (1 ≤ s.edit.jpegQuality ∧ s.edit.jpegQuality ≤ 100) ∧
      (1 ≤ s.edit.stageBatchSize ∧ 1 ≤ s.edit.uploadBatchSize) ∧ 1 ≤ s.edit.maxImageWidth := by
  unfold check
  split
  · simp only [reduceCtorEq, false_iff]
    omega
  · split
    · simp only [reduceCtorEq, false_iff]
      omega
    · split
      · simp only [reduceCtorEq, false_iff]
        omega
      · rw [Except.ok.injEq, eq_comm]
        exact (and_iff_left (by omega)).symm

theorem batch_sizes_of_accepted {environment : List Variable} {text : String} {s : Settings}
    (accepted : parse environment text = .ok s) :
    1 ≤ s.edit.stageBatchSize ∧ 1 ≤ s.edit.uploadBatchSize := by
  unfold parse at accepted
  split at accepted
  · cases accepted
  · rename_i given _
    cases checked : given.check with
    | error e =>
        rw [checked] at accepted
        cases accepted
    | ok same =>
        rw [checked] at accepted
        cases accepted
        obtain ⟨rfl, -, sizes, -⟩ := check_eq_ok_iff.mp checked
        exact sizes

/-- With settings that are accepted no batch is of size zero, so staging and submitting come to
their end. Only the window may be too long, and then the look at the slot breaks off whatever is in
the slot and whatever the time is. -/
theorem breaks_off_iff_of_accepted (environment : List Variable) (text : String) (s : Settings)
    (accepted : parse environment text = .ok s) :
    (∀ files : List Incoming, Checked.chunks s.edit.stageBatchSize files =
      .ok (batches s.edit.stageBatchSize files)) ∧
    (∀ jobs : List Submission.Job, Checked.chunks s.edit.uploadBatchSize jobs =
      .ok (batches s.edit.uploadBatchSize jobs)) ∧
    (∀ (codec : Codec) (store : Store) (completion : Completion) (files : List Incoming),
      let stock := Stock.ofSettings codec store s.edit
      Stock.Checked.stageBatch stock completion files =
        .ok (stock.stageBatch completion files)) ∧
    (∀ (service : Service) (stock : Stock) (ticket : Ticket),
      SubmitRun.Checked.start service s.edit.uploadBatchSize stock ticket =
        .ok (SubmitRun.start service s.edit.uploadBatchSize stock ticket)) ∧
    ∀ (c : Composer) (now : Timestamp), c.settings = s.edit →
      (Composer.Checked.checkDraft c now = .error .span ↔ ¬ s.edit.HasWindow) ∧
      (s.edit.HasWindow → ∃ answer, Composer.Checked.checkDraft c now = .ok answer ∧
        c.checkDraft now = answer.mapError .store) := by
  obtain ⟨staged, uploaded⟩ := batch_sizes_of_accepted accepted
  refine ⟨fun files => if_neg (by omega), fun jobs => if_neg (by omega),
    fun codec store completion files => Stock.checked_stageBatch _ completion files,
    fun service stock ticket => SubmitRun.checked_start service _ stock ticket,
    fun c now settings => ?_⟩
  rw [← settings]
  exact ⟨Composer.checked_checkDraft_eq_error_iff now,
    fun window => Composer.checked_checkDraft_of_window window now⟩

namespace Freshness

def opening (s : Settings) : Composer :=
  .new (.ofSettings Pixel.codec ⟨.memory {}, fun _ => none⟩ s.edit) s.edit

def endless : Settings :=
  { edit := { draftFreshnessHours := 2562047788016 } }

/-- One hour past the longest window is accepted. -/
theorem endless_window_breaks_off :
    parse [] "[composer]\ndraft_freshness_hours = 2562047788016\n" = .ok endless ∧
    ∀ now, Composer.Checked.checkDraft (opening endless) now = .error .span ∧
      (opening endless).checkDraft now = .error (.noWindow 2562047788016) := by
  refine ⟨by decide +kernel, fun now => ⟨?_, rfl⟩⟩
  apply Composer.checked_checkDraft_of_no_window
  exact fun window => absurd window.2 (by decide)

def twoDays : Settings :=
  { edit := { draftFreshnessHours := 48, stageBatchSize := 2 } }

theorem two_days_looked_at :
    parse [] "[composer]\ndraft_freshness_hours = 48\nstage_batch_size = 2\n" = .ok twoDays ∧
    twoDays.edit.HasWindow ∧
    (∀ files : List Incoming, Checked.chunks 2 files = .ok (batches 2 files)) ∧
    ∀ now, ∃ answer, Composer.Checked.checkDraft (opening twoDays) now = .ok answer ∧
      (opening twoDays).checkDraft now = answer.mapError .store := by
  have accepted : parse [] "[composer]\ndraft_freshness_hours = 48\nstage_batch_size = 2\n" =
      .ok twoDays := by decide +kernel
  have window : twoDays.edit.HasWindow := ⟨by decide, by decide⟩
  obtain ⟨staged, -, -, -, looks⟩ := breaks_off_iff_of_accepted [] _ twoDays accepted
  exact ⟨accepted, window, staged, fun now => (looks (opening twoDays) now rfl).2 window⟩

end Freshness

end Settings

end SiteReport
