import SiteReport.Proofs.Store.Backends

/-!
Stores that share one database. Each has a draft slot under a key of its own, and all have the same
photos. A session is a list of calls in the order in which they reach the database, each one made
by one of the stores. Seen from one store its drafts are those of a slot in memory that nobody else
knows of, and the photos are those of a database that keeps no drafts at all.
-/

namespace SiteReport

/-- A call on the draft slot of a store. -/
inductive DraftCall where
  | save (draft : Snapshot)
  | load
  | clear

inductive DraftAnswer where
  | done
  | draft (found : Option Snapshot)
  | failed (e : StoreError)

/-- What a session asks of a store. -/
inductive StoreRequest where
  | photos (call : PhotoCall)
  | draft (call : DraftCall)

inductive StoreReply where
  | photos (answer : PhotoAnswer)
  | draft (answer : DraftAnswer)

namespace Store

/-- The answer and the store after a call on the draft slot. -/
def serveDraft (s : Store) : DraftCall → DraftAnswer × Store
  | .save draft =>
    match s.saveDraft draft with
    | .ok after => (.done, after)
    | .error e => (.failed e, s)
  | .load =>
    (match s.loadDraft with
      | .ok found => .draft found
      | .error e => .failed e, s)
  | .clear =>
    match s.clearDraft with
    | .ok after => (.done, after)
    | .error e => (.failed e, s)

def draftAnswers (s : Store) : List DraftCall → List DraftAnswer
  | [] => []
  | call :: rest => (s.serveDraft call).1 :: (s.serveDraft call).2.draftAnswers rest

def handle (s : Store) : StoreRequest → StoreReply × Store
  | .photos call => (.photos (s.serve call).1, (s.serve call).2)
  | .draft call => (.draft (s.serveDraft call).1, (s.serveDraft call).2)

/-- The store on the same database that has its draft under the key. -/
def under (s : Store) (key : String) : Store :=
  match s.backend with
  | .memory _ => s
  | .database d _ => { s with backend := .database d key }

end Store

/-- Calls in the order in which they are served, with the one who makes each. -/
abbrev StoreSession (ι : Type) := List (ι × StoreRequest)

namespace StoreSession

variable {ι : Type}

/-- The replies of stores with the given keys, all on the database of `s`. -/
def replies (key : ι → String) (s : Store) : StoreSession ι → List (ι × StoreReply)
  | [] => []
  | (i, request) :: rest =>
    (i, ((s.under (key i)).handle request).1) ::
      replies key ((s.under (key i)).handle request).2 rest

/-- The calls on the photos, whoever makes them. -/
def photoCalls : StoreSession ι → List PhotoCall
  | [] => []
  | (_, .photos call) :: rest => call :: photoCalls rest
  | (_, .draft _) :: rest => photoCalls rest

def photoAnswers : List (ι × StoreReply) → List PhotoAnswer
  | [] => []
  | (_, .photos answer) :: rest => answer :: photoAnswers rest
  | (_, .draft _) :: rest => photoAnswers rest

variable [DecidableEq ι]

/-- The calls that one store makes on its draft. -/
def draftCalls (i : ι) : StoreSession ι → List DraftCall
  | [] => []
  | (_, .photos _) :: rest => draftCalls i rest
  | (j, .draft call) :: rest => if j = i then call :: draftCalls i rest else draftCalls i rest

def draftAnswers (i : ι) : List (ι × StoreReply) → List DraftAnswer
  | [] => []
  | (_, .photos _) :: rest => draftAnswers i rest
  | (j, .draft answer) :: rest =>
    if j = i then answer :: draftAnswers i rest else draftAnswers i rest

end StoreSession

/-! ### What a call leaves alone -/

namespace Database

variable {key other : String}

theorem draftText?_clearDraft_ne (d : Database) (apart : other ≠ key) :
    (d.clearDraft key).draftText? other = d.draftText? other := by
  unfold clearDraft draftText?
  rw [List.find?_filter]
  congr 2
  funext row
  by_cases here : row.key = other
  · simp [here, apart]
  · simp [here]

theorem draftText?_putDraft_ne (d : Database) (apart : other ≠ key) (text : String) :
    (d.putDraft key text).draftText? other = d.draftText? other := by
  have miss : (key == other) = false := by simpa using Ne.symm apart
  have kept := d.draftText?_clearDraft_ne apart
  unfold draftText? at kept ⊢
  simpa [putDraft, List.find?_append, List.find?_cons, miss] using kept

end Database

namespace Store

/-- Drafts and photos lie apart: a call on the photos is answered from the rows of photos, and the
rows of drafts are as they were, whatever they are. -/
theorem serve_photos (photos : List PhotoRow) (call : PhotoCall) :
    ∃ answer after, ∀ drafts key,
      serve { backend := .database ⟨photos, drafts⟩ key } call =
        (answer, { backend := .database ⟨after, drafts⟩ key }) := by
  cases call with
  | put p =>
      exact ⟨.done, ((⟨photos, []⟩ : Database).put p).photos, fun _ _ => rfl⟩
  | get id =>
      exact ⟨.ofRead .photo ((⟨photos, []⟩ : Database).get id), photos, fun _ _ => rfl⟩
  | getAll => exact ⟨.ofRead .photos (⟨photos, []⟩ : Database).getAll, photos, fun _ _ => rfl⟩
  | delete id =>
      exact ⟨.flag ((⟨photos, []⟩ : Database).has id), ((⟨photos, []⟩ : Database).delete id).photos,
        fun _ _ => rfl⟩
  | clear => exact ⟨.done, [], fun _ _ => rfl⟩
  | markUploaded id url =>
      exact ⟨.flag ((⟨photos, []⟩ : Database).has id),
        ((⟨photos, []⟩ : Database).markUploaded id url).photos, fun _ _ => rfl⟩

/-- A call on a draft in a database is answered as by a slot in memory that holds the same text.
Photos and the drafts under other keys are as they were. -/
theorem serveDraft_mirrors {m : MemoryStore} {d : Database} {key : String}
    (held : m.draft = d.draftText? key) (call : DraftCall) :
    ∃ answer m' d',
      serveDraft { backend := .memory m } call = (answer, { backend := .memory m' }) ∧
      serveDraft { backend := .database d key } call =
        (answer, { backend := .database d' key }) ∧
      m'.draft = d'.draftText? key ∧ d'.photos = d.photos ∧
      ∀ other, other ≠ key → d'.draftText? other = d.draftText? other := by
  cases call with
  | save draft =>
      refine ⟨.done, { m with draft := some draft.text }, d.putDraft key draft.text, rfl, rfl,
        (d.draftText?_putDraft key draft.text).symm, rfl, ?_⟩
      exact fun other apart => d.draftText?_putDraft_ne apart draft.text
  | load =>
      have same : d.loadDraft key = m.loadDraft := by
        unfold Database.loadDraft MemoryStore.loadDraft
        cases text : d.draftText? key with
        | none => simp only [held, text]
        | some written => cases read : Snapshot.parse? written <;> simp only [held, text, read]
      refine ⟨_, m, d, rfl, ?_, held, rfl, fun _ _ => rfl⟩
      simp only [serveDraft, loadDraft, guarded, same]
  | clear =>
      refine ⟨.done, { m with draft := none }, d.clearDraft key, rfl, rfl,
        (d.draftText?_clearDraft key).symm, rfl, ?_⟩
      exact fun other apart => d.draftText?_clearDraft_ne apart

end Store

/-! ### Sessions -/

namespace StoreSession

variable {ι : Type}

/-- The photos are served as by a single store, whatever drafts there are. -/
theorem photoAnswers_replies (key : ι → String) (session : StoreSession ι)
    (photos : List PhotoRow) (drafts others : List DraftRow) (k k' : String) :
    photoAnswers (replies key { backend := .database ⟨photos, drafts⟩ k } session) =
      Store.answers { backend := .database ⟨photos, others⟩ k' } (photoCalls session) := by
  induction session generalizing photos drafts k with
  | nil => rfl
  | cons step rest ih =>
      obtain ⟨j, call | call⟩ := step
      · obtain ⟨answer, after, served⟩ := Store.serve_photos photos call
        simp only [replies, photoAnswers, photoCalls, Store.under, Store.handle, Store.answers,
          served]
        rw [ih]
      · let d : Database := ⟨photos, drafts⟩
        obtain ⟨answer, m', d', -, served, -, kept, -⟩ :=
          Store.serveDraft_mirrors (m := { draft := d.draftText? (key j) }) (d := d) rfl call
        obtain ⟨photos', drafts'⟩ := d'
        obtain rfl : photos' = photos := kept
        have handled : (Store.serveDraft { backend := .database ⟨photos', drafts⟩ (key j) } call).2 =
          { backend := .database ⟨photos', drafts'⟩ (key j) } := congrArg Prod.snd served
        simp only [replies, photoAnswers, photoCalls, Store.under, Store.handle, handled]
        exact ih photos' drafts' (key j)

variable [DecidableEq ι]

/-- The draft of one store is served as by a slot of its own. -/
theorem draftAnswers_replies {key : ι → String} (distinct : Function.Injective key) (i : ι)
    (session : StoreSession ι) {m : MemoryStore} {d : Database}
    (held : m.draft = d.draftText? (key i)) (k : String) :
    draftAnswers i (replies key { backend := .database d k } session) =
      Store.draftAnswers { backend := .memory m } (draftCalls i session) := by
  induction session generalizing m d k with
  | nil => rfl
  | cons step rest ih =>
      obtain ⟨j, call | call⟩ := step
      · obtain ⟨answer, after, served⟩ := Store.serve_photos d.photos call
        have handled := congrArg Prod.snd (served d.drafts (key j))
        simp only [replies, draftAnswers, draftCalls, Store.under, Store.handle]
        refine (congrArg _ (congrArg (replies key · rest) handled)).trans ?_
        exact ih (d := ⟨after, d.drafts⟩) held (key j)
      · by_cases own : j = i
        · subst own
          obtain ⟨answer, m', d', slot, served, held', -, -⟩ := Store.serveDraft_mirrors held call
          simp only [replies, draftAnswers, draftCalls, Store.under, Store.handle,
            Store.draftAnswers, if_true, slot, served]
          rw [ih held']
        · obtain ⟨answer, m', d', -, served, -, -, kept⟩ :=
            Store.serveDraft_mirrors (m := { draft := d.draftText? (key j) }) (d := d) rfl call
          have apart : key i ≠ key j := fun same => own (distinct same.symm)
          simp only [replies, draftAnswers, draftCalls, Store.under, Store.handle, if_neg own,
            served]
          exact ih (held.trans (kept (key i) apart).symm) (key j)

/-- Stores on one database, under different keys, keep out of each other's drafts, and drafts and
photos keep out of each other's way. -/
theorem own_draft_and_shared_photos {key : ι → String} (distinct : Function.Injective key)
    (d : Database) (k : String) (session : StoreSession ι) :
    (∀ i, draftAnswers i (replies key { backend := .database d k } session) =
      Store.draftAnswers { backend := .memory { draft := d.draftText? (key i) } }
        (draftCalls i session)) ∧
    photoAnswers (replies key { backend := .database d k } session) =
      Store.answers { backend := .database { d with drafts := [] } k } (photoCalls session) := by
  constructor
  · intro i
    exact draftAnswers_replies distinct i session rfl k
  · exact photoAnswers_replies key session d.photos d.drafts [] k k

namespace Neighbours

def key : Bool → String
  | true => "day"
  | false => "night"

theorem key_injective : Function.Injective key := by
  intro b c same
  cases b <;> cases c <;> first | rfl | exact absurd same (by decide)

def draft : Snapshot := .capture {} {} none Crossed.older.createdAt

/-- One saves a draft and stages a photo; the other finds no draft, and deletes the photo. -/
def session : StoreSession Bool :=
  [(true, .draft (.save draft)), (true, .photos (.put Crossed.older)), (false, .draft .load),
    (false, .photos (.delete Crossed.older.id)), (false, .draft .clear), (true, .draft .load)]

theorem draft_and_photo_shared :
    Function.Injective key ∧
    (∀ b, draftAnswers b (replies key { backend := .database {} "day" } session) =
      Store.draftAnswers { backend := .memory {} } (draftCalls b session)) ∧
    photoAnswers (replies key { backend := .database {} "day" } session) =
      Store.answers { backend := .database {} "day" } (photoCalls session) ∧
    draftAnswers false (replies key { backend := .database {} "day" } session) =
      [.draft none, .done] ∧
    photoAnswers (replies key { backend := .database {} "day" } session) =
      [.done, .flag true] := by
  obtain ⟨drafts, photos⟩ := own_draft_and_shared_photos key_injective {} "day" session
  exact ⟨key_injective, drafts, photos, rfl, rfl⟩

end Neighbours

end StoreSession

end SiteReport
