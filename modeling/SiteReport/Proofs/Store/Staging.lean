import SiteReport.Proofs.Batches
import SiteReport.Proofs.Picture.Normalize
import SiteReport.Proofs.Store.Extended
import SiteReport.Stock

/-!
Files on their way into the store. A file becomes a photo if it is a picture, and is refused
otherwise, whatever becomes of the files beside it. Many files are dealt with in batches, in which
they may end in any order, and come out as if they had been staged one after another.
-/

namespace SiteReport

namespace Incoming

/-- The photo that a file becomes. -/
def photo (file : Incoming) (bytes : Bytes) : StagedPhoto :=
  ⟨file.fresh, bytes, file.name, file.now, false, none⟩

/-- The photo that a file becomes if it is a picture, or why it becomes none. -/
def ending (normalizer : Normalizer) (file : Incoming) : Except StageError StagedPhoto :=
  match normalizer.codec.breaksOff file.bytes with
  | some reason => .error (.interrupted file.name reason)
  | none =>
    match normalizer.normalize file.bytes with
    | .ok bytes => .ok (file.photo bytes)
    | .error cause => .error (.unreadable file.name cause)

def photo? (normalizer : Normalizer) (file : Incoming) : Option StagedPhoto :=
  match file.ending normalizer with
  | .ok photo => some photo
  | .error _ => none

def failure? (normalizer : Normalizer) (file : Incoming) : Option StageError :=
  match file.ending normalizer with
  | .ok _ => none
  | .error e => some e

variable {normalizer : Normalizer} {file : Incoming} {photo : StagedPhoto}

theorem photo?_eq_some_iff : file.photo? normalizer = some photo ↔
    file.ending normalizer = .ok photo := by
  unfold photo?
  cases file.ending normalizer <;> simp

theorem ending_eq_ok_iff : file.ending normalizer = .ok photo ↔
    normalizer.codec.breaksOff file.bytes = none ∧
      ∃ bytes, normalizer.normalize file.bytes = .ok bytes ∧ photo = file.photo bytes := by
  unfold ending
  cases normalizer.codec.breaksOff file.bytes with
  | some reason => simp
  | none => cases normalizer.normalize file.bytes <;> simp [eq_comm]

theorem id_of_photo? (h : file.photo? normalizer = some photo) : photo.id = file.fresh := by
  obtain ⟨-, bytes, -, rfl⟩ := ending_eq_ok_iff.mp (photo?_eq_some_iff.mp h)
  rfl

/-- Every file comes to one of the two ends. -/
theorem length_photos_add_length_failures (normalizer : Normalizer) (files : List Incoming) :
    (files.filterMap (photo? normalizer)).length +
      (files.filterMap (failure? normalizer)).length = files.length := by
  induction files with
  | nil => rfl
  | cons file rest ih =>
      cases ended : file.ending normalizer with
      | ok photo =>
          simp only [List.filterMap_cons, photo?, failure?, ended, List.length_cons] at ih ⊢
          omega
      | error e =>
          simp only [List.filterMap_cons, photo?, failure?, ended, List.length_cons] at ih ⊢
          omega

end Incoming

/-- Identifiers that differ, and that no photo in the store has. -/
structure Store.Fresh (s : Store) (files : List Incoming) : Prop where
  distinct : (files.map (·.fresh)).Nodup
  absent : ∀ file ∈ files, s.has file.fresh = false

namespace Store.Fresh

variable {s after : Store} {files more : List Incoming} {normalizer : Normalizer}

theorem perm (h : s.Fresh files) (reordered : files.Perm more) : s.Fresh more where
  distinct := (reordered.map _).nodup_iff.mp h.distinct
  absent := fun file member => h.absent file (reordered.mem_iff.mpr member)

theorem left (h : s.Fresh (files ++ more)) : s.Fresh files where
  distinct := by
    have distinct := h.distinct
    rw [List.map_append] at distinct
    exact distinct.of_append_left
  absent := fun file member => h.absent file (List.mem_append_left more member)

/-- The other files are fresh to the store that gained the photos of the first ones. -/
theorem right (h : s.Fresh (files ++ more))
    (extended : s.Extended (files.filterMap (Incoming.photo? normalizer)) after) :
    after.Fresh more := by
  have distinct := h.distinct
  rw [List.map_append, List.nodup_append'] at distinct
  refine ⟨distinct.2.1, fun file member => ?_⟩
  rw [extended.has_eq, h.absent file (List.mem_append_right files member), Bool.false_or,
    List.any_eq_false]
  intro photo listed same
  obtain ⟨first, there, taken⟩ := List.mem_filterMap.mp listed
  rw [Incoming.id_of_photo? taken, beq_iff_eq] at same
  exact distinct.2.2 (List.mem_map_of_mem there) (same ▸ List.mem_map_of_mem member)

end Store.Fresh

namespace StageReport

/-- The report once parts of the files were dealt with, too. -/
def after (r : StageReport) (normalizer : Normalizer) (total : Nat) (loud : Bool)
    (parts : List (List Incoming)) : StageReport :=
  { staged := r.staged ++ parts.flatten.filterMap (Incoming.photo? normalizer)
    failed := r.failed ++ parts.flatten.filterMap (Incoming.failure? normalizer)
    progress := r.progress ++ if loud then (doneAfter r.done parts).map (⟨·, total⟩) else [] }

variable (r : StageReport) (normalizer : Normalizer) (total : Nat) (loud : Bool)

theorem done_after (parts : List (List Incoming)) :
    (r.after normalizer total loud parts).done = r.done + parts.flatten.length := by
  rw [← Incoming.length_photos_add_length_failures normalizer, done, after,
    List.length_append, List.length_append, done]
  omega

theorem after_after (part : List Incoming) (rest : List (List Incoming)) :
    (r.after normalizer total loud [part]).after normalizer total loud rest =
      r.after normalizer total loud (part :: rest) := by
  have counted := r.done_after normalizer total loud [part]
  rw [List.flatten_singleton] at counted
  unfold after at counted ⊢
  rw [counted]
  cases loud <;> simp [doneAfter]

end StageReport

namespace Stock

variable {s : Stock}

theorem stage_eq_ok_iff {s after : Stock} {file : Incoming} {photo : StagedPhoto} :
    s.stage file = .ok (photo, after) ↔
      ∃ bytes store, s.normalizer.normalize file.bytes = .ok bytes ∧
        photo = file.photo bytes ∧ s.store.put photo = .ok store ∧
        after = { s with store } := by
  unfold stage Incoming.photo
  cases normal : s.normalizer.normalize file.bytes with
  | error e => simp
  | ok bytes =>
      simp only [Except.ok.injEq, exists_and_left, exists_eq_left']
      cases put : s.store.put ⟨file.fresh, bytes, file.name, file.now, false, none⟩ with
      | error e =>
          simp only [reduceCtorEq, false_iff]
          rintro ⟨rfl, store, accepted, -⟩
          rw [put] at accepted
          cases accepted
      | ok store =>
          simp only [Except.ok.injEq, Prod.mk.injEq]
          constructor
          · rintro ⟨rfl, rfl⟩
            exact ⟨rfl, store, put, rfl⟩
          · rintro ⟨rfl, other, accepted, rfl⟩
            rw [put] at accepted
            cases accepted
            exact ⟨rfl, rfl⟩

theorem id_of_stage {s after : Stock} {file : Incoming} {photo : StagedPhoto}
    (taken : s.stage file = .ok (photo, after)) : photo.id = file.fresh := by
  obtain ⟨bytes, store, -, rfl, -, -⟩ := stage_eq_ok_iff.mp taken
  rfl

/-- A file is refused if it is no picture, and comes into the store otherwise. -/
theorem stageApart_of_fresh (writes : s.store.faults .put = none) {file : Incoming}
    (absent : s.store.has file.fresh = false) :
    (∃ photo store, file.ending s.normalizer = .ok photo ∧
      s.stageApart file = .ok (photo, { s with store }) ∧ s.store.Extended [photo] store) ∨
    ∃ e, file.ending s.normalizer = .error e ∧ s.stageApart file = .error e := by
  unfold stageApart Incoming.ending
  cases s.normalizer.codec.breaksOff file.bytes with
  | some reason => exact .inr ⟨.interrupted file.name reason, rfl, rfl⟩
  | none =>
      cases normal : s.normalizer.normalize file.bytes with
      | ok bytes =>
          have accepted : ∃ store, s.store.put (file.photo bytes) = .ok store :=
            ⟨_, Store.change_eq_ok_iff.mpr ⟨writes, rfl⟩⟩
          obtain ⟨store, put⟩ := accepted
          have staged : s.stage file = .ok (file.photo bytes, { s with store }) :=
            stage_eq_ok_iff.mpr ⟨bytes, store, normal, rfl, put, rfl⟩
          exact .inl ⟨file.photo bytes, store, rfl, staged, Store.extended_of_put absent put⟩
      | error cause =>
          refine .inr ⟨.unreadable file.name cause, rfl, ?_⟩
          simp only [stage, normal]

/-- Files that were staged one after another. -/
theorem stageAll_of_fresh {files : List Incoming} (writes : s.store.faults .put = none)
    (fresh : s.store.Fresh files) :
    ∃ store, s.stageAll files = { s with store } ∧
      s.store.Extended (files.filterMap (Incoming.photo? s.normalizer)) store := by
  induction files generalizing s with
  | nil => exact ⟨s.store, rfl, .refl s.store⟩
  | cons file rest ih =>
      have first : s.store.Fresh ([file] ++ rest) := fresh
      rcases stageApart_of_fresh writes (fresh.absent file List.mem_cons_self) with
        ⟨photo, store, ended, staged, extended⟩ | ⟨e, ended, failed⟩
      · have one : [file].filterMap (Incoming.photo? s.normalizer) = [photo] := by
          simp [Incoming.photo?, ended]
        have others : store.Fresh rest := first.right (one.symm ▸ extended)
        obtain ⟨last, all, more⟩ :=
          ih (s := { s with store }) (extended.faults_eq ▸ writes) others
        refine ⟨last, ?_, ?_⟩
        · rw [stageAll, List.foldl_cons, staged]
          exact all
        · rw [List.filterMap_cons_some (Incoming.photo?_eq_some_iff.mpr ended)]
          exact extended.trans more
      · have one : [file].filterMap (Incoming.photo? s.normalizer) = [] := by
          simp [Incoming.photo?, ended]
        have others : s.store.Fresh rest := first.right (one.symm ▸ Store.Extended.refl s.store)
        obtain ⟨last, all, more⟩ := ih writes others
        refine ⟨last, ?_, ?_⟩
        · rw [stageAll, List.foldl_cons, failed]
          exact all
        · rw [List.filterMap_cons_none (by simp only [Incoming.photo?, ended])]
          exact more

/-- What a batch comes to is noted in the order of its files. -/
theorem foldl_add_results {files : List Incoming} (writes : s.store.faults .put = none)
    (fresh : ∀ file ∈ files, s.store.has file.fresh = false) (r : StageReport) :
    (files.map fun file => (s.stageApart file).map (·.1)).foldl StageReport.add r =
      { r with
        staged := r.staged ++ files.filterMap (Incoming.photo? s.normalizer)
        failed := r.failed ++ files.filterMap (Incoming.failure? s.normalizer) } := by
  induction files generalizing r with
  | nil => simp
  | cons file rest ih =>
      obtain ⟨absent, others⟩ := List.forall_mem_cons.mp fresh
      rw [List.map_cons, List.foldl_cons, ih others]
      rcases stageApart_of_fresh writes absent with
        ⟨photo, store, ended, staged, -⟩ | ⟨e, ended, failed⟩
      · simp [staged, Except.map, StageReport.add, Incoming.photo?, Incoming.failure?, ended]
      · simp [failed, Except.map, StageReport.add, Incoming.photo?, Incoming.failure?, ended]

/-- One batch more. -/
theorem stageChunk_of_fresh {chunk : List Incoming} (writes : s.store.faults .put = none)
    (fresh : s.store.Fresh chunk) (completion : Completion) (total : Nat) (loud : Bool)
    (r : StageReport) :
    ∃ store, stageChunk completion total loud (r, s) chunk =
        (r.after s.normalizer total loud [chunk], { s with store }) ∧
      s.store.Extended (chunk.filterMap (Incoming.photo? s.normalizer)) store := by
  have reordered := completion.arrange_perm r.done chunk
  obtain ⟨store, all, extended⟩ :=
    stageAll_of_fresh writes (fresh.perm reordered.symm)
  refine ⟨store, ?_, extended.perm (reordered.filterMap _)⟩
  have counted := r.done_after s.normalizer total loud [chunk]
  rw [StageReport.done] at counted
  simp only [stageChunk, foldl_add_results writes fresh.absent, all]
  cases loud <;> simp [StageReport.after, doneAfter, StageReport.done] at counted ⊢
  omega

theorem foldl_stageChunk_of_fresh {parts : List (List Incoming)}
    (writes : s.store.faults .put = none) (fresh : s.store.Fresh parts.flatten)
    (completion : Completion) (total : Nat) (loud : Bool) (r : StageReport) :
    ∃ store, parts.foldl (stageChunk completion total loud) (r, s) =
        (r.after s.normalizer total loud parts, { s with store }) ∧
      s.store.Extended (parts.flatten.filterMap (Incoming.photo? s.normalizer)) store := by
  induction parts generalizing s r with
  | nil =>
      refine ⟨s.store, ?_, .refl s.store⟩
      cases loud <;> simp [StageReport.after, doneAfter]
  | cons part rest ih =>
      rw [List.flatten_cons] at fresh
      obtain ⟨store, one, extended⟩ :=
        stageChunk_of_fresh writes fresh.left completion total loud r
      obtain ⟨last, others, more⟩ := ih (s := { s with store }) (extended.faults_eq ▸ writes)
        (fresh.right extended) (r.after s.normalizer total loud [part])
      refine ⟨last, ?_, ?_⟩
      · rw [List.foldl_cons, one, others, StageReport.after_after]
      · rw [List.flatten_cons, List.filterMap_append]
        exact extended.trans more

/-- Many files become the photos and the failures that each of them would become alone. -/
theorem stageBatch_exactly {files : List Incoming} (writes : s.store.faults .put = none)
    (fresh : s.store.Fresh files) (completion : Completion) :
    let report := (s.stageBatch completion files).1
    let size := max s.batchSize 1
    report.staged = files.filterMap (Incoming.photo? s.normalizer) ∧
    report.failed = files.filterMap (Incoming.failure? s.normalizer) ∧
    report.staged.length + report.failed.length = files.length ∧
    (∃ store, (s.stageBatch completion files).2 = { s with store } ∧
      s.store.Extended report.staged store) ∧
    (files.length ≤ s.progressThreshold → report.progress = []) ∧
    (s.progressThreshold < files.length →
      report.progress.length = (batches s.batchSize files).length ∧
      report.progress = (List.range ((files.length + size - 1) / size)).map (fun k =>
        ⟨min ((k + 1) * size) files.length, files.length⟩) ∧
      report.progress.getLast? = some ⟨files.length, files.length⟩) := by
  intro report size
  have joined : (batches s.batchSize files).flatten = files := flatten_batches s.batchSize files
  have unused : s.store.Fresh (batches s.batchSize files).flatten := joined.symm ▸ fresh
  obtain ⟨store, all, extended⟩ := foldl_stageChunk_of_fresh writes unused completion
    files.length (decide (s.progressThreshold < files.length)) {}
  rw [joined] at extended
  have report_eq : report = StageReport.after {} s.normalizer files.length
      (decide (s.progressThreshold < files.length)) (batches s.batchSize files) :=
    congrArg Prod.fst all
  have staged : report.staged = files.filterMap (Incoming.photo? s.normalizer) := by
    rw [report_eq, StageReport.after, joined]
    rfl
  have failed : report.failed = files.filterMap (Incoming.failure? s.normalizer) := by
    rw [report_eq, StageReport.after, joined]
    rfl
  refine ⟨staged, failed, ?_, ⟨store, congrArg Prod.snd all, staged ▸ extended⟩, ?_, ?_⟩
  · rw [staged, failed, Incoming.length_photos_add_length_failures]
  · intro few
    rw [report_eq, StageReport.after, decide_eq_false (Nat.not_lt.mpr few)]
    rfl
  · intro many
    have progress : report.progress =
        (doneAfter 0 (batches s.batchSize files)).map (⟨·, files.length⟩) := by
      rw [report_eq, StageReport.after, decide_eq_true many]
      rfl
    have some_part : batches s.batchSize files ≠ [] := by
      intro none
      rw [none, List.flatten_nil] at joined
      rw [← joined] at many
      cases many
    refine ⟨?_, ?_, ?_⟩
    · rw [progress, List.length_map, length_doneAfter]
    · rw [progress, doneAfter_batches, List.map_map]
      rfl
    · rw [progress, List.getLast?_map, getLast?_doneAfter 0 some_part, joined, Nat.zero_add]
      rfl

namespace Pile

def morning : Timestamp :=
  ⟨⟨2031, 8, 27, by decide, by decide, by decide⟩,
    ⟨6, 47, 19, 640, by decide, by decide, by decide, by decide⟩⟩

/-- A little later. -/
def next : Timestamp :=
  ⟨⟨2031, 8, 27, by decide, by decide, by decide⟩,
    ⟨6, 47, 19, 712, by decide, by decide, by decide, by decide⟩⟩

def first : Incoming := ⟨⟨71, by decide⟩, morning, "a.bmp", Pixel.bitmap⟩

/-- No picture. -/
def notes : Incoming := ⟨⟨72, by decide⟩, next, "notes.txt", [1, 2]⟩

def last : Incoming := ⟨⟨73, by decide⟩, next, "b.jpg", Pixel.jpeg⟩

def files : List Incoming := [first, notes, last]

def stock : Stock :=
  { store := ⟨.memory {}, fun _ => none⟩, normalizer := ⟨Pixel.codec, 64, 100, 16⟩, batchSize := 2,
    progressThreshold := 2 }

/-- What was begun first ends last. -/
def backwards : Completion :=
  ⟨fun _ count => (List.range count).reverse, fun _ _ => List.reverse_perm _⟩

/-- A full batch and a short one. -/
theorem staged_in_two_batches :
    stock.store.faults .put = none ∧ stock.store.Fresh files ∧
    let report := (stock.stageBatch backwards files).1
    report.staged = [⟨first.fresh, Pixel.jpeg, "a.bmp", morning, false, none⟩,
      ⟨last.fresh, Pixel.jpeg, "b.jpg", next, false, none⟩] ∧
    report.failed =
      [.unreadable "notes.txt" (.picture "The image format could not be determined")] ∧
    report.progress = [⟨2, 3⟩, ⟨3, 3⟩] := by
  have fresh : stock.store.Fresh files := ⟨by decide, by decide⟩
  have shown (file : Incoming) (known : file.bytes = Pixel.bitmap ∨ file.bytes = Pixel.jpeg) :
      file.ending stock.normalizer = .ok (file.photo Pixel.jpeg) :=
    Incoming.ending_eq_ok_iff.mpr ⟨rfl, _, Pixel.toJpeg_eq rfl (by decide) known, rfl⟩
  have refused : notes.ending stock.normalizer =
      .error (.unreadable "notes.txt" (.picture "The image format could not be determined")) := rfl
  obtain ⟨staged, failed, -, -, -, loud⟩ := stageBatch_exactly rfl fresh backwards
  refine ⟨rfl, fresh, ?_, ?_, (loud (by decide)).2.1⟩
  · rw [staged]
    simp only [files, List.filterMap_cons, List.filterMap_nil, Incoming.photo?, refused,
      shown first (.inl rfl), shown last (.inr rfl)]
    rfl
  · rw [failed]
    simp only [files, List.filterMap_cons, List.filterMap_nil, Incoming.failure?, refused,
      shown first (.inl rfl), shown last (.inr rfl)]

end Pile

end Stock

end SiteReport
