import SiteReport.Autosave
import SiteReport.Directory
import SiteReport.Gesture
import SiteReport.Settings
import SiteReport.Submission

/-!
A report being written: header, body, the sections picked out, the drag under way, the draft and
the stock of photos. Every edit that changes something marks the draft dirty and is told to those
who listen; what was told so far is kept in `published`.
-/

namespace SiteReport

inductive ComposerEvent where
  | body (change : Change)
  | headerChanged
  | selectionChanged
  | draftSaved (savedAt : Timestamp)
  | draftCleared
  | draftRestored (detached : List DetachedPhotos)
  | submitted (remoteId : String)
  | documentReset
  deriving DecidableEq

/-- The time of a command: milliseconds on a steady clock, and the instant on the wall. -/
structure Clock where
  ticks : Int
  wall : Timestamp
  deriving DecidableEq

structure Composer where
  header : Header := {}
  body : Body := {}
  remoteId : Option String := none
  /-- Identifiers in ascending order. -/
  selection : List SectionId := []
  stock : Stock
  autosave : Autosave
  gesture : Gesture
  /-- Counts the documents. -/
  generation : Nat := 0
  /-- Counts the edits of this document. -/
  revision : Nat := 0
  settings : EditSettings
  published : List ComposerEvent := []

/-- What a restored draft brought back. -/
structure RestoreReport where
  sections : Nat
  detached : List DetachedPhotos
  deriving DecidableEq

/-- Taking a photo failed before the photo was attached. -/
inductive CaptureError where
  | edit (cause : EditError)
  | stage (cause : StageError)
  deriving DecidableEq

def CaptureError.message : CaptureError → String
  | .edit cause => cause.message
  | .stage cause => cause.message

/-- A look at the draft failed: the settings give no window, or the store failed. -/
inductive CheckError where
  | noWindow (hours : Int)
  | store (cause : StoreError)
  deriving DecidableEq

namespace Stock

/-- A stock over a store, with the limits that the settings give. -/
def ofSettings (codec : Codec) (store : Store) (settings : EditSettings) : Stock :=
  { store, normalizer := settings.normalizer codec, batchSize := settings.stageBatchSize,
    progressThreshold := settings.stageProgressThreshold }

end Stock

namespace Composer

/-- A composer of an empty document. -/
def new (stock : Stock) (settings : EditSettings) : Composer :=
  { stock, settings
    autosave := { debounce := settings.autosaveDebounceMs }
    gesture := { holdDelay := settings.holdDelayMs, threshold := settings.dragThresholdPx } }

def emit (c : Composer) (e : ComposerEvent) : Composer := { c with published := c.published ++ [e] }

def isDirty (c : Composer) : Bool := c.autosave.isDirty

def mapStore (c : Composer) (store : Store) : Composer := { c with stock := { c.stock with store } }

/-- Counts an edit and pushes the saving of the draft out. -/
def touch (c : Composer) (clock : Clock) : Composer :=
  { c with revision := c.revision + 1, autosave := c.autosave.markDirty clock.ticks }

/-- Tells of a change of the body. A move onto its own place is no change. -/
def commit (c : Composer) (clock : Clock) (change : Change) : Composer :=
  if change.isNoop then c else (c.touch clock).emit (.body change)

/-! ### Header -/

def setHeader (c : Composer) (clock : Clock) (header : Header) : Composer :=
  if header = c.header then c
  else ({ c with header }.touch clock).emit .headerChanged

/-- Links the document to a report on the server, which the next submit replaces. -/
def setRemoteId (c : Composer) (clock : Clock) (id : String) : Composer :=
  { c with remoteId := some id }.touch clock

def applyStoreEntry (c : Composer) (clock : Clock) (entry : DirectoryEntry) : Composer :=
  c.setHeader clock (entry.applyTo c.header)

/-! ### Sections and photos -/

/-- Takes over a body together with the change that led to it. -/
def adopt (c : Composer) (clock : Clock) (r : Body × Change) : Composer :=
  { c with body := r.1 }.commit clock r.2

def addSection (c : Composer) (clock : Clock) (kind : SectionKind) : SectionId × Composer :=
  (c.body.nextId, c.adopt clock (c.body.add kind))

def addBlock (c : Composer) (clock : Clock) (layout : Layout) : SectionId × Composer :=
  (c.body.nextId, c.adopt clock (c.body.addBlock layout))

/-- Takes a section out of the selection, and tells of it if it was there. -/
def deselect (c : Composer) (id : SectionId) : Composer :=
  if c.selection.contains id then
    { c with selection := c.selection.filter (· != id) }.emit .selectionChanged
  else c

def removeSection (c : Composer) (clock : Clock) (id : SectionId) :
    Except EditError (Change × Composer) :=
  (c.body.remove id).map fun r => (r.2, (c.deselect id).adopt clock r)

/-- An edit of the body that answers with its change. -/
def edit (c : Composer) (clock : Clock) (r : Except EditError (Body × Change)) :
    Except EditError (Change × Composer) :=
  r.map fun r => (r.2, c.adopt clock r)

def updateSection (c : Composer) (clock : Clock) (id : SectionId) (patch : SectionPatch) :
    Except EditError (Change × Composer) :=
  c.edit clock (c.body.update id patch)

def moveSection (c : Composer) (clock : Clock) (id : SectionId) (stop : Nat) :
    Except EditError (Change × Composer) :=
  c.edit clock (c.body.move id stop)

def duplicateSection (c : Composer) (clock : Clock) (id : SectionId) :
    Except EditError (SectionId × Composer) :=
  (c.body.duplicate id).map fun r => (c.body.nextId, c.adopt clock r)

def attachPhoto (c : Composer) (clock : Clock) (list : PhotoList) (photo : PhotoRef) :
    Except EditError (Option Change × Composer) :=
  (c.body.attach list photo).map fun
    | (body, some change) => (some change, c.adopt clock (body, change))
    | (_, none) => (none, c)

def removePhoto (c : Composer) (clock : Clock) (list : PhotoList) (photo : PhotoRef) :
    Except EditError (Change × Composer) :=
  c.edit clock (c.body.detach list photo)

/-- A move onto the same place is answered, but not told. -/
def moveWithin (c : Composer) (clock : Clock) (list : PhotoList) (start stop : Nat) :
    Except EditError (Change × Composer) :=
  (c.body.moveWithin list start stop).map fun r =>
    (r.2, if start = stop then { c with body := r.1 } else c.adopt clock r)

def moveAcross (c : Composer) (clock : Clock) (source : PhotoList) (index : Nat)
    (target : PhotoList) : Except EditError (Change × Composer) :=
  c.edit clock (c.body.moveAcross source index target)

def stage (c : Composer) (file : Incoming) : Except StageError (StagedPhoto × Composer) :=
  (c.stock.stage file).map fun (photo, stock) => (photo, { c with stock })

def stageBatch (c : Composer) (completion : Completion) (files : List Incoming) :
    StageReport × Composer :=
  let (report, stock) := c.stock.stageBatch completion files
  (report, { c with stock })

/-- Stages a photo and attaches it. The list is looked at first, so that nothing is staged for a
list that does not exist. -/
def capturePhoto (c : Composer) (clock : Clock) (list : PhotoList) (file : Incoming) :
    Except CaptureError StagedPhoto × Composer :=
  match c.body.photos list with
  | .error e => (.error (.edit e), c)
  | .ok _ =>
    match c.stage file with
    | .error e => (.error (.stage e), c)
    | .ok (photo, c) =>
      match c.attachPhoto clock list (.staged photo.id) with
      | .error e => (.error (.edit e), c)
      | .ok (_, c) => (.ok photo, c)

/-! ### Selection -/

/-- Adds an identifier in its place among ascending ones. -/
def insertId (id : SectionId) : List SectionId → List SectionId
  | [] => [id]
  | x :: rest => if id.number < x.number then id :: x :: rest else x :: insertId id rest

/-- Answers whether the section is selected afterwards. -/
def toggleSelected (c : Composer) (id : SectionId) : Except EditError (Bool × Composer) :=
  match c.body.indexOf? id with
  | none => .error (.unknownSection id)
  | some _ =>
    if c.selection.contains id then .ok (false, c.deselect id)
    else .ok (true, { c with selection := insertId id c.selection }.emit .selectionChanged)

def clearSelection (c : Composer) : Composer :=
  if c.selection.isEmpty then c else { c with selection := [] }.emit .selectionChanged

/-- Removes a section if it is there, and adds the change to those made so far. -/
def removeNext (clock : Clock) (r : List Change × Composer) (id : SectionId) :
    List Change × Composer :=
  match r.2.body.remove id with
  | .ok (body, change) => (r.1 ++ [change], r.2.adopt clock (body, change))
  | .error _ => r

/-- Removes the selected sections and clears the selection. -/
def removeSelected (c : Composer) (clock : Clock) : List Change × Composer :=
  let (changes, c) := c.selection.foldl (removeNext clock) ([], { c with selection := [] })
  (changes, c.emit .selectionChanged)

def duplicateNext (clock : Clock) (r : List SectionId × Composer) (id : SectionId) :
    List SectionId × Composer :=
  match r.2.duplicateSection clock id with
  | .ok (copy, c) => (r.1 ++ [copy], c)
  | .error _ => r

/-- Duplicates the selected sections in document order. The selection stays. -/
def duplicateSelected (c : Composer) (clock : Clock) : List SectionId × Composer :=
  (c.body.ids.filter (c.selection.contains ·)).foldl (duplicateNext clock) ([], c)

/-! ### Dragging -/

def pointerDown (c : Composer) (source : DragSource) (pointer : Pointer) (origin : Point)
    (now : Int) : Composer :=
  { c with gesture := c.gesture.down source pointer origin now }

def pointerMove (c : Composer) (point : Point) (hit : Option DropTarget) (now : Int) : Composer :=
  { c with gesture := c.gesture.move point hit now }

def tick (c : Composer) (now : Int) : Composer := { c with gesture := c.gesture.tick now }

def cancelDrag (c : Composer) : Composer := { c with gesture := c.gesture.cancel }

/-- Ends a drag and carries out its command. -/
def pointerUp (c : Composer) (clock : Clock) (now : Int) :
    Except EditError (Option Change) × Composer :=
  let (command, gesture) := c.gesture.up now c.body
  let c := { c with gesture }
  match command with
  | none => (.ok none, c)
  | some command =>
    match command.apply c.body with
    | .error e => (.error e, c)
    | .ok r => (.ok (some r.2), c.adopt clock r)

/-! ### Drafts -/

def snapshot (c : Composer) (savedAt : Timestamp) : Snapshot :=
  Snapshot.capture c.header c.body c.remoteId savedAt

/-- Saves the draft. When that fails the draft stays dirty, to be saved at the next chance. -/
def saveDraft (c : Composer) (clock : Clock) : Except StoreError Unit × Composer :=
  match c.stock.store.saveDraft (c.snapshot clock.wall) with
  | .error e => (.error e, { c with autosave := c.autosave.markDirty clock.ticks })
  | .ok store => (.ok (), (c.mapStore store).emit (.draftSaved clock.wall))

/-- Saves the draft if it is due at `now`, and answers whether it was. -/
def pollAutosave (c : Composer) (clock : Clock) (now : Int) : Except StoreError Bool × Composer :=
  match c.autosave.takeDue now with
  | (false, _) => (.ok false, c)
  | (true, autosave) =>
    match { c with autosave }.saveDraft clock with
    | (.ok _, c) => (.ok true, c)
    | (.error e, c) => (.error e, c)

/-- Saves the draft at once. -/
def flushDraft (c : Composer) (clock : Clock) : Except StoreError Unit × Composer :=
  { c with autosave := c.autosave.cancel }.saveDraft clock

/-- Looks at the draft slot; old and unreadable drafts are cleared on the way. -/
def checkDraft (c : Composer) (now : Timestamp) : Except CheckError (DraftCheck × Composer) :=
  match c.settings.draftWindow? with
  | none => .error (.noWindow c.settings.draftFreshnessHours)
  | some window =>
    match c.stock.store.checkDraft now window with
    | .error e => .error (.store e)
    | .ok (check, store) => .ok (check, c.mapStore store)

/-- A new generation: counters, timer, drag and selection start anew. -/
def resetTransient (c : Composer) : Composer :=
  { c with
    generation := c.generation + 1
    revision := 0
    autosave := c.autosave.cancel
    gesture := c.gesture.cancel
    selection := [] }

/-- Replaces the document by a draft. -/
def restore (c : Composer) (draft : Snapshot) : RestoreReport × Composer :=
  let r := draft.restored
  let c := { c with header := r.header, body := r.body, remoteId := r.remoteId }.resetTransient
  ({ sections := r.body.sections.length, detached := r.detached },
    (c.emit (.body .replaced)).emit (.draftRestored r.detached))

/-- The offered draft is not wanted. -/
def declineDraft (c : Composer) : Except StoreError Unit × Composer :=
  match c.stock.store.clearDraft with
  | .error e => (.error e, c)
  | .ok store => (.ok (), (c.mapStore store).emit .draftCleared)

/-- Removes photos from the stock, as far as the store lets it. -/
def release (c : Composer) (photos : List PhotoId) : Composer :=
  { c with stock := photos.foldl (fun stock id => (stock.remove id).2) c.stock }

/-- Throws the document away together with its staged photos, and starts a new one. -/
def discardDocument (c : Composer) : Except StoreError Unit × Composer :=
  let c := c.release (c.body.stagedPhotos.map (·.2))
  let c := { c with header := {}, body := c.body.clear.1, remoteId := none }.resetTransient
  (c.emit .documentReset).declineDraft

/-! ### Sending -/

def beginSubmit (c : Composer) : Ticket :=
  { generation := c.generation, revision := c.revision, header := c.header, body := c.body,
    remoteId := c.remoteId }

/-- The draft after a report was sent: cleared if nothing was edited meanwhile, else due again. -/
def settleDraft (c : Composer) (clock : Clock) (revision : Nat) : Composer :=
  if revision = c.revision then
    let c := { c with autosave := c.autosave.cancel }
    match c.stock.store.clearDraft with
    | .ok store => (c.mapStore store).emit .draftCleared
    | .error _ => c
  else c.touch clock

/-- Takes the outcome of a run over. The outcome for an earlier generation changes nothing. -/
def applySubmit (c : Composer) (clock : Clock) (outcome : SubmitOutcome) :
    Except SubmitError SubmitReport × Composer :=
  if outcome.generation ≠ c.generation then (.error .superseded, c)
  else
    match outcome.result with
    | .error e => (.error e, c)
    | .ok report =>
      let (body, change) := c.body.resolve report.resolution
      let c := { c with body, remoteId := some report.remoteId }.emit (.body change)
      let c := c.settleDraft clock outcome.revision
      let c := if c.settings.pruneAfterSubmit then
          c.release (report.resolution.resolved.map (·.1))
        else c
      (.ok report, c.emit (.submitted report.remoteId))

/-- Runs a submit on a ticket with the stock as it is. -/
def runSubmit (c : Composer) (service : Service) (batchSize : Nat) (ticket : Ticket) :
    SubmitRun × Composer :=
  let run := SubmitRun.start service batchSize c.stock ticket
  (run, { c with stock := run.stock })

/-- A whole submit, with no edit between its parts. -/
def submit (c : Composer) (clock : Clock) (service : Service) (batchSize : Nat) :
    (Except SubmitError SubmitReport × SubmitRun) × Composer :=
  let (run, c) := c.runSubmit service batchSize c.beginSubmit
  let (result, c) := c.applySubmit clock run.outcome
  ((result, run), c)

end Composer

end SiteReport
