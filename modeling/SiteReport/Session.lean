import SiteReport.Composer

/-!
Everything that can be asked of a composer, as data, and what it answers. A session is a list of
commands, each given at a time; `Composer.play` carries it out.
-/

namespace SiteReport

inductive Command where
  | setHeader (header : Header)
  | setRemoteId (id : String)
  | applyStore (entry : DirectoryEntry)
  | addSection (kind : SectionKind)
  | addBlock (layout : Layout)
  | removeSection (id : SectionId)
  | updateSection (id : SectionId) (patch : SectionPatch)
  | moveSection (id : SectionId) (stop : Nat)
  | duplicateSection (id : SectionId)
  | attachPhoto (list : PhotoList) (photo : PhotoRef)
  | removePhoto (list : PhotoList) (photo : PhotoRef)
  | moveWithin (list : PhotoList) (start stop : Nat)
  | moveAcross (source : PhotoList) (index : Nat) (target : PhotoList)
  | toggleSelected (id : SectionId)
  | clearSelection
  | removeSelected
  | duplicateSelected
  | pointer (event : PointerEvent)
  | capturePhoto (list : PhotoList) (file : Incoming)
  | stage (file : Incoming)
  | stageBatch (files : List Incoming) (completion : Completion)
  | photo (id : PhotoId)
  | photos
  | deletePhoto (id : PhotoId)
  | deletePhotos
  | markUploaded (id : PhotoId) (url : String)
  | preview (id : PhotoId)
  | pollAutosave (now : Int)
  | flushDraft
  | loadDraft
  | checkDraft (now : Timestamp)
  | restore (draft : Snapshot)
  | declineDraft
  | discardDocument
  | runSubmit (service : Service) (batchSize : Nat) (ticket : Ticket)
  | applySubmit (outcome : SubmitOutcome)
  | submit (service : Service) (batchSize : Nat)

inductive Answer where
  | done
  | refused (cause : EditError)
  | storeFailed (cause : StoreError)
  | captureFailed (cause : CaptureError)
  | noWindow (hours : Int)
  /-- A distance does not fit 32 bits. Where this is checked the program cannot go on. -/
  | tooFar
  | added (id : SectionId)
  | changed (change : Option Change)
  | removed (changes : List Change)
  | copied (ids : List SectionId)
  | flag (value : Bool)
  | drag (armed : Bool) (target : Option DropTarget)
  | photo (found : Option StagedPhoto)
  | photos (all : List StagedPhoto)
  | staged (report : StageReport)
  /-- With the number of previews left in the cache. -/
  | deleted (result : Except StoreError Bool) (previews : Nat)
  | cleared (result : Except StoreError Unit) (previews : Nat)
  | preview (result : Except StoreError (Option Bytes)) (previews : Nat)
  | draft (found : Option Snapshot)
  | checked (result : DraftCheck)
  | restored (report : RestoreReport)
  | run (run : SubmitRun)
  | applied (result : Except SubmitError SubmitReport)
  | submitted (run : SubmitRun) (result : Except SubmitError SubmitReport)

namespace Answer

/-- The answer and the composer after an operation that may be refused. -/
def ofEdit {α : Type} (c : Composer) (answer : α → Answer) :
    Except EditError (α × Composer) → Answer × Composer
  | .ok (a, after) => (answer a, after)
  | .error e => (.refused e, c)

def ofStore {α : Type} (answer : α → Answer) : Except StoreError α → Answer
  | .ok a => answer a
  | .error e => .storeFailed e

end Answer

namespace Composer

def withStock (c : Composer) (stock : Stock) : Composer := { c with stock }

def pointer (c : Composer) (clock : Clock) : PointerEvent → Answer × Composer
  | .down source pointer origin now => (.done, c.pointerDown source pointer origin now)
  | .move point hit now =>
    let after := c.pointerMove point hit now
    (if c.gesture.overflows point then .tooFar
      else .drag after.gesture.isDragging after.gesture.target?, after)
  | .tick now =>
    let c := c.tick now
    (.drag c.gesture.isDragging c.gesture.target?, c)
  | .cancel => (.done, c.cancelDrag)
  | .up now =>
    match c.pointerUp clock now with
    | (.ok change, c) => (.changed change, c)
    | (.error e, c) => (.refused e, c)

def stageOne (c : Composer) (file : Incoming) : Answer × Composer :=
  match c.stage file with
  | .ok (photo, after) => (.photo (some photo), after)
  | .error e => (.captureFailed (.stage e), c)

def markUploaded (c : Composer) (id : PhotoId) (url : String) : Answer × Composer :=
  match c.stock.markUploaded id url with
  | .ok (found, stock) => (.flag found, c.withStock stock)
  | .error e => (.storeFailed e, c)

def lookAtDraft (c : Composer) (now : Timestamp) : Answer × Composer :=
  match c.checkDraft now with
  | .ok (check, after) => (.checked check, after)
  | .error (.store e) => (.storeFailed e, c)
  | .error (.noWindow hours) => (.noWindow hours, c)

/-- Carries out a command. -/
def perform (c : Composer) (clock : Clock) : Command → Answer × Composer
  | .setHeader header => (.done, c.setHeader clock header)
  | .setRemoteId id => (.done, c.setRemoteId clock id)
  | .applyStore entry => (.done, c.applyStoreEntry clock entry)
  | .addSection kind =>
    let (id, c) := c.addSection clock kind
    (.added id, c)
  | .addBlock layout =>
    let (id, c) := c.addBlock clock layout
    (.added id, c)
  | .removeSection id => Answer.ofEdit c (.changed ∘ some) (c.removeSection clock id)
  | .updateSection id patch => Answer.ofEdit c (.changed ∘ some) (c.updateSection clock id patch)
  | .moveSection id stop => Answer.ofEdit c (.changed ∘ some) (c.moveSection clock id stop)
  | .duplicateSection id => Answer.ofEdit c .added (c.duplicateSection clock id)
  | .attachPhoto list photo => Answer.ofEdit c .changed (c.attachPhoto clock list photo)
  | .removePhoto list photo => Answer.ofEdit c (.changed ∘ some) (c.removePhoto clock list photo)
  | .moveWithin list start stop =>
    Answer.ofEdit c (.changed ∘ some) (c.moveWithin clock list start stop)
  | .moveAcross source index target =>
    Answer.ofEdit c (.changed ∘ some) (c.moveAcross clock source index target)
  | .toggleSelected id => Answer.ofEdit c .flag (c.toggleSelected id)
  | .clearSelection => (.done, c.clearSelection)
  | .removeSelected =>
    let (changes, c) := c.removeSelected clock
    (.removed changes, c)
  | .duplicateSelected =>
    let (ids, c) := c.duplicateSelected clock
    (.copied ids, c)
  | .pointer event => c.pointer clock event
  | .capturePhoto list file =>
    match c.capturePhoto clock list file with
    | (.ok photo, c) => (.photo (some photo), c)
    | (.error e, c) => (.captureFailed e, c)
  | .stage file => c.stageOne file
  | .stageBatch files completion =>
    let (report, c) := c.stageBatch completion files
    (.staged report, c)
  | .photo id => (.ofStore .photo (c.stock.get id), c)
  | .photos => (.ofStore .photos c.stock.store.getAll, c)
  | .deletePhoto id =>
    let (result, stock) := c.stock.remove id
    (.deleted result stock.previews.length, c.withStock stock)
  | .deletePhotos =>
    let (result, stock) := c.stock.clearAll
    (.cleared result stock.previews.length, c.withStock stock)
  | .markUploaded id url => c.markUploaded id url
  | .preview id =>
    let (result, stock) := c.stock.preview id
    (.preview result stock.previews.length, c.withStock stock)
  | .pollAutosave now =>
    let (result, c) := c.pollAutosave clock now
    (.ofStore .flag result, c)
  | .flushDraft =>
    let (result, c) := c.flushDraft clock
    (.ofStore (fun _ => .done) result, c)
  | .loadDraft => (.ofStore .draft c.stock.store.loadDraft, c)
  | .checkDraft now => c.lookAtDraft now
  | .restore draft =>
    let (report, c) := c.restore draft
    (.restored report, c)
  | .declineDraft =>
    let (result, c) := c.declineDraft
    (.ofStore (fun _ => .done) result, c)
  | .discardDocument =>
    let (result, c) := c.discardDocument
    (.ofStore (fun _ => .done) result, c)
  | .runSubmit service batchSize ticket =>
    let (run, c) := c.runSubmit service batchSize ticket
    (.run run, c)
  | .applySubmit outcome =>
    let (result, c) := c.applySubmit clock outcome
    (.applied result, c)
  | .submit service batchSize =>
    let ((result, run), c) := c.submit clock service batchSize
    (.submitted run result, c)

/-- The composer after a session. -/
def play (c : Composer) (session : List (Clock × Command)) : Composer :=
  session.foldl (fun c (clock, command) => (c.perform clock command).2) c

end Composer

end SiteReport
