import SiteReport.Batches
import SiteReport.Store.Basic
import SiteReport.Picture.Normalize

/-!
The stock of photos: the store with a normalizer in front of it and a cache of previews beside it.
Files are staged one by one or in batches; a file that fails does not stop the others.
-/

namespace SiteReport

/-- A file to be staged, with what it gets if it can be: an identifier, and the time at that moment. -/
structure Incoming where
  fresh : PhotoId
  now : Timestamp
  name : String
  bytes : Bytes

/-- Staging one file failed. -/
inductive StageError where
  | unreadable (file : String) (cause : NormalizeError)
  | store (cause : StoreError)
  /-- The task that worked on the file broke off. -/
  | interrupted (file reason : String)
  deriving DecidableEq

def StageError.message : StageError → String
  | .unreadable file cause => "could not read image " ++ file ++ ": " ++ cause.message
  | .store cause => cause.message
  | .interrupted file reason => "staging " ++ file ++ " did not finish: " ++ reason

structure Stock where
  store : Store
  normalizer : Normalizer
  batchSize : Nat
  progressThreshold : Nat
  previews : List (PhotoId × Bytes) := []

/-- Files dealt with so far, and all files. -/
structure StageProgress where
  done : Nat
  total : Nat
  deriving DecidableEq

structure StageReport where
  staged : List StagedPhoto := []
  failed : List StageError := []
  progress : List StageProgress := []
  deriving DecidableEq

namespace StageReport

/-- Files dealt with so far. -/
def done (r : StageReport) : Nat := r.staged.length + r.failed.length

/-- What became of one file more. -/
def add (r : StageReport) : Except StageError StagedPhoto → StageReport
  | .ok photo => { r with staged := r.staged ++ [photo] }
  | .error e => { r with failed := r.failed ++ [e] }

end StageReport

namespace Stock

/-- Normalizes a file and puts it into the store. -/
def stage (s : Stock) (file : Incoming) : Except StageError (StagedPhoto × Stock) :=
  match s.normalizer.normalize file.bytes with
  | .error cause => .error (.unreadable file.name cause)
  | .ok bytes =>
    let photo : StagedPhoto :=
      { id := file.fresh, bytes, name := file.name, createdAt := file.now, uploaded := false,
        remoteUrl := none }
    match s.store.put photo with
    | .error cause => .error (.store cause)
    | .ok store => .ok (photo, { s with store })

/-- Stages a file in a task of its own. A task that breaks off is noticed, and leaves nothing. -/
def stageApart (s : Stock) (file : Incoming) : Except StageError (StagedPhoto × Stock) :=
  match s.normalizer.codec.breaksOff file.bytes with
  | some reason => .error (.interrupted file.name reason)
  | none => s.stage file

/-- The stock after files were staged one after another, whatever became of each. -/
def stageAll (s : Stock) (files : List Incoming) : Stock :=
  files.foldl (fun s file =>
    match s.stageApart file with
    | .ok (_, s) => s
    | .error _ => s) s

/-- One batch more, with a word on the progress if it is wanted. The files reach the stock in the
order in which they end, and the report in their own order. -/
def stageChunk (completion : Completion) (total : Nat) (loud : Bool) (r : StageReport × Stock)
    (chunk : List Incoming) : StageReport × Stock :=
  let results := chunk.map fun file => (r.2.stageApart file).map (·.1)
  let stock := r.2.stageAll (completion.arrange r.1.done chunk)
  let report := results.foldl StageReport.add r.1
  if loud then ({ report with progress := report.progress ++ [⟨report.done, total⟩] }, stock)
  else (report, stock)

/-- Stages batches of so many files in all. Progress is reported only when there are more files than
the threshold. -/
def stageParts (s : Stock) (completion : Completion) (total : Nat) (parts : List (List Incoming)) :
    StageReport × Stock :=
  let loud := decide (s.progressThreshold < total)
  parts.foldl (stageChunk completion total loud) ({}, s)

def stageBatch (s : Stock) (completion : Completion) (files : List Incoming) :
    StageReport × Stock :=
  s.stageParts completion files.length (batches s.batchSize files)

/-- Drops the cached preview. -/
def evict (s : Stock) (id : PhotoId) : Stock :=
  { s with previews := s.previews.filter (·.1 != id) }

/-- Deletes a photo and its preview; the preview goes even when the store fails. -/
def remove (s : Stock) (id : PhotoId) : Except StoreError Bool × Stock :=
  let s := s.evict id
  match s.store.delete id with
  | .ok (found, store) => (.ok found, { s with store })
  | .error e => (.error e, s)

def clearAll (s : Stock) : Except StoreError Unit × Stock :=
  let s := { s with previews := [] }
  match s.store.clear with
  | .ok store => (.ok (), { s with store })
  | .error e => (.error e, s)

def get (s : Stock) (id : PhotoId) : Except StoreError (Option StagedPhoto) := s.store.get id

def listAll (s : Stock) : Except StoreError (List StagedPhoto) := s.store.getAll

def markUploaded (s : Stock) (id : PhotoId) (url : String) : Except StoreError (Bool × Stock) :=
  (s.store.markUploaded id url).map fun (found, store) => (found, { s with store })

/-- The preview of a photo, from the cache or made now and cached. A photo that is not there, or
that cannot be read, has none. -/
def preview (s : Stock) (id : PhotoId) : Except StoreError (Option Bytes) × Stock :=
  match s.previews.lookup id with
  | some bytes => (.ok (some bytes), s)
  | none =>
    match s.store.get id with
    | .error e => (.error e, s)
    | .ok none => (.ok none, s)
    | .ok (some photo) =>
      match s.normalizer.thumbnail photo.bytes with
      | .ok bytes => (.ok (some bytes), { s with previews := (id, bytes) :: s.previews })
      | .error _ => (.ok none, s)

end Stock

end SiteReport
