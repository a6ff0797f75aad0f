import SiteReport.Batches
import SiteReport.Payload
import SiteReport.Service.Error
import SiteReport.Service.Token
import SiteReport.Stock
import SiteReport.Text.Base64

/-!
Sending a report. A ticket is a copy of the document; a run validates it, turns its staged photos
into addresses batch by batch, and sends what is left. A photo that cannot be uploaded is noted and
left out, and the run goes on. What the run showed and asked for is kept as a trace.
-/

namespace SiteReport

structure Ticket where
  generation : Nat
  /-- The edit counter when the ticket was taken. -/
  revision : Nat
  header : Header
  body : Body
  remoteId : Option String
  deriving DecidableEq

structure UploadRequest where
  token : Token
  fileName : String
  mimeType : String
  data : String
  category : UploadCategory
  date : Date
  deriving DecidableEq

/-- A report on its way; with an identifier it replaces an earlier one. -/
structure SendRequest where
  token : Token
  update : Option String
  payload : Payload
  deriving DecidableEq

/-- The world that a run meets. The answer to an upload may depend on how many uploads the run has
made before. -/
structure Service where
  token : Option Token
  upload : (turn : Nat) → UploadRequest → Except ServiceError String
  send : SendRequest → Except ServiceError String
  /-- How the uploads of one batch end. -/
  completion : Completion := .inTurn

inductive SubmitPhase where
  | idle
  | validating
  | uploading (done total : Nat)
  | assembling
  | sent
  | failed
  deriving DecidableEq, Inhabited

/-- Why one photo came to no address. -/
inductive UploadFailure where
  | missing
  | store (cause : StoreError)
  | service (cause : ServiceError)
  deriving DecidableEq

def UploadFailure.message : UploadFailure → String
  | .missing => "staged image is no longer in the local store"
  | .store cause => cause.message
  | .service cause => cause.message

structure UploadError where
  list : PhotoList
  photo : PhotoId
  reason : UploadFailure
  deriving DecidableEq

def UploadError.message (e : UploadError) : String :=
  "photo " ++ e.photo.text ++ " (" ++ e.list.category.name ++ ") in section "
    ++ e.list.block.text ++ " was not uploaded: " ++ e.reason.message

inductive SubmitError where
  | validation (cause : ValidationError)
  | notAuthenticated
  | transport (cause : ServiceError)
  /-- The document was replaced while the run was on. -/
  | superseded
  deriving DecidableEq

namespace SubmitError

def message : SubmitError → String
  | .validation cause => cause.message
  | .notAuthenticated => "not signed in; the report was kept locally"
  | .transport cause => "the report could not be sent: " ++ cause.message
  | .superseded => "the document changed while submitting; this result was discarded"

def code : SubmitError → String
  | .validation cause => cause.code
  | .notAuthenticated => "fieldreport::submit::auth"
  | .transport _ => "fieldreport::submit::transport"
  | .superseded => "fieldreport::submit::superseded"

def help? : SubmitError → Option String
  | .validation cause => cause.help?
  | .notAuthenticated => some "sign in and submit again; uploaded photos will not be sent twice"
  | .transport _ => some "check the connection and retry; nothing was lost"
  | .superseded => none

/-- May the same document be sent later? -/
def isTransient : SubmitError → Bool
  | .transport cause => cause.isTransient
  | _ => false

end SubmitError

structure SubmitReport where
  remoteId : String
  /-- False when an earlier report was replaced. -/
  created : Bool
  resolution : Resolution
  uploaded : Nat
  reused : Nat
  failed : List UploadError
  payload : Payload
  deriving DecidableEq

structure SubmitOutcome where
  generation : Nat
  revision : Nat
  result : Except SubmitError SubmitReport

/-- What a run shows to the world, in order. -/
inductive SubmitEvent where
  | phase (phase : SubmitPhase)
  | upload (request : UploadRequest)
  | send (request : SendRequest)
  deriving DecidableEq

namespace SubmitEvent

def isUpload : SubmitEvent → Bool
  | .upload _ => true
  | _ => false

def isSend : SubmitEvent → Bool
  | .send _ => true
  | _ => false

end SubmitEvent

namespace Submission

/-- One photo to upload, in the first list that uses it. -/
structure Job where
  list : PhotoList
  photo : PhotoId
  deriving DecidableEq

/-- Each photo once, at its first use. -/
def firstUses : List Job → List Job
  | [] => []
  | j :: rest => j :: (firstUses rest).filter (·.photo ≠ j.photo)

def jobs (b : Body) : List Job :=
  firstUses (b.stagedPhotos.map fun (list, photo) => ⟨list, photo⟩)

/-- A run under way. -/
structure State where
  stock : Stock
  trace : List SubmitEvent := []
  resolution : Resolution := {}
  uploaded : Nat := 0
  reused : Nat := 0
  /-- Uploads asked for, successful or not. -/
  turns : Nat := 0
  failed : List UploadError := []

namespace State

def note (s : State) (e : SubmitEvent) : State := { s with trace := s.trace ++ [e] }

def resolve (s : State) (photo : PhotoId) (url : String) : State :=
  { s with resolution :=
      { s.resolution with resolved := s.resolution.resolved ++ [(photo, url)] } }

/-- The photo is left out of the report. -/
def drop (s : State) (job : Job) (reason : UploadFailure) : State :=
  { s with
    resolution := { s.resolution with dropped := s.resolution.dropped ++ [job.photo] }
    failed := s.failed ++ [⟨job.list, job.photo, reason⟩] }

def done (s : State) : Nat := s.resolution.resolved.length + s.resolution.dropped.length

end State

/-- Photos are always sent as JPEG. -/
def mimeType : String := "image/jpeg"

def request (token : Token) (date : Date) (job : Job) (photo : StagedPhoto) : UploadRequest :=
  { token, date, mimeType
    fileName := photo.name
    data := String.ofList (Text.Base64.encode photo.bytes)
    category := job.list.category.uploadedAs }

/-- What became of one photo. -/
inductive Found where
  /-- An earlier upload is noted in the stock. -/
  | reused (url : String)
  | uploaded (url : String)
  | failed (reason : UploadFailure)
  deriving DecidableEq

/-- Looks for the address of one photo: the one noted earlier, or that of an upload. -/
def find (service : Service) (token : Token) (date : Date) (s : State) (job : Job) :
    Found × State :=
  match s.stock.get job.photo with
  | .error cause => (.failed (.store cause), s)
  | .ok none => (.failed .missing, s)
  | .ok (some photo) =>
    match photo.uploadedUrl? with
    | some url => (.reused url, s)
    | none =>
      let request := request token date job photo
      let found := match service.upload s.turns request with
        | .ok url => Found.uploaded url
        | .error cause => Found.failed (.service cause)
      (found, { s.note (.upload request) with turns := s.turns + 1 })

/-- The uploads of a batch are under way together, so nothing is noted in the stock meanwhile. -/
def findAll (service : Service) (token : Token) (date : Date) (s : State) :
    List Job → List (Job × Found) × State
  | [] => ([], s)
  | job :: rest =>
    let (found, s) := find service token date s job
    let (others, s) := findAll service token date s rest
    ((job, found) :: others, s)

/-- Notes an upload in the stock. That this fails only means another upload next time. -/
def record (s : State) (job : Job) : Found → State
  | .uploaded url =>
    match s.stock.markUploaded job.photo url with
    | .ok (_, stock) => { s with stock }
    | .error _ => s
  | _ => s

/-- Takes over what became of a photo. -/
def settle (s : State) (job : Job) : Found → State
  | .reused url => { s.resolve job.photo url with reused := s.reused + 1 }
  | .uploaded url => { s.resolve job.photo url with uploaded := s.uploaded + 1 }
  | .failed reason => s.drop job reason

/-- One batch, after which the progress is shown. Uploads are noted as they end, and taken over in
the order of the document. -/
def resolveBatch (service : Service) (token : Token) (date : Date) (total : Nat) (s : State)
    (batch : List Job) : State :=
  let before := s.done
  let (found, s) := findAll service token date s batch
  let s := (service.completion.arrange before found).foldl (fun s (job, f) => record s job f) s
  let s := found.foldl (fun s (job, f) => settle s job f) s
  s.note (.phase (.uploading s.done total))

/-- Uploads in batches, for a document that was found valid, and the report request. -/
def deliverParts (service : Service) (ticket : Ticket) (token : Token) (date : Date) (s : State)
    (parts : List (List Job)) : Except SubmitError SubmitReport × State :=
  let total := (jobs ticket.body).length
  let s := s.note (.phase (.uploading 0 total))
  let s := parts.foldl (resolveBatch service token date total) s
  let s := s.note (.phase .assembling)
  let payload := Payload.assemble ticket.header date ticket.body s.resolution.resolved
  let request : SendRequest := { token, update := ticket.remoteId, payload }
  let s := s.note (.send request)
  match service.send request with
  | .ok remoteId =>
    (.ok { remoteId, created := ticket.remoteId.isNone, resolution := s.resolution,
           uploaded := s.uploaded, reused := s.reused, failed := s.failed, payload }, s)
  | .error .notAuthenticated => (.error .notAuthenticated, s)
  | .error cause => (.error (.transport cause), s)

def deliver (service : Service) (batchSize : Nat) (ticket : Ticket) (token : Token) (date : Date)
    (s : State) : Except SubmitError SubmitReport × State :=
  deliverParts service ticket token date s (batches batchSize (jobs ticket.body))

/-- What has to be there before anything is uploaded: a valid document, which has a date, and a
token. -/
def ready (service : Service) (ticket : Ticket) : Except SubmitError (Token × Date) :=
  match validate ticket.header ticket.body with
  | .error cause => .error (.validation cause)
  | .ok date =>
    match service.token with
    | none => .error .notAuthenticated
    | some token => .ok (token, date)

def attempt (service : Service) (batchSize : Nat) (ticket : Ticket) (s : State) :
    Except SubmitError SubmitReport × State :=
  let s := s.note (.phase .validating)
  match ready service ticket with
  | .error cause => (.error cause, s)
  | .ok (token, date) => deliver service batchSize ticket token date s

end Submission

/-- A whole run: its outcome, the stock after it and its trace. -/
structure SubmitRun where
  outcome : SubmitOutcome
  stock : Stock
  trace : List SubmitEvent

namespace SubmitRun

/-- The run of an attempt that has come to its end. -/
def ofAttempt (ticket : Ticket)
    (attempted : Except SubmitError SubmitReport × Submission.State) : SubmitRun :=
  let (result, s) := attempted
  let last := match result with
    | .ok _ => SubmitPhase.sent
    | .error _ => SubmitPhase.failed
  { outcome := { generation := ticket.generation, revision := ticket.revision, result }
    stock := s.stock
    trace := s.trace ++ [.phase last] }

def start (service : Service) (batchSize : Nat) (stock : Stock) (ticket : Ticket) : SubmitRun :=
  ofAttempt ticket (Submission.attempt service batchSize ticket { stock })

def phases (r : SubmitRun) : List SubmitPhase := r.trace.filterMap fun
  | .phase p => some p
  | _ => none

/-- The phase after the whole run. -/
def lastPhase (r : SubmitRun) : SubmitPhase := r.phases.getLast?.getD .idle

/-- The most uploads that are under way at once; between two phases all of them are. -/
def peakOf : (most now : Nat) → List SubmitEvent → Nat
  | most, _, [] => most
  | most, _, .phase _ :: rest => peakOf most 0 rest
  | most, now, .upload _ :: rest => peakOf (max most (now + 1)) (now + 1) rest
  | most, now, .send _ :: rest => peakOf most now rest

def peak (r : SubmitRun) : Nat := peakOf 0 0 r.trace

/-- Uploads with the phase at which each one starts. -/
def uploadsOf : (phase : SubmitPhase) → List SubmitEvent → List (SubmitPhase × UploadRequest)
  | _, [] => []
  | _, .phase p :: rest => uploadsOf p rest
  | phase, .upload r :: rest => (phase, r) :: uploadsOf phase rest
  | phase, .send _ :: rest => uploadsOf phase rest

def uploads (r : SubmitRun) : List (SubmitPhase × UploadRequest) := uploadsOf .idle r.trace

/-- The report request, if the run came to it. -/
def sent? (r : SubmitRun) : Option SendRequest := r.trace.findSome? fun
  | .send request => some request
  | _ => none

end SubmitRun

end SiteReport
