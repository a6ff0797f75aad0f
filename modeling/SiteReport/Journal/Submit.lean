import SiteReport.Picture.Header
import SiteReport.Journal.Failure

/-!
Photos of the stock, drafts and the course of a submit as JSON, for those who record an editing
session. Bytes are shown as the format and size of the picture that they are.
-/

namespace SiteReport

/-- Format and size of a JPEG, and the hexadecimal digits of any other bytes. -/
def Picture.summary (bytes : Bytes) : String :=
  match Picture.read? bytes with
  | some ⟨.jpeg, width, height⟩ => "jpeg:" ++ width.repr ++ "x" ++ height.repr
  | _ => String.ofList (Text.Hex.ofBytes bytes)

/-- The summary of a JPEG written in base64; other texts stay as they are. -/
def Picture.textSummary (text : String) : String :=
  match Text.Base64.decode? text.toList with
  | some bytes =>
    match Picture.read? bytes with
    | some ⟨.jpeg, _, _⟩ => Picture.summary bytes
    | _ => text
  | none => text

/-- A photo of the stock; the time of its making is left out where `fresh` says so. -/
def StagedPhoto.outline (fresh : PhotoId → Bool) (p : StagedPhoto) : Json := .record <|
  [("id", p.id.toJson), ("name", .ofText p.name), ("bytes", .ofText (Picture.summary p.bytes)),
    ("uploaded", .bool p.uploaded), ("remote_url", .ofOption Json.ofText p.remoteUrl),
    ("uploaded_url", .ofOption Json.ofText p.uploadedUrl?)]
    ++ if fresh p.id then [] else [("created_at", p.createdAt.toJson)]

def StageReport.toJson (fresh : PhotoId → Bool) (r : StageReport) : Json := .record
  [("staged", .ofList (StagedPhoto.outline fresh) r.staged),
    ("failed", .ofList StageError.toJson r.failed),
    ("progress", .ofList (fun p => .array [.ofNat p.done, .ofNat p.total]) r.progress)]

/-- What came of something that may fail. -/
def outcomeToJson {ε α : Type} (failure : ε → Json) (success : α → Json) : Except ε α → Json
  | .ok a => success a
  | .error e => failure e

def Body.toFields (b : Body) : List (String × Json) :=
  [("sections", Section.listToJson b.sections), ("counter", .ofNat b.counter.toNat)]

def Restored.toJson (r : Restored) : Json := .record <|
  [("header", r.header.toJson)] ++ r.body.toFields
    ++ [("remote_id", .ofOption Json.ofText r.remoteId),
      ("detached_photos", .ofList DetachedPhotos.toJson r.detached)]

/-- A draft without the time of its saving. -/
def Snapshot.timeless (s : Snapshot) : Json :=
  match s.toJson with
  | .object members => .object <| members.map fun m =>
    if m.1 = "saved_at".toList then (m.1, .ofText "*") else m
  | v => v

def DraftCheck.toJson (shown : Snapshot → Json) : DraftCheck → Json
  | .empty => .ofText "empty"
  | .offer draft => .record [("offer", shown draft)]
  | .stale => .ofText "stale"
  | .corrupt => .ofText "corrupt"

def SubmitPhase.toJson : SubmitPhase → Json
  | .idle => .ofText "idle"
  | .validating => .ofText "validating"
  | .uploading done total => .record [("uploading", .array [.ofNat done, .ofNat total])]
  | .assembling => .ofText "assembling"
  | .sent => .ofText "sent"
  | .failed => .ofText "failed"

def UploadRequest.toJson (phase : SubmitPhase) (r : UploadRequest) : Json := .record
  [("token", .ofText r.token.secret), ("file", .ofText r.fileName), ("mime", .ofText r.mimeType),
    ("data", .ofText (Picture.textSummary r.data)), ("category", r.category.toJson),
    ("date", r.date.toJson), ("phase", phase.toJson)]

def SendRequest.toJson (r : SendRequest) : Json := .record
  [("token", .ofText r.token.secret), ("update", .ofOption Json.ofText r.update),
    ("phase", SubmitPhase.assembling.toJson), ("payload", .ofText r.payload.text)]

/-- Photos are listed in the order of their identifiers. -/
def SubmitReport.toJson (r : SubmitReport) : Json :=
  let resolved := r.resolution.resolved.mergeSort fun a b => a.1.number ≤ b.1.number
  let dropped := r.resolution.dropped.mergeSort fun a b => a.number ≤ b.number
  .record
    [("remote_id", .ofText r.remoteId), ("created", .bool r.created),
      ("uploaded", .ofNat r.uploaded), ("reused", .ofNat r.reused),
      ("resolved", .ofList (fun (id, url) => .array [PhotoId.toJson id, .ofText url]) resolved),
      ("dropped", .ofList PhotoId.toJson dropped), ("failed", .ofList UploadError.toJson r.failed),
      ("payload", r.payload.toJson)]

def SubmitReport.resultToJson (r : Except SubmitError SubmitReport) : Json :=
  outcomeToJson SubmitError.toJson SubmitReport.toJson r

def SubmitOutcome.toJson (o : SubmitOutcome) : Json := .record
  [("generation", .ofNat o.generation), ("revision", .ofNat o.revision),
    ("result", SubmitReport.resultToJson o.result)]

/-- The course of a run, with what became of its outcome. -/
def SubmitRun.toJson (r : SubmitRun) (outcome : Json) : Json := .record
  [("phases", .ofList SubmitPhase.toJson [.idle, r.lastPhase]),
    ("uploads", .ofList (fun (phase, u) => UploadRequest.toJson phase u) r.uploads),
    ("peak", .ofNat r.peak), ("sent", .ofOption SendRequest.toJson r.sent?), ("outcome", outcome)]

end SiteReport
