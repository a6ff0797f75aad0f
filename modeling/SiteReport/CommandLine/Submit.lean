import SiteReport.CommandLine.World

/-!
The task of sending a report: the report is composed from a description or taken up from the saved
draft, saved as a draft, and sent.
-/

namespace SiteReport.CommandLine

/-- The folder that the paths in a description start from. -/
def folderOf (path : String) : String := (Path.folder? path).getD "."

/-- Looks the store up that a description names. -/
def findStore (w : World) (stores : Option String) (id : String) :
    Except Failure DirectoryEntry :=
  match stores with
  | none => .error .noDirectory
  | some path =>
    match (w.look path).text with
    | .error _ => .error (.reading path)
    | .ok text =>
      match Directory.parse? text with
      | none => .error .malformedDirectory
      | some directory => (directory.findStore id).mapError .lookup

/-- Composes the report of a description. -/
def compose (w : World) (c : Composer) (path : String) (stores : Option String) :
    Except Failure Unit × Composer :=
  match (w.look path).text with
  | .error _ => (.error (.reading path), c)
  | .ok text =>
    match Description.parse? text with
    | none => (.error (.parsing path), c)
    | some d =>
      match d.apply ⟨w.clock, folderOf path, w.look, w.fresh⟩ c with
      | (.error e, c) => (.error (.description e), c)
      | (.ok _, c) =>
        let c := match d.remoteId with
          | some id => c.setRemoteId w.clock id
          | none => c
        match d.store with
        | none => (.ok (), c)
        | some id =>
          match findStore w stores id with
          | .error e => (.error e, c)
          | .ok entry => (.ok (), c.applyStoreEntry w.clock entry)

def detachedLine (d : DetachedPhotos) : String :=
  "section " ++ d.block.text ++ " had " ++ d.count.toNat.repr
    ++ " photo(s) that must be attached again"

/-- Takes the saved draft up again, and says which photos are missing. -/
def resume (w : World) (c : Composer) : Except Failure (List String) × Composer :=
  match c.checkDraft w.now with
  | .error e => (.error (Failure.ofCheckError e), c)
  | .ok (.offer draft, c) =>
    let (report, c) := c.restore draft
    (.ok (report.detached.map detachedLine), c)
  | .ok (_, c) => (.error .noReport, c)

/-- The report to be sent: from a description, or the saved draft. -/
def prepare (w : World) (c : Composer) (report stores : Option String) :
    Except Failure (List String) × Composer :=
  match report with
  | none => resume w c
  | some path =>
    match compose w c path stores with
    | (.error e, c) => (.error e, c)
    | (.ok _, c) => (.ok [], c)

def service (w : World) (settings : Settings) : Service :=
  { Client.service settings.api.endpoint (Token.ofVariable? (w.valueOf? settings.api.tokenEnv))
      w.network with
    completion := w.completion }

def reportLine (r : SubmitReport) : String :=
  (if r.created then "created" else "updated") ++ " report " ++ r.remoteId ++ " ("
    ++ r.uploaded.repr ++ " uploaded, " ++ r.reused.repr ++ " reused, "
    ++ r.failed.length.repr ++ " dropped)"

def progressLine? : SubmitPhase → Option String
  | .uploading done total =>
    if total = 0 then none
    else some ("uploading photos " ++ done.repr ++ "/" ++ total.repr)
  | _ => none

/-- Sends the report of a composer, and says what came of it. -/
def send (w : World) (settings : Settings) (c : Composer) : Told × Composer :=
  let ((result, run), c) := c.submit w.clock (service w settings) settings.edit.uploadBatchSize
  let progress := run.phases.filterMap progressLine?
  match result with
  | .ok report =>
    ({ output := [reportLine report]
       notes := progress ++ report.failed.map ("warning: " ++ ·.message), trace := run.trace }, c)
  | .error e =>
    let notes := if e.isTransient then
        ["the service is unreachable right now; the draft is saved, submit again later"]
      else []
    ({ result := .error (.submit e), notes := progress ++ notes, trace := run.trace }, c)

/-- The report is saved as a draft before it is sent. -/
def runSubmit (w : World) (settings : Settings) (c : Composer) (report stores : Option String) :
    Told × Composer :=
  match prepare w c report stores with
  | (.error e, c) => (.failed e, c)
  | (.ok notes, c) =>
    match c.flushDraft w.clock with
    | (.error e, c) => ({ Told.failed (.store e) with notes }, c)
    | (.ok _, c) =>
      let (told, c) := send w settings c
      ({ told with notes := notes ++ told.notes }, c)

end SiteReport.CommandLine
