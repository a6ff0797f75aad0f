import SiteReport.CommandLine.Arguments
import SiteReport.CommandLine.World

/-!
The tasks on the local stock and on the saved draft.
-/

namespace SiteReport.CommandLine

/-- The bytes of files with their names. The first that cannot be read ends it. -/
def readFiles (look : String → Look) : List String → Except Failure (List (String × Bytes))
  | [] => .ok []
  | path :: rest =>
    match (look path).bytes with
    | .error _ => .error (.reading path)
    | .ok bytes => (readFiles look rest).map ((Path.name path, bytes) :: ·)

def incoming (w : World) (files : List (String × Bytes)) : List Incoming :=
  files.mapIdx fun i (name, bytes) => ⟨w.fresh i, w.now, name, bytes⟩

def runStage (w : World) (c : Composer) (paths : List String) : Told × Composer :=
  match readFiles w.look paths with
  | .error e => (.failed e, c)
  | .ok files =>
    let (report, c) := c.stageBatch w.completion (incoming w files)
    let progress := report.progress.map fun p => "staged " ++ p.done.repr ++ "/" ++ p.total.repr
    let staged := report.staged.map fun p => p.id.text ++ "  " ++ p.name
    ({ result := if report.staged.isEmpty && !report.failed.isEmpty then .error .nothingStaged
         else .ok ()
       output := progress ++ staged
       notes := report.failed.map ("skipped: " ++ ·.message) }, c)

/-- The text with blanks in front up to a width. -/
def padLeft (width : Nat) (s : String) : String :=
  String.ofList (List.replicate (width - s.length) ' ') ++ s

def photoLine (p : StagedPhoto) : String :=
  p.id.text ++ "  " ++ padLeft 8 p.bytes.length.repr ++ " B  " ++ p.createdAt.minuteText ++ "  "
    ++ p.name ++ "  " ++ p.uploadedUrl?.getD "staged"

def runStock (c : Composer) : StockTask → Told × Composer
  | .list =>
    match c.stock.listAll with
    | .error e => (.failed (.store e), c)
    | .ok [] => (.said ["stock is empty"], c)
    | .ok photos => (.said (photos.map photoLine), c)
  | .remove text =>
    match PhotoId.parse? text with
    | none => (.failed (.notAnId text), c)
    | some id =>
      match c.stock.remove id with
      | (.error e, stock) => (.failed (.store e), { c with stock })
      | (.ok false, stock) => (.failed (.notStaged id), { c with stock })
      | (.ok true, stock) => (.said ["removed " ++ id.text], { c with stock })
  | .clear =>
    match c.stock.clearAll with
    | (.error e, stock) => (.failed (.store e), { c with stock })
    | (.ok _, stock) => (.said ["stock cleared"], { c with stock })

def draftLines : DraftCheck → List String
  | .offer draft => [draft.toJson.pretty]
  | .empty => ["no draft"]
  | .stale => ["draft was stale and has been discarded"]
  | .corrupt => ["draft was unreadable and has been discarded"]

def runDraft (w : World) (c : Composer) : DraftTask → Told × Composer
  | .print =>
    match c.checkDraft w.now with
    | .error e => (.failed (Failure.ofCheckError e), c)
    | .ok (check, c) => (.said (draftLines check), c)
  | .discard =>
    match c.stock.store.clearDraft with
    | .error e => (.failed (.store e), c)
    | .ok store => (.said ["draft discarded"], c.mapStore store)

end SiteReport.CommandLine
