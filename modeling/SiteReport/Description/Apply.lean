import SiteReport.Composer
import SiteReport.Description.Basic
import SiteReport.Files.Folder

/-!
Writing a described report in a composer, section by section and photo by photo. The first failure
ends it, and the composer stays as far as it got.
-/

namespace SiteReport

inductive DescriptionError where
  | edit (cause : EditError)
  | store (cause : StoreError)
  | notInStock (id : PhotoId)
  | reading (path : String)
  | staging (path : String) (cause : CaptureError)
  deriving DecidableEq

def DescriptionError.message : DescriptionError → String
  | .edit cause => cause.message
  | .store cause => cause.message
  | .notInStock id => "staged image " ++ id.text ++ " is not in the local stock"
  | .reading path => "reading " ++ path
  | .staging path _ => "staging " ++ path

/-- What surrounds a description: the folder that its paths start from, the files there, and the
identifiers for the photos that are staged. -/
structure Surroundings where
  clock : Clock
  folder : String
  look : String → Look
  fresh : Nat → PhotoId

/-- A composer, and how many fresh identifiers are used up. -/
structure Desk where
  composer : Composer
  used : Nat := 0

namespace Desk

/-- Takes one step for each item, up to the first that fails. -/
def advance {α : Type} (step : Desk → α → Except DescriptionError Unit × Desk) (d : Desk) :
    List α → Except DescriptionError Unit × Desk
  | [] => (.ok (), d)
  | a :: rest =>
    match step d a with
    | (.ok _, d) => advance step d rest
    | (.error e, d) => (.error e, d)

/-- An edit of the composer. -/
def edit {α : Type} (d : Desk) : Except EditError (α × Composer) → Except DescriptionError Unit × Desk
  | .ok (_, composer) => (.ok (), { d with composer })
  | .error cause => (.error (.edit cause), d)

/-- Stages a file and attaches it. -/
def capture (s : Surroundings) (list : PhotoList) (d : Desk) (path : String) :
    Except DescriptionError Unit × Desk :=
  match (s.look path).bytes with
  | .error _ => (.error (.reading path), d)
  | .ok bytes =>
    let file : Incoming := ⟨s.fresh d.used, s.clock.wall, Path.name path, bytes⟩
    let (result, composer) := d.composer.capturePhoto s.clock list file
    let d := { composer, used := d.used + 1 }
    match result with
    | .ok _ => (.ok (), d)
    | .error cause => (.error (.staging path cause), d)

def attach (s : Surroundings) (list : PhotoList) (d : Desk) :
    DescribedPhoto → Except DescriptionError Unit × Desk
  | .url url => d.edit (d.composer.attachPhoto s.clock list (.resolved url))
  | .staged id =>
    match d.composer.stock.get id with
    | .error cause => (.error (.store cause), d)
    | .ok none => (.error (.notInStock id), d)
    | .ok (some _) => d.edit (d.composer.attachPhoto s.clock list (.staged id))
  | .file path => capture s list d (Path.join s.folder path)

/-- Adds a section of a kind and sets what the patch says. -/
def addWith (s : Surroundings) (d : Desk) (kind : SectionKind) (patch : SectionPatch) :
    Except DescriptionError Unit × Desk :=
  let (id, composer) := d.composer.addSection s.clock kind
  { d with composer }.edit (composer.updateSection s.clock id patch)

def add (s : Surroundings) (d : Desk) : DescribedSection → Except DescriptionError Unit × Desk
  | .checklistItem name => d.addWith s .checklistItem (.name name)
  | .comment text => d.addWith s .comment (.text text)
  | .workDescription text => d.addWith s .workDescription (.text text)
  | .photos layout lists =>
    let (id, composer) := d.composer.addBlock s.clock layout
    { d with composer }.advance
      (fun d (category, photos) => d.advance (attach s ⟨id, category⟩) photos) lists

end Desk

/-- Writes the described report. -/
def Description.apply (d : Description) (s : Surroundings) (composer : Composer) :
    Except DescriptionError Unit × Composer :=
  let start : Desk := { composer := composer.setHeader s.clock d.header }
  let (result, desk) := start.advance (Desk.add s) d.sections
  (result, desk.composer)

end SiteReport
