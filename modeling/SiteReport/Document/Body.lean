import SiteReport.Document.Change

/-!
The body of a report: its sections in order, and the last section identifier given out. Each edit
answers with the new body and the change it made, or with an error; there is no third way, so a
refused edit leaves the body as it was.
-/

namespace SiteReport

structure Body where
  sections : List Section := []
  counter : UInt32 := 0
  deriving DecidableEq, Inhabited

/-- Addresses for staged photos that were uploaded, and the photos that are to be left out. -/
structure Resolution where
  resolved : List (PhotoId × String) := []
  dropped : List PhotoId := []
  deriving DecidableEq

namespace Body

/-- The body with the given sections. The counter is raised to the largest identifier in use, so
that none is given out again. -/
def ofParts (sections : List Section) (counter : UInt32) : Body :=
  ⟨sections, sections.foldl (fun n s => if n < s.id.number then s.id.number else n) counter⟩

def ids (b : Body) : List SectionId := b.sections.map (·.id)

def indexOf? (b : Body) (id : SectionId) : Option Nat := b.sections.findIdx? (·.id == id)

def find? (b : Body) (id : SectionId) : Option Section := b.sections.find? (·.id == id)

def isEmpty (b : Body) : Bool := b.sections.isEmpty

/-- The next identifier. -/
def nextId (b : Body) : SectionId := ⟨b.counter + 1⟩

/-- Every staged photo with its list, in document order. -/
def stagedPhotos (b : Body) : List (PhotoList × PhotoId) :=
  b.sections.flatMap fun s =>
    match s.content with
    | .photos block => block.entries.filterMap fun (category, photo) =>
      photo.stagedId?.map fun id => (⟨s.id, category⟩, id)
    | _ => []

/-- Appends a section. -/
def push (b : Body) (content : Content) : Body × Change :=
  (⟨b.sections ++ [⟨b.nextId, content⟩], b.nextId.number⟩, .added b.nextId b.sections.length)

def add (b : Body) (kind : SectionKind) : Body × Change := b.push (.fresh kind)

def addBlock (b : Body) (layout : Layout) : Body × Change := b.push (.photos (.empty layout))

def remove (b : Body) (id : SectionId) : Except EditError (Body × Change) :=
  match b.indexOf? id with
  | none => .error (.unknownSection id)
  | some i => .ok ({ b with sections := b.sections.eraseIdx i }, .removed id i)

/-- Replaces the content of the first section with the identifier. -/
def setContent (b : Body) (id : SectionId) (content : Content) : Body :=
  match b.indexOf? id with
  | none => b
  | some i => { b with sections := b.sections.modify i fun s => { s with content } }

/-- The content after a patch. The layout of a block changes only while it holds no photos. -/
def patched (id : SectionId) (content : Content) (patch : SectionPatch) :
    Except EditError Content :=
  match content, patch with
  | .checklistItem _, .name name => .ok (.checklistItem name)
  | .comment _, .text text => .ok (.comment text)
  | .workDescription _, .text text => .ok (.workDescription text)
  | .photos block, .layout layout =>
    if block.layout = layout then .ok (.photos block)
    else if block.isEmpty then .ok (.photos (.empty layout))
    else .error (.layoutNotEmpty id)
  | content, _ => .error (.patchMismatch id content.kind)

def update (b : Body) (id : SectionId) (patch : SectionPatch) :
    Except EditError (Body × Change) :=
  match b.find? id with
  | none => .error (.unknownSection id)
  | some s =>
    match patched id s.content patch with
    | .error e => .error e
    | .ok content => .ok (b.setContent id content, .updated id)

/-- Takes an item out and puts it in again at another place. -/
def moveItem {α : Type} (items : List α) (start stop : Nat) : List α :=
  match items[start]? with
  | none => items
  | some item => (items.eraseIdx start).insertIdx stop item

/-- Moves a section so that it ends up at the index. -/
def move (b : Body) (id : SectionId) (stop : Nat) : Except EditError (Body × Change) :=
  match b.indexOf? id with
  | none => .error (.unknownSection id)
  | some start =>
    if b.sections.length ≤ stop then .error (.indexOutOfRange stop b.sections.length)
    else .ok ({ b with sections := moveItem b.sections start stop }, .moved id start stop)

/-- Puts a copy right after the section. The copy of a block has no photos, so that no staged photo
comes to stand in two sections. -/
def duplicate (b : Body) (id : SectionId) : Except EditError (Body × Change) :=
  match b.indexOf? id, b.find? id with
  | some i, some s =>
    .ok (⟨b.sections.insertIdx (i + 1) ⟨b.nextId, s.content.withoutPhotos⟩, b.nextId.number⟩,
      .duplicated id b.nextId)
  | _, _ => .error (.unknownSection id)

/-- The photos of a list. -/
def photos (b : Body) (list : PhotoList) : Except EditError (List PhotoRef) :=
  match b.find? list.block with
  | none => .error (.unknownSection list.block)
  | some s =>
    match s.content.block? with
    | none => .error (.notPhotoBlock list.block)
    | some block =>
      match block.photos? list.category with
      | none => .error (.categoryNotInLayout list.block list.category block.layout)
      | some photos => .ok photos

/-- Replaces the photos of a list that the body has. -/
def setPhotos (b : Body) (list : PhotoList) (photos : List PhotoRef) : Body :=
  match (b.find? list.block).bind (·.content.block?) with
  | none => b
  | some block => b.setContent list.block (.photos (block.setPhotos list.category photos))

/-- The category under which a staged photo is used already, other than `category`. Uses in the
list `skip` do not count. -/
def conflict? (b : Body) (photo : PhotoRef) (category : Category) (skip : Option PhotoList) :
    Option EditError :=
  match photo.stagedId? with
  | none => none
  | some id =>
    let other := b.stagedPhotos.find? fun (list, staged) =>
      staged == id && some list != skip && list.category != category
    other.map fun (list, _) => .stagedElsewhere id list.category

/-- Appends a photo; no change when the list has it already. A staged photo keeps one category in
the whole document. -/
def attach (b : Body) (list : PhotoList) (photo : PhotoRef) :
    Except EditError (Body × Option Change) :=
  match b.photos list with
  | .error e => .error e
  | .ok photos =>
    match b.conflict? photo list.category none with
    | some e => .error e
    | none =>
      if photos.contains photo then .ok (b, none)
      else .ok (b.setPhotos list (photos ++ [photo]), some (.photosChanged list.block))

def detach (b : Body) (list : PhotoList) (photo : PhotoRef) : Except EditError (Body × Change) :=
  match b.photos list with
  | .error e => .error e
  | .ok photos =>
    if photos.contains photo then
      .ok (b.setPhotos list (photos.erase photo), .photosChanged list.block)
    else .error (.photoNotFound list.block list.category)

/-- Moves a photo inside its list. -/
def moveWithin (b : Body) (list : PhotoList) (start stop : Nat) :
    Except EditError (Body × Change) :=
  match b.photos list with
  | .error e => .error e
  | .ok photos =>
    if photos.length ≤ start then .error (.indexOutOfRange start photos.length)
    else if photos.length ≤ stop then .error (.indexOutOfRange stop photos.length)
    else .ok (b.setPhotos list (moveItem photos start stop), .photosChanged list.block)

/-- Moves a photo to the end of another list. A photo that the target has already is only taken
out of its list; inside one list it goes to the end. -/
def moveAcross (b : Body) (source : PhotoList) (index : Nat) (target : PhotoList) :
    Except EditError (Body × Change) :=
  match b.photos source with
  | .error e => .error e
  | .ok photos =>
    if source = target then b.moveWithin source index (photos.length - 1)
    else
      match photos[index]? with
      | none => .error (.indexOutOfRange index photos.length)
      | some photo =>
        match b.photos target with
        | .error e => .error e
        | .ok there =>
          match b.conflict? photo target.category (some source) with
          | some e => .error e
          | none =>
            let taken := b.setPhotos source (photos.eraseIdx index)
            .ok (if there.contains photo then taken else taken.setPhotos target (there ++ [photo]),
              .photoMoved source target)

/-- The list without its later repetitions. -/
def firsts {α : Type} [DecidableEq α] : List α → List α
  | [] => []
  | x :: rest => x :: (firsts rest).filter (· ≠ x)

/-- What becomes of one photo. -/
def Resolution.image (r : Resolution) : PhotoRef → Option PhotoRef
  | .resolved url => some (.resolved url)
  | .staged id =>
    if r.dropped.contains id then none
    else
      match r.resolved.lookup id with
      | some url => some (.resolved url)
      | none => some (.staged id)

/-- Two photos may have come to the same address; the first one stays. -/
def Resolution.apply (r : Resolution) (photos : List PhotoRef) : List PhotoRef :=
  firsts (photos.filterMap (Resolution.image r))

/-- Replaces staged photos by their addresses and leaves out the dropped ones. -/
def resolve (b : Body) (r : Resolution) : Body × Change :=
  let content : Content → Content
    | .photos block => .photos (block.mapLists (Resolution.apply r))
    | c => c
  ({ b with sections := b.sections.map fun s => { s with content := content s.content } },
    .replaced)

/-- Removes every section; the next document counts from one again. -/
def clear (_ : Body) : Body × Change := (⟨[], 0⟩, .replaced)

end Body

/-- The edits of a body. -/
inductive Edit where
  | add (kind : SectionKind)
  | addBlock (layout : Layout)
  | push (content : Content)
  | remove (id : SectionId)
  | update (id : SectionId) (patch : SectionPatch)
  | move (id : SectionId) (stop : Nat)
  | duplicate (id : SectionId)
  | attach (list : PhotoList) (photo : PhotoRef)
  | detach (list : PhotoList) (photo : PhotoRef)
  | moveWithin (list : PhotoList) (start stop : Nat)
  | moveAcross (source : PhotoList) (index : Nat) (target : PhotoList)
  | resolve (resolution : Resolution)
  | clear

namespace Body

/-- A change that is always made, in the shape of one that may be none. -/
def made (r : Body × Change) : Body × Option Change := (r.1, some r.2)

def apply (b : Body) : Edit → Except EditError (Body × Option Change)
  | .add kind => .ok (made (b.add kind))
  | .addBlock layout => .ok (made (b.addBlock layout))
  | .push content => .ok (made (b.push content))
  | .remove id => (b.remove id).map made
  | .update id patch => (b.update id patch).map made
  | .move id stop => (b.move id stop).map made
  | .duplicate id => (b.duplicate id).map made
  | .attach list photo => b.attach list photo
  | .detach list photo => (b.detach list photo).map made
  | .moveWithin list start stop => (b.moveWithin list start stop).map made
  | .moveAcross source index target => (b.moveAcross source index target).map made
  | .resolve resolution => .ok (made (b.resolve resolution))
  | .clear => .ok (made b.clear)

/-- The body after an edit; a refused edit leaves it alone. -/
def after (b : Body) (e : Edit) : Body :=
  match b.apply e with
  | .ok (b, _) => b
  | .error _ => b

def run (b : Body) (edits : List Edit) : Body := edits.foldl after b

end Body

end SiteReport
