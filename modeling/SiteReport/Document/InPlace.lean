import SiteReport.Document.Body

/-!
The edits of a body carried out on the spot, one look and one write after another. A write stays when
a later step fails, so it matters here that an edit checks everything before it writes.
-/

namespace SiteReport

/-- Steps on a state that may end with an error. What was written before the error stays. -/
abbrev InPlace (ε σ : Type) := ExceptT ε (StateM σ)

namespace InPlace

variable {ε ε' σ τ α : Type}

/-- The answer of the steps and the state that they leave. -/
def exec (steps : InPlace ε σ α) (s : σ) : Except ε α × σ := steps.run.run s

/-- A look at the state that may fail. -/
def look (f : σ → Except ε α) : InPlace ε σ α := do
  match f (← get) with
  | .ok a => return a
  | .error e => throw e

/-- Steps on a part of a state. -/
def onPart (get : σ → τ) (put : σ → τ → σ) (steps : InPlace ε τ α) : InPlace ε σ α := fun s =>
  let (answer, part) := steps.exec (get s)
  (answer, put s part)

/-- The same steps with another kind of error. -/
def mapError (f : ε → ε') (steps : InPlace ε σ α) : InPlace ε' σ α := fun s =>
  let (answer, s) := steps.exec s
  (answer.mapError f, s)

end InPlace

namespace Body.InPlace

open SiteReport.InPlace

/-- The index of the first section with the identifier. -/
def indexOf (id : SectionId) : InPlace EditError Body Nat :=
  look fun b =>
    match b.indexOf? id with
    | some i => .ok i
    | none => .error (.unknownSection id)

/-- The section with the identifier, which stands at the index that was found for it. -/
def sectionAt (id : SectionId) (i : Nat) : InPlace EditError Body Section :=
  look fun b =>
    match b.sections[i]? with
    | some s => .ok s
    | none => .error (.unknownSection id)

def writeSections (f : List Section → List Section) : InPlace EditError Body Unit :=
  modify fun b => { b with sections := f b.sections }

def writeContent (i : Nat) (content : Content) : InPlace EditError Body Unit :=
  writeSections fun sections => sections.modify i fun s => { s with content }

/-- Counts the next identifier. -/
def takeId : InPlace EditError Body SectionId := do
  modify fun b => { b with counter := b.counter + 1 }
  return ⟨(← get).counter⟩

def push (content : Content) : InPlace EditError Body Change := do
  let id ← takeId
  let index := (← get).sections.length
  writeSections (· ++ [⟨id, content⟩])
  return .added id index

def remove (id : SectionId) : InPlace EditError Body Change := do
  let i ← indexOf id
  writeSections (·.eraseIdx i)
  return .removed id i

/-- Patches the content at the index where the section stands. -/
def patchAt (id : SectionId) (i : Nat) (content : Content) (patch : SectionPatch) :
    InPlace EditError Body Unit :=
  match content, patch with
  | .checklistItem _, .name name => writeContent i (.checklistItem name)
  | .comment _, .text text => writeContent i (.comment text)
  | .workDescription _, .text text => writeContent i (.workDescription text)
  | .photos block, .layout layout =>
    if block.layout = layout then return
    else if block.isEmpty then writeContent i (.photos (.empty layout))
    else throw (.layoutNotEmpty id)
  | content, _ => throw (.patchMismatch id content.kind)

def update (id : SectionId) (patch : SectionPatch) : InPlace EditError Body Change := do
  let i ← indexOf id
  let s ← sectionAt id i
  patchAt id i s.content patch
  return .updated id

def move (id : SectionId) (stop : Nat) : InPlace EditError Body Change := do
  let start ← indexOf id
  let length := (← get).sections.length
  if length ≤ stop then throw (.indexOutOfRange stop length)
  if start ≠ stop then
    let s ← sectionAt id start
    writeSections (·.eraseIdx start)
    writeSections (·.insertIdx stop s)
  return .moved id start stop

/-- Answers with the identifier of the copy, too. -/
def duplicate (id : SectionId) : InPlace EditError Body (SectionId × Change) := do
  let i ← indexOf id
  let s ← sectionAt id i
  let copy ← takeId
  writeSections (·.insertIdx (i + 1) ⟨copy, s.content.withoutPhotos⟩)
  return (copy, .duplicated id copy)

/-- The photos of a list, to be read or to be changed. -/
def photos (list : PhotoList) : InPlace EditError Body (List PhotoRef) := look (·.photos list)

def writePhotos (list : PhotoList) (photos : List PhotoRef) : InPlace EditError Body Unit :=
  modify (·.setPhotos list photos)

/-- Stops if the photo is staged and used under another category. -/
def checkCategory (photo : PhotoRef) (category : Category) (skip : Option PhotoList) :
    InPlace EditError Body Unit :=
  look fun b =>
    match b.conflict? photo category skip with
    | some e => .error e
    | none => .ok ()

def attach (list : PhotoList) (photo : PhotoRef) : InPlace EditError Body (Option Change) := do
  let _ ← photos list
  checkCategory photo list.category none
  let there ← photos list
  if there.contains photo then return none
  else
    writePhotos list (there ++ [photo])
    return some (.photosChanged list.block)

def detach (list : PhotoList) (photo : PhotoRef) : InPlace EditError Body Change := do
  let there ← photos list
  match there.idxOf? photo with
  | none => throw (.photoNotFound list.block list.category)
  | some i =>
    writePhotos list (there.eraseIdx i)
    return .photosChanged list.block

def checkIndex (index length : Nat) : InPlace EditError Body Unit := do
  if length ≤ index then throw (.indexOutOfRange index length)

def moveWithin (list : PhotoList) (start stop : Nat) : InPlace EditError Body Change := do
  let there ← photos list
  checkIndex start there.length
  checkIndex stop there.length
  if start ≠ stop then
    if let some photo := there[start]? then
      writePhotos list (there.eraseIdx start)
      writePhotos list ((there.eraseIdx start).insertIdx stop photo)
  return .photosChanged list.block

/-- The photo is taken out of the one list before the other list is opened for writing. -/
def moveAcross (source : PhotoList) (index : Nat) (target : PhotoList) :
    InPlace EditError Body Change := do
  if source = target then
    let there ← photos source
    moveWithin source index (there.length - 1)
  else
    let here ← photos source
    match here[index]? with
    | none => throw (.indexOutOfRange index here.length)
    | some photo =>
      let known := (← photos target).contains photo
      checkCategory photo target.category (some source)
      writePhotos source ((← photos source).eraseIdx index)
      if !known then
        writePhotos target ((← photos target) ++ [photo])
      return .photoMoved source target

/-- The steps of an edit. -/
def apply : Edit → InPlace EditError Body (Option Change)
  | .add kind => some <$> push (.fresh kind)
  | .addBlock layout => some <$> push (.photos (.empty layout))
  | .push content => some <$> push content
  | .remove id => some <$> remove id
  | .update id patch => some <$> update id patch
  | .move id stop => some <$> move id stop
  | .duplicate id => (some ·.2) <$> duplicate id
  | .attach list photo => attach list photo
  | .detach list photo => some <$> detach list photo
  | .moveWithin list start stop => some <$> moveWithin list start stop
  | .moveAcross source index target => some <$> moveAcross source index target
  | .resolve resolution => do
    modify fun b => (b.resolve resolution).1
    return some .replaced
  | .clear => do
    modify fun b => b.clear.1
    return some .replaced

end Body.InPlace

end SiteReport
