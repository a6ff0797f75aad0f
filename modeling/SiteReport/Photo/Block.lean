import SiteReport.Photo.Id

/-!
Photos inside a report. A block shows either what a place looked like before and after the work,
or the completed work alone; its layout fixes which lists of photos it has. A photo is a reference,
to an address on the server or to the local stock.
-/

namespace SiteReport

/-- The lists in which photos are shown, in the order in which they are written. -/
inductive Category where
  | before
  | after
  | completed
  deriving DecidableEq, Inhabited

inductive Layout where
  | beforeAfter
  | completed
  deriving DecidableEq, Inhabited

/-- The two kinds of photo that the server tells apart. -/
inductive UploadCategory where
  | before
  | after
  deriving DecidableEq, Inhabited

namespace Category

def name : Category → String
  | .before => "before"
  | .after => "after"
  | .completed => "completed"

def all : List Category := [.before, .after, .completed]

def ofName? (s : String) : Option Category := all.find? (·.name == s)

/-- Photos of completed work are uploaded as photos after the work. -/
def uploadedAs : Category → UploadCategory
  | .before => .before
  | .after => .after
  | .completed => .after

end Category

namespace Layout

def name : Layout → String
  | .beforeAfter => "before_after"
  | .completed => "completed"

def all : List Layout := [.beforeAfter, .completed]

def ofName? (s : String) : Option Layout := all.find? (·.name == s)

/-- The lists of a block, in display order. -/
def categories : Layout → List Category
  | .beforeAfter => [.before, .after]
  | .completed => [.completed]

def allows (layout : Layout) (category : Category) : Bool := layout.categories.contains category

end Layout

namespace UploadCategory

def name : UploadCategory → String
  | .before => "before"
  | .after => "after"

def all : List UploadCategory := [.before, .after]

def ofName? (s : String) : Option UploadCategory := all.find? (·.name == s)

end UploadCategory

/-- A photo of a report: on the server already, or still in the local stock. -/
inductive PhotoRef where
  | resolved (url : String)
  | staged (id : PhotoId)
  deriving DecidableEq

namespace PhotoRef

def stagedId? : PhotoRef → Option PhotoId
  | .staged id => some id
  | .resolved _ => none

def url? : PhotoRef → Option String
  | .resolved url => some url
  | .staged _ => none

end PhotoRef

inductive PhotoBlock where
  | beforeAfter (before after : List PhotoRef)
  | completed (finished : List PhotoRef)
  deriving DecidableEq

namespace PhotoBlock

/-- A block of the layout without photos. -/
def empty : Layout → PhotoBlock
  | .beforeAfter => .beforeAfter [] []
  | .completed => .completed []

def layout : PhotoBlock → Layout
  | .beforeAfter _ _ => .beforeAfter
  | .completed _ => .completed

/-- The photos of one list, if the block has that list. -/
def photos? : PhotoBlock → Category → Option (List PhotoRef)
  | .beforeAfter before _, .before => some before
  | .beforeAfter _ after, .after => some after
  | .completed finished, .completed => some finished
  | _, _ => none

/-- Replaces one list; a list that the block does not have is left out of account. -/
def setPhotos : PhotoBlock → Category → List PhotoRef → PhotoBlock
  | .beforeAfter _ after, .before, photos => .beforeAfter photos after
  | .beforeAfter before _, .after, photos => .beforeAfter before photos
  | .completed _, .completed, photos => .completed photos
  | block, _, _ => block

/-- Changes every list. -/
def mapLists (f : List PhotoRef → List PhotoRef) : PhotoBlock → PhotoBlock
  | .beforeAfter before after => .beforeAfter (f before) (f after)
  | .completed finished => .completed (f finished)

/-- Every photo with its list, in display order. -/
def entries : PhotoBlock → List (Category × PhotoRef)
  | .beforeAfter before after =>
    before.map (fun p => (.before, p)) ++ after.map (fun p => (.after, p))
  | .completed finished => finished.map (fun p => (.completed, p))

def count : PhotoBlock → Nat
  | .beforeAfter before after => before.length + after.length
  | .completed finished => finished.length

def isEmpty (block : PhotoBlock) : Bool := block.count == 0

/-- The same layout without photos. -/
def emptied (block : PhotoBlock) : PhotoBlock := empty block.layout

end PhotoBlock

end SiteReport
