import SiteReport.Document.Section

/-!
What an edit of the sections did, and why one was refused. A refused edit changes nothing.
-/

namespace SiteReport

inductive Change where
  | added (id : SectionId) (index : Nat)
  | removed (id : SectionId) (index : Nat)
  | updated (id : SectionId)
  | moved (id : SectionId) (start stop : Nat)
  | duplicated (source copy : SectionId)
  | photosChanged (id : SectionId)
  | photoMoved (source target : PhotoList)
  | replaced
  deriving DecidableEq

/-- A move of a section onto its own place. -/
def Change.isNoop : Change → Bool
  | .moved _ start stop => start == stop
  | _ => false

inductive EditError where
  | unknownSection (id : SectionId)
  | indexOutOfRange (index length : Nat)
  | patchMismatch (id : SectionId) (kind : SectionKind)
  | notPhotoBlock (id : SectionId)
  | categoryNotInLayout (id : SectionId) (category : Category) (layout : Layout)
  | photoNotFound (id : SectionId) (category : Category)
  | layoutNotEmpty (id : SectionId)
  | stagedElsewhere (photo : PhotoId) (category : Category)
  deriving DecidableEq

namespace EditError

def message : EditError → String
  | .unknownSection id => "no section with id " ++ id.text
  | .indexOutOfRange index length =>
    "index " ++ index.repr ++ " is out of range for " ++ length.repr ++ " items"
  | .patchMismatch id kind =>
    "section " ++ id.text ++ " is a " ++ kind.name ++ " and cannot take that edit"
  | .notPhotoBlock id => "section " ++ id.text ++ " is not an image block"
  | .categoryNotInLayout id category layout =>
    "section " ++ id.text ++ " uses the " ++ layout.name ++ " layout, which has no "
      ++ category.name ++ " photos"
  | .photoNotFound id category =>
    "photo not found in " ++ category.name ++ " list of section " ++ id.text
  | .layoutNotEmpty id =>
    "section " ++ id.text ++ " still holds photos; remove them before changing layout"
  | .stagedElsewhere photo category =>
    "staged photo " ++ photo.text ++ " is already used as a " ++ category.name ++ " photo"

end EditError

end SiteReport
