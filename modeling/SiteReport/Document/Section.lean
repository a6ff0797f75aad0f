import SiteReport.Photo.Block
import SiteReport.Text.Blank

/-!
The sections of a report. A section has an identifier of its own and content of one of four kinds;
a patch replaces one part of the content and fits certain kinds only.
-/

namespace SiteReport

/-- Counted up for each document, and never given twice. -/
structure SectionId where
  number : UInt32
  deriving DecidableEq, Inhabited

instance : Ord SectionId := ⟨fun a b => compare a.number b.number⟩

def SectionId.text (id : SectionId) : String := (id.number.toNat).repr

inductive SectionKind where
  | checklistItem
  | photoBlock
  | comment
  | workDescription
  deriving DecidableEq, Inhabited

namespace SectionKind

def name : SectionKind → String
  | .checklistItem => "checklist_item"
  | .photoBlock => "image_block"
  | .comment => "comment"
  | .workDescription => "work_description"

def all : List SectionKind := [.checklistItem, .photoBlock, .comment, .workDescription]

def ofName? (s : String) : Option SectionKind := all.find? (·.name == s)

end SectionKind

inductive Content where
  | checklistItem (name : String)
  | photos (block : PhotoBlock)
  | comment (text : String)
  | workDescription (text : String)
  deriving DecidableEq

namespace Content

/-- What a new section of the kind holds. -/
def fresh : SectionKind → Content
  | .checklistItem => .checklistItem ""
  | .photoBlock => .photos (.empty .beforeAfter)
  | .comment => .comment ""
  | .workDescription => .workDescription ""

def kind : Content → SectionKind
  | .checklistItem _ => .checklistItem
  | .photos _ => .photoBlock
  | .comment _ => .comment
  | .workDescription _ => .workDescription

/-- Nothing worth sending: no photo, and no text but white space. -/
def isBlank : Content → Bool
  | .checklistItem name => Text.isBlank name
  | .photos block => block.isEmpty
  | .comment text => Text.isBlank text
  | .workDescription text => Text.isBlank text

def block? : Content → Option PhotoBlock
  | .photos block => some block
  | _ => none

/-- The content with its photos taken out. -/
def withoutPhotos : Content → Content
  | .photos block => .photos block.emptied
  | c => c

end Content

structure Section where
  id : SectionId
  content : Content
  deriving DecidableEq

/-- A change of one part of a section's content. -/
inductive SectionPatch where
  | name (name : String)
  | text (text : String)
  | layout (layout : Layout)
  deriving DecidableEq

/-- One list of photos in a document, the unit of moving photos about. -/
structure PhotoList where
  block : SectionId
  category : Category
  deriving DecidableEq

end SiteReport
