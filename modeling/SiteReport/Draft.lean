import SiteReport.Document.Written
import SiteReport.Json.Parser

/-!
Drafts. A draft keeps the document without its photos: blocks are saved empty, next to a count of
the photos that each one held, so that a restored document can ask for them again.
-/

namespace SiteReport

/-- Photos that a block held when the draft was saved. -/
structure DetachedPhotos where
  block : SectionId
  count : UInt64
  deriving DecidableEq

structure Snapshot where
  header : Header
  sections : List Section
  counter : UInt32
  remoteId : Option String
  detached : List DetachedPhotos
  savedAt : Timestamp
  deriving DecidableEq

/-- A draft turned back into a document. -/
structure Restored where
  header : Header
  body : Body
  remoteId : Option String
  detached : List DetachedPhotos
  deriving DecidableEq

namespace DetachedPhotos

/-- The photos of a section, if it has any. -/
def ofSection? (s : Section) : Option DetachedPhotos :=
  match s.content with
  | .photos block => if block.isEmpty then none else some ⟨s.id, UInt64.ofNat block.count⟩
  | _ => none

/-- The largest count. -/
def limit : Nat := 18446744073709551615

def toJson (d : DetachedPhotos) : Json :=
  .record [("section", d.block.toJson), ("count", .ofNat d.count.toNat)]

def ofJson? (v : Json) : Option DetachedPhotos := do
  match ← v.record? ["section", "count"] with
  | [some block, some count] => do
    let block ← SectionId.ofJson? block
    let count ← count.toNat? limit
    some ⟨block, UInt64.ofNat count⟩
  | _ => none

end DetachedPhotos

namespace Snapshot

def capture (header : Header) (body : Body) (remoteId : Option String) (savedAt : Timestamp) :
    Snapshot :=
  { header, remoteId, savedAt
    sections := body.sections.map fun s => { s with content := s.content.withoutPhotos }
    counter := body.counter
    detached := body.sections.filterMap DetachedPhotos.ofSection? }

def restored (s : Snapshot) : Restored :=
  { header := s.header
    body := Body.ofParts s.sections s.counter
    remoteId := s.remoteId
    detached := s.detached }

/-- Nanoseconds since the draft was saved; negative for a draft from the future. -/
def age (s : Snapshot) (now : Timestamp) : Int := Timestamp.nanosBetween s.savedAt now

/-- Younger than the window, which a draft from the future always is. -/
def isFresh (s : Snapshot) (now : Timestamp) (window : Int) : Bool := s.age now < window

/-- The remote identifier and the detached photos are left out when there are none. -/
def toJson (s : Snapshot) : Json := .record <|
  [("header", s.header.toJson), ("sections", Section.listToJson s.sections),
    ("section_counter", .ofNat s.counter.toNat)]
    ++ (match s.remoteId with
      | some id => [("remote_id", .ofText id)]
      | none => [])
    ++ (if s.detached.isEmpty then []
      else [("detached_photos", .ofList DetachedPhotos.toJson s.detached)])
    ++ [("saved_at", s.savedAt.toJson)]

def ofJson? (v : Json) : Option Snapshot := do
  match ← v.record?
      ["header", "sections", "section_counter", "remote_id", "detached_photos", "saved_at"] with
  | [some header, some sections, some counter, remoteId, detached, some savedAt] => do
    let header ← Header.ofJson? header
    let sections ← sections.toList? (Section.ofJson? Json.Place.top.inside.inside)
    let counter ← counter.toNat? SectionId.limit
    let remoteId ← Json.orElse? none (Json.toOption? Json.toText?) remoteId
    let detached ← Json.orElse? [] (Json.toList? DetachedPhotos.ofJson?) detached
    let savedAt ← Timestamp.ofJson? savedAt
    some { header, sections, counter := UInt32.ofNat counter, remoteId, detached, savedAt }
  | _ => none

def text (s : Snapshot) : String := s.toJson.compact

def parse? (text : String) : Option Snapshot := (Json.parse? text).bind ofJson?

end Snapshot

end SiteReport
