import SiteReport.Store.Photo

/-!
A store that lives in memory: staged photos in the order of their identifiers, each identifier at
most once, and the text of the one draft.
-/

namespace SiteReport

structure MemoryStore where
  photos : List StagedPhoto := []
  draft : Option String := none
  deriving DecidableEq, Inhabited

namespace MemoryStore

/-- Puts a photo in its place among photos in the order of their identifiers; one with the same
identifier is replaced. -/
def insert (p : StagedPhoto) : List StagedPhoto → List StagedPhoto
  | [] => [p]
  | q :: rest =>
    if p.id = q.id then p :: rest
    else if p.id.number < q.id.number then p :: q :: rest
    else q :: insert p rest

def put (m : MemoryStore) (p : StagedPhoto) : MemoryStore := { m with photos := insert p m.photos }

def get? (m : MemoryStore) (id : PhotoId) : Option StagedPhoto := m.photos.find? (·.id == id)

def delete (m : MemoryStore) (id : PhotoId) : MemoryStore :=
  { m with photos := m.photos.filter (·.id != id) }

def has (m : MemoryStore) (id : PhotoId) : Bool := m.photos.any (·.id == id)

def clear (m : MemoryStore) : MemoryStore := { m with photos := [] }

def markUploaded (m : MemoryStore) (id : PhotoId) (url : String) : MemoryStore :=
  { m with photos := m.photos.map fun p =>
      if p.id = id then { p with uploaded := true, remoteUrl := some url } else p }

def loadDraft (m : MemoryStore) : Except StoreError (Option Snapshot) :=
  match m.draft with
  | none => .ok none
  | some text =>
    match Snapshot.parse? text with
    | some s => .ok (some s)
    | none => .error .undecodable

end MemoryStore

end SiteReport
