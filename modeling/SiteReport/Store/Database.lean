import SiteReport.Store.Photo

/-!
A store in a database of two tables. Photos are rows keyed by the text of their identifier, with
times in milliseconds; drafts are texts keyed by the name of their slot. Rows may have been written
by other hands, so reading one can fail.
-/

namespace SiteReport

structure PhotoRow where
  id : String
  bytes : Bytes
  name : String
  createdMillis : Int
  uploaded : Bool
  remoteUrl : Option String
  deriving DecidableEq

structure DraftRow where
  key : String
  text : String
  deriving DecidableEq

structure Database where
  photos : List PhotoRow := []
  drafts : List DraftRow := []
  deriving DecidableEq, Inhabited

namespace PhotoRow

def ofPhoto (p : StagedPhoto) : PhotoRow :=
  { id := p.id.text, bytes := p.bytes, name := p.name, createdMillis := p.createdAt.millis,
    uploaded := p.uploaded, remoteUrl := p.remoteUrl }

def photo (r : PhotoRow) : Except StoreError StagedPhoto :=
  match PhotoId.parse? r.id with
  | none => .error (.corrupt r.id "invalid image id")
  | some id =>
    match Timestamp.ofMillis? r.createdMillis with
    | none => .error (.corrupt r.id ("invalid timestamp " ++ r.createdMillis.repr))
    | some createdAt =>
      .ok { id, bytes := r.bytes, name := r.name, createdAt, uploaded := r.uploaded,
            remoteUrl := r.remoteUrl }

/-- Oldest first; rows of one millisecond go by the text of their identifiers. -/
def notAfter (a b : PhotoRow) : Bool :=
  a.createdMillis < b.createdMillis || (a.createdMillis == b.createdMillis && a.id ≤ b.id)

end PhotoRow

/-- The slot of a program that names none. -/
def defaultDraftKey : String := "fieldreport_draft:current"

namespace Database

/-- Writes a row in the place of the one with its key, if there is one. -/
def putRow (d : Database) (r : PhotoRow) : Database :=
  { d with photos := d.photos.filter (·.id != r.id) ++ [r] }

def put (d : Database) (p : StagedPhoto) : Database := d.putRow (.ofPhoto p)

def has (d : Database) (id : PhotoId) : Bool := d.photos.any (·.id == id.text)

def get (d : Database) (id : PhotoId) : Except StoreError (Option StagedPhoto) :=
  match d.photos.find? (·.id == id.text) with
  | none => .ok none
  | some r => r.photo.map some

def getAll (d : Database) : Except StoreError (List StagedPhoto) :=
  (d.photos.mergeSort PhotoRow.notAfter).mapM PhotoRow.photo

def delete (d : Database) (id : PhotoId) : Database :=
  { d with photos := d.photos.filter (·.id != id.text) }

def clear (d : Database) : Database := { d with photos := [] }

def markUploaded (d : Database) (id : PhotoId) (url : String) : Database :=
  { d with photos := d.photos.map fun r =>
      if r.id = id.text then { r with uploaded := true, remoteUrl := some url } else r }

def draftText? (d : Database) (key : String) : Option String :=
  (d.drafts.find? (·.key == key)).map (·.text)

def loadDraft (d : Database) (key : String) : Except StoreError (Option Snapshot) :=
  match d.draftText? key with
  | none => .ok none
  | some text =>
    match Snapshot.parse? text with
    | some s => .ok (some s)
    | none => .error .undecodable

def clearDraft (d : Database) (key : String) : Database :=
  { d with drafts := d.drafts.filter (·.key != key) }

def putDraft (d : Database) (key text : String) : Database :=
  { d with drafts := (d.clearDraft key).drafts ++ [⟨key, text⟩] }

end Database

end SiteReport
