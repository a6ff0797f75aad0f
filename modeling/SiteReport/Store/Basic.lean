import SiteReport.Store.Memory
import SiteReport.Store.Database

/-!
The local store of a program: staged photos and one draft slot, in memory or in a database. Any
call may fail for a reason outside the program; `faults` says which calls fail at present, and a
call that fails changes nothing.
-/

namespace SiteReport

inductive Backend where
  | memory (m : MemoryStore)
  | database (d : Database) (draftKey : String)
  deriving DecidableEq

inductive StoreCall where
  | put
  | get
  | getAll
  | delete
  | clear
  | markUploaded
  | draftLoad
  | draftSave
  | draftClear
  deriving DecidableEq

namespace StoreCall

def name : StoreCall → String
  | .put => "put"
  | .get => "get"
  | .getAll => "get_all"
  | .delete => "delete"
  | .clear => "clear"
  | .markUploaded => "mark_uploaded"
  | .draftLoad => "draft_load"
  | .draftSave => "draft_save"
  | .draftClear => "draft_clear"

def all : List StoreCall :=
  [.put, .get, .getAll, .delete, .clear, .markUploaded, .draftLoad, .draftSave, .draftClear]

def ofName? (s : String) : Option StoreCall := all.find? (·.name == s)

end StoreCall

structure Store where
  backend : Backend
  faults : StoreCall → Option StoreError := fun _ => none

namespace Store

/-- An answer, unless the call fails at present. -/
def guarded {α : Type} (s : Store) (call : StoreCall) (answer : Except StoreError α) :
    Except StoreError α :=
  match s.faults call with
  | some e => .error e
  | none => answer

/-- A change of the backend, unless the call fails at present. -/
def change (s : Store) (call : StoreCall) (f : Backend → Backend) : Except StoreError Store :=
  s.guarded call (.ok { s with backend := f s.backend })

def put (s : Store) (p : StagedPhoto) : Except StoreError Store :=
  s.change .put fun
    | .memory m => .memory (m.put p)
    | .database d key => .database (d.put p) key

def get (s : Store) (id : PhotoId) : Except StoreError (Option StagedPhoto) :=
  s.guarded .get <|
    match s.backend with
    | .memory m => .ok (m.get? id)
    | .database d _ => d.get id

/-- All photos: those in memory in the order of their identifiers, those in a database the oldest
first. -/
def getAll (s : Store) : Except StoreError (List StagedPhoto) :=
  s.guarded .getAll <|
    match s.backend with
    | .memory m => .ok m.photos
    | .database d _ => d.getAll

/-- Is there a photo with the identifier, readable or not? -/
def has (s : Store) (id : PhotoId) : Bool :=
  match s.backend with
  | .memory m => m.has id
  | .database d _ => d.has id

/-- Says whether there was something to delete. -/
def delete (s : Store) (id : PhotoId) : Except StoreError (Bool × Store) :=
  (s.change .delete fun
    | .memory m => .memory (m.delete id)
    | .database d key => .database (d.delete id) key).map fun after => (s.has id, after)

/-- Deletes every photo; the draft stays. -/
def clear (s : Store) : Except StoreError Store :=
  s.change .clear fun
    | .memory m => .memory m.clear
    | .database d key => .database d.clear key

/-- Notes the address of an upload. Says whether the photo is there. -/
def markUploaded (s : Store) (id : PhotoId) (url : String) : Except StoreError (Bool × Store) :=
  (s.change .markUploaded fun
    | .memory m => .memory (m.markUploaded id url)
    | .database d key => .database (d.markUploaded id url) key).map fun after => (s.has id, after)

def loadDraft (s : Store) : Except StoreError (Option Snapshot) :=
  s.guarded .draftLoad <|
    match s.backend with
    | .memory m => m.loadDraft
    | .database d key => d.loadDraft key

def saveDraft (s : Store) (draft : Snapshot) : Except StoreError Store :=
  s.change .draftSave fun
    | .memory m => .memory { m with draft := some draft.text }
    | .database d key => .database (d.putDraft key draft.text) key

def clearDraft (s : Store) : Except StoreError Store :=
  s.change .draftClear fun
    | .memory m => .memory { m with draft := none }
    | .database d key => .database (d.clearDraft key) key

end Store

/-- What a look at the draft slot found. -/
inductive DraftCheck where
  | empty
  /-- Young enough to be offered. -/
  | offer (draft : Snapshot)
  /-- Too old, and cleared. -/
  | stale
  /-- Unreadable, and cleared. -/
  | corrupt
  deriving DecidableEq

/-- Looks at the draft slot. Old and unreadable drafts are cleared on the way. -/
def Store.checkDraft (s : Store) (now : Timestamp) (window : Int) :
    Except StoreError (DraftCheck × Store) :=
  match s.loadDraft with
  | .ok none => .ok (.empty, s)
  | .ok (some draft) =>
    if draft.isFresh now window then .ok (.offer draft, s)
    else s.clearDraft.map fun after => (.stale, after)
  | .error .undecodable => s.clearDraft.map fun after => (.corrupt, after)
  | .error e => .error e

end SiteReport
