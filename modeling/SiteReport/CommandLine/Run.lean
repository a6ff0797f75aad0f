import SiteReport.CommandLine.Local
import SiteReport.CommandLine.Submit
import SiteReport.Store.Written

/-!
A call of the program: what it prints, what it asks of the server, how it ends, and the database as
it leaves it. Files, clock, environment and server are given as a world, so that a call is a
function of it.
-/

namespace SiteReport

def CommandLine.run (w : World) (settings : Settings) (c : Composer) : Task → Told × Composer
  | .stage paths => runStage w c paths
  | .stock task => runStock c task
  | .draft task => runDraft w c task
  | .submit report stores => runSubmit w settings c report stores

/-- A call with its end. -/
structure Outcome where
  told : Told
  /-- The database that was opened, by its path, as it is afterwards. -/
  database : Option (String × Database) := none
  /-- Where the server is, if the call came to know. -/
  endpoint : String := ""

namespace Outcome

def exitCode (o : Outcome) : UInt8 :=
  match o.told.result with
  | .ok _ => 0
  | .error e => e.exitCode

end Outcome

/-- The rows of a store in a database. -/
def Store.database? (s : Store) : Option Database :=
  match s.backend with
  | .database rows _ => some rows
  | .memory _ => none

namespace Invocation

def settings (w : World) (i : Invocation) : Except SettingsError Settings :=
  (Settings.loadOrDefault w.environment w.look i.config).map fun s =>
    { s with api := { s.api with endpoint := i.endpoint.getD s.api.endpoint } }

/-- The paths of the photos that a described report stages. -/
def described (w : World) : Task → List String
  | .submit (some path) _ =>
    match (w.look path).text with
    | .error _ => []
    | .ok text =>
      match Description.parse? text with
      | none => []
      | some d => d.paths (CommandLine.folderOf path)
  | _ => []

/-- The paths that the call looks at, as far as the files seen so far tell. -/
def needs (w : World) (i : Invocation) : List String :=
  match i.settings w with
  | .error _ => [i.config]
  | .ok settings =>
    let path := settings.storage.dbPath
    [i.config, path, Path.around path] ++ i.task.paths ++ described w i.task

/-- A composer of an empty document over a database. -/
def composer (codec : Codec) (settings : Settings) (rows : Database)
    (faults : StoreCall → Option StoreError := fun _ => none) : Composer :=
  let store : Store := { backend := .database rows defaultDraftKey, faults }
  .new (.ofSettings codec store settings.edit) settings.edit

/-- A call, with the requests that the database refuses after it was opened. -/
def run (w : World) (i : Invocation) (faults : StoreCall → Option StoreError := fun _ => none) :
    Outcome :=
  match i.settings w with
  | .error e => { told := .failed (.settings e) }
  | .ok settings =>
    let path := settings.storage.dbPath
    let endpoint := settings.api.endpoint
    match Database.atPath? w.look path with
    | none => { told := .failed (.opening path), endpoint }
    | some rows =>
      let (told, c) := CommandLine.run w settings (composer w.codec settings rows faults) i.task
      { told, endpoint, database := c.stock.store.database?.map (path, ·) }

end Invocation

end SiteReport
