import SiteReport.Proofs.CommandLine.SecondAttempt
import SiteReport.Proofs.Store.Written

/-!
The same call once more, after the report request of the first one failed. The first call has left
its draft, the photos that it staged and the addresses of its uploads in the database. The second
call finds the addresses of the photos that the report names in the stock. Of a photo that the report
gives as a file it knows nothing: the file is staged anew, under another identifier, and uploaded
again.
-/

namespace SiteReport

open CommandLine Submission

namespace Invocation

variable {i : Invocation} {w : World} {path : String} {stores : Option String}
  {settings : Settings} {c : Composer} {faults : StoreCall → Option StoreError}

theorem prepare_eq_ok_iff {c mid : Composer} {notes : List String} :
    prepare w c (some path) stores = (.ok notes, mid) ↔
      compose w c path stores = (.ok (), mid) ∧ notes = [] := by
  simp only [prepare]
  rcases compose w c path stores with ⟨_ | _, after⟩ <;> simp [eq_comm, and_comm]

/-- What a call that sends a described report has done before. -/
theorem composed_of_sending (task : i.task = .submit (some path) stores)
    (sending : i.sending? w = some (settings, c)) :
    ∃ rows mid, i.settings w = .ok settings ∧
      Database.atPath? w.look settings.storage.dbPath = some rows ∧
      compose w (composer w.codec settings rows) path stores = (.ok (), mid) ∧
      mid.flushDraft w.clock = (.ok (), c) := by
  obtain ⟨rows, report, stores', notes, mid, given, opened, same, prepared, flushed⟩ :=
    exists_of_sending sending
  rw [task] at same
  cases same
  exact ⟨rows, mid, given, opened, (prepare_eq_ok_iff.mp prepared).1, flushed⟩

theorem sending_of_composed (task : i.task = .submit (some path) stores) {rows : Database}
    {mid : Composer} (given : i.settings w = .ok settings)
    (opened : Database.atPath? w.look settings.storage.dbPath = some rows)
    (composed : compose w (composer w.codec settings rows faults) path stores = (.ok (), mid))
    (flushed : mid.flushDraft w.clock = (.ok (), c)) :
    i.sending? w faults = some (settings, c) := by
  have prepared := prepare_eq_ok_iff.mpr ⟨composed, rfl⟩
  simp only [sending?, given, opened, task, prepared, flushed]

theorem described_eq {text : String} {d : Description} (task : i.task = .submit (some path) stores)
    (read : (w.look path).text = .ok text) (parsed : Description.parse? text = some d) :
    described w i.task = d.paths (folderOf path) := by
  simp only [described, task, read, parsed]

/-- A description that is composed leaves the photos of the stock that it names as they were. -/
theorem stored_of_composed {text : String} {d : Description} {rows : Database} {mid : Composer}
    (read : (w.look path).text = .ok text) (parsed : Description.parse? text = some d)
    (fresh : (surroundings w path).Fresh d.named (d.paths (folderOf path)).length)
    (composed : compose w (composer w.codec settings rows) path stores = (.ok (), mid))
    (flushed : mid.flushDraft w.clock = (.ok (), c)) {photo : PhotoId} (named : photo ∈ d.named) :
    c.stock.store.stored photo =
      ({ backend := .database rows defaultDraftKey } : Store).stored photo := by
  -- the call beside itself
  let alone : Pairing :=
    { first := surroundings w path, second := surroundings w path, names := d.named
      paths := d.paths (folderOf path)
      stock₁ := { backend := .database rows defaultDraftKey }
      stock₂ := { backend := .database rows defaultDraftKey }
      rename := id, apart := Function.injective_id, named := fun _ _ => rfl
      staged := fun _ _ => rfl, fresh₁ := fresh, fresh₂ := fresh, folder := rfl
      look := fun _ _ => rfl, known := fun _ _ there => there }
  obtain ⟨_, _, _, -, -, alike⟩ := Pairing.Alike.sending (m := alone) rfl rfl rfl rfl read read parsed
    rfl rfl (fun _ _ => rfl) rfl composed flushed
  exact alike.filed₁.kept photo named

/-- A call made a second time: with the codec and the settings that it had, on the files as they
were, and on the database as the first call left it. The user may have signed in anew, and the
server may answer in any way. -/
structure Repeats (i : Invocation) (w₁ w₂ : World) : Prop where
  codec : w₂.codec = w₁.codec
  settings : i.settings w₂ = i.settings w₁
  files : ∀ path ∈ i.task.paths ++ described w₁ i.task, w₂.look path = w₁.look path
  database : ∃ path rows, (i.run w₁).database = some (path, rows) ∧
    Database.atPath? w₂.look path = some rows
  signedIn : ∀ settings, i.settings w₁ = .ok settings → (service w₂ settings).token.isSome = true

/-- The second call comes to an attempt as well, about the same report, and on what the first one
left. -/
theorem Repeats.paired {text : String} {d : Description} {w₁ w₂ : World} {c₁ : Composer}
    (again : i.Repeats w₁ w₂) (task : i.task = .submit (some path) stores)
    (read : (w₁.look path).text = .ok text) (parsed : Description.parse? text = some d)
    (fresh₁ : (surroundings w₁ path).Fresh d.named (d.paths (folderOf path)).length)
    (fresh₂ : (surroundings w₂ path).Fresh d.named (d.paths (folderOf path)).length)
    (sending : i.sending? w₁ = some (settings, c₁)) {e : SubmitError}
    (failed : (send w₁ settings c₁).1.result = .error (.submit e)) :
    ∃ c₂ files, ∃ m : Pairing, i.sending? w₂ = some (settings, c₂) ∧ m.names = d.named ∧
      m.first.fresh = w₁.fresh ∧ m.Alike files ⟨c₁, files.length⟩ ⟨c₂, files.length⟩ ∧
      ∀ id, m.stock₂.stored id = (attemptOf w₁ settings c₁).run.stock.store.stored id := by
  obtain ⟨rows, mid₁, given, opened, composed, flushed⟩ := composed_of_sending task sending
  obtain ⟨place, left, kept, reopened⟩ := again.database
  rw [(run_of_sending sending).2.2, send_failed failed, Option.map_eq_some_iff] at kept
  obtain ⟨left, held, same⟩ := kept
  cases same
  have files := again.files
  rw [described_eq task read parsed, task] at files
  have report : w₂.look path = w₁.look path := files path (by simp [Task.paths])
  have directory : ∀ p, stores = some p → w₂.look p = w₁.look p :=
    fun p known => files p (by simp [Task.paths, known])
  have photos : ∀ p ∈ d.paths (folderOf path), w₂.look p = w₁.look p :=
    fun p listed => files p (List.mem_append_right _ listed)
  have stored := Store.stored_of_database? held defaultDraftKey
  obtain ⟨rename, apart, named, staged⟩ := PhotoId.exists_renaming fresh₁.distinct fresh₂.distinct
    fresh₁.unnamed fresh₂.unnamed
  let m : Pairing :=
    { first := surroundings w₁ path, second := surroundings w₂ path, names := d.named
      paths := d.paths (folderOf path)
      stock₁ := { backend := .database rows defaultDraftKey }
      stock₂ := { backend := .database left defaultDraftKey }
      rename := rename, apart := apart, named := named, staged := staged
      fresh₁ := fresh₁, fresh₂ := fresh₂, folder := rfl, look := photos
      known := by
        rintro id named ⟨p, there⟩
        rw [← stored_of_composed read parsed fresh₁ composed flushed named] at there
        obtain ⟨q, remains⟩ := Attempt.stored_some_after (a := attemptOf w₁ settings c₁) there
        exact ⟨q, (stored id).trans remains⟩ }
  obtain ⟨used, mid₂, c₂, composed₂, flushed₂, alike⟩ := Pairing.Alike.sending (m := m) rfl rfl rfl
    rfl read (report ▸ read) parsed rfl rfl directory again.codec composed flushed
  have settled : i.settings w₂ = .ok settings := again.settings.trans given
  exact ⟨c₂, used, m, sending_of_composed task settled reopened composed₂ flushed₂, rfl, rfl, alike,
    stored⟩

/-- A report request failed, and the call is made once more. Each photo that the first call uploaded
is named in the report by its identifier in the stock, and then it is not uploaded again but goes by
its address on record; or it is given as a file, and then the same upload is made again. -/
theorem repeated_uploads {text : String} {d : Description} {w₁ w₂ : World}
    (task : i.task = .submit (some path) stores) (read : (w₁.look path).text = .ok text)
    (parsed : Description.parse? text = some d) (again : i.Repeats w₁ w₂)
    (fresh₁ : (surroundings w₁ path).Fresh d.named (d.paths (folderOf path)).length)
    (fresh₂ : (surroundings w₂ path).Fresh d.named (d.paths (folderOf path)).length)
    {e : SubmitError} (failed : (i.run w₁).told.result = .error (.submit e))
    {sending : SendRequest} (sent : .send sending ∈ (i.run w₁).told.trace) :
    ∃ a₁ a₂ token, i.attempt? w₁ = some a₁ ∧ i.attempt? w₂ = some a₂ ∧
      (i.run w₁).told.trace = a₁.run.trace ∧ (i.run w₂).told.trace = a₂.run.trace ∧
      a₂.service.token = some token ∧
      requestsOf a₁.run.trace = a₁.answers.filterMap (fun answer =>
        requestFor? sending.token sending.payload.date a₁.stock answer.1) ∧
      requestsOf a₂.run.trace = (a₁.answers.filter fun (job, found) =>
        !(decide (job.photo ∈ d.named) && found.isUploaded)).filterMap (fun answer =>
          requestFor? token sending.payload.date a₁.stock answer.1) ∧
      ∀ job url, (job, .uploaded url) ∈ a₁.answers →
        (job.photo ∈ d.named ∧ (job, .reused url) ∈ a₂.answers ∧
          a₂.addresses.lookup job.photo = some url) ∨
        (job.photo ∉ d.named ∧ (∃ k, job.photo = w₁.fresh k) ∧
          ∃ request ∈ requestsOf a₂.run.trace,
            requestFor? token sending.payload.date a₁.stock job = some request) := by
  obtain ⟨settings, c₁, sending₁⟩ := sending_of_sent task sent
  obtain ⟨trace₁, result₁, -⟩ := run_of_sending sending₁
  rw [result₁] at failed
  rw [trace₁, trace_send] at sent
  obtain ⟨c₂, files, m, sending₂, names, fresh, alike, left⟩ :=
    again.paired task read parsed fresh₁ fresh₂ sending₁ failed
  obtain ⟨trace₂, -, -⟩ := run_of_sending sending₂
  obtain ⟨before₁, delivery₁, -⟩ := Attempt.sent_delivers sent
  obtain ⟨rows, mid, given, -⟩ := composed_of_sending task sending₁
  obtain ⟨token, signedIn⟩ := Option.isSome_iff_exists.mp (again.signedIn settings given)
  -- the report that is sent again is as valid as it was
  have valid : validate c₂.header c₂.body = .ok sending.payload.date := by
    have header : c₂.header = c₁.header := alike.header
    have body : c₂.body = c₁.body.renamed m.rename := alike.body
    rw [header, body, validate_renamed]
    exact delivery₁.valid
  obtain ⟨before₂, delivery₂, -, requests₂, -⟩ :=
    Attempt.delivers (a := attemptOf w₂ settings c₂) valid signedIn
  have uploads := alike.requests left delivery₁ delivery₂
  rw [← requests₂, names] at uploads
  refine ⟨attemptOf w₁ settings c₁, attemptOf w₂ settings c₂, token, ?_, ?_, ?_, ?_, signedIn, ?_,
    uploads, ?_⟩
  · rw [attempt?, sending₁]
    rfl
  · rw [attempt?, sending₂]
    rfl
  · rw [trace₁, trace_send]
  · rw [trace₂, trace_send]
  · rw [Attempt.requests_of_sent sent, List.filterMap_map]
    rfl
  · intro job url member
    by_cases named : job.photo ∈ d.named
    · left
      have reused := alike.reuses left delivery₁ delivery₂ member (names ▸ named)
      exact ⟨named, reused, Attempt.lookup_addresses (a := attemptOf w₂ settings c₂) valid signedIn
        reused rfl⟩
    · right
      refine ⟨named, ?_, ?_⟩
      · obtain ⟨k, -, staged⟩ := (alike.photos _ _ (delivery₁.staged_of_answer member)).resolve_left
          (names ▸ named)
        exact ⟨k, fresh ▸ staged⟩
      · have needed := (delivery₁.progress.explained _ _ member).requestFor?_isSome token
          sending.payload.date
        obtain ⟨request, asked⟩ := Option.isSome_iff_exists.mp needed
        refine ⟨request, ?_, asked⟩
        rw [uploads]
        refine List.mem_filterMap.mpr ⟨(job, .uploaded url), List.mem_filter.mpr ⟨member, ?_⟩, asked⟩
        simp [named]

/-! ### A photo from the stock and one from a file -/

namespace Twice

open Json

/-- One photo is in the stock from the start. -/
def rows : Database :=
  { photos := [⟨Twins.left.text, [1], "left.png", 1714550000000, false, none⟩] }

def header : Json := .record
  [("brand", .ofText "b"), ("store_id", .ofText "s"), ("date", Twins.day.toJson)]

def lists : Json := .record
  [("completed", .array [.record [("staged", .ofText Twins.left.text)], .ofText "a.bmp"])]

def report : Json := .record
  [("header", header), ("sections", .array
    [.record [("kind", .ofText "image_block"), ("layout", .ofText "completed"), ("photos", lists)]])]

def description : Description :=
  { header := { brand := "b", storeId := "s", date := some Twins.day }
    sections := [.photos .completed [(.completed, [.staged Twins.left, .file "a.bmp"])]] }

/-- Settings under which the pixel keeps its JPEG. -/
def settingsText : String := "[composer]\njpeg_quality = 100\n"

def fine : Settings := { edit := { jpegQuality := 100 } }

def look (database : Database) (path : String) : Look :=
  if path = "r.json" then .file report.compact.toUTF8.toList
  else if path = "a.bmp" then .file Pixel.bitmap
  else if path = "fieldreport.toml" then .file settingsText.toUTF8.toList
  else if path = "fieldreport.db" then .file database.toFile
  else .absent

/-- Every photo gets the same address. -/
def world (database : Database) (fresh : PhotoId) (answer : Reply) : World :=
  { environment := [⟨"FIELDREPORT_TOKEN", "t"⟩]
    look := look database
    codec := Pixel.codec
    now := Twins.clock.wall
    fresh := fun _ => fresh
    network :=
      { upload := fun _ _ => .answered 200 "\x7b\"url\":\"u\"\x7d", send := fun _ => answer } }

def call : Invocation :=
  { config := "fieldreport.toml", endpoint := none, task := .submit (some "r.json") none }

def composed (database : Database) (w : World)
    (faults : StoreCall → Option StoreError := fun _ => none) : Composer :=
  (description.apply (surroundings w "r.json") (composer Pixel.codec fine database faults)).2

def saved (database : Database) (w : World)
    (faults : StoreCall → Option StoreError := fun _ => none) : Composer :=
  ((composed database w faults).flushDraft w.clock).2

/-- The server turns the report away, as if the user were not signed in. -/
def first : World := world rows Twins.right (.answered 401 "")

def attempt₁ : Attempt := attemptOf first fine (saved rows first)

/-- The database after the first call. -/
def left : Database := attempt₁.run.stock.store.database?.getD {}

def third : PhotoId := ⟨9, by decide⟩

def accepted : Reply := .answered 200 "\x7b\"id\":\"r\"\x7d"

def second : World := world left third accepted

def attempt₂ : Attempt := attemptOf second fine (saved left second)

def jobOf (photo : PhotoId) : Job := ⟨⟨⟨1⟩, .completed⟩, photo⟩

def upload (name : String) (bytes : Bytes) : UploadRequest :=
  ⟨⟨"t"⟩, name, mimeType, String.ofList (Text.Base64.encode bytes), .after, Twins.day⟩

theorem header_built : Built header := .record (by simp [Built.text, Date.toJson])

theorem lists_built : Built lists := .record (by simp [Built.array, Built.record, Built.text])

theorem report_built : Built report :=
  .record (by simp [header_built, lists_built, Built.array, Built.record, Built.text])

theorem parsed : Description.parse? report.compact = some description := by
  rw [Description.parse?, parse?_compact report_built]
  decide +kernel

theorem settings_parsed :
    Settings.parse [⟨"FIELDREPORT_TOKEN", "t"⟩] settingsText = .ok fine := by
  decide +kernel

theorem paths_eq : description.paths (folderOf "r.json") = ["a.bmp"] := by decide +kernel

section

variable (database : Database) (fresh : PhotoId) (answer : Reply)

theorem read : ((world database fresh answer).look "r.json").text = .ok report.compact :=
  Look.text_toUTF8 _

theorem codec_eq : (world database fresh answer).codec = Pixel.codec := rfl

theorem given : call.settings (world database fresh answer) = .ok fine := by
  have there : (world database fresh answer).look "fieldreport.toml" =
      .file settingsText.toUTF8.toList := rfl
  have held : Settings.loadOrDefault (world database fresh answer).environment
      (world database fresh answer).look call.config = .ok fine := by
    unfold Settings.loadOrDefault Settings.load
    rw [show call.config = "fieldreport.toml" from rfl, there]
    simp only [Look.text_toUTF8]
    exact settings_parsed
  unfold settings
  rw [held]
  rfl

theorem opened (recent : ∀ r ∈ database.photos, r.Recent) :
    Database.atPath? (world database fresh answer).look "fieldreport.db" = some database := by
  have found : (world database fresh answer).look "fieldreport.db" = .file database.toFile := rfl
  rw [Database.atPath?, if_neg (by decide), found]
  exact Database.ofFile?_toFile recent

theorem sending_eq (recent : ∀ r ∈ database.photos, r.Recent)
    (applied : (description.apply (surroundings (world database fresh answer) "r.json")
      (composer Pixel.codec fine database faults)).1 = .ok ())
    (works : (composed database (world database fresh answer) faults).stock.store.faults .draftSave =
      none) :
    call.sending? (world database fresh answer) faults =
      some (fine, saved database (world database fresh answer) faults) := by
  have composes : compose (world database fresh answer) (composer Pixel.codec fine database faults)
      "r.json" none = (.ok (), composed database (world database fresh answer) faults) :=
    compose_eq_label (read database fresh answer) parsed (Prod.ext applied rfl)
  obtain ⟨_, _, -, flushed, -⟩ := Composer.flushDraft_saves works
    (world database fresh answer).clock
  exact sending_of_composed rfl (given database fresh answer) (opened database fresh answer recent)
    composes (Prod.ext (by rw [flushed]) rfl)

theorem fresh_world (other : fresh ≠ Twins.left) :
    (surroundings (world database fresh answer) "r.json").Fresh description.named
      (description.paths (folderOf "r.json")).length where
  distinct := by
    intro j k hj hk _
    rw [paths_eq, List.length_singleton] at hj hk
    omega
  unnamed := by
    intro k _ named
    exact other (List.mem_singleton.mp named)
  regular := by
    show Twins.clock.wall.time.nano < 1000000000
    decide

end

/-! The first call. -/

theorem recent_rows : ∀ r ∈ rows.photos, r.Recent := by
  intro r member
  cases List.mem_singleton.mp member
  exact ⟨1714550000000, rfl, by decide⟩

theorem sending_first : call.sending? first = some (fine, saved rows first) := by
  refine sending_eq rows Twins.right _ recent_rows ?_ ?_
  · rfl
  · rfl

theorem failed_first : attempt₁.run.outcome.result = .error .notAuthenticated := by rfl

theorem first_attempt :
    attempt₁.run.sent? = some ⟨⟨"t"⟩, none, Twins.payload ["u", "u"]⟩ ∧
    attempt₁.answers =
      [(jobOf Twins.left, .uploaded "u"), (jobOf Twins.right, .uploaded "u")] ∧
    attempt₁.run.stock.store.database?.isSome = true ∧
    left.photos.map (·.createdMillis) = [1714550000000, 1714554930000] := by
  decide +kernel

theorem first_needs :
    requestFor? ⟨"t"⟩ Twins.day attempt₁.stock (jobOf Twins.left) =
      some (upload "left.png" [1]) ∧
    requestFor? ⟨"t"⟩ Twins.day attempt₁.stock (jobOf Twins.right) =
      some (upload "a.bmp" Pixel.jpeg) :=
  ⟨rfl, rfl⟩

theorem first_requests :
    requestsOf attempt₁.run.trace = [upload "left.png" [1], upload "a.bmp" Pixel.jpeg] := by
  obtain ⟨sent, answers, -⟩ := first_attempt
  obtain ⟨stock, file⟩ := first_needs
  rw [Attempt.requests_of_sent (Attempt.mem_trace_send_iff.mpr sent), answers]
  show [jobOf Twins.left, jobOf Twins.right].filterMap
    (requestFor? ⟨"t"⟩ Twins.day attempt₁.stock) = _
  rw [List.filterMap_cons_some stock, List.filterMap_cons_some file, List.filterMap_nil]

theorem result_first : (call.run first).told.result = .error (.submit .notAuthenticated) := by
  rw [(run_of_sending sending_first).2.1]
  rcases send_cases first fine (saved rows first) with ⟨e, failed, told, -⟩ | ⟨report, sent, -⟩
  · rw [← attempt₁, failed_first] at failed
    cases failed
    exact told
  · rw [← attempt₁, failed_first] at sent
    cases sent

theorem trace_first : (call.run first).told.trace = attempt₁.run.trace := by
  rw [(run_of_sending sending_first).1, trace_send]
  rfl

theorem attempt_first : call.attempt? first = some attempt₁ := by
  rw [attempt?, sending_first]
  rfl

/-! What it leaves, and the second call. -/

theorem database_first : (call.run first).database = some ("fieldreport.db", left) := by
  obtain ⟨d, held⟩ := Option.isSome_iff_exists.mp first_attempt.2.2.1
  have same : left = d := by
    rw [left, held]
    rfl
  obtain ⟨-, result, kept⟩ := run_of_sending sending_first
  have after := send_failed (result.symm.trans result_first)
  rw [← attempt₁] at after
  rw [kept, after, same]
  dsimp only
  rw [held]
  rfl

theorem recent_left : ∀ r ∈ left.photos, r.Recent := by
  intro r member
  have millis := List.mem_map_of_mem (f := (·.createdMillis)) member
  rw [first_attempt.2.2.2] at millis
  rcases List.mem_cons.mp millis with same | other
  · exact ⟨_, same, by decide⟩
  · exact ⟨_, List.mem_singleton.mp other, by decide⟩

/-- What the second call keeps of the file, with its time in milliseconds. -/
def restaged : StagedPhoto :=
  { id := third, bytes := Pixel.jpeg, name := "a.bmp", uploaded := false, remoteUrl := none
    createdAt := (Timestamp.ofMillis? Twins.clock.wall.millis).getD Twins.clock.wall }

theorem second_attempt :
    (description.apply (surroundings second "r.json") (composer Pixel.codec fine left)).1 = .ok () ∧
    (composed left second).stock.store.faults .draftSave = none ∧
    attempt₂.run.sent? = some ⟨⟨"t"⟩, none, Twins.payload ["u", "u"]⟩ ∧
    attempt₂.answers = [(jobOf Twins.left, .reused "u"), (jobOf third, .uploaded "u")] ∧
    requestFor? ⟨"t"⟩ Twins.day attempt₂.stock (jobOf Twins.left) = none ∧
    attempt₂.stock.get third = .ok (some restaged) := by
  decide +kernel

theorem second_requests : requestsOf attempt₂.run.trace = [upload "a.bmp" Pixel.jpeg] := by
  obtain ⟨-, -, sent, answers, stock, found⟩ := second_attempt
  have file : requestFor? ⟨"t"⟩ Twins.day attempt₂.stock (jobOf third) =
      some (upload "a.bmp" Pixel.jpeg) := by
    unfold requestFor?
    rw [show (jobOf third).photo = third from rfl, found]
    rfl
  rw [Attempt.requests_of_sent (Attempt.mem_trace_send_iff.mpr sent), answers]
  show [jobOf Twins.left, jobOf third].filterMap
    (requestFor? ⟨"t"⟩ Twins.day attempt₂.stock) = _
  rw [List.filterMap_cons_none stock, List.filterMap_cons_some file, List.filterMap_nil]

theorem sending_second : call.sending? second = some (fine, saved left second) := by
  obtain ⟨applied, works, -⟩ := second_attempt
  rw [second] at applied works ⊢
  exact sending_eq left third accepted recent_left applied works

/-- Only the file of the database differs. -/
theorem look_eq {path : String} (other : path ≠ "fieldreport.db") (database before : Database) :
    look database path = look before path := by
  simp only [look, other, if_false]

theorem repeats : call.Repeats first second where
  codec := (codec_eq left third accepted).trans (codec_eq rows _ _).symm
  settings := (given left third accepted).trans (given rows _ _).symm
  files := by
    intro path listed
    have text : (first.look "r.json").text = .ok report.compact := read rows _ _
    rw [described_eq (i := call) rfl text parsed, paths_eq] at listed
    have known : path ∈ ["r.json", "a.bmp"] := listed
    refine look_eq ?_ left rows
    rintro rfl
    revert known
    decide
  database := ⟨"fieldreport.db", left, database_first, opened left third accepted recent_left⟩
  signedIn := by
    intro settings held
    cases (given rows _ _).symm.trans held
    rfl

/-- The first call uploads both photos before the report request fails, and the second one, on the
database that the first one left, makes the same upload of the photo from the file again. -/
theorem file_uploaded_twice :
    call.Repeats first second ∧
    (call.run first).told.result = .error (.submit .notAuthenticated) ∧
    call.attempt? first = some attempt₁ ∧
    attempt₁.answers =
      [(jobOf Twins.left, .uploaded "u"), (jobOf Twins.right, .uploaded "u")] ∧
    requestsOf (call.run first).told.trace = [upload "left.png" [1], upload "a.bmp" Pixel.jpeg] ∧
    requestsOf (call.run second).told.trace = [upload "a.bmp" Pixel.jpeg] := by
  obtain ⟨-, answers, -⟩ := first_attempt
  refine ⟨repeats, result_first, attempt_first, answers, ?_, ?_⟩
  · rw [trace_first, first_requests]
  · rw [(run_of_sending sending_second).1, trace_send]
    exact second_requests

/-- The photo from the stock goes by its address, and the one from the file is uploaded again. -/
theorem named_photo_spared :
    Description.parse? report.compact = some description ∧ call.Repeats first second ∧
    (call.run first).told.result = .error (.submit .notAuthenticated) ∧
    .send ⟨⟨"t"⟩, none, Twins.payload ["u", "u"]⟩ ∈ (call.run first).told.trace ∧
    ∃ a token, call.attempt? second = some a ∧ (call.run second).told.trace = a.run.trace ∧
      (jobOf Twins.left, .reused "u") ∈ a.answers ∧ a.addresses.lookup Twins.left = some "u" ∧
      ∃ request ∈ requestsOf a.run.trace,
        requestFor? token Twins.day attempt₁.stock (jobOf Twins.right) = some request := by
  obtain ⟨sent, answers, -⟩ := first_attempt
  have sends : .send ⟨⟨"t"⟩, none, Twins.payload ["u", "u"]⟩ ∈ (call.run first).told.trace := by
    rw [trace_first]
    exact Attempt.mem_trace_send_iff.mpr sent
  refine ⟨parsed, repeats, result_first, sends, ?_⟩
  obtain ⟨a₁, a₂, token, attempt₁', attempt₂', -, trace₂, -, -, -, each⟩ :=
    repeated_uploads (i := call) rfl (read rows _ _) parsed repeats
      (fresh_world rows _ _ (by decide)) (fresh_world left _ _ (by decide)) result_first sends
  cases attempt_first.symm.trans attempt₁'
  have stock := each (jobOf Twins.left) "u" (by simp [answers])
  have file := each (jobOf Twins.right) "u" (by simp [answers])
  obtain ⟨-, reused, address⟩ := stock.resolve_right fun other => other.1 List.mem_cons_self
  obtain ⟨-, -, again⟩ := file.resolve_left fun other =>
    absurd (List.mem_singleton.mp other.1) (by decide)
  exact ⟨a₂, token, attempt₂', trace₂, reused, address, again⟩

end Twice

end Invocation

end SiteReport
