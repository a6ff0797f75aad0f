import SiteReport.Proofs.Json.Record
import SiteReport.Store.Written

/-!
The file of a database reads back as the database: the bytes of photos from their Base64, the rows
from their JSON, and the text from its UTF-8. The times of the photos have to lie after 1970 and fit
64 bits.
-/

namespace SiteReport

/-! ### Base64 -/

namespace Text.Base64

theorem value?_symbol : ∀ n < 64, value? (symbol n) = some n := by decide

/-- Padding is no symbol. -/
theorem symbol_ne : ∀ n < 64, symbol n ≠ '=' := by decide

theorem decode?_symbols {a b c d : Nat} (ha : a < 64) (hb : b < 64) (hc : c < 64) (hd : d < 64)
    (rest : List Char) :
    decode? (symbol a :: symbol b :: symbol c :: symbol d :: rest) =
      let n := ((a * 64 + b) * 64 + c) * 64 + d
      (decode? rest).map
        ([UInt8.ofNat (n / 65536), UInt8.ofNat (n / 256 % 256), UInt8.ofNat (n % 256)] ++ ·) := by
  rw [decode?]
  · simp only [value?_symbol a ha, value?_symbol b hb, value?_symbol c hc, value?_symbol d hd]
    cases decode? rest <;> rfl
  · intro padded _ _
    exact symbol_ne c hc padded
  · intro padded _
    exact symbol_ne d hd padded

theorem decode?_encode (bytes : List UInt8) : decode? (encode bytes) = some bytes := by
  induction bytes using encode.induct with
  | case1 => rfl
  | case2 a =>
      have whole : a.toNat * 16 / 64 * 64 + a.toNat * 16 % 64 = a.toNat * 16 := by omega
      have first : a.toNat * 16 / 16 = a.toNat := by omega
      have := a.toNat_lt
      rw [encode, decode?]
      simp only [value?_symbol (a.toNat * 16 / 64) (by omega),
        value?_symbol (a.toNat * 16 % 64) (by omega), Option.bind_eq_bind, Option.bind_some, whole,
        first, UInt8.ofNat_toNat]
  | case3 a b =>
      have := a.toNat_lt
      have := b.toNat_lt
      rw [encode]
      generalize split : (a.toNat * 256 + b.toNat) * 4 = n
      have whole : (n / 4096 * 64 + n / 64 % 64) * 64 + n % 64 = n := by omega
      have first : n / 1024 = a.toNat := by omega
      have second : n / 4 % 256 = b.toNat := by omega
      rw [decode?]
      · simp only [value?_symbol (n / 4096) (by omega), value?_symbol (n / 64 % 64) (by omega),
          value?_symbol (n % 64) (by omega), Option.bind_eq_bind, Option.bind_some, whole, first,
          second, UInt8.ofNat_toNat]
      · exact symbol_ne (n % 64) (by omega)
  | case4 a b c rest ih =>
      have := a.toNat_lt
      have := b.toNat_lt
      have := c.toNat_lt
      rw [encode]
      generalize split : (a.toNat * 256 + b.toNat) * 256 + c.toNat = n
      have whole : ((n / 262144 * 64 + n / 4096 % 64) * 64 + n / 64 % 64) * 64 + n % 64 = n := by
        omega
      have first : n / 65536 = a.toNat := by omega
      have second : n / 256 % 256 = b.toNat := by omega
      have third : n % 256 = c.toNat := by omega
      rw [decode?_symbols (by omega) (by omega) (by omega) (by omega), ih]
      simp only [whole, first, second, third, UInt8.ofNat_toNat]
      rfl

theorem escapeChar_symbol : ∀ n < 64, Json.Quoted.escapeChar (symbol n) = [symbol n] := by decide

/-- Nothing in Base64 has to be escaped in a text. -/
theorem escape_encode (bytes : List UInt8) : Json.Quoted.escape (encode bytes) = encode bytes := by
  have pad : Json.Quoted.escapeChar '=' = ['='] := rfl
  induction bytes using encode.induct with
  | case1 => rfl
  | case2 a =>
      have := a.toNat_lt
      simp [encode, Json.Quoted.escape, pad, escapeChar_symbol (a.toNat * 16 / 64) (by omega),
        escapeChar_symbol (a.toNat * 16 % 64) (by omega)]
  | case3 a b =>
      have := a.toNat_lt
      have := b.toNat_lt
      rw [encode]
      generalize split : (a.toNat * 256 + b.toNat) * 4 = n
      simp [Json.Quoted.escape, pad, escapeChar_symbol (n / 4096) (by omega),
        escapeChar_symbol (n / 64 % 64) (by omega), escapeChar_symbol (n % 64) (by omega)]
  | case4 a b c rest ih =>
      have := a.toNat_lt
      have := b.toNat_lt
      have := c.toNat_lt
      rw [encode]
      generalize split : (a.toNat * 256 + b.toNat) * 256 + c.toNat = n
      simp [Json.Quoted.escape, ih, escapeChar_symbol (n / 262144) (by omega),
        escapeChar_symbol (n / 4096 % 64) (by omega), escapeChar_symbol (n / 64 % 64) (by omega),
        escapeChar_symbol (n % 64) (by omega)]

theorem string_encode (bytes : List UInt8) :
    Json.string (encode bytes) = .ofText (String.ofList (encode bytes)) := by
  rw [Json.ofText, String.toList_ofList, escape_encode]

end Text.Base64

/-! ### Rows -/

open Json

theorem Json.toInt?_ofNat {low high : Int} {n : Nat} (above : low ≤ n) (below : (n : Int) ≤ high) :
    (ofNat n).toInt? low high = some (n : Int) := by
  have digits := Text.toDigits_digits n
  have whole : Numeral.int? (Nat.toDigits 10 n) = some (n : Int) := by
    unfold Numeral.int?
    split
    · rename_i cs same
      rw [same] at digits
      exact absurd (digits _ List.mem_cons_self) (by decide)
    · rw [nat?_toDigits]
      rfl
  rw [ofNat, toInt?, whole, Option.bind_some, if_pos ⟨above, below⟩]

namespace PhotoRow

/-- Staged since 1970, at a time that fits 64 bits. -/
def Recent (r : PhotoRow) : Prop := ∃ millis : Nat, r.createdMillis = millis ∧
  millis ≤ 9223372036854775807

variable {r : PhotoRow}

theorem ofJson?_toJson (recent : r.Recent) : ofJson? r.toJson = some r := by
  obtain ⟨id, bytes, name, created, uploaded, remoteUrl⟩ := r
  obtain ⟨millis, rfl, fits⟩ := recent
  have created : (ofInt millis).toInt? (-9223372036854775808) 9223372036854775807 = some ↑millis :=
    toInt?_ofNat (by omega) (by omega)
  have url : (Json.ofOption ofText remoteUrl).toOption? toText? = some remoteUrl :=
    toOption?_ofOption (fun url _ => toText?_ofText url) nofun
  have fields : (toJson ⟨id, bytes, name, millis, uploaded, remoteUrl⟩).record?
      ["id", "bytes", "name", "created", "uploaded", "url"] =
      some [some (ofText id), some (.string (Text.Base64.encode bytes)), some (ofText name),
        some (ofInt millis), some (.bool uploaded), some (.ofOption ofText remoteUrl)] :=
    record?_record (by simp) (by simp)
  simp only [ofJson?, fields, Text.Base64.string_encode, toText?_ofText, String.toList_ofList,
    Text.Base64.decode?_encode, created, toBool?, url, Option.bind_eq_bind, Option.bind_some]

theorem within (recent : r.Recent) : Within 1 r.toJson := by
  obtain ⟨millis, created, fits⟩ := recent
  have number : Within 0 (ofInt millis) := .nat (Nat.lt_of_le_of_lt fits (by decide))
  apply Within.record
  simp [created, number, Text.Base64.string_encode, Within.text, Within.bool, Within.ofOption]

end PhotoRow

namespace DraftRow

theorem ofJson?_toJson (r : DraftRow) : ofJson? r.toJson = some r := by
  have fields : r.toJson.record? ["key", "text"] = some [some (ofText r.key), some (ofText r.text)] :=
    record?_record (by simp) (by simp)
  simp only [ofJson?, fields, toText?_ofText, Option.bind_eq_bind, Option.bind_some]

theorem within (r : DraftRow) : Within 1 r.toJson := by
  apply Within.record
  simp [Within.text]

end DraftRow

/-! ### Files -/

namespace Text

theorem toList_loop (bytes : ByteArray) (i : Nat) (done : List UInt8) :
    ByteArray.toList.loop bytes i done = done.reverse ++ bytes.data.toList.drop i := by
  induction i, done using ByteArray.toList.loop.induct bytes with
  | case1 i done inside ih =>
      have next : bytes.data.toList.drop i = bytes.get! i :: bytes.data.toList.drop (i + 1) := by
        rw [List.drop_eq_getElem_cons inside]
        congr 1
        exact (getElem!_pos bytes.data i inside).symm
      rw [ByteArray.toList.loop, if_pos inside, ih, next]
      simp
  | case2 i done beyond =>
      have nothing : bytes.data.toList.drop i = [] := List.drop_eq_nil_of_le (Nat.le_of_not_lt beyond)
      rw [ByteArray.toList.loop, if_neg beyond, nothing, List.append_nil]

theorem fromUTF8?_toUTF8 (s : String) : String.fromUTF8? ⟨s.toUTF8.toList.toArray⟩ = some s := by
  have bytes : (⟨s.toUTF8.toList.toArray⟩ : ByteArray) = s.toUTF8 := by
    rw [ByteArray.toList, toList_loop]
    rfl
  rw [bytes]
  exact dif_pos s.isValidUTF8

end Text

theorem Look.text_toUTF8 (s : String) : (Look.file s.toUTF8.toList).text = .ok s := by
  simp only [text, Look.bytes, Text.fromUTF8?_toUTF8]

namespace Database

variable {d : Database}

theorem ofJson?_toJson (recent : ∀ r ∈ d.photos, r.Recent) : ofJson? d.toJson = some d := by
  have photos : (Json.ofList PhotoRow.toJson d.photos).toList? PhotoRow.ofJson? = some d.photos :=
    toList?_ofList fun r member => PhotoRow.ofJson?_toJson (recent r member)
  have drafts : (Json.ofList DraftRow.toJson d.drafts).toList? DraftRow.ofJson? = some d.drafts :=
    toList?_ofList fun r _ => r.ofJson?_toJson
  have fields : d.toJson.record? ["photos", "drafts"] = some [
      some (.ofList PhotoRow.toJson d.photos), some (.ofList DraftRow.toJson d.drafts)] :=
    record?_record (by simp) (by simp)
  simp only [ofJson?, fields, photos, drafts, Option.bind_eq_bind, Option.bind_some]

theorem within (recent : ∀ r ∈ d.photos, r.Recent) : Within 3 d.toJson := by
  have photos : Within 2 (Json.ofList PhotoRow.toJson d.photos) :=
    .ofList fun r member => PhotoRow.within (recent r member)
  have drafts : Within 2 (Json.ofList DraftRow.toJson d.drafts) := .ofList fun r _ => r.within
  apply Within.record
  simp [photos, drafts]

/-- What a call of the program leaves in a file, the next one finds there. -/
theorem ofFile?_toFile (recent : ∀ r ∈ d.photos, r.Recent) : ofFile? d.toFile = some d := by
  have read := parse?_compact (within recent).built
  rw [toFile, ofFile?, if_pos rfl, Text.fromUTF8?_toUTF8, Option.bind_some, read, Option.bind_some,
    ofJson?_toJson recent]

end Database

end SiteReport
