import SiteReport.Json.Record
import SiteReport.Proofs.Json.Parser

/-!
Reading undoes building: for texts, whole numbers, lists, optional values, and records whose fields
have different names.
-/

namespace SiteReport.Json

variable {α β : Type}

theorem toText?_ofText (s : String) : (ofText s).toText? = some s := by
  rw [ofText, toText?, Quoted.text?_escape, Option.map_some, String.ofList_toList]

theorem nat?_toDigits (n : Nat) : Numeral.nat? (Nat.toDigits 10 n) = some n := by
  have digits : (Nat.toDigits 10 n).all Char.isDigit = true :=
    List.all_eq_true.mpr (Text.toDigits_digits n)
  rw [Numeral.nat?, if_pos ⟨Nat.toDigits_ne_nil, digits⟩,
    Nat.ofDigitChars_toDigits (by decide) (by decide)]

theorem toNat?_ofNat {n limit : Nat} (fits : n ≤ limit) : (ofNat n).toNat? limit = some n := by
  rw [ofNat, toNat?, nat?_toDigits, Option.bind_some, if_pos fits]

theorem mapM_some {f : α → Option β} {g : α → β} {xs : List α}
    (each : ∀ x ∈ xs, f x = some (g x)) : xs.mapM f = some (xs.map g) := by
  induction xs with
  | nil => rfl
  | cons x rest ih =>
      obtain ⟨first, others⟩ := List.forall_mem_cons.mp each
      rw [List.mapM_cons, first, ih others]
      rfl

theorem toList?_ofList {item : Json → Option α} {f : α → Json} {xs : List α}
    (each : ∀ x ∈ xs, item (f x) = some x) : (ofList f xs).toList? item = some xs := by
  rw [ofList, toList?, List.mapM_map]
  exact (mapM_some each).trans (congrArg some (List.map_id xs))

theorem toOption?_ofOption {item : Json → Option α} {f : α → Json} {a? : Option α}
    (read : ∀ a ∈ a?, item (f a) = some a) (present : ∀ a, f a ≠ .null) :
    (ofOption f a?).toOption? item = some a? := by
  cases a? with
  | none => rfl
  | some a =>
      rw [ofOption, toOption?]
      · rw [read a rfl, Option.map_some]
      · exact present a

/-- An optional field, left out or there. -/
theorem orElse?_map {item : Json → Option α} {f : α → Json} (read : ∀ a, item (f a) = some a)
    (present : ∀ a, f a ≠ .null) (a? : Option α) :
    orElse? none (toOption? item) (a?.map f) = some a? := by
  cases a? with
  | none => rfl
  | some a =>
      have there : (ofOption f (some a)).toOption? item = some (some a) :=
        toOption?_ofOption (fun a _ => read a) present
      exact there

/-- An item of a list that was read was read from a value. -/
theorem exists_of_mem_toList? {item : Json → Option α} {v : Json} {xs : List α}
    (read : v.toList? item = some xs) {x : α} (member : x ∈ xs) : ∃ v, item v = some x := by
  unfold toList? at read
  split at read
  · rename_i items
    induction items generalizing xs with
    | nil =>
        cases read
        cases member
    | cons v rest ih =>
        rw [List.mapM_cons] at read
        obtain ⟨first, told, read⟩ := Option.bind_eq_some_iff.mp read
        obtain ⟨others, rest, same⟩ := Option.bind_eq_some_iff.mp read
        cases same
        rcases List.mem_cons.mp member with rfl | later
        · exact ⟨v, told⟩
        · exact ih later rest
  · cases read

/-- A field that may be missing is the default, or was read from a value. -/
theorem eq_or_exists_of_orElse? {default a : α} {item : Json → Option α}
    {v? : Option Json} (read : orElse? default item v? = some a) :
    a = default ∨ ∃ v, item v = some a := by
  cases v? with
  | none => exact .inl (Option.some.inj read).symm
  | some v => exact .inr ⟨v, read⟩

/-- The same of a field that may be null as well. -/
theorem exists_of_orElse?_toOption? {item : Json → Option α} {v? : Option Json} {a : α}
    (read : orElse? none (toOption? item) v? = some (some a)) : ∃ v, item v = some a := by
  obtain absent | ⟨v, told⟩ := eq_or_exists_of_orElse? read
  · cases absent
  · by_cases null : v = .null
    · subst null
      cases told
    · rw [toOption?] at told
      · obtain ⟨b, there, same⟩ := Option.map_eq_some_iff.mp told
        cases same
        exact ⟨v, there⟩
      · exact null

/-! ### Records -/

variable {fields : List (String × Json)} {names : List String}

theorem members?_record (fields : List (String × Json)) :
    (record fields).members? = some fields := by
  rw [record, members?, List.mapM_map]
  refine (mapM_some ?_).trans (congrArg some (List.map_id fields))
  rintro ⟨key, v⟩ -
  show ((Quoted.text? (Quoted.escape key.toList)).map _) = _
  rw [Quoted.text?_escape, Option.map_some, String.ofList_toList]
  rfl

/-- With different names the members of one name are what is found under it. -/
theorem filter_key (distinct : (fields.map (·.1)).Nodup) (name : String) :
    fields.filter (·.1 == name) = ((fields.lookup name).map (name, ·)).toList := by
  induction fields with
  | nil => rfl
  | cons field rest ih =>
      obtain ⟨key, v⟩ := field
      rw [List.map_cons, List.nodup_cons] at distinct
      obtain ⟨fresh, distinct⟩ := distinct
      rw [List.filter_cons, List.lookup_cons]
      by_cases same : key = name
      · subst same
        have absent : rest.filter (·.1 == key) = [] := by
          rw [List.filter_eq_nil_iff]
          intro m member equal
          exact fresh (List.mem_map.mpr ⟨m, member, eq_of_beq equal⟩)
        simp [absent]
      · have apart : (name == key) = false := by simpa using Ne.symm same
        simp [same, apart, ih distinct]

/-- Each name is answered with the value of the field, if there is one. -/
theorem pick?_fields (distinct : (fields.map (·.1)).Nodup) (known : fields.map (·.1) ⊆ names) :
    pick? names fields = some (names.map (fields.lookup ·)) := by
  have all : fields.all (fun m => names.contains m.1 || m.2.isIgnorable) = true := by
    rw [List.all_eq_true]
    intro field member
    have listed := known (List.mem_map.mpr ⟨field, member, rfl⟩)
    simp [listed]
  rw [pick?, if_pos all]
  apply mapM_some
  intro name _
  rw [filter_key distinct]
  cases fields.lookup name <;> rfl

theorem record?_record (distinct : (fields.map (·.1)).Nodup) (known : fields.map (·.1) ⊆ names) :
    (record fields).record? names = some (names.map (fields.lookup ·)) := by
  rw [record?]
  · rw [members?_record, Option.bind_some, pick?_fields distinct known]
  · exact nofun

theorem object?_record (distinct : (fields.map (·.1)).Nodup) (known : fields.map (·.1) ⊆ names) :
    (record fields).object? names = some (names.map (fields.lookup ·)) := by
  rw [object?, members?_record, Option.bind_some, pick?_fields distinct known]

/-! ### Choices -/

theorem key_beq (name key : String) :
    (Quoted.text? (Quoted.escape name.toList) == some key.toList) = (name == key) := by
  rw [Quoted.text?_escape]
  by_cases same : name = key
  · simp [same]
  · simp [same, String.toList_inj]

theorem tag?_ofText {place : Place} {ofName? : String → Option α} {all : List α} (s : String) :
    (ofText s).tag? place ofName? all = ofName? s := by
  rw [ofText, tag?, Quoted.text?_escape, Option.map_some, Option.bind_some, String.ofList_toList]

theorem choice?_ofText {place : Place} {ofName? : String → Option α} (s : String) :
    (ofText s).choice? place ofName? = ofName? s := by
  rw [ofText, choice?, Quoted.text?_escape, Option.map_some, Option.bind_some,
    String.ofList_toList]

/-- The tag is found under its key, and the other fields are left. -/
theorem tagged?_record {place : Place} {key : String} {tag : Json}
    (whole : place.admits (record ((key, tag) :: fields)) = true)
    (fresh : key ∉ fields.map (·.1)) :
    (record ((key, tag) :: fields)).tagged? place key = some (tag, record fields) := by
  let isTag : List Char × Json → Bool := fun m => Quoted.text? m.1 == some key.toList
  let first := (Quoted.escape key.toList, tag)
  have marked : isTag first = true := (key_beq key key).trans (beq_self_eq_true key)
  obtain ⟨written, rest⟩ : ∃ written, record fields = .object written := ⟨_, rfl⟩
  have others : ∀ m ∈ written, isTag m = false := by
    cases rest
    intro m member
    obtain ⟨field, listed, rfl⟩ := List.mem_map.mp member
    have apart : field.1 ≠ key := by
      rintro rfl
      exact fresh (List.mem_map.mpr ⟨field, listed, rfl⟩)
    exact (key_beq field.1 key).trans (by simpa using apart)
  have split : record ((key, tag) :: fields) = .object (first :: written) := by
    cases rest
    rfl
  have found : (first :: written).filter isTag = [first] := by
    rw [List.filter_cons_of_pos marked]
    exact congrArg _ (List.filter_eq_nil_iff.mpr fun m hm => by simp [others m hm])
  have left : (first :: written).filter (fun m => !isTag m) = written := by
    rw [List.filter_cons_of_neg (by simp [marked])]
    exact List.filter_eq_self.mpr fun m hm => by simp [others m hm]
  unfold tagged?
  rw [if_pos whole, split, rest]
  dsimp only
  rw [found, left]

/-! ### Shallow values -/

/-- Nested no deeper than so many arrays and records, with numbers of 64 bits at most. Such a value
is read back from its text, and as a whole too if the place leaves room for its depth. -/
inductive Within : Nat → Json → Prop where
  | null {d : Nat} : Within d .null
  | bool {d : Nat} (b : Bool) : Within d (.bool b)
  | nat {d n : Nat} (fits : n < UInt64.size) : Within d (.ofNat n)
  | text {d : Nat} (s : String) : Within d (.ofText s)
  | array {d : Nat} {items : List Json} (each : ∀ v ∈ items, Within d v) :
      Within (d + 1) (.array items)
  | record {d : Nat} {fields : List (String × Json)} (each : ∀ field ∈ fields, Within d field.2) :
      Within (d + 1) (.record fields)

namespace Within

variable {d e : Nat} {v : Json}

theorem mono (h : Within d v) (more : d ≤ e) : Within e v := by
  induction h generalizing e with
  | null => exact .null
  | bool b => exact .bool b
  | nat fits => exact .nat fits
  | text s => exact .text s
  | array each ih =>
      obtain ⟨e, rfl⟩ : ∃ k, e = k + 1 := ⟨e - 1, by omega⟩
      exact .array fun v member => ih v member (by omega)
  | record each ih =>
      obtain ⟨e, rfl⟩ : ∃ k, e = k + 1 := ⟨e - 1, by omega⟩
      exact .record fun field member => ih field member (by omega)

theorem ofOption {f : α → Json} (each : ∀ a, Within d (f a)) (a? : Option α) :
    Within d (ofOption f a?) := by
  cases a? with
  | none => exact .null
  | some a => exact each a

theorem ofList {f : α → Json} {xs : List α} (each : ∀ x ∈ xs, Within d (f x)) :
    Within (d + 1) (ofList f xs) := by
  apply Within.array
  intro v member
  obtain ⟨x, inside, rfl⟩ := List.mem_map.mp member
  exact each x inside

theorem built (h : Within d v) : Built v := by
  induction h with
  | null => exact .null
  | bool b => exact .bool b
  | nat fits => exact .nat _
  | text s => exact .text s
  | array each ih => exact .array ih
  | record each ih => exact .record ih

theorem depthItems_le {items : List Json} (each : ∀ v ∈ items, v.depth ≤ d) :
    depthItems items ≤ d := by
  induction items with
  | nil => exact Nat.zero_le d
  | cons v rest ih =>
      obtain ⟨first, others⟩ := List.forall_mem_cons.mp each
      exact Nat.max_le.mpr ⟨first, ih others⟩

theorem depthMembers_le {members : List (List Char × Json)} (each : ∀ m ∈ members, m.2.depth ≤ d) :
    depthMembers members ≤ d := by
  induction members with
  | nil => exact Nat.zero_le d
  | cons m rest ih =>
      obtain ⟨first, others⟩ := List.forall_mem_cons.mp each
      exact Nat.max_le.mpr ⟨first, ih others⟩

theorem depth_le (h : Within d v) : v.depth ≤ d := by
  induction h with
  | array each ih => exact Nat.succ_le_succ (depthItems_le ih)
  | record each ih =>
      refine Nat.succ_le_succ (depthMembers_le fun m member => ?_)
      obtain ⟨field, inside, rfl⟩ := List.mem_map.mp member
      exact ih field inside
  | _ => exact Nat.zero_le _

theorem isFinite_toDigits {n : Nat} (fits : n < UInt64.size) :
    Numeral.isFinite (Nat.toDigits 10 n) = true := by
  obtain ⟨c, rest, written, digit⟩ := Text.toDigits_cons n
  have value : Numeral.int? (Nat.toDigits 10 n) = some (Int.ofNat n) := by
    have read := nat?_toDigits n
    rw [written] at read ⊢
    unfold Numeral.int?
    split
    · rename_i starts
      -- A minus is no digit.
      cases starts
      cases digit
    · rw [read, Option.map_some]
  have low : Int64.minValue.toInt ≤ Int.ofNat n :=
    Int.le_trans (by decide) (Int.natCast_nonneg n)
  have word : Numeral.isWord (Nat.toDigits 10 n) = true := by
    rw [Numeral.isWord, value]
    exact decide_eq_true ⟨low, Int.ofNat_lt.mpr fits⟩
  rw [Numeral.isFinite, word, Bool.true_or]

theorem allLeaves (h : Within d v) :
    v.allLeaves Numeral.isFinite (fun literal => (Quoted.text? literal).isSome) = true := by
  induction h with
  | null => rfl
  | bool b => rfl
  | nat fits => exact isFinite_toDigits fits
  | text s => exact congrArg Option.isSome (Quoted.text?_escape s.toList)
  | @array d items each ih =>
      show allItems _ _ items = true
      clear each
      induction items with
      | nil => rfl
      | cons v rest more =>
          obtain ⟨first, others⟩ := List.forall_mem_cons.mp ih
          exact Bool.and_eq_true_iff.mpr ⟨first, more others⟩
  | @record d fields each ih =>
      show allMembers _ _ (fields.map _) = true
      clear each
      induction fields with
      | nil => rfl
      | cons field rest more =>
          obtain ⟨first, others⟩ := List.forall_mem_cons.mp ih
          rw [List.map_cons, allMembers, Quoted.text?_escape, Option.isSome_some, Bool.true_and]
          exact Bool.and_eq_true_iff.mpr ⟨first, more others⟩

theorem admits (h : Within d v) {n : Nat} (room : n + d ≤ depthLimit) :
    (Place.streamed n).admits v = true := by
  have deep : n + v.depth ≤ depthLimit := Nat.le_trans (Nat.add_le_add_left h.depth_le n) room
  rw [Place.admits, isWhole, decide_eq_true deep, h.allLeaves, Bool.true_and]

end Within

end SiteReport.Json
