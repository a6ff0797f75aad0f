import SiteReport.Json.Printer

/-!
Parts of a compact text. What is put after a value stands at the end of the text, and the key of every
member of an object stands in the text of the object.
-/

namespace SiteReport.Json

mutual

theorem suffix_put (v : Json) (k : List Char) : k <:+ put v k := by
  cases v with
  | null => exact List.suffix_append ['n', 'u', 'l', 'l'] k
  | bool b =>
      cases b with
      | true => exact List.suffix_append ['t', 'r', 'u', 'e'] k
      | false => exact List.suffix_append ['f', 'a', 'l', 's', 'e'] k
  | number cs => exact List.suffix_append cs k
  | string cs =>
      rw [put]
      exact (List.suffix_append (cs ++ ['"']) k).trans ⟨['"'], by simp⟩
  | array items =>
      rw [put]
      exact (List.suffix_cons ']' k).trans
        ((suffix_putItems items _).trans (List.suffix_cons '[' _))
  | object members =>
      rw [put]
      exact (List.suffix_cons '\x7d' k).trans
        ((suffix_putMembers members _).trans (List.suffix_cons '\x7b' _))

theorem suffix_putItems (items : List Json) (k : List Char) : k <:+ putItems items k := by
  match items with
  | [] => exact List.suffix_refl k
  | [v] => exact suffix_put v k
  | v :: w :: rest =>
      have later := suffix_putItems (w :: rest) k
      rw [putItems]
      exact later.trans ((List.suffix_cons ',' _).trans (suffix_put v _))

theorem suffix_putMembers (members : List (List Char × Json)) (k : List Char) :
    k <:+ putMembers members k := by
  match members with
  | [] => exact List.suffix_refl k
  | [(key, v)] =>
      rw [putMembers]
      exact (suffix_put v k).trans ⟨'"' :: (key ++ ['"', ':']), by simp⟩
  | (key, v) :: m :: rest =>
      have later := suffix_putMembers (m :: rest) k
      rw [putMembers]
      exact later.trans ((List.suffix_cons ',' _).trans
        ((suffix_put v _).trans ⟨'"' :: (key ++ ['"', ':']), by simp⟩))

end

/-- A key as it stands in the text of an object. -/
def writtenKey (key : List Char) : List Char := '"' :: (key ++ ['"', ':'])

theorem writtenKey_infix_putMembers {members : List (List Char × Json)} {key : List Char}
    (member : key ∈ members.map (·.1)) (k : List Char) :
    writtenKey key <:+: putMembers members k := by
  induction members with
  | nil => cases member
  | cons m rest ih =>
      obtain ⟨first, v⟩ := m
      have here : first = key → writtenKey key <:+: putMembers ((first, v) :: rest) k := by
        rintro rfl
        cases rest with
        | nil => exact ⟨[], put v k, by simp [writtenKey, putMembers]⟩
        | cons m rest =>
            exact ⟨[], put v (',' :: putMembers (m :: rest) k), by simp [writtenKey, putMembers]⟩
      rcases List.mem_cons.mp member with same | later
      · exact here same.symm
      · cases rest with
        | nil => cases later
        | cons m rest =>
            have after : putMembers (m :: rest) k <:+ putMembers ((first, v) :: m :: rest) k := by
              rw [putMembers]
              exact (List.suffix_cons ',' _).trans
                ((suffix_put v _).trans ⟨'"' :: (first ++ ['"', ':']), by simp⟩)
            exact (ih later).trans after.isInfix

/-- The name of a field stands in the text of its record. -/
theorem writtenKey_infix_record {fields : List (String × Json)} {name : String} {v : Json}
    (member : (name, v) ∈ fields) :
    writtenKey (Quoted.escape name.toList) <:+: (record fields).compact.toList := by
  have written : (record fields).compact.toList = put (record fields) [] := String.toList_ofList
  have key : Quoted.escape name.toList ∈
      (fields.map fun field => (Quoted.escape field.1.toList, field.2)).map (·.1) :=
    List.mem_map.mpr ⟨_, List.mem_map.mpr ⟨(name, v), member, rfl⟩, rfl⟩
  rw [written, record, put]
  exact (writtenKey_infix_putMembers key _).trans (List.suffix_cons '\x7b' _).isInfix

end SiteReport.Json
