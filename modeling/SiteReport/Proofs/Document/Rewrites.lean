import SiteReport.Proofs.Document.Rewrite

/-!
Rewriting a document more than once. Repeats go after every rewriting, so a photo may have gone by
the time another rewriting meets it; but the one that stayed instead of it comes to the same. Reports
that agree on the addresses of the photos can be taken up one after the other, in either order, or
at once.
-/

namespace SiteReport

namespace Body

/-- The first ones of what becomes of a list stand in the order of what they come from. -/
theorem pairwise_firsts_filterMap {α β : Type} [DecidableEq β] (f : α → Option β) (xs : List α) :
    (firsts (xs.filterMap f)).Pairwise fun u v =>
      xs.findIdx (f · == some u) < xs.findIdx (f · == some v) := by
  induction xs with
  | nil => exact .nil
  | cons x rest ih =>
      have later : ∀ u, f x ≠ some u → (x :: rest).findIdx (f · == some u) =
          rest.findIdx (f · == some u) + 1 := by
        intro u other
        rw [List.findIdx_cons, beq_eq_false_iff_ne.mpr other, cond_false]
      cases image : f x with
      | none =>
          rw [List.filterMap_cons_none image]
          refine ih.imp fun {u v} before => ?_
          rw [later u (image ▸ nofun), later v (image ▸ nofun)]
          exact Nat.succ_lt_succ before
      | some w =>
          have others : ∀ u ∈ (firsts (rest.filterMap f)).filter (· ≠ w), f x ≠ some u := by
            intro u hu same
            have distinct := of_decide_eq_true (List.mem_filter.mp hu).2
            exact distinct (Option.some.inj (same.symm.trans image))
          rw [List.filterMap_cons_some image, firsts]
          refine List.pairwise_cons.mpr ⟨fun v hv => ?_, ?_⟩
          · rw [later v (others v hv), List.findIdx_cons, image, beq_self_eq_true, cond_true]
            exact Nat.succ_pos _
          · refine (ih.filter _).imp_of_mem fun {u v} hu hv before => ?_
            rw [later u (others u hu), later v (others v hv)]
            exact Nat.succ_lt_succ before

namespace Resolution

variable {r₁ r₂ : Resolution}

/-- All addresses and all dropped photos of both; the first one has its way with the addresses. -/
instance : Union Resolution :=
  ⟨fun r₁ r₂ => ⟨r₁.resolved ++ r₂.resolved, r₁.dropped ++ r₂.dropped⟩⟩

theorem mem_dropped_union {id : PhotoId} :
    id ∈ (r₁ ∪ r₂).dropped ↔ id ∈ r₁.dropped ∨ id ∈ r₂.dropped := List.mem_append

theorem lookup_union (r₁ r₂ : Resolution) (id : PhotoId) : (r₁ ∪ r₂).resolved.lookup id =
    (r₁.resolved.lookup id).or (r₂.resolved.lookup id) := List.lookup_append

/-- No photo has two addresses, and none is dropped in one report and has an address in the other. -/
structure Compatible (r₁ r₂ : Resolution) : Prop where
  agree : ∀ id u v, r₁.resolved.lookup id = some u → r₂.resolved.lookup id = some v → u = v
  first : ∀ id ∈ r₁.dropped, r₂.resolved.lookup id = none
  second : ∀ id ∈ r₂.dropped, r₁.resolved.lookup id = none

theorem image_bind
    (kept : ∀ id ∈ r₂.dropped, id ∉ r₁.dropped → r₁.resolved.lookup id = none) (p : PhotoRef) :
    (image r₁ p).bind (image r₂) = image (r₁ ∪ r₂) p := by
  cases p with
  | resolved url => rfl
  | staged id =>
      by_cases first : id ∈ r₁.dropped
      · simp [image, mem_dropped_union, first]
      · cases found : r₁.resolved.lookup id with
        | none => simp [image, mem_dropped_union, lookup_union, first, found]
        | some url =>
            have second : id ∉ r₂.dropped := fun dropped =>
              Option.some_ne_none url (found.symm.trans (kept id dropped first))
            simp [image, mem_dropped_union, lookup_union, first, second, found]

/-- The lists are sets of photos and maps. -/
theorem apply_congr (dropped : ∀ id, id ∈ r₁.dropped ↔ id ∈ r₂.dropped)
    (lookup : ∀ id, r₁.resolved.lookup id = r₂.resolved.lookup id) : apply r₁ = apply r₂ := by
  have same : image r₁ = image r₂ := by
    funext p
    cases p with
    | resolved url => rfl
    | staged id => simp only [image, List.contains_iff_mem, dropped, lookup]
  funext photos
  rw [apply, same, apply]

theorem apply_union_self (r : Resolution) : apply (r ∪ r) = apply r :=
  apply_congr (fun _ => mem_dropped_union.trans or_self_iff) fun id =>
    (lookup_union r r id).trans Option.or_self

theorem apply_union_comm (h : Compatible r₁ r₂) : apply (r₁ ∪ r₂) = apply (r₂ ∪ r₁) := by
  refine apply_congr (fun _ => ?_) fun id => ?_
  · rw [mem_dropped_union, mem_dropped_union, or_comm]
  · rw [lookup_union, lookup_union]
    cases hu : r₁.resolved.lookup id with
    | none => rw [Option.none_or, Option.or_none]
    | some u =>
        cases hv : r₂.resolved.lookup id with
        | none => rfl
        | some v => rw [h.agree id u v hu hv]

/-- A photo that the first rewriting kept instead of a repeat comes to the same in the second one. -/
theorem apply_apply
    (kept : ∀ id ∈ r₂.dropped, id ∉ r₁.dropped → r₁.resolved.lookup id = none)
    (photos : List PhotoRef) : apply r₂ (apply r₁ photos) = apply (r₁ ∪ r₂) photos := by
  rw [apply, apply, firsts_filterMap_firsts, List.filterMap_filterMap, apply]
  exact congrArg firsts (List.filterMap_congr fun p _ => image_bind kept p)

/-- A rewritten list holds what becomes of the photos, each one once, and in the order in which the
photos came that it first comes from. -/
structure Rewrites (r : Resolution) (photos ps : List PhotoRef) : Prop where
  mem_iff : ∀ p, p ∈ ps ↔ ∃ old ∈ photos, image r old = some p
  in_order : ps.Pairwise fun p q =>
    photos.findIdx (image r · == some p) < photos.findIdx (image r · == some q)

theorem rewrites_apply (r : Resolution) (photos : List PhotoRef) :
    Rewrites r photos (apply r photos) :=
  ⟨fun _ => mem_firsts.trans List.mem_filterMap, pairwise_firsts_filterMap _ photos⟩

end Resolution

/-! ### The whole document -/

variable {r₁ r₂ : Resolution}

theorem resolve_resolve {r : Resolution}
    (composed : ∀ photos,
      Resolution.apply r₂ (Resolution.apply r₁ photos) = Resolution.apply r photos)
    (b : Body) : (b.resolve r₁).1.resolve r₂ = b.resolve r := by
  have contents : ∀ c, resolveContent r₂ (resolveContent r₁ c) = resolveContent r c := by
    intro c
    cases c with
    | photos block => cases block <;> simp only [resolveContent, PhotoBlock.mapLists, composed]
    | _ => rfl
  refine Prod.ext ?_ rfl
  have sections : ((b.resolve r₁).1.resolve r₂).1.sections = (b.resolve r).1.sections := by
    simp only [sections_resolve, List.map_map, Function.comp_def, contents]
  exact congrArg (Body.mk · b.counter) sections

/-- Two reports that agree are taken up in either order as if they were one, and what was taken up
already changes nothing. No photo that is dropped or has an address is left in stock, and every list
keeps its order. -/
theorem resolutions_unite (b : Body) :
    (∀ r₁ r₂ : Resolution, Resolution.Compatible r₁ r₂ →
      (b.resolve r₁).1.resolve r₂ = b.resolve (r₁ ∪ r₂) ∧
      (b.resolve r₂).1.resolve r₁ = b.resolve (r₁ ∪ r₂)) ∧
    ∀ r : Resolution,
      (b.resolve r).1.resolve r = b.resolve r ∧
      (∀ list id, (list, id) ∈ (b.resolve r).1.stagedPhotos →
        id ∉ r.dropped ∧ r.resolved.lookup id = none) ∧
      List.Forall₂ (fun old new => new.1 = old.1 ∧ Resolution.Rewrites r old.2 new.2)
        b.lists (b.resolve r).1.lists := by
  refine ⟨fun r₁ r₂ compatible => ⟨?_, ?_⟩, fun r => ⟨?_, ?_, ?_⟩⟩
  · exact resolve_resolve (Resolution.apply_apply fun id dropped _ => compatible.second id dropped) b
  · refine resolve_resolve (fun photos => ?_) b
    rw [Resolution.apply_apply fun id dropped _ => compatible.first id dropped,
      Resolution.apply_union_comm compatible]
  · refine resolve_resolve (fun photos => ?_) b
    rw [Resolution.apply_apply fun id dropped other => absurd dropped other,
      Resolution.apply_union_self]
  · intro list id staged
    obtain ⟨ps, listed, inside⟩ := mem_stagedPhotos_iff.mp staged
    obtain ⟨photos, -, rfl⟩ := mem_lists_resolve.mp listed
    exact (staged_mem_resolution_apply.mp inside).2
  · rw [lists_resolve, List.forall₂_map_right_iff, List.forall₂_same]
    exact fun entry _ => ⟨rfl, Resolution.rewrites_apply r entry.2⟩

/-- One photo has its address in both reports, two photos have come to an address that a third one
comes to later, and each report drops one. -/
theorem reports_united_in_either_order :
    let one : PhotoId := ⟨1, by decide⟩
    let two : PhotoId := ⟨2, by decide⟩
    let three : PhotoId := ⟨3, by decide⟩
    let four : PhotoId := ⟨4, by decide⟩
    let five : PhotoId := ⟨5, by decide⟩
    let six : PhotoId := ⟨6, by decide⟩
    let r₁ : Resolution := ⟨[(one, "u"), (two, "u")], [four]⟩
    let r₂ : Resolution := ⟨[(two, "u"), (three, "u")], [five]⟩
    let list : PhotoList := ⟨⟨1⟩, .completed⟩
    let b : Body := ⟨[⟨⟨1⟩, .photos (.completed
      [.staged five, .staged three, .staged one, .staged six, .staged two, .staged four])⟩], 1⟩
    ((b.resolve r₁).1.resolve r₂).1.lists = [(list, [.resolved "u", .staged six])] ∧
      ((b.resolve r₂).1.resolve r₁).1.lists = [(list, [.resolved "u", .staged six])] := by
  intro one two three four five six r₁ r₂ list b
  have compatible : Resolution.Compatible r₁ r₂ := by
    refine ⟨?_, by decide, by decide⟩
    intro id u v hu hv
    grind
  obtain ⟨onward, backward⟩ := (resolutions_unite b).1 r₁ r₂ compatible
  rw [onward, backward]
  exact ⟨by decide, by decide⟩

end Body

end SiteReport
