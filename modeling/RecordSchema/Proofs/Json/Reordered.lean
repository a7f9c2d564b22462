/-
Values that differ in nothing but the order in which the members of their
objects stand, at any depth.

Such values are equal in the sense in which the items of a list are compared
(`Reordered.same`), which goes further still and takes the two zeros for one.
-/
import RecordSchema.Proofs.Json.Same

namespace RecordSchema

namespace Json

/-- The values differ at most in the order of the members of objects, in themselves or anywhere below. -/
inductive Reordered : Json → Json → Prop where
  | refl (v : Json) : Reordered v v
  | array {as bs : List Json} (length : as.length = bs.length)
      (each : ∀ (i : Nat) v w, as[i]? = some v → bs[i]? = some w → Reordered v w) :
      Reordered (.array as) (.array bs)
  | object {as bs : List (String × Json)} (keys : (Members.keys as).Perm (Members.keys bs))
      (each : ∀ key v w, Members.get? as key = some v → Members.get? bs key = some w → Reordered v w) :
      Reordered (.object as) (.object bs)

variable {u v v' w w' : Json}

theorem Reordered.symm (h : v.Reordered w) : w.Reordered v := by
  induction h with
  | refl v => exact .refl v
  | array length _ ih => exact .array length.symm fun i v w hv hw => ih i w v hw hv
  | object keys _ ih => exact .object keys.symm fun key v w hv hw => ih key w v hw hv

/-- The members of an object may be put in any order. -/
theorem reordered_of_perm {as bs : List (String × Json)} (hn : (Members.keys as).Nodup) (h : as.Perm bs) :
    (object as).Reordered (object bs) := by
  refine .object (h.map _) fun key v w hv hw => ?_
  rw [Members.get?_perm hn h, hw] at hv
  cases hv
  exact .refl _

/-! ## Parts -/

theorem Reordered.items {as : List Json} (h : Json.Reordered (.array as) w) :
    ∃ bs, w = .array bs ∧ List.Forall₂ Reordered as bs := by
  cases h with
  | refl => exact ⟨as, rfl, List.forall₂_same.2 fun v _ => .refl v⟩
  | @array _ bs length each =>
    refine ⟨bs, rfl, List.forall₂_iff_get.2 ⟨length, fun i hi hi' => ?_⟩⟩
    exact each i _ _ (List.getElem?_eq_getElem hi) (List.getElem?_eq_getElem hi')

theorem reordered_array {as bs : List Json} (h : List.Forall₂ Reordered as bs) :
    (array as).Reordered (array bs) := by
  obtain ⟨length, each⟩ := List.forall₂_iff_get.1 h
  refine .array length fun i v w hv hw => ?_
  obtain ⟨hi, rfl⟩ := List.getElem?_eq_some_iff.1 hv
  obtain ⟨hi', rfl⟩ := List.getElem?_eq_some_iff.1 hw
  exact each i hi hi'

theorem Reordered.members {as : List (String × Json)} (h : Json.Reordered (.object as) w) :
    ∃ bs, w = .object bs ∧ (Members.keys as).Perm (Members.keys bs) ∧
      ∀ key v, Members.get? as key = some v → ∃ w, Members.get? bs key = some w ∧ v.Reordered w := by
  cases h with
  | refl => exact ⟨as, rfl, .refl _, fun key v hv => ⟨v, hv, .refl v⟩⟩
  | @object _ bs keys each =>
    refine ⟨bs, rfl, keys, fun key v hv => ?_⟩
    cases hw : Members.get? bs key with
    | none => exact absurd (keys.mem_iff.1 (Members.mem_keys_of_get? hv)) (Members.get?_eq_none_iff.1 hw)
    | some w => exact ⟨w, rfl, each key v w hv hw⟩

theorem Reordered.wellFormed (h : v.Reordered w) (hv : v.WellFormed) : w.WellFormed := by
  induction v generalizing w with
  | array as ih =>
    obtain ⟨bs, rfl, hitems⟩ := h.items
    refine everywhere_array.2 ⟨trivial, fun w hw => ?_⟩
    obtain ⟨v, hmem, hvw⟩ := exists_of_forall₂_right hitems w hw
    exact ih v hmem hvw (hv.item v hmem)
  | object as ih =>
    obtain ⟨bs, rfl, hkeys, hmembers⟩ := h.members
    have hn : (Members.keys bs).Nodup := hkeys.nodup_iff.1 hv.nodup_keys
    refine everywhere_object.2 ⟨hn, fun e he => ?_⟩
    obtain ⟨e', he', hkey⟩ := List.mem_map.1 (hkeys.mem_iff.2 (List.mem_map_of_mem he))
    obtain ⟨w, hw, hvw⟩ := hmembers e'.1 e'.2 (Members.get?_of_mem hv.nodup_keys he')
    rw [hkey, Members.get?_of_mem hn he] at hw
    cases hw
    exact ih e' he' hvw (hv.member e' he')
  | _ => cases h; exact hv

/-! ## Equality -/

/-- Equality of values does not look at the order of members. -/
theorem Reordered.same (h : v.Reordered w) (hv : v.WellFormed) : v.same w = true := by
  induction v generalizing w with
  | array as ih =>
    obtain ⟨bs, rfl, hitems⟩ := h.items
    rw [same_array_iff]
    have hboth : List.Forall₂ (fun v w => v ∈ as ∧ v.Reordered w) as bs :=
      (List.forall₂_and_left as bs).2 ⟨fun v hmem => hmem, hitems⟩
    exact hboth.imp fun v w ⟨hmem, hvw⟩ => ih v hmem hvw (hv.item v hmem)
  | object as ih =>
    obtain ⟨bs, rfl, hkeys, hmembers⟩ := h.members
    rw [same_object_iff]
    refine ⟨by simpa [Members.keys] using hkeys.length_eq, fun e he => ?_⟩
    obtain ⟨w, hw, hvw⟩ := hmembers e.1 e.2 (Members.get?_of_mem hv.nodup_keys he)
    exact ⟨w, hw, ih e he hvw (hv.member e he)⟩
  | _ => cases h; exact same_refl hv

theorem Reordered.same_imp (hv : v.Reordered v') (hw : w.Reordered w') (hwv : v.WellFormed) (hww : w.WellFormed)
    (h : v'.same w' = true) : v.same w = true := by
  have hback : w'.same w = true := same_symm hww (hw.wellFormed hww) (hw.same hww)
  exact same_trans (hv.same hwv) (same_trans h hback)

/-- Items that are pairwise different stay so. -/
theorem distinct_of_reordered {as bs : List Json} (h : List.Forall₂ Reordered as bs)
    (hv : ∀ v ∈ as, v.WellFormed) (hd : as.Pairwise fun v w => v.same w = false) :
    bs.Pairwise fun v w => v.same w = false := by
  induction h with
  | nil => exact .nil
  | @cons a b as bs hab hrest ih =>
    obtain ⟨hva, hv⟩ := List.forall_mem_cons.1 hv
    obtain ⟨hda, hd⟩ := List.pairwise_cons.1 hd
    refine List.pairwise_cons.2 ⟨fun d hmem => ?_, ih hv hd⟩
    obtain ⟨c, hc, hcd⟩ := exists_of_forall₂_right hrest d hmem
    rw [← Bool.not_eq_true]
    intro hsame
    have hac : a.same c = true := hab.same_imp hcd hva (hv c hc) hsame
    rw [hda c hc] at hac
    cases hac

end Json

end RecordSchema
