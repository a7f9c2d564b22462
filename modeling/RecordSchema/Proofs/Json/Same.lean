/-
When two values count as equal: `same` is an equivalence of well-formed
values. Objects are compared by looking the members of the one up in the
other, so that the comparison can be turned round (`same_symm`) is a matter of
counting: an object that repeats no key has no room for further keys
(`keys_subset_of_length_eq`).
-/
import Mathlib.Data.List.Forall2
import Mathlib.Data.List.Perm.Subperm
import RecordSchema.Proofs.Json.Parts

namespace RecordSchema

/-! ## Lists related item by item -/

theorem exists_of_forall₂ {α β : Type} {R : α → β → Prop} {as : List α} {bs : List β}
    (h : List.Forall₂ R as bs) : ∀ a ∈ as, ∃ b ∈ bs, R a b := by
  induction h with
  | nil => simp
  | @cons a b as bs hab _ ih =>
    refine List.forall_mem_cons.2 ⟨⟨b, List.mem_cons_self .., hab⟩, fun a ha => ?_⟩
    obtain ⟨b, hb, hab⟩ := ih a ha
    exact ⟨b, List.mem_cons_of_mem _ hb, hab⟩

theorem exists_of_forall₂_right {α β : Type} {R : α → β → Prop} {as : List α} {bs : List β}
    (h : List.Forall₂ R as bs) : ∀ b ∈ bs, ∃ a ∈ as, R a b :=
  exists_of_forall₂ (List.Forall₂.flip (R := flip R) h)

namespace Json

/-! ## Numbers -/

namespace Number

variable {a b c : Number}

theorem same_refl (a : Number) : a.same a = true := by
  cases a <;> simp [same, Binary64.same]

theorem same_symm (h : a.same b = true) : b.same a = true := by
  cases a <;> cases b <;> simp_all [same, Binary64.same]

theorem same_trans (hab : a.same b = true) (hbc : b.same c = true) : a.same c = true := by
  cases a <;> cases b <;> cases c <;> simp_all [same, Binary64.same]

end Number

/-! ## Parts -/

theorem sameItems_iff {as bs : List Json} :
    sameItems as bs = true ↔ List.Forall₂ (fun a b => same a b = true) as bs := by
  induction as generalizing bs with
  | nil => cases bs <;> simp [sameItems]
  | cons a as ih => cases bs <;> simp [sameItems, ih]

theorem sameItems_trans {as : List Json}
    (ha : ∀ a ∈ as, ∀ {b c}, same a b = true → same b c = true → same a c = true) {bs cs : List Json}
    (hab : sameItems as bs = true) (hbc : sameItems bs cs = true) : sameItems as cs = true := by
  rw [sameItems_iff] at hab hbc ⊢
  induction hab generalizing cs with
  | nil => exact hbc
  | cons h _ ih =>
    rw [List.forall_mem_cons] at ha
    cases hbc with
    | cons h' hrest => exact .cons (ha.1 h h') (ih ha.2 hrest)

theorem sameItems_symm {as bs : List Json}
    (ha : ∀ a ∈ as, ∀ b ∈ bs, same a b = true → same b a = true)
    (hab : sameItems as bs = true) : sameItems bs as = true := by
  rw [sameItems_iff] at hab ⊢
  induction hab with
  | nil => exact .nil
  | cons h _ ih =>
    exact .cons (ha _ (List.mem_cons_self ..) _ (List.mem_cons_self ..) h)
      (ih fun a hmem b hmem' => ha a (List.mem_cons_of_mem _ hmem) b (List.mem_cons_of_mem _ hmem'))

theorem sameMembers_iff {as bs : List (String × Json)} : sameMembers as bs = true ↔
    ∀ e ∈ as, ∃ b, Members.get? bs e.1 = some b ∧ same e.2 b = true := by
  induction as with
  | nil => simp [sameMembers]
  | cons e as ih =>
    obtain ⟨k, a⟩ := e
    rw [sameMembers, Bool.and_eq_true, ih, List.forall_mem_cons]
    refine and_congr_left fun _ => ?_
    cases Members.get? bs k <;> simp

theorem same_array_iff {as bs : List Json} :
    same (.array as) (.array bs) = true ↔ List.Forall₂ (fun a b => same a b = true) as bs := sameItems_iff

theorem same_object_iff {as bs : List (String × Json)} :
    same (.object as) (.object bs) = true ↔
      as.length = bs.length ∧ ∀ e ∈ as, ∃ b, Members.get? bs e.1 = some b ∧ same e.2 b = true := by
  rw [same, Bool.and_eq_true, beq_iff_eq, sameMembers_iff]

theorem exists_array_of_same {as : List Json} {w : Json} (h : same (.array as) w = true) :
    ∃ bs, w = .array bs := by
  cases w <;> simp_all [same]

theorem exists_object_of_same {as : List (String × Json)} {w : Json} (h : same (.object as) w = true) :
    ∃ bs, w = .object bs := by
  cases w <;> simp_all [same]

/-! ## Values -/

variable {u v w : Json}

theorem same_refl (hv : v.WellFormed) : v.same v = true := by
  induction v with
  | null => rfl
  | bool b => simp [same]
  | number n => simp [same, Number.same_refl]
  | string s => simp [same]
  | array items ih =>
    rw [same_array_iff, List.forall₂_same]
    exact fun v hmem => ih v hmem (hv.item v hmem)
  | object members ih =>
    rw [same_object_iff]
    exact ⟨rfl, fun e he => ⟨e.2, Members.get?_of_mem hv.nodup_keys he, ih e he (hv.member e he)⟩⟩

theorem same_trans (huv : u.same v = true) (hvw : v.same w = true) : u.same w = true := by
  induction u generalizing v w with
  | null => cases v <;> simp_all [same, isNull]
  | bool b => cases v <;> cases w <;> simp_all [same]
  | number n =>
    cases v <;> cases w <;> simp_all only [same, Bool.false_eq_true]
    exact Number.same_trans huv hvw
  | string s => cases v <;> cases w <;> simp_all [same]
  | array as ih =>
    obtain ⟨bs, rfl⟩ := exists_array_of_same huv
    obtain ⟨cs, rfl⟩ := exists_array_of_same hvw
    exact sameItems_trans (fun a ha => ih a ha) huv hvw
  | object as ih =>
    obtain ⟨bs, rfl⟩ := exists_object_of_same huv
    obtain ⟨cs, rfl⟩ := exists_object_of_same hvw
    rw [same_object_iff] at huv hvw ⊢
    refine ⟨huv.1.trans hvw.1, fun e he => ?_⟩
    obtain ⟨b, hb, hab⟩ := huv.2 e he
    obtain ⟨c, hc, hbc⟩ := hvw.2 _ (Members.mem_of_get? hb)
    exact ⟨c, hc, ih e he hab hbc⟩

/-- An object without repeated keys, as long as another that has all its keys, has no others. -/
theorem keys_subset_of_length_eq {as bs : List (String × Json)} (ha : (Members.keys as).Nodup)
    (hlength : as.length = bs.length) (h : Members.keys as ⊆ Members.keys bs) :
    Members.keys bs ⊆ Members.keys as := by
  have hle : (Members.keys bs).length ≤ (Members.keys as).length := by simp [Members.keys, hlength]
  exact ((List.subperm_of_subset ha h).perm_of_length_le hle).symm.subset

theorem same_symm (hv : v.WellFormed) (hw : w.WellFormed) (h : v.same w = true) : w.same v = true := by
  induction v generalizing w with
  | null => cases w <;> simp_all [same, isNull]
  | bool b => cases w <;> simp_all [same]
  | number n =>
    cases w <;> simp_all only [same, Bool.false_eq_true]
    exact Number.same_symm h
  | string s => cases w <;> simp_all [same]
  | array as ih =>
    obtain ⟨bs, rfl⟩ := exists_array_of_same h
    exact sameItems_symm (fun a ha b hb => ih a ha (hv.item a ha) (hw.item b hb)) h
  | object as ih =>
    obtain ⟨bs, rfl⟩ := exists_object_of_same h
    rw [same_object_iff] at h ⊢
    obtain ⟨hlength, hmem⟩ := h
    have hsubset : Members.keys bs ⊆ Members.keys as := by
      refine keys_subset_of_length_eq hv.nodup_keys hlength fun k hk => ?_
      obtain ⟨e, he, rfl⟩ := List.mem_map.1 hk
      obtain ⟨b, hb, -⟩ := hmem e he
      exact Members.mem_keys_of_get? hb
    refine ⟨hlength.symm, fun e he => ?_⟩
    obtain ⟨e', he', hkey⟩ := List.mem_map.1 (hsubset (List.mem_map_of_mem he))
    obtain ⟨b, hb, hsame⟩ := hmem e' he'
    rw [hkey, Members.get?_of_mem hw.nodup_keys he] at hb
    cases hb
    have hself : Members.get? as e.1 = some e'.2 := hkey ▸ Members.get?_of_mem hv.nodup_keys he'
    exact ⟨e'.2, hself, ih e' he' (hv.member e' he') (hw.member e he) hsame⟩

end Json

end RecordSchema
