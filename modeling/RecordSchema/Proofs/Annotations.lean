/-
Annotations as they are written and read: the flag and the special values can
be told from every other member of a fragment, so what is written among other
members is what is read from them (`ofMembers_append`), and taking them out
leaves the others (`strip_append`, `strip_eq_self`).
-/
import RecordSchema.Annotations
import RecordSchema.Proofs.Json.Parts
import RecordSchema.Proofs.Name

namespace RecordSchema

namespace Annotations

/-- Special values stand under free names, one under each. -/
structure Coherent (a : Annotations) : Prop where
  free : ∀ e ∈ a.specials, Name.isFreeSpecial e.1 = true
  nodup : (Members.keys a.specials).Nodup

theorem coherent_plain : plain.Coherent := ⟨by simp [plain], by simp [plain, Members.keys]⟩

theorem eq_plain_of_isPlain {a : Annotations} (h : a.isPlain = true) : a = plain := by
  obtain ⟨optional, specials⟩ := a
  simp only [isPlain, Bool.and_eq_true, Bool.not_eq_true', List.isEmpty_iff] at h
  rw [h.1, h.2, plain]

/-! ## Reading -/

theorem isOwnKey_eq_false_iff {key : String} :
    isOwnKey key = false ↔ key ≠ "__optional__" ∧ Name.specialOf? key = none := by
  simp [isOwnKey]

theorem coherent_ofMembers {m : Members Json} (hn : (Members.keys m).Nodup) : (ofMembers m).Coherent := by
  refine ⟨?_, ?_⟩
  · intro e he
    obtain ⟨e', -, he'⟩ := List.mem_filterMap.1 he
    obtain ⟨name, hname, rfl⟩ := Option.map_eq_some_iff.1 he'
    exact (Name.specialOf?_eq_some_iff.1 hname).2
  · -- distinct keys hold distinct names, since a name determines its key
    rw [Members.keys, ofMembers, List.Nodup, List.pairwise_map, List.pairwise_filterMap]
    rw [Members.keys, List.Nodup, List.pairwise_map] at hn
    refine hn.imp fun {e e'} hne b hb b' hb' => ?_
    obtain ⟨name, hname, rfl⟩ := Option.map_eq_some_iff.1 hb
    obtain ⟨name', hname', rfl⟩ := Option.map_eq_some_iff.1 hb'
    rintro rfl
    exact hne ((Name.specialOf?_eq_some_iff.1 hname).1.trans (Name.specialOf?_eq_some_iff.1 hname').1.symm)

theorem perform_assignSpecial (a : Annotations) (name : String) (value : Json) :
    (assignSpecial name value).perform a = Change.settle a (
      if Name.isFreeSpecial name then .ok { a with specials := Members.insert a.specials name value }
      else .error (.invalidSpecialName name)) := by
  unfold assignSpecial
  by_cases hfree : Name.isFreeSpecial name = true <;> simp [hfree]

theorem atomic_assignSpecial (name : String) (value : Json) : (assignSpecial name value).Atomic :=
  Change.Atomic.of_settle fun a => ⟨_, perform_assignSpecial a name value⟩

theorem Coherent.setSpecial {a a' : Annotations} (h : a.Coherent) {name : String} {value : Json}
    (hs : a.setSpecial name value = .ok a') : a'.Coherent := by
  rw [Annotations.setSpecial, Change.changed, perform_assignSpecial, Change.outcome_settle] at hs
  split at hs
  · next hfree =>
    cases hs
    refine ⟨fun e he => ?_, Members.nodup_keys_insert h.nodup name value⟩
    rcases Members.mem_insert he with rfl | he
    · exact hfree
    · exact h.free e he
  · cases hs

/-! ## Writing -/

section

variable {a : Annotations}

/-- The keys of written annotations are their own. -/
theorem isOwnKey_of_mem_members (h : a.Coherent) : ∀ e ∈ a.members, isOwnKey e.1 = true := by
  intro e he
  rcases List.mem_append.1 he with he | he
  · unfold optionalMembers at he
    split at he
    · rw [List.mem_singleton.1 he]; decide
    · cases he
  · obtain ⟨e', he', rfl⟩ := List.mem_map.1 he
    simp [isOwnKey, Name.specialOf?_wrap (h.free e' he')]

/-- No directive but the flag is among written annotations. -/
theorem get?_members_of_isDirective (h : a.Coherent) {key : String} (hd : Name.isDirective key = true)
    (hne : key ≠ "__optional__") : Members.get? a.members key = none := by
  rw [Members.get?_eq_none_iff]
  intro hmem
  obtain ⟨e, he, rfl⟩ := List.mem_map.1 hmem
  have hown := isOwnKey_of_mem_members h e he
  rw [isOwnKey_eq_false_iff.2 ⟨hne, Name.specialOf?_of_isDirective hd⟩] at hown
  cases hown

theorem get?_optional (h : a.Coherent) :
    Members.get? a.members "__optional__" = if a.optional then some (.bool true) else none := by
  have hspecial : Members.get? a.specialMembers "__optional__" = none := by
    rw [Members.get?_eq_none_iff]
    intro hmem
    obtain ⟨e, he, hkey⟩ := List.mem_map.1 hmem
    obtain ⟨e', he', rfl⟩ := List.mem_map.1 he
    have hd : Name.isDirective "__optional__" = true := by decide
    rw [← hkey, Name.isDirective_wrap (h.free e' he')] at hd
    cases hd
  rw [members, Members.get?_append, hspecial, optionalMembers]
  split <;> rfl

theorem filterMap_members (h : a.Coherent) :
    (a.members.filterMap fun e => (Name.specialOf? e.1).map fun name => (name, e.2)) = a.specials := by
  have hoptional : Name.specialOf? "__optional__" = none := Name.specialOf?_of_isDirective (by decide)
  have hflag :
      (a.optionalMembers.filterMap fun e => (Name.specialOf? e.1).map fun name => (name, e.2)) = [] := by
    unfold optionalMembers
    split <;> simp [hoptional]
  have hspecials :
      (a.specialMembers.filterMap fun e => (Name.specialOf? e.1).map fun name => (name, e.2)) =
      a.specials := by
    have hfree := h.free
    rw [specialMembers]
    generalize a.specials = specials at hfree ⊢
    induction specials with
    | nil => rfl
    | cons e es ih =>
      rw [List.forall_mem_cons] at hfree
      rw [List.map_cons, List.filterMap_cons, Name.specialOf?_wrap hfree.1, ih hfree.2]
      rfl
  rw [members, List.filterMap_append, hflag, hspecials, List.nil_append]

variable {es : List (String × Json)}

/-- What is written in front of members that are not annotations is read from all of them. -/
theorem ofMembers_append (h : a.Coherent) (hes : ∀ e ∈ es, isOwnKey e.1 = false) :
    ofMembers (a.members ++ es) = a := by
  have hget : Members.get? es "__optional__" = none := by
    rw [Members.get?_eq_none_iff]
    intro hmem
    obtain ⟨e, he, hkey⟩ := List.mem_map.1 hmem
    exact (isOwnKey_eq_false_iff.1 (hes e he)).1 hkey
  have hfilter : (es.filterMap fun e => (Name.specialOf? e.1).map fun name => (name, e.2)) = [] := by
    rw [List.filterMap_eq_nil_iff]
    intro e he
    rw [(isOwnKey_eq_false_iff.1 (hes e he)).2]
    rfl
  rw [ofMembers, Members.get?_append, get?_optional h, hget, List.filterMap_append, filterMap_members h,
    hfilter, List.append_nil]
  obtain ⟨optional, specials⟩ := a
  cases optional <;> rfl

end

theorem strip_append {α : Type} (m m' : Members α) : strip (m ++ m') = strip m ++ strip m' :=
  List.filter_append ..

theorem strip_eq_self {α : Type} {m : Members α} (h : ∀ e ∈ m, isOwnKey e.1 = false) : strip m = m := by
  rw [strip, List.filter_eq_self]
  exact fun e he => by simp [h e he]

theorem strip_eq_nil {α : Type} {m : Members α} (h : ∀ e ∈ m, isOwnKey e.1 = true) : strip m = [] := by
  rw [strip, List.filter_eq_nil_iff]
  exact fun e he => by simp [h e he]

end Annotations

end RecordSchema
