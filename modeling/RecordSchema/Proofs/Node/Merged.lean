/-
The two spellings of a container's child: its members merged into those of the
container, or a fragment of their own under `__type__`.

A container takes its key and its annotations out of its members, wherever
they stand, and what it passes on is left as it was; so it makes of its child
what the members of the child describe alone (`ofFragment_merged`). Of the
nested spelling it passes on a fragment that has `__type__` and nothing else,
and that describes what the fragment under `__type__` does.
-/
import RecordSchema.Proofs.Node.Export

namespace RecordSchema

/-! ## Members from two lists -/

/-- The elements of two lists in one, those of each in their order. -/
inductive Interleaved {α : Type} : List α → List α → List α → Prop
  | nil : Interleaved [] [] []
  | left (a : α) {as bs cs : List α} : Interleaved as bs cs → Interleaved (a :: as) bs (a :: cs)
  | right (b : α) {as bs cs : List α} : Interleaved as bs cs → Interleaved as (b :: bs) (b :: cs)

namespace Interleaved

section

variable {α β : Type} {as bs cs : List α}

theorem filter (h : Interleaved as bs cs) (p : α → Bool) :
    Interleaved (as.filter p) (bs.filter p) (cs.filter p) := by
  induction h with
  | nil => exact .nil
  | left a _ ih =>
    rw [List.filter_cons, List.filter_cons]
    split
    · exact .left a ih
    · exact ih
  | right b _ ih =>
    rw [List.filter_cons, List.filter_cons]
    split
    · exact .right b ih
    · exact ih

/-- Nothing is left but the second list where the first one has nothing. -/
theorem eq_right (h : Interleaved as bs cs) (has : as = []) : cs = bs := by
  induction h with
  | nil => rfl
  | left a _ _ => cases has
  | right b _ ih => rw [ih has]

theorem mem (h : Interleaved as bs cs) {c : α} (hc : c ∈ cs) : c ∈ as ∨ c ∈ bs := by
  induction h with
  | nil => exact .inl hc
  | left a _ ih =>
    rcases List.mem_cons.1 hc with hc | hc
    · exact .inl (hc ▸ List.mem_cons_self ..)
    · exact (ih hc).imp_left (List.mem_cons_of_mem _)
  | right b _ ih =>
    rcases List.mem_cons.1 hc with hc | hc
    · exact .inr (hc ▸ List.mem_cons_self ..)
    · exact (ih hc).imp_right (List.mem_cons_of_mem _)

/-- Elements of the second list that a function passes over do not show in what it makes of both. -/
theorem filterMap_left (h : Interleaved as bs cs) {f : α → Option β} (hbs : ∀ b ∈ bs, f b = none) :
    cs.filterMap f = as.filterMap f := by
  induction h with
  | nil => rfl
  | left a _ ih => rw [List.filterMap_cons, List.filterMap_cons, ih hbs]
  | right b _ ih =>
    rw [List.forall_mem_cons] at hbs
    rw [List.filterMap_cons_none hbs.1, ih hbs.2]

end

variable {α : Type} {as bs cs : Members α}

theorem get?_left (h : Interleaved as bs cs) {key : String} (hbs : ∀ b ∈ bs, b.1 ≠ key) :
    Members.get? cs key = Members.get? as key := by
  induction h with
  | nil => rfl
  | left a _ ih => rw [Members.get?_cons, Members.get?_cons, ih hbs]
  | right b _ ih =>
    rw [List.forall_mem_cons] at hbs
    rw [Members.get?_cons, if_neg hbs.1, ih hbs.2]

end Interleaved

namespace Annotations

variable {own F es : Members Json}

theorem strip_interleaved (h : Interleaved own F es) (hown : ∀ e ∈ own, isOwnKey e.1 = true)
    (hF : ∀ e ∈ F, isOwnKey e.1 = false) : strip es = F := by
  have hstrip : Interleaved (strip own) (strip F) (strip es) := h.filter _
  rw [strip_eq_self hF] at hstrip
  exact hstrip.eq_right (strip_eq_nil hown)

theorem ofMembers_interleaved (h : Interleaved own F es) (hF : ∀ e ∈ F, isOwnKey e.1 = false) :
    ofMembers es = ofMembers own := by
  have hflag : ∀ e ∈ F, e.1 ≠ "__optional__" := fun e he => (isOwnKey_eq_false_iff.1 (hF e he)).1
  have hspecial : ∀ e ∈ F, ((Name.specialOf? e.1).map fun name => (name, e.2)) = none := by
    intro e he
    rw [(isOwnKey_eq_false_iff.1 (hF e he)).2]
    rfl
  rw [ofMembers, ofMembers, h.get?_left hflag, h.filterMap_left hspecial]

end Annotations

theorem ArraySettings.annotations_interleaved {own F es : Members Json} (s : ArraySettings)
    (h : Interleaved own F es) (hF : ∀ e ∈ F, Annotations.isOwnKey e.1 = false) :
    s.annotations es = s.annotations own := by
  have hflag : ∀ e ∈ F, e.1 ≠ "__optional__" :=
    fun e he => (Annotations.isOwnKey_eq_false_iff.1 (hF e he)).1
  rw [annotations, annotations, Annotations.ofMembers_interleaved h hF, Members.has, Members.has,
    h.get?_left hflag]

/-! ## Containers -/

/-- The nodes that have a child of any form. -/
inductive Container where
  | list
  | hash

namespace Container

/-- The key that makes a fragment one of the container. -/
def key : Container → String
  | list => "__array__"
  | hash => "__hash__"

/-- The members of the container itself: its key, with any value, and annotations. -/
structure Heads (c : Container) (v : Json) (own : Members Json) : Prop where
  given : Members.get? own c.key = some v
  known : ∀ e ∈ own, e.1 = c.key ∨ Annotations.isOwnKey e.1 = true

/-- Members of a child, at least one, that the container does not take for its own. -/
structure Admits (c : Container) (F : Members Json) : Prop where
  ne_nil : F ≠ []
  isOwnKey : ∀ e ∈ F, Annotations.isOwnKey e.1 = false
  array : ∀ e ∈ F, e.1 ≠ "__array__"
  key : ∀ e ∈ F, e.1 ≠ c.key

theorem admits_nested (c : Container) (F : Members Json) : c.Admits [("__type__", .object F)] := by
  have hown : Annotations.isOwnKey "__type__" = false := by decide
  have hkey : "__type__" ≠ c.key := by cases c <;> decide
  exact ⟨List.cons_ne_nil _ _, List.forall_mem_singleton.2 hown, List.forall_mem_singleton.2 (by simp),
    List.forall_mem_singleton.2 hkey⟩

/-- What the container makes of a child. An error in the value under its key goes before one of the child,
and the child before the counts of a list. -/
def around (c : Container) (v : Json) (notes : Members Json) (child : Except BuildError Node) :
    Except BuildError Node :=
  match c with
  | list => do
    let settings ← ArraySettings.ofJson v
    let child ← child
    let rule ← settings.rule (settings.annotations notes)
    return .array rule child
  | hash => do
    let key ← HashRule.keyOf v
    let child ← child
    return .hash ⟨.ofMembers notes, key⟩ child

end Container

namespace Node

open Container

variable {c : Container} {v : Json} {own notes F es merged nested : Members Json}

theorem arrayOf_interleaved (h : Interleaved notes F es)
    (hnotes : ∀ e ∈ notes, Annotations.isOwnKey e.1 = true) (hF : Container.list.Admits F) (v : Json) :
    arrayOf v (membersOf es) = Container.list.around v notes (ofFragment (.object F)) := by
  rw [ofFragment_object hF.array]
  simp only [arrayOf, around, strip_membersOf, Annotations.strip_interleaved h hnotes hF.isOwnKey,
    isEmpty_membersOf hF.ne_nil, values_membersOf, ArraySettings.annotations_interleaved _ h hF.isOwnKey,
    Bool.false_eq_true, if_false]

theorem hashOf_interleaved (h : Interleaved notes F es)
    (hnotes : ∀ e ∈ notes, Annotations.isOwnKey e.1 = true) (hF : Container.hash.Admits F) (v : Json) :
    hashOf v (membersOf es) = Container.hash.around v notes (ofFragment (.object F)) := by
  rw [ofFragment_object hF.array, hashOrBodyOf_membersOf hF.key]
  simp only [hashOf, around, strip_membersOf, Annotations.strip_interleaved h hnotes hF.isOwnKey,
    isEmpty_membersOf hF.ne_nil, values_membersOf, Annotations.ofMembers_interleaved h hF.isOwnKey,
    Bool.false_eq_true, if_false]

/-- **A container makes of its child what the members of the child describe alone**, wherever these stand
among its own. -/
theorem ofFragment_merged (hown : c.Heads v own) (hF : c.Admits F) (h : Interleaved own F es) :
    ofFragment (.object es) = c.around v (own.remove c.key) (ofFragment (.object F)) := by
  have hget : Members.get? es c.key = some v := (h.get?_left hF.key).trans hown.given
  -- without the key only annotations are left of the container's own members
  have hnotes : ∀ e ∈ own.remove c.key, Annotations.isOwnKey e.1 = true := by
    intro e he
    obtain ⟨hmem, hne⟩ := List.mem_filter.1 he
    exact (hown.known e hmem).resolve_left (by simpa using hne)
  have hrest : Interleaved (own.remove c.key) F (Members.remove es c.key) := by
    have hremove : Interleaved (own.remove c.key) (F.remove c.key) (Members.remove es c.key) := h.filter _
    rwa [remove_eq_self hF.key] at hremove
  cases c with
  | list =>
    have hlist : Members.get? es "__array__" = some v := hget
    rw [ofFragment, ofMembers, get?_membersOf, hlist, ← arrayOf_interleaved hrest hnotes hF v,
      ← remove_membersOf]
    rfl
  | hash =>
    have hhash : Members.get? es "__hash__" = some v := hget
    -- the key of a list would be looked at first, but neither part has it
    have harray : ∀ e ∈ es, e.1 ≠ "__array__" := by
      intro e he hkey
      rcases h.mem he with hmem | hmem
      · have hforeign : ¬("__array__" = Container.hash.key ∨ Annotations.isOwnKey "__array__" = true) := by
          decide
        exact hforeign (hkey ▸ hown.known e hmem)
      · exact hF.array e hmem hkey
    rw [ofFragment_object harray, hashOrBodyOf, get?_membersOf, hhash, ← hashOf_interleaved hrest hnotes hF v,
      ← remove_membersOf]
    rfl

/-- A fragment that has `__type__` and nothing else describes what the fragment under it does. -/
theorem ofFragment_nested (F : Members Json) :
    ofFragment (.object [("__type__", .object F)]) = ofFragment (.object F) := rfl

/-- **A child may be spelled either way.** With its members merged into those of the container, and with a
fragment of them under `__type__`, the container is compiled to one node or fails with one error: that which
the container makes of what the members of the child describe alone. -/
theorem ofFragment_merged_eq_nested (hown : c.Heads v own) (hF : c.Admits F)
    (hmerged : Interleaved own F merged) (hnested : Interleaved own [("__type__", .object F)] nested) :
    ofFragment (.object merged) = ofFragment (.object nested) ∧
      ofFragment (.object merged) = c.around v (own.remove c.key) (ofFragment (.object F)) := by
  have haround := ofFragment_merged hown hF hmerged
  refine ⟨?_, haround⟩
  rw [haround, ofFragment_merged hown (c.admits_nested F) hnested, ofFragment_nested]

/-- A list of hashes of records, with all its members among each other. -/
theorem ofFragment_merged_eq_nested_hash :
    let own : Members Json :=
      [("__note__", .null), ("__array__", .string "duplicates"), ("__optional__", .bool true)]
    let F : Members Json := [("__hash__", .bool true), ("b", .string "int"),
      ("__require__", .object [("a", .string "b")]), ("a", .string "date")]
    let merged : Members Json := [("__hash__", .bool true), ("__note__", .null), ("b", .string "int"),
      ("__require__", .object [("a", .string "b")]), ("__array__", .string "duplicates"), ("a", .string "date"),
      ("__optional__", .bool true)]
    let nested : Members Json := [("__note__", .null), ("__type__", .object F),
      ("__array__", .string "duplicates"), ("__optional__", .bool true)]
    Container.list.Heads (.string "duplicates") own ∧ Container.list.Admits F ∧ Interleaved own F merged ∧
      Interleaved own [("__type__", .object F)] nested ∧
      ofFragment (.object merged) = ofFragment (.object nested) ∧
      ofFragment (.object merged) = .ok (array ⟨⟨true, [("note", .null)]⟩, .duplicates, none, none⟩
        (hash ⟨.plain, .bare .string⟩
          (record ⟨.plain, [("a", ["b"])]⟩ [("b", leaf (.bare .int)), ("a", leaf (.bare .date))]))) := by
  intro own F merged nested
  have hown : Container.list.Heads (.string "duplicates") own := ⟨by rfl, by decide⟩
  have hF : Container.list.Admits F := ⟨List.cons_ne_nil _ _, by decide, by decide, by decide⟩
  have hmerged : Interleaved own F merged :=
    .right _ (.left _ (.right _ (.right _ (.left _ (.right _ (.left _ .nil))))))
  have hnested : Interleaved own [("__type__", .object F)] nested := .left _ (.right _ (.left _ (.left _ .nil)))
  obtain ⟨heq, haround⟩ := ofFragment_merged_eq_nested hown hF hmerged hnested
  exact ⟨hown, hF, hmerged, hnested, heq, haround.trans (by rfl)⟩

end Node

end RecordSchema
