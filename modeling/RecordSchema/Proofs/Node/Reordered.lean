/-
Whether a value passes does not depend on the order in which its objects have
their members, at any depth.

What conforms to a node is said without an order wherever objects are looked
at: by lookup, or of every member. Only a list without repeated items compares
values with each other, by an equality that ignores the order as well
(`Json.distinct_of_reordered`).
-/
import RecordSchema.Proofs.Json.Reordered
import RecordSchema.Proofs.Node.Conforms

namespace RecordSchema

/-! ## Leaves and fields -/

namespace Json.Reordered

variable {v w : Json}

theorem isNull_eq (h : v.Reordered w) : v.isNull = w.isNull := by cases h <;> rfl

theorem eq_null (h : Json.null.Reordered w) : w = .null := by cases h; rfl

theorem eq_string {s : String} (h : v.Reordered (.string s)) : v = .string s := by cases h; rfl

/-- A key of the one object is in the other as well, with a value that is reordered at most. -/
theorem get? {as bs : Members Json} (h : Json.Reordered (.object as) (.object bs)) {key : String}
    (hv : as.get? key = some v) : ∃ w, bs.get? key = some w ∧ v.Reordered w := by
  obtain ⟨_, hbs, -, hmembers⟩ := h.members
  cases hbs
  exact hmembers key v hv

end Json.Reordered

/-- A kind takes all lists alike, and all objects. -/
theorem Leaf.check_reordered (l : Leaf) {v w : Json} (h : v.Reordered w) : l.check v = l.check w := by
  obtain ⟨annotations, kind, pattern, options, minimum, maximum⟩ := l
  cases h with
  | refl => rfl
  | array => cases kind <;> rfl
  | object => cases kind <;> rfl

theorem RecordRule.IsSet.reordered {a b : Members Json} (h : Json.Reordered (.object a) (.object b))
    {name : String} (hs : IsSet a name) : IsSet b name := by
  obtain ⟨v, hv, hnull, htexts⟩ := hs
  obtain ⟨w, hw, hvw⟩ := h.get? hv
  refine ⟨w, hw, hvw.isNull_eq ▸ hnull, ?_⟩
  rintro s hs rfl
  exact htexts s hs hvw.eq_string

/-! ## Nodes -/

namespace Node

/-- What conforms still does when its objects are reordered. -/
def IgnoresOrder (n : Node) : Prop := ∀ v w, v.WellFormed → v.Reordered w → n.Conforms v → n.Conforms w

theorem ignoresOrder_leaf (l : Leaf) : IgnoresOrder (leaf l) := by
  intro v w _ h hc
  cases hc with
  | absent ho => exact h.eq_null ▸ .absent ho
  | leaf hcheck => exact .leaf (l.check_reordered h ▸ hcheck)

theorem ignoresOrder_array {rule : ArrayRule} {child : Node} (ih : IgnoresOrder child) :
    IgnoresOrder (array rule child) := by
  intro v w hv h hc
  cases hc with
  | absent ho => exact h.eq_null ▸ .absent ho
  | @array _ _ items each distinct least most =>
    obtain ⟨ws, rfl, hitems⟩ := h.items
    have hlength := hitems.length_eq
    refine .array (fun w hw => ?_) (fun hu => ?_) (hlength ▸ least) (hlength ▸ most)
    · obtain ⟨v, hmem, hvw⟩ := exists_of_forall₂_right hitems w hw
      exact ih v w (hv.item v hmem) hvw (each v hmem)
    · exact Json.distinct_of_reordered hitems hv.item (distinct hu)

theorem ignoresOrder_hash {rule : HashRule} {child : Node} (ih : IgnoresOrder child) :
    IgnoresOrder (hash rule child) := by
  intro v w hv h hc
  cases hc with
  | absent ho => exact h.eq_null ▸ .absent ho
  | @hash _ _ members keys each =>
    have hw := h.wellFormed hv
    obtain ⟨ws, rfl, -⟩ := h.members
    -- every entry is that of the same key before
    have hentry : ∀ e ∈ ws, ∃ v, (e.1, v) ∈ members ∧ v.Reordered e.2 := by
      intro e he
      obtain ⟨v, hv', hback⟩ := h.symm.get? (Members.get?_of_mem hw.nodup_keys he)
      exact ⟨v, Members.mem_of_get? hv', hback.symm⟩
    refine .hash (fun e he => ?_) fun e he => ?_
    · obtain ⟨v, hmem, -⟩ := hentry e he
      exact keys (e.1, v) hmem
    · obtain ⟨v, hmem, hve⟩ := hentry e he
      exact ih v e.2 (hv.member (e.1, v) hmem) hve (each (e.1, v) hmem)

theorem ignoresOrder_options {alternatives : List Node} (ih : ∀ n ∈ alternatives, IgnoresOrder n) :
    IgnoresOrder (options alternatives) := by
  intro v w hv h hc
  cases hc with
  | absent ho => exact h.eq_null ▸ .absent ho
  | options hmem hc => exact .options hmem (ih _ hmem v w hv h hc)

theorem ignoresOrder_record {rule : RecordRule} {fields : List (String × Node)}
    (ih : ∀ e ∈ fields, IgnoresOrder e.2) : IgnoresOrder (record rule fields) := by
  intro v w hv h hc
  cases hc with
  | absent ho => exact h.eq_null ▸ .absent ho
  | @record _ _ members declared absent each needs =>
    obtain ⟨ws, rfl, hkeys, -⟩ := h.members
    refine .record (fun key hkey => declared key (hkeys.mem_iff.2 hkey)) (fun e he hnull => ?_)
      (fun e he w hw hnull => ?_) fun e he w hw hnull others hothers other hother => ?_
    · refine absent e he fun v hv' => ?_
      obtain ⟨w, hw, hvw⟩ := h.get? hv'
      exact hvw.isNull_eq ▸ hnull w hw
    · obtain ⟨v, hv', hback⟩ := h.symm.get? hw
      have hmem := Members.mem_of_get? hv'
      exact ih e he v w (hv.member _ hmem) hback.symm (each e he v hv' (hback.isNull_eq ▸ hnull))
    · obtain ⟨v, hv', hback⟩ := h.symm.get? hw
      exact (needs e he v hv' (hback.isNull_eq ▸ hnull) others hothers other hother).reordered h

theorem ignoresOrder (n : Node) : n.IgnoresOrder := by
  induction n with
  | leaf l => exact ignoresOrder_leaf l
  | array rule child ih => exact ignoresOrder_array ih
  | hash rule child ih => exact ignoresOrder_hash ih
  | options alternatives ih => exact ignoresOrder_options ih
  | record rule fields ih => exact ignoresOrder_record ih

/-- **Of two values that differ only in the order of object members, at any depth, both pass or neither**, at
whatever paths the two checks start. -/
theorem failures_eq_nil_iff_of_reordered (n : Node) {v w : Json} (hv : v.WellFormed) (h : v.Reordered w)
    (p q : Path) : n.failures v p = [] ↔ n.failures w q = [] := by
  rw [decides_conforms n v p, decides_conforms n w q]
  exact ⟨n.ignoresOrder v w hv h, n.ignoresOrder w v (h.wellFormed hv) h.symm⟩

/-- The second item repeats the first, in another order of its keys and in the same one. -/
theorem failures_eq_nil_iff_of_reordered_repeat :
    let n := array ⟨.plain, .unique, none, none⟩ (hash ⟨.plain, .bare .string⟩ (leaf (.bare .any)))
    let item : Json := .object [("a", .null), ("b", .bool true)]
    let v : Json := .array [item, .object [("b", .bool true), ("a", .null)]]
    let w : Json := .array [item, item]
    v.Reordered w ∧ n.failures v .root = [⟨Path.root.index 1, .duplicateOf (Path.root.index 0), none⟩] ∧
      n.failures w .root ≠ [] := by
  intro n item v w
  have hitem : (Json.object [("b", .bool true), ("a", .null)]).Reordered item :=
    Json.reordered_of_perm (by decide) (.swap ..)
  have hreordered : v.Reordered w := Json.reordered_array (.cons (.refl item) (.cons hitem .nil))
  have hfailures : n.failures v .root = [⟨Path.root.index 1, .duplicateOf (Path.root.index 0), none⟩] := by rfl
  refine ⟨hreordered, hfailures, fun hw => ?_⟩
  have hv := (n.failures_eq_nil_iff_of_reordered (by decide) hreordered .root .root).2 hw
  rw [hfailures] at hv
  cases hv

end Node

end RecordSchema
