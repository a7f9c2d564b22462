/-
Where failures lie: each one that a check reports leads from where the check
started to a part of the value, and shows nothing but what stands there.

A path is followed a segment at a time (`Json.part?`). What a check reports of
a part it reports at the part's path, so a container has to place the failures
that it finds itself, and those of its children lie one step deeper
(`Failure.At.step`). A field that is missing has no part to lie at; its path
leads to the record that lacks it, and ends in its name.
-/
import RecordSchema.Proofs.Json.Parts
import RecordSchema.Proofs.Members
import RecordSchema.Proofs.Node.Conforms

namespace RecordSchema

/-! ## Parts of a value -/

namespace Json

/-- The part that one step leads to: the value under a key of an object, or an item of a list. -/
def part? : Json → Segment → Option Json
  | .object members, .field name => Members.get? members name
  | .array items, .index i => items[i]?
  | _, _ => none

/-- The part that the steps of a path lead to, one after the other. -/
def at? (v : Json) (p : Path) : Option Json := p.segments.foldlM part? v

theorem at?_root (v : Json) : v.at? .root = some v := rfl

theorem at?_of_part? {v u : Json} {s : Segment} (h : v.part? s = some u) (r : Path) :
    v.at? ⟨s :: r.segments⟩ = u.at? r := by
  simp [at?, h]

end Json

/-! ## Failures -/

/-- The failure is one of `v`, which stands at `p`. -/
inductive Failure.At (v : Json) (p : Path) : Failure → Prop where
  /-- It lies at a part of `v`, and a text in it is the JSON text of the part or the name of its type. -/
  | part {r u reason got} (found : v.at? r = some u)
      (shown : ∀ t, got = some t → t = u.text ∨ t = u.typeName) : At v p ⟨p ++ r, reason, got⟩
  /-- An object within `v` has nothing but null under a name that it has to have. -/
  | missing {r members name} (found : v.at? r = some (.object members))
      (lacks : ∀ u, Members.get? members name = some u → u.isNull = true) :
      At v p ⟨p ++ r.field name, .missing, none⟩

/-- What a check reports of a value are failures of that value. -/
def Checker.Locates (check : Checker) : Prop := ∀ v p, v.WellFormed → ∀ f ∈ check v p, f.At v p

namespace Failure.At

variable {v u : Json} {p : Path}

theorem here {reason : Reason} {got : Option String} (h : ∀ t, got = some t → t = v.text ∨ t = v.typeName) :
    At v p ⟨p, reason, got⟩ := by
  have hf : At v p ⟨p ++ .root, reason, got⟩ := .part v.at?_root h
  rwa [Path.append_root] at hf

theorem untold {reason : Reason} : At v p ⟨p, reason, none⟩ := here nofun

theorem named {reason : Reason} : At v p ⟨p, reason, some v.typeName⟩ :=
  here fun _ h => .inr (Option.some.inj h).symm

/-- A failure of a part is one of the whole. -/
theorem step {s : Segment} {f : Failure} (h : v.part? s = some u) (hf : f.At u (p.push s)) : f.At v p := by
  cases hf with
  | @part r w reason got found shown =>
    rw [Path.push_append_cons]
    exact .part ((Json.at?_of_part? h r).trans found) shown
  | @missing r members name found lacks =>
    have hfound := (Json.at?_of_part? h r).trans found
    rw [Path.push_append_cons]
    exact .missing hfound lacks

end Failure.At

/-! ## Leaves -/

theorem Leaf.failures_locates (l : Leaf) : Checker.Locates l.failures := by
  intro v p _ f hf
  unfold failures at hf
  split at hf
  · simp at hf
  · split at hf
    · simp at hf
    · rw [List.mem_singleton.1 hf]
      exact .here fun t h => .inl (Option.some.inj h).symm

/-! ## Lists -/

namespace ArrayRule

variable {check : Checker}

/-- The failure is one that the check reports of an item, or that the item repeats another. -/
def OfItem (check : Checker) (p : Path) (v : Json) (f : Failure) : Prop :=
  f ∈ check v p ∨ ∃ first, f = ⟨p, .duplicateOf first, none⟩

theorem mem_itemFailures {mode : ArrayMode} {path : Path} {items : List Json} {f : Failure} :
    ∀ {i seen}, f ∈ itemFailures mode check path i seen items →
      ∃ j v, items[j]? = some v ∧ OfItem check (path.index (i + j)) v f := by
  induction items with
  | nil => simp [itemFailures]
  | cons v vs ih =>
    intro i seen hf
    have hhead : OfItem check (path.index i) v f →
        ∃ j u, (v :: vs)[j]? = some u ∧ OfItem check (path.index (i + j)) u f := fun h => ⟨0, v, rfl, h⟩
    -- Positions count from `i`, so an item of the tail stands one further on.
    have htail : ∀ {seen}, f ∈ itemFailures mode check path (i + 1) seen vs →
        ∃ j u, (v :: vs)[j]? = some u ∧ OfItem check (path.index (i + j)) u f := by
      intro seen h
      obtain ⟨j, u, hu, h⟩ := ih h
      exact ⟨j + 1, u, hu, by rwa [Nat.add_right_comm] at h⟩
    rw [itemFailures] at hf
    split at hf
    · next hcheck =>
      rw [← hcheck, List.mem_append] at hf
      exact hf.elim (fun h => hhead (.inl h)) htail
    · split at hf
      · split at hf
        · exact (List.mem_cons.1 hf).elim (fun h => hhead (.inr ⟨_, h⟩)) htail
        · exact htail hf
      · exact htail hf

theorem mem_countFailures {rule : ArrayRule} {count : Nat} {path : Path} {f : Failure}
    (h : f ∈ rule.countFailures count path) : ∃ reason, f = ⟨path, reason, none⟩ := by
  simp only [countFailures, List.mem_append] at h
  grind

theorem failures_locates (rule : ArrayRule) (hc : check.Locates) : Checker.Locates (rule.failures check) := by
  intro v p hv f hf
  unfold failures at hf
  split at hf
  · simp at hf
  · cases v with
    | array items =>
      rcases List.mem_append.1 hf with hf | hf
      · obtain ⟨j, u, hu, hf⟩ := mem_itemFailures hf
        rw [Nat.zero_add] at hf
        refine .step (s := .index j) hu ?_
        rcases hf with hf | ⟨first, rfl⟩
        · exact hc u _ (hv.item u (List.mem_of_getElem? hu)) f hf
        · exact .untold
      · obtain ⟨reason, rfl⟩ := mem_countFailures hf
        exact .untold
    | _ => rw [List.mem_singleton.1 hf]; exact .named

end ArrayRule

/-! ## Hashes -/

theorem HashRule.failures_locates (rule : HashRule) {check : Checker} (hc : check.Locates) :
    Checker.Locates (rule.failures check) := by
  intro v p hv f hf
  unfold failures at hf
  split at hf
  · simp at hf
  · cases v with
    | object members =>
      obtain ⟨⟨key, u⟩, he, hf⟩ := List.mem_flatMap.1 hf
      refine .step (s := .field key) (Members.get?_of_mem hv.nodup_keys he) ?_
      unfold entryFailures at hf
      split at hf
      · exact hc u _ (hv.member _ he) f hf
      · rw [List.mem_singleton.1 hf]
        exact .untold
    | _ => rw [List.mem_singleton.1 hf]; exact .named

/-! ## Records -/

namespace RecordRule

variable {record : Members Json} {p : Path}

theorem fieldFailures_at (rule : RecordRule) {check : FieldCheck} (hc : check.failures.Locates)
    (hv : (Json.object record).WellFormed) {name : String} {f : Failure}
    (hf : f ∈ rule.fieldFailures record p name check) : f.At (.object record) p := by
  unfold fieldFailures at hf
  split at hf
  · next habsent =>
    split at hf
    · simp at hf
    · have hmissing : Failure.At (.object record) p ⟨p ++ Path.root.field name, .missing, none⟩ :=
        .missing (Json.at?_root _) (present?_eq_none_iff.1 habsent)
      rw [List.mem_singleton.1 hf]
      rwa [← Path.append_field, Path.append_root] at hmissing
  · next u hpresent =>
    obtain ⟨hu, -⟩ := present?_eq_some_iff.1 hpresent
    refine .step (s := .field name) hu ?_
    split at hf
    · obtain ⟨other, -, rfl⟩ := List.mem_map.1 hf
      exact .untold
    · exact hc u _ (hv.member _ (Members.mem_of_get? hu)) f hf

theorem undeclaredFailures_at (hv : (Json.object record).WellFormed) {names : List String} {f : Failure}
    (hf : f ∈ undeclaredFailures names record p) : f.At (.object record) p := by
  obtain ⟨key, hkey, rfl⟩ := List.mem_map.1 hf
  obtain ⟨⟨key, u⟩, he, rfl⟩ := List.mem_map.1 (List.mem_filter.1 hkey).1
  exact .step (s := .field key) (Members.get?_of_mem hv.nodup_keys he) .untold

theorem failures_locates (rule : RecordRule) {checks : List (String × FieldCheck)}
    (hc : ∀ c ∈ checks, c.2.failures.Locates) : Checker.Locates (rule.failures checks) := by
  intro v p hv f hf
  unfold failures at hf
  split at hf
  · simp at hf
  · cases v with
    | object record =>
      rcases List.mem_append.1 hf with hf | hf
      · obtain ⟨c, hmem, hf⟩ := List.mem_flatMap.1 hf
        exact fieldFailures_at rule (hc c hmem) hv hf
      · exact undeclaredFailures_at hv hf
    | _ => rw [List.mem_singleton.1 hf]; exact .named

end RecordRule

/-! ## Nodes -/

namespace Node

/-- A choice passes on nothing of what its options report. -/
theorem failures_locates_options (alternatives : List Node) :
    Checker.Locates (options alternatives).failures := by
  intro v p _ f hf
  unfold failures at hf
  split at hf
  · simp at hf
  · split at hf
    · simp at hf
    · rw [List.mem_singleton.1 hf]
      exact .untold

theorem failures_locates (n : Node) : Checker.Locates n.failures := by
  induction n with
  | leaf l => exact l.failures_locates
  | array rule child ih => exact rule.failures_locates ih
  | hash rule child ih => exact rule.failures_locates ih
  | options alternatives _ => exact failures_locates_options alternatives
  | record rule fields ih =>
    refine rule.failures_locates ?_
    rw [fieldChecks_eq, List.forall_mem_map]
    exact ih

/-- **Each failure that is reported lies within the value**: its path is that of the value followed by
steps to a part of it, of which it shows the JSON text or the name of the type if it shows anything, or
to a field that is missing from an object within it. -/
theorem at_of_mem_failures (n : Node) {v : Json} (hv : v.WellFormed) {p : Path} {f : Failure}
    (hf : f ∈ n.failures v p) : f.At v p :=
  n.failures_locates v p hv f hf

/-- An item of a list in a field. -/
theorem at_of_mem_failures_item :
    let n : Node := record ⟨.plain, []⟩ [("flags", array ⟨.plain, .duplicates, none, none⟩ (leaf (.bare .bool)))]
    let v : Json := .object [("flags", .array [.bool true, .number (.int 3)])]
    let f : Failure := ⟨⟨[.field "feature", .field "flags", .index 1]⟩, .notABool, some "3"⟩
    f ∈ n.failures v (.ofField "feature") ∧ f.At v (.ofField "feature") := by
  intro n v f
  have hf : f ∈ n.failures v (.ofField "feature") := List.mem_singleton.2 (by rfl)
  exact ⟨hf, n.at_of_mem_failures (by decide) hf⟩

end Node

end RecordSchema
