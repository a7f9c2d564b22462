/-
What the check of a list reports, item by item: what its child reports of the
item or, where the child accepts it and items must not repeat, that it equals
an item before it (`Node.itemReport`). The item named is the first of those
that the child accepts.

The check compares an item with a few of those before it only, the accepted
ones that repeat no other. Since equality is transitive, whatever equals an
accepted item equals the first accepted one of its like, which is among those
few; that they find the same first item as all the items would is the
invariant of the scan (`Node.FindsFirst`).
-/
import RecordSchema.Proofs.Json.Same
import RecordSchema.Proofs.Node.Relative
import Mathlib.Order.Bounds.Defs

namespace RecordSchema

namespace Node

/-! ## The first of equal items -/

/-- The position of the first of some items that the child accepts and that equals `v`. -/
def firstEqual? (child : Node) (items : List Json) (v : Json) : Option Nat :=
  items.findIdx? fun u => child.accepts u && u.same v

variable {child : Node} {items : List Json} {u v : Json} {i : Nat}

/-- One more item matters only if it is accepted, equals `v`, and no item before it does. -/
theorem firstEqual?_append (child : Node) (items : List Json) (u v : Json) :
    child.firstEqual? (items ++ [u]) v =
      (child.firstEqual? items v).or (if child.accepts u && u.same v then some items.length else none) := by
  rw [firstEqual?, List.findIdx?_append, List.findIdx?_singleton]
  congr 1
  split <;> simp

theorem firstEqual?_append_of_refused (h : child.accepts u = false) :
    child.firstEqual? (items ++ [u]) v = child.firstEqual? items v := by
  simp [firstEqual?_append, h]

/-- What equals an item equals all that the item equals. -/
theorem exists_firstEqual?_of_same (h : child.firstEqual? items u = some i) (hs : u.same v = true) :
    ∃ j, child.firstEqual? items v = some j := by
  obtain ⟨hlt, hfound, -⟩ := List.findIdx?_eq_some_iff_getElem.1 h
  rw [Bool.and_eq_true] at hfound
  rw [← Option.isSome_iff_exists, firstEqual?, List.findIdx?_isSome, List.any_eq_true]
  exact ⟨items[i], List.getElem_mem hlt, by simp [hfound.1, Json.same_trans hfound.2 hs]⟩

/-- An item that repeats one before it is never the first. -/
theorem firstEqual?_append_of_repeated (h : child.firstEqual? items u = some i) :
    child.firstEqual? (items ++ [u]) v = child.firstEqual? items v := by
  rw [firstEqual?_append]
  split
  · next hu =>
    rw [Bool.and_eq_true] at hu
    obtain ⟨j, hj⟩ := exists_firstEqual?_of_same h hu.2
    rw [hj]
    rfl
  · rw [Option.or_none]

/-- The first is the least of the positions before `i` at which an equal item is accepted. -/
theorem firstEqual?_eq_some_iff (path : Path) {j : Nat} :
    child.firstEqual? (items.take i) v = some j ↔ IsLeast {j | j < i ∧ ∃ u, items[j]? = some u ∧
      child.failures u (path.index j) = [] ∧ u.same v = true} j := by
  have hat : ∀ (k : Nat) (hk : k < (items.take i).length),
      (child.accepts (items.take i)[k] && (items.take i)[k].same v) = true ↔ k < i ∧ ∃ u, items[k]? = some u ∧
        child.failures u (path.index k) = [] ∧ u.same v = true := by
    intro k hk
    obtain ⟨hi, hitems⟩ := Nat.lt_min.1 (List.length_take ▸ hk)
    simp [accepts_iff (path.index k), List.getElem?_eq_getElem hitems, hi]
  rw [firstEqual?, List.findIdx?_eq_some_iff_getElem]
  constructor
  · rintro ⟨hj, hfound, hleast⟩
    refine ⟨(hat j hj).1 hfound, fun k hk => Nat.le_of_not_lt fun hlt => ?_⟩
    exact hleast k hlt ((hat k (Nat.lt_trans hlt hj)).2 hk)
  · rintro ⟨hj, hleast⟩
    have hlength : j < (items.take i).length := by
      obtain ⟨hi, u, hu, -⟩ := hj
      exact List.length_take ▸ Nat.lt_min.2 ⟨hi, (List.getElem?_eq_some_iff.1 hu).1⟩
    refine ⟨hlength, (hat j hlength).2 hj, fun k hlt hk => ?_⟩
    exact Nat.not_le_of_lt hlt (hleast ((hat k (Nat.lt_trans hlt hlength)).1 hk))

/-! ## The scan -/

/-- Among the items that were seen, the first to equal a value is the first of all the items before. -/
def FindsFirst (child : Node) (before : List Json) (seen : List (Nat × Json)) : Prop :=
  ∀ v, (seen.find? fun e => e.2.same v).map (·.1) = child.firstEqual? before v

variable {before : List Json} {seen : List (Nat × Json)}

namespace FindsFirst

theorem nil (child : Node) : child.FindsFirst [] [] := fun _ => rfl

theorem refused (h : child.FindsFirst before seen) (hu : child.accepts u = false) :
    child.FindsFirst (before ++ [u]) seen := by
  intro v
  rw [firstEqual?_append_of_refused hu, h]

theorem repeated (h : child.FindsFirst before seen) (hu : child.firstEqual? before u = some i) :
    child.FindsFirst (before ++ [u]) seen := by
  intro v
  rw [firstEqual?_append_of_repeated hu, h]

theorem push (h : child.FindsFirst before seen) (hu : child.accepts u = true) :
    child.FindsFirst (before ++ [u]) (seen ++ [(before.length, u)]) := by
  intro v
  rw [firstEqual?_append, hu, Bool.true_and, ← h, List.find?_append, Option.map_or]
  congr 1
  by_cases hs : u.same v = true <;> simp [hs]

end FindsFirst

/-- What is reported of `v`, the item at position `i`: what the child reports or, in unique mode, the first
of the items before it that it repeats. -/
def itemReport (mode : ArrayMode) (child : Node) (path : Path) (items : List Json) (i : Nat) (v : Json) :
    Failures :=
  match child.failures v (path.index i) with
  | f :: fs => f :: fs
  | [] =>
    if mode = .unique then
      match child.firstEqual? (items.take i) v with
      | some j => [⟨path.index i, .duplicateOf (path.index j), none⟩]
      | none => []
    else []

/-- One step of the scan: the item is reported, and what is seen then finds the first among one item more. -/
theorem itemFailures_step {mode : ArrayMode} (h : mode = .unique → child.FindsFirst before seen)
    (path : Path) (v : Json) (vs : List Json) :
    ∃ seen', (mode = .unique → child.FindsFirst (before ++ [v]) seen') ∧
      ArrayRule.itemFailures mode child.failures path before.length seen (v :: vs) =
        itemReport mode child path (before ++ v :: vs) before.length v
          ++ ArrayRule.itemFailures mode child.failures path (before.length + 1) seen' vs := by
  have haccepts := @accepts_iff child v (path.index before.length)
  rw [ArrayRule.itemFailures, itemReport, List.take_left]
  cases hv : child.failures v (path.index before.length) with
  | cons f fs =>
    have hrefused : child.accepts v = false := by simpa [hv] using haccepts
    exact ⟨seen, fun hmode => (h hmode).refused hrefused, rfl⟩
  | nil =>
    have haccepted : child.accepts v = true := by simpa [hv] using haccepts
    cases mode with
    | duplicates => exact ⟨seen, fun hmode => absurd hmode (by decide), rfl⟩
    | unique =>
      have hfirst := h rfl v
      cases hfind : seen.find? fun e => e.2.same v with
      | none =>
        rw [hfind] at hfirst
        exact ⟨_, fun _ => (h rfl).push haccepted, by rw [← hfirst]; rfl⟩
      | some e =>
        rw [hfind] at hfirst
        exact ⟨seen, fun _ => (h rfl).repeated hfirst.symm, by rw [← hfirst]; rfl⟩

/-- The scan reports each item as it is to be reported among all the items. -/
theorem itemFailures_eq (mode : ArrayMode) (child : Node) (path : Path) (items : List Json) :
    ∀ before seen, (mode = .unique → child.FindsFirst before seen) →
      ArrayRule.itemFailures mode child.failures path before.length seen items =
        (items.zipIdx before.length).flatMap fun e =>
          itemReport mode child path (before ++ items) e.2 e.1 := by
  induction items with
  | nil => intro before seen _; rfl
  | cons v vs ih =>
    intro before seen h
    obtain ⟨seen', hseen', hstep⟩ := itemFailures_step h path v vs
    have hrest := ih (before ++ [v]) seen' hseen'
    rw [List.length_append, List.length_singleton, ← List.append_cons] at hrest
    rw [hstep, hrest, List.zipIdx_cons, List.flatMap_cons]

theorem countFailures_eq (rule : ArrayRule) (count : Nat) (path : Path) :
    rule.countFailures count path =
      (if rule.minimum.any (count < ·) then [⟨path, .belowMinimum, none⟩] else [])
        ++ (if rule.maximum.any (· < count) then [⟨path, .aboveMaximum, none⟩] else []) := by
  rw [ArrayRule.countFailures]
  cases rule.minimum <;> cases rule.maximum <;> simp

/-- **What the check of a list reports**: item by item, what the child reports of it or else, in unique mode,
that it repeats the first accepted item that it equals; then that there are too few items, or too many. -/
theorem failures_list (rule : ArrayRule) (child : Node) (items : List Json) (path : Path) :
    (array rule child).failures (.array items) path =
        (items.zipIdx.flatMap fun e => itemReport rule.mode child path items e.2 e.1)
          ++ (if rule.minimum.any (items.length < ·) then [⟨path, .belowMinimum, none⟩] else [])
          ++ (if rule.maximum.any (· < items.length) then [⟨path, .aboveMaximum, none⟩] else []) ∧
      (∀ i v j, child.firstEqual? (items.take i) v = some j ↔ IsLeast {j | j < i ∧ ∃ u,
        items[j]? = some u ∧ child.failures u (path.index j) = [] ∧ u.same v = true} j) ∧
      ∀ first, (Reason.duplicateOf first).text = "duplicate of " ++ first.text := by
  refine ⟨?_, fun _ _ _ => firstEqual?_eq_some_iff path, fun _ => rfl⟩
  have hitems := itemFailures_eq rule.mode child path items [] [] fun _ => .nil child
  change ArrayRule.itemFailures rule.mode child.failures path 0 [] items ++ rule.countFailures _ path = _
  rw [countFailures_eq, List.append_assoc]
  exact congrArg (· ++ _) hitems

/-- A third item that repeats names the first like the second does, and what is refused is no first. -/
example :
    (array ⟨.plain, .unique, none, some 3⟩ (leaf (.bare .int))).failures
        (.array [.string "x", .number (.int 1), .string "x", .number (.int 1), .number (.int 1)]) .root =
      [⟨Path.root.index 0, .notAnInteger, some "\"x\""⟩, ⟨Path.root.index 2, .notAnInteger, some "\"x\""⟩,
        ⟨Path.root.index 3, .duplicateOf (Path.root.index 1), none⟩,
        ⟨Path.root.index 4, .duplicateOf (Path.root.index 1), none⟩, ⟨.root, .aboveMaximum, none⟩] := by rfl

end Node

end RecordSchema
