/-
Leaves under change: whatever setters are called on a leaf, with whatever
outcome, nothing comes together in it that excludes each other.

A history is a list of calls. Each call is made in place on what the calls
before it have left, and leaves something whether or not it is refused
(`Leaf.after`); that it leaves the old leaf if it is refused is
`Leaf.Call.atomic_change`. The invariant that carries a history is
`Leaf.Coherent`, which says more than `Leaf.Consistent`: that the bounds are
ones of the kind is what makes their order a matter of the values that they
stand for.
-/
import RecordSchema.Proofs.Kind.Order
import RecordSchema.Proofs.Leaf.Coherent

namespace RecordSchema

namespace Leaf

/-- A call of one of the setters. -/
inductive Call where
  | pattern (text : String)
  | options (allowed : Json)
  | bounds (minimum maximum : Option Json)

/-- What the call does to a leaf in place. -/
def Call.change : Call → Change Leaf Unit
  | pattern text => assignPattern text
  | options allowed => assignOptions allowed
  | bounds minimum maximum => assignBounds minimum maximum

/-- What the call makes of a leaf, or why it is refused. -/
def Call.run (l : Leaf) : Call → Except BuildError Leaf
  | pattern text => l.setPattern text
  | options allowed => l.setOptions allowed
  | bounds minimum maximum => l.setBounds minimum maximum

/-- The call is made with values of JSON. -/
def Call.WellFormed : Call → Prop
  | pattern _ => True
  | options allowed => allowed.WellFormed
  | bounds minimum maximum =>
    (∀ v, minimum = some v → v.WellFormed) ∧ ∀ v, maximum = some v → v.WellFormed

/-- The leaf that a call leaves behind, refused or not. -/
def after (l : Leaf) (c : Call) : Leaf := (c.change.perform l).1

/-- The leaf that calls leave behind, one made after the other. -/
def afterAll (l : Leaf) (cs : List Call) : Leaf := cs.foldl after l

/-- A leaf of a kind's name or of a fragment. -/
inductive Built : Leaf → Prop where
  | named {name l} (h : ofKindName name = .ok l) : Built l
  | compiled {v : Json} {l} (hv : v.WellFormed) (h : ofFragment v = .ok l) : Built l

/-- Nothing in a leaf excludes anything else in it. -/
structure Consistent (l : Leaf) : Prop where
  pattern : l.pattern.isSome = true → l.kind = .string
  options : ∀ os, l.options = some os → l.kind.supportsOptions = true ∧ os ≠ [] ∧
    (os.Pairwise fun s t => s.same t = false) ∧ l.pattern = none ∧ l.minimum = none ∧ l.maximum = none
  minimum : l.minimum.isSome = true → l.kind.supportsBounds = true
  maximum : l.maximum.isSome = true → l.kind.supportsBounds = true
  ordered : l.kind ≠ .float → ∀ lo hi, l.minimum = some lo → l.maximum = some hi → l.kind.AtMost lo hi

variable {l l' : Leaf} {c : Call} {cs : List Call}

theorem Coherent.consistent (h : l.Coherent) : l.Consistent where
  pattern := h.pattern
  options os hos := by
    obtain ⟨hk, hconflict, hne, hpair, -⟩ := h.options os hos
    exact ⟨hk, hne, hpair, optionsConflict?_eq_none_iff.1 hconflict⟩
  minimum hmin := by
    obtain ⟨lo, hlo⟩ := Option.isSome_iff_exists.1 hmin
    exact (h.minimum lo hlo).1
  maximum hmax := by
    obtain ⟨hi, hhi⟩ := Option.isSome_iff_exists.1 hmax
    exact (h.maximum hi hhi).1
  ordered hk lo hi hlo hhi := by
    have hinv := h.ordered
    rw [hlo, hhi] at hinv
    exact Kind.atMost_of_inverted hk (h.minimum lo hlo).2 (h.maximum hi hhi).2 hinv

theorem Built.coherent (h : l.Built) : l.Coherent := by
  cases h with
  | named h => exact coherent_ofKindName h
  | @compiled v _ hv h =>
    cases v with
    | object m => exact coherent_ofMembers hv.nodup_keys hv.member h
    | _ => cases h

/-! ## Calls -/

theorem Call.run_eq_changed (l : Leaf) (c : Call) : c.run l = c.change.changed l := by cases c <;> rfl

theorem Call.atomic_change (c : Call) : c.change.Atomic := by
  cases c with
  | pattern text => exact atomic_assignPattern text
  | options allowed => exact atomic_assignOptions allowed
  | bounds minimum maximum => exact atomic_assignBounds minimum maximum

theorem after_of_run_eq_ok (h : c.run l = .ok l') : l.after c = l' := by
  rw [c.run_eq_changed] at h
  rw [after, Change.perform_of_changed_eq_ok h]

theorem after_of_run_eq_error {e : BuildError} (h : c.run l = .error e) : l.after c = l := by
  rw [c.run_eq_changed] at h
  exact c.atomic_change.of_changed_eq_error h

theorem Coherent.run (h : l.Coherent) (hc : c.WellFormed) (hr : c.run l = .ok l') : l'.Coherent := by
  cases c with
  | pattern text => exact h.setPattern hr
  | options allowed => exact h.setOptions hc hr
  | bounds minimum maximum => exact h.setBounds hc.1 hc.2 hr

theorem Coherent.after (h : l.Coherent) (hc : c.WellFormed) : (l.after c).Coherent := by
  cases hr : c.run l with
  | ok l' => exact after_of_run_eq_ok hr ▸ h.run hc hr
  | error e => exact (after_of_run_eq_error hr).symm ▸ h

theorem Coherent.afterAll (h : l.Coherent) (hc : ∀ c ∈ cs, c.WellFormed) : (l.afterAll cs).Coherent := by
  induction cs generalizing l with
  | nil => exact h
  | cons c cs ih =>
    rw [List.forall_mem_cons] at hc
    exact ih (h.after hc.1) hc.2

/-- **No history of calls makes a leaf inconsistent**, and a call that is refused in its course leaves the
leaf exactly as it was. -/
theorem consistent_afterAll (hl : l.Built) (hc : ∀ c ∈ cs, c.WellFormed) :
    (l.afterAll cs).Consistent ∧
      ∀ c e, c.run (l.afterAll cs) = .error e → l.afterAll (cs ++ [c]) = l.afterAll cs := by
  refine ⟨(hl.coherent.afterAll hc).consistent, fun c e he => ?_⟩
  rw [afterAll, List.foldl_append]
  exact after_of_run_eq_error he

/-- A maximum below the minimum that an earlier call has set is refused. -/
theorem consistent_afterAll_bounds :
    let cs : List Call := [.bounds (some (.number (.int 5))) none, .options (.array [.number (.int 7)])]
    let c : Call := .bounds none (some (.number (.int 3)))
    let e : BuildError := .invalidDirective "__maximum__" "must not be less than __minimum__"
    ofKindName "uint" = .ok (bare .uint) ∧ ((bare .uint).afterAll cs).Consistent ∧
      c.run ((bare .uint).afterAll cs) = .error e ∧
        (bare .uint).afterAll (cs ++ [c]) = (bare .uint).afterAll cs := by
  intro cs c e
  have hl : ofKindName "uint" = .ok (bare .uint) := by rfl
  have hcs : ∀ c ∈ cs, c.WellFormed := by
    simp only [cs, List.forall_mem_cons, List.not_mem_nil, false_implies, implies_true, and_true]
    exact ⟨⟨by rintro v ⟨⟩; decide, nofun⟩, by rw [Call.WellFormed]; decide⟩
  have hc : c.run ((bare .uint).afterAll cs) = .error e := by rfl
  obtain ⟨hconsistent, hrefused⟩ := consistent_afterAll (.named hl) hcs
  exact ⟨hl, hconsistent, hc, hrefused c e hc⟩

end Leaf

end RecordSchema
