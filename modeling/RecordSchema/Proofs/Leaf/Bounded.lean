/-
Where the bounds of a leaf come from: the last value given for each, in the
fragment that the leaf is compiled from or in a call that has succeeded since.

`Bounded lo hi l` follows a leaf along its history with these two values, and
what the leaf has for bounds is what its kind reads from them (`Bounded.bound?_eq`).
For the integers of JSON nothing is lost on the way there and back, up to both
ends of their range: they bound, are compared and are exported as they are.
-/
import RecordSchema.Proofs.Leaf.Allowed
import RecordSchema.Proofs.Leaf.Constraints
import RecordSchema.Proofs.Leaf.Export
import RecordSchema.Proofs.Leaf.Integer

namespace RecordSchema

namespace Leaf

/-- What a call gives for the minimum. -/
def Call.minimum? : Call → Option Json
  | bounds minimum _ => minimum
  | _ => none

/-- What a call gives for the maximum. -/
def Call.maximum? : Call → Option Json
  | bounds _ maximum => maximum
  | _ => none

/-- A leaf, and the values that were last given for its minimum and its maximum, if any were. What a refused
call gives does not count, as it leaves the leaf as it was. -/
inductive Bounded : Option Json → Option Json → Leaf → Prop where
  | named {name l} (h : ofKindName name = .ok l) : Bounded none none l
  | compiled {m : Members Json} {l} (hm : (Json.object m).WellFormed) (h : ofMembers m = .ok l) :
      Bounded (directive? m "__minimum__") (directive? m "__maximum__") l
  | call {lo hi l l' c} (h : Bounded lo hi l) (hc : Call.WellFormed c) (hr : c.run l = .ok l') :
      Bounded (c.minimum?.or lo) (c.maximum?.or hi) l'
  | special {lo hi l name value a} (h : Bounded lo hi l) (hs : l.annotations.setSpecial name value = .ok a) :
      Bounded lo hi { l with annotations := a }

variable {l l' : Leaf} {kind : Kind} {c : Call} {lo hi : Option Json}

theorem Bounded.reached (h : Bounded lo hi l) : l.Reached := by
  induction h with
  | named h => exact .built (.named h)
  | compiled hm h => exact .built (.compiled hm h)
  | call _ hc hr ih => exact after_of_run_eq_ok hr ▸ .call ih hc
  | special _ hs ih => exact .special ih hs

/-- Every leaf that can be reached has been given such values. -/
theorem Reached.exists_bounded (h : l.Reached) : ∃ lo hi, Bounded lo hi l := by
  induction h with
  | built h =>
    cases h with
    | named h => exact ⟨_, _, .named h⟩
    | @compiled v _ hv h =>
      cases v with
      | object m => exact ⟨_, _, .compiled hv h⟩
      | _ => cases h
  | @call l c _ hc ih =>
    obtain ⟨lo, hi, h⟩ := ih
    cases hr : c.run l with
    | ok l' =>
      rw [after_of_run_eq_ok hr]
      exact ⟨_, _, .call h hc hr⟩
    | error e =>
      rw [after_of_run_eq_error hr]
      exact ⟨lo, hi, h⟩
  | special _ hs ih =>
    obtain ⟨lo, hi, h⟩ := ih
    exact ⟨lo, hi, .special h hs⟩

/-! ## What is made of the values -/

theorem bound?_or {given old : Option Json} {s t : Option Scalar} (hs : bound? kind given = some s)
    (ht : bound? kind old = some t) : bound? kind (given.or old) = some (s.or t) := by
  cases given with
  | none => cases hs; simpa using ht
  | some v =>
    obtain ⟨r, -, rfl⟩ := Option.map_eq_some_iff.1 hs
    simpa using hs

/-- A call that succeeds keeps the kind, and reads the bounds that it gives over those that were there. -/
theorem run_bounds (h : c.run l = .ok l') : l'.kind = l.kind ∧
    ∃ s t, bound? l.kind c.minimum? = some s ∧ bound? l.kind c.maximum? = some t ∧
      l'.minimum = s.or l.minimum ∧ l'.maximum = t.or l.maximum := by
  cases c with
  | pattern text =>
    rcases setPattern_eq_ok h with rfl | ⟨-, -, p, rfl⟩
    · exact ⟨rfl, none, none, rfl, rfl, rfl, rfl⟩
    · exact ⟨rfl, none, none, rfl, rfl, rfl, rfl⟩
  | options allowed =>
    obtain ⟨-, -, u, us, os, rfl, -, rfl⟩ := setOptions_eq_ok h
    exact ⟨rfl, none, none, rfl, rfl, rfl, rfl⟩
  | bounds minimum maximum =>
    obtain ⟨-, -, s, t, hs, ht, -, rfl⟩ := setBounds_eq_ok_iff.1 h
    exact ⟨rfl, s, t, hs, ht, rfl, rfl⟩

theorem bound?_ofMembers {m : Members Json} (h : ofMembers m = .ok l) :
    bound? l.kind (directive? m "__minimum__") = some l.minimum ∧
      bound? l.kind (directive? m "__maximum__") = some l.maximum := by
  simp only [ofMembers, Except.bind_eq_ok_iff] at h
  obtain ⟨kind, -, -, -, l₁, h₁, l₂, h₂, l₃, h₃, -, -, h⟩ := h
  have hbare₁ : l₁.kind = kind ∧ l₁.minimum = none ∧ l₁.maximum = none := by
    unfold applyPattern at h₁
    split at h₁
    · cases h₁; exact ⟨rfl, rfl, rfl⟩
    · rcases setPattern_eq_ok h₁ with rfl | ⟨-, -, p, rfl⟩
      · exact ⟨rfl, rfl, rfl⟩
      · exact ⟨rfl, rfl, rfl⟩
    · cases h₁
  have hbare₂ : l₂.kind = kind ∧ l₂.minimum = none ∧ l₂.maximum = none := by
    unfold applyOptions at h₂
    split at h₂
    · cases h₂; exact hbare₁
    · obtain ⟨-, -, u, us, os, -, -, rfl⟩ := setOptions_eq_ok h₂
      exact hbare₁
  obtain ⟨rfl, hmin, hmax⟩ := hbare₂
  cases h
  unfold applyBounds at h₃
  split at h₃
  · obtain ⟨-, -, s, t, hs, ht, -, rfl⟩ := setBounds_eq_ok_iff.1 h₃
    simp only [hmin, hmax, Option.or_none]
    exact ⟨hs, ht⟩
  · next hnone =>
    cases h₃
    simp only [Bool.or_eq_true, not_or, Bool.not_eq_true, Option.isSome_eq_false_iff,
      Option.isNone_iff_eq_none] at hnone
    simp only [hnone.1, hnone.2, hmin, hmax]
    exact ⟨rfl, rfl⟩

/-- The bounds of a leaf are what its kind reads from the values last given for them. -/
theorem Bounded.bound?_eq (h : Bounded lo hi l) :
    bound? l.kind lo = some l.minimum ∧ bound? l.kind hi = some l.maximum := by
  induction h with
  | named h =>
    unfold ofKindName at h
    split at h
    · cases h; exact ⟨rfl, rfl⟩
    · cases h
  | compiled hm h => exact bound?_ofMembers h
  | call _ _ hr ih =>
    obtain ⟨hkind, s, t, hs, ht, hmin, hmax⟩ := run_bounds hr
    rw [hkind, hmin, hmax]
    exact ⟨bound?_or hs ih.1, bound?_or ht ih.2⟩
  | special _ _ ih => exact ih

/-! ## Integers -/

variable {n : Int} {a b : Option Int}

/-- Integers are read as they are. -/
theorem eq_of_bound?_integer (hk : kind.isInteger = true) {s : Option Scalar}
    (h : bound? kind (a.map fun n => .number (.int n)) = some s) : s = a.map .int := by
  cases a with
  | none => cases h; rfl
  | some n =>
    obtain ⟨t, ht, rfl⟩ := Option.map_eq_some_iff.1 h
    cases kind with
    | int | timestamp | uint =>
      simp only [Kind.boundScalar?, Kind.numberScalar?, Kind.integer?] at ht
      split at ht
      · cases ht
      · cases ht; rfl
    | _ => cases hk

/-- Integers are compared as they are. -/
theorem checkBounds_int_iff (hk : l.kind ≠ .string) (hmin : l.minimum = a.map .int)
    (hmax : l.maximum = b.map .int) :
    l.checkBounds (.int n) = .ok () ↔ (∀ m, a = some m → m ≤ n) ∧ ∀ m, b = some m → n ≤ m := by
  rw [checkBounds_eq_ok_iff hk, beyond_eq_false_iff, beyond_eq_false_iff, hmin, hmax]
  simp [Scalar.compare?, Int.compare_eq_lt, Int.compare_eq_gt]

/-- An integer that is read as a bound is written as it is. -/
theorem toJson_of_isBound (h : kind.IsBound (.int n)) : (Scalar.int n).toJson = .number (.int n) := by
  have hnull : (Json.ofInt n).isNull = false := Kind.isNull_of_boundScalar? (Kind.boundScalar?_toJson h nofun)
  change Json.ofInt n = _
  unfold Json.ofInt at hnull ⊢
  split
  · rfl
  · next hout =>
    rw [if_neg hout] at hnull
    cases hnull

theorem map_toJson_of_isBound (h : ∀ s, a.map Scalar.int = some s → kind.IsBound s) :
    (a.map Scalar.int).map Scalar.toJson = a.map fun n => .number (.int n) := by
  cases a with
  | none => rfl
  | some n => exact congrArg some (toJson_of_isBound (h _ rfl))

/-- The check of an integer: its sign, then options and bounds. -/
theorem check_integer_eq_ok_iff (hk : l.kind.isInteger = true) :
    l.check (.number (.int n)) = .ok () ↔
      (l.kind.isUnsigned = true → 0 ≤ n) ∧ l.checkScalar (.int n) = .ok () := by
  have hread : l.kind.integer? (.number (.int n)) = some n := rfl
  rw [check_of_isInteger hk (fun _ h => by cases h), hread]
  dsimp only
  split
  · next hneg => simp [hneg]
  · next hneg =>
    rw [not_and, Int.not_lt] at hneg
    exact (and_iff_right hneg).symm

/-- **Bounds given as integers hold exactly**, up to both ends of the ranges of 64 bits with and without a sign: an
integer is accepted if and only if it is between the bounds that were last given and, for the kinds without negative
values, is not negative. It is cleaned to itself, and the bounds are exported as the integers that were given. -/
theorem accepts_integers_between (hl : Bounded (a.map fun n => .number (.int n)) (b.map fun n => .number (.int n)) l)
    (hk : l.kind = .int ∨ l.kind = .uint ∨ l.kind = .timestamp) (ho : a ≠ none ∨ b ≠ none ∨ l.options = none) :
    (∀ n : Int, -2 ^ 63 ≤ n → n ≤ 2 ^ 64 - 1 → ∀ path,
      (l.failures (.number (.int n)) path = [] ↔
        (∀ m, a = some m → m ≤ n) ∧ (∀ m, b = some m → n ≤ m) ∧ (l.kind = .int ∨ 0 ≤ n)) ∧
      l.clean (.number (.int n)) path = .ok (.number (.int n))) ∧
    ∃ m, l.toFragment = .object m ∧ Members.get? m "__minimum__" = (a.map fun n => .number (.int n)) ∧
      Members.get? m "__maximum__" = (b.map fun n => .number (.int n)) := by
  have hinteger : l.kind.isInteger = true := by rcases hk with h | h | h <;> rw [h] <;> rfl
  have hsign : ∀ n : Int, (l.kind.isUnsigned = true → 0 ≤ n) ↔ l.kind = .int ∨ 0 ≤ n := by
    intro n
    rcases hk with h | h | h <;> simp [h, Kind.isUnsigned]
  have hstring : l.kind ≠ .string := by rcases hk with h | h | h <;> rw [h] <;> decide
  have hcoherent := hl.reached.coherent
  have hmin := eq_of_bound?_integer hinteger hl.bound?_eq.1
  have hmax := eq_of_bound?_integer hinteger hl.bound?_eq.2
  have hoptions : l.options = none := by
    rcases ho with ha | hb | ho
    · exact hcoherent.options_eq_none (.inl (by simpa [hmin] using ha))
    · exact hcoherent.options_eq_none (.inr (by simpa [hmax] using hb))
    · exact ho
  refine ⟨fun n hlo hhi path => ⟨?_, ?_⟩, l.members, rfl, ?_, ?_⟩
  · have hscalar : l.checkScalar (.int n) = .ok () ↔
        (∀ m, a = some m → m ≤ n) ∧ ∀ m, b = some m → n ≤ m := by
      rw [checkScalar, hoptions]
      exact checkBounds_int_iff hstring hmin hmax
    rw [failures_eq_nil_iff_check (v := .number (.int n)) (fun h => by cases h), check_integer_eq_ok_iff hinteger,
      hscalar, hsign, and_comm, and_assoc]
  · have hwell : Json.WellFormed (.number (.int n)) := Json.everywhere_number.2
      (show Json.Sound (.number (.int n)) from ⟨hlo, Int.lt_of_le_sub_one hhi⟩)
    exact clean_of_integer? hinteger hwell rfl path
  · rw [get?_members hcoherent.annotations (by decide), (get?_bodyMembers l).2.2.2.1, hmin]
    exact map_toJson_of_isBound fun s hs => (hcoherent.minimum s (hmin.trans hs)).2
  · rw [get?_members hcoherent.annotations (by decide), (get?_bodyMembers l).2.2.2.2, hmax]
    exact map_toJson_of_isBound fun s hs => (hcoherent.maximum s (hmax.trans hs)).2

/-- Bounds at both ends, the greatest integer set over another one: it is accepted, and the one before it is kept
apart from it, though a floating-point number has no room for the two. -/
theorem accepts_integers_between_ends :
    let c : Call := .bounds (some (.number (.int (-2 ^ 63)))) (some (.number (.int 7)))
    let d : Call := .bounds none (some (.number (.int (2 ^ 64 - 2))))
    let l : Leaf := { bare .int with minimum := some (.int (-2 ^ 63)), maximum := some (.int (2 ^ 64 - 2)) }
    runAll (bare .int) [c, d] = .ok l ∧
      l.failures (.number (.int (-2 ^ 63))) .root = [] ∧ l.failures (.number (.int (2 ^ 64 - 2))) .root = [] ∧
      l.failures (.number (.int (2 ^ 64 - 1))) .root ≠ [] := by
  intro c d l
  let m : Leaf := { bare .int with minimum := some (.int (-2 ^ 63)), maximum := some (.int 7) }
  have hc : c.run (bare .int) = .ok m := by rfl
  have hd : d.run m = .ok l := by rfl
  have hnamed : ofKindName "int" = .ok (bare .int) := by rfl
  have hwell : c.WellFormed ∧ d.WellFormed := by
    refine ⟨⟨?_, ?_⟩, ⟨?_, ?_⟩⟩ <;> rintro v ⟨⟩ <;> decide
  have hl : Bounded (some (.number (.int (-2 ^ 63)))) (some (.number (.int (2 ^ 64 - 2)))) l :=
    .call (.call (.named hnamed) hwell.1 hc) hwell.2 hd
  obtain ⟨haccepts, -⟩ := accepts_integers_between (a := some (-2 ^ 63)) (b := some (2 ^ 64 - 2)) hl (.inl rfl)
    (.inl nofun)
  have hends : ∀ n : Int, -2 ^ 63 ≤ n → n ≤ 2 ^ 64 - 1 →
      (l.failures (.number (.int n)) .root = [] ↔ n ≤ 2 ^ 64 - 2) := by
    intro n hlo hhi
    rw [(haccepts n hlo hhi .root).1]
    constructor
    · exact fun h => h.2.1 _ rfl
    · intro h
      exact ⟨by rintro m ⟨⟩; exact hlo, by rintro m ⟨⟩; exact h, .inl rfl⟩
  refine ⟨by rfl, (hends _ (by decide) (by decide)).2 (by decide), (hends _ (by decide) (by decide)).2 (by decide), ?_⟩
  rw [ne_eq, hends _ (by decide) (by decide)]
  decide

end Leaf

end RecordSchema
