/-
What calls of the setters say of a leaf, whatever leaf they are made on.

`Call.read?` is the part of a leaf that a call fills in. A call adds its part
to what is there, unless the two are not in harmony (`Call.run_leaf_iff`). So
calls that fill in different parts can be read in any order, and a run of them
on a bare leaf succeeds exactly when each can be read and what they say
together is in harmony (`runAll_bare_iff`).
-/
import RecordSchema.Proofs.Leaf.Calls

namespace RecordSchema

/-- What a leaf holds besides its kind and its annotations. -/
structure Constraints where
  pattern : Option Pattern
  options : Option (List Scalar)
  minimum : Option Scalar
  maximum : Option Scalar

namespace Constraints

/-- Nothing held. -/
def nothing : Constraints := ⟨none, none, none, none⟩

def ofPattern (p : Pattern) : Constraints := ⟨some p, none, none, none⟩

def ofOptions (os : List Scalar) : Constraints := ⟨none, some os, none, none⟩

def ofBounds (lo hi : Option Scalar) : Constraints := ⟨none, none, lo, hi⟩

/-- The parts that the first holds, and those that only the second holds. -/
def or (a b : Constraints) : Constraints :=
  ⟨a.pattern.or b.pattern, a.options.or b.options, a.minimum.or b.minimum, a.maximum.or b.maximum⟩

/-- No part is held by both. -/
structure Disjoint (a b : Constraints) : Prop where
  pattern : a.pattern = none ∨ b.pattern = none
  options : a.options = none ∨ b.options = none
  minimum : a.minimum = none ∨ b.minimum = none
  maximum : a.maximum = none ∨ b.maximum = none

/-- Each part that the first holds is held by the second, if perhaps with another value. -/
structure Within (a b : Constraints) : Prop where
  pattern : a.pattern.isSome = true → b.pattern.isSome = true
  options : a.options.isSome = true → b.options.isSome = true
  minimum : a.minimum.isSome = true → b.minimum.isSome = true
  maximum : a.maximum.isSome = true → b.maximum.isSome = true

/-- Allowed values stand alone, and the minimum is not above the maximum. -/
structure Harmonious (kind : Kind) (c : Constraints) : Prop where
  options : c.options.isSome = true → c.pattern = none ∧ c.minimum = none ∧ c.maximum = none
  ordered : Leaf.inverted kind c.minimum c.maximum = false

/-- The leaf of a kind that holds the constraints and no annotations. -/
def leaf (kind : Kind) (c : Constraints) : Leaf := ⟨.plain, kind, c.pattern, c.options, c.minimum, c.maximum⟩

variable {a b c : Constraints} {kind : Kind}

@[simp] theorem or_nothing : a.or nothing = a := by simp [or, nothing]

@[simp] theorem nothing_or : nothing.or a = a := by simp [or, nothing]

theorem or_assoc (a b c : Constraints) : (a.or b).or c = a.or (b.or c) := by simp [or, Option.or_assoc]

theorem Disjoint.symm (h : a.Disjoint b) : b.Disjoint a :=
  ⟨h.pattern.symm, h.options.symm, h.minimum.symm, h.maximum.symm⟩

theorem Disjoint.or_comm (h : a.Disjoint b) : a.or b = b.or a := by
  have comm : ∀ {α : Type} {o p : Option α}, o = none ∨ p = none → o.or p = p.or o := by
    rintro α o p (rfl | rfl) <;> simp
  simp only [or, comm h.pattern, comm h.options, comm h.minimum, comm h.maximum]

theorem disjoint_nothing : a.Disjoint nothing := ⟨.inr rfl, .inr rfl, .inr rfl, .inr rfl⟩

theorem Disjoint.or (hb : a.Disjoint b) (hc : a.Disjoint c) : a.Disjoint (b.or c) := by
  have both : ∀ {α : Type} {o p q : Option α}, o = none ∨ p = none → o = none ∨ q = none →
      o = none ∨ p.or q = none := by
    rintro α o p q (rfl | rfl) hq
    · exact .inl rfl
    · simpa using hq
  exact ⟨both hb.pattern hc.pattern, both hb.options hc.options, both hb.minimum hc.minimum,
    both hb.maximum hc.maximum⟩

theorem Within.trans (h : a.Within b) (h' : b.Within c) : a.Within c :=
  ⟨h'.pattern ∘ h.pattern, h'.options ∘ h.options, h'.minimum ∘ h.minimum, h'.maximum ∘ h.maximum⟩

theorem within_or_left : a.Within (a.or b) := by constructor <;> simp +contextual [or]

theorem within_or_right : b.Within (a.or b) := by constructor <;> simp +contextual [or]

/-! ## Harmony -/

theorem harmonious_nothing : nothing.Harmonious kind := ⟨nofun, rfl⟩

/-- A part of what is in harmony is in harmony. -/
theorem Harmonious.of_or (h : (a.or b).Harmonious kind) (hd : a.Disjoint b) : b.Harmonious kind := by
  refine ⟨fun ho => ?_, ?_⟩
  · obtain ⟨hp, hlo, hhi⟩ := h.options (within_or_right.options ho)
    exact ⟨(Option.or_eq_none_iff.1 hp).2, (Option.or_eq_none_iff.1 hlo).2, (Option.or_eq_none_iff.1 hhi).2⟩
  · have hord := h.ordered
    obtain ⟨pattern, options, lo, hi⟩ := b
    cases lo with
    | none => rfl
    | some lo =>
      cases hi with
      | none => rfl
      | some hi =>
        have hlo : a.minimum = none := by simpa using hd.minimum
        have hhi : a.maximum = none := by simpa using hd.maximum
        simpa [or, hlo, hhi] using hord

theorem harmonious_ofPattern_or {p : Pattern} (h : a.Harmonious kind) :
    ((ofPattern p).or a).Harmonious kind ↔ a.options = none := by
  constructor
  · intro hh
    by_contra ho
    have hp := (hh.options (within_or_right.options (Option.isSome_iff_ne_none.2 ho))).1
    cases hp
  · intro ho
    exact ⟨by simp [or, ofPattern, ho], h.ordered⟩

theorem harmonious_ofOptions_or {os : List Scalar} :
    ((ofOptions os).or a).Harmonious kind ↔ a.pattern = none ∧ a.minimum = none ∧ a.maximum = none := by
  constructor
  · intro hh
    exact hh.options rfl
  · rintro ⟨hp, hlo, hhi⟩
    exact ⟨fun _ => ⟨hp, hlo, hhi⟩, by simp [or, ofOptions, hlo, Leaf.inverted]⟩

theorem harmonious_ofBounds_or {lo hi : Option Scalar} (h : lo.isSome = true ∨ hi.isSome = true) :
    ((ofBounds lo hi).or a).Harmonious kind ↔
      a.options = none ∧ Leaf.inverted kind (lo.or a.minimum) (hi.or a.maximum) = false := by
  constructor
  · intro hh
    refine ⟨?_, hh.ordered⟩
    by_contra ho
    obtain ⟨-, hlo, hhi⟩ := hh.options (within_or_right.options (Option.isSome_iff_ne_none.2 ho))
    obtain ⟨rfl, -⟩ := Option.or_eq_none_iff.1 hlo
    obtain ⟨rfl, -⟩ := Option.or_eq_none_iff.1 hhi
    simp at h
  · rintro ⟨ho, hord⟩
    exact ⟨by simp [or, ofBounds, ho], hord⟩

end Constraints

/-! ## What calls say -/

namespace Leaf

/-- The scalars of a list of allowed values. -/
def allowed? (kind : Kind) : Json → Option (List Scalar)
  | .array (v :: vs) => (optionScalars kind 0 [] (v :: vs)).toOption
  | _ => none

/-- The bound that may be given, if what is given is one. -/
def bound? (kind : Kind) : Option Json → Option (Option Scalar)
  | none => some none
  | some v => (kind.boundScalar? v).map some

/-- What a call says of a leaf of a kind, if the kind can be said that of. -/
def Call.read? (kind : Kind) : Call → Option Constraints
  | pattern text => if kind = .string then (Pattern.ofText? text).map .ofPattern else some .nothing
  | options allowed => if kind.supportsOptions then (allowed? kind allowed).map .ofOptions else none
  | bounds minimum maximum =>
    if kind.supportsBounds then
      (bound? kind minimum).bind fun lo => (bound? kind maximum).map fun hi => .ofBounds lo hi
    else none

/-- The call sets something. -/
def Call.Says : Call → Prop
  | bounds none none => False
  | _ => True

variable {l l' : Leaf} {kind : Kind} {r : Constraints}

theorem setPattern_eq_ok_iff {text : String} (hk : l.kind = .string) :
    l.setPattern text = .ok l' ↔
      l.options = none ∧ ∃ p, Pattern.ofText? text = some p ∧ l' = { l with pattern := some p } := by
  rw [setPattern, Change.changed, perform_assignPattern, Change.outcome_settle, if_neg (not_not.2 hk)]
  split
  · next ho => simp [Option.isSome_iff_ne_none.1 ho]
  · next ho =>
    have ho : l.options = none := by simpa using ho
    split
    · next p hp => simp [ho, hp, eq_comm]
    · next hp => simp [hp]

theorem setOptions_eq_ok_iff {v : Json} :
    l.setOptions v = .ok l' ↔ l.kind.supportsOptions = true ∧ l.optionsConflict? = none ∧
      ∃ os, allowed? l.kind v = some os ∧ l' = { l with options := some os } := by
  constructor
  · intro h
    obtain ⟨hk, hconflict, u, us, os, rfl, hos, rfl⟩ := setOptions_eq_ok h
    exact ⟨hk, hconflict, os, by rw [allowed?, hos]; rfl, rfl⟩
  · rintro ⟨hk, hconflict, os, hos, rfl⟩
    unfold allowed? at hos
    split at hos
    · next u us =>
      cases hscalars : optionScalars l.kind 0 [] (u :: us) with
      | error e => rw [hscalars] at hos; cases hos
      | ok os' =>
        rw [hscalars] at hos
        cases hos
        simp [setOptions, Change.changed, perform_assignOptions, hk, hconflict, hscalars]
    · cases hos

theorem boundOr_eq_ok_iff {directive : String} {given : Option Json} {old new : Option Scalar} :
    boundOr kind directive given old = .ok new ↔ ∃ s, bound? kind given = some s ∧ new = s.or old := by
  cases given with
  | none => simp [boundOr, bound?, eq_comm]
  | some v => cases hs : kind.boundScalar? v <;> simp [boundOr, bound?, hs, eq_comm]

theorem setBounds_eq_ok_iff {minimum maximum : Option Json} :
    l.setBounds minimum maximum = .ok l' ↔ l.kind.supportsBounds = true ∧ l.options = none ∧
      ∃ lo hi, bound? l.kind minimum = some lo ∧ bound? l.kind maximum = some hi ∧
        inverted l.kind (lo.or l.minimum) (hi.or l.maximum) = false ∧
          l' = { l with minimum := lo.or l.minimum, maximum := hi.or l.maximum } := by
  constructor
  · intro h
    obtain ⟨hk, ho, _, _, hmin, hmax, hinv, rfl⟩ := setBounds_eq_ok h
    obtain ⟨lo, hlo, rfl⟩ := boundOr_eq_ok_iff.1 hmin
    obtain ⟨hi, hhi, rfl⟩ := boundOr_eq_ok_iff.1 hmax
    exact ⟨hk, ho, lo, hi, hlo, hhi, hinv, rfl⟩
  · rintro ⟨hk, ho, lo, hi, hlo, hhi, hinv, rfl⟩
    have hmin : boundOr l.kind "__minimum__" minimum l.minimum = .ok (lo.or l.minimum) :=
      boundOr_eq_ok_iff.2 ⟨lo, hlo, rfl⟩
    have hmax : boundOr l.kind "__maximum__" maximum l.maximum = .ok (hi.or l.maximum) :=
      boundOr_eq_ok_iff.2 ⟨hi, hhi, rfl⟩
    simp [setBounds, Change.changed, perform_assignBounds, hk, ho, hmin, hmax, hinv]

theorem bound?_isSome {v : Json} {s : Option Scalar} (h : bound? kind (some v) = some s) : s.isSome = true := by
  obtain ⟨s, -, rfl⟩ := Option.map_eq_some_iff.1 h
  rfl

namespace Call

variable {a : Constraints} {text : String} {allowed : Json} {minimum maximum : Option Json}

theorem of_read?_pattern (h : (pattern text).read? kind = some a) : ∃ p, a = ⟨p, none, none, none⟩ := by
  simp only [read?] at h
  split at h
  · obtain ⟨p, -, rfl⟩ := Option.map_eq_some_iff.1 h
    exact ⟨some p, rfl⟩
  · cases h
    exact ⟨none, rfl⟩

theorem read?_options_eq_some_iff : (options allowed).read? kind = some a ↔
    kind.supportsOptions = true ∧ ∃ os, allowed? kind allowed = some os ∧ .ofOptions os = a := by
  simp only [read?, Option.ite_none_right_eq_some, Option.map_eq_some_iff]

theorem read?_bounds_eq_some_iff : (bounds minimum maximum).read? kind = some a ↔
    kind.supportsBounds = true ∧ ∃ lo, bound? kind minimum = some lo ∧ ∃ hi, bound? kind maximum = some hi ∧
      .ofBounds lo hi = a := by
  simp only [read?, Option.ite_none_right_eq_some, Option.bind_eq_some_iff, Option.map_eq_some_iff]

end Call

/-- A call that sets something adds what it says to what is there, unless the two are not in harmony. -/
theorem Call.run_leaf_iff {c : Call} (hr : r.Harmonious kind) (hc : c.Says) :
    c.run (r.leaf kind) = .ok l ↔
      ∃ a, c.read? kind = some a ∧ (a.or r).Harmonious kind ∧ l = (a.or r).leaf kind := by
  cases c with
  | pattern text =>
    by_cases hk : kind = .string
    · have hset : (r.leaf kind).setPattern text = .ok l ↔ r.options = none ∧
          ∃ p, Pattern.ofText? text = some p ∧ l = ((Constraints.ofPattern p).or r).leaf kind :=
        setPattern_eq_ok_iff hk
      simp only [Call.run, hset, Call.read?, if_pos hk, Option.map_eq_some_iff, exists_exists_and_eq_and,
        Constraints.harmonious_ofPattern_or hr]
      constructor
      · rintro ⟨ho, p, hp, hl⟩
        exact ⟨p, hp, ho, hl⟩
      · rintro ⟨p, hp, ho, hl⟩
        exact ⟨ho, p, hp, hl⟩
    · have hset : (r.leaf kind).setPattern text = .ok (r.leaf kind) := by
        have hkind : (r.leaf kind).kind ≠ .string := hk
        rw [setPattern, Change.changed, perform_assignPattern, Change.outcome_settle, if_pos hkind]
      simp [Call.run, hset, Call.read?, hk, hr, eq_comm]
  | options allowed =>
    simp only [Call.run, setOptions_eq_ok_iff, optionsConflict?_eq_none_iff, Call.read?_options_eq_some_iff]
    constructor
    · rintro ⟨hk, hnone, os, hos, rfl⟩
      exact ⟨_, ⟨hk, os, hos, rfl⟩, Constraints.harmonious_ofOptions_or.2 hnone, rfl⟩
    · rintro ⟨_, ⟨hk, os, hos, rfl⟩, hh, rfl⟩
      exact ⟨hk, Constraints.harmonious_ofOptions_or.1 hh, os, hos, rfl⟩
  | bounds minimum maximum =>
    have hsome : ∀ {lo hi}, bound? kind minimum = some lo → bound? kind maximum = some hi →
        lo.isSome = true ∨ hi.isSome = true := by
      intro lo hi hlo hhi
      cases minimum with
      | some v => exact .inl (bound?_isSome hlo)
      | none =>
        cases maximum with
        | some w => exact .inr (bound?_isSome hhi)
        | none => exact hc.elim
    simp only [Call.run, setBounds_eq_ok_iff, Call.read?_bounds_eq_some_iff]
    constructor
    · rintro ⟨hk, ho, lo, hi, hlo, hhi, hord, rfl⟩
      exact ⟨_, ⟨hk, lo, hlo, hi, hhi, rfl⟩,
        (Constraints.harmonious_ofBounds_or (hsome hlo hhi)).2 ⟨ho, hord⟩, rfl⟩
    · rintro ⟨_, ⟨hk, lo, hlo, hi, hhi, rfl⟩, hh, rfl⟩
      obtain ⟨ho, hord⟩ := (Constraints.harmonious_ofBounds_or (hsome hlo hhi)).1 hh
      exact ⟨hk, ho, lo, hi, hlo, hhi, hord, rfl⟩

/-! ## Runs of calls -/

/-- The leaf that calls make, each on what the one before it has made, if none is refused. -/
def runAll (l : Leaf) (cs : List Call) : Except BuildError Leaf := cs.foldlM Call.run l

/-- What calls say after what has been said, a later call over an earlier one. -/
def Call.say (kind : Kind) (said : Option Constraints) (c : Call) : Option Constraints :=
  said.bind fun r => (c.read? kind).map (·.or r)

/-- What calls say together. -/
def readAll? (kind : Kind) (cs : List Call) : Option Constraints := cs.foldl (Call.say kind) (some .nothing)

/-- The calls say different things. -/
def Call.Apart (kind : Kind) (c d : Call) : Prop :=
  ∀ a b, c.read? kind = some a → d.read? kind = some b → a.Disjoint b

instance Call.apart_symm : Std.Symm (Call.Apart kind) :=
  ⟨fun _ _ h a b ha hb => (h b a hb ha).symm⟩

section

variable {text : String} {allowed v w : Json} {minimum maximum : Option Json}

theorem apart_pattern_options : Call.Apart kind (.pattern text) (.options allowed) := by
  intro a b ha hb
  obtain ⟨p, rfl⟩ := Call.of_read?_pattern ha
  obtain ⟨-, os, -, rfl⟩ := Call.read?_options_eq_some_iff.1 hb
  exact ⟨.inr rfl, .inl rfl, .inl rfl, .inl rfl⟩

theorem apart_pattern_bounds : Call.Apart kind (.pattern text) (.bounds minimum maximum) := by
  intro a b ha hb
  obtain ⟨p, rfl⟩ := Call.of_read?_pattern ha
  obtain ⟨-, lo, -, hi, -, rfl⟩ := Call.read?_bounds_eq_some_iff.1 hb
  exact ⟨.inr rfl, .inl rfl, .inl rfl, .inl rfl⟩

theorem apart_options_bounds : Call.Apart kind (.options allowed) (.bounds minimum maximum) := by
  intro a b ha hb
  obtain ⟨-, os, -, rfl⟩ := Call.read?_options_eq_some_iff.1 ha
  obtain ⟨-, lo, -, hi, -, rfl⟩ := Call.read?_bounds_eq_some_iff.1 hb
  exact ⟨.inl rfl, .inr rfl, .inl rfl, .inl rfl⟩

theorem apart_minimum_maximum : Call.Apart kind (.bounds (some v) none) (.bounds none (some w)) := by
  intro a b ha hb
  obtain ⟨-, lo, -, _, ⟨⟩, rfl⟩ := Call.read?_bounds_eq_some_iff.1 ha
  obtain ⟨-, _, ⟨⟩, hi, -, rfl⟩ := Call.read?_bounds_eq_some_iff.1 hb
  exact ⟨.inl rfl, .inl rfl, .inr rfl, .inl rfl⟩

/-- Bounds say the same together as one by one. -/
theorem say_bounds (said : Option Constraints) :
    Call.say kind (Call.say kind said (.bounds (some v) none)) (.bounds none (some w)) =
      Call.say kind said (.bounds (some v) (some w)) := by
  cases said with
  | none => rfl
  | some r =>
    cases hk : kind.supportsBounds <;> cases hlo : kind.boundScalar? v <;> cases hhi : kind.boundScalar? w <;>
      simp [Call.say, Call.read?, bound?, hk, hlo, hhi, Constraints.or, Constraints.ofBounds]

end

variable {cs cs' : List Call} {a said : Constraints} {c : Call}

theorem runAll_singleton : runAll l [c] = c.run l := bind_pure _

theorem runAll_append : runAll l (cs ++ cs') = runAll l cs >>= fun l => runAll l cs' := List.foldlM_append

theorem readAll?_concat : readAll? kind (cs ++ [c]) = Call.say kind (readAll? kind cs) c := by
  rw [readAll?, List.foldl_append]
  rfl

theorem readAll?_concat_eq_some_iff :
    readAll? kind (cs ++ [c]) = some said ↔
      ∃ r, readAll? kind cs = some r ∧ ∃ a, c.read? kind = some a ∧ a.or r = said := by
  simp only [readAll?_concat, Call.say, Option.bind_eq_some_iff, Option.map_eq_some_iff]

theorem disjoint_readAll? (ha : c.read? kind = some a) (hc : ∀ d ∈ cs, Call.Apart kind d c)
    (hs : readAll? kind cs = some said) : a.Disjoint said := by
  induction cs using List.reverseRecOn generalizing said with
  | nil =>
    cases hs
    exact Constraints.disjoint_nothing
  | append_singleton cs d ih =>
    rw [List.forall_mem_append, List.forall_mem_singleton] at hc
    obtain ⟨r, hr, b, hb, rfl⟩ := readAll?_concat_eq_some_iff.1 hs
    exact (hc.2 b a hb ha).symm.or (ih hc.1 hr)

/-- What calls say together holds what each of them says. -/
theorem within_readAll? (hc : c ∈ cs) (hs : readAll? kind cs = some said) :
    ∃ a, c.read? kind = some a ∧ a.Within said := by
  induction cs using List.reverseRecOn generalizing said with
  | nil => cases hc
  | append_singleton cs d ih =>
    obtain ⟨r, hr, b, hb, rfl⟩ := readAll?_concat_eq_some_iff.1 hs
    rcases List.mem_append.1 hc with hc | hc
    · obtain ⟨a, ha, hwithin⟩ := ih hc hr
      exact ⟨a, ha, hwithin.trans Constraints.within_or_right⟩
    · rw [List.mem_singleton.1 hc]
      exact ⟨b, hb, Constraints.within_or_left⟩

/-- Calls that say different things can be read in any order. -/
theorem readAll?_perm (hcs : cs.Pairwise (Call.Apart kind)) (h : cs.Perm cs') :
    readAll? kind cs = readAll? kind cs' := by
  refine h.foldl_eq' (fun c hc d hd said => ?_) _
  cases hc' : c.read? kind with
  | none => cases said <;> simp [Call.say, hc']
  | some a =>
    cases hd' : d.read? kind with
    | none => cases said <;> simp [Call.say, hd']
    | some b =>
      cases said with
      | none => rfl
      | some r =>
        have hor : b.or a = a.or b := by
          by_cases hne : c = d
          · rw [hne, hd'] at hc'
            cases hc'
            rfl
          · exact (hcs.forall hc hd hne a b hc' hd').or_comm.symm
        simp [Call.say, hc', hd', ← Constraints.or_assoc, hor]

/-- **A run of calls that say different things succeeds exactly when each can be read and what they say is in
harmony**, and the leaf holds what they say. -/
theorem runAll_bare_iff (hs : ∀ c ∈ cs, c.Says) (hcs : cs.Pairwise (Call.Apart kind)) :
    runAll (bare kind) cs = .ok l ↔
      ∃ said, readAll? kind cs = some said ∧ said.Harmonious kind ∧ l = said.leaf kind := by
  induction cs using List.reverseRecOn generalizing l with
  | nil =>
    constructor
    · rintro ⟨⟩
      exact ⟨_, rfl, Constraints.harmonious_nothing, rfl⟩
    · rintro ⟨_, ⟨⟩, -, rfl⟩
      rfl
  | append_singleton cs c ih =>
    rw [List.forall_mem_append, List.forall_mem_singleton] at hs
    rw [List.pairwise_append] at hcs
    obtain ⟨hcs, -, hc⟩ := hcs
    simp only [runAll_append, Except.bind_eq_ok_iff, runAll_singleton, ih hs.1 hcs, readAll?_concat_eq_some_iff]
    constructor
    · rintro ⟨_, ⟨r, hr, hh, rfl⟩, hrun⟩
      obtain ⟨a, ha, hor, rfl⟩ := (Call.run_leaf_iff hh hs.2).1 hrun
      exact ⟨_, ⟨r, hr, a, ha, rfl⟩, hor, rfl⟩
    · rintro ⟨_, ⟨r, hr, a, ha, rfl⟩, hor, rfl⟩
      have hdisjoint := disjoint_readAll? ha (fun d hd => hc d hd c (by simp)) hr
      have hh := hor.of_or hdisjoint
      exact ⟨_, ⟨r, hr, hh, rfl⟩, (Call.run_leaf_iff hh hs.2).2 ⟨a, ha, hor, rfl⟩⟩

end Leaf

end RecordSchema
