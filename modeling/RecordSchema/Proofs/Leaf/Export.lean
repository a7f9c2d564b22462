/-
A coherent leaf without infinite numbers compiles from its own fragment to
itself (`ofMembers_members`). Each step of compiling is shown to put back what
the step of writing put out, in the order in which the leaf is compiled.
-/
import RecordSchema.Proofs.Leaf.Coherent

namespace RecordSchema

namespace Pattern

theorem ofText?_text (p : Pattern) : ofText? p.text = some p := by
  unfold ofText?
  split
  · next r hr => exact congrArg some (ext_text rfl)
  · next hr => rw [p.describes] at hr; cases hr

end Pattern

namespace Leaf

/-- The options and the bounds. -/
def scalars (l : Leaf) : List Scalar := l.options.getD [] ++ l.minimum.toList ++ l.maximum.toList

/-- No option and no bound is infinite. -/
def FiniteFloats (l : Leaf) : Prop := ∀ s ∈ l.scalars, s.IsFinite

variable {l : Leaf}

theorem FiniteFloats.options (h : l.FiniteFloats) {os : List Scalar} (ho : l.options = some os) :
    ∀ s ∈ os, s.IsFinite := fun s hs => h s (by simp [scalars, ho, hs])

theorem FiniteFloats.minimum (h : l.FiniteFloats) {s : Scalar} (hs : l.minimum = some s) : s.IsFinite :=
  h s (by simp [scalars, hs])

theorem FiniteFloats.maximum (h : l.FiniteFloats) {s : Scalar} (hs : l.maximum = some s) : s.IsFinite :=
  h s (by simp [scalars, hs])

theorem eq_bare_of_isPlain (h : l.isPlain = true) : l = bare l.kind := by
  obtain ⟨annotations, kind, pattern, options, minimum, maximum⟩ := l
  simp only [isPlain, Bool.and_eq_true, Option.isNone_iff_eq_none] at h
  obtain ⟨⟨⟨⟨ha, rfl⟩, rfl⟩, rfl⟩, rfl⟩ := h
  rw [bare, Annotations.eq_plain_of_isPlain ha]

/-! ## The members of a leaf -/

/-- The members that are not annotations. -/
def bodyMembers (l : Leaf) :
    List (String × Json) := ("__type__", .string l.kind.name) :: l.constraintMembers

theorem get?_toList_map {α β : Type} (o : Option β) (k : String) (f : β → α) (key : String) :
    Members.get? (o.map fun x => (k, f x)).toList key = if k = key then o.map f else none := by
  cases o <;> simp [Members.get?_cons]

theorem keys_bodyMembers (l : Leaf) : ∀ e ∈ l.bodyMembers, e.1 ∈ ownKeys := by
  obtain ⟨annotations, kind, pattern, options, minimum, maximum⟩ := l
  cases pattern <;> cases options <;> cases minimum <;> cases maximum <;>
    simp [bodyMembers, constraintMembers, ownKeys]

theorem isDirective_of_mem_ownKeys {key : String} (h : key ∈ ownKeys) :
    Name.isDirective key = true ∧ key ≠ "__optional__" := by
  have hall : ∀ key ∈ ownKeys, Name.isDirective key = true ∧ key ≠ "__optional__" := by decide
  exact hall key h

theorem isOwnKey_bodyMembers (l : Leaf) : ∀ e ∈ l.bodyMembers, Annotations.isOwnKey e.1 = false := by
  intro e he
  obtain ⟨hd, hne⟩ := isDirective_of_mem_ownKeys (keys_bodyMembers l e he)
  exact Annotations.isOwnKey_eq_false_iff.2 ⟨hne, Name.specialOf?_of_isDirective hd⟩

/-- A key of the leaf's own is looked up among the members that are not annotations. -/
theorem get?_members (h : l.annotations.Coherent) {key : String} (hkey : key ∈ ownKeys) :
    Members.get? l.members key = Members.get? l.bodyMembers key := by
  obtain ⟨hd, hne⟩ := isDirective_of_mem_ownKeys hkey
  rw [members, Members.get?_append, Annotations.get?_members_of_isDirective h hd hne]
  rfl

theorem get?_bodyMembers (l : Leaf) :
    Members.get? l.bodyMembers "__type__" = some (.string l.kind.name) ∧
      Members.get? l.bodyMembers "__regex__" = l.pattern.map (fun p => .string p.text) ∧
      Members.get? l.bodyMembers "__options__" = l.options.map (fun os => .array (os.map Scalar.toJson)) ∧
      Members.get? l.bodyMembers "__minimum__" = l.minimum.map Scalar.toJson ∧
      Members.get? l.bodyMembers "__maximum__" = l.maximum.map Scalar.toJson := by
  simp [bodyMembers, constraintMembers, Members.get?_cons, Members.get?_append, get?_toList_map]

theorem kindOf_members (h : l.annotations.Coherent) : kindOf l.members = .ok l.kind := by
  rw [kindOf, get?_members h (by decide), (get?_bodyMembers l).1]
  simp only [Kind.ofName?_name]

theorem directive?_regex (h : l.annotations.Coherent) :
    directive? l.members "__regex__" = l.pattern.map fun p => .string p.text := by
  rw [directive?, get?_members h (by decide), (get?_bodyMembers l).2.1]
  cases l.pattern <;> rfl

theorem directive?_options (h : l.annotations.Coherent) :
    directive? l.members "__options__" = l.options.map fun os => .array (os.map Scalar.toJson) := by
  rw [directive?, get?_members h (by decide), (get?_bodyMembers l).2.2.1]
  cases l.options <;> rfl

theorem directive?_minimum (h : l.Coherent) (hf : l.FiniteFloats) :
    directive? l.members "__minimum__" = l.minimum.map Scalar.toJson := by
  rw [directive?, get?_members h.annotations (by decide), (get?_bodyMembers l).2.2.2.1]
  cases hs : l.minimum with
  | none => rfl
  | some s =>
    have hread := Kind.boundScalar?_toJson (h.minimum s hs).2 (hf.minimum hs)
    simp [Option.filter, Kind.isNull_of_boundScalar? hread]

theorem directive?_maximum (h : l.Coherent) (hf : l.FiniteFloats) :
    directive? l.members "__maximum__" = l.maximum.map Scalar.toJson := by
  rw [directive?, get?_members h.annotations (by decide), (get?_bodyMembers l).2.2.2.2]
  cases hs : l.maximum with
  | none => rfl
  | some s =>
    have hread := Kind.boundScalar?_toJson (h.maximum s hs).2 (hf.maximum hs)
    simp [Option.filter, Kind.isNull_of_boundScalar? hread]

/-! ## Compiling them -/

theorem checkConflict_members (h : l.Coherent) (hf : l.FiniteFloats) :
    checkConflict l.members = .ok () := by
  unfold checkConflict
  split
  · next ho =>
    rw [directive?_options h.annotations, Option.isSome_map, Option.isSome_iff_exists] at ho
    obtain ⟨os, ho⟩ := ho
    obtain ⟨hp, hmin, hmax⟩ := optionsConflict?_eq_none_iff.1 (h.options os ho).2.1
    simp [besideOptions?, directive?_regex h.annotations, directive?_minimum h hf, directive?_maximum h hf,
      hp, hmin, hmax]
  · rfl

theorem applyPattern_regex (h : l.Coherent) :
    (bare l.kind).applyPattern (l.pattern.map fun p => .string p.text) =
    .ok { bare l.kind with pattern := l.pattern } := by
  cases hp : l.pattern with
  | none => rfl
  | some p =>
    have hk := h.pattern (by rw [hp]; rfl)
    simp [applyPattern, setPattern, Change.changed, perform_assignPattern, bare, hk, Pattern.ofText?_text]

theorem optionScalars_toJson {kind : Kind} {os : List Scalar} (hf : ∀ s ∈ os, s.IsFinite)
    (ho : ∀ s ∈ os, kind.IsOption s) : ∀ {i done}, ((done ++ os).Pairwise fun s t => s.same t = false) →
      optionScalars kind i done (os.map Scalar.toJson) = .ok (done ++ os) := by
  induction os with
  | nil => intro i done _; simp [optionScalars]
  | cons s os ih =>
    intro i done hpair
    rw [List.forall_mem_cons] at hf ho
    have hnew : (done.any (·.same s)) = false := by
      rw [List.pairwise_append] at hpair
      simpa using fun t ht => hpair.2.2 t ht s (List.mem_cons_self ..)
    rw [List.map_cons, optionScalars, Kind.optionScalar?_toJson ho.1 hf.1]
    simp only [hnew, Bool.false_eq_true, if_false]
    rw [List.append_cons done s os] at hpair ⊢
    exact ih hf.2 ho.2 hpair

theorem applyOptions_options (h : l.Coherent) (hf : l.FiniteFloats) :
    applyOptions { bare l.kind with pattern := l.pattern }
      (l.options.map fun os => .array (os.map Scalar.toJson)) =
        .ok { bare l.kind with pattern := l.pattern, options := l.options } := by
  cases ho : l.options with
  | none => rfl
  | some os =>
    obtain ⟨hk, hconflict, hne, hpair, hall⟩ := h.options os ho
    obtain ⟨hp, -, -⟩ := optionsConflict?_eq_none_iff.1 hconflict
    have hscalars : optionScalars l.kind 0 [] (os.map Scalar.toJson) = .ok os :=
      optionScalars_toJson (hf.options ho) hall hpair
    obtain ⟨s, os, rfl⟩ := List.exists_cons_of_ne_nil hne
    rw [List.map_cons] at hscalars
    simp [applyOptions, setOptions, Change.changed, perform_assignOptions, bare, hk, hp, optionsConflict?,
      hscalars]

theorem boundOr_toJson {kind : Kind} {o : Option Scalar} (ho : ∀ s, o = some s → kind.IsBound s)
    (hf : ∀ s, o = some s → s.IsFinite) (directive : String) :
    boundOr kind directive (o.map Scalar.toJson) none = .ok o := by
  cases o with
  | none => rfl
  | some s => simp [boundOr, Kind.boundScalar?_toJson (ho s rfl) (hf s rfl)]

theorem applyBounds_bounds (h : l.Coherent) (hf : l.FiniteFloats) :
    applyBounds { bare l.kind with pattern := l.pattern, options := l.options } (l.minimum.map Scalar.toJson)
      (l.maximum.map Scalar.toJson) = .ok { l with annotations := .plain } := by
  unfold applyBounds
  split
  · next hsome =>
    rw [Option.isSome_map, Option.isSome_map, Bool.or_eq_true] at hsome
    have hk : l.kind.supportsBounds = true := by
      rcases hsome with hs | hs
      · obtain ⟨s, hs⟩ := Option.isSome_iff_exists.1 hs
        exact (h.minimum s hs).1
      · obtain ⟨s, hs⟩ := Option.isSome_iff_exists.1 hs
        exact (h.maximum s hs).1
    have ho : l.options = none := by
      rw [Option.eq_none_iff_forall_ne_some]
      intro os ho
      obtain ⟨-, hmin, hmax⟩ := optionsConflict?_eq_none_iff.1 (h.options os ho).2.1
      simp [hmin, hmax] at hsome
    have hlo := boundOr_toJson (fun s hs => (h.minimum s hs).2) (fun s => hf.minimum) "__minimum__"
    have hhi := boundOr_toJson (fun s hs => (h.maximum s hs).2) (fun s => hf.maximum) "__maximum__"
    simp [setBounds, Change.changed, perform_assignBounds, bare, hk, ho, hlo, hhi, h.ordered]
  · next hnone =>
    rw [Option.isSome_map, Option.isSome_map] at hnone
    simp only [Bool.or_eq_true, not_or, Option.not_isSome_iff_eq_none] at hnone
    rw [hnone.1, hnone.2]
    rfl

theorem strip_members (h : l.annotations.Coherent) : Annotations.strip l.members = l.bodyMembers := by
  have hown := Annotations.strip_eq_nil (Annotations.isOwnKey_of_mem_members h)
  change Annotations.strip (l.annotations.members ++ l.bodyMembers) = _
  rw [Annotations.strip_append, hown, Annotations.strip_eq_self (isOwnKey_bodyMembers l), List.nil_append]

theorem checkKeys_members (h : l.annotations.Coherent) : checkKeys l.members = .ok () := by
  have hfind : (l.bodyMembers.find? fun e => !ownKeys.contains e.1) = none := by
    rw [List.find?_eq_none]
    intro e he
    simp [keys_bodyMembers l e he]
  rw [checkKeys, strip_members h, hfind]

/-- **A leaf is compiled from its members to itself.** -/
theorem ofMembers_members (h : l.Coherent) (hf : l.FiniteFloats) : ofMembers l.members = .ok l := by
  have hannotations : Annotations.ofMembers l.members = l.annotations :=
    Annotations.ofMembers_append h.annotations (isOwnKey_bodyMembers l)
  simp only [ofMembers, Except.bind_eq_ok_iff]
  refine ⟨l.kind, kindOf_members h.annotations, (), checkConflict_members h hf,
    { bare l.kind with pattern := l.pattern }, ?_,
    { bare l.kind with pattern := l.pattern, options := l.options }, ?_,
    { l with annotations := .plain }, ?_, (), checkKeys_members h.annotations, ?_⟩
  · rw [directive?_regex h.annotations]
    exact applyPattern_regex h
  · rw [directive?_options h.annotations]
    exact applyOptions_options h hf
  · rw [directive?_minimum h hf, directive?_maximum h hf]
    exact applyBounds_bounds h hf
  · rw [hannotations]
    rfl

end Leaf

end RecordSchema
