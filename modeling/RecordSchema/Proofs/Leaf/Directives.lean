/-
Two ways to say the same of a leaf: the directives of a fragment, which are
read in one go, and calls of the setters on a bare leaf, in whatever order.
Both accept the same values and make the same leaf
(`ofFragment_eq_ok_iff_runAll`).

Compiling a fragment is a check for conflicts between directives and then the
calls in one fixed order (`ofMembers_eq_ok_iff`), so what is left is that the
order does not matter and that whatever passes the calls passes the check.
-/
import RecordSchema.Proofs.Leaf.Constraints
import RecordSchema.Proofs.Node.Export

namespace RecordSchema

namespace Leaf

variable {l : Leaf} {kind : Kind} {cs : List Call} {c : Call}

/-! ## Directives -/

/-- What a fragment says of a leaf besides its kind. -/
structure Directives where
  pattern : Option String
  options : Option Json
  minimum : Option Json
  maximum : Option Json
  /-- Null says nothing. -/
  given : ∀ v, options = some v ∨ minimum = some v ∨ maximum = some v → v.isNull = false

namespace Directives

/-- The members of a fragment that give the directives to a leaf of a kind. -/
def members (d : Directives) (kind : Kind) : List (String × Json) :=
  ("__type__", .string kind.name) ::
    ((d.pattern.map fun text => ("__regex__", Json.string text)).toList
      ++ (d.options.map fun v => ("__options__", v)).toList
      ++ (d.minimum.map fun v => ("__minimum__", v)).toList
      ++ (d.maximum.map fun v => ("__maximum__", v)).toList)

/-- The calls that set the bounds that are given, together or one by one. -/
def boundCalls (d : Directives) (together : Bool) : List Call :=
  if together then
    if d.minimum.isSome || d.maximum.isSome then [.bounds d.minimum d.maximum] else []
  else
    (d.minimum.map fun v => Call.bounds (some v) none).toList
      ++ (d.maximum.map fun v => Call.bounds none (some v)).toList

/-- The calls that set what the directives give. -/
def calls (d : Directives) (together : Bool) : List Call :=
  (d.pattern.map Call.pattern).toList ++ (d.options.map Call.options).toList ++ d.boundCalls together

variable {d : Directives} {together : Bool} {m : Members Json}

/-! ### Their calls -/

theorem says_of_mem_calls : ∀ c ∈ d.calls together, c.Says := by
  obtain ⟨pattern, options, minimum, maximum, -⟩ := d
  cases minimum <;> cases maximum <;> cases together <;> cases pattern <;> cases options <;>
    simp [calls, boundCalls, Call.Says]

theorem pairwise_toList_map {α β : Type} {R : β → β → Prop} (f : α → β) (o : Option α) :
    (o.map f).toList.Pairwise R := by
  cases o <;> simp

theorem mem_toList_map {α β : Type} {f : α → β} {o : Option α} {b : β} :
    b ∈ (o.map f).toList ↔ ∃ a, o = some a ∧ f a = b := by
  simp

theorem apart_boundCalls : (d.boundCalls together).Pairwise (Call.Apart kind) := by
  unfold boundCalls
  split
  · split <;> simp
  · refine List.pairwise_append.2 ⟨pairwise_toList_map .., pairwise_toList_map .., ?_⟩
    intro c hc c' hc'
    obtain ⟨v, -, rfl⟩ := mem_toList_map.1 hc
    obtain ⟨w, -, rfl⟩ := mem_toList_map.1 hc'
    exact apart_minimum_maximum

theorem exists_of_mem_boundCalls (h : c ∈ d.boundCalls together) : ∃ lo hi, c = .bounds lo hi := by
  unfold boundCalls at h
  split at h
  · split at h
    · exact ⟨_, _, List.mem_singleton.1 h⟩
    · cases h
  · rcases List.mem_append.1 h with h | h
    · obtain ⟨v, -, rfl⟩ := mem_toList_map.1 h
      exact ⟨_, _, rfl⟩
    · obtain ⟨v, -, rfl⟩ := mem_toList_map.1 h
      exact ⟨_, _, rfl⟩

theorem apart_calls : (d.calls together).Pairwise (Call.Apart kind) := by
  refine List.pairwise_append.2 ⟨List.pairwise_append.2 ⟨pairwise_toList_map .., pairwise_toList_map .., ?_⟩,
    apart_boundCalls, ?_⟩
  · intro c hc c' hc'
    obtain ⟨text, -, rfl⟩ := mem_toList_map.1 hc
    obtain ⟨v, -, rfl⟩ := mem_toList_map.1 hc'
    exact apart_pattern_options
  · intro c hc c' hc'
    obtain ⟨lo, hi, rfl⟩ := exists_of_mem_boundCalls hc'
    rcases List.mem_append.1 hc with hc | hc
    · obtain ⟨text, -, rfl⟩ := mem_toList_map.1 hc
      exact apart_pattern_bounds
    · obtain ⟨v, -, rfl⟩ := mem_toList_map.1 hc
      exact apart_options_bounds

theorem foldl_boundCalls (said : Option Constraints) :
    (d.boundCalls together).foldl (Call.say kind) said = (d.boundCalls true).foldl (Call.say kind) said := by
  cases together with
  | true => rfl
  | false =>
    cases hlo : d.minimum <;> cases hhi : d.maximum <;> simp [boundCalls, hlo, hhi, say_bounds]

theorem readAll?_calls : readAll? kind (d.calls together) = readAll? kind (d.calls true) := by
  rw [readAll?, calls, List.foldl_append, foldl_boundCalls, ← List.foldl_append]
  rfl

theorem runAll_calls :
    runAll l (d.calls true) = l.applyPattern (d.pattern.map .string) >>= fun l =>
      l.applyOptions d.options >>= fun l => l.applyBounds d.minimum d.maximum := by
  have hpattern : ∀ l : Leaf,
      runAll l (d.pattern.map Call.pattern).toList = l.applyPattern (d.pattern.map .string) := by
    intro l
    cases d.pattern with
    | none => rfl
    | some text => exact runAll_singleton
  have hoptions : ∀ l : Leaf, runAll l (d.options.map Call.options).toList = l.applyOptions d.options := by
    intro l
    cases d.options with
    | none => rfl
    | some v => exact runAll_singleton
  have hbounds : ∀ l : Leaf, runAll l (d.boundCalls true) = l.applyBounds d.minimum d.maximum := by
    intro l
    rw [boundCalls, if_pos rfl, applyBounds]
    split
    · exact runAll_singleton
    · rfl
  simp only [calls, runAll_append, hpattern, hoptions, hbounds, bind_assoc]

/-! ### What they say -/

section

variable {said : Constraints} (hs : readAll? kind (d.calls true) = some said)
include hs

theorem isSome_pattern (hk : kind = .string) (h : d.pattern.isSome = true) : said.pattern.isSome = true := by
  obtain ⟨text, htext⟩ := Option.isSome_iff_exists.1 h
  obtain ⟨a, ha, hwithin⟩ := within_readAll? (c := .pattern text) (by simp [calls, htext]) hs
  rw [Call.read?, if_pos hk] at ha
  obtain ⟨p, -, rfl⟩ := Option.map_eq_some_iff.1 ha
  exact hwithin.pattern rfl

theorem isSome_options (h : d.options.isSome = true) : said.options.isSome = true := by
  obtain ⟨v, hv⟩ := Option.isSome_iff_exists.1 h
  obtain ⟨a, ha, hwithin⟩ := within_readAll? (c := .options v) (by simp [calls, hv]) hs
  obtain ⟨-, os, -, rfl⟩ := Call.read?_options_eq_some_iff.1 ha
  exact hwithin.options rfl

theorem isSome_bounds (h : d.minimum.isSome = true ∨ d.maximum.isSome = true) :
    (d.minimum.isSome = true → said.minimum.isSome = true) ∧
      (d.maximum.isSome = true → said.maximum.isSome = true) := by
  have hmem : Call.bounds d.minimum d.maximum ∈ d.calls true := by simp [calls, boundCalls, h]
  obtain ⟨a, ha, hwithin⟩ := within_readAll? hmem hs
  obtain ⟨-, lo, hlo, hi, hhi, rfl⟩ := Call.read?_bounds_eq_some_iff.1 ha
  refine ⟨fun hmin => hwithin.minimum ?_, fun hmax => hwithin.maximum ?_⟩
  · obtain ⟨v, hv⟩ := Option.isSome_iff_exists.1 hmin
    exact bound?_isSome (hv ▸ hlo)
  · obtain ⟨v, hv⟩ := Option.isSome_iff_exists.1 hmax
    exact bound?_isSome (hv ▸ hhi)

/-- In harmony, allowed values are given alone, if not beside a pattern that the kind ignores. -/
theorem options_alone (hd : kind = .string ∨ d.pattern = none ∨ d.options = none)
    (hh : said.Harmonious kind) (ho : d.options.isSome = true) :
    d.pattern = none ∧ d.minimum = none ∧ d.maximum = none := by
  obtain ⟨hpattern, hmin, hmax⟩ := hh.options (isSome_options hs ho)
  refine ⟨?_, ?_, ?_⟩
  · rcases hd with hk | hd | hd
    · by_contra hne
      have hsome := isSome_pattern hs hk (Option.isSome_iff_ne_none.2 hne)
      simp [hpattern] at hsome
    · exact hd
    · simp [hd] at ho
  · by_contra hne
    have hne := Option.isSome_iff_ne_none.2 hne
    have hsome := (isSome_bounds hs (.inl hne)).1 hne
    simp [hmin] at hsome
  · by_contra hne
    have hne := Option.isSome_iff_ne_none.2 hne
    have hsome := (isSome_bounds hs (.inr hne)).2 hne
    simp [hmax] at hsome

end

/-! ### Their members -/

theorem keys_members : ∀ e ∈ d.members kind, e.1 ∈ ownKeys := by
  obtain ⟨pattern, options, minimum, maximum, -⟩ := d
  cases pattern <;> cases options <;> cases minimum <;> cases maximum <;> simp [members, ownKeys]

theorem nodup_keys_members : (Members.keys (d.members kind)).Nodup := by
  obtain ⟨pattern, options, minimum, maximum, -⟩ := d
  cases pattern <;> cases options <;> cases minimum <;> cases maximum <;> simp [members, Members.keys]

theorem get?_members : Members.get? (d.members kind) "__type__" = some (.string kind.name) ∧
    Members.get? (d.members kind) "__regex__" = d.pattern.map .string ∧
      Members.get? (d.members kind) "__options__" = d.options ∧
      Members.get? (d.members kind) "__minimum__" = d.minimum ∧
      Members.get? (d.members kind) "__maximum__" = d.maximum := by
  have hget : ∀ (o : Option Json) (k key : String),
      Members.get? (o.map fun v => (k, v)).toList key = if k = key then o else none := by
    rintro (_ | v) k key <;> simp [Members.get?_cons]
  simp [members, Members.get?_cons, Members.get?_append, get?_toList_map, hget]

theorem filter_given {o : Option Json} (h : ∀ v, o = some v → v.isNull = false) :
    (o.filter fun v => !v.isNull) = o := by
  cases o with
  | none => rfl
  | some v => simp [Option.filter, h v rfl]

section

variable (hm : m.Perm (d.members kind))
include hm

theorem get?_perm_members (key : String) : Members.get? m key = Members.get? (d.members kind) key :=
  (Members.get?_perm nodup_keys_members hm.symm key).symm

theorem keys_perm_members : ∀ e ∈ m, e.1 ∈ ownKeys := fun e he => keys_members e (hm.mem_iff.1 he)

theorem isOwnKey_perm_members : ∀ e ∈ m, Annotations.isOwnKey e.1 = false := by
  intro e he
  obtain ⟨hd, hne⟩ := isDirective_of_mem_ownKeys (keys_perm_members hm e he)
  exact Annotations.isOwnKey_eq_false_iff.2 ⟨hne, Name.specialOf?_of_isDirective hd⟩

theorem kindOf_perm_members : kindOf m = .ok kind := by
  rw [kindOf, get?_perm_members hm, get?_members.1]
  simp only [Kind.ofName?_name]

theorem directive?_regex : directive? m "__regex__" = d.pattern.map .string := by
  rw [directive?, get?_perm_members hm, get?_members.2.1]
  cases d.pattern <;> rfl

theorem directive?_options : directive? m "__options__" = d.options := by
  rw [directive?, get?_perm_members hm, get?_members.2.2.1, filter_given fun v hv => d.given v (.inl hv)]

theorem directive?_minimum : directive? m "__minimum__" = d.minimum := by
  rw [directive?, get?_perm_members hm, get?_members.2.2.2.1,
    filter_given fun v hv => d.given v (.inr (.inl hv))]

theorem directive?_maximum : directive? m "__maximum__" = d.maximum := by
  rw [directive?, get?_perm_members hm, get?_members.2.2.2.2,
    filter_given fun v hv => d.given v (.inr (.inr hv))]

theorem checkKeys_perm_members : checkKeys m = .ok () := by
  have hfind : (m.find? fun e => !ownKeys.contains e.1) = none := by
    rw [List.find?_eq_none]
    intro e he
    simp [keys_perm_members hm e he]
  rw [checkKeys, Annotations.strip_eq_self (isOwnKey_perm_members hm), hfind]

/-- Compiling is a check for conflicts and then the calls, in the order of the directives. -/
theorem ofMembers_eq_ok_iff :
    ofMembers m = .ok l ↔ checkConflict m = .ok () ∧
      ∃ l', runAll (bare kind) (d.calls true) = .ok l' ∧ { l' with annotations := .plain } = l := by
  have hannotations : Annotations.ofMembers m = .plain :=
    Annotations.ofMembers_append Annotations.coherent_plain (isOwnKey_perm_members hm)
  rw [runAll_calls]
  simp only [ofMembers, kindOf_perm_members hm, directive?_regex hm, directive?_options hm,
    directive?_minimum hm, directive?_maximum hm, checkKeys_perm_members hm, hannotations,
    Except.bind_eq_ok_iff, Except.ok.injEq]
  constructor
  · rintro ⟨_, rfl, _, hconflict, l₁, h₁, l₂, h₂, l₃, h₃, -, -, hl⟩
    exact ⟨hconflict, l₃, ⟨l₁, h₁, l₂, h₂, h₃⟩, Except.ok.inj hl⟩
  · rintro ⟨hconflict, l₃, ⟨l₁, h₁, l₂, h₂, h₃⟩, rfl⟩
    exact ⟨_, rfl, _, hconflict, l₁, h₁, l₂, h₂, l₃, h₃, (), trivial, rfl⟩

/-- What is in harmony is no conflict between directives. -/
theorem checkConflict_of_harmonious (hd : kind = .string ∨ d.pattern = none ∨ d.options = none)
    {said : Constraints} (hsaid : readAll? kind (d.calls true) = some said) (hh : said.Harmonious kind) :
    checkConflict m = .ok () := by
  rw [checkConflict, directive?_options hm]
  split
  · next ho =>
    obtain ⟨hpattern, hmin, hmax⟩ := options_alone hsaid hd hh ho
    simp [besideOptions?, directive?_regex hm, directive?_minimum hm, directive?_maximum hm, hpattern, hmin,
      hmax]
  · rfl

theorem ofMembers_eq_ok_iff_runAll (hd : kind = .string ∨ d.pattern = none ∨ d.options = none) :
    ofMembers m = .ok l ↔ runAll (bare kind) (d.calls true) = .ok l := by
  have hrun : ∀ l, runAll (bare kind) (d.calls true) = .ok l ↔ _ :=
    fun l => runAll_bare_iff says_of_mem_calls apart_calls
  rw [ofMembers_eq_ok_iff hm]
  constructor
  · rintro ⟨-, l', hl', rfl⟩
    obtain ⟨said, -, -, rfl⟩ := (hrun l').1 hl'
    exact hl'
  · intro hl
    obtain ⟨said, hsaid, hh, rfl⟩ := (hrun l).1 hl
    exact ⟨checkConflict_of_harmonious hm hd hsaid hh, _, hl, rfl⟩

theorem bodyOf_membersOf : Node.bodyOf (Node.membersOf m) = (ofMembers m).map .leaf := by
  rw [Node.bodyOf, Node.get?_membersOf, get?_perm_members hm, get?_members.1]
  simp only [Option.map_some, Node.values_membersOf]

/-- A fragment of a leaf is compiled as one. -/
theorem ofFragment_eq_map : Node.ofFragment (.object m) = (Leaf.ofFragment (.object m)).map .leaf := by
  have hne : ∀ key, key ∉ ownKeys → ∀ e ∈ m, e.1 ≠ key := by
    rintro key hkey e he rfl
    exact hkey (keys_perm_members hm e he)
  rw [Node.ofFragment_object (hne _ (by decide)), Node.hashOrBodyOf_membersOf (hne _ (by decide)),
    bodyOf_membersOf hm]
  rfl

end

end Directives

/-- **Directives and setters say the same.** Whatever values a fragment gives a leaf, if it does not give
allowed values and a pattern to a kind that has none, compiling it makes what the setters make of a bare leaf
when they are called with the same values, in any order, the bounds together or one after the other; and
where one of the calls is refused, so is the fragment. -/
theorem ofFragment_eq_ok_iff_runAll {d : Directives} {together : Bool} {m : Members Json}
    (hd : kind = .string ∨ d.pattern = none ∨ d.options = none) (hm : m.Perm (d.members kind))
    (hcs : cs.Perm (d.calls together)) :
    (∀ l, ofFragment (.object m) = .ok l ↔ runAll (bare kind) cs = .ok l) ∧
      Node.ofFragment (.object m) = (ofFragment (.object m)).map .leaf := by
  refine ⟨fun l => ?_, Directives.ofFragment_eq_map hm⟩
  have hsays : ∀ c ∈ cs, c.Says := fun c hc => Directives.says_of_mem_calls c (hcs.mem_iff.1 hc)
  have hapart : cs.Pairwise (Call.Apart kind) := hcs.symm.pairwise Directives.apart_calls (fun h => symm h)
  have hread : readAll? kind cs = readAll? kind (d.calls true) :=
    (readAll?_perm hapart hcs).trans Directives.readAll?_calls
  calc ofFragment (.object m) = .ok l
      ↔ runAll (bare kind) (d.calls true) = .ok l := Directives.ofMembers_eq_ok_iff_runAll hm hd
    _ ↔ ∃ said, readAll? kind (d.calls true) = some said ∧ said.Harmonious kind ∧ l = said.leaf kind :=
        runAll_bare_iff Directives.says_of_mem_calls Directives.apart_calls
    _ ↔ runAll (bare kind) cs = .ok l := by rw [← hread, runAll_bare_iff hsays hapart]

/-- The maximum is set first, and a pattern that the kind ignores in between. -/
theorem ofFragment_eq_ok_iff_runAll_bounds :
    let d : Directives := ⟨some "[a-z]", none, some (.number (.int 3)), some (.number (.int 9)),
      by rintro v (h | h | h) <;> cases h <;> rfl⟩
    let cs : List Call :=
      [.bounds none (some (.number (.int 9))), .pattern "[a-z]", .bounds (some (.number (.int 3))) none]
    let l : Leaf := ⟨.plain, .uint, none, none, some (.int 3), some (.int 9)⟩
    cs.Perm (d.calls false) ∧ runAll (bare .uint) cs = .ok l ∧
      ofFragment (.object (d.members .uint)) = .ok l := by
  intro d cs l
  have hcs : cs.Perm (d.calls false) := (List.Perm.swap ..).trans (.cons _ (.swap ..))
  have hrun : runAll (bare .uint) cs = .ok l := by rfl
  exact ⟨hcs, hrun, ((ofFragment_eq_ok_iff_runAll (.inr (.inr rfl)) (.refl _) hcs).1 l).2 hrun⟩

end Leaf

end RecordSchema
