/-
Lists without repeated items, before and after they are cleaned. Repeats are
looked for among the items as they are given, while cleaning rewrites them, so
items that differ may be cleaned to equal ones (`exists_repeat`). They are
only where cleaning changes an item: `same` is an equivalence, so two cleaned
items that are the same as the items they come from are equal only if those
are (`distinct_clean`).

Under nodes that leave what they accept as it is (`Verbatim`) cleaning changes
at most the order of members (`preserves`), and such a list stays without
repeated items.
-/
import RecordSchema.Proofs.Json.Same
import RecordSchema.Proofs.Node.Entries
import RecordSchema.Proofs.Node.WellFormed

namespace RecordSchema

/-! ## Values that are left as they are -/

/-- Whether all that the kind accepts is in canonical form. -/
def Kind.keepsAccepted : Kind → Bool
  | any | base64 | date | datetime | ip | md5 | string | time | uuid => true
  | _ => false

theorem Leaf.clean?_of_accept_of_keepsAccepted {l : Leaf} {v : Json} {r : Option Scalar}
    (hk : l.kind.keepsAccepted = true) (h : l.accept v = .ok r) : l.kind.clean? v = some v := by
  obtain ⟨annotations, kind, pattern, options, minimum, maximum⟩ := l
  cases kind with
  | any => rfl
  | base64 | date | datetime | ip | md5 | time | uuid =>
    obtain ⟨s, rfl, -⟩ := acceptText_eq_ok_iff.1 h
    rfl
  | string =>
    obtain ⟨s, rfl⟩ := isString_of_acceptString h
    rfl
  | _ => cases hk

/-- One is accepted as a number and as a text, and the two are cleaned to one value. -/
theorem Kind.clean?_one {kind : Kind} (h : kind.keepsAccepted = false) :
    (Leaf.bare kind).accepts (.number (.int 1)) = true ∧ (Leaf.bare kind).accepts (.string "1") = true ∧
      ∃ w, kind.clean? (.number (.int 1)) = some w ∧ kind.clean? (.string "1") = some w := by
  have hfloat : Extended.ofText? (Text.trim "1") = some (.ofInt 1) ∧
      (Extended.ofInt 1).finite?.isSome = true := by
    decide +kernel
  have haccepts : ∀ kind : Kind, kind.keepsAccepted = false →
      (Leaf.bare kind).accepts (.number (.int 1)) = true ∧ (Leaf.bare kind).accepts (.string "1") = true := by
    intro kind h
    cases kind <;> cases h <;> decide +kernel
  refine ⟨(haccepts kind h).1, (haccepts kind h).2, ?_⟩
  cases kind with
  | float =>
    obtain ⟨x, hx⟩ := Option.isSome_iff_exists.1 hfloat.2
    refine ⟨.number (.float x), ?_, ?_⟩
    · rw [clean?, cleanFloat?, Json.Number.toExtended, hx]
      rfl
    · rw [clean?, cleanFloat?, hfloat.1, Option.bind_some, hx]
      rfl
  | bool | decimal | int | json | price | timestamp | uint => exact ⟨_, rfl, rfl⟩
  | _ => cases h

/-- **Only the kinds that keep what they accept never make one value of two.** -/
theorem Kind.keepsAccepted_iff {kind : Kind} : kind.keepsAccepted = true ↔
    ∀ v v' w, v.WellFormed → (Leaf.bare kind).accepts v = true → (Leaf.bare kind).accepts v' = true →
      kind.clean? v = some w → kind.clean? v' = some w → v.same v' = true := by
  constructor
  · intro hk v v' w hv haccepts haccepts' hw hw'
    have hkept : ∀ u, (Leaf.bare kind).accepts u = true → kind.clean? u = some u := by
      intro u hu
      rw [Leaf.accepts, List.isEmpty_iff, Leaf.failures_eq_nil_iff] at hu
      have hcheck := hu.resolve_left fun hnull => by cases hnull.2
      obtain ⟨r, hr, -⟩ := Leaf.check_eq_ok_iff.1 hcheck
      exact Leaf.clean?_of_accept_of_keepsAccepted (l := .bare kind) hk hr
    rw [hkept v haccepts, Option.some.injEq] at hw
    rw [hkept v' haccepts', Option.some.injEq] at hw'
    rw [hw', ← hw]
    exact Json.same_refl hv
  · intro h
    rw [← Bool.not_eq_false]
    intro hk
    obtain ⟨hnumber, htext, w, hw, hw'⟩ := Kind.clean?_one hk
    have hsame := h _ _ w (by decide) hnumber htext hw hw'
    cases hsame

theorem ArrayRule.cleanItems_forall₂ {clean : Cleaner} {path : Path} {items ws : List Json} {i : Nat}
    (h : cleanItems clean path i items = .ok ws) :
    List.Forall₂ (fun v w => ∃ p, clean v p = .ok w) items ws := by
  induction items generalizing i ws with
  | nil => cases h; exact .nil
  | cons v vs ih =>
    rw [cleanItems] at h
    split at h
    · cases h
    · next w hw =>
      obtain ⟨ws', hws', rfl⟩ := Except.map_eq_ok_iff.1 h
      exact .cons ⟨_, hw⟩ (ih hws')

namespace Node

/-- The node itself leaves what it accepts as it is: a leaf of such a kind, a hash under keys that are kept,
a record that has no field to drop. -/
def Verbatim : Node → Prop
  | leaf l => l.kind.keepsAccepted = true
  | hash rule _ => rule.key.kind.keepsTexts = true
  | record _ fields => ∀ e ∈ fields, e.2.isOptional = false
  | _ => True

/-- Cleaning a value that conforms gives the same value. -/
def Preserves (n : Node) : Prop :=
  ∀ v w path, v.WellFormed → n.Conforms v → n.clean v path = .ok w → v.same w = true

theorem preserves_leaf {l : Leaf} (hk : l.kind.keepsAccepted = true) : Preserves (leaf l) := by
  intro v w path hv hc hw
  rcases Leaf.clean_eq_ok hw with ⟨rfl, -, rfl⟩ | hclean
  · rfl
  · cases hc with
    | absent ho =>
      have ho : l.annotations.optional = true := ho
      rw [clean, Leaf.clean, if_pos (Json.absent_iff.2 ⟨rfl, ho⟩)] at hw
      cases hw
      rfl
    | leaf hcheck =>
      obtain ⟨r, hr, -⟩ := Leaf.check_eq_ok_iff.1 hcheck
      rw [Leaf.clean?_of_accept_of_keepsAccepted hk hr] at hclean
      cases hclean
      exact Json.same_refl hv

theorem preserves_array {rule : ArrayRule} {child : Node} (ih : Preserves child) :
    Preserves (array rule child) := by
  intro v w path hv hc hw
  rcases ArrayRule.clean_eq_ok hw with ⟨rfl, -, rfl⟩ | ⟨items, ws, rfl, hws, rfl⟩
  · rfl
  · cases hc with
    | array each =>
      have hitems := (List.forall₂_and_left items ws).2 ⟨fun v hmem => And.intro (hv.item v hmem) (each v hmem),
        ArrayRule.cleanItems_forall₂ hws⟩
      rw [Json.same_array_iff]
      exact hitems.imp fun v w ⟨⟨hv, hc⟩, p, hclean⟩ => ih v w p hv hc hclean

theorem preserves_hash {rule : HashRule} {child : Node} (hk : rule.key.kind.keepsTexts = true)
    (ih : Preserves child) : Preserves (hash rule child) := by
  intro v w path hv hc hw
  rcases HashRule.clean_eq_ok hw with ⟨rfl, -, rfl⟩ | ⟨members, m, rfl, hm, rfl⟩
  · rfl
  · cases hc with
    | hash keys each =>
      obtain ⟨es, rfl, hes⟩ := HashRule.cleanEntries_eq_insertAll hm
      simp only [Kind.keyOf?_of_keepsTexts hk, Option.some.injEq] at hes
      have hkeys : Members.keys members = Members.keys es := by
        rw [Members.keys, Members.keys, ← List.forall₂_eq_eq_eq, List.forall₂_map_left_iff,
          List.forall₂_map_right_iff]
        exact hes.imp fun e e' h => h.1
      have hnodup : (Members.keys es).Nodup := hkeys ▸ hv.nodup_keys
      change Json.same _ (.object (Members.ofPairs es)) = true
      rw [Members.ofPairs_of_nodup hnodup, Json.same_object_iff]
      refine ⟨hes.length_eq, fun e he => ?_⟩
      obtain ⟨e', he', hkey, hclean⟩ := exists_of_forall₂ hes e he
      exact ⟨e'.2, hkey ▸ Members.get?_of_mem hnodup he', ih _ _ _ (hv.member e he) (each e he) hclean⟩

theorem preserves_options {alternatives : List Node} (ih : ∀ n ∈ alternatives, Preserves n) :
    Preserves (options alternatives) := by
  intro v w path hv _ hw
  rcases clean_options_eq_ok hw with ⟨rfl, -, rfl⟩ | ⟨n, hmem, hnil, hclean⟩
  · rfl
  · exact ih n hmem v w path hv ((decides_conforms n v path).1 hnil) hclean

/-- Where no field may be absent, each is there before and after. -/
theorem preserves_fields {rule : RecordRule} {fields : List (String × Node)} (hd : (Members.keys fields).Nodup)
    (hf : ∀ e ∈ fields, e.2.isOptional = false) (ih : ∀ e ∈ fields, Preserves e.2)
    {members ws : List (String × Json)} {path : Path} (hv : (Json.object members).WellFormed)
    (hc : Conforms (record rule fields) (.object members))
    (hws : RecordRule.cleanFields members path (Members.mapValues clean fields) = .ok ws) :
    ∀ e ∈ fields, ∃ v w, Members.get? members e.1 = some v ∧ Members.get? ws e.1 = some w ∧
      v.same w = true := by
  obtain ⟨-, hfields⟩ := RecordRule.cleanFields_eq_ok (by rwa [Members.keys_mapValues]) hws
  cases hc with
  | record declared absent each =>
    intro e he
    have hset : ∃ v, Members.get? members e.1 = some v ∧ v.isNull = false := by
      by_contra hnone
      have ho := absent e he fun v hv' => by
        by_contra hnull
        exact hnone ⟨v, hv', by simpa using hnull⟩
      rw [hf e he] at ho
      cases ho
    obtain ⟨v, hv', hnull⟩ := hset
    obtain ⟨w, hw', p, hclean⟩ := (hfields (e.1, e.2.clean) (List.mem_map_of_mem he)).2 v
      (RecordRule.present?_eq_some_iff.2 ⟨hv', hnull⟩)
    have hwell := hv.member _ (Members.mem_of_get? hv')
    exact ⟨v, w, hv', hw', ih e he v w p hwell (each e he v hv' hnull) hclean⟩

theorem preserves_record {rule : RecordRule} {fields : List (String × Node)} (hd : (Members.keys fields).Nodup)
    (hf : ∀ e ∈ fields, e.2.isOptional = false) (ih : ∀ e ∈ fields, Preserves e.2) :
    Preserves (record rule fields) := by
  intro v w path hv hc hw
  rw [clean, fieldCleaners_eq] at hw
  rcases RecordRule.clean_eq_ok hw with ⟨rfl, -, rfl⟩ | ⟨members, ws, rfl, hws, rfl⟩
  · rfl
  · have hfound := preserves_fields hd hf ih hv hc hws
    have hnames := RecordRule.keys_cleanFields hws
    rw [Members.keys_mapValues] at hnames
    have hdeclared : ∀ key ∈ Members.keys members, key ∈ Members.keys fields := by
      cases hc with
      | record declared => exact declared
    have hperm : (Members.keys members).Perm (Members.keys ws) := by
      refine (List.perm_ext_iff_of_nodup hv.nodup_keys (hnames.nodup hd)).2 fun key =>
        ⟨fun hkey => ?_, fun hkey => ?_⟩
      · obtain ⟨e, he, rfl⟩ := List.mem_map.1 (hdeclared key hkey)
        obtain ⟨-, w, -, hw', -⟩ := hfound e he
        exact Members.mem_keys_of_get? hw'
      · obtain ⟨e, he, rfl⟩ := List.mem_map.1 (hnames.subset hkey)
        obtain ⟨v, -, hv', -⟩ := hfound e he
        exact Members.mem_keys_of_get? hv'
    rw [Json.same_object_iff]
    refine ⟨by simpa [Members.keys] using hperm.length_eq, fun e he => ?_⟩
    obtain ⟨e', he', hkey⟩ := List.mem_map.1 (hdeclared e.1 (List.mem_map_of_mem he))
    obtain ⟨v, w, hv', hw', hsame⟩ := hfound e' he'
    rw [hkey, Members.get?_of_mem hv.nodup_keys he] at hv'
    cases hv'
    exact ⟨w, hkey ▸ hw', hsame⟩

theorem preserves (n : Node) (hn : n.Everywhere Coherent) (hs : n.Everywhere Verbatim) : n.Preserves := by
  induction n with
  | leaf l => exact preserves_leaf (everywhere_leaf.1 hs)
  | array rule child ih =>
    rw [everywhere_array] at hn hs
    exact preserves_array (ih hn.2 hs.2)
  | hash rule child ih =>
    rw [everywhere_hash] at hn hs
    exact preserves_hash hs.1 (ih hn.2 hs.2)
  | options alternatives ih =>
    rw [everywhere_options] at hn hs
    exact preserves_options fun n hmem => ih n hmem (hn.2 n hmem) (hs.2 n hmem)
  | record rule fields ih =>
    rw [everywhere_record] at hn hs
    have hrule : rule.Coherent (Members.keys fields) := hn.1
    exact preserves_record hrule.nodup hs.1 fun e he => ih e he (hn.2 e he) (hs.2 e he)

/-! ## Lists without repeated items -/

/-- Where two cleaned items are the same, one of the two is not the same as the item it comes from. -/
theorem distinct_zip {items ws : List Json} (hv : ∀ v ∈ items, v.WellFormed) (hw : ∀ w ∈ ws, w.WellFormed)
    (hlength : ws.length = items.length) (hd : items.Pairwise fun v v' => v.same v' = false) :
    (items.zip ws).Pairwise fun e e' =>
      e.2.same e'.2 = true → e.1.same e.2 = false ∨ e'.1.same e'.2 = false := by
  have hfst : (items.zip ws).map Prod.fst = items := List.map_fst_zip (Nat.le_of_eq hlength.symm)
  rw [← hfst, List.pairwise_map] at hd
  refine hd.imp_of_mem fun {e e'} he he' hdistinct hsame => ?_
  by_contra hkept
  simp only [not_or, Bool.not_eq_false] at hkept
  have hwell := Json.same_symm (hv _ (List.of_mem_zip he').1) (hw _ (List.of_mem_zip he').2) hkept.2
  rw [Json.same_trans (Json.same_trans hkept.1 hsame) hwell] at hdistinct
  cases hdistinct

theorem distinct_of_zip {items ws : List Json} (hlength : ws.length = items.length)
    (hzip : (items.zip ws).Pairwise fun e e' =>
      e.2.same e'.2 = true → e.1.same e.2 = false ∨ e'.1.same e'.2 = false)
    (hkept : ∀ e ∈ items.zip ws, e.1.same e.2 = true) : ws.Pairwise fun w w' => w.same w' = false := by
  have hsnd : (items.zip ws).map Prod.snd = ws := List.map_snd_zip (Nat.le_of_eq hlength)
  rw [← hsnd, List.pairwise_map]
  refine hzip.imp_of_mem fun {e e'} he he' himp => ?_
  rw [← Bool.not_eq_true]
  intro hsame
  have hchanged := himp hsame
  simp [hkept e he, hkept e' he'] at hchanged

/-- The rule against repeated items finds nothing wrong with distinct ones. -/
theorem itemFailures_of_distinct {ws : List Json} (hd : ws.Pairwise fun w w' => w.same w' = false)
    (path : Path) :
    ArrayRule.itemFailures .unique (fun _ _ => []) path 0 [] ws = [] := by
  have hdecides : Checker.Decides (fun _ _ => []) fun _ => True := fun _ _ => ⟨fun _ => trivial, fun _ => rfl⟩
  exact (ArrayRule.itemFailures_eq_nil_iff hdecides .unique path ws 0 []).2 ⟨by simp, fun _ => ⟨by simp, hd⟩⟩

/-- **Cleaning a list without repeated items.** Two of the cleaned items are equal only if cleaning has
changed one of them. So where the items are left as they are, because they are clean or because of what
their node is, the cleaned list passes the rule against repeated items as well. -/
theorem distinct_clean {rule : ArrayRule} {child : Node} (hn : (array rule child).Reachable)
    (hu : rule.mode = .unique) {items : List Json} (hv : (Json.array items).WellFormed) {p q : Path}
    (h : (array rule child).failures (.array items) p = []) {w : Json}
    (hw : (array rule child).clean (.array items) q = .ok w) :
    ∃ ws, w = .array ws ∧ ws.length = items.length ∧
      ((items.zip ws).Pairwise fun e e' =>
        e.2.same e'.2 = true → e.1.same e.2 = false ∨ e'.1.same e'.2 = false) ∧
      ((∀ e ∈ items.zip ws, e.1.same e.2 = true) ∨ child.Everywhere Verbatim →
        (ws.Pairwise fun w w' => w.same w' = false) ∧
          ∀ r, ArrayRule.itemFailures .unique (fun _ _ => []) r 0 [] ws = []) := by
  have hcoherent := hn.coherent
  have hchild := (everywhere_array.1 hcoherent).2
  have hwell : w.WellFormed := wellFormed_clean _ hcoherent hv hw
  obtain ⟨hnull, -⟩ | ⟨_, ws, hitems, hws, rfl⟩ := ArrayRule.clean_eq_ok hw
  · cases hnull
  cases hitems
  have hconforms := (decides_conforms _ _ p).1 h
  cases hconforms with
  | array each distinct =>
    have hforall := ArrayRule.cleanItems_forall₂ hws
    have hlength : ws.length = items.length := hforall.length_eq.symm
    have hzip := distinct_zip hv.item hwell.item hlength (distinct hu)
    refine ⟨ws, rfl, hlength, hzip, fun hkept => ?_⟩
    have hsame : ∀ e ∈ items.zip ws, e.1.same e.2 = true := by
      rcases hkept with hkept | hverbatim
      · exact hkept
      · rintro ⟨v, w⟩ he
        have hmem := (List.of_mem_zip he).1
        obtain ⟨r, hclean⟩ := (List.forall₂_iff_zip.1 hforall).2 he
        exact child.preserves hchild hverbatim v w r (hv.item v hmem) (each v hmem) hclean
    have hdistinct := distinct_of_zip hlength hzip hsame
    exact ⟨hdistinct, itemFailures_of_distinct hdistinct⟩

/-- Texts of one kind, which come out as they are. -/
theorem distinct_clean_texts :
    let rule : ArrayRule := ⟨.plain, .unique, none, none⟩
    let v : Json := .array [.string "a", .string "A"]
    ofFragment (.object [("__array__", .string "unique"), ("__type__", .string "string")]) =
        .ok (array rule (leaf (.bare .string))) ∧
      (array rule (leaf (.bare .string))).failures v .root = [] ∧
      ∃ ws, v = .array ws ∧ ∀ r, ArrayRule.itemFailures .unique (fun _ _ => []) r 0 [] ws = [] := by
  intro rule v
  have hcompile : ofFragment (.object [("__array__", .string "unique"), ("__type__", .string "string")]) =
      .ok (array rule (leaf (.bare .string))) := by rfl
  have hpasses : (array rule (leaf (.bare .string))).failures v .root = [] := by rfl
  have hclean : (array rule (leaf (.bare .string))).clean v .root = .ok v := by rfl
  obtain ⟨ws, hws, -, -, hdistinct⟩ :=
    distinct_clean (.compiled (by decide) hcompile) rfl (by decide) hpasses hclean
  exact ⟨hcompile, hpasses, ws, hws, (hdistinct (.inr (by simp [Verbatim, Leaf.bare, Kind.keepsAccepted]))).2⟩

/-- A bool and a text for it differ until they are cleaned. -/
theorem exists_repeat :
    ¬ ∀ (rule : ArrayRule) (child : Node) (items ws : List Json), (array rule child).Reachable →
      rule.mode = .unique → (Json.array items).WellFormed →
      (array rule child).failures (.array items) .root = [] →
      (array rule child).clean (.array items) .root = .ok (.array ws) →
        ws.Pairwise fun w w' => w.same w' = false := by
  intro h
  have hcompile : ofFragment (.object [("__array__", .string "unique"), ("__type__", .string "bool")]) =
      .ok (array ⟨.plain, .unique, none, none⟩ (leaf (.bare .bool))) := by rfl
  have hpair := h _ _ [.bool true, .string "yes"] [.bool true, .bool true] (.compiled (by decide) hcompile) rfl
    (by decide) (by rfl) (by rfl)
  simp [Json.same] at hpair

end Node

end RecordSchema
