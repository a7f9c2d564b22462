/-
Cleaning keeps what conforms conforming.

Cleaning rewrites the leaves of a value, drops the null fields of its records
and rewrites the keys of its hashes. A field that another one needs has to
stay set through that, so the induction carries more than acceptance: a value
that is not null does not become null, and one that sets a field does not
become a text that leaves it unset.

Two kinds of node are left out (`Keeps`): a list that forbids repeated items,
since cleaning can make two items equal, and a hash under floating-point
keys, whose cleaned texts need not be in a decimal's form.
-/
import RecordSchema.Proofs.Except
import RecordSchema.Proofs.Leaf.Stable
import RecordSchema.Proofs.Members
import RecordSchema.Proofs.Node.Coherent
import RecordSchema.Proofs.Node.Conforms

namespace RecordSchema

/-- The value of a field that is set. -/
def Json.IsFilled (v : Json) : Prop := v.isNull = false ∧ ∀ s ∈ RecordRule.unsetTexts, v ≠ .string s

namespace Node

/-- The node itself is neither a list without repeated items nor a hash under floating-point keys. -/
def Keeps : Node → Prop
  | array rule _ => rule.mode ≠ .unique
  | hash rule _ => rule.key.kind ≠ .float
  | _ => True

/-- Checking or cleaning a value brings a leaf to a value within it. -/
inductive Reaches : Node → Json → Leaf → Json → Prop where
  | leaf {l v} : Reaches (leaf l) v l v
  | array {rule child items v l u} (mem : v ∈ items) (reaches : Reaches child v l u) :
      Reaches (array rule child) (.array items) l u
  | hash {rule child members e l u} (mem : e ∈ members) (reaches : Reaches child e.2 l u) :
      Reaches (hash rule child) (.object members) l u
  | options {alternatives n v l u} (mem : n ∈ alternatives) (reaches : Reaches n v l u) :
      Reaches (options alternatives) v l u
  | record {rule fields members e v l u} (mem : e ∈ fields) (found : Members.get? members e.1 = some v)
      (reaches : Reaches e.2 v l u) : Reaches (record rule fields) (.object members) l u

/-- The values that a kind of JSON texts has to print can be read back. -/
def PrintsJson (n : Node) (v : Json) : Prop :=
  ∀ l u, n.Reaches v l u → l.kind = .json → u.isString = false → (Json.parse? u.text).isSome = true

/-- What a cleaned value keeps of the value it comes from. -/
structure Kept (n : Node) (v w : Json) : Prop where
  conforms : n.Conforms w
  isNull : v.isNull = false → w.isNull = false
  isFilled : v.IsFilled → w.IsFilled

/-- Where a value is taken for absent, it is kept as it is. -/
theorem kept_null {n : Node} (ho : n.isOptional = true) : Kept n .null .null :=
  ⟨.absent ho, fun h => h, fun h => h⟩

/-- A list or an object in place of a value is set. -/
theorem kept_of_conforms {n : Node} {v w : Json} (hn : w.isNull = false) (hs : w.isString = false)
    (h : n.Conforms w) : Kept n v w := by
  refine ⟨h, fun _ => hn, fun _ => ⟨hn, fun s _ he => ?_⟩⟩
  rw [he] at hs
  cases hs

/-! ## Leaves -/

theorem unsetTexts_unread : ∀ s ∈ RecordRule.unsetTexts,
    ((Decimal.ofText? s).isSome = false ∧ (Json.parse? s).isSome = false) := by decide

theorem kept_leaf {l : Leaf} {v w : Json} (hv : v.WellFormed)
    (hj : l.kind = .json → v.isString = false → (Json.parse? v.text).isSome = true) (h : l.check v = .ok ())
    (hw : l.kind.clean? v = some w) : Kept (.leaf l) v w := by
  obtain ⟨r, hr, -⟩ := Leaf.check_eq_ok_iff.1 h
  have hconforms : Conforms (.leaf l) w := .leaf (Leaf.check_clean? hv hj h hw)
  rcases Leaf.clean?_cases hv hj hr hw with rfl | ⟨b, rfl⟩ | ⟨n, rfl⟩ | ⟨s, rfl, hread⟩
  · exact ⟨hconforms, fun h => h, fun h => h⟩
  · exact kept_of_conforms rfl rfl hconforms
  · exact kept_of_conforms rfl rfl hconforms
  · refine ⟨hconforms, fun _ => rfl, fun _ => ⟨rfl, ?_⟩⟩
    intro t ht hst
    cases hst
    simp [unsetTexts_unread s ht] at hread

end Node

/-! ## What cleaning makes of the parts -/

theorem ArrayRule.clean_null {rule : ArrayRule} (ho : rule.annotations.optional = true) (clean : Cleaner)
    (path : Path) : rule.clean clean .null path = .ok .null :=
  if_pos (Json.absent_iff.2 ⟨rfl, ho⟩)

theorem HashRule.clean_null {rule : HashRule} (ho : rule.annotations.optional = true) (clean : Cleaner)
    (path : Path) : rule.clean clean .null path = .ok .null :=
  if_pos (Json.absent_iff.2 ⟨rfl, ho⟩)

theorem RecordRule.clean_null {rule : RecordRule} (ho : rule.annotations.optional = true)
    (cleaners : List (String × Cleaner)) (path : Path) : rule.clean cleaners .null path = .ok .null :=
  if_pos (Json.absent_iff.2 ⟨rfl, ho⟩)

theorem RecordRule.clean_object_eq_ok {rule : RecordRule} {cleaners : List (String × Cleaner)}
    {record : Members Json} {path : Path} {w : Json}
    (h : rule.clean cleaners (.object record) path = .ok w) :
    ∃ ws, cleanFields record path cleaners = .ok ws ∧ w = .object ws := by
  simp only [RecordRule.clean, Json.isNull, Bool.false_and, Bool.false_eq_true, if_false] at h
  split at h
  · cases h
  · obtain ⟨ws, hws, rfl⟩ := Except.map_eq_ok_iff.1 h
    exact ⟨ws, hws, rfl⟩

theorem ArrayRule.clean_eq_ok {rule : ArrayRule} {clean : Cleaner} {v w : Json} {path : Path}
    (h : rule.clean clean v path = .ok w) : (v = .null ∧ rule.annotations.optional = true ∧ w = .null) ∨
      ∃ items ws, v = .array items ∧ cleanItems clean path 0 items = .ok ws ∧ w = .array ws := by
  unfold ArrayRule.clean at h
  split at h
  · next hnull =>
    obtain ⟨rfl, ho⟩ := Json.absent_iff.1 hnull
    cases h
    exact .inl ⟨rfl, ho, rfl⟩
  · cases v with
    | array items =>
      obtain ⟨ws, hws, rfl⟩ := Except.map_eq_ok_iff.1 h
      exact .inr ⟨items, ws, rfl, hws, rfl⟩
    | _ => cases h

theorem HashRule.clean_eq_ok {rule : HashRule} {clean : Cleaner} {v w : Json} {path : Path}
    (h : rule.clean clean v path = .ok w) : (v = .null ∧ rule.annotations.optional = true ∧ w = .null) ∨
      ∃ members m, v = .object members ∧ rule.cleanEntries clean path [] members = .ok m ∧ w = .object m := by
  unfold HashRule.clean at h
  split at h
  · next hnull =>
    obtain ⟨rfl, ho⟩ := Json.absent_iff.1 hnull
    cases h
    exact .inl ⟨rfl, ho, rfl⟩
  · cases v with
    | object members =>
      obtain ⟨m, hm, rfl⟩ := Except.map_eq_ok_iff.1 h
      exact .inr ⟨members, m, rfl, hm, rfl⟩
    | _ => cases h

theorem RecordRule.clean_eq_ok {rule : RecordRule} {cleaners : List (String × Cleaner)} {v w : Json}
    {path : Path} (h : rule.clean cleaners v path = .ok w) :
    (v = .null ∧ rule.annotations.optional = true ∧ w = .null) ∨
      ∃ record ws, v = .object record ∧ cleanFields record path cleaners = .ok ws ∧ w = .object ws := by
  cases v with
  | object record =>
    obtain ⟨ws, hws, rfl⟩ := RecordRule.clean_object_eq_ok h
    exact .inr ⟨record, ws, rfl, hws, rfl⟩
  | _ =>
    unfold RecordRule.clean at h
    split at h
    · next hnull =>
      obtain ⟨hv, ho⟩ := Json.absent_iff.1 hnull
      cases h
      exact .inl ⟨hv, ho, rfl⟩
    · cases h

theorem ArrayRule.cleanItems_eq_ok {clean : Cleaner} {path : Path} {items ws : List Json} {i : Nat}
    (h : cleanItems clean path i items = .ok ws) :
    ws.length = items.length ∧ ∀ w ∈ ws, ∃ v ∈ items, ∃ p, clean v p = .ok w := by
  induction items generalizing i ws with
  | nil => cases h; simp
  | cons v vs ih =>
    rw [cleanItems] at h
    split at h
    · cases h
    · next w hw =>
      obtain ⟨rest, hrest, rfl⟩ := Except.map_eq_ok_iff.1 h
      obtain ⟨hlen, hmem⟩ := ih hrest
      refine ⟨by simp [hlen], List.forall_mem_cons.2 ⟨⟨v, List.mem_cons_self .., _, hw⟩, fun u hu => ?_⟩⟩
      obtain ⟨v', hv', hclean⟩ := hmem u hu
      exact ⟨v', List.mem_cons_of_mem _ hv', hclean⟩

theorem HashRule.cleanEntries_eq_ok {rule : HashRule} {clean : Cleaner} {path : Path}
    {members : List (String × Json)} {done m : Members Json}
    (h : rule.cleanEntries clean path done members = .ok m) : ∀ e ∈ m, e ∈ done ∨ ∃ e' ∈ members,
      (∃ p, rule.cleanKey e'.1 p = .ok e.1) ∧ ∃ p, clean e'.2 p = .ok e.2 := by
  induction members generalizing done with
  | nil => cases h; exact fun e he => .inl he
  | cons e' rest ih =>
    obtain ⟨key, v⟩ := e'
    simp only [cleanEntries] at h
    split at h
    · cases h
    · next key' hkey =>
      split at h
      · cases h
      · next w hw =>
        intro e he
        rcases ih h e he with hdone | ⟨e', hmem, hclean⟩
        · rcases Members.mem_insert hdone with rfl | hdone
          · exact .inr ⟨_, List.mem_cons_self .., ⟨_, hkey⟩, _, hw⟩
          · exact .inl hdone
        · exact .inr ⟨e', List.mem_cons_of_mem _ hmem, hclean⟩

theorem HashRule.cleanKey_eq_ok {rule : HashRule} {key key' : String} {path : Path}
    (h : rule.cleanKey key path = .ok key') :
    ∃ w, rule.key.kind.clean? (.string key) = some w ∧ key' = Leaf.keyText w := by
  rw [cleanKey, Except.map_eq_ok_iff] at h
  obtain ⟨w, hw, rfl⟩ := h
  rw [Leaf.clean] at hw
  split at hw
  · next hnull => simp [Json.isNull] at hnull
  · split at hw
    · next w' hw' => cases hw; exact ⟨w, hw', by unfold Leaf.keyText; rfl⟩
    · cases hw

/-- The cleaned fields are those that are present, each under its own name. -/
theorem RecordRule.cleanFields_eq_ok {record : Members Json} {path : Path}
    {cleaners : List (String × Cleaner)} {ws : List (String × Json)} (hn : (Members.keys cleaners).Nodup)
    (h : cleanFields record path cleaners = .ok ws) :
    (∀ key ∈ Members.keys ws, key ∈ Members.keys cleaners) ∧ ∀ c ∈ cleaners,
      (present? record c.1 = none → Members.get? ws c.1 = none) ∧
        ∀ v, present? record c.1 = some v → ∃ w, Members.get? ws c.1 = some w ∧ ∃ p, c.2 v p = .ok w := by
  induction cleaners generalizing ws with
  | nil => cases h; simp [Members.keys]
  | cons c rest ih =>
    obtain ⟨name, cleaner⟩ := c
    obtain ⟨hname, hn⟩ := List.nodup_cons.1 hn
    have hother : ∀ c ∈ rest, name ≠ c.1 := by
      rintro c hc rfl
      have hmem : c.1 ∈ Members.keys rest := List.mem_map_of_mem hc
      exact hname hmem
    simp only [cleanFields] at h
    split at h
    · next habsent =>
      obtain ⟨hkeys, hfields⟩ := ih hn h
      refine ⟨fun key hkey => List.mem_cons_of_mem _ (hkeys key hkey),
        List.forall_mem_cons.2 ⟨⟨fun _ => ?_, fun v hv => by simp [habsent] at hv⟩, hfields⟩⟩
      exact Members.get?_eq_none_iff.2 fun hmem => hname (hkeys _ hmem)
    · next v hv =>
      split at h
      · cases h
      · next w hw =>
        obtain ⟨rest', hrest, rfl⟩ := Except.map_eq_ok_iff.1 h
        obtain ⟨hkeys, hfields⟩ := ih hn hrest
        have hself : Members.get? ((name, w) :: rest') name = some w := by
          rw [Members.get?_cons, if_pos rfl]
        refine ⟨List.forall_mem_cons.2
            ⟨List.mem_cons_self .., fun key hkey => List.mem_cons_of_mem _ (hkeys key hkey)⟩,
          List.forall_mem_cons.2 ⟨⟨fun h => by simp [hv] at h, fun u hu => ?_⟩, fun c hc => ?_⟩⟩
        · rw [hv] at hu
          cases hu
          exact ⟨w, hself, _, hw⟩
        · rw [Members.get?_cons, if_neg (hother c hc)]
          exact hfields c hc

/-! ## Nodes -/

namespace Node

/-- Cleaning a value that conforms keeps what it has to. -/
def Stays (n : Node) : Prop :=
  ∀ v w path, v.WellFormed → n.PrintsJson v → n.Conforms v → n.clean v path = .ok w → n.Kept v w

theorem stays_leaf (l : Leaf) : Stays (leaf l) := by
  intro v w path hv hj hc hw
  rw [clean, Leaf.clean] at hw
  split at hw
  · next hnull =>
    obtain ⟨rfl, ho⟩ := Json.absent_iff.1 hnull
    cases hw
    exact kept_null ho
  · next hnull =>
    rw [Json.absent_iff] at hnull
    split at hw
    · next w' hw' =>
      cases hw
      cases hc with
      | absent ho => exact absurd ⟨rfl, ho⟩ hnull
      | leaf h => exact kept_leaf hv (hj l v .leaf) h hw'
    · cases hw

theorem stays_array {rule : ArrayRule} {child : Node} (hk : rule.mode ≠ .unique) (ih : Stays child) :
    Stays (array rule child) := by
  intro v w path hv hj hc hw
  rw [clean] at hw
  cases hc with
  | absent ho =>
    rw [ArrayRule.clean_null ho] at hw
    cases hw
    exact kept_null ho
  | @array _ _ items each distinct least most =>
    change (ArrayRule.cleanItems _ _ _ _).map _ = _ at hw
    obtain ⟨ws, hws, rfl⟩ := Except.map_eq_ok_iff.1 hw
    obtain ⟨hlen, hitems⟩ := ArrayRule.cleanItems_eq_ok hws
    refine kept_of_conforms rfl rfl (.array ?_ (fun h => absurd h hk) (hlen ▸ least) (hlen ▸ most))
    intro u hu
    obtain ⟨v, hmem, p, hclean⟩ := hitems u hu
    exact (ih v u p (hv.item v hmem) (fun l u h => hj l u (.array hmem h)) (each v hmem) hclean).conforms

theorem stays_hash {rule : HashRule} {child : Node} (hk : rule.key.kind ≠ .float) (ih : Stays child) :
    Stays (hash rule child) := by
  intro v w path hv hj hc hw
  rw [clean] at hw
  cases hc with
  | absent ho =>
    rw [HashRule.clean_null ho] at hw
    cases hw
    exact kept_null ho
  | @hash _ _ members keys each =>
    change (rule.cleanEntries _ _ _ _).map _ = _ at hw
    obtain ⟨m, hm, rfl⟩ := Except.map_eq_ok_iff.1 hw
    have hentries := HashRule.cleanEntries_eq_ok hm
    refine kept_of_conforms rfl rfl (.hash (fun e he => ?_) fun e he => ?_)
    · obtain ⟨e', hmem, ⟨p, hkey⟩, -⟩ := (hentries e he).resolve_left (by simp)
      obtain ⟨u, hu, hkey⟩ := HashRule.cleanKey_eq_ok hkey
      rw [hkey]
      exact Leaf.check_keyText hk (keys e' hmem) hu
    · obtain ⟨e', hmem, -, p, hclean⟩ := (hentries e he).resolve_left (by simp)
      exact (ih e'.2 e.2 p (hv.member e' hmem) (fun l u h => hj l u (.hash hmem h)) (each e' hmem)
        hclean).conforms

theorem clean_options_eq_ok {alternatives : List Node} {v w : Json} {path : Path}
    (h : (options alternatives).clean v path = .ok w) :
    (v = .null ∧ allOptional alternatives = true ∧ w = .null) ∨
      ∃ n ∈ alternatives, n.failures v path = [] ∧ n.clean v path = .ok w := by
  unfold clean at h
  split at h
  · next hnull =>
    obtain ⟨rfl, ho⟩ := Json.absent_iff.1 hnull
    cases h
    exact .inl ⟨rfl, ho, rfl⟩
  · rw [cleaners_eq, List.find?_map] at h
    cases hfind : alternatives.find? ((fun a => (a.1 v path).isEmpty) ∘ fun n => (n.failures, n.clean)) with
    | none =>
      rw [hfind] at h
      cases h
    | some n =>
      rw [hfind] at h
      exact .inr ⟨n, List.mem_of_find?_eq_some hfind, by simpa using List.find?_some hfind, h⟩

/-- A choice cleans by the first option that accepts, and the result conforms to the same option. -/
theorem stays_options {alternatives : List Node} (ih : ∀ n ∈ alternatives, Stays n) :
    Stays (options alternatives) := by
  intro v w path hv hj hc hw
  rcases clean_options_eq_ok hw with ⟨rfl, ho, rfl⟩ | ⟨n, hmem, hnil, hclean⟩
  · exact kept_null ho
  · have hkept := ih n hmem v w path hv (fun l u h => hj l u (.options hmem h))
      ((decides_conforms n v path).1 hnil) hclean
    exact ⟨.options hmem hkept.conforms, hkept.isNull, hkept.isFilled⟩

theorem stays_record {rule : RecordRule} {fields : List (String × Node)} (hd : (Members.keys fields).Nodup)
    (ih : ∀ e ∈ fields, Stays e.2) : Stays (record rule fields) := by
  intro v w path hv hj hc hw
  rw [clean, fieldCleaners_eq] at hw
  cases hc with
  | absent ho =>
    rw [RecordRule.clean_null ho] at hw
    cases hw
    exact kept_null ho
  | @record _ _ members declared absent each needs =>
    obtain ⟨ws, hws, rfl⟩ := RecordRule.clean_object_eq_ok hw
    have hnames := Members.keys_mapValues clean fields
    obtain ⟨hkeys, hfields⟩ := RecordRule.cleanFields_eq_ok (by rwa [hnames]) hws
    rw [hnames] at hkeys
    -- fields before and after, in both directions
    have hpresent : ∀ e ∈ fields, ∀ v, Members.get? members e.1 = some v → v.isNull = false →
        ∃ w, Members.get? ws e.1 = some w ∧ e.2.Kept v w := by
      intro e he v hv' hnull
      obtain ⟨w, hw, p, hclean⟩ := (hfields (e.1, e.2.clean) (List.mem_map_of_mem he)).2 v
        (RecordRule.present?_eq_some_iff.2 ⟨hv', hnull⟩)
      exact ⟨w, hw, ih e he v w p (hv.member _ (Members.mem_of_get? hv'))
        (fun l u h => hj l u (.record he hv' h))
        (each e he v hv' hnull) hclean⟩
    have hfrom : ∀ e ∈ fields, ∀ w, Members.get? ws e.1 = some w →
        ∃ v, Members.get? members e.1 = some v ∧ v.isNull = false ∧ e.2.Kept v w := by
      intro e he w hw
      cases hv' : RecordRule.present? members e.1 with
      | none => simp [(hfields (e.1, e.2.clean) (List.mem_map_of_mem he)).1 hv'] at hw
      | some v =>
        obtain ⟨hv', hnull⟩ := RecordRule.present?_eq_some_iff.1 hv'
        obtain ⟨w', hw', hkept⟩ := hpresent e he v hv' hnull
        rw [hw] at hw'
        cases hw'
        exact ⟨v, hv', hnull, hkept⟩
    refine kept_of_conforms rfl rfl (.record hkeys ?_ ?_ ?_)
    · intro e he hnull
      refine absent e he fun v hv' => ?_
      cases hnull' : v.isNull with
      | true => rfl
      | false =>
        obtain ⟨w, hw, hkept⟩ := hpresent e he v hv' hnull'
        exact absurd (hnull w hw) (by simp [hkept.isNull hnull'])
    · intro e he w hw _
      obtain ⟨v, -, -, hkept⟩ := hfrom e he w hw
      exact hkept.conforms
    · intro e he w hw _ others hothers other hother
      obtain ⟨v, hv', hnull, -⟩ := hfrom e he w hw
      obtain ⟨u, hu, hfilled⟩ := needs e he v hv' hnull others hothers other hother
      have hkey : other ∈ Members.keys members := List.mem_map_of_mem (Members.mem_of_get? hu)
      obtain ⟨e', he', rfl⟩ := List.mem_map.1 (declared other hkey)
      obtain ⟨w', hw', hkept⟩ := hpresent e' he' u hu hfilled.1
      exact ⟨w', hw', hkept.isFilled hfilled⟩

theorem stays (n : Node) (hn : n.Everywhere Coherent) (hk : n.Everywhere Keeps) : n.Stays := by
  induction n with
  | leaf l => exact stays_leaf l
  | array rule child ih =>
    rw [everywhere_array] at hn hk
    exact stays_array hk.1 (ih hn.2 hk.2)
  | hash rule child ih =>
    rw [everywhere_hash] at hn hk
    exact stays_hash hk.1 (ih hn.2 hk.2)
  | options alternatives ih =>
    rw [everywhere_options] at hn hk
    exact stays_options fun n hmem => ih n hmem (hn.2 n hmem) (hk.2 n hmem)
  | record rule fields ih =>
    rw [everywhere_record] at hn hk
    have hrule : rule.Coherent (Members.keys fields) := hn.1
    exact stays_record hrule.nodup fun e he => ih e he (hn.2 e he) (hk.2 e he)

/-- **A value that passes still does once it is cleaned**, at whatever paths the three walks start. -/
theorem failures_clean {n : Node} (hn : n.Reachable) (hk : n.Everywhere Keeps) {v w : Json}
    (hv : v.WellFormed)
    (hj : n.PrintsJson v) {p q : Path} (h : n.failures v p = []) (hw : n.clean v q = .ok w) (r : Path) :
    n.failures w r = [] :=
  (decides_conforms n w r).2 (n.stays hn.coherent hk v w q hv hj ((decides_conforms n v p).1 h) hw).conforms

/-- A text for true becomes true, and a null field is dropped. -/
theorem failures_clean_flag :
    ofFragment (.object [("flag", .string "bool"), ("note", .object [("__type__", .string "string"),
      ("__optional__", .bool true)])]) = .ok (record ⟨.plain, []⟩ [("flag", leaf (.bare .bool)),
        ("note", leaf { Leaf.bare .string with annotations := ⟨true, []⟩ })]) ∧
      ∀ r, (record ⟨.plain, []⟩ [("flag", leaf (.bare .bool)),
        ("note", leaf { Leaf.bare .string with annotations := ⟨true, []⟩ })]).failures
          (.object [("flag", .bool true)]) r = [] := by
  have hcompile :
      ofFragment (.object [("flag", .string "bool"), ("note", .object [("__type__", .string "string"),
      ("__optional__", .bool true)])]) = .ok (record ⟨.plain, []⟩ [("flag", leaf (.bare .bool)),
        ("note", leaf { Leaf.bare .string with annotations := ⟨true, []⟩ })]) := by rfl
  refine ⟨hcompile, fun r => ?_⟩
  refine failures_clean (v := .object [("note", .null), ("flag", .string "yes")]) (p := .root) (q := .root)
    (.compiled (by decide) hcompile) (by simp [Keeps]) (by decide) ?_ (by rfl) (by rfl) r
  rintro l u hreach hk
  cases hreach with
  | record mem found reaches =>
    simp only [List.mem_cons, List.not_mem_nil, or_false] at mem
    rcases mem with rfl | rfl <;> cases reaches <;> cases hk

end Node

end RecordSchema
