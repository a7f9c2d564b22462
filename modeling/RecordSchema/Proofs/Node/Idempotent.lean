/-
Cleaning a cleaned value changes nothing, the order of its members included.

The second pass meets what the first one made: items, entries and fields that
each come out of it as they are (`Cleaner.SettlesAt`). That a container then
gives back the whole needs the form that the first pass gave it: a hash repeats
no cleaned key, so every entry is put behind those before it, and a record has
its fields in the order of declaration, none of them null.

Two kinds of node ask for more (`Undisturbed`): a choice of options, whose
second pass may be by another option than the first, and a hash under
floating-point keys, which are written as texts that need not be read as the
same number. A node with neither of them in it (`Steady`) settles every value.
-/
import RecordSchema.Proofs.Leaf.Idempotent
import RecordSchema.Proofs.Node.Choice

namespace RecordSchema

/-- What the value is cleaned to is cleaned to itself, and is null only if the value is. -/
def Cleaner.SettlesAt (clean : Cleaner) (v : Json) : Prop :=
  ∀ w p, clean v p = .ok w → (∀ q, clean w q = .ok w) ∧ (v.isNull = false → w.isNull = false)

/-- What a value is cleaned to is cleaned to itself, and is null only if the value is. -/
def Cleaner.Settles (clean : Cleaner) : Prop :=
  ∀ v w p, v.WellFormed → clean v p = .ok w →
    (∀ q, clean w q = .ok w) ∧ (v.isNull = false → w.isNull = false)

/-! ## Leaves -/

theorem Leaf.settlesAt (l : Leaf) {v : Json} (hv : v.WellFormed) : Cleaner.SettlesAt l.clean v := by
  intro w p hw
  rcases Leaf.clean_eq_ok hw with ⟨rfl, ho, rfl⟩ | hw
  · exact ⟨fun q => if_pos (Json.absent_iff.2 ⟨rfl, ho⟩), id⟩
  · obtain ⟨hself, hnull⟩ := Kind.clean?_clean? hv hw
    exact ⟨Leaf.clean_eq_self hself, hnull⟩

/-! ## Lists -/

namespace ArrayRule

theorem cleanItems_eq_self {clean : Cleaner} {path : Path} {items : List Json}
    (h : ∀ v ∈ items, ∀ p, clean v p = .ok v) : ∀ i, cleanItems clean path i items = .ok items := by
  induction items with
  | nil => exact fun _ => rfl
  | cons v vs ih =>
    rw [List.forall_mem_cons] at h
    intro i
    rw [cleanItems, h.1]
    dsimp only
    rw [ih h.2]
    rfl

theorem settlesAt (rule : ArrayRule) {clean : Cleaner} {v : Json}
    (hc : ∀ items, v = .array items → ∀ u ∈ items, clean.SettlesAt u) : Cleaner.SettlesAt (rule.clean clean) v := by
  intro w p hw
  rcases ArrayRule.clean_eq_ok hw with ⟨rfl, ho, rfl⟩ | ⟨items, ws, rfl, hws, rfl⟩
  · exact ⟨ArrayRule.clean_null ho clean, id⟩
  · obtain ⟨-, hitems⟩ := cleanItems_eq_ok hws
    have hself : ∀ u ∈ ws, ∀ q, clean u q = .ok u := by
      intro u hu
      obtain ⟨v, hmem, p, hclean⟩ := hitems u hu
      exact (hc items rfl v hmem u p hclean).1
    refine ⟨fun q => ?_, fun _ => rfl⟩
    change (cleanItems clean q 0 ws).map _ = _
    rw [cleanItems_eq_self hself]
    rfl

end ArrayRule

/-! ## Hashes -/

namespace HashRule

variable {rule : HashRule} {clean : Cleaner}

theorem nodup_cleanEntries {path : Path} {members : List (String × Json)} {done m : Members Json}
    (hd : (Members.keys done).Nodup) (h : rule.cleanEntries clean path done members = .ok m) :
    (Members.keys m).Nodup := by
  induction members generalizing done with
  | nil => cases h; exact hd
  | cons e rest ih =>
    obtain ⟨key, v⟩ := e
    simp only [cleanEntries] at h
    split at h
    · cases h
    · split at h
      · cases h
      · exact ih (Members.nodup_keys_insert hd ..) h

/-- What a key is cleaned to, written as a text, is cleaned to itself. -/
def KeySettles (rule : HashRule) (key : String) : Prop :=
  ∀ key' p, rule.cleanKey key p = .ok key' → ∀ q, rule.cleanKey key' q = .ok key'

theorem keySettles (hk : rule.key.kind ≠ .float) (key : String) : rule.KeySettles key := by
  intro key' p h q
  obtain ⟨w, hw, rfl⟩ := cleanKey_eq_ok h
  have hclean : rule.key.clean (.string (Leaf.keyText w)) q = .ok w := by
    unfold Leaf.clean
    rw [Kind.clean?_keyText hk hw]
    rfl
  rw [cleanKey, hclean]
  unfold Leaf.keyText
  rfl

/-- Entries that are clean already are put, one by one, behind those before them. -/
theorem cleanEntries_eq_self {path : Path} {members : List (String × Json)}
    (h : ∀ e ∈ members, (∀ p, rule.cleanKey e.1 p = .ok e.1) ∧ ∀ p, clean e.2 p = .ok e.2) :
    ∀ {done : Members Json}, (Members.keys (done ++ members)).Nodup →
      rule.cleanEntries clean path done members = .ok (done ++ members) := by
  induction members with
  | nil => intro done _; rw [cleanEntries, List.append_nil]
  | cons e rest ih =>
    intro done hn
    obtain ⟨key, v⟩ := e
    obtain ⟨⟨hkey, hv⟩, hrest⟩ := List.forall_mem_cons.1 h
    -- No key repeats, so the entry goes behind those that are done.
    have hnew : key ∉ Members.keys done := by
      intro hmem
      simp only [Members.keys, List.map_append, List.map_cons] at hn hmem
      exact (List.nodup_append.1 hn).2.2 key hmem key (List.mem_cons_self ..) rfl
    rw [List.append_cons] at hn ⊢
    rw [cleanEntries, hkey]
    dsimp only at hv ⊢
    rw [hv]
    dsimp only
    rw [Members.insert_of_not_mem hnew]
    exact ih hrest hn

theorem settlesAt {v : Json} (hk : ∀ members, v = .object members → ∀ e ∈ members, rule.KeySettles e.1)
    (hc : ∀ members, v = .object members → ∀ e ∈ members, clean.SettlesAt e.2) :
    Cleaner.SettlesAt (rule.clean clean) v := by
  intro w p hw
  rcases HashRule.clean_eq_ok hw with ⟨rfl, ho, rfl⟩ | ⟨members, m, rfl, hm, rfl⟩
  · exact ⟨HashRule.clean_null ho clean, id⟩
  · have hself : ∀ e ∈ m, (∀ p, rule.cleanKey e.1 p = .ok e.1) ∧ ∀ p, clean e.2 p = .ok e.2 := by
      intro e he
      obtain ⟨e', hmem, ⟨p, hkey⟩, q, hclean⟩ := (cleanEntries_eq_ok hm e he).resolve_left (by simp)
      exact ⟨hk members rfl e' hmem e.1 p hkey, (hc members rfl e' hmem e.2 q hclean).1⟩
    refine ⟨fun q => ?_, fun _ => rfl⟩
    change (rule.cleanEntries clean q [] m).map _ = _
    rw [cleanEntries_eq_self hself (nodup_cleanEntries (by simp [Members.keys]) hm)]
    rfl

end HashRule

/-! ## Records -/

namespace RecordRule

/-- Cleaned fields come out of a record that has them as they are and in their order. -/
theorem cleanFields_eq_self {cleaners : List (String × Cleaner)} (hn : (Members.keys cleaners).Nodup)
    {record : Members Json} (hc : ∀ c ∈ cleaners, ∀ u, present? record c.1 = some u → c.2.SettlesAt u)
    {path : Path} {ws : List (String × Json)} (h : cleanFields record path cleaners = .ok ws)
    {record' : Members Json} (hw : ∀ c ∈ cleaners, Members.get? record' c.1 = Members.get? ws c.1)
    (path' : Path) : cleanFields record' path' cleaners = .ok ws := by
  -- On the cleaners. The record that is read again stays whole while they get fewer, so all that is
  -- kept of it is that it agrees with the cleaned fields on the names still to come.
  induction cleaners generalizing ws with
  | nil => exact h
  | cons c rest ih =>
    obtain ⟨name, cleaner⟩ := c
    obtain ⟨hname, hn'⟩ := List.nodup_cons.1 hn
    rw [List.forall_mem_cons] at hc hw
    simp only [cleanFields] at h ⊢
    split at h
    · next habsent =>
      have hkeys := (cleanFields_eq_ok hn' h).1
      have hnone : Members.get? ws name = none :=
        Members.get?_eq_none_iff.2 fun hmem => hname (hkeys name hmem)
      have hpresent : present? record' name = none := by
        rw [present?, hw.1, hnone]
        rfl
      rw [hpresent]
      exact ih hn' hc.2 h hw.2
    · next v hv' =>
      obtain ⟨-, hnull⟩ := present?_eq_some_iff.1 hv'
      split at h
      · cases h
      · next w hclean =>
        obtain ⟨ws', hrest, rfl⟩ := Except.map_eq_ok_iff.1 h
        obtain ⟨hself, hkeeps⟩ := hc.1 v hv' w _ hclean
        have hpresent : present? record' name = some w := by
          rw [present?_eq_some_iff, hw.1, Members.get?_cons, if_pos rfl]
          exact ⟨rfl, hkeeps hnull⟩
        have hother : ∀ c ∈ rest, Members.get? record' c.1 = Members.get? ws' c.1 := by
          intro c hmem
          have hkey : c.1 ∈ Members.keys rest := List.mem_map_of_mem hmem
          have hne : name ≠ c.1 := by
            rintro rfl
            exact hname hkey
          rw [hw.2 c hmem, Members.get?_cons, if_neg hne]
        rw [hpresent]
        dsimp only at hself ⊢
        rw [hself]
        dsimp only
        rw [ih hn' hc.2 hrest hother]
        rfl

theorem settlesAt (rule : RecordRule) {cleaners : List (String × Cleaner)} {v : Json}
    (hn : (Members.keys cleaners).Nodup) (hc : ∀ record, v = .object record → ∀ c ∈ cleaners, ∀ u,
      present? record c.1 = some u → c.2.SettlesAt u) :
    Cleaner.SettlesAt (rule.clean cleaners) v := by
  intro w p hw
  rcases RecordRule.clean_eq_ok hw with ⟨rfl, ho, rfl⟩ | ⟨record, ws, rfl, hws, rfl⟩
  · exact ⟨RecordRule.clean_null ho cleaners, id⟩
  · have hkeys := (cleanFields_eq_ok hn hws).1
    have hdeclared : ((Members.keys ws).find? fun key => !(cleaners.map (·.1)).contains key) = none := by
      rw [List.find?_eq_none]
      intro key hkey
      have hmem : key ∈ cleaners.map (·.1) := hkeys key hkey
      simp only [List.contains_iff_mem.2 hmem, Bool.not_true, Bool.false_eq_true, not_false_eq_true]
    refine ⟨fun q => ?_, fun _ => rfl⟩
    simp only [RecordRule.clean, Json.isNull, Bool.false_and, Bool.false_eq_true, if_false, hdeclared]
    rw [cleanFields_eq_self hn (hc record rfl) hws (fun _ _ => rfl)]
    rfl

end RecordRule

/-! ## Nodes -/

namespace Node

/-- The first option that accepts what the option `n` made is `n` again or leaves it as it is. -/
def Retains (ns : List Node) (n : Node) (w : Json) : Prop :=
  ∃ m, firstAccepting? ns w = some m ∧ (m = n ∨ ∀ p, m.clean w p = .ok w)

/-- Nothing that cleaning makes of a part of the value is taken for something else when it is cleaned again: a
choice of options on the way retains what it makes, and a key of a hash is read as it is written. -/
inductive Undisturbed : Node → Json → Prop where
  | leaf {l v} : Undisturbed (leaf l) v
  | array {rule child v} (each : ∀ items, v = .array items → ∀ u ∈ items, Undisturbed child u) :
      Undisturbed (array rule child) v
  | hash {rule child v} (keys : ∀ members, v = .object members → ∀ e ∈ members, rule.KeySettles e.1)
      (each : ∀ members, v = .object members → ∀ e ∈ members, Undisturbed child e.2) :
      Undisturbed (hash rule child) v
  | options {ns v} (chosen : ∀ n, firstAccepting? ns v = some n → Undisturbed n v)
      (retained : ∀ n w p, firstAccepting? ns v = some n → n.clean v p = .ok w → Retains ns n w) :
      Undisturbed (options ns) v
  | record {rule fields v} (each : ∀ members, v = .object members → ∀ e ∈ fields, ∀ u,
      RecordRule.present? members e.1 = some u → Undisturbed e.2 u) : Undisturbed (record rule fields) v

/-- A choice that retains what its option made cleans it to itself, if the option does. -/
theorem clean_options_of_retains {ns : List Node} (hns : ns ≠ []) {n : Node} {w : Json} (h : Retains ns n w)
    (hself : ∀ p, n.clean w p = .ok w) (p : Path) : (options ns).clean w p = .ok w := by
  obtain ⟨m, hm, hretained⟩ := h
  refine (clean_options_eq_ok_iff hns).2 ⟨m, hm, ?_⟩
  rcases hretained with rfl | hm
  · exact hself p
  · exact hm p

theorem Undisturbed.settlesAt {n : Node} {v : Json} (h : Undisturbed n v) (hn : n.Everywhere Coherent)
    (hv : v.WellFormed) : Cleaner.SettlesAt n.clean v := by
  induction h with
  | @leaf l v => exact l.settlesAt hv
  | @array rule child v each ih =>
    rw [everywhere_array] at hn
    refine rule.settlesAt ?_
    rintro items rfl u hu
    exact ih items rfl u hu hn.2 (hv.item u hu)
  | @hash rule child v keys each ih =>
    rw [everywhere_hash] at hn
    refine HashRule.settlesAt keys ?_
    rintro members rfl e he
    exact ih members rfl e he hn.2 (hv.member e he)
  | @options ns v chosen retained ih =>
    obtain ⟨hns, hn⟩ := everywhere_options.1 hn
    intro w p hw
    obtain ⟨n, hfirst, hclean⟩ := (clean_options_eq_ok_iff hns).1 hw
    obtain ⟨hself, hnull⟩ := ih n hfirst (hn n (List.mem_of_find?_eq_some hfirst)) hv w p hclean
    exact ⟨clean_options_of_retains hns (retained n w p hfirst hclean) hself, hnull⟩
  | @record rule fields v each ih =>
    rw [everywhere_record] at hn
    have hrule : rule.Coherent (Members.keys fields) := hn.1
    rw [clean, fieldCleaners_eq]
    refine rule.settlesAt (by rw [Members.keys_mapValues]; exact hrule.nodup) ?_
    rintro members rfl
    rw [Members.mapValues, List.forall_mem_map]
    intro e he u hu
    have hmem := Members.mem_of_get? (RecordRule.present?_eq_some_iff.1 hu).1
    exact ih members rfl e he u hu (hn.2 e he) (hv.member _ hmem)

/-- The node itself is neither a choice of options nor a hash under floating-point keys. -/
def Steady : Node → Prop
  | options _ => False
  | hash rule _ => rule.key.kind ≠ .float
  | _ => True

theorem undisturbed_of_steady {n : Node} (hs : n.Everywhere Steady) (v : Json) : n.Undisturbed v := by
  induction n generalizing v with
  | leaf l => exact .leaf
  | array rule child ih => exact .array fun _ _ u _ => ih (everywhere_array.1 hs).2 u
  | hash rule child ih =>
    obtain ⟨hk, hs⟩ := everywhere_hash.1 hs
    exact .hash (fun _ _ e _ => HashRule.keySettles hk e.1) fun _ _ e _ => ih hs e.2
  | options alternatives _ => exact (everywhere_options.1 hs).1.elim
  | record rule fields ih => exact .record fun _ _ e he u _ => ih e he ((everywhere_record.1 hs).2 e he) u

theorem clean_settles (n : Node) (hn : n.Everywhere Coherent) (hs : n.Everywhere Steady) :
    Cleaner.Settles n.clean :=
  fun v w p hv => (undisturbed_of_steady hs v).settlesAt hn hv w p

/-- **A cleaned value is cleaned to itself**, whatever the value was and wherever the two walks start. -/
theorem clean_clean {n : Node} (hn : n.Reachable) (hs : n.Everywhere Steady) {v w : Json}
    (hv : v.WellFormed) {p : Path} (h : n.clean v p = .ok w) (q : Path) : n.clean w q = .ok w :=
  (n.clean_settles hn.coherent hs v w p hv h).1 q

/-- Two keys for true become one: the later value stays, in the place of the earlier. -/
theorem clean_clean_flags :
    let n : Node := hash ⟨.plain, .bare .bool⟩ (leaf (.bare .json))
    let v : Json := .object [("yes", .null), ("no", .bool true), ("x", .array [])]
    let w : Json := .object [("true", .string "[]"), ("false", .string "true")]
    ofFragment (.object [("__hash__", .string "bool"), ("__type__", .string "json")]) = .ok n ∧
      n.clean v .root = .ok w ∧ n.clean w .root = .ok w := by
  intro n v w
  have hcompile :
      ofFragment (.object [("__hash__", .string "bool"), ("__type__", .string "json")]) = .ok n := by rfl
  have hclean : n.clean v .root = .ok w := by rfl
  exact ⟨hcompile, hclean, clean_clean (.compiled (by decide) hcompile) (by simp [n, Steady, Leaf.bare])
    (by decide) hclean .root⟩

end Node

end RecordSchema
