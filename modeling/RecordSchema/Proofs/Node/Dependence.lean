/-
What the reports on a record or a hash depend on.

A record is only ever looked up by the names of its fields, and null counts as
absent wherever it is, so records without further keys that have the same
values in their fields can not be told apart (`RecordRule.Agree.present?_eq`).

Each field reports below itself, whatever its node is, and so does each entry
of a hash. So what is reported below one of them is what that one reports, and
depends on nothing else than its value and, for a field, on which of the
fields it needs are set (`RecordRule.atOrBelow_failures`).
-/
import RecordSchema.Proofs.Node.Conforms
import RecordSchema.Proofs.Node.Refusal
import RecordSchema.Proofs.Node.Relative
import Mathlib.Data.List.Basic

namespace RecordSchema

/-! ## Records that agree -/

namespace RecordRule

variable {rule : RecordRule} {a b record : Members Json} {names : List String} {name : String} {path : Path}

/-- The records have the same values in the fields of these names, null counting as absent. -/
def Agree (names : List String) (a b : Members Json) : Prop :=
  ∀ name ∈ names, ∀ v : Json, v.isNull = false → (Members.get? a name = some v ↔ Members.get? b name = some v)

/-- Records without further keys that agree on their fields present the same values under all names. -/
theorem Agree.present?_eq (h : Agree names a b) (ha : ∀ key ∈ a.keys, key ∈ names)
    (hb : ∀ key ∈ b.keys, key ∈ names) (name : String) : present? a name = present? b name := by
  by_cases hname : name ∈ names
  · refine Option.ext fun v => ?_
    rw [present?_eq_some_iff, present?_eq_some_iff]
    exact and_congr_left fun hnull => h name hname v hnull
  · rw [present?, present?, Members.get?_eq_none_iff.2 (mt (ha name) hname),
      Members.get?_eq_none_iff.2 (mt (hb name) hname)]

/-- A field that is null is as unset as one that is absent. -/
theorem isUnset_present? (record : Members Json) (name : String) :
    isUnset (present? record name) = isUnset (Members.get? record name) := by
  rw [present?]
  cases Members.get? record name with
  | none => rfl
  | some v => cases v <;> rfl

theorem needFailures_congr (h : ∀ others, Members.get? rule.requires name = some others → ∀ other ∈ others,
    isUnset (Members.get? a other) = isUnset (Members.get? b other)) (path : Path) :
    rule.needFailures a name path = rule.needFailures b name path := by
  rw [needFailures, needFailures]
  cases hothers : Members.get? rule.requires name with
  | none => rfl
  | some others => exact congrArg _ (List.filter_congr (h others hothers))

/-- What is wrong with a field depends on its value and on which of its needs are unset. -/
theorem fieldFailures_congr (hpresent : present? a name = present? b name)
    (hneeds : ∀ others, Members.get? rule.requires name = some others → ∀ other ∈ others,
      isUnset (Members.get? a other) = isUnset (Members.get? b other)) (path : Path) (check : FieldCheck) :
    rule.fieldFailures a path name check = rule.fieldFailures b path name check := by
  rw [fieldFailures, fieldFailures, hpresent, needFailures_congr hneeds]

theorem failures_object (rule : RecordRule) (checks : List (String × FieldCheck)) (record : Members Json)
    (path : Path) : rule.failures checks (.object record) path =
      (checks.flatMap fun c => rule.fieldFailures record path c.1 c.2)
        ++ undeclaredFailures (Members.keys checks) record path := rfl

theorem failures_congr (h : ∀ name, present? a name = present? b name)
    (checks : List (String × FieldCheck)) (ha : ∀ key ∈ a.keys, key ∈ Members.keys checks)
    (hb : ∀ key ∈ b.keys, key ∈ Members.keys checks) (path : Path) :
    rule.failures checks (.object a) path = rule.failures checks (.object b) path := by
  have hfields : ∀ c ∈ checks, rule.fieldFailures a path c.1 c.2 = rule.fieldFailures b path c.1 c.2 := by
    intro c _
    refine fieldFailures_congr (h c.1) (fun others _ other _ => ?_) path c.2
    rw [← isUnset_present?, ← isUnset_present?, h]
  rw [failures_object, failures_object, List.flatMap_congr hfields,
    (undeclaredFailures_eq_nil_iff _ a path).2 ha, (undeclaredFailures_eq_nil_iff _ b path).2 hb]

theorem cleanFields_congr (h : ∀ name, present? a name = present? b name) (path : Path)
    (cleaners : List (String × Cleaner)) : cleanFields a path cleaners = cleanFields b path cleaners := by
  induction cleaners with
  | nil => rfl
  | cons c rest ih => rw [cleanFields, cleanFields, h, ih]

/-- Without further keys nothing stops cleaning but a field. -/
theorem clean_object {cleaners : List (String × Cleaner)}
    (h : ∀ key ∈ record.keys, key ∈ Members.keys cleaners) (rule : RecordRule) (path : Path) :
    rule.clean cleaners (.object record) path = (cleanFields record path cleaners).map .object := by
  have hnone : (record.keys.find? fun key => !(cleaners.map (·.1)).contains key) = none := by
    refine List.find?_eq_none.2 fun key hkey => ?_
    have hdeclared : key ∈ cleaners.map (·.1) := h key hkey
    simpa using hdeclared
  rw [RecordRule.clean, if_neg (by simp [Json.isNull]), hnone]

/-- The cleaned fields are the ones that are present, in their order. -/
theorem keys_cleanFields_eq {cleaners : List (String × Cleaner)} {ws : List (String × Json)}
    (h : cleanFields record path cleaners = .ok ws) :
    Members.keys ws = (Members.keys cleaners).filter fun name => (present? record name).isSome := by
  induction cleaners generalizing ws with
  | nil => cases h; rfl
  | cons c rest ih =>
    obtain ⟨name, cleaner⟩ := c
    simp only [cleanFields] at h
    show _ = (name :: Members.keys rest).filter _
    split at h
    · next habsent => rw [ih h, List.filter_cons, if_neg (by simp [habsent])]
    · next v hv =>
      split at h
      · cases h
      · next w hw =>
        obtain ⟨ws', hws', rfl⟩ := Except.map_eq_ok_iff.1 h
        rw [List.filter_cons, if_pos (by simp [hv]), ← ih hws']
        rfl

end RecordRule

namespace Node

variable {rule : RecordRule} {fields : List (String × Node)} {a b : Members Json}

/-- **Records that have the same values in their fields are reported on alike**, in whatever order their keys
stand and whether a field is null or absent: the same failures, and the same error or the same cleaned record,
which has the fields that are present, in the order of their declaration. -/
theorem reports_of_agree (ha : ∀ key ∈ Members.keys a, key ∈ Members.keys fields)
    (hb : ∀ key ∈ Members.keys b, key ∈ Members.keys fields)
    (h : RecordRule.Agree (Members.keys fields) a b) (path : Path) :
    (record rule fields).failures (.object a) path = (record rule fields).failures (.object b) path ∧
      (record rule fields).clean (.object a) path = (record rule fields).clean (.object b) path ∧
      ∀ w, (record rule fields).clean (.object a) path = .ok w → ∃ ws, w = .object ws ∧
        Members.keys ws = (Members.keys fields).filter fun name =>
          (Members.get? a name).any fun v => !v.isNull := by
  have hpresent := h.present?_eq ha hb
  rw [← keys_fieldCleaners] at ha hb
  refine ⟨?_, ?_, fun w hw => ?_⟩
  · rw [keys_fieldCleaners, ← keys_fieldChecks] at ha hb
    exact RecordRule.failures_congr hpresent _ ha hb path
  · rw [clean, RecordRule.clean_object ha, RecordRule.clean_object hb, RecordRule.cleanFields_congr hpresent]
  · rw [clean, RecordRule.clean_object ha, Except.map_eq_ok_iff] at hw
    obtain ⟨ws, hws, rfl⟩ := hw
    refine ⟨ws, rfl, ?_⟩
    rw [RecordRule.keys_cleanFields_eq hws, ← keys_fieldCleaners]
    simp only [RecordRule.present?, Option.isSome_filter]

/-- A field that is null in one record is absent from the other, and the rest stands the other way round. -/
theorem reports_of_agree_reordered :
    let rule : RecordRule := ⟨.plain, [("a", ["b"])]⟩
    let fields := [("a", leaf (.bare .price)), ("b", leaf ⟨⟨true, []⟩, .int, none, none, none, none⟩),
      ("c", leaf (.bare .bool))]
    let a : Members Json := [("c", .string "yes"), ("b", .null), ("a", .string "1.5")]
    let b : Members Json := [("a", .string "1.5"), ("c", .string "yes")]
    let needed : Failure := ⟨.ofField "a", .requires "b", none⟩
    let ws : Members Json := [("a", .string "1.50"), ("c", .bool true)]
    RecordRule.Agree (Members.keys fields) a b ∧
      (record rule fields).failures (.object a) .root = [needed] ∧
      (record rule fields).failures (.object b) .root = [needed] ∧
      (record rule fields).clean (.object b) .root = .ok (.object ws) ∧ Members.keys ws = ["a", "c"] := by
  intro rule fields a b needed ws
  have hagree : RecordRule.Agree (Members.keys fields) a b := by
    intro name hname v hnull
    have hnames : name = "a" ∨ name = "b" ∨ name = "c" := by simpa [fields, Members.keys] using hname
    rcases hnames with rfl | rfl | rfl
    · exact .rfl
    · exact iff_of_false (by rintro ⟨⟩; cases hnull) (by rintro ⟨⟩)
    · exact .rfl
  have hfailures : (record rule fields).failures (.object a) .root = [needed] := by rfl
  have hclean : (record rule fields).clean (.object a) .root = .ok (.object ws) := by rfl
  obtain ⟨hsame, hcleaned, hkeys⟩ := reports_of_agree (by decide) (by decide) hagree .root
  obtain ⟨_, hws, hkeys⟩ := hkeys _ hclean
  cases hws
  exact ⟨hagree, hfailures, hsame ▸ hfailures, hcleaned ▸ hclean, hkeys⟩

end Node

/-! ## What is reported below a field -/

namespace Path

instance (p q : Path) : Decidable (p.Above q) := inferInstanceAs (Decidable (p.segments <+: q.segments))

theorem above_append (p q : Path) : p.Above (p ++ q) := List.prefix_append ..

/-- A path goes on from one field at most of what stands at `p`. -/
theorem field_inj_of_above {p q : Path} {x y : String} (hx : (p.field x).Above q) (hy : (p.field y).Above q) :
    x = y := by
  have hlen : (p.field x).segments.length = (p.field y).segments.length := by simp [field]
  have hsegments := (List.prefix_of_prefix_length_le hx hy (Nat.le_of_eq hlen)).eq_of_length hlen
  simpa [field] using hsegments

end Path

/-- What a check reports of a value lies at the value or below. -/
theorem Checker.Relative.above {check : Checker} (h : check.Relative) {v : Json} {p : Path} {f : Failure}
    (hf : f ∈ check v p) : p.Above f.path := by
  rw [← p.append_root, h] at hf
  obtain ⟨g, -, rfl⟩ := List.mem_map.1 hf
  exact Path.above_append p g.path

/-- The failures at a path or below it. -/
def Failures.atOrBelow (fs : Failures) (p : Path) : Failures := fs.filter fun f => p.Above f.path

namespace Failures

variable {α : Type} {fs : Failures} {p : Path} {x y : String}

theorem atOrBelow_append (fs gs : Failures) (p : Path) :
    atOrBelow (fs ++ gs) p = atOrBelow fs p ++ atOrBelow gs p := List.filter_append ..

theorem atOrBelow_eq_self (h : ∀ f ∈ fs, p.Above f.path) : fs.atOrBelow p = fs :=
  List.filter_eq_self.2 fun f hf => decide_eq_true (h f hf)

theorem atOrBelow_eq_nil (h : ∀ f ∈ fs, (p.field x).Above f.path) (hne : x ≠ y) :
    fs.atOrBelow (p.field y) = [] :=
  List.filter_eq_nil_iff.2 fun f hf hy => hne (Path.field_inj_of_above (h f hf) (of_decide_eq_true hy))

/-- Where parts report below fields of their own, what is reported below a field is what the parts of the
field report. -/
theorem atOrBelow_flatMap {parts : List α} {key : α → String} {report : α → Failures}
    (h : ∀ e ∈ parts, ∀ f ∈ report e, (p.field (key e)).Above f.path) (x : String) :
    atOrBelow (parts.flatMap report) (p.field x) = (parts.filter fun e => key e = x).flatMap report := by
  induction parts with
  | nil => rfl
  | cons e parts ih =>
    obtain ⟨hhead, htail⟩ := List.forall_mem_cons.1 h
    rw [List.flatMap_cons, atOrBelow_append, ih htail, List.filter_cons]
    split
    · next hkey => rw [List.flatMap_cons, atOrBelow_eq_self (of_decide_eq_true hkey ▸ hhead)]
    · next hkey => rw [atOrBelow_eq_nil hhead (by simpa using hkey), List.nil_append]

end Failures

namespace HashRule

variable {rule : HashRule} {check : Checker} {path : Path}

theorem entryFailures_above (hc : check.Relative) {key : String} {v : Json} {f : Failure}
    (hf : f ∈ rule.entryFailures check path key v) : (path.field key).Above f.path := by
  rw [entryFailures] at hf
  split at hf
  · exact hc.above hf
  · rw [List.mem_singleton.1 hf]
    exact Path.above_refl _

/-- Below a key lies what the entry under it reports. -/
theorem atOrBelow_failures (hc : check.Relative) {members : Members Json} (hn : members.keys.Nodup)
    (path : Path) (key : String) :
    (rule.failures check (.object members) path).atOrBelow (path.field key) =
      (members.get? key).toList.flatMap fun v => rule.entryFailures check path key v := by
  have hentries : Failures.atOrBelow (members.flatMap fun e => rule.entryFailures check path e.1 e.2)
      (path.field key) = (members.filter fun e => e.1 = key).flatMap fun e =>
        rule.entryFailures check path e.1 e.2 :=
    Failures.atOrBelow_flatMap (fun e _ f hf => entryFailures_above hc hf) key
  refine hentries.trans ?_
  rw [Members.filter_key_eq hn]
  cases Members.get? members key <;> rfl

end HashRule

namespace RecordRule

variable {rule : RecordRule} {record : Members Json} {path : Path}

theorem needFailures_path {name : String} {f : Failure} (hf : f ∈ rule.needFailures record name path) :
    f.path = path := by
  obtain ⟨other, -, rfl⟩ := List.mem_map.1 hf
  rfl

theorem fieldFailures_above {check : FieldCheck} (hc : check.failures.Relative) {name : String} {f : Failure}
    (hf : f ∈ rule.fieldFailures record path name check) : (path.field name).Above f.path := by
  rw [fieldFailures] at hf
  split at hf
  · split at hf
    · cases hf
    · rw [List.mem_singleton.1 hf]
      exact Path.above_refl _
  · split at hf
    · rw [needFailures_path hf]
      exact Path.above_refl _
    · exact hc.above hf

/-- No key that is undeclared is reported below a declared field. -/
theorem atOrBelow_undeclaredFailures {names : List String} {name : String} (h : name ∈ names)
    (record : Members Json) (path : Path) :
    (undeclaredFailures names record path).atOrBelow (path.field name) = [] := by
  refine List.filter_eq_nil_iff.2 fun f hf habove => ?_
  obtain ⟨key, hkey, rfl⟩ := List.mem_map.1 hf
  have heq : key = name := Path.field_inj_of_above (Path.above_refl _) (of_decide_eq_true habove)
  have hundeclared : key ∉ names := by simpa using (List.mem_filter.1 hkey).2
  exact hundeclared (heq ▸ h)

/-- Below a declared field lies what the checks of the field report. -/
theorem atOrBelow_failures {checks : List (String × FieldCheck)} (hc : ∀ c ∈ checks, c.2.failures.Relative)
    {name : String} (h : name ∈ Members.keys checks) (record : Members Json) (path : Path) :
    (rule.failures checks (.object record) path).atOrBelow (path.field name) =
      (checks.filter fun c => c.1 = name).flatMap fun c => rule.fieldFailures record path c.1 c.2 := by
  have hfields : Failures.atOrBelow (checks.flatMap fun c => rule.fieldFailures record path c.1 c.2)
      (path.field name) = (checks.filter fun c => c.1 = name).flatMap fun c =>
        rule.fieldFailures record path c.1 c.2 :=
    Failures.atOrBelow_flatMap (fun c hmem f hf => fieldFailures_above (hc c hmem) hf) name
  rw [failures_object, Failures.atOrBelow_append, hfields, atOrBelow_undeclaredFailures h, List.append_nil]

end RecordRule

namespace Node

theorem atOrBelow_record {rule : RecordRule} {fields : List (String × Node)} {a b : Members Json}
    {name : String} (hname : name ∈ Members.keys fields) (hsame : Members.get? a name = Members.get? b name)
    (hneeds : ∀ others, Members.get? rule.requires name = some others → ∀ other ∈ others,
      (RecordRule.IsSet a other ↔ RecordRule.IsSet b other)) (path : Path) :
    ((record rule fields).failures (.object a) path).atOrBelow (path.field name) =
      ((record rule fields).failures (.object b) path).atOrBelow (path.field name) := by
  have hrelative : ∀ c ∈ fieldChecks fields, c.2.failures.Relative := by
    rw [fieldChecks_eq, List.forall_mem_map]
    exact fun e _ => e.2.failures_relative
  rw [← keys_fieldChecks] at hname
  rw [failures, RecordRule.atOrBelow_failures hrelative hname, RecordRule.atOrBelow_failures hrelative hname]
  refine List.flatMap_congr fun c hc => ?_
  obtain rfl : c.1 = name := of_decide_eq_true (List.mem_filter.1 hc).2
  refine RecordRule.fieldFailures_congr ?_ (fun others hothers other hother => ?_) path c.2
  · rw [RecordRule.present?, RecordRule.present?, hsame]
  · rw [Bool.eq_iff_iff, ← not_iff_not, Bool.not_eq_true, Bool.not_eq_true]
    exact RecordRule.isUnset_eq_false_iff.trans
      ((hneeds others hothers other hother).trans RecordRule.isUnset_eq_false_iff.symm)

theorem atOrBelow_hash {rule : HashRule} {child : Node} {a b : Members Json} (ha : a.keys.Nodup)
    (hb : b.keys.Nodup) {key : String} (hsame : a.get? key = b.get? key) (path : Path) :
    ((hash rule child).failures (.object a) path).atOrBelow (path.field key) =
      ((hash rule child).failures (.object b) path).atOrBelow (path.field key) := by
  rw [failures, HashRule.atOrBelow_failures child.failures_relative ha,
    HashRule.atOrBelow_failures child.failures_relative hb, hsame]

/-- **Fields and entries do not interfere.** What is reported at a declared field of a record or below it depends
on the value of the field and on which of the fields that it needs are set; what is reported at a key of a hash
or below it depends on the value under the key. -/
theorem atOrBelow_of_agree :
    (∀ (rule : RecordRule) (fields : List (String × Node)) (a b : Members Json) (name : String),
      name ∈ Members.keys fields → a.get? name = b.get? name →
      (∀ others, Members.get? rule.requires name = some others → ∀ other ∈ others,
        (RecordRule.IsSet a other ↔ RecordRule.IsSet b other)) →
      ∀ path : Path, ((record rule fields).failures (.object a) path).atOrBelow (path.field name) =
        ((record rule fields).failures (.object b) path).atOrBelow (path.field name)) ∧
      ∀ (rule : HashRule) (child : Node) (a b : Members Json) (key : String),
        a.keys.Nodup → b.keys.Nodup → a.get? key = b.get? key →
        ∀ path : Path, ((hash rule child).failures (.object a) path).atOrBelow (path.field key) =
          ((hash rule child).failures (.object b) path).atOrBelow (path.field key) :=
  ⟨fun _ _ _ _ _ hname hsame hneeds => atOrBelow_record hname hsame hneeds,
    fun _ _ _ _ _ ha hb hsame => atOrBelow_hash ha hb hsame⟩

/-- What a field needs is unset for two reasons, and the records and the hashes differ in all else. -/
theorem atOrBelow_of_agree_elsewhere :
    let rule : RecordRule := ⟨.plain, [("a", ["b"])]⟩
    let fields := [("a", leaf (.bare .int)), ("b", leaf (.bare .string))]
    let a : Members Json := [("a", .number (.int 1)), ("b", .string "0000-00-00"), ("c", .bool true)]
    let b : Members Json := [("b", .null), ("a", .number (.int 1))]
    let keys : HashRule := ⟨.plain, .bare .int⟩
    let flag := leaf (.bare .bool)
    let d : Members Json := [("1", .number (.int 5)), ("x", .bool true)]
    let e : Members Json := [("2", .bool true), ("1", .number (.int 5))]
    ((record rule fields).failures (.object a) .root).atOrBelow (.ofField "a") =
        [⟨.ofField "a", .requires "b", none⟩] ∧
      ((record rule fields).failures (.object b) .root).atOrBelow (.ofField "a") =
        [⟨.ofField "a", .requires "b", none⟩] ∧
      ((hash keys flag).failures (.object d) .root).atOrBelow (.ofField "1") =
        ((hash keys flag).failures (.object e) .root).atOrBelow (.ofField "1") := by
  intro rule fields a b keys flag d e
  have hunset : ∀ others, Members.get? rule.requires "a" = some others → ∀ other ∈ others,
      (RecordRule.IsSet a other ↔ RecordRule.IsSet b other) := by
    rintro _ ⟨⟩ other hother
    obtain rfl := List.mem_singleton.1 hother
    rw [← RecordRule.isUnset_eq_false_iff, ← RecordRule.isUnset_eq_false_iff]
    decide
  have hreported : ((record rule fields).failures (.object a) .root).atOrBelow (.ofField "a") =
      [⟨.ofField "a", .requires "b", none⟩] := by rfl
  have hrecord := atOrBelow_of_agree.1 rule fields a b "a" (by decide) rfl hunset .root
  have hhash := atOrBelow_of_agree.2 keys flag d e "1" (by decide) (by decide) rfl .root
  exact ⟨hreported, hrecord.symm.trans hreported, hhash⟩

end Node

end RecordSchema
