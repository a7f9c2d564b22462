/-
The texts of floating-point numbers, and which of them have the form of a
decimal.

A number in plain notation is written as digits around a point, without a zero
in front that could be left out, so it has the form and is read; the mark of an
exponent is in no text of the form (`Binary64.fits_text_iff`).
-/
import RecordSchema.Json.Printer
import RecordSchema.Proofs.Number.Shortest
import RecordSchema.Proofs.Number.Written

namespace RecordSchema

open Kind (DecimalForm WholeForm FractionForm IsDigit)

theorem Kind.DecimalForm.ne_mark {places : Nat → Prop} {cs : List Char} (h : DecimalForm places cs) :
    ∀ c ∈ cs, c ≠ 'e' := by
  have hbody : ∀ {whole fraction}, WholeForm whole → FractionForm places fraction →
      ∀ c ∈ whole ++ fraction, c ≠ 'e' := by
    intro whole fraction hw hf
    rw [List.forall_mem_append]
    refine ⟨fun c hc => (ne_of_isDigit (hw.isDigit c hc)).2.1, ?_⟩
    cases hf with
    | none => nofun
    | point _ digits => exact List.forall_mem_cons.2 ⟨by decide, fun c hc => (ne_of_isDigit (digits c hc)).2.1⟩
  cases h with
  | unsigned hw hf => exact hbody hw hf
  | signed hw hf => exact List.forall_mem_cons.2 ⟨by decide, hbody hw hf⟩

namespace Binary64

open Number

variable {x : Binary64} {n : Nat} {lead : Int}

theorem point_mem_plainNotation (digits : List Char) (lead : Int) : '.' ∈ plainNotation digits lead := by
  unfold plainNotation
  split
  · simp
  · dsimp only
    split <;> simp

theorem mark_mem_exponentNotation (digits : List Char) (lead : Int) : 'e' ∈ exponentNotation digits lead := by
  simp [exponentNotation]

/-- A floating-point number is written with a point or an exponent. -/
theorem exists_mark_mem_text (x : Binary64) : ∃ c ∈ x.text.toList, c = '.' ∨ c = 'e' := by
  have hbody : ∀ digits lead, ∃ c ∈ (if -5 ≤ lead ∧ lead ≤ 15 then plainNotation digits lead
      else exponentNotation digits lead), c = '.' ∨ c = 'e' := by
    intro digits lead
    split
    · exact ⟨'.', point_mem_plainNotation digits lead, .inl rfl⟩
    · exact ⟨'e', mark_mem_exponentNotation digits lead, .inr rfl⟩
  obtain ⟨c, hc, hmark⟩ := hbody (Text.decimal (shortest x.units).digits)
    ((shortest x.units).exponent + (Text.decimal (shortest x.units).digits).length - 1)
  refine ⟨c, ?_, hmark⟩
  rw [text, String.toList_ofList]
  split
  · exact List.mem_cons_of_mem _ hc
  · exact hc

/-- A number is zero, or of a magnitude from `0.00001` up to below `10^16`. -/
def Plain (x : Binary64) : Prop := x.units = 0 ∨ one ≤ x.units * 10 ^ 5 ∧ x.units < 10 ^ 16 * one

instance : DecidablePred Plain :=
  fun x => inferInstanceAs (Decidable (x.units = 0 ∨ one ≤ x.units * 10 ^ 5 ∧ x.units < 10 ^ 16 * one))

/-- Numbers of these magnitudes are the ones in plain notation. -/
theorem plain_iff (x : Binary64) : x.Plain ↔ -5 ≤ (shortest x.units).lead ∧ (shortest x.units).lead ≤ 15 := by
  by_cases h0 : x.units = 0
  · rw [h0]
    exact iff_of_true (.inl h0) (by decide)
  · rw [plain_lead_iff x.representable h0, Plain, or_iff_right h0]

/-- The digits of a text, the sign, and how they are set. -/
theorem toList_text (x : Binary64) : x.text.toList = (if x.negative then ['-'] else []) ++
    if x.Plain then plainNotation (Text.decimal (shortest x.units).digits) (shortest x.units).lead
    else exponentNotation (Text.decimal (shortest x.units).digits) (shortest x.units).lead := by
  simp only [plain_iff, text, String.toList_ofList]
  cases x.negative <;> rfl

/-- Plain notation sets a point between digits, at least one on either side, without a zero in front of others. -/
theorem exists_parts_plainNotation (h : n = 0 → lead = 0) : ∃ whole places,
    plainNotation (Text.decimal n) lead = whole ++ '.' :: places ∧ WholeForm whole ∧ 1 ≤ places.length ∧
      ∀ c ∈ whole ++ places, c.isDigit = true := by
  have hdigits : ∀ c ∈ Text.decimal n, c.isDigit = true := fun c hc => Text.isDigit_of_mem_decimal hc
  have hzeros : ∀ k, ∀ c ∈ List.replicate k '0', c.isDigit = true := by
    intro k c hc
    rw [(List.mem_replicate.1 hc).2]
    rfl
  have hlength : 0 < (Text.decimal n).length := Text.decimalLength_pos n
  unfold plainNotation
  split
  · next hneg =>
    refine ⟨['0'], _, rfl, .single (Kind.isDigit_of_isDigit rfl), ?_, ?_⟩
    · rw [List.length_append]
      omega
    · rw [List.singleton_append, List.forall_mem_cons, List.forall_mem_append]
      exact ⟨rfl, hzeros _, hdigits⟩
  · dsimp only
    split
    · next hshort =>
      generalize hk : lead.toNat + 1 - (Text.decimal n).length = k
      have hall : ∀ c ∈ Text.decimal n ++ List.replicate k '0', c.isDigit = true :=
        List.forall_mem_append.2 ⟨hdigits, hzeros k⟩
      refine ⟨Text.decimal n ++ List.replicate k '0', ['0'], rfl,
        Decimal.wholeForm_of_digits (by simp [Text.decimal_ne_nil]) hall ?_, Nat.le_refl _, ?_⟩
      · by_cases hn : n = 0
        · rw [h hn, hn, Text.decimal_zero] at hk
          rw [hn, Text.decimal_zero, ← hk]
          exact .inl rfl
        · rw [List.head?_append_of_ne_nil _ (Text.decimal_ne_nil n)]
          exact .inr (Text.head?_decimal hn)
      · exact List.forall_mem_append.2 ⟨hall, List.forall_mem_singleton.2 rfl⟩
    · next hlong =>
      refine ⟨_, _, rfl, Decimal.wholeForm_of_digits ?_ (fun c hc => hdigits c (List.mem_of_mem_take hc)) ?_, ?_, ?_⟩
      · rw [← List.length_pos_iff, List.length_take]
        omega
      · by_cases hn : n = 0
        · rw [hn, Text.decimal_zero, List.length_singleton] at hlong
          omega
        · rw [List.head?_take, if_neg (by omega)]
          exact .inr (Text.head?_decimal hn)
      · rw [List.length_drop]
        omega
      · rwa [List.take_append_drop]

theorem length_plainNotation_le (digits : List Char) (lead : Int) :
    (plainNotation digits lead).length ≤ digits.length + lead.natAbs + 3 := by
  unfold plainNotation
  split
  · simp
    omega
  · dsimp only
    split <;> simp <;> omega

/-- A number in plain notation has the form of a decimal, in ASCII characters. -/
theorem form_text (h : x.Plain) : DecimalForm (1 ≤ ·) x.text.toList ∧ ∀ c ∈ x.text.toList, c.toNat < 128 := by
  have hlead : (shortest x.units).digits = 0 → (shortest x.units).lead = 0 := by
    by_cases h0 : x.units = 0
    · rw [h0]
      exact fun _ => rfl
    · exact fun hzero => absurd hzero (leads_shortest h0).digits
  obtain ⟨whole, places, hparts, hwhole, hplaces, hdigits⟩ := exists_parts_plainNotation hlead
  have hfraction : FractionForm (1 ≤ ·) ('.' :: places) :=
    .point hplaces fun c hc => Kind.isDigit_of_isDigit (hdigits c (List.mem_append_right _ hc))
  have hascii : ∀ c ∈ whole ++ '.' :: places, c.toNat < 128 := by
    have hdigit : ∀ c ∈ whole ++ places, c.toNat < 128 :=
      fun c hc => Nat.lt_of_le_of_lt (Text.isDigit_iff.1 (hdigits c hc)).2 (by decide)
    rw [List.forall_mem_append] at hdigit ⊢
    exact ⟨hdigit.1, List.forall_mem_cons.2 ⟨by decide, hdigit.2⟩⟩
  rw [toList_text, if_pos h, hparts]
  split
  · exact ⟨@DecimalForm.signed _ whole _ hwhole hfraction, List.forall_mem_cons.2 ⟨by decide, hascii⟩⟩
  · exact ⟨@DecimalForm.unsigned _ whole _ hwhole hfraction, hascii⟩

/-- Such a text is read. -/
theorem exists_ofText?_text (h : x.Plain) : ∃ d, Decimal.ofText? x.text = some d := by
  obtain ⟨hform, hascii⟩ := form_text h
  refine Decimal.exists_of_form (by decide) hform hascii ?_
  obtain ⟨hlo, hhi⟩ := (plain_iff x).1 h
  have hdigits : (Text.decimal (shortest x.units).digits).length ≤ 18 := by
    by_cases h0 : x.units = 0
    · rw [h0]
      decide
    · exact decimalLength_shortest_le h0
  have hlength := length_plainNotation_le (Text.decimal (shortest x.units).digits) (shortest x.units).lead
  rw [← String.length_toList, toList_text, if_pos h, List.length_append]
  split
  · rw [List.length_singleton]
    omega
  · rw [List.length_nil]
    omega

/-- **The numbers whose texts have the form of a decimal** are those without an exponent. -/
theorem fits_text_iff (x : Binary64) : Kind.decimal.fits x.text = true ↔ x.Plain := by
  rw [Kind.fits_decimal_iff]
  constructor
  · intro hform
    by_contra hplain
    have hmark := mark_mem_exponentNotation (Text.decimal (shortest x.units).digits) (shortest x.units).lead
    refine hform.ne_mark 'e' ?_ rfl
    rw [toList_text, if_neg hplain]
    exact List.mem_append_right _ hmark
  · exact fun h => (form_text h).1

end Binary64

/-- An integer is written as the decimal with no places. -/
theorem Text.ofInt_eq (n : Int) : Text.ofInt n = Decimal.text ⟨n, 0⟩ := by
  cases n with
  | ofNat m => simp [Text.ofInt, Decimal.text, Int.not_lt.2 (Int.natCast_nonneg m)]
  | negSucc m => simp [Text.ofInt, Decimal.text]

namespace Json.Number

/-- A number is written without an exponent. -/
def Plain : Number → Prop
  | .int _ => True
  | .float x => x.Plain

/-- **The numbers whose JSON texts have the form of a decimal** are the integers, and the floating-point numbers that
are zero or from `0.00001` up to below `10^16`; these texts can be read. -/
theorem fits_text_iff (n : Number) : Kind.decimal.fits n.text = true ↔ n.Plain := by
  cases n with
  | int n =>
    rw [text, Text.ofInt_eq]
    exact iff_of_true (Decimal.fits_text (Int.le_refl _)) trivial
  | float x => exact x.fits_text_iff

theorem exists_ofText?_text {n : Number} (h : n.Plain) : ∃ d, Decimal.ofText? n.text = some d := by
  cases n with
  | int n =>
    rw [text, Text.ofInt_eq]
    exact ⟨_, Decimal.ofText?_text ⟨Int.le_refl _, show (0 : Int) < 2 ^ 63 by decide⟩⟩
  | float x => exact Binary64.exists_ofText?_text h

end Json.Number

end RecordSchema
