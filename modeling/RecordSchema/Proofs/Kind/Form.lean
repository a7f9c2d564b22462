/-
The forms of numbers as grammars: what a text that fits the pattern of a
decimal, a price or an integer is made of.

Digits are those of any script, as in the patterns, except where a range of
ASCII characters says otherwise.
-/
import RecordSchema.Kind.Pattern
import RecordSchema.Proofs.Number.Numeral
import RecordSchema.Proofs.Regex.Search

namespace RecordSchema

namespace Kind

open Regex

/-- A decimal digit of any script. -/
def IsDigit (c : Char) : Prop := CharSet.digit.contains c.toNat = true

/-- A digit from `lo` to `hi`. -/
def InRange (lo hi c : Char) : Prop := lo.toNat ≤ c.toNat ∧ c.toNat ≤ hi.toNat

/-- One digit, or more than one if the first of them is no zero. -/
inductive WholeForm : List Char → Prop where
  | single {c} (digit : IsDigit c) : WholeForm [c]
  | more {c ds} (lead : InRange '1' '9' c) (ne : ds ≠ []) (digits : ∀ d ∈ ds, IsDigit d) :
      WholeForm (c :: ds)

/-- Nothing, or a point and digits whose count is admitted. -/
inductive FractionForm (places : Nat → Prop) : List Char → Prop where
  | none : FractionForm places []
  | point {ds} (count : places ds.length) (digits : ∀ d ∈ ds, IsDigit d) : FractionForm places ('.' :: ds)

/-- A whole part, perhaps after a minus, and a fraction. -/
inductive DecimalForm (places : Nat → Prop) : List Char → Prop where
  | unsigned {whole fraction} (hw : WholeForm whole) (hf : FractionForm places fraction) :
      DecimalForm places (whole ++ fraction)
  | signed {whole fraction} (hw : WholeForm whole) (hf : FractionForm places fraction) :
      DecimalForm places ('-' :: (whole ++ fraction))

/-- An integer in one of three bases. -/
inductive IntForm : List Char → Prop where
  | zero : IntForm ['0']
  | decimal {sign c ds} (hs : sign = [] ∨ sign = ['+'] ∨ sign = ['-']) (lead : InRange '1' '9' c)
      (digits : ∀ d ∈ ds, IsDigit d) : IntForm (sign ++ c :: ds)
  | hex {x ds} (mark : x = 'x' ∨ x = 'X') (ne : ds ≠ [])
      (digits : ∀ d ∈ ds, CharSet.hexDigit.contains d.toNat = true) : IntForm ('0' :: x :: ds)
  | octal {ds} (ne : ds ≠ []) (digits : ∀ d ∈ ds, InRange '0' '7' d) : IntForm ('0' :: ds)

/-! ## Digits -/

theorem isDigit_of_inRange {c : Char} (h : InRange '0' '9' c) : IsDigit c := by
  have hall : ∀ k : Fin 10, CharSet.digit.contains (48 + k) = true := by decide
  obtain ⟨lo, hi⟩ := h
  change 48 ≤ c.toNat at lo
  change c.toNat ≤ 57 at hi
  have hc := hall ⟨c.toNat - 48, by omega⟩
  rwa [show 48 + (c.toNat - 48) = c.toNat by omega] at hc

theorem isDigit_of_isDigit {c : Char} (h : c.isDigit = true) : IsDigit c :=
  isDigit_of_inRange (Text.isDigit_iff.1 h)

/-- The code points of the blanks. -/
def blanks : List Nat :=
  [9, 10, 11, 12, 13, 32, 133, 160, 5760, 8192, 8193, 8194, 8195, 8196, 8197, 8198, 8199, 8200, 8201, 8202,
   8232, 8233, 8239, 8287, 12288]

theorem mem_blanks_of_isBlank {c : Char} (h : Text.isBlank c = true) : c.toNat ∈ blanks := by
  simp only [Text.isBlank, Bool.or_eq_true, Bool.and_eq_true, decide_eq_true_eq, beq_iff_eq] at h
  simp only [blanks, List.mem_cons, List.not_mem_nil, or_false]
  omega

theorem not_isBlank_of_isDigit {c : Char} (h : IsDigit c) : Text.isBlank c = false := by
  have hall : ∀ n ∈ blanks, CharSet.digit.contains n = false := by decide
  rw [← Bool.not_eq_true]
  intro hb
  rw [IsDigit, hall _ (mem_blanks_of_isBlank hb)] at h
  cases h

theorem ne_of_isDigit {c : Char} (h : IsDigit c) : c ≠ '.' ∧ c ≠ 'e' ∧ c ≠ 'E' ∧ c ≠ '_' := by
  refine ⟨?_, ?_, ?_, ?_⟩ <;> rintro rfl <;> exact absurd h (by unfold IsDigit; decide)

/-! ## Patterns as grammars -/

variable {before text after : List Char}

theorem matches_many1_iff {set : CharSet} :
    Matches (many1 (.one set)) before text after ↔ text ≠ [] ∧ ∀ c ∈ text, set.contains c.toNat = true := by
  rw [many1, matches_repeat_one_iff, Count.allows_atLeast_iff, Nat.one_le_iff_ne_zero, ne_eq,
    List.length_eq_zero_iff]

theorem matches_many_iff {set : CharSet} :
    Matches (many (.one set)) before text after ↔ ∀ c ∈ text, set.contains c.toNat = true := by
  rw [many, matches_repeat_one_iff, Count.allows_atLeast_iff]
  simp

theorem matches_wholeDigits_iff :
    Matches (ofAlt [ofSeq [between '1' '9', many1 digit], digit]) before text after ↔ WholeForm text := by
  simp only [matches_ofAlt_cons, ofAlt_singleton, matches_ofSeq_cons, ofSeq_singleton,
    matches_between_iff, digit, matches_many1_iff, matches_one_iff]
  constructor
  · rintro (⟨x, y, rfl, ⟨c, rfl, hc⟩, hne, hy⟩ | ⟨c, rfl, hc⟩)
    · exact .more hc hne hy
    · exact .single hc
  · intro h
    cases h with
    | single hc => exact .inr ⟨_, rfl, hc⟩
    | more hc hne hy => exact .inl ⟨[_], _, rfl, ⟨_, rfl, hc⟩, hne, hy⟩

theorem matches_wholePart_iff :
    Matches KindPattern.wholePart before text after ↔
      ∃ sign whole, text = sign ++ whole ∧ (sign = [] ∨ sign = ['-']) ∧ WholeForm whole := by
  simp only [KindPattern.wholePart, matches_ofSeq_cons, ofSeq_singleton, matches_wholeDigits_iff,
    matches_optional_iff, matches_literal_iff]
  rfl

theorem matches_fraction_iff {count : Count} {places : Nat → Prop} (hp : ∀ n, count.Allows n ↔ places n) :
    Matches (optional (ofSeq [literal ".", .repeat digit count])) before text after ↔
      FractionForm places text := by
  simp only [matches_optional_iff, matches_ofSeq_cons, ofSeq_singleton, matches_literal_iff, digit,
    matches_repeat_one_iff, hp]
  constructor
  · rintro (rfl | ⟨x, y, rfl, rfl, hy, hd⟩)
    · exact .none
    · exact .point hy hd
  · intro h
    cases h with
    | none => exact .inl rfl
    | point hy hd => exact .inr ⟨['.'], _, rfl, rfl, hy, hd⟩

theorem matches_decimal_iff {count : Count} {places : Nat → Prop} (hp : ∀ n, count.Allows n ↔ places n) :
    Matches (ofSeq [KindPattern.wholePart, optional (ofSeq [literal ".", .repeat digit count])]) before text
      after ↔ DecimalForm places text := by
  rw [matches_ofSeq_cons]
  simp only [ofSeq_singleton, matches_wholePart_iff, matches_fraction_iff hp]
  constructor
  · rintro ⟨x, fraction, rfl, ⟨sign, whole, rfl, rfl | rfl, hw⟩, hf⟩
    · exact .unsigned hw hf
    · exact .signed hw hf
  · intro h
    cases h with
    | unsigned hw hf => exact ⟨_, _, rfl, ⟨[], _, rfl, .inl rfl, hw⟩, hf⟩
    | signed hw hf => exact ⟨_, _, rfl, ⟨['-'], _, rfl, .inr rfl, hw⟩, hf⟩

theorem fits_decimal_iff {s : String} : Kind.decimal.fits s = true ↔ DecimalForm (1 ≤ ·) s.toList :=
  (fits_iff _ _).trans (matches_decimal_iff fun _ => Count.allows_atLeast_iff)

theorem fits_price_iff {s : String} :
    Kind.price.fits s = true ↔ DecimalForm (fun n => 1 ≤ n ∧ n ≤ 2) s.toList :=
  (fits_iff _ _).trans (matches_decimal_iff fun _ => by simp [Count.Allows])

theorem fits_int_iff {s : String} : Kind.int.fits s = true ↔ IntForm s.toList := by
  refine (fits_iff _ _).trans ?_
  simp only [Fits, KindPattern.int, matches_ofAlt_cons, ofAlt_singleton, matches_ofSeq_cons,
    ofSeq_singleton, digit, between, matches_literal_iff, matches_optional_iff, matches_oneOf_iff,
    matches_one_iff, matches_many_iff, matches_many1_iff, contains_between]
  generalize s.toList = cs
  constructor
  · rintro (rfl | ⟨sign, x, rfl, hs, y, ds, rfl, ⟨c, rfl, hc⟩, hd⟩ |
      ⟨x, y, rfl, rfl, z, ds, rfl, ⟨m, hm, rfl⟩, hne, hd⟩ | ⟨x, ds, rfl, rfl, hne, hd⟩)
    · exact .zero
    · exact .decimal (by simpa using hs) hc hd
    · exact .hex (by simpa using hm) hne hd
    · exact .octal hne hd
  · intro h
    cases h with
    | zero => exact .inl rfl
    | decimal hs hc hd =>
      exact .inr (.inl ⟨_, _, rfl, by simpa using hs, [_], _, rfl, ⟨_, rfl, hc⟩, hd⟩)
    | hex hm hne hd =>
      exact .inr (.inr (.inl ⟨['0'], _, rfl, rfl, [_], _, rfl, ⟨_, by simpa using hm, rfl⟩, hne, hd⟩))
    | octal hne hd => exact .inr (.inr (.inr ⟨['0'], _, rfl, rfl, hne, hd⟩))

/-! ## Texts of numbers have no blanks to trim -/

theorem trim_of_forall {s : String} (h : ∀ c ∈ s.toList, Text.isBlank c = false) : Text.trim s = s := by
  have hdrop : ∀ cs : List Char, (∀ c ∈ cs, Text.isBlank c = false) → cs.dropWhile Text.isBlank = cs := by
    intro cs h
    cases cs with
    | nil => rfl
    | cons c cs => rw [List.dropWhile_cons_of_neg (by simp [h c])]
  rw [Text.trim, Text.trimChars, hdrop _ h, hdrop _ (fun c hc => h c (List.mem_reverse.1 hc)),
    List.reverse_reverse, String.ofList_toList]

theorem WholeForm.ne_nil {cs : List Char} (h : WholeForm cs) : cs ≠ [] := by cases h <;> simp

theorem WholeForm.isDigit {cs : List Char} (h : WholeForm cs) : ∀ c ∈ cs, IsDigit c := by
  cases h with
  | single digit => simpa using digit
  | more lead ne digits =>
    rw [List.forall_mem_cons]
    exact ⟨isDigit_of_inRange ⟨Nat.le_trans (by decide) lead.1, lead.2⟩, digits⟩

theorem FractionForm.not_isBlank {places : Nat → Prop} {cs : List Char} (h : FractionForm places cs) :
    ∀ c ∈ cs, Text.isBlank c = false := by
  cases h with
  | none => simp
  | point _ digits =>
    rw [List.forall_mem_cons]
    exact ⟨by decide, fun d hd => not_isBlank_of_isDigit (digits d hd)⟩

theorem DecimalForm.not_isBlank {places : Nat → Prop} {cs : List Char} (h : DecimalForm places cs) :
    ∀ c ∈ cs, Text.isBlank c = false := by
  have hbody : ∀ {whole fraction}, WholeForm whole → FractionForm places fraction →
      ∀ c ∈ whole ++ fraction, Text.isBlank c = false := fun hw hf =>
    List.forall_mem_append.2 ⟨fun c hc => not_isBlank_of_isDigit (hw.isDigit c hc), hf.not_isBlank⟩
  cases h with
  | unsigned hw hf => exact hbody hw hf
  | signed hw hf => exact List.forall_mem_cons.2 ⟨by decide, hbody hw hf⟩

theorem not_isBlank_of_inRange {lo hi c : Char} (h : InRange lo hi c)
    (hb : ∀ n ∈ blanks, ¬ (lo.toNat ≤ n ∧ n ≤ hi.toNat)) : Text.isBlank c = false := by
  rw [← Bool.not_eq_true]
  exact fun hc => hb _ (mem_blanks_of_isBlank hc) h

theorem not_isBlank_of_hexDigit {c : Char} (h : CharSet.hexDigit.contains c.toNat = true) :
    Text.isBlank c = false := by
  simp only [CharSet.hexDigit, CharSet.contains, Bool.or_eq_true, CharSet.asciiDigit, contains_between] at h
  rcases h with h | h | h
  · exact not_isBlank_of_inRange h (by decide)
  · exact not_isBlank_of_inRange h (by decide)
  · exact not_isBlank_of_inRange h (by decide)

theorem IntForm.not_isBlank {cs : List Char} (h : IntForm cs) : ∀ c ∈ cs, Text.isBlank c = false := by
  cases h with
  | zero => exact List.forall_mem_singleton.2 (by decide)
  | @decimal sign c ds hs lead digits =>
    have hbody : ∀ e ∈ c :: ds, Text.isBlank e = false :=
      List.forall_mem_cons.2 ⟨not_isBlank_of_inRange lead (by decide),
        fun d hd => not_isBlank_of_isDigit (digits d hd)⟩
    rcases hs with rfl | rfl | rfl
    · exact hbody
    · exact List.forall_mem_cons.2 ⟨by decide, hbody⟩
    · exact List.forall_mem_cons.2 ⟨by decide, hbody⟩
  | hex mark ne digits =>
    simp only [List.forall_mem_cons]
    refine ⟨by decide, ?_, fun d hd => not_isBlank_of_hexDigit (digits d hd)⟩
    rcases mark with rfl | rfl <;> decide
  | octal ne digits =>
    simp only [List.forall_mem_cons]
    exact ⟨by decide, fun d hd => not_isBlank_of_inRange (digits d hd) (by decide)⟩

theorem trim_of_fits_decimal {s : String} (h : Kind.decimal.fits s = true) : Text.trim s = s :=
  trim_of_forall (fits_decimal_iff.1 h).not_isBlank

theorem trim_of_fits_price {s : String} (h : Kind.price.fits s = true) : Text.trim s = s :=
  trim_of_forall (fits_price_iff.1 h).not_isBlank

theorem trim_of_fits_int {s : String} (h : Kind.int.fits s = true) : Text.trim s = s :=
  trim_of_forall (fits_int_iff.1 h).not_isBlank

end Kind

end RecordSchema
