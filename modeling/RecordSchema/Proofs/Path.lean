/-
The text of a path tells the path, as long as its fields are named as those of
a record may be (`text_unambiguous`).

Every step but a first field is written with a point or a bracket in front
(`Segment.chars`), and neither can be part of a name, so a text falls apart
into its steps in one way (`tailText_inj`). A first field goes without its
point, and that it does can be told from the first character (`text_cases`).
-/
import RecordSchema.Path
import RecordSchema.Proofs.Name
import RecordSchema.Proofs.Number.Numeral

namespace RecordSchema

/-! ## Runs -/

/-- What begins here does not go on with a run of such characters. -/
def Ends (p : Char → Bool) (cs : List Char) : Prop := ∀ c, cs.head? = some c → p c = false

theorem run_append_inj {p : Char → Bool} {as bs r s : List Char} (has : ∀ c ∈ as, p c = true)
    (hbs : ∀ c ∈ bs, p c = true) (hr : Ends p r) (hs : Ends p s) (h : as ++ r = bs ++ s) :
    as = bs ∧ r = s := by
  obtain ⟨htake, hdrop⟩ := Text.takeWhile_run has hr
  obtain ⟨htake', hdrop'⟩ := Text.takeWhile_run hbs hs
  rw [h] at htake hdrop
  exact ⟨htake.symm.trans htake', hdrop.symm.trans hdrop'⟩

/-! ## Segments -/

namespace Segment

/-- Whether the segment is a position, or a field named as that of a record may be. -/
def isStandard : Segment → Bool
  | field name => Name.isField name
  | index _ => true

/-- How a segment is written behind another. -/
def chars : Segment → List Char
  | field name => '.' :: name.toList
  | index position => '[' :: (Text.decimal position ++ [']'])

theorem head?_chars (s : Segment) (r : List Char) :
    (s.chars ++ r).head? = some '.' ∨ (s.chars ++ r).head? = some '[' := by
  cases s with
  | field name => exact .inl rfl
  | index position => exact .inr rfl

/-- **What a segment is and where it ends can be told from a text** in which no part of a name follows. -/
theorem chars_append_inj {s t : Segment} (hs : s.isStandard = true) (ht : t.isStandard = true)
    {r r' : List Char} (hr : Ends Name.isFieldChar r) (hr' : Ends Name.isFieldChar r')
    (h : s.chars ++ r = t.chars ++ r') : s = t ∧ r = r' := by
  cases s with
  | field name =>
    cases t with
    | field name' =>
      have hname := (Name.isFieldChars_spec hs).2
      have hname' := (Name.isFieldChars_spec ht).2
      obtain ⟨heq, hrest⟩ := run_append_inj hname hname' hr hr' (List.cons.inj h).2
      exact ⟨congrArg field (String.toList_inj.1 heq), hrest⟩
    | index position => exact absurd (List.cons.inj h).1 (by decide)
  | index position =>
    cases t with
    | field name => exact absurd (List.cons.inj h).1 (by decide)
    | index position' =>
      have hclose : ∀ cs : List Char, Ends Char.isDigit (']' :: cs) := by
        intro cs c hc
        cases hc
        decide
      have hdigits : Text.decimal position ++ ']' :: r = Text.decimal position' ++ ']' :: r' := by
        simpa [chars] using h
      obtain ⟨heq, hrest⟩ := run_append_inj (fun _ => Text.isDigit_of_mem_decimal)
        (fun _ => Text.isDigit_of_mem_decimal) (hclose r) (hclose r') hdigits
      have hposition : some position = some position' := by
        rw [← Text.numeral?_decimal, heq, Text.numeral?_decimal]
      exact ⟨congrArg index (Option.some.inj hposition), (List.cons.inj hrest).2⟩

end Segment

/-! ## Paths -/

namespace Path

/-- Whether all fields are named as those of a record may be. -/
def isStandard (p : Path) : Bool := p.segments.all (·.isStandard)

theorem toList_tailText_cons (s : Segment) (ss : List Segment) :
    (tailText (s :: ss)).toList = s.chars ++ (tailText ss).toList := by
  cases s <;> simp [tailText, indexText, Segment.chars]

theorem head?_tailText {ss : List Segment} (h : ss ≠ []) :
    (tailText ss).toList.head? = some '.' ∨ (tailText ss).toList.head? = some '[' := by
  obtain ⟨s, ss, rfl⟩ := List.exists_cons_of_ne_nil h
  rw [toList_tailText_cons]
  exact s.head?_chars _

theorem ends_tailText (ss : List Segment) : Ends Name.isFieldChar (tailText ss).toList := by
  intro c hc
  by_cases hss : ss = []
  · subst hss
    cases hc
  · rcases head?_tailText hss with hhead | hhead
    · cases hhead.symm.trans hc
      decide
    · cases hhead.symm.trans hc
      decide

theorem toList_tailText_eq_nil_iff {ss : List Segment} : (tailText ss).toList = [] ↔ ss = [] := by
  constructor
  · intro h
    by_cases hss : ss = []
    · exact hss
    · have hhead := head?_tailText hss
      rw [h] at hhead
      exact absurd hhead (by decide)
  · rintro rfl
    rfl

theorem tailText_inj {ss ts : List Segment} (hs : ss.all (·.isStandard) = true)
    (ht : ts.all (·.isStandard) = true) (h : (tailText ss).toList = (tailText ts).toList) : ss = ts := by
  -- the next segment begins with its mark, so each of the two texts gives up its first segment alike
  induction ss generalizing ts with
  | nil => exact (toList_tailText_eq_nil_iff.1 h.symm).symm
  | cons s ss ih =>
    cases ts with
    | nil => exact toList_tailText_eq_nil_iff.1 h
    | cons t ts =>
      rw [List.all_cons, Bool.and_eq_true] at hs ht
      rw [toList_tailText_cons, toList_tailText_cons] at h
      obtain ⟨rfl, hrest⟩ := Segment.chars_append_inj hs.1 ht.1 (ends_tailText ss) (ends_tailText ts) h
      rw [ih hs.2 ht.2 hrest]

variable {p q : Path}

/-- A text begins as a name does exactly if the point of a first field is left out. -/
theorem text_cases (h : p.isStandard = true) :
    (Ends Name.isFieldChar p.text.toList ∧ (tailText p.segments).toList = p.text.toList) ∨
      (¬Ends Name.isFieldChar p.text.toList ∧ (tailText p.segments).toList = '.' :: p.text.toList) := by
  obtain ⟨segments⟩ := p
  cases segments with
  | nil => exact .inl ⟨ends_tailText [], rfl⟩
  | cons s ss =>
    cases s with
    | index position => exact .inl ⟨ends_tailText (.index position :: ss), rfl⟩
    | field name =>
      have htext : (text ⟨.field name :: ss⟩).toList = name.toList ++ (tailText ss).toList := by simp [text]
      have hname : Name.isField name = true := (Bool.and_eq_true_iff.1 h).1
      obtain ⟨hne, hall⟩ := Name.isFieldChars_spec hname
      obtain ⟨c, cs, hcs⟩ := List.exists_cons_of_ne_nil hne
      refine .inr ⟨?_, by rw [toList_tailText_cons, htext]; rfl⟩
      intro hends
      have hfalse : Name.isFieldChar c = false := hends c (by rw [htext, hcs]; rfl)
      rw [hall c (hcs ▸ List.mem_cons_self ..)] at hfalse
      cases hfalse

theorem eq_of_text_eq (hp : p.isStandard = true) (hq : q.isStandard = true) (h : p.text = q.text) : p = q := by
  -- equal texts begin alike, so the point is left out of both or of neither
  have htail : (tailText p.segments).toList = (tailText q.segments).toList := by
    rcases text_cases hp with ⟨hends, hp⟩ | ⟨hends, hp⟩ <;>
      rcases text_cases hq with ⟨hends', hq⟩ | ⟨hends', hq⟩
    · rw [hp, hq, h]
    · exact absurd (h ▸ hends) hends'
    · exact absurd (h ▸ hends') hends
    · rw [hp, hq, h]
  have hsegments := tailText_inj hp hq htail
  obtain ⟨segments⟩ := p
  obtain ⟨segments'⟩ := q
  exact congrArg Path.mk hsegments

/-- A text that does not begin as a name does has a mark in front, unless it is that of the root. -/
theorem head?_text (hp : p.isStandard = true) (hne : p ≠ root) (hends : Ends Name.isFieldChar p.text.toList) :
    p.text.toList.head? = some '.' ∨ p.text.toList.head? = some '[' := by
  have hsegments : p.segments ≠ [] := by
    intro h
    obtain ⟨segments⟩ := p
    exact hne (congrArg Path.mk h)
  rcases text_cases hp with ⟨-, htail⟩ | ⟨hends', -⟩
  · exact htail ▸ head?_tailText hsegments
  · exact absurd hends hends'

theorem describe_of_ne_root (h : p ≠ root) : p.describe = p.text := by
  obtain ⟨segments⟩ := p
  cases segments with
  | nil => exact absurd rfl h
  | cons s ss => rfl

/-- Neither the text of the root nor the word that stands for it is the text of another path. -/
theorem text_ne (hp : p.isStandard = true) (hne : p ≠ root) : p.text ≠ "" ∧ p.text ≠ "(root)" := by
  have hhead := head?_text hp hne
  constructor
  · intro h
    have hends : Ends Name.isFieldChar "".toList := nofun
    rw [h] at hhead
    exact absurd (hhead hends) (by decide)
  · intro h
    have hends : Ends Name.isFieldChar "(root)".toList := by
      intro c hc
      cases hc
      decide
    rw [h] at hhead
    exact absurd (hhead hends) (by decide)

/-- **The text of a path tells the path**, if its fields are named as those of a record may be. Neither the
empty text nor the word for the root is that of another path, so what messages name a path by tells it too. -/
theorem text_unambiguous (hp : p.isStandard = true) (hq : q.isStandard = true) :
    (p.text = q.text ↔ p = q) ∧ (p ≠ root → p.text ≠ "" ∧ p.text ≠ "(root)") ∧
      (p.describe = q.describe ↔ p = q) := by
  have htext : p.text = q.text ↔ p = q := ⟨eq_of_text_eq hp hq, congrArg text⟩
  refine ⟨htext, text_ne hp, ?_, congrArg describe⟩
  intro h
  by_cases hp' : p = root
  · by_cases hq' : q = root
    · rw [hp', hq']
    · rw [hp', describe_of_ne_root hq'] at h
      exact absurd h.symm (text_ne hq hq').2
  · rw [describe_of_ne_root hp'] at h
    by_cases hq' : q = root
    · rw [hq'] at h
      exact absurd h (text_ne hp hp').2
    · rw [describe_of_ne_root hq'] at h
      exact htext.1 h

/-- With two positions in front, whose digits are those of one. -/
theorem text_unambiguous_positions :
    let p := ((root.index 1).index 2).field "_x1"
    let q := (root.index 12).field "_x1"
    p.isStandard = true ∧ q.isStandard = true ∧ p ≠ root ∧ p.text = "[1][2]._x1" ∧ p.text ≠ q.text ∧
      (p.text ≠ "" ∧ p.text ≠ "(root)") ∧ p.describe ≠ q.describe := by
  intro p q
  have hp : p.isStandard = true := by decide
  have hq : q.isStandard = true := by decide
  have hroot : p ≠ root := by decide
  have hne : p ≠ q := by decide
  obtain ⟨htext, hnone, hdescribe⟩ := text_unambiguous hp hq
  exact ⟨hp, hq, hroot, by rfl, mt htext.1 hne, hnone hroot, mt hdescribe.1 hne⟩

/-- The keys of a hash can have any form, and with such keys two paths can have one text. -/
example : (root.field "a.b").text = ((root.field "a").field "b").text := by decide

end Path

end RecordSchema
