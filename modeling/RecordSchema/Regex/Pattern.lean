/-
Patterns: a text together with the regular expression it describes. The text
alone determines the pattern (`Pattern.ext_text`).
-/
import RecordSchema.Regex.Reader
import RecordSchema.Regex.Search

namespace RecordSchema

/-- A text that describes a regular expression. -/
structure Pattern where
  text : String
  regex : Regex
  describes : Regex.read? text = some regex
  deriving DecidableEq

namespace Pattern

/-- The pattern with a text, if the text is that of one. -/
def ofText? (text : String) : Option Pattern :=
  match h : Regex.read? text with
  | some r => some ⟨text, r, h⟩
  | none => none

/-- Whether the pattern matches somewhere in a text. -/
def occursIn (p : Pattern) (text : String) : Bool := p.regex.occurs text

theorem ext_text {p q : Pattern} (h : p.text = q.text) : p = q := by
  obtain ⟨pt, pr, hp⟩ := p
  obtain ⟨qt, qr, hq⟩ := q
  simp only at h
  subst h
  rw [hp] at hq
  cases hq
  rfl

theorem text_of_ofText? {s : String} {p : Pattern} (h : ofText? s = some p) : p.text = s := by
  unfold ofText? at h
  split at h
  · cases h; rfl
  · cases h

end Pattern

end RecordSchema
