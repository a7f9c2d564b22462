/-
Changes in place: calls that read and assign to what they are made on, and may
be refused on the way.

What a call has assigned before it is refused stays assigned. That a refusal
changes nothing is therefore a property of a call (`Change.Atomic`), to be
shown of each; those have it that make all their checks first.
-/
import RecordSchema.BuildError

namespace RecordSchema

/-- A call on a `σ` with a result in `α`. -/
abbrev Change (σ : Type) : Type → Type := ExceptT BuildError (StateM σ)

namespace Change

variable {σ τ α β : Type}

/-- What a call leaves of the state that it is made on, with its result. -/
def perform (c : Change σ α) (s : σ) : σ × Except BuildError α :=
  let (result, s) := c.run.run s
  (s, result)

/-- The state that a call has left, unless the call was refused: what one has who gives up at a refusal. -/
def outcome : σ × Except BuildError Unit → Except BuildError σ
  | (s, .ok ()) => .ok s
  | (_, .error e) => .error e

/-- The state that a call makes of one, or why it is refused. -/
def changed (c : Change σ Unit) (s : σ) : Except BuildError σ := outcome (c.perform s)

/-- A call on a part of a state, which is put back into the whole. -/
def performIn (c : Change σ Unit) (s : σ) (put : σ → τ) : τ × Except BuildError Unit :=
  (put (c.perform s).1, (c.perform s).2)

/-- A call that leaves the state as it was wherever it is refused. -/
def Atomic (c : Change σ Unit) : Prop := ∀ s e, (c.perform s).2 = .error e → (c.perform s).1 = s

/-! ## Steps of a call -/

@[simp] theorem perform_pure (a : α) (s : σ) : (pure a : Change σ α).perform s = (s, .ok a) := rfl

@[simp] theorem perform_throw (e : BuildError) (s : σ) : (throw e : Change σ α).perform s = (s, .error e) := rfl

@[simp] theorem perform_get (s : σ) : (get : Change σ σ).perform s = (s, .ok s) := rfl

@[simp] theorem perform_modify (f : σ → σ) (s : σ) : (modify f : Change σ Unit).perform s = (f s, .ok ()) := rfl

@[simp] theorem perform_ofExcept (r : Except BuildError α) (s : σ) :
    (ofExcept r : Change σ α).perform s = (s, r) := by
  cases r <;> rfl

@[simp] theorem perform_bind (c : Change σ α) (f : α → Change σ β) (s : σ) :
    (c >>= f).perform s = match c.perform s with
      | (s', .ok a) => (f a).perform s'
      | (s', .error e) => (s', .error e) := by
  show (let (result, s') := (c.run >>= ExceptT.bindCont f).run s; (s', result)) = _
  rw [StateT.run_bind]
  unfold perform
  rcases c.run.run s with ⟨a | e, s'⟩ <;> rfl

/-! ## Outcomes -/

@[simp] theorem outcome_ok (s : σ) : outcome (s, .ok ()) = .ok s := rfl

theorem outcome_eq_ok_iff {p : σ × Except BuildError Unit} {s : σ} : outcome p = .ok s ↔ p = (s, .ok ()) := by
  rcases p with ⟨t, e | ⟨⟩⟩ <;> simp [outcome]

theorem outcome_eq_error_iff {p : σ × Except BuildError Unit} {e : BuildError} :
    outcome p = .error e ↔ p.2 = .error e := by
  rcases p with ⟨t, e | ⟨⟩⟩ <;> simp [outcome]

theorem outcome_performIn_eq_ok_iff {c : Change σ Unit} {s : σ} {put : σ → τ} {t : τ} :
    outcome (c.performIn s put) = .ok t ↔ ∃ s', c.changed s = .ok s' ∧ put s' = t := by
  unfold performIn changed
  rcases c.perform s with ⟨s', e | ⟨⟩⟩ <;> simp [outcome]

theorem perform_of_changed_eq_ok {c : Change σ Unit} {s s' : σ} (h : c.changed s = .ok s') :
    c.perform s = (s', .ok ()) :=
  outcome_eq_ok_iff.1 h

/-! ## Atomic calls -/

/-- The new state with no more to say, or the old one with the reason for the refusal. -/
def settle (s : σ) : Except BuildError σ → σ × Except BuildError Unit
  | .ok s' => (s', .ok ())
  | .error e => (s, .error e)

@[simp] theorem settle_ok (s s' : σ) : settle s (.ok s') = (s', .ok ()) := rfl

@[simp] theorem settle_error (s : σ) (e : BuildError) : settle s (.error e) = (s, .error e) := rfl

@[simp] theorem outcome_settle (s : σ) (r : Except BuildError σ) : outcome (settle s r) = r := by
  cases r <;> rfl

theorem Atomic.of_settle {c : Change σ Unit} (h : ∀ s, ∃ r, c.perform s = settle s r) : c.Atomic := by
  intro s e he
  obtain ⟨r, hr⟩ := h s
  rw [hr] at he ⊢
  cases r with
  | ok s' => cases he
  | error e' => rfl

theorem Atomic.performIn {c : Change σ Unit} (hc : c.Atomic) {s : σ} {put : σ → τ} {e : BuildError}
    (h : (c.performIn s put).2 = .error e) : (c.performIn s put).1 = put s :=
  congrArg put (hc s e h)

theorem Atomic.of_changed_eq_error {c : Change σ Unit} (hc : c.Atomic) {s : σ} {e : BuildError}
    (h : c.changed s = .error e) : (c.perform s).1 = s :=
  hc s e (outcome_eq_error_iff.1 h)

end Change

end RecordSchema
