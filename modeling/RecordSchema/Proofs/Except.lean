/-
When a computation that may fail has a given result, and what can be said of
the errors that it may end in.
-/
namespace Except

variable {ε ε' α β : Type}

@[simp] theorem bind_eq_ok_iff {x : Except ε α} {f : α → Except ε β} {b : β} :
    (x >>= f) = .ok b ↔ ∃ a, x = .ok a ∧ f a = .ok b := by
  cases x <;> simp [bind, Except.bind]

@[simp] theorem map_eq_ok_iff {x : Except ε α} {f : α → β} {b : β} :
    x.map f = .ok b ↔ ∃ a, x = .ok a ∧ f a = b := by
  cases x <;> simp [Except.map]

@[simp] theorem map_eq_error_iff {x : Except ε α} {f : α → β} {e : ε} :
    x.map f = .error e ↔ x = .error e := by
  cases x <;> simp [Except.map]

@[simp] theorem mapError_eq_ok_iff {x : Except ε α} {f : ε → ε'} {a : α} : x.mapError f = .ok a ↔ x = .ok a := by
  constructor
  · intro h
    cases x with
    | error e => cases h
    | ok b => cases h; rfl
  · rintro rfl
    rfl

/-- Results and errors are mapped independently of each other. -/
theorem map_mapError (x : Except ε α) (f : ε → ε') (g : α → β) :
    (x.mapError f).map g = (x.map g).mapError f := by
  cases x <;> rfl

/-! ## Errors -/

/-- Whatever error the computation ends in is one of `P`. -/
def FailsOnlyIn (P : ε → Prop) (x : Except ε α) : Prop := ∀ e, x = .error e → P e

namespace FailsOnlyIn

variable {P Q : ε → Prop} {x : Except ε α}

theorem ok {a : α} : FailsOnlyIn P (.ok a : Except ε α) := nofun

theorem error {e : ε} (h : P e) : FailsOnlyIn P (.error e : Except ε α) := by
  rintro _ ⟨⟩
  exact h

theorem imp (h : ∀ e, P e → Q e) (hx : FailsOnlyIn P x) : FailsOnlyIn Q x := fun e he => h e (hx e he)

theorem bind {f : α → Except ε β} (hx : FailsOnlyIn P x) (hf : ∀ a, FailsOnlyIn P (f a)) :
    FailsOnlyIn P (x >>= f) := by
  cases x with
  | error e => exact error (hx e rfl)
  | ok a => exact hf a

theorem map {f : α → β} (hx : FailsOnlyIn P x) : FailsOnlyIn P (x.map f) :=
  fun e he => hx e (map_eq_error_iff.1 he)

theorem mapM {f : α → Except ε β} (hf : ∀ a, FailsOnlyIn P (f a)) (l : List α) :
    FailsOnlyIn P (l.mapM f) := by
  induction l with
  | nil => exact ok
  | cons a l ih =>
    rw [List.mapM_cons]
    exact (hf a).bind fun b => ih.bind fun bs => ok

end FailsOnlyIn

end Except
