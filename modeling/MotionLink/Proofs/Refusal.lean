import Mathlib

/-!
# Steps that may be refused

How a sequence of steps ends, from how its first step ends. The equations run a
step whose outcome is known; `bind_eq_ok` and `map_eq_ok` take a sequence that
went through apart again, and `bind_eq_error` one that was refused.
-/

namespace MotionLink.Refusal

variable {ε ε' α β : Type}

/-- A first step that goes through hands its value to the rest. -/
@[simp] theorem ok_bind (a : α) (f : α → Except ε β) : (Except.ok a >>= f) = f a := rfl

/-- A refusal at the first step is the refusal of the sequence: the rest is not
tried. -/
@[simp] theorem error_bind (e : ε) (f : α → Except ε β) : (Except.error e >>= f) = .error e := rfl

/-- What is made of the value of a step is made where there is one. -/
@[simp] theorem map_ok (f : α → β) (a : α) : f <$> (Except.ok a : Except ε α) = .ok (f a) := rfl

/-- A refusal is passed on as it is when only values are mapped. -/
@[simp] theorem map_error (f : α → β) (e : ε) :
    f <$> (Except.error e : Except ε α) = .error e := rfl

/-- Saying a refusal in other words leaves a value alone. -/
@[simp] theorem mapError_ok (f : ε → ε') (a : α) :
    (Except.ok a : Except ε α).mapError f = .ok a := rfl

/-- A refusal is said in other words, which is how an error of the frames
becomes a failure of the program. -/
@[simp] theorem mapError_error (f : ε → ε') (e : ε) :
    (Except.error e : Except ε α).mapError f = .error (f e) := rfl

/-- A sequence goes through where its first step does and the rest does with its
value. Read from left to right this takes a run apart step by step, without
unfolding the steps. -/
theorem bind_eq_ok {x : Except ε α} {f : α → Except ε β} {b : β} :
    (x >>= f) = .ok b ↔ ∃ a, x = .ok a ∧ f a = .ok b := by
  cases x with
  | ok a => simp only [ok_bind, Except.ok.injEq, exists_eq_left']
  | error e => simp only [error_bind, reduceCtorEq, false_and, exists_false]

/-- A sequence is refused by its first step, or by the rest with the value of
the first. There is no third way, so what is shown of both is shown of the
sequence. -/
theorem bind_eq_error {x : Except ε α} {f : α → Except ε β} {e : ε} :
    (x >>= f) = .error e ↔ x = .error e ∨ ∃ a, x = .ok a ∧ f a = .error e := by
  cases x with
  | ok a => simp only [ok_bind, reduceCtorEq, Except.ok.injEq, exists_eq_left', false_or]
  | error other => simp only [error_bind, Except.error.injEq, reduceCtorEq, false_and, exists_false,
      or_false]

/-- A mapped step goes through where the step does, and its value is the image. -/
theorem map_eq_ok {x : Except ε α} {f : α → β} {b : β} :
    f <$> x = .ok b ↔ ∃ a, x = .ok a ∧ f a = b := by
  cases x with
  | ok a => simp only [map_ok, Except.ok.injEq, exists_eq_left']
  | error e => simp only [map_error, reduceCtorEq, false_and, exists_false]

/-- A mapped step is refused where the step is, and for the same reason. -/
theorem map_eq_error {x : Except ε α} {f : α → β} {e : ε} :
    f <$> x = .error e ↔ x = .error e := by
  cases x with
  | ok a => simp only [map_ok, reduceCtorEq]
  | error other => simp only [map_error, Except.error.injEq]

/-- Where refusals are said in other words, the same steps go through with the
same values. -/
theorem mapError_eq_ok {x : Except ε α} {f : ε → ε'} {a : α} :
    x.mapError f = .ok a ↔ x = .ok a := by
  cases x with
  | ok a => simp only [mapError_ok, Except.ok.injEq]
  | error e => simp only [mapError_error, reduceCtorEq]

/-- A refusal in other words has a refusal behind it that says the same. -/
theorem mapError_eq_error {x : Except ε α} {f : ε → ε'} {e : ε'} :
    x.mapError f = .error e ↔ ∃ cause, x = .error cause ∧ f cause = e := by
  cases x with
  | ok a => simp only [mapError_ok, reduceCtorEq, false_and, exists_false]
  | error cause => simp only [mapError_error, Except.error.injEq, exists_eq_left']

/-- Why a sequence was refused. -/
def error? : Except ε α → Option ε
  | .ok _ => none
  | .error e => some e

/-- The reason is there just where there was a refusal. -/
theorem error?_eq_some {x : Except ε α} {e : ε} : error? x = some e ↔ x = .error e := by
  cases x with
  | ok a => simp only [error?, reduceCtorEq]
  | error e => simp only [error?, Option.some.injEq, Except.error.injEq]

end MotionLink.Refusal
