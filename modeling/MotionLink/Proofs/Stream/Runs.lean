import Mathlib

/-!
# Runs

Reassemblers, packet buffers, readers and sinks are used in one way: asked
something, each answers and becomes another of its kind. A run asks any sequence
of things (`converse`), whatever the state and the answers are made of, and the
runs of all of them are this one with their own call. What is true of every run
is stated here once: it splits where its calls are split (`converse_append`),
has an answer for each call (`length_converse`), and keeps what every call keeps
(`converse_rule`, `converse_keeps`).

What answers a call may itself be a loop, that of a splitter over its stages or
that of a reader over its reads. Such a loop is watched from outside by counting
its steps (`untilAnswer`); that the count does not run out is shown where the
loop is.
-/

namespace MotionLink

section

variable {State Call Answer : Type} {ask : State → Call → Answer × State}

/-- Asks one thing after the other: the first in the given state, each of the
others in the state that the one before it has left. The answers come in the
order of the calls, and with them the state at the end. -/
def converse (ask : State → Call → Answer × State) (s : State) : List Call → List Answer × State
  | [] => ([], s)
  | call :: calls =>
    let (answer, s) := ask s call
    let (answers, last) := converse ask s calls
    (answer :: answers, last)

/-- A run is its first call, and the run of the others from where that leads. -/
theorem converse_cons (s : State) (call : Call) (calls : List Call) :
    converse ask s (call :: calls) =
      ((ask s call).1 :: (converse ask (ask s call).2 calls).1,
        (converse ask (ask s call).2 calls).2) := rfl

/-- Calls made in two goes are made in one: the second run starts where the
first has ended, and its answers stand behind those of the first. -/
theorem converse_append (s : State) (calls later : List Call) :
    converse ask s (calls ++ later) =
      ((converse ask s calls).1 ++ (converse ask (converse ask s calls).2 later).1,
        (converse ask (converse ask s calls).2 later).2) := by
  induction calls generalizing s with
  | nil => rfl
  | cons call calls ih =>
    rw [List.cons_append, converse_cons, ih, converse_cons]
    rfl

/-- Every call is answered, and nothing else is. -/
theorem length_converse (ask : State → Call → Answer × State) (s : State) (calls : List Call) :
    (converse ask s calls).1.length = calls.length := by
  induction calls generalizing s with
  | nil => rfl
  | cons call calls ih => rw [converse_cons, List.length_cons, ih, List.length_cons]

/-- Where a call in a good state has a fine answer and leaves a good state, all
answers of a run from a good state are fine and the state at its end is good. -/
theorem converse_rule {Good : State → Prop} (Fine : Answer → Prop)
    (each : ∀ s call, Good s → Fine (ask s call).1 ∧ Good (ask s call).2) {s : State}
    (start : Good s) (calls : List Call) :
    (∀ answer ∈ (converse ask s calls).1, Fine answer) ∧ Good (converse ask s calls).2 := by
  induction calls generalizing s with
  | nil => exact ⟨nofun, start⟩
  | cons call calls ih =>
    obtain ⟨first, kept⟩ := each s call start
    obtain ⟨others, last⟩ := ih kept
    exact ⟨List.forall_mem_cons.mpr ⟨first, others⟩, last⟩

/-- A state is good at the end of a run from a good one, where every call leaves
a good state for a good one. -/
theorem converse_keeps {Good : State → Prop} (each : ∀ s call, Good s → Good (ask s call).2)
    {s : State} (start : Good s) (calls : List Call) : Good (converse ask s calls).2 := by
  have any (s : State) (call : Call) (good : Good s) : True ∧ Good (ask s call).2 :=
    ⟨trivial, each s call good⟩
  exact (converse_rule (fun _ => True) any start calls).2

end

section

variable {State Answer : Type} {step : State → Option Answer × State} {s s' : State}

/-- Goes on step by step until one of them has an answer, at most a number of
times. -/
def untilAnswer (step : State → Option Answer × State) : Nat → State → Option Answer × State
  | 0, s => (none, s)
  | n + 1, s =>
    match step s with
    | (some answer, s) => (some answer, s)
    | (none, s) => untilAnswer step n s

/-- A step that has an answer is the last. -/
theorem untilAnswer_of_some {answer : Answer} (answers : step s = (some answer, s')) (n : Nat) :
    untilAnswer step (n + 1) s = (some answer, s') := by
  rw [untilAnswer, answers]

/-- A step that has none leaves the answer to those behind it. -/
theorem untilAnswer_of_none (silent : step s = (none, s')) (n : Nat) :
    untilAnswer step (n + 1) s = untilAnswer step n s' := by
  rw [untilAnswer, silent]

end

end MotionLink
