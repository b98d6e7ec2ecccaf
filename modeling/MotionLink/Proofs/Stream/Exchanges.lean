import Mathlib
import MotionLink.Proofs.Frame.RoundTrip
import MotionLink.Proofs.Stream.Runs
import MotionLink.Stream.Sink

/-!
# What passes between a sink and its outlet

A call of a sink is a series of exchanges with its outlet: writes, then flushes,
each with the answer of the outlet (`Outlet.Passes`). `Conveys` says which
series is right for the bytes of a call. Each exchange is the one that is due,
which is to offer all that is left, or to flush where nothing is left
(`Exchange.Due`), and the call ends with the first exchange that decides its
result (`Exchange.verdict?`).

It follows that the outlet takes a prefix of those bytes (`Conveys.isPrefix`),
and the whole before a call succeeds (`Conveys.whole`). Both loops of a sink
converse in this way (`transmit_conveys`), so every call of a run does
(`run_exchanges`), whatever an earlier call has left in the buffer.
-/

namespace MotionLink

/-- A write or a flush, and what the outlet answered. -/
inductive Exchange where
  | write (offered : Bytes) (reply : Except IoFailure Nat)
  | flush (reply : Except IoFailure Unit)

namespace Exchange

/-- The bytes that the outlet took. -/
def moved : Exchange → Bytes
  | write offered (.ok count) => offered.take count
  | write _ (.error _) | flush _ => []

/-- The result of a call that ends with an exchange. After a write that took something and after a
failure that passes by itself it goes on. -/
def verdict? : Exchange → Option (Except FrameError Unit)
  | write _ (.ok 0) => some (.error .connectionClosed)
  | write _ (.ok (_ + 1)) => none
  | flush (.ok ()) => some (.ok ())
  | write _ (.error failure) | flush (.error failure) =>
    if failure.isTransient then none else some (.error (.io failure))

/-- What is to be done where the bytes `left` have not been taken: to offer them all, or to flush if
there are none. -/
def Due (left : Bytes) : Exchange → Prop
  | write offered _ => left ≠ [] ∧ offered = left
  | flush _ => left = []

end Exchange

open Exchange

/-- The bytes that the outlet took in a series of exchanges, in order. -/
def movedAll (exchanges : List Exchange) : Bytes := exchanges.flatMap moved

theorem movedAll_append (exchanges exchanges' : List Exchange) :
    movedAll (exchanges ++ exchanges') = movedAll exchanges ++ movedAll exchanges' :=
  List.flatMap_append

theorem movedAll_cons (exchange : Exchange) (exchanges : List Exchange) :
    movedAll (exchange :: exchanges) = exchange.moved ++ movedAll exchanges :=
  List.flatMap_cons

theorem movedAll_flatten (logs : List (List Exchange)) :
    movedAll logs.flatten = logs.flatMap movedAll := by
  rw [← List.flatMap_id, movedAll, List.flatMap_assoc]
  rfl

theorem movedAll_singleton (exchange : Exchange) : movedAll [exchange] = exchange.moved :=
  List.append_nil _

/-! ## The side of the outlet -/

namespace Outlet

/-- An outlet passes through exchanges, each answered as its scripts say. -/
inductive Passes : Outlet → List Exchange → Outlet → Prop where
  | nil (o : Outlet) : Passes o [] o
  | write {o o' last : Outlet} {offered : Bytes} {reply : Except IoFailure Nat}
      {exchanges : List Exchange} (step : o.write offered = (reply, o'))
      (rest : Passes o' exchanges last) : Passes o (.write offered reply :: exchanges) last
  | flush {o o' last : Outlet} {reply : Except IoFailure Unit} {exchanges : List Exchange}
      (step : o.flush = (reply, o')) (rest : Passes o' exchanges last) :
      Passes o (.flush reply :: exchanges) last

/-- Two series of exchanges make one where the second begins with the outlet
that the first has left. -/
theorem Passes.append {o o' last : Outlet} {exchanges exchanges' : List Exchange}
    (first : o.Passes exchanges o') (rest : o'.Passes exchanges' last) :
    o.Passes (exchanges ++ exchanges') last := by
  induction first with
  | nil o => exact rest
  | write step _ ih => exact .write step (ih rest)
  | flush step _ ih => exact .flush step (ih rest)

/-- A write adds to the outlet what it moved: the front of what was offered, or
nothing. -/
theorem taken_write {o o' : Outlet} {offered : Bytes} {reply : Except IoFailure Nat}
    (step : o.write offered = (reply, o')) :
    o'.taken = o.taken ++ (Exchange.write offered reply).moved := by
  unfold write at step
  split at step <;> cases step
  · simp only [moved, List.take_length]
  · simp only [moved]
    rw [List.take_eq_take_min]
  · simp only [moved, List.append_nil]

theorem taken_flush {o o' : Outlet} {reply : Except IoFailure Unit} (step : o.flush = (reply, o')) :
    o'.taken = o.taken := by
  unfold flush at step
  split at step <;> cases step <;> rfl

/-- An outlet has taken what the exchanges moved, in order and with nothing
between. The induction is on the series. -/
theorem Passes.taken {o last : Outlet} {exchanges : List Exchange}
    (passes : o.Passes exchanges last) : last.taken = o.taken ++ movedAll exchanges := by
  induction passes with
  | nil o => exact (List.append_nil _).symm
  | write step _ ih =>
    rw [ih, movedAll_cons, ← List.append_assoc, taken_write step]
  | flush step _ ih =>
    rw [ih, movedAll_cons, moved, List.nil_append, taken_flush step]

end Outlet

/-! ## The side of the sink -/

/-- The exchanges by which a call conveys the bytes `payload`, and its result. -/
structure Conveys (payload : Bytes) (exchanges : List Exchange) (result : Except FrameError Unit) :
    Prop where
  /-- Each exchange is the one due for what those before it have not moved. -/
  due : ∀ (before : List Exchange) (exchange : Exchange) (after : List Exchange),
    exchanges = before ++ exchange :: after →
      ∃ left, movedAll before ++ left = payload ∧ exchange.Due left
  /-- The last exchange decides the result, and none before it decides one. -/
  ends : ∃ (earlier : List Exchange) (last : Exchange), exchanges = earlier ++ [last] ∧
    last.verdict? = some result ∧ ∀ exchange ∈ earlier, exchange.verdict? = none

section

variable {payload left : Bytes} {exchange : Exchange} {exchanges : List Exchange}
  {result : Except FrameError Unit}

/-- An exchange that decides the result is the last. Nothing has been moved
before it, so it is due for the whole payload. -/
theorem Conveys.last (due : exchange.Due payload) (verdict : exchange.verdict? = some result) :
    Conveys payload [exchange] result where
  due := by
    intro before e after split
    rcases List.cons_eq_append_iff.mp split with ⟨rfl, same⟩ | ⟨later, rfl, none⟩
    · cases same
      exact ⟨payload, rfl, due⟩
    · simp at none
  ends := ⟨[], exchange, rfl, verdict, nofun⟩

/-- An exchange that decides nothing is followed by those that convey the rest.
What it moved is the front of the payload, so the places of the others are
counted from behind it. -/
theorem Conveys.more (due : exchange.Due payload) (on : exchange.verdict? = none)
    (parts : exchange.moved ++ left = payload) (rest : Conveys left exchanges result) :
    Conveys payload (exchange :: exchanges) result where
  due := by
    intro before e after split
    rcases List.cons_eq_append_iff.mp split with ⟨rfl, same⟩ | ⟨before', rfl, split'⟩
    · cases same
      exact ⟨payload, rfl, due⟩
    · obtain ⟨left', parts', due'⟩ := rest.due before' e after split'
      refine ⟨left', ?_, due'⟩
      rw [movedAll_cons, List.append_assoc, parts', parts]
  ends := by
    obtain ⟨earlier, last, rfl, verdict, quiet⟩ := rest.ends
    refine ⟨exchange :: earlier, last, rfl, verdict, ?_⟩
    intro e mem
    rcases List.mem_cons.mp mem with rfl | mem
    · exact on
    · exact quiet e mem

theorem Exchange.due_write {offered : Bytes} (more : 0 < offered.length)
    (reply : Except IoFailure Nat) : (Exchange.write offered reply).Due offered :=
  ⟨List.ne_nil_of_length_pos more, rfl⟩

/-- An exchange moves a prefix of what it is due for. -/
theorem Exchange.Due.isPrefix (due : exchange.Due left) : exchange.moved <+: left := by
  cases exchange with
  | write offered reply =>
    obtain ⟨-, rfl⟩ := due
    cases reply with
    | ok count => exact List.take_prefix count offered
    | error failure => exact List.nil_prefix
  | flush reply => exact List.nil_prefix

/-- The outlet takes a prefix of the bytes conveyed, since every exchange goes
on where those before it have stopped. -/
theorem Conveys.isPrefix (conveys : Conveys payload exchanges result) :
    movedAll exchanges <+: payload := by
  obtain ⟨earlier, last, rfl, -, -⟩ := conveys.ends
  obtain ⟨left, rfl, due⟩ := conveys.due earlier last [] rfl
  rw [movedAll_append, movedAll_singleton]
  exact (List.prefix_append_right_inj _).mpr due.isPrefix

/-- A call succeeds with a flush, the only one that does, after all its bytes
have been taken. A flush is due only where nothing is left. -/
theorem Conveys.whole (conveys : Conveys payload exchanges (.ok ())) :
    movedAll exchanges = payload ∧
      ∃ earlier : List Exchange, exchanges = earlier ++ [.flush (.ok ())] ∧
        ∀ exchange ∈ earlier, exchange ≠ .flush (.ok ()) := by
  obtain ⟨earlier, last, rfl, verdict, quiet⟩ := conveys.ends
  obtain ⟨left, rfl, due⟩ := conveys.due earlier last [] rfl
  -- Success is the verdict of one exchange only.
  have flushed : last = .flush (.ok ()) := by
    cases last with
    | write offered reply =>
      cases reply with
      | ok count => cases count <;> cases verdict
      | error failure =>
        simp only [verdict?] at verdict
        split at verdict <;> cases verdict
    | flush reply =>
      cases reply with
      | ok _ => rfl
      | error failure =>
        simp only [verdict?] at verdict
        split at verdict <;> cases verdict
  subst flushed
  obtain rfl : left = [] := due
  refine ⟨?_, earlier, rfl, ?_⟩
  · rw [movedAll_append, movedAll_singleton]
    rfl
  · rintro exchange mem rfl
    cases quiet _ mem

end

/-! ## The loops of a sink -/

namespace Outlet

/-- The flushes of a call, where no byte is left to be written. The loop repeats
a flush that fails in passing and ends with any other answer. -/
theorem flushAll_conveys (o : Outlet) :
    ∃ exchanges, o.Passes exchanges o.flushAll.2 ∧ Conveys [] exchanges o.flushAll.1 := by
  fun_induction flushAll o with
  | case1 o o' step => exact ⟨_, .flush step (.nil o'), .last rfl rfl⟩
  | case2 o failure o' step _ transient ih =>
    obtain ⟨exchanges, passes, conveys⟩ := ih
    exact ⟨_, .flush step passes, .more rfl (if_pos transient) rfl conveys⟩
  | case3 o failure o' step _ lasting =>
    exact ⟨_, .flush step (.nil o'), .last rfl (if_neg lasting)⟩

/-- The writes of a call from an offset on, and its flushes. The induction
follows the loop: each round offers what is behind the offset and goes on behind
what was taken of it. -/
theorem conclude_conveys (o : Outlet) (buffer : Bytes) (offset : Nat) :
    ∃ exchanges, o.Passes exchanges (conclude (o.writeAll buffer offset)).2 ∧
      Conveys (buffer.drop offset) exchanges (conclude (o.writeAll buffer offset)).1 := by
  fun_induction writeAll o buffer offset with
  | case1 o offset left more o' step =>
    exact ⟨_, .write step (.nil o'), .last (due_write more _) rfl⟩
  | case2 o offset left more count o' step _ ih =>
    obtain ⟨exchanges, passes, conveys⟩ := ih
    -- What was taken and what the next round offers make up what this one has offered.
    have parts : (buffer.drop offset).take (count + 1) ++ buffer.drop (offset + (count + 1)) =
        buffer.drop offset := by
      rw [← List.drop_drop, List.take_append_drop]
    exact ⟨_, .write step passes, .more (due_write more _) rfl parts conveys⟩
  | case3 o offset left more failure o' step _ transient ih =>
    obtain ⟨exchanges, passes, conveys⟩ := ih
    exact ⟨_, .write step passes, .more (due_write more _) (if_pos transient) rfl conveys⟩
  | case4 o offset left more failure o' step _ lasting =>
    exact ⟨_, .write step (.nil o'), .last (due_write more _) (if_neg lasting)⟩
  | case5 o offset whole =>
    rw [List.drop_eq_nil_of_le (Nat.not_lt.mp whole)]
    exact o.flushAll_conveys

/-- A buffer is conveyed from its start. -/
theorem transmit_conveys (o : Outlet) (buffer : Bytes) :
    ∃ exchanges, o.Passes exchanges (o.transmit buffer).2 ∧
      Conveys buffer exchanges (o.transmit buffer).1 :=
  o.conclude_conveys buffer 0

end Outlet

/-! ## The calls of a sink -/

namespace Sink

/-- What a sink may be asked. -/
inductive Call where
  | send (packet : Packet)
  | raw (bytes : Bytes)
  deriving DecidableEq, Repr

/-- The bytes a call is to write, or why there are none. -/
def Call.payload : Call → Except FrameError Bytes
  | .send packet => Frame.encode packet
  | .raw bytes => .ok bytes

/-- Asks a sink. -/
def call (s : Sink) : Call → Except FrameError Unit × Sink
  | .send packet => s.send packet
  | .raw bytes => s.writeRaw bytes

/-- Asks a sink one thing after the other. -/
def run (s : Sink) (calls : List Call) : List (Except FrameError Unit) × Sink :=
  converse call s calls

variable {s : Sink}

/-- A call with bytes to write transmits just these, whatever has been in the
buffer. The buffer is put together anew by every call, so no byte of an earlier
one is sent again. -/
theorem call_of_payload {call : Call} {payload : Bytes} (due : call.payload = .ok payload) :
    s.call call =
      ((s.toOutlet.transmit payload).1, ⟨(s.toOutlet.transmit payload).2, payload⟩) := by
  cases call with
  | raw bytes =>
    cases due
    rfl
  | send packet =>
    have encoded : Frame.encode packet = .ok payload := due
    simp only [call, send, Frame.append, encoded]
    rfl

/-- A call without leaves the outlet alone. -/
theorem call_of_refusal {call : Call} {error : FrameError} (due : call.payload = .error error) :
    s.call call = (.error error, ⟨s.toOutlet, []⟩) := by
  cases call with
  | raw bytes => cases due
  | send packet =>
    have refused : Frame.encode packet = .error error := due
    simp only [call, send, Frame.append, refused]

/-- Only a command has no frame, and it is malformed. -/
theorem Call.malformed_of_refusal {call : Call} {error : FrameError}
    (due : call.payload = .error error) : ∃ kind fault, error = .malformedCommand kind fault := by
  cases call with
  | raw bytes => cases due
  | send packet =>
    obtain ⟨fault, malformed⟩ := Frame.validate_eq_error (Frame.encode_eq_error_iff.mp due)
    exact ⟨packet.kind, fault, malformed⟩

/-- A call is refused with no exchange, or conveys its bytes. -/
structure Call.Keeps (call : Call) (result : Except FrameError Unit) (log : List Exchange) :
    Prop where
  refused : ∀ error, call.payload = .error error → result = .error error ∧ log = []
  conveyed : ∀ payload, call.payload = .ok payload → Conveys payload log result

/-- A call has a log of exchanges that its outlet has passed through, and keeps
its rules on it. -/
theorem call_keeps (s : Sink) (call : Call) :
    ∃ log, s.toOutlet.Passes log (s.call call).2.toOutlet ∧ call.Keeps (s.call call).1 log := by
  cases due : call.payload with
  | error error =>
    rw [call_of_refusal due]
    refine ⟨[], .nil _, ?_, ?_⟩
    · intro error' due'
      cases due.symm.trans due'
      exact ⟨rfl, rfl⟩
    · intro payload due'
      cases due.symm.trans due'
  | ok payload =>
    obtain ⟨log, passes, conveys⟩ := s.toOutlet.transmit_conveys payload
    rw [call_of_payload due]
    refine ⟨log, passes, ?_, ?_⟩
    · intro error due'
      cases due.symm.trans due'
    · intro payload' due'
      cases due.symm.trans due'
      exact conveys

/-- A call that succeeds has had all its bytes taken, and no others: what the
outlet has taken has grown by the payload of the call. -/
theorem taken_of_ok {call : Call} (success : (s.call call).1 = .ok ()) :
    ∃ payload, call.payload = .ok payload ∧ (s.call call).2.taken = s.taken ++ payload := by
  obtain ⟨log, passes, keeps⟩ := s.call_keeps call
  rw [success] at keeps
  cases due : call.payload with
  | error error => cases (keeps.refused error due).1
  | ok payload =>
    refine ⟨payload, rfl, ?_⟩
    rw [passes.taken, (keeps.conveyed payload due).whole.1]

/-- Every call of a run keeps its rules, on what the calls before it have left
of the outlet. A call that fails half way leaves its buffer behind, and the next
one puts its own in place. -/
theorem run_keeps (s : Sink) (calls : List Call) :
    ∃ logs : List (List Exchange),
      (∀ k, s.toOutlet.Passes (logs.take k).flatten (s.run (calls.take k)).2.toOutlet) ∧
      logs.length = calls.length ∧
      ∀ (i : Nat) (call : Call) (result : Except FrameError Unit) (log : List Exchange),
        calls[i]? = some call → (s.run calls).1[i]? = some result → logs[i]? = some log →
          call.Keeps result log := by
  induction calls generalizing s with
  | nil =>
    refine ⟨[], ?_, rfl, fun _ _ _ _ asked => nomatch asked⟩
    intro k
    rw [List.take_nil, List.take_nil]
    exact .nil _
  | cons call calls ih =>
    obtain ⟨log, passes, keeps⟩ := s.call_keeps call
    obtain ⟨logs, passes', length, rest⟩ := ih (s.call call).2
    refine ⟨log :: logs, ?_, congrArg (· + 1) length, ?_⟩
    · intro k
      cases k with
      | zero => exact .nil _
      | succ k => exact passes.append (passes' k)
    · intro i call' result log' asked answered logged
      cases i with
      | zero =>
        cases asked
        cases answered
        cases logged
        exact keeps
      | succ i => exact rest i call' result log' asked answered logged

/-- Of every call of a run, the outlet takes a prefix of that call's bytes and no others, in the
order of the calls. Each write offers all that is left of them, so none is repeated or skipped, and
a flush follows only when none is left. The first exchange that decides a result is the last: a call
succeeds with its only flush that does, after all its bytes. A command without a frame is refused
with no exchange. -/
theorem run_exchanges (s : Sink) (calls : List Call) :
    let answers := (s.run calls).1
    ∃ logs : List (List Exchange), answers.length = calls.length ∧ logs.length = calls.length ∧
      (∀ k, let reached := (s.run (calls.take k)).2
        s.toOutlet.Passes (logs.take k).flatten reached.toOutlet ∧
          reached.taken = s.taken ++ (logs.take k).flatMap movedAll) ∧
      ∀ (i : Nat) (call : Call) (result : Except FrameError Unit) (log : List Exchange),
        calls[i]? = some call → answers[i]? = some result → logs[i]? = some log →
        (∀ error, call.payload = .error error → result = .error error ∧ log = [] ∧
          ∃ kind fault, error = .malformedCommand kind fault) ∧
        ∀ payload, call.payload = .ok payload →
          movedAll log <+: payload ∧
          (∀ (before after : List Exchange) (offered : Bytes) (reply : Except IoFailure Nat),
            log = before ++ .write offered reply :: after →
              movedAll before ++ offered = payload ∧ offered ≠ []) ∧
          (∀ (before after : List Exchange) (reply : Except IoFailure Unit),
            log = before ++ .flush reply :: after → movedAll before = payload) ∧
          (∃ (earlier : List Exchange) (final : Exchange), log = earlier ++ [final] ∧
            final.verdict? = some result ∧ ∀ exchange ∈ earlier, exchange.verdict? = none) ∧
          (result = .ok () → movedAll log = payload ∧
            ∃ earlier : List Exchange, log = earlier ++ [.flush (.ok ())] ∧
              ∀ exchange ∈ earlier, exchange ≠ .flush (.ok ())) := by
  intro answers
  obtain ⟨logs, passes, length, keeps⟩ := s.run_keeps calls
  refine ⟨logs, length_converse call s calls, length, ?_, ?_⟩
  · intro k reached
    refine ⟨passes k, ?_⟩
    rw [(passes k).taken, movedAll_flatten]
  · intro i call result log asked answer logged
    have keeps := keeps i call result log asked answer logged
    constructor
    · intro error due
      obtain ⟨same, none⟩ := keeps.refused error due
      exact ⟨same, none, call.malformed_of_refusal due⟩
    · intro payload due
      have conveys := keeps.conveyed payload due
      refine ⟨conveys.isPrefix, ?_, ?_, conveys.ends, ?_⟩
      · intro before after offered reply split
        obtain ⟨left, parts, more, rfl⟩ := conveys.due before _ after split
        exact ⟨parts, more⟩
      · intro before after reply split
        obtain ⟨left, parts, none⟩ := conveys.due before _ after split
        rw [← parts, show left = [] from none, List.append_nil]
      · rintro rfl
        exact conveys.whole

end Sink

end MotionLink
