import Mathlib
import MotionLink.Proofs.Stream.Blocks
import MotionLink.Proofs.Stream.Lockstep

/-!
# Draining ends

Whoever takes frames or packets off a stream goes on after a refusal, so a
refusal that took nothing off would be met for ever. Every answer other than
"not yet" takes the shortest frame or more, but for an unknown type, which takes
all bytes and at least the three that tell it (`Splitter.Registered.next_cost`).
"Not yet" takes nothing and is the answer from then on (`Splitter.Registered.next_rests`).
Both follow from the three things a splitter can do (`Splitter.Registered.next_cases`).

The search itself goes round a loop. `Splitter.round` is one round of it, and
the second round answers at the latest (`Splitter.rounds_eq`).

A reassembler asked for a frame, one asked for a packet and a packet buffer
leave what the splitter leaves (`TakesNext`), so the rest is said once for all
of them: asked again and again (`Exhausts`), each comes to rest.
-/

namespace MotionLink

namespace Splitter

/-! ## The search for a frame -/

/-- One round of the search: it learns the layout, or it answers. -/
def round (s : Splitter) : Option (Except FrameError (Option Bytes)) × Splitter :=
  match s.stage with
  | .awaitingHeader =>
    if s.buffer.length < Frame.probeLength then (some (.ok none), s)
    else
      match Layout.lookup s.direction (Frame.typeId s.buffer) with
      | .ok layout => (none, { s with stage := .awaitingBody layout })
      | .error error => (some (.error error), { s with buffer := [] })
  | .awaitingBody layout =>
    if s.buffer.length < layout.frameLength then (some (.ok none), s)
    else
      (some (.ok (some (s.buffer.take layout.frameLength))),
        ⟨s.direction, .awaitingHeader, s.buffer.drop layout.frameLength⟩)

/-- Goes round until there is an answer, at most a number of times. -/
def rounds (n : Nat) (s : Splitter) : Option (Except FrameError (Option Bytes)) × Splitter :=
  untilAnswer round n s

/-- A splitter that knows the layout answers in the first round. -/
theorem round_of_body {s : Splitter} {layout : Layout} (stage : s.stage = .awaitingBody layout) :
    s.round = (some (.ok (s.takeBody layout).1), (s.takeBody layout).2) := by
  have same : ({ s with stage := .awaitingBody layout } : Splitter) = s := by rw [← stage]
  simp only [round, stage, takeBody]
  by_cases short : s.buffer.length < layout.frameLength
  · simp only [short, if_true, same]
  · simp only [short, if_false]

/-- The search answers in the second round at the latest, in whatever state it
starts. The first round may learn the layout, and the second one has it. -/
theorem rounds_eq (s : Splitter) (n : Nat) : s.rounds (n + 2) = (some s.next.1, s.next.2) := by
  unfold rounds
  cases stage : s.stage with
  | awaitingBody layout =>
    rw [untilAnswer_of_some (round_of_body stage)]
    simp only [next, stage]
  | awaitingHeader =>
    by_cases short : s.buffer.length < Frame.probeLength
    · have answers : s.round = (some (.ok none), s) := by
        simp only [round, stage, short, if_true]
      rw [untilAnswer_of_some answers]
      simp only [next, stage, short, if_true]
    · cases known : Layout.lookup s.direction (Frame.typeId s.buffer) with
      | error error =>
        have answers : s.round = (some (.error error), { s with buffer := [] }) := by
          simp only [round, stage, short, if_false, known]
        rw [untilAnswer_of_some answers]
        simp only [next, stage, short, if_false, known]
      | ok layout =>
        have learns : s.round = (none, { s with stage := .awaitingBody layout }) := by
          simp only [round, stage, short, if_false, known]
        rw [untilAnswer_of_none learns, untilAnswer_of_some (round_of_body rfl)]
        simp only [next, stage, short, if_false, known]
        rfl

/-! ## What an answer takes off -/

/-- A stage that names a layout names a registered one. -/
def Registered (s : Splitter) : Prop :=
  ∀ layout, s.stage = .awaitingBody layout → layout ∈ Layout.registry

theorem registered_of_header {s : Splitter} (header : s.stage = .awaitingHeader) : s.Registered :=
  fun _ body => absurd (header.symm.trans body) nofun

/-- What the bytes at hand have settled is registered. The converse does not
hold: a stage may name a layout that the bytes do not begin. -/
theorem Coherent.registered {s : Splitter} (coherent : s.Coherent) : s.Registered :=
  fun layout body => (Layout.lookup_eq_ok (coherent layout body).2).1

/-- The splitter has no whole frame, by its stage. -/
def Rests (s : Splitter) : Prop :=
  (s.stage = .awaitingHeader ∧ s.buffer.length < 3) ∨
    ∃ layout, s.stage = .awaitingBody layout ∧ s.buffer.length < layout.frameLength

variable {s : Splitter}

theorem takeBody_of_lt {layout : Layout} (short : s.buffer.length < layout.frameLength) :
    s.takeBody layout = (none, { s with stage := .awaitingBody layout }) := if_pos short

/-- A body that has all arrived is taken off, and the search begins anew behind
it. -/
theorem takeBody_of_le {layout : Layout} (long : layout.frameLength ≤ s.buffer.length) :
    s.takeBody layout = (some (s.buffer.take layout.frameLength),
      ⟨s.direction, .awaitingHeader, s.buffer.drop layout.frameLength⟩) :=
  if_neg (Nat.not_lt.mpr long)

/-- The three things a splitter can do: it rests, short of a type id; it takes a
body off, if all of it is there; or it drops all bytes with an unknown type.
Nothing is assumed of the bytes, nor that the stage agrees with them. -/
theorem Registered.next_cases (registered : s.Registered) :
    (s.stage = .awaitingHeader ∧ s.buffer.length < 3 ∧ s.next = (.ok none, s)) ∨
    (∃ layout ∈ Layout.registry,
      s.next = (.ok (s.takeBody layout).1, (s.takeBody layout).2)) ∨
    ∃ error, 3 ≤ s.buffer.length ∧ s.next = (.error error, start s.direction) := by
  cases stage : s.stage with
  | awaitingBody layout =>
    refine .inr (.inl ⟨layout, registered layout stage, ?_⟩)
    simp only [next, stage]
  | awaitingHeader =>
    by_cases short : s.buffer.length < 3
    · refine .inl ⟨rfl, short, ?_⟩
      simp only [next, stage, Frame.probeLength, short, if_true]
    have long : ¬ s.buffer.length < Frame.probeLength := short
    cases known : Layout.lookup s.direction (Frame.typeId s.buffer) with
    | error error =>
      refine .inr (.inr ⟨error, Nat.not_lt.mp short, ?_⟩)
      simp only [next, stage, long, if_false, known, start]
    | ok layout =>
      refine .inr (.inl ⟨layout, (Layout.lookup_eq_ok known).1, ?_⟩)
      simp only [next, stage, long, if_false, known]

/-- A splitter that rests has no answer and stays as it is. -/
theorem Rests.next (rests : s.Rests) : s.next = (.ok none, s) := by
  rcases rests with ⟨header, short⟩ | ⟨layout, body, short⟩
  · simp only [Splitter.next, header, Frame.probeLength, short, if_true]
  · simp only [Splitter.next, body, takeBody_of_lt short]
    rw [← body]

/-- Without an answer, no byte is taken off, and the splitter comes to rest. It
may have learned the layout on the way, which is why it is the splitter left
behind that rests. -/
theorem Registered.next_rests (registered : s.Registered) (waits : s.next.1 = .ok none) :
    s.next.2.buffer = s.buffer ∧ s.next.2.Rests := by
  rcases registered.next_cases with ⟨header, short, step⟩ | ⟨layout, -, step⟩ |
    ⟨error, -, step⟩
  · rw [step]
    exact ⟨rfl, .inl ⟨header, short⟩⟩
  · by_cases short : s.buffer.length < layout.frameLength
    · rw [step, takeBody_of_lt short]
      exact ⟨rfl, .inr ⟨layout, rfl, short⟩⟩
    · rw [step, takeBody_of_le (Nat.not_lt.mp short)] at waits
      cases waits
  · rw [step] at waits
    cases waits

/-- An answer takes off no fewer bytes than the shortest frame has, or all bytes with the three that
tell an unknown type. -/
theorem Registered.next_cost (registered : s.Registered) (answered : s.next.1 ≠ .ok none) :
    s.next.2.buffer.length + 6 ≤ s.buffer.length ∨
      (s.next.2.buffer = [] ∧ 3 ≤ s.buffer.length) := by
  rcases registered.next_cases with ⟨-, -, step⟩ | ⟨layout, known, step⟩ | ⟨error, probed, step⟩
  · rw [step] at answered
    exact absurd rfl answered
  · by_cases short : s.buffer.length < layout.frameLength
    · rw [step, takeBody_of_lt short] at answered
      exact absurd rfl answered
    · have sized := (Layout.frameLength_bounds known).1
      rw [step, takeBody_of_le (Nat.not_lt.mp short)]
      refine .inl ?_
      dsimp only
      rw [List.length_drop]
      omega
  · rw [step]
    exact .inr ⟨rfl, probed⟩

/-- An answer leaves a stage that names a registered layout, or none. -/
theorem Registered.next (registered : s.Registered) : s.next.2.Registered := by
  rcases registered.next_cases with ⟨-, -, step⟩ | ⟨layout, known, step⟩ | ⟨error, -, step⟩
  · rw [step]
    exact registered
  · by_cases short : s.buffer.length < layout.frameLength
    · rw [step, takeBody_of_lt short]
      rintro _ ⟨⟩
      exact known
    · rw [step, takeBody_of_le (Nat.not_lt.mp short)]
      exact registered_of_header rfl
  · rw [step]
    exact registered_of_header rfl

end Splitter

/-! ## Asking again and again -/

section

variable {σ α : Type} {ask : σ → Except FrameError (Option α) × σ} {splitter : σ → Splitter}

/-- The answers to a question that is asked a number of times. -/
def answersTo (ask : σ → Except FrameError (Option α) × σ) (n : Nat) (s : σ) :
    List (Except FrameError (Option α)) × σ :=
  converse (fun s () => ask s) s (List.replicate n ())

theorem answersTo_succ (n : Nat) (s : σ) :
    answersTo ask (n + 1) s =
      ((ask s).1 :: (answersTo ask n (ask s).2).1, (answersTo ask n (ask s).2).2) := rfl

/-- Where the answer is "not yet" and changes nothing, it stays so, however
often the question is asked. -/
theorem answersTo_still {s : σ} (still : ask s = (.ok none, s)) (n : Nat) :
    answersTo ask n s = (List.replicate n (.ok none), s) := by
  induction n with
  | zero => rfl
  | succ n ih => rw [answersTo_succ, still, ih, List.replicate_succ]

/-- A question is asked until the answer is "not yet": the answers before, and what is left. -/
inductive Exhausts (ask : σ → Except FrameError (Option α) × σ) :
    σ → List (Except FrameError (Option α)) → σ → Prop where
  | rest {s : σ} (waits : (ask s).1 = .ok none) : Exhausts ask s [] (ask s).2
  | more {s last : σ} {found : List (Except FrameError (Option α))}
      (answered : (ask s).1 ≠ .ok none) (rest : Exhausts ask (ask s).2 found last) :
      Exhausts ask s ((ask s).1 :: found) last

/-- A question that takes the next frame off a stream leaves what its splitter leaves and changes
nothing else, and the answer is "not yet" where the splitter has none. -/
structure TakesNext (ask : σ → Except FrameError (Option α) × σ) (splitter : σ → Splitter) :
    Prop where
  leaves : ∀ s, splitter (ask s).2 = (splitter s).next.2
  waits_iff : ∀ s, (ask s).1 = .ok none ↔ (splitter s).next.1 = .ok none
  only : ∀ s, splitter (ask s).2 = splitter s → (ask s).2 = s

namespace TakesNext

variable {s : σ}

/-- After "not yet" the answer is "not yet", and nothing changes any more. -/
theorem again (takes : TakesNext ask splitter) (registered : (splitter s).Registered)
    (waits : (ask s).1 = .ok none) : ask (ask s).2 = (.ok none, (ask s).2) := by
  have rests := (registered.next_rests ((takes.waits_iff s).mp waits)).2
  rw [← takes.leaves s] at rests
  have still := rests.next
  refine Prod.ext ((takes.waits_iff _).mpr (congrArg Prod.fst still)) (takes.only _ ?_)
  rw [takes.leaves, still]

/-- The answer to a question leaves a registered splitter, since the splitter's
answer does. -/
theorem registered (takes : TakesNext ask splitter) (registered : (splitter s).Registered) :
    (splitter (ask s).2).Registered := by
  rw [takes.leaves]
  exact registered.next

/-- An answer leaves fewer bytes: the cost of an answer is at least three of
them. -/
theorem shrinks (takes : TakesNext ask splitter) (registered : (splitter s).Registered)
    (answered : (ask s).1 ≠ .ok none) :
    (splitter (ask s).2).buffer.length < (splitter s).buffer.length := by
  have cost := registered.next_cost (mt (takes.waits_iff s).mpr answered)
  rw [takes.leaves]
  rcases cost with least | ⟨empty, probed⟩
  · omega
  · rw [empty, List.length_nil]
    omega

/-- Asked again and again, a question comes to an end. The induction is on the
bytes at hand, of which every answer leaves fewer. -/
theorem exhausts (takes : TakesNext ask splitter) (registered : (splitter s).Registered) :
    ∃ found last, Exhausts ask s found last := by
  induction size : (splitter s).buffer.length using Nat.strong_induction_on generalizing s with
  | h size ih =>
    by_cases waits : (ask s).1 = .ok none
    · exact ⟨[], _, .rest waits⟩
    · have fewer := takes.shrinks registered waits
      obtain ⟨found, last, rest⟩ := ih _ (by omega) (takes.registered registered) rfl
      exact ⟨_, last, .more waits rest⟩

end TakesNext

namespace Exhausts

variable {s last : σ} {found : List (Except FrameError (Option α))}

/-- Each answer has its six bytes, but for the last, which may have no more than
three. An unknown type takes all bytes, so there is nothing behind it to be
answered. -/
theorem length_le (exhausts : Exhausts ask s found last) (takes : TakesNext ask splitter)
    (registered : (splitter s).Registered) :
    found.length ≤ ((splitter s).buffer.length + 3) / 6 := by
  induction exhausts with
  | rest waits => exact Nat.zero_le _
  | @more s last found answered rest ih =>
    have fewer := ih (takes.registered registered)
    have cost := registered.next_cost (mt (takes.waits_iff s).mpr answered)
    rw [takes.leaves] at fewer
    rw [List.length_cons]
    rcases cost with least | ⟨empty, probed⟩
    · omega
    -- An unknown type leaves nothing, so no answer comes behind it.
    · rw [empty, List.length_nil] at fewer
      omega

/-- Asked more often, the answer stays "not yet". The answers before it are
those of the first time, and what is left does not change any more. -/
theorem answers_eq (exhausts : Exhausts ask s found last) (takes : TakesNext ask splitter)
    (registered : (splitter s).Registered) (n : Nat) :
    answersTo ask (found.length + (n + 1)) s =
      (found ++ List.replicate (n + 1) (.ok none), last) := by
  induction exhausts with
  | @rest s waits =>
    rw [List.length_nil, Nat.zero_add, answersTo_succ,
      answersTo_still (takes.again registered waits), waits, List.nil_append, List.replicate_succ]
  | @more s last found answered rest ih =>
    rw [List.length_cons, Nat.succ_add, answersTo_succ, ih (takes.registered registered)]
    rfl

end Exhausts

end

/-! ## The three questions -/

/-- What is made of a frame that was found, if one was. -/
def packetOf (read : Bytes → Except FrameError Packet) :
    Except FrameError (Option Bytes) → Except FrameError (Option Packet)
  | .ok (some frame) => some <$> read frame
  | .ok none => .ok none
  | .error error => .error error

/-- The packet of a frame is never "not yet", nor is the refusal of it. -/
theorem packetOf_eq_none (read : Bytes → Except FrameError Packet)
    (found : Except FrameError (Option Bytes)) :
    packetOf read found = .ok none ↔ found = .ok none := by
  cases found with
  | error error => exact iff_of_false nofun nofun
  | ok frame? =>
    cases frame? with
    | none => exact iff_of_true rfl rfl
    | some frame => exact iff_of_false (Reassembler.some_map_ne_none _) nofun

namespace Reassembler

/-- A reassembler that is asked for a frame leaves what its splitter leaves. -/
theorem takesNext_nextFrame : TakesNext nextFrame splitter where
  leaves _ := rfl
  waits_iff _ := Iff.rfl
  only r same := by
    show (⟨r.limit, r.nextFrame.2.splitter⟩ : Reassembler) = r
    rw [same]

/-- So does one that is asked for a packet, whatever the frame decodes to. -/
theorem takesNext_nextPacket : TakesNext nextPacket splitter where
  leaves r := by rw [nextPacket_eq]; rfl
  waits_iff r := by
    rw [nextPacket_eq]
    exact packetOf_eq_none (Frame.decode r.nextFrame.2.direction) r.nextFrame.1
  only r same := by
    rw [nextPacket_eq] at same ⊢
    exact takesNext_nextFrame.only r same

/-- A drain asks for packets until there is none, so its answers are those
before "not yet". -/
theorem exhausts_drain (r : Reassembler) :
    Exhausts nextPacket r (r.drain.1.map (some <$> ·)) r.drain.2 := by
  induction size : r.buffered using Nat.strong_induction_on generalizing r with
  | h size ih =>
    cases answer : r.nextPacket with
    | mk found r' =>
      have first : r.nextPacket.1 = found := congrArg Prod.fst answer
      have left : r.nextPacket.2 = r' := congrArg Prod.snd answer
      by_cases waits : found = .ok none
      · subst waits
        rw [drain_of_none answer, ← left]
        exact .rest first
      · have fewer := buffered_nextPacket_lt answer waits
        obtain ⟨result, rfl⟩ : ∃ result, found = some <$> result := by
          cases found with
          | error error => exact ⟨.error error, rfl⟩
          | ok packet? =>
            cases packet? with
            | none => exact absurd rfl waits
            | some packet => exact ⟨.ok packet, rfl⟩
        have rest := ih r'.buffered (size ▸ fewer) r' rfl
        rw [drain_of_some answer, List.map_cons, ← first]
        rw [← first] at waits
        exact .more waits (left ▸ rest)

end Reassembler

namespace PacketBuffer

theorem decode_eq (b : PacketBuffer) :
    b.decode = (packetOf (Frame.decode b.splitter.direction) b.splitter.next.1,
      ⟨b.splitter.next.2⟩) := by
  unfold decode
  cases b.splitter.next with
  | mk found rest =>
    cases found with
    | error error => rfl
    | ok frame? =>
      cases frame? with
      | none => rfl
      | some frame => rfl

/-- A packet buffer that is asked for a packet leaves what its splitter leaves. -/
theorem takesNext_decode : TakesNext decode splitter where
  leaves b := by rw [decode_eq]
  waits_iff b := by
    rw [decode_eq]
    exact packetOf_eq_none _ _
  only b same := by
    rw [decode_eq] at same ⊢
    exact congrArg PacketBuffer.mk same

/-- The buffers that an empty one becomes by its calls, while its owner may put any bytes in the
place of those at hand. -/
inductive Becomes (direction : Direction) : PacketBuffer → Prop where
  | empty : Becomes direction (.empty direction)
  | call {b : PacketBuffer} (call : Call) : Becomes direction b → Becomes direction (b.call call).2
  | hold {b : PacketBuffer} (bytes : Bytes) :
      Becomes direction b → Becomes direction ⟨{ b.splitter with buffer := bytes }⟩

/-- The end of a stream leaves a buffer as decoding does, or without bytes. -/
theorem decodeEnd_cases (b : PacketBuffer) :
    b.decodeEnd.2 = b.decode.2 ∨ b.decodeEnd.2 = ⟨b.decode.2.splitter.reset⟩ := by
  unfold decodeEnd
  split
  · rename_i held step
    rw [step]
    split
    · exact .inl rfl
    · exact .inr rfl
  · exact .inl rfl

/-- Whatever a buffer has been through, its stage names a registered layout or
none. The bytes that its owner put in it may disagree with that stage. -/
theorem Becomes.registered {direction : Direction} {b : PacketBuffer}
    (reached : Becomes direction b) : b.splitter.Registered := by
  induction reached with
  | empty => exact Splitter.registered_of_header rfl
  | hold bytes _ kept => exact kept
  | @call b call _ kept =>
    cases call with
    | extend bytes => exact kept
    | decode => exact takesNext_decode.registered kept
    | decodeEnd =>
      have taken := takesNext_decode.registered kept
      show b.decodeEnd.2.splitter.Registered
      rcases b.decodeEnd_cases with same | reset
      · rw [same]
        exact taken
      · rw [reset]
        exact Splitter.registered_of_header rfl
    | encode packet =>
      show (b.encode packet).2.splitter.Registered
      unfold PacketBuffer.encode
      exact kept

end PacketBuffer

/-! ## Draining -/

/-- What is said of whoever asks a question of a stream. An answer other than "not yet" leaves fewer
bytes. "Not yet" leaves them all, short of a type id or of a body, and is the answer from then on.
So there are at most so many answers before it. -/
structure Drains {σ α : Type} (ask : σ → Except FrameError (Option α) × σ)
    (splitter : σ → Splitter) (s : σ) : Prop where
  shrinks : (ask s).1 ≠ .ok none →
    (splitter (ask s).2).buffer.length < (splitter s).buffer.length
  rests : (ask s).1 = .ok none → (splitter (ask s).2).buffer = (splitter s).buffer ∧
    (splitter (ask s).2).Rests ∧ ask (ask s).2 = (.ok none, (ask s).2)
  ends : ∃ found last, Exhausts ask s found last ∧
    found.length ≤ (splitter s).buffer.length / 6 + 1 ∧
    ∀ n, answersTo ask (found.length + (n + 1)) s =
      (found ++ List.replicate (n + 1) (.ok none), last)

/-- Everything that is said of draining follows for a question that takes the
next frame. -/
theorem TakesNext.drains {σ α : Type} {ask : σ → Except FrameError (Option α) × σ}
    {splitter : σ → Splitter} {s : σ} (takes : TakesNext ask splitter)
    (registered : (splitter s).Registered) : Drains ask splitter s where
  shrinks := takes.shrinks registered
  rests waits := by
    have still := registered.next_rests ((takes.waits_iff s).mp waits)
    rw [← takes.leaves s] at still
    exact ⟨still.1, still.2, takes.again registered waits⟩
  ends := by
    obtain ⟨found, last, exhausts⟩ := takes.exhausts registered
    have bound := exhausts.length_le takes registered
    exact ⟨found, last, exhausts, by omega, exhausts.answers_eq takes registered⟩

namespace Reassembler

/-- Draining ends, whatever bytes are at hand and whatever was asked before: of a reassembler that
is asked for frames or for packets and of a packet buffer whose owner may put any bytes in it. The
search for a frame goes round twice at most. A drain of packets is the answers before "not yet". -/
theorem draining_ends {direction : Direction} {b : PacketBuffer}
    (reached : PacketBuffer.Becomes direction b) (settings : StreamSettings) (calls : List Call) :
    let r := ((new direction settings).run calls).2
    (∀ n, r.splitter.rounds (n + 2) = (some r.splitter.next.1, r.splitter.next.2)) ∧
    (∀ n, b.splitter.rounds (n + 2) = (some b.splitter.next.1, b.splitter.next.2)) ∧
    Drains nextFrame splitter r ∧ Drains nextPacket splitter r ∧
    Drains PacketBuffer.decode PacketBuffer.splitter b ∧
    Exhausts nextPacket r (r.drain.1.map (some <$> ·)) r.drain.2 ∧
    r.drain.1.length ≤ r.buffered / 6 + 1 := by
  intro r
  have start : (new direction settings).Bounded :=
    ⟨Splitter.coherent_start direction, Nat.zero_le _⟩
  have registered : r.splitter.Registered := (start.run calls).1.coherent.registered
  have drained := r.exhausts_drain
  refine ⟨r.splitter.rounds_eq, b.splitter.rounds_eq, takesNext_nextFrame.drains registered,
    takesNext_nextPacket.drains registered, PacketBuffer.takesNext_decode.drains reached.registered,
    drained, ?_⟩
  have bound := drained.length_le takesNext_nextPacket registered
  rw [List.length_map] at bound
  exact bound.trans (show (r.buffered + 3) / 6 ≤ r.buffered / 6 + 1 by omega)

/-- A damaged frame of the shortest length and the three bytes of an unknown type behind it, pushed
into a reassembler and put into a buffer that had looked for the body of a stop: nine bytes give
two answers and then "not yet". -/
theorem draining_ends_hostile :
    let bytes : Bytes := [85, 170, 9, 2, 0, 0, 85, 170, 77]
    let r := ((new .masterToBoard {}).run [.push bytes]).2
    let b : PacketBuffer :=
      ⟨{ (((PacketBuffer.empty .masterToBoard).call (.extend [85, 170, 2])).2.call
          .decode).2.splitter with buffer := bytes }⟩
    PacketBuffer.Becomes .masterToBoard b ∧
      r.drain.1.length = 2 ∧ r.drain.1.length ≤ r.buffered / 6 + 1 ∧
      Drains nextPacket splitter r ∧ Drains PacketBuffer.decode PacketBuffer.splitter b := by
  intro bytes r b
  have reached : PacketBuffer.Becomes .masterToBoard b :=
    .hold _ (.call .decode (.call (.extend [85, 170, 2]) .empty))
  obtain ⟨-, -, -, packets, buffer, -, bound⟩ := draining_ends reached {} [.push bytes]
  exact ⟨reached, by decide +kernel, bound, packets, buffer⟩

end Reassembler

end MotionLink
