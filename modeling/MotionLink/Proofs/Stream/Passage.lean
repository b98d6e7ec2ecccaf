import Mathlib
import MotionLink.Proofs.Stream.Delivery
import MotionLink.Proofs.Stream.Exchanges

/-!
# From a sink to a reader

Packets that a sink has sent come out of a reader as they went in. The two ends
meet in the bytes between them. Each call of the sink that succeeded has put one
frame there (`Sink.run_sends`), which is a block of its direction
(`Frame.isBlock_of_encode`), so what the outlet has taken is a stream of blocks
and no tail. Before such a stream the reader delivers the blocks
(`FrameReader.Awaits.run`), and each decodes to its packet. Where writes and
reads cut the bytes plays no part on either side.
-/

namespace MotionLink

/-! ## Frames as blocks -/

/-- The frame of a packet is a block of its direction: its type is registered
and it has the length of its type. -/
theorem Frame.isBlock_of_encode {packet : Packet} {frame : Bytes}
    (sent : Frame.encode packet = .ok frame) : IsBlock packet.direction frame := by
  obtain ⟨-, length, id, -⟩ := valid_of_encode sent
  have known := lookup_layout packet
  have sized := (Layout.frameLength_bounds (Layout.lookup_eq_ok known).1).1
  refine ⟨?_, packet.layout, ?_, length⟩
  · omega
  · rw [id]
    exact known

/-- Each packet with its frame. -/
abbrev Frame.Encodes (packets : List Packet) (frames : List Bytes) : Prop :=
  List.Forall₂ (fun packet frame => Frame.encode packet = .ok frame) packets frames

/-- The frames of packets of one direction are its blocks, and decode to these
packets. A stream of them is one that readers are known to cut rightly. -/
theorem Frame.Encodes.blocks {direction : Direction} {packets : List Packet} {frames : List Bytes}
    (sent : Frame.Encodes packets frames)
    (travels : ∀ packet ∈ packets, packet.direction = direction) :
    (∀ frame ∈ frames, IsBlock direction frame) ∧
      frames.map (Frame.decode direction) = packets.map .ok := by
  induction sent with
  | nil => exact ⟨nofun, rfl⟩
  | @cons packet frame packets frames first _ ih =>
    obtain rfl := travels packet List.mem_cons_self
    obtain ⟨whole, decoded⟩ := ih fun later mem => travels later (List.mem_cons_of_mem _ mem)
    constructor
    · intro block mem
      rcases List.mem_cons.mp mem with rfl | mem
      · exact isBlock_of_encode first
      · exact whole block mem
    · rw [List.map_cons, List.map_cons, decode_of_encode first, decoded]

/-! ## What a sink has sent -/

/-- Where every packet has been sent, the outlet has taken their frames, in
order and with nothing between them. -/
theorem Sink.run_sends {s : Sink} {packets : List Packet}
    (success : ∀ answer ∈ (s.run (packets.map .send)).1, answer = .ok ()) :
    ∃ frames, Frame.Encodes packets frames ∧
      (s.run (packets.map .send)).2.taken = s.taken ++ frames.flatten := by
  unfold run at success ⊢
  induction packets generalizing s with
  | nil => exact ⟨[], .nil, (List.append_nil _).symm⟩
  | cons packet packets ih =>
    rw [List.map_cons, converse_cons] at success ⊢
    obtain ⟨frame, sent, taken⟩ := taken_of_ok (success _ List.mem_cons_self)
    obtain ⟨frames, rest, taken'⟩ :=
      ih fun answer mem => success answer (List.mem_cons_of_mem _ mem)
    refine ⟨frame :: frames, .cons sent rest, ?_⟩
    rw [taken', taken, List.append_assoc, List.flatten_cons]

/-! ## What a reader delivers -/

namespace FrameReader

/-- What is settled was asked for. -/
theorem calls_settled (call : Call) (count : Nat) (answers : List Answer) :
    (settled (List.replicate count call) answers).map Prod.fst =
      List.replicate (settled (List.replicate count call) answers).length call := by
  rw [List.eq_replicate_iff]
  refine ⟨List.length_map _, ?_⟩
  intro asked mem
  obtain ⟨⟨asked, answer⟩, pair, rfl⟩ := List.mem_map.mp mem
  exact List.eq_of_mem_replicate (List.of_mem_zip (List.mem_filter.mp pair).1).1

/-- Of a stream without a tail, packets are delivered one for each block, and then the end. -/
theorem deliveries_packets (direction : Direction) (blocks : List Bytes) {count more : Nat}
    (enough : count ≤ more) :
    deliveries direction blocks [] (List.replicate count .packet) =
      (blocks.map (Answer.packet ∘ Frame.decode direction) ++
        List.replicate more (Answer.packet (.error .connectionClosed))).take count := by
  induction count generalizing blocks more with
  | zero => cases blocks <;> rfl
  | succ count ih =>
    rw [List.replicate_succ]
    cases blocks with
    | cons block blocks =>
      rw [deliveries, ih blocks (Nat.le_of_succ_le enough)]
      rfl
    | nil =>
      obtain ⟨more, rfl⟩ := Nat.exists_eq_add_one_of_ne_zero (Nat.ne_zero_of_lt enough)
      rw [deliveries, ih [] (Nat.le_of_succ_le_succ enough)]
      rfl

/-- Packets that a sink has sent are read as they were sent, in order, and then that the stream is
closed, whatever the writes took and whatever the reads give, so long as the reads give in all what
the writes took. Every other call reports a failure of the source, each at most once, so enough
calls read all the packets. -/
theorem run_sent {direction : Direction} {settings : StreamSettings} {packets : List Packet}
    {s : Sink} {events : List ReadEvent}
    (travels : ∀ packet ∈ packets, packet.direction = direction)
    (success : ∀ answer ∈ (s.run (packets.map .send)).1, answer = .ok ())
    (conveyed : (s.run (packets.map .send)).2.taken = s.taken ++ events.flatMap ReadEvent.bytes)
    (ends : EndsLast events) (count : Nat) :
    let calls := List.replicate count Call.packet
    let answers := ((new direction settings events).run calls).1
    let answered := (settled calls answers).map Prod.snd
    let failures := answers.filterMap Answer.failure?
    let reported := events.filterMap ReadEvent.reported?
    answered = (packets.map (Answer.packet ∘ Except.ok) ++
        List.replicate count (Answer.packet (.error .connectionClosed))).take answered.length ∧
      failures <+: reported ∧ answered.length + failures.length = count ∧
      (packets.length + reported.length ≤ count → packets.length ≤ answered.length) := by
  intro calls answers answered failures reported
  obtain ⟨frames, sent, taken⟩ := Sink.run_sends success
  obtain ⟨whole, decoded⟩ := sent.blocks travels
  have stream : events.flatMap ReadEvent.bytes = frames.flatten ++ [] := by
    rw [List.append_nil]
    exact List.append_cancel_left (conveyed.symm.trans taken)
  -- Whole frames leave no tail, so the end of the stream is one between two frames.
  have cut : IsTail direction [] := .inl (show 0 < 3 by decide)
  obtain ⟨delivered, inOrder, -⟩ := (awaits_new settings whole cut stream ends).run calls
  have reports : failures <+: reported := ⟨_, inOrder.symm⟩
  have each : answered.length + failures.length = count := by
    have counted := length_settled (length_converse call (new direction settings events) calls)
    rw [List.length_replicate] at counted
    rw [List.length_map]
    exact counted
  refine ⟨?_, reports, each, ?_⟩
  · have few : answered.length ≤ count := by omega
    have same : frames.map (Answer.packet ∘ Frame.decode direction) =
        packets.map (Answer.packet ∘ Except.ok) := by
      rw [← List.map_map, decoded, List.map_map]
    rw [calls_settled, ← List.length_map Prod.snd, deliveries_packets direction frames few,
      same] at delivered
    exact delivered
  · intro enough
    have most := reports.length_le
    omega

/-- A stop and a zero offset through an outlet that takes little at a time, is interrupted and is
not ready, and a source that cuts them inside the first type id, inside the first body and inside
the second header. A read that is not ready and one that times out behind the end are reported. -/
theorem run_sent_piecemeal :
    let packets : List Packet :=
      [.command ⟨⟨2⟩, .emergencyStop 1⟩, .command ⟨⟨2⟩, .setZeroOffset⟩]
    let sink : Sink :=
      { writeEvents := [.accept 3, .failure ⟨.interrupted, none⟩, .accept 1,
          .failure ⟨.wouldBlock, none⟩]
        flushEvents := [.failure ⟨.wouldBlock, none⟩, .done, .failure ⟨.interrupted, none⟩] }
    let sent := sink.run (packets.map .send)
    let events : List ReadEvent :=
      [.data [85], .failure ⟨.interrupted, none⟩, .data [170, 2, 2, 1, 151],
        .failure ⟨.wouldBlock, none⟩, .data [189, 85, 170, 9], .data [2, 57, 173], .data [],
        .failure ⟨.timedOut, none⟩]
    let calls := List.replicate 5 Call.packet
    let answers := ((new .masterToBoard ⟨1024, 0⟩ events).run calls).1
    (∀ packet ∈ packets, packet.direction = .masterToBoard) ∧
      (∀ answer ∈ sent.1, answer = .ok ()) ∧
      sent.2.taken = sink.taken ++ events.flatMap ReadEvent.bytes ∧ EndsLast events ∧
      (settled calls answers).map Prod.snd =
        [.packet (.ok (.command ⟨⟨2⟩, .emergencyStop 1⟩)),
          .packet (.ok (.command ⟨⟨2⟩, .setZeroOffset⟩)), .packet (.error .connectionClosed)] ∧
      answers.filterMap Answer.failure? = [⟨.wouldBlock, none⟩, ⟨.timedOut, none⟩] := by
  intro packets sink sent events calls answers
  have travels : ∀ packet ∈ packets, packet.direction = .masterToBoard := by decide
  have success : ∀ answer ∈ sent.1, answer = .ok () := by decide +kernel
  have conveyed : sent.2.taken = sink.taken ++ events.flatMap ReadEvent.bytes := by decide +kernel
  have ends : EndsLast events := by decide
  have length : ((settled calls answers).map Prod.snd).length = 3 := by decide +kernel
  have read := (@run_sent _ ⟨1024, 0⟩ _ _ _ travels success conveyed ends 5).1
  refine ⟨travels, success, conveyed, ends, ?_, by decide +kernel⟩
  exact read.trans (congrArg (List.take · _) length)

end FrameReader

end MotionLink
