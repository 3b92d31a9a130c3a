import TinyCP.SendSide

/-!
# Closing with data in the send buffer

`close_connection` flushes with one call of `process_block_` and puts the FIN at
the `SND.NXT` it leaves. One call sends at most 1460 bytes and at most what the
window permits, so the FIN takes the number after the last byte exactly when the
unsent rest fits in that one segment.
-/
namespace TinyCP
open SequenceSpace EventRun

/-- One of the segments carries this byte at this sequence number. -/
def SentAt (packets : List Segment) (number : UInt32) (byte : Option UInt8) : Prop :=
  ∃ packet ∈ packets, ∃ j, j < packet.payload.length ∧
    packet.seqNum + UInt32.ofNat j = number ∧ packet.payload[j]? = byte

/-- The send buffer holds the bytes from `SND.UNA` on, and those in flight were sent. -/
structure ReadyToClose (e : Endpoint) : Prop where
  state : e.tcb.currentState = .established ∨ e.tcb.currentState = .closeWait
  inFlight_le : e.tcb.inFlight.toNat ≤ e.tcb.sendBuffer.size
  sent : ∀ i, i < e.tcb.inFlight.toNat →
    SentAt e.emitted (seqAt e.tcb.snd.una i) e.tcb.sendBuffer.contents[i]?

/-- The FIN follows the last byte, all bytes were sent before it, and nothing that is
sent in the rounds afterwards reaches its sequence number. -/
def ClosesCleanly (e : Endpoint) (now : Int) (later : List Int) : Prop :=
  let closed := e.step (.close now)
  let final := run Endpoint.step closed (later.map Action.processDirty)
  ∃ before fin after, closed.emitted = before ++ [fin] ∧ final.emitted = closed.emitted ++ after ∧
    fin.fin = true ∧ fin.seqNum = seqAt e.tcb.snd.una e.tcb.sendBuffer.size ∧
    (∀ i, i < e.tcb.sendBuffer.size →
      SentAt before (seqAt e.tcb.snd.una i) e.tcb.sendBuffer.contents[i]?) ∧
    ∀ packet ∈ after, ∀ j, j < packet.payload.length →
      (packet.seqNum + UInt32.ofNat j - e.tcb.snd.una).toNat < e.tcb.sendBuffer.size

theorem SentAt.append {packets : List Segment} {number : UInt32} {byte : Option UInt8}
    (sent : SentAt packets number byte) (more : List Segment) :
    SentAt (packets ++ more) number byte := by
  obtain ⟨packet, hmem, rest⟩ := sent
  exact ⟨packet, List.mem_append_left more hmem, rest⟩

namespace TransmissionControlBlock

theorem nxt_eq_inFlight (tcb : TransmissionControlBlock) :
    tcb.snd.nxt = seqAt tcb.snd.una tcb.inFlight.toNat :=
  eq_seqAt tcb.snd.una tcb.snd.nxt

/-- The segments of the flush: none, or one with the next data. -/
def flushOut (tcb : TransmissionControlBlock) : List Segment :=
  if tcb.nextData = [] then [] else [tcb.createWriterTcpPacket tcb.nextData tcb.snd.nxt]

/-- The FIN and the block that closing leaves, for either closing branch. -/
theorem closeWithFin_eq {tcb : TransmissionControlBlock}
    (sends : TransmitsData tcb.currentState = true) (now : Int) (state : TcpState) :
    (tcb.closeWithFin now state).out = tcb.flushOut ++
      [tcb.sendControlPacket false true false true (tcb.snd.nxt + UInt32.ofNat tcb.nextData.length)
        tcb.rcv.nxt] ∧
    (tcb.closeWithFin now state).tcb =
      { tcb with
        lastWritten := now
        recvBuffer := tcb.recvBuffer.forceWakeUp
        sendBuffer := tcb.sendBuffer.forceWakeUp
        currentState := state
        snd.nxt := tcb.snd.nxt + UInt32.ofNat tcb.nextData.length + 1 } := by
  rw [closeWithFin, processBlock_of_transmits sends, flushOut]
  by_cases nothing : tcb.nextData = []
  · rw [if_pos nothing, if_pos nothing]
    exact ⟨rfl, rfl⟩
  · rw [if_neg nothing, if_neg nothing]
    exact ⟨rfl, rfl⟩

theorem closeConnection_eq {tcb : TransmissionControlBlock}
    (state : tcb.currentState = .established ∨ tcb.currentState = .closeWait) :
    ∃ next, TransmitsData next = true ∧ TransmitsData tcb.currentState = true ∧
      ∀ now, tcb.closeConnection now = tcb.closeWithFin now next := by
  rcases state with h | h
  · exact ⟨.finWait1, rfl, by rw [h]; rfl, fun now => by rw [closeConnection, h]⟩
  · exact ⟨.lastAck, rfl, by rw [h]; rfl, fun now => by rw [closeConnection, h]⟩

end TransmissionControlBlock

/-- Nothing is left that a further round could send. -/
structure Drained (emitted : List Segment) (e : Endpoint) : Prop where
  sends : TransmissionControlBlock.TransmitsData e.tcb.currentState = true
  nothing : e.tcb.nextData = []
  emitted_eq : e.emitted = emitted

theorem Drained.step {emitted : List Segment} {e : Endpoint} (h : Drained emitted e) (now : Int) :
    Drained emitted (e.step (.processDirty now)) := by
  by_cases idle : e.waiting.isSome ∨ e.dirty = 0
  · rw [Endpoint.step, Endpoint.act, if_pos idle]
    exact h
  · rw [Endpoint.step, Endpoint.act, if_neg idle,
      TransmissionControlBlock.processBlock_of_transmits h.sends, if_pos h.nothing,
      TransmissionControlBlock.transmitted_of_nil h.nothing]
    exact ⟨h.sends, h.nothing, (List.append_nil _).trans h.emitted_eq⟩

theorem Drained.run {emitted : List Segment} {e : Endpoint} (h : Drained emitted e)
    (later : List Int) :
    Drained emitted (run Endpoint.step e (later.map Action.processDirty)) := by
  induction later generalizing e with
  | nil => exact h
  | cons now later ih => exact ih (h.step now)

/-- After the FIN the count of bytes in flight exceeds the buffer, so nothing is peeked. -/
theorem nextData_after_fin {tcb : TransmissionControlBlock}
    (past : tcb.sendBuffer.size < tcb.inFlight.toNat) : tcb.nextData = [] := by
  rw [TransmissionControlBlock.nextData, List.drop_of_length_le, List.take_nil]
  rw [BlockingBuffer.length_contents]
  exact Nat.le_of_lt past

theorem ReadyToClose.sent_before_fin {e : Endpoint} (ready : ReadyToClose e)
    (flushed : e.tcb.inFlight.toNat + e.tcb.nextData.length = e.tcb.sendBuffer.size) {i : Nat}
    (hi : i < e.tcb.sendBuffer.size) :
    SentAt (e.emitted ++ e.tcb.flushOut) (seqAt e.tcb.snd.una i)
      e.tcb.sendBuffer.contents[i]? := by
  by_cases old : i < e.tcb.inFlight.toNat
  · exact (ready.sent i old).append _
  · have some : e.tcb.nextData ≠ [] := List.ne_nil_of_length_pos (by omega)
    have place : i = e.tcb.inFlight.toNat + (i - e.tcb.inFlight.toNat) := by omega
    refine ⟨e.tcb.createWriterTcpPacket e.tcb.nextData e.tcb.snd.nxt, ?_,
      i - e.tcb.inFlight.toNat, ?_, ?_, ?_⟩
    · rw [TransmissionControlBlock.flushOut, if_neg some]
      exact List.mem_append_right _ List.mem_cons_self
    · change _ < e.tcb.nextData.length
      omega
    · change e.tcb.snd.nxt + _ = _
      rw [e.tcb.nxt_eq_inFlight, seqAt_add, ← place]
    · change e.tcb.nextData[_]? = _
      have short := e.tcb.length_nextData
      rw [TransmissionControlBlock.nextData, List.getElem?_take_of_lt (by omega),
        List.getElem?_drop, ← place]

/-- Closing is clean exactly when the unsent bytes fit in one segment and in what the
peer's window still permits. -/
theorem closesCleanly_iff (e : Endpoint) (ready : ReadyToClose e) (now : Int) (later : List Int) :
    ClosesCleanly e now later ↔
      e.tcb.sendBuffer.size - e.tcb.inFlight.toNat ≤
        min 1460 (e.tcb.snd.wnd.toNat - e.tcb.inFlight.toNat) := by
  obtain ⟨next, sendsAfter, sends, closing⟩ :=
    TransmissionControlBlock.closeConnection_eq ready.state
  obtain ⟨out, tcb⟩ := TransmissionControlBlock.closeWithFin_eq sends now next
  have emitted : (e.step (.close now)).emitted = e.emitted ++ e.tcb.flushOut ++
      [e.tcb.sendControlPacket false true false true
        (e.tcb.snd.nxt + UInt32.ofNat e.tcb.nextData.length) e.tcb.rcv.nxt] := by
    change e.emitted ++ (e.tcb.closeConnection now).out = _
    rw [closing, out, List.append_assoc]
  have finSeq : e.tcb.snd.nxt + UInt32.ofNat e.tcb.nextData.length =
      seqAt e.tcb.snd.una (e.tcb.inFlight.toNat + e.tcb.nextData.length) := by
    rw [e.tcb.nxt_eq_inFlight, seqAt_add]
  have hsize := e.tcb.sendSize_le
  have hlen := e.tcb.length_nextData
  have hfly := ready.inFlight_le
  constructor
  · rintro ⟨before, fin, after, hclosed, _, _, hseq, _, _⟩
    have same : fin = e.tcb.sendControlPacket false true false true
        (e.tcb.snd.nxt + UInt32.ofNat e.tcb.nextData.length) e.tcb.rcv.nxt := by
      rw [emitted] at hclosed
      exact List.singleton_inj.mp (List.append_inj' hclosed.symm rfl).2
    rw [same] at hseq
    change e.tcb.snd.nxt + UInt32.ofNat e.tcb.nextData.length = _ at hseq
    rw [finSeq] at hseq
    have := seqAt_inj e.tcb.snd.una (by omega) (by omega) hseq
    omega
  · intro enough
    have flushed : e.tcb.inFlight.toNat + e.tcb.nextData.length = e.tcb.sendBuffer.size := by omega
    have drained : Drained (e.step (.close now)).emitted (e.step (.close now)) := by
      have tcbEq : (e.step (.close now)).tcb = (e.tcb.closeWithFin now next).tcb := by
        change (e.tcb.closeConnection now).tcb = _
        rw [closing]
      refine ⟨?_, nextData_after_fin ?_, rfl⟩
      · rw [tcbEq, tcb]
        exact sendsAfter
      · rw [tcbEq, tcb]
        change e.tcb.sendBuffer.size <
          (e.tcb.snd.nxt + UInt32.ofNat e.tcb.nextData.length + 1 - e.tcb.snd.una).toNat
        rw [finSeq, flushed, seqAt_succ]
        have distance := distance_seqAt e.tcb.snd.una (Nat.zero_le (e.tcb.sendBuffer.size + 1))
          (by omega)
        rw [seqAt_zero] at distance
        omega
    refine ⟨_, _, [], emitted, ?_, rfl, ?_, fun i hi => ready.sent_before_fin flushed hi, by simp⟩
    · rw [(drained.run later).emitted_eq, List.append_nil]
    · change e.tcb.snd.nxt + UInt32.ofNat e.tcb.nextData.length = _
      rw [finSeq, flushed]

/-- Two bytes in the send buffer, one of them in flight, and an open window. -/
theorem closesCleanly_two_bytes :
    ClosesCleanly (run Endpoint.step (.fresh sampleTcb) [.send [5], .processBlock 0, .send [6]])
      0 [0, 0] := by
  refine (closesCleanly_iff _ ⟨Or.inl rfl, by decide, ?_⟩ 0 [0, 0]).mpr (by decide)
  intro i hi
  have first : i = 0 := by
    have : i < 1 := hi
    omega
  subst first
  exact ⟨_, List.mem_cons_self, 0, by decide, by decide, by decide⟩

/-- One byte and a window of zero: the FIN takes the number of the unsent byte. -/
theorem zero_window_fin_overtakes_data :
    let e := run Endpoint.step (.fresh { sampleTcb with snd.wnd := 0 }) [.send [5]]
    ReadyToClose e ∧ ¬ ClosesCleanly e 0 [] := by
  refine ⟨⟨Or.inl rfl, by decide, fun i hi => absurd hi (Nat.not_lt_zero i)⟩, ?_⟩
  rintro ⟨before, fin, after, hclosed, _, _, hseq, _, _⟩
  have only : before ++ [fin] = [] ++ [({ sampleTcb with snd.wnd := 0 } :
      TransmissionControlBlock).sendControlPacket false true false true 0 0] := hclosed.symm
  rw [List.singleton_inj.mp (List.append_inj' only rfl).2] at hseq
  revert hseq
  decide

end TinyCP
