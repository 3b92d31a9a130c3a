import TinyCP.HandlerSpecs
import Mathlib.Data.Finset.Lattice.Fold
import Mathlib.Order.Lattice.Nat

/-!
# Cumulative acknowledgments

Acknowledgments of bytes in flight commute. Seen from the `SND.UNA` that the first of
them finds, each one asks for a number of bytes to be dropped, and after any of them
the largest such number has been dropped: the discard is computed from the current
`SND.UNA`, and one that asks for less is found not to be ahead.
-/
namespace TinyCP
open SequenceSpace

namespace TransmissionControlBlock

/-- An acknowledgment and nothing else. -/
structure PureAck (packet : Segment) : Prop where
  ack : packet.ack = true
  noFin : packet.fin = false
  noPayload : packet.payload = []

/-- The number of bytes beyond `SND.UNA` that an acknowledgment covers. -/
def ackDistance (tcb : TransmissionControlBlock) (ackNum : UInt32) : Nat :=
  (ackNum - tcb.snd.una).toNat

/-- An acknowledgment number in the range from `SND.UNA` to `SND.NXT`. -/
def InFlightRange (tcb : TransmissionControlBlock) (ackNum : UInt32) : Prop :=
  tcb.ackDistance ackNum ≤ tcb.inFlight.toNat

def receiveAll (tcb : TransmissionControlBlock) (packets : List Segment) :
    TransmissionControlBlock :=
  packets.foldl (fun tcb packet => (tcb.receive packet).tcb) tcb

/-- The block `tcb` once `count` of its bytes in flight are acknowledged. -/
structure Acked (tcb : TransmissionControlBlock) (count : Nat) (after : TransmissionControlBlock) :
    Prop where
  una_eq : after.snd.una = seqAt tcb.snd.una count
  nxt_eq : after.snd.nxt = tcb.snd.nxt
  contents_eq : after.sendBuffer.contents = tcb.sendBuffer.contents.drop count
  rcv_eq : after.rcv = tcb.rcv
  recvBuffer_eq : after.recvBuffer = tcb.recvBuffer
  state_eq : after.currentState = tcb.currentState

theorem Acked.refl (tcb : TransmissionControlBlock) : Acked tcb 0 tcb :=
  ⟨(seqAt_zero _).symm, rfl, rfl, rfl, rfl, rfl⟩

theorem receive_pureAck {tcb : TransmissionControlBlock} {packet : Segment}
    (established : tcb.currentState = .established) (pure : PureAck packet) :
    (tcb.receive packet).tcb = tcb.afterAck packet := by
  simp only [receive, established]
  rcases tcb.handleEstablishedState_cases pure.noFin with ⟨_, done⟩ | ⟨some, _⟩ | ⟨some, _⟩
  · rw [done]
  · exact absurd pure.noPayload some
  · exact absurd pure.noPayload some

/-- An acknowledgment takes what was acknowledged to what it covers, and never back. -/
theorem Acked.receive {tcb after : TransmissionControlBlock} {count : Nat} {packet : Segment}
    (h : Acked tcb count after) (established : tcb.currentState = .established)
    (near : tcb.inFlight.toNat < 2 ^ 31) (pure : PureAck packet) (known : count ≤ tcb.inFlight.toNat)
    (inRange : InFlightRange tcb packet.ackNum) :
    Acked tcb (max count (tcb.ackDistance packet.ackNum)) (after.receive packet).tcb := by
  have bound : tcb.ackDistance packet.ackNum ≤ tcb.inFlight.toNat := inRange
  have target : packet.ackNum = seqAt tcb.snd.una (tcb.ackDistance packet.ackNum) :=
    eq_seqAt tcb.snd.una packet.ackNum
  rw [receive_pureAck (h.state_eq.trans established) pure]
  rcases Nat.lt_or_ge count (tcb.ackDistance packet.ackNum) with further | covered
  · have distance : (packet.ackNum - after.snd.una).toNat =
        tcb.ackDistance packet.ackNum - count := by
      rw [h.una_eq]
      nth_rewrite 1 [target]
      exact distance_seqAt _ (Nat.le_of_lt further) (by omega)
    have ahead : 0 < (packet.ackNum - after.snd.una).toInt32 := by
      rw [toInt32_pos_iff, distance]
      omega
    obtain ⟨una, buffer⟩ := afterAck_of_ahead pure.ack ahead
    rw [Nat.max_eq_right (Nat.le_of_lt further)]
    refine ⟨una.trans target, (after.afterAck_nxt packet).trans h.nxt_eq, ?_,
      (after.afterAck_rcv packet).trans h.rcv_eq,
      (after.afterAck_recvBuffer packet).trans h.recvBuffer_eq,
      (after.afterAck_currentState packet).trans h.state_eq⟩
    rw [buffer, BlockingBuffer.contents_discard, h.contents_eq, distance, List.drop_drop]
    congr 1
    omega
  · -- behind by less than half a turn, the signed difference is not positive
    have old : packet.ack = true → ¬ 0 < (packet.ackNum - after.snd.una).toInt32 := by
      intro _ ahead
      have back : (after.snd.una - packet.ackNum).toNat =
          count - tcb.ackDistance packet.ackNum := by
        rw [h.una_eq]
        nth_rewrite 1 [target]
        exact distance_seqAt _ covered (by omega)
      have turn : packet.ackNum - after.snd.una = 0 - (after.snd.una - packet.ackNum) := by
        grind
      rw [toInt32_pos_iff, turn, UInt32.toNat_sub, back] at ahead
      change 0 < (2 ^ 32 - _ + 0) % 2 ^ 32 ∧ (2 ^ 32 - _ + 0) % 2 ^ 32 < 2 ^ 31 at ahead
      omega
    obtain ⟨una, buffer⟩ := afterAck_of_not_ahead old
    rw [Nat.max_eq_left covered]
    exact ⟨una.trans h.una_eq, (after.afterAck_nxt packet).trans h.nxt_eq,
      by rw [buffer, h.contents_eq], (after.afterAck_rcv packet).trans h.rcv_eq,
      (after.afterAck_recvBuffer packet).trans h.recvBuffer_eq,
      (after.afterAck_currentState packet).trans h.state_eq⟩

/-- The largest distance among some acknowledgment numbers. -/
def furthest (tcb : TransmissionControlBlock) (ackNums : Finset UInt32) : Nat :=
  ackNums.sup tcb.ackDistance

theorem furthest_le {tcb : TransmissionControlBlock} {ackNums : Finset UInt32}
    (inRange : ∀ ackNum ∈ ackNums, InFlightRange tcb ackNum) :
    tcb.furthest ackNums ≤ tcb.inFlight.toNat :=
  Finset.sup_le inRange

/-- A run of acknowledgments, in the order in which they come. -/
theorem Acked.receiveAll {tcb : TransmissionControlBlock}
    (established : tcb.currentState = .established) (near : tcb.inFlight.toNat < 2 ^ 31)
    {packets : List Segment} (pure : ∀ packet ∈ packets, PureAck packet)
    (inRange : ∀ packet ∈ packets, InFlightRange tcb packet.ackNum) {count : Nat}
    {after : TransmissionControlBlock} (h : Acked tcb count after)
    (known : count ≤ tcb.inFlight.toNat) :
    Acked tcb (max count (tcb.furthest (packets.map Segment.ackNum).toFinset))
      (after.receiveAll packets) := by
  induction packets generalizing count after with
  | nil =>
    rw [List.map_nil, List.toFinset_nil, furthest, Finset.sup_empty, Nat.bot_eq_zero, Nat.max_zero]
    exact h
  | cons packet rest ih =>
    rw [List.forall_mem_cons] at pure inRange
    have next := h.receive established near pure.1 known inRange.1
    have done := ih pure.2 inRange.2 next (max_le known inRange.1)
    rw [List.map_cons, List.toFinset_cons, furthest, Finset.sup_insert, ← furthest, ← max_assoc]
    exact done

/-- What a collection of acknowledgments of bytes in flight comes to. -/
structure CumulativelyAcked (tcb : TransmissionControlBlock) (packets : List Segment)
    (after : TransmissionControlBlock) : Prop where
  reached : after.snd.una = tcb.snd.una ∨ ∃ packet ∈ packets, packet.ackNum = after.snd.una
  greatest : ∀ packet ∈ packets,
    tcb.ackDistance packet.ackNum ≤ tcb.ackDistance after.snd.una
  dropped : after.sendBuffer.contents =
    tcb.sendBuffer.contents.drop (tcb.ackDistance after.snd.una)
  nxt_eq : after.snd.nxt = tcb.snd.nxt
  rcv_eq : after.rcv = tcb.rcv
  recvBuffer_eq : after.recvBuffer = tcb.recvBuffer

theorem Acked.cumulative {tcb after : TransmissionControlBlock} {packets : List Segment}
    (h : Acked tcb (tcb.furthest (packets.map Segment.ackNum).toFinset) after)
    (near : tcb.furthest (packets.map Segment.ackNum).toFinset < 2 ^ 32) :
    CumulativelyAcked tcb packets after := by
  have distance : tcb.ackDistance after.snd.una =
      tcb.furthest (packets.map Segment.ackNum).toFinset := by
    rw [ackDistance, h.una_eq]
    exact distance_add _ near
  refine ⟨?_, ?_, ?_, h.nxt_eq, h.rcv_eq, h.recvBuffer_eq⟩
  · rcases (packets.map Segment.ackNum).toFinset.eq_empty_or_nonempty with none | some
    · left
      rw [h.una_eq, none, furthest, Finset.sup_empty, Nat.bot_eq_zero, seqAt_zero]
    · right
      obtain ⟨ackNum, member, attained⟩ := Finset.exists_mem_eq_sup _ some tcb.ackDistance
      obtain ⟨packet, among, rfl⟩ := List.mem_map.mp (List.mem_toFinset.mp member)
      refine ⟨packet, among, ?_⟩
      rw [h.una_eq, furthest, attained]
      exact eq_seqAt tcb.snd.una packet.ackNum
  · intro packet among
    rw [distance]
    exact Finset.le_sup (List.mem_toFinset.mpr (List.mem_map_of_mem among))
  · rw [distance]
    exact h.contents_eq

/-- Acknowledgments in flight, in any order and however often, come to the greatest of
them: two lists with the same numbers leave the same `SND.UNA` and the same bytes. -/
theorem receiveAll_order_insensitive (tcb : TransmissionControlBlock)
    (established : tcb.currentState = .established)
    (aligned : tcb.inFlight.toNat ≤ tcb.sendBuffer.size)
    (packets : List Segment) (pure : ∀ packet ∈ packets, PureAck packet)
    (inRange : ∀ packet ∈ packets, InFlightRange tcb packet.ackNum) :
    CumulativelyAcked tcb packets (tcb.receiveAll packets) ∧
    ∀ others : List Segment, (∀ packet ∈ others, PureAck packet) →
      (∀ ackNum, ackNum ∈ others.map Segment.ackNum ↔ ackNum ∈ packets.map Segment.ackNum) →
      (tcb.receiveAll others).snd.una = (tcb.receiveAll packets).snd.una ∧
      (tcb.receiveAll others).sendBuffer.contents =
        (tcb.receiveAll packets).sendBuffer.contents := by
  have size := tcb.sendSize_le
  have near : tcb.inFlight.toNat < 2 ^ 31 := by omega
  have result : ∀ list : List Segment, (∀ packet ∈ list, PureAck packet) →
      (∀ packet ∈ list, InFlightRange tcb packet.ackNum) →
      Acked tcb (tcb.furthest (list.map Segment.ackNum).toFinset) (tcb.receiveAll list) := by
    intro list pure inRange
    have done := Acked.receiveAll established near pure inRange (.refl tcb) (Nat.zero_le _)
    rwa [Nat.zero_max] at done
  have mine := result packets pure inRange
  have small : tcb.furthest (packets.map Segment.ackNum).toFinset ≤ tcb.inFlight.toNat := by
    refine furthest_le ?_
    intro ackNum member
    obtain ⟨packet, among, rfl⟩ := List.mem_map.mp (List.mem_toFinset.mp member)
    exact inRange packet among
  refine ⟨mine.cumulative (by omega), ?_⟩
  intro others othersPure same
  have othersInRange : ∀ packet ∈ others, InFlightRange tcb packet.ackNum := by
    intro packet among
    obtain ⟨twin, among', equal⟩ :=
      List.mem_map.mp ((same packet.ackNum).mp (List.mem_map_of_mem among))
    rw [← equal]
    exact inRange twin among'
  have theirs := result others othersPure othersInRange
  have sets : (others.map Segment.ackNum).toFinset = (packets.map Segment.ackNum).toFinset := by
    ext ackNum
    rw [List.mem_toFinset, List.mem_toFinset]
    exact same ackNum
  rw [sets] at theirs
  exact ⟨theirs.una_eq.trans mine.una_eq.symm, theirs.contents_eq.trans mine.contents_eq.symm⟩

/-- Three bytes in flight across the wrap of the sequence numbers. -/
def wrappedFlight : TransmissionControlBlock :=
  { sampleTcb with
    snd := { una := 0xFFFFFFFE, nxt := 1, wnd := 65535, iss := 0xFFFFFFFD }
    sendBuffer := (emptyBuffer.store [1, 2, 3]).1 }

theorem wrappedFlight_order_insensitive :
    let early := sampleSegment 0 0xFFFFFFFF 65535 []
    let late := sampleSegment 0 1 65535 []
    CumulativelyAcked wrappedFlight [early, late] (wrappedFlight.receiveAll [early, late]) ∧
    (wrappedFlight.receiveAll [late, early, late]).snd.una =
      (wrappedFlight.receiveAll [early, late]).snd.una := by
  intro early late
  obtain ⟨result, same⟩ := receiveAll_order_insensitive wrappedFlight rfl (by decide) [early, late]
    (by simp only [List.forall_mem_cons]; exact ⟨⟨rfl, rfl, rfl⟩, ⟨rfl, rfl, rfl⟩, by simp⟩)
    (by simp only [List.forall_mem_cons, InFlightRange]; exact ⟨by decide, by decide, by simp⟩)
  refine ⟨result, (same [late, early, late] ?_ ?_).1⟩
  · simp only [List.forall_mem_cons]
    exact ⟨⟨rfl, rfl, rfl⟩, ⟨rfl, rfl, rfl⟩, ⟨rfl, rfl, rfl⟩, by simp⟩
  · intro ackNum
    simp only [List.map_cons, List.map_nil, List.mem_cons, List.not_mem_nil]
    tauto

end TransmissionControlBlock
end TinyCP
