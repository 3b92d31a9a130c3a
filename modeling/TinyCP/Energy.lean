import TinyCP.HandlerSpecs

/-!
# What a segment can set off

A segment is answered by at most one segment, of a kind that can set off less: a SYN by a
SYN-ACK, this and every segment with data or a FIN by an ACK, an ACK by a plain RST, and
that by nothing. What a block can still send on its own account is bounded by the bytes in
its send buffer that were never transmitted. Weighted accordingly, everything a block does
is paid for by the segment, the queued id or the bytes that it uses up.
-/
namespace TinyCP

/-- What can follow from a segment, whatever state it meets. -/
def Segment.cost (packet : Segment) : Nat :=
  if packet.syn && !packet.ack then 6
  else if packet.syn || packet.fin || !packet.payload.isEmpty || (!packet.ack && !packet.rst) then 5
  else if packet.ack then 2
  else 1

namespace Segment
variable {packet : Segment}

end Segment

namespace TransmissionControlBlock

/-- The bytes of the send buffer that were never transmitted. -/
def unsent (tcb : TransmissionControlBlock) : Nat := tcb.sendBuffer.size - tcb.inFlight.toNat

/-- What can follow from the bytes that the block holds. A FIN in ESTABLISHED moves `SND.NXT`
back to what it acknowledges, so there the whole buffer counts once more. -/
def potential (tcb : TransmissionControlBlock) : Nat :=
  match tcb.currentState with
  | .synSent | .synReceived => 12 * tcb.sendBuffer.size
  | .established => 6 * (tcb.sendBuffer.size + tcb.unsent)
  | .closeWait | .finWait1 | .lastAck => 6 * tcb.unsent
  | _ => 0

/-- What the turn of a queued id can set off: the SYN is sent from there. -/
def turnCost (tcb : TransmissionControlBlock) : Nat := if tcb.currentState = .synSent then 7 else 1

end TransmissionControlBlock

/-- What follows from an outcome beside the block that it leaves. -/
def Outcome.cost (o : Outcome) : Nat :=
  (o.out.map Segment.cost).sum + o.dirty.toNat + (if o.waiting.isSome then 3 else 0)

namespace TransmissionControlBlock
open SequenceSpace

theorem cost_sendAck (tcb : TransmissionControlBlock) : tcb.sendAck.cost = 2 := rfl

/-- The outcome is paid for, and no socket enters SYN_SENT or is queued there. -/
structure Pays (tcb : TransmissionControlBlock) (spent : Nat) (o : Outcome) : Prop where
  cost : o.cost + o.tcb.potential ≤ tcb.potential + spent
  state : o.tcb.currentState = .synSent → tcb.currentState = .synSent
  queued : o.dirty = true → o.tcb.currentState ≠ .synSent

theorem Pays.of_answers {tcb after : TransmissionControlBlock} {out : List Segment}
    {effect : TableEffect} {spent : Nat} (potential : after.potential ≤ tcb.potential)
    (cost : (out.map Segment.cost).sum ≤ spent)
    (state : after.currentState = .synSent → tcb.currentState = .synSent) :
    Pays tcb spent { tcb := after, out := out, effect := effect } := by
  refine ⟨?_, state, (by rintro ⟨⟩)⟩
  change (out.map Segment.cost).sum + 0 + 0 + after.potential ≤ _
  omega

theorem Pays.unchanged (tcb : TransmissionControlBlock) (spent : Nat) :
    Pays tcb spent { tcb := tcb } :=
  .of_answers (Nat.le_refl _) (Nat.zero_le _) fun same => same

end TransmissionControlBlock
end TinyCP
