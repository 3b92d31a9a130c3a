import TinyCP.ResetHandling
import TinyCP.OutputPath

/-!
# The reset generation rule

A segment for which there is no connection is answered with a RST that its sender can
check. Where the segment has no acknowledgment to quote, the RST acknowledges all of
it, its SYN and FIN included. The source counts the payload and the SYN.
-/
namespace TinyCP
open TransmissionControlBlock

namespace Segment

end Segment

/-- The SYN of an endpoint that waits in SYN_SENT. -/
structure SynOf (packet : Segment) (client : TransmissionControlBlock) : Prop where
  waits : client.currentState = .synSent
  counted : client.snd.nxt = client.snd.iss + 1
  sent : ∃ now, packet ∈ (client.processBlock now).out

namespace TcpStack

end TcpStack

namespace SynOf

theorem segment_eq {packet : Segment} {client : TransmissionControlBlock}
    (syn : SynOf packet client) :
    packet = client.sendControlPacket true false false false client.snd.iss 0 := by
  obtain ⟨now, sent⟩ := syn.sent
  simp only [processBlock, syn.waits, if_true, List.mem_singleton] at sent
  exact sent

/-- The RST for a SYN acknowledges it, and so it is accepted, also after its way
through the wire. -/
theorem refused {packet : Segment} {client : TransmissionControlBlock} (syn : SynOf packet client)
    {answer : Segment} (answers : handleClosedResetResponse packet = [answer])
    (ipPacketBuffer tcpPacketBuffer : PacketBuffer) :
    ∃ arrived, parseIncoming (datagram answer.src answer.dst answer.tcpPacket ipPacketBuffer
        tcpPacketBuffer) = some arrived ∧
      (client.handleSynSentState arrived.segment).tcb.currentState = .closed := by
  rw [syn.segment_eq] at answers
  have reset : answer = sendRawRst client.dstAddress client.srcAddress 0 client.snd.nxt true := by
    rw [syn.counted]
    simpa [handleClosedResetResponse, sendControlPacket] using answers.symm
  have back := answer.read_back (by rw [reset]; exact Nat.zero_le _) ipPacketBuffer tcpPacketBuffer
  obtain ⟨arrived, parsed, same⟩ := Option.map_eq_some_iff.mp back
  refine ⟨arrived, parsed, ?_⟩
  rw [same, reset]
  simp [handleSynSentState, sendRawRst, setState]

end SynOf

end TinyCP
