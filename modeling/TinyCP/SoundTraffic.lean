import TinyCP.DamagedDatagrams
import TinyCP.SegmentChecksums
import TinyCP.WellFormedDatagrams
import TinyCP.WireDaemon

/-!
# All traffic is in order

The stack does not look at the checksums of what it receives, but whatever it emits, in any
run, is a well-formed datagram of at most 1500 bytes that a receiver who does look accepts.
-/
namespace TinyCP
open EventRun WireBytes

structure Sound (bytes : List UInt8) : Prop where
  wellFormed : WellFormed bytes
  whole : totalLengthOf bytes = bytes.length
  intact : ¬ Damaged bytes
  fits : bytes.length ≤ 1500

/-- The checksum of a segment without options verifies, as a receiver sees it. -/
theorem segmentBytes_verifies {src dst : IPv4Address} {packet : TcpPacket}
    (offset : packet.header.dataOffset = 5) (fits : packet.payload.length ≤ 65495) :
    (TcpPacketView.mk (segmentBytes src dst packet)).ChecksumVerifies src.address dst.address := by
  obtain ⟨checksum, same⟩ :=
    TcpPacket.sealedHeader_eq offset (htonl src.address) (htonl dst.address)
  have sealed := packet.sealedHeader_verifies (htonl src.address) (htonl dst.address) (by omega)
  have kept : ({ packet.header with checksum := checksum } : TcpHeader).dataOffset = 5 := offset
  rw [same] at sealed
  have length : (TcpPacketView.mk ((TcpHeader.serialize { packet.header with checksum := checksum }) ++
      packet.payload)).headerLength.toNat = 20 := by
    rw [(TcpPacketView.mirrors_serialize _ _).headerLength, TcpHeader.headerLength, kept]
    rfl
  rw [TcpPacketView.ChecksumVerifies, segmentBytes, same, length,
    TcpPacketView.payload_serialize _ _ kept, List.take_left' (TcpHeader.length_serialize _)]
  exact sealed

/-- What `write_packet_` makes of a segment that a stack emits. -/
theorem datagram_sound {segment : Segment} (formed : segment.Formed)
    (ipPacketBuffer tcpPacketBuffer : PacketBuffer) :
    Sound (datagram segment.src segment.dst segment.tcpPacket ipPacketBuffer tcpPacketBuffer) := by
  have small : segment.tcpPacket.payload.length ≤ 1460 := formed.size
  have offset : segment.tcpPacket.header.dataOffset = 5 := segment.dataOffset_tcpHeader
  have encloses := @encloses_segmentBytes segment.src segment.dst segment.tcpPacket (by omega)
  have verifies := IPv4Packet.sealedHeader_verifies ⟨ipHeaderFor segment.src segment.dst,
    segmentBytes segment.src segment.dst segment.tcpPacket⟩
    (20 + (20 + segment.tcpPacket.payload.length))
  have inner := @segmentBytes_verifies segment.src segment.dst _ offset (by omega)
  rw [datagram_eq segment.src segment.dst offset (by omega)]
  have length := IPv4PacketView.headerLength_serialize encloses
  have total := IPv4PacketView.totalLength_serialize encloses
  have valid := IPv4PacketView.valid_serialize encloses
  have mirrors := IPv4PacketView.mirrors_serialize (IPv4Packet.sealedHeader
    ⟨ipHeaderFor segment.src segment.dst, segmentBytes segment.src segment.dst segment.tcpPacket⟩
    (20 + (20 + segment.tcpPacket.payload.length)))
    (segmentBytes segment.src segment.dst segment.tcpPacket)
  have word : (IPv4Packet.sealedHeader ⟨ipHeaderFor segment.src segment.dst,
      segmentBytes segment.src segment.dst segment.tcpPacket⟩
      (20 + (20 + segment.tcpPacket.payload.length))).flagsFragmentOffset = 0 := by
    change (IPv4Header.empty.setFragmentOffset 0).flagsFragmentOffset = 0
    decide
  have whole : ∀ header : IPv4Header, (header.serialize ++
      segmentBytes segment.src segment.dst segment.tcpPacket).length =
      40 + segment.tcpPacket.payload.length := by
    intro header
    rw [List.length_append, IPv4Header.length_serialize, length_segmentBytes]
    omega
  rw [IPv4PacketView.toNat_totalLengthNtoh, length_segmentBytes] at total
  refine ⟨?_, ?_, ?_, ?_⟩
  · refine ((IPv4PacketView.valid_iff_wellFormed_or _).mp valid).resolve_right fun short => ?_
    have least := short.short
    rw [← IPv4PacketView.toNat_headerLength, length] at least
    omega
  · rw [total, whole]
    omega
  · rintro (ip | tcp | protocol | offset | more)
    · apply ip
      rw [IPv4PacketView.ChecksumVerifies, length, List.take_left' (IPv4Header.length_serialize _)]
      exact verifies
    · apply tcp
      have source : (ipHeaderFor segment.src segment.dst).sourceAddressNtoh = segment.src.address :=
        ntohl_htonl _
      have destination : (ipHeaderFor segment.src segment.dst).destinationAddressNtoh =
          segment.dst.address := ntohl_htonl _
      rw [IPv4PacketView.payload_serialize encloses, mirrors.sourceAddressNtoh,
        mirrors.destinationAddressNtoh]
      exact source.symm ▸ destination.symm ▸ inner
    · exact protocol mirrors.protocol
    · apply offset
      rw [mirrors.fragmentOffset, IPv4Header.fragmentOffset, word]
      decide
    · apply more
      rw [mirrors.flags, IPv4Header.flags, word]
      decide
  · rw [whole]
    omega

/-- Everything on both ways out is in order. -/
def Wire.AllSound (wire : Wire) : Prop :=
  ∀ bytes ∈ wire.loopbackPacketQueue ++ wire.tunDevice, Sound bytes

theorem Wire.AllSound.writeAll {wire : Wire} (h : wire.AllSound) (localAddress : UInt32)
    {packets : List Segment} (formed : ∀ packet ∈ packets, packet.Formed) (garbage : Garbage) :
    (wire.writeAll localAddress garbage packets).AllSound := by
  induction packets generalizing wire garbage with
  | nil => exact h
  | cons packet packets ih =>
    have sound := datagram_sound (formed packet List.mem_cons_self) (garbage 0).1 (garbage 0).2
    refine ih ?_ (fun other member => formed other (List.mem_cons_of_mem packet member)) _
    intro bytes member
    rw [Wire.writePacket] at member
    split_ifs at member
    · simp only [List.append_assoc, List.mem_append, List.mem_singleton] at member
      rcases member with queued | new | sent
      · exact h bytes (List.mem_append_left _ queued)
      · rw [new]
        exact sound
      · exact h bytes (List.mem_append_right _ sent)
    · simp only [List.mem_append, List.mem_singleton] at member
      rcases member with queued | sent | new
      · exact h bytes (List.mem_append_left _ queued)
      · exact h bytes (List.mem_append_right _ sent)
      · rw [new]
        exact sound

namespace WireDaemon

/-- A step leaves the wire alone, takes the loopback queue over, or writes what an operation
emits. -/
theorem step_sound {fd : Int} {w : WireDaemon} {d : Lifecycle} (decodes : Decodes w d)
    (sound : w.wire.AllSound) (event : LifecycleEvent × Garbage) :
    (w.step fd event).wire.AllSound := by
  obtain ⟨event, garbage⟩ := event
  have operates : ∀ {op : TcpStack → TcpStack}, (∃ out, TcpStack.Output op d.stack out) →
      (w.operate garbage op).wire.AllSound := by
    rintro op ⟨out, output⟩
    have emitted : (op w.tables).written = out := by
      rw [decodes.tables, output.onto]
      rfl
    refine sound.writeAll _ ?_ garbage
    rw [emitted]
    exact output.formed
  have taken : Wire.AllSound { w.wire with loopbackPacketQueue := [] } :=
    fun bytes sent => sound bytes (List.mem_append_right _ sent)
  cases event with
  | call made => exact operates (TcpStack.call_output made.made)
  | stop => exact sound
  | daemon now iss read =>
    rw [step, advance]
    split_ifs
    · exact operates TcpStack.resumeWrite_output
    · rw [work]
      split
      · split_ifs <;> exact sound
      · exact sound
      · exact sound
      · exact operates (TcpStack.withTcb_output _ (·.processBlock_emits now))
      · exact taken
      · exact sound
      · exact operates (TcpStack.processIncomingBytes_output _ iss)
      · exact operates (TcpStack.readIncomingPackets_output fd read iss)
      · exact operates (TcpStack.checkRetransmissions_output now)
      · exact sound

/-- Whatever arrives and whatever is called, every datagram that a stack queues for itself or
hands to the device is sound. -/
theorem traffic_sound (fd : Int) (localAddress : UInt32)
    (events : List (LifecycleEvent × Garbage)) :
    (run (step fd) (start localAddress) events).wire.AllSound := by
  have preserve : ∀ (w : WireDaemon) (event : LifecycleEvent × Garbage), True →
      (∃ d, Decodes w d) ∧ w.wire.AllSound →
      (∃ d, Decodes (w.step fd event) d) ∧ (w.step fd event).wire.AllSound := by
    rintro w event _ ⟨⟨d, decodes⟩, sound⟩
    exact ⟨⟨_, decodes.step event⟩, step_sound decodes sound event⟩
  have initial : (∃ d, Decodes (start localAddress) d) ∧ (start localAddress).wire.AllSound :=
    ⟨⟨.start localAddress, ⟨rfl, ⟨rfl, rfl⟩, .top, rfl⟩⟩, nofun⟩
  exact (run_invariant preserve initial events fun _ _ => trivial).2

end WireDaemon
end TinyCP
