import TinyCP.EphemeralRange
import TinyCP.TcpSocket

/-!
# Ephemeral ports

A 16-bit counter goes round the ephemeral ports, and the first port it comes to that is
not bound in the listener table is handed out. The local ports of connections are not in
that table. So as long as some port is not bound, what is handed out is not bound, and
it is unused as long as no connection has kept the port that the counter comes to.
-/
namespace TinyCP
open EventRun

namespace TcpStack

/-- The first port from the counter on that is not bound. -/
structure NextUnbound (stack : TcpStack) (port : UInt16) : Prop where
  ephemeral : IsEphemeral port
  unbound : ¬ stack.IsBound port
  first : ∀ other, IsEphemeral other →
    portsBefore stack.nextPort other < portsBefore stack.nextPort port → stack.IsBound other

/-- The loop finds the first port that is not bound, wherever the counter stands. -/
theorem NextUnbound.allocated {stack : TcpStack} {port : UInt16} (h : NextUnbound stack port) :
    stack.allocateEphemeralPort.2 = port := by
  obtain ⟨before, after, split, nearer⟩ := candidates_split h.ephemeral stack.nextPort
  refine findEphemeralPort_of_split split (fun other member => ?_) h.unbound
  obtain ⟨inRange, closer⟩ := nearer other member
  exact h.first other inRange closer

/-- The local port of a connection whose socket is live. -/
def IsLocalPort (stack : TcpStack) (port : UInt16) : Prop :=
  ∃ key id, stack.connectionTable.connections.lookup key = some id ∧
    stack.socketTable.contains id = true ∧ key.dstAddress.port = port

/-- Fewer than 16383 ports are bound or the local port of a connection. -/
def HasFewPorts (stack : TcpStack) : Prop :=
  ∀ ports : List UInt16, ports.Nodup → (∀ port ∈ ports, stack.IsBound port ∨ stack.IsLocalPort port) →
    ports.length < 16383

def ephemeralPorts : List UInt16 := (List.range 16383).map fun i => UInt16.ofNat (49152 + i)

theorem toNat_ephemeral {i : Nat} (within : i < 16383) :
    (UInt16.ofNat (49152 + i)).toNat = 49152 + i := by
  rw [UInt16.toNat_ofNat']
  exact Nat.mod_eq_of_lt (by omega)

theorem ephemeralPorts_nodup : ephemeralPorts.Nodup := by
  refine List.Nodup.map_on ?_ List.nodup_range
  intro i hi j hj same
  have equal := congrArg UInt16.toNat same
  rw [toNat_ephemeral (List.mem_range.mp hi), toNat_ephemeral (List.mem_range.mp hj)] at equal
  omega

/-- While few ports are in use, some ephemeral port is not bound, and there is a first one. -/
theorem HasFewPorts.exists_nextUnbound {stack : TcpStack} (few : HasFewPorts stack) :
    ∃ port, NextUnbound stack port := by
  have some : ∃ distance port, IsEphemeral port ∧ ¬ stack.IsBound port ∧
      portsBefore stack.nextPort port = distance := by
    by_contra none
    push Not at none
    have all : ∀ port ∈ ephemeralPorts, stack.IsBound port ∨ stack.IsLocalPort port := by
      intro port member
      obtain ⟨i, within, rfl⟩ := List.mem_map.mp member
      have value := toNat_ephemeral (List.mem_range.mp within)
      have bound := List.mem_range.mp within
      left
      by_contra unbound
      exact none _ _ ⟨by omega, by omega⟩ unbound rfl
    have count := few ephemeralPorts ephemeralPorts_nodup all
    rw [ephemeralPorts, List.length_map, List.length_range] at count
    exact Nat.lt_irrefl _ count
  classical
  obtain ⟨port, inRange, unbound, distance⟩ := Nat.find_spec some
  refine ⟨port, inRange, unbound, ?_⟩
  intro other otherInRange nearer
  by_contra otherUnbound
  rw [distance] at nearer
  exact Nat.find_min some nearer ⟨other, otherInRange, otherUnbound, rfl⟩

/-- A new connection has an unused local port: the entry made for it has the port that was
allocated, which was neither bound nor the local port of a connection, and so the
entry of no live socket is overwritten. -/
structure TakesUnusedPort (stack next : TcpStack) (remoteAddr : IPv4Address) : Prop where
  entry : next.connectionTable = stack.connectionTable.insert remoteAddr
    ⟨stack.localAddress, stack.allocateEphemeralPort.2⟩ stack.socketTable.nextId
  unbound : ¬ stack.IsBound stack.allocateEphemeralPort.2
  unused : ¬ stack.IsLocalPort stack.allocateEphemeralPort.2
  unregistered :
    stack.findConnectionsTcb remoteAddr ⟨stack.localAddress, stack.allocateEphemeralPort.2⟩ = 0

theorem findConnectionsTcb_of_unused {stack : TcpStack} {port : UInt16}
    (unused : ¬ stack.IsLocalPort port) (remoteAddr : IPv4Address) (address : UInt32) :
    stack.findConnectionsTcb remoteAddr ⟨address, port⟩ = 0 := by
  by_contra real
  obtain ⟨entry, live⟩ := (ConnectionTable.find_eq_iff real).mp rfl
  exact unused ⟨_, _, entry, live, rfl⟩

/-- `connect` on a handle without a socket. -/
theorem connect_unbound_entry {stack : TcpStack} {socketId : UInt64}
    (unbound : stack.getTcb socketId = none) (addr : IPv4Address) (iss : UInt32) :
    (stack.step (.connect socketId addr iss)).connectionTable =
      stack.connectionTable.insert addr ⟨stack.localAddress, stack.allocateEphemeralPort.2⟩
        stack.socketTable.nextId := by
  have created : (stack.completeAddress ⟨0, 0⟩).1.socketTable.findSocket socketId = none := unbound
  simp only [step, TcpSocket.connect, unbound, registerConnection,
    ConnectionTable.registerConnection, created]
  split
  · rfl
  · rw [addDirtyTcb_eq]
    rfl

/-- A connection opened without a bound socket. -/
def OpensUnbound (stack : TcpStack) (event : StackEvent) (remoteAddr : IPv4Address) : Prop :=
  ∃ socketId iss, event = .connect socketId remoteAddr iss ∧ stack.getTcb socketId = none

theorem takesUnusedPort_iff {stack : TcpStack} {event : StackEvent} {remoteAddr : IPv4Address}
    (opens : OpensUnbound stack event remoteAddr) (few : HasFewPorts stack) :
    TakesUnusedPort stack (stack.step event) remoteAddr ↔
      ∀ port, NextUnbound stack port → ¬ stack.IsLocalPort port := by
  obtain ⟨socketId, iss, rfl, unbound⟩ := opens
  constructor
  · intro takes port next
    rw [← next.allocated]
    exact takes.unused
  · intro unused
    obtain ⟨port, next⟩ := few.exists_nextUnbound
    have free := unused port next
    refine ⟨connect_unbound_entry unbound remoteAddr iss, ?_, ?_, ?_⟩
    · rw [next.allocated]
      exact next.unbound
    · rw [next.allocated]
      exact free
    · rw [next.allocated]
      exact findConnectionsTcb_of_unused free remoteAddr stack.localAddress

/-- In any run in which few ports are in use whenever a connection is opened, all local
ports are unused exactly when the counter never comes first to that of a connection. -/
theorem run_takesUnusedPort_iff (stack : TcpStack) (events : List StackEvent)
    (few : Throughout step
      (fun stack event => ∀ addr, OpensUnbound stack event addr → HasFewPorts stack) stack events) :
    Throughout step (fun stack event => ∀ addr, OpensUnbound stack event addr →
      TakesUnusedPort stack (stack.step event) addr) stack events ↔
    Throughout step (fun stack event => ∀ addr, OpensUnbound stack event addr →
      ∀ port, NextUnbound stack port → ¬ stack.IsLocalPort port) stack events := by
  induction events generalizing stack with
  | nil => exact Iff.rfl
  | cons event events ih =>
    refine and_congr ?_ (ih _ few.2)
    refine forall_congr' fun addr => forall_congr' fun opens => ?_
    exact takesUnusedPort_iff opens (few.1 addr opens)

/-- The keys of the two tables bound the number of ports in use. -/
theorem HasFewPorts.of_keys {stack : TcpStack}
    (few : stack.listenerTable.listeners.keys.length +
      stack.connectionTable.connections.keys.length < 16383) : HasFewPorts stack := by
  intro ports nodup used
  have within : ports ⊆ stack.listenerTable.listeners.keys ++
      stack.connectionTable.connections.keys.map (·.dstAddress.port) := by
    intro port member
    rw [List.mem_append]
    rcases used port member with bound | ⟨key, id, entry, _, rfl⟩
    · left
      rw [IsBound, ListenerTable.contains] at bound
      split at bound
      · next socketId entry =>
        rw [← AList.mem_keys, ← AList.lookup_isSome, entry]
        rfl
      · cases bound
    · right
      refine List.mem_map_of_mem ?_
      rw [← AList.mem_keys, ← AList.lookup_isSome, entry]
      rfl
  have count := (nodup.subperm within).length_le
  rw [List.length_append, List.length_map] at count
  omega

theorem sampleCounterAtEnd_takesUnusedPort :
    Throughout step (fun stack event => ∀ addr, OpensUnbound stack event addr →
      TakesUnusedPort stack (stack.step event) addr) sampleCounterAtEnd
      [.bind ⟨0x0A000002, 8080⟩ 0, .connect 0 ⟨0x0A000003, 9090⟩ 100] := by
  refine (run_takesUnusedPort_iff _ _ ?_).mpr ?_
  · exact ⟨fun _ _ => .of_keys (by decide), fun _ _ => .of_keys (by decide), trivial⟩
  · refine ⟨?_, ?_, trivial⟩
    · rintro addr ⟨socketId, iss, other, _⟩
      cases other
    · rintro addr - port - ⟨key, id, entry, _⟩
      cases entry

/-- After the counter is set back the first port is handed out twice, and the second
connection to the same peer takes the entry of the first. -/
theorem first_port_handed_out_twice : ¬ ∀ (stack : TcpStack) (events : List StackEvent),
    Throughout step
      (fun stack event => ∀ addr, OpensUnbound stack event addr → HasFewPorts stack) stack events →
    Throughout step (fun stack event => ∀ addr, OpensUnbound stack event addr →
      TakesUnusedPort stack (stack.step event) addr) stack events := by
  intro always
  have taken := always sampleCounterAtEnd
    [.connect 0 ⟨0x0A000003, 9090⟩ 100, .connect 0 ⟨0x0A000003, 9090⟩ 200]
    ⟨fun _ _ => .of_keys (by decide), fun _ _ => .of_keys (by decide), trivial⟩
  have second := taken.2.1 ⟨0x0A000003, 9090⟩ ⟨0, 200, rfl, rfl⟩
  exact absurd second.unregistered (by decide)

end TcpStack
end TinyCP
