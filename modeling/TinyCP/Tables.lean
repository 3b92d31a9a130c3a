import TinyCP.TransmissionControlBlock
import Mathlib.Data.List.AList

/-!
# The three tables of a stack

The socket table owns the control blocks; the other two map a listening port and
a pair of addresses to a socket id and hold no blocks themselves, so an id in them
may have outlived its socket. An `unordered_map` is an association list without
duplicate keys, and id 0 stands for no socket throughout.
-/
namespace TinyCP

structure SocketTable where
  nextId : UInt64
  sockets : AList (fun _ : UInt64 => TransmissionControlBlock)

namespace SocketTable

def new : SocketTable where
  nextId := 1
  sockets := ∅

def createSocket (t : SocketTable) (state : TcpState) (src dst : IPv4Address := ⟨0, 0⟩) :
    SocketTable × UInt64 :=
  let id := t.nextId
  let tcb := { TransmissionControlBlock.new state src dst with id := id }
  ({ nextId := t.nextId + 1, sockets := t.sockets.insert id tcb }, id)

def destroySocket (t : SocketTable) (id : UInt64) : SocketTable × Bool :=
  if id = 0 then (t, false)
  else ({ t with sockets := t.sockets.erase id }, decide (id ∈ t.sockets))

def findSocket (t : SocketTable) (id : UInt64) : Option TransmissionControlBlock :=
  if id = 0 then none else t.sockets.lookup id

def contains (t : SocketTable) (id : UInt64) : Bool :=
  if id = 0 then false else (t.sockets.lookup id).isSome

/-- A write through the pointer that `find_socket` has returned for this id. -/
def setSocket (t : SocketTable) (id : UInt64) (tcb : TransmissionControlBlock) : SocketTable :=
  { t with sockets := t.sockets.insert id tcb }

theorem contains_eq_isSome (t : SocketTable) (id : UInt64) :
    t.contains id = (t.findSocket id).isSome := by
  rw [contains, findSocket]
  split_ifs <;> rfl

theorem contains_eq_false_iff {t : SocketTable} {id : UInt64} :
    t.contains id = false ↔ t.findSocket id = none := by
  rw [contains_eq_isSome, Option.isSome_eq_false_iff, Option.isNone_iff_eq_none]

theorem contains_of_findSocket {t : SocketTable} {id : UInt64} {tcb : TransmissionControlBlock}
    (found : t.findSocket id = some tcb) : t.contains id = true := by
  rw [contains_eq_isSome, found]
  rfl

theorem findSocket_eq_some_iff {t : SocketTable} {id : UInt64} {tcb : TransmissionControlBlock} :
    t.findSocket id = some tcb ↔ id ≠ 0 ∧ t.sockets.lookup id = some tcb := by
  rw [findSocket]
  by_cases none : id = 0
  · simp [none]
  · simp [none]

theorem ne_zero_of_findSocket {t : SocketTable} {id : UInt64} {tcb : TransmissionControlBlock}
    (found : t.findSocket id = some tcb) : id ≠ 0 := by
  rintro rfl
  cases found

@[simp] theorem findSocket_setSocket (t : SocketTable) {id : UInt64} (real : id ≠ 0)
    (tcb : TransmissionControlBlock) : (t.setSocket id tcb).findSocket id = some tcb := by
  rw [findSocket, if_neg real, setSocket, AList.lookup_insert]

theorem findSocket_setSocket_ne (t : SocketTable) {id other : UInt64} (differ : other ≠ id)
    (tcb : TransmissionControlBlock) :
    (t.setSocket id tcb).findSocket other = t.findSocket other := by
  rw [findSocket, findSocket, setSocket, AList.lookup_insert_ne differ]

theorem findSocket_destroySocket (t : SocketTable) (id : UInt64) :
    (t.destroySocket id).1.findSocket id = none := by
  by_cases none : id = 0
  · rw [none]
    rfl
  · rw [destroySocket, if_neg none, findSocket, if_neg none, AList.lookup_erase]

theorem findSocket_destroySocket_ne (t : SocketTable) {id other : UInt64} (differ : other ≠ id) :
    (t.destroySocket id).1.findSocket other = t.findSocket other := by
  rw [destroySocket]
  split_ifs
  · rfl
  · rw [findSocket, findSocket, AList.lookup_erase_ne differ]

theorem findSocket_createSocket (t : SocketTable) (state : TcpState) (src dst : IPv4Address)
    (real : t.nextId ≠ 0) : (t.createSocket state src dst).1.findSocket t.nextId =
      some { TransmissionControlBlock.new state src dst with id := t.nextId } := by
  rw [findSocket, if_neg real, createSocket, AList.lookup_insert]

theorem findSocket_createSocket_ne (t : SocketTable) (state : TcpState) (src dst : IPv4Address)
    {other : UInt64} (differ : other ≠ t.nextId) :
    (t.createSocket state src dst).1.findSocket other = t.findSocket other := by
  rw [findSocket, findSocket, createSocket, AList.lookup_insert_ne differ]

end SocketTable

/-- Both routing tables return an id only while its socket is there. -/
theorem liveId_eq_iff {sockets : SocketTable} {socketId id : UInt64} (real : id ≠ 0) :
    (if sockets.contains socketId then socketId else 0) = id ↔
      some socketId = some id ∧ sockets.contains id = true := by
  by_cases live : sockets.contains socketId = true
  · simp only [live, if_true, Option.some.injEq]
    constructor
    · rintro rfl
      exact ⟨rfl, live⟩
    · rintro ⟨rfl, _⟩
      rfl
  · simp only [live, Bool.false_eq_true, if_false, Option.some.injEq]
    constructor
    · intro zero
      exact absurd zero.symm real
    · rintro ⟨rfl, alive⟩
      exact absurd alive live

structure ListenerTable where
  listeners : AList (fun _ : UInt16 => UInt64)

namespace ListenerTable

def new : ListenerTable where
  listeners := ∅

def bind (t : ListenerTable) (port : UInt16) (socketId : UInt64) : ListenerTable :=
  { listeners := t.listeners.insert port socketId }

def bindNew (t : ListenerTable) (sockets : SocketTable) (addr : IPv4Address) :
    ListenerTable × SocketTable × UInt64 :=
  let (sockets, socketId) := sockets.createSocket .closed addr
  (t.bind addr.port socketId, sockets, socketId)

def find (t : ListenerTable) (sockets : SocketTable) (port : UInt16) : UInt64 :=
  match t.listeners.lookup port with
  | some socketId => if sockets.contains socketId then socketId else 0
  | none => 0

def unbind (t : ListenerTable) (sockets : SocketTable) (port : UInt16) :
    ListenerTable × SocketTable × Bool :=
  match t.listeners.lookup port with
  | some socketId =>
    let (sockets, destroyed) := sockets.destroySocket socketId
    ({ listeners := t.listeners.erase port }, sockets, destroyed)
  | none => (t, sockets, false)

def contains (t : ListenerTable) (sockets : SocketTable) (port : UInt16) : Bool :=
  match t.listeners.lookup port with
  | some socketId => sockets.contains socketId
  | none => false

/-- A listener is found where its entry leads to a socket that is still there. -/
theorem find_eq_iff {t : ListenerTable} {sockets : SocketTable} {port : UInt16} {id : UInt64}
    (real : id ≠ 0) : t.find sockets port = id ↔
      t.listeners.lookup port = some id ∧ sockets.contains id = true := by
  rw [find]
  cases t.listeners.lookup port with
  | none => simp [real.symm]
  | some socketId => exact liveId_eq_iff real

theorem contains_iff (t : ListenerTable) (sockets : SocketTable) (port : UInt16) :
    t.contains sockets port = true ↔ t.find sockets port ≠ 0 := by
  rw [contains, find]
  cases t.listeners.lookup port with
  | none => simp
  | some socketId =>
    by_cases live : sockets.contains socketId = true
    · have real : socketId ≠ 0 := by
        rintro rfl
        cases live
      simp [live, real]
    · simp [live]

theorem find_ne_of_unlisted {t : ListenerTable} {port : UInt16} {id : UInt64} (real : id ≠ 0)
    (unlisted : t.listeners.lookup port ≠ some id) (sockets : SocketTable) :
    t.find sockets port ≠ id :=
  fun found => unlisted ((find_eq_iff real).mp found).1

end ListenerTable

/-- The peer's address first: `srcAddress` is remote, `dstAddress` is local. -/
structure ConnectionKey where
  srcAddress : IPv4Address
  dstAddress : IPv4Address
  deriving DecidableEq

structure ConnectionTable where
  connections : AList (fun _ : ConnectionKey => UInt64)

namespace ConnectionTable

def new : ConnectionTable where
  connections := ∅

def insert (t : ConnectionTable) (remoteAddr localAddr : IPv4Address) (socketId : UInt64) :
    ConnectionTable :=
  { connections := t.connections.insert ⟨remoteAddr, localAddr⟩ socketId }

def registerConnection (t : ConnectionTable) (sockets : SocketTable)
    (localAddr remoteAddr : IPv4Address) (socketId : UInt64) :
    ConnectionTable × SocketTable × UInt64 :=
  let (sockets, socketId) :=
    match sockets.findSocket socketId with
    | none => sockets.createSocket .closed localAddr remoteAddr
    | some tcb => (sockets.setSocket socketId
        { tcb with srcAddress := localAddr, dstAddress := remoteAddr }, socketId)
  (t.insert remoteAddr localAddr socketId, sockets, socketId)

def find (t : ConnectionTable) (sockets : SocketTable) (remoteAddr localAddr : IPv4Address) :
    UInt64 :=
  match t.connections.lookup ⟨remoteAddr, localAddr⟩ with
  | some socketId => if sockets.contains socketId then socketId else 0
  | none => 0

def erase (t : ConnectionTable) (remoteAddr localAddr : IPv4Address) : ConnectionTable × Bool :=
  ({ connections := t.connections.erase ⟨remoteAddr, localAddr⟩ },
    decide (⟨remoteAddr, localAddr⟩ ∈ t.connections))

def destroyConnection (t : ConnectionTable) (sockets : SocketTable)
    (remoteAddr localAddr : IPv4Address) : ConnectionTable × SocketTable × Bool :=
  match t.connections.lookup ⟨remoteAddr, localAddr⟩ with
  | some socketId =>
    let (sockets, destroyed) := sockets.destroySocket socketId
    ((t.erase remoteAddr localAddr).1, sockets, destroyed)
  | none => (t, sockets, false)

/-- A connection is found where its entry leads to a socket that is still there. -/
theorem find_eq_iff {t : ConnectionTable} {sockets : SocketTable}
    {remoteAddr localAddr : IPv4Address} {id : UInt64} (real : id ≠ 0) :
    t.find sockets remoteAddr localAddr = id ↔
      t.connections.lookup ⟨remoteAddr, localAddr⟩ = some id ∧ sockets.contains id = true := by
  rw [find]
  cases t.connections.lookup ⟨remoteAddr, localAddr⟩ with
  | none => simp [real.symm]
  | some socketId => exact liveId_eq_iff real

end ConnectionTable
end TinyCP
