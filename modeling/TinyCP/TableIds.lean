import TinyCP.Tables
import TinyCP.EventRun

/-!
# Ids across the three tables

The three tables under every sequence of their own operations. Beside the tables the
state keeps a history: the ids that `create_socket` has returned, the ids whose socket
has been destroyed, and the id last bound to each port and last registered for each
pair of addresses. An id that outlives its socket in a routing table is harmless
because the counter does not return to it.
-/
namespace TinyCP
open EventRun

structure TrackedTables where
  socketTable : SocketTable
  listenerTable : ListenerTable
  connectionTable : ConnectionTable
  created : List UInt64
  destroyed : List UInt64
  lastBound : UInt16 → Option UInt64
  lastRegistered : ConnectionKey → Option UInt64

inductive TableCall where
  | createSocket (state : TcpState) (src dst : IPv4Address)
  | destroySocket (id : UInt64)
  | bind (port : UInt16) (socketId : UInt64)
  | bindNew (addr : IPv4Address)
  | unbind (port : UInt16)
  | insert (remoteAddr localAddr : IPv4Address) (socketId : UInt64)
  | registerConnection (localAddr remoteAddr : IPv4Address) (socketId : UInt64)
  | erase (remoteAddr localAddr : IPv4Address)
  | destroyConnection (remoteAddr localAddr : IPv4Address)

namespace TrackedTables

def new : TrackedTables where
  socketTable := .new
  listenerTable := .new
  connectionTable := .new
  created := []
  destroyed := []
  lastBound := fun _ => none
  lastRegistered := fun _ => none

/-- The history of destroyed ids, when a call that destroys `id` has returned `done`. -/
def destroyedWith (t : TrackedTables) (id : UInt64) (done : Bool) : List UInt64 :=
  if done then t.destroyed ++ [id] else t.destroyed

def step (t : TrackedTables) : TableCall → TrackedTables
  | .createSocket state src dst =>
    let (sockets, id) := t.socketTable.createSocket state src dst
    { t with socketTable := sockets, created := t.created ++ [id] }
  | .destroySocket id =>
    let (sockets, done) := t.socketTable.destroySocket id
    { t with socketTable := sockets, destroyed := t.destroyedWith id done }
  | .bind port socketId =>
    { t with
      listenerTable := t.listenerTable.bind port socketId
      lastBound := Function.update t.lastBound port (some socketId) }
  | .bindNew addr =>
    let (listeners, sockets, id) := t.listenerTable.bindNew t.socketTable addr
    { t with
      listenerTable := listeners
      socketTable := sockets
      created := t.created ++ [id]
      lastBound := Function.update t.lastBound addr.port (some id) }
  | .unbind port =>
    let (listeners, sockets, done) := t.listenerTable.unbind t.socketTable port
    { t with
      listenerTable := listeners
      socketTable := sockets
      destroyed := t.destroyedWith ((t.listenerTable.listeners.lookup port).getD 0) done }
  | .insert remoteAddr localAddr socketId =>
    { t with
      connectionTable := t.connectionTable.insert remoteAddr localAddr socketId
      lastRegistered := Function.update t.lastRegistered ⟨remoteAddr, localAddr⟩ (some socketId) }
  | .registerConnection localAddr remoteAddr socketId =>
    let (connections, sockets, id) :=
      t.connectionTable.registerConnection t.socketTable localAddr remoteAddr socketId
    { t with
      connectionTable := connections
      socketTable := sockets
      created := if t.socketTable.contains socketId then t.created else t.created ++ [id]
      lastRegistered := Function.update t.lastRegistered ⟨remoteAddr, localAddr⟩ (some id) }
  | .erase remoteAddr localAddr =>
    { t with connectionTable := (t.connectionTable.erase remoteAddr localAddr).1 }
  | .destroyConnection remoteAddr localAddr =>
    let (connections, sockets, done) :=
      t.connectionTable.destroyConnection t.socketTable remoteAddr localAddr
    { t with
      connectionTable := connections
      socketTable := sockets
      destroyed := t.destroyedWith
        ((t.connectionTable.connections.lookup ⟨remoteAddr, localAddr⟩).getD 0) done }

/-- Ids are handed out in order from 1, a socket in the table carries its own key and
has not been destroyed, and an entry is the last one made for its key. -/
structure Sound (t : TrackedTables) : Prop where
  created_eq : t.created = (List.range t.created.length).map fun i => UInt64.ofNat (i + 1)
  nextId_eq : t.socketTable.nextId = UInt64.ofNat (t.created.length + 1)
  destroyed_subset : ∀ id ∈ t.destroyed, id ∈ t.created
  sockets : ∀ id tcb, t.socketTable.sockets.lookup id = some tcb →
    tcb.id = id ∧ id ∈ t.created ∧ id ∉ t.destroyed
  listeners : ∀ port id, t.listenerTable.listeners.lookup port = some id →
    t.lastBound port = some id
  connections : ∀ key id, t.connectionTable.connections.lookup key = some id →
    t.lastRegistered key = some id

namespace Sound
variable {t : TrackedTables}

theorem mem_created_iff (h : Sound t) {id : UInt64} :
    id ∈ t.created ↔ ∃ i, i < t.created.length ∧ UInt64.ofNat (i + 1) = id := by
  rw [h.created_eq, List.mem_map, List.length_map, List.length_range]
  simp only [List.mem_range]

/-- Distinct small counts give distinct ids, and none of them is 0. -/
theorem ofNat_inj {m n : Nat} (hm : m < 2 ^ 64) (hn : n < 2 ^ 64)
    (same : UInt64.ofNat m = UInt64.ofNat n) : m = n := by
  have numbers := congrArg UInt64.toNat same
  rwa [UInt64.toNat_ofNat', UInt64.toNat_ofNat', Nat.mod_eq_of_lt hm, Nat.mod_eq_of_lt hn] at numbers

theorem nextId_fresh (h : Sound t) (few : t.created.length + 1 < 2 ^ 64) :
    t.socketTable.nextId ∉ t.created := by
  rw [h.mem_created_iff, h.nextId_eq]
  rintro ⟨i, hi, same⟩
  have := ofNat_inj (by omega) few same
  omega

theorem created_ne_zero (h : Sound t) (few : t.created.length < 2 ^ 64 - 1) :
    ∀ id ∈ t.created, id ≠ 0 := by
  intro id hmem zero
  obtain ⟨i, hi, same⟩ := h.mem_created_iff.mp hmem
  rw [zero] at same
  have number : i + 1 = 0 := ofNat_inj (by omega) (by omega) same
  omega

theorem created_nodup (h : Sound t) (few : t.created.length < 2 ^ 64 - 1) : t.created.Nodup := by
  rw [h.created_eq]
  refine List.Nodup.map_on ?_ List.nodup_range
  intro i hi j hj same
  rw [List.mem_range] at hi hj
  have := ofNat_inj (by omega) (by omega) same
  omega

end Sound

/-- The effect of `create_socket` on the tables and the history. -/
def withSocket (t : TrackedTables) (state : TcpState) (src dst : IPv4Address) : TrackedTables :=
  { t with
    socketTable := (t.socketTable.createSocket state src dst).1
    created := t.created ++ [t.socketTable.nextId] }

/-- The effect of `destroy_socket` on the tables and the history. -/
def withoutSocket (t : TrackedTables) (id : UInt64) : TrackedTables :=
  { t with
    socketTable := (t.socketTable.destroySocket id).1
    destroyed := t.destroyedWith id (t.socketTable.destroySocket id).2 }

namespace Sound
variable {t : TrackedTables}

theorem withSocket (h : Sound t) (few : t.created.length + 1 < 2 ^ 64) (state : TcpState)
    (src dst : IPv4Address) : Sound (t.withSocket state src dst) where
  created_eq := by
    change t.created ++ [t.socketTable.nextId] = _
    rw [TrackedTables.withSocket, List.length_append, List.length_singleton, List.range_succ,
      List.map_append, ← h.created_eq, h.nextId_eq]
    rfl
  nextId_eq := by
    change t.socketTable.nextId + 1 = _
    rw [TrackedTables.withSocket, List.length_append, List.length_singleton, h.nextId_eq,
      UInt64.ofNat_add (t.created.length + 1)]
    rfl
  destroyed_subset := fun id gone => List.mem_append_left _ (h.destroyed_subset id gone)
  sockets := by
    intro id tcb found
    rw [TrackedTables.withSocket, SocketTable.createSocket] at found
    by_cases same : id = t.socketTable.nextId
    · rw [same, AList.lookup_insert, Option.some.injEq] at found
      have fresh := h.nextId_fresh few
      rw [same, ← found]
      exact ⟨rfl, List.mem_append_right _ List.mem_cons_self,
        fun gone => fresh (h.destroyed_subset _ gone)⟩
    · rw [AList.lookup_insert_ne same] at found
      obtain ⟨own, made, kept⟩ := h.sockets id tcb found
      exact ⟨own, List.mem_append_left _ made, kept⟩
  listeners := h.listeners
  connections := h.connections

theorem withoutSocket (h : Sound t) (id : UInt64) : Sound (t.withoutSocket id) := by
  by_cases none : id = 0
  · rw [TrackedTables.withoutSocket, SocketTable.destroySocket, if_pos none]
    exact h
  have after : (t.socketTable.destroySocket id).1.sockets = t.socketTable.sockets.erase id := by
    rw [SocketTable.destroySocket, if_neg none]
  have before : ∀ other tcb, (t.socketTable.sockets.erase id).lookup other = some tcb →
      other ≠ id ∧ t.socketTable.sockets.lookup other = some tcb := by
    intro other tcb found
    by_cases same : other = id
    · rw [same, AList.lookup_erase] at found
      cases found
    · rw [AList.lookup_erase_ne same] at found
      exact ⟨same, found⟩
  have gone : ∀ other, other ∈ (t.withoutSocket id).destroyed →
      other ∈ t.destroyed ∨ other = id ∧ id ∈ t.socketTable.sockets := by
    intro other hmem
    rw [TrackedTables.withoutSocket, destroyedWith, SocketTable.destroySocket, if_neg none] at hmem
    split_ifs at hmem with there
    · rw [List.mem_append, List.mem_singleton] at hmem
      exact hmem.imp_right fun same => ⟨same, of_decide_eq_true there⟩
    · exact Or.inl hmem
  refine ⟨h.created_eq, ?_, ?_, ?_, h.listeners, h.connections⟩
  · rw [TrackedTables.withoutSocket, SocketTable.destroySocket, if_neg none]
    exact h.nextId_eq
  · intro other hmem
    rcases gone other hmem with old | ⟨same, there⟩
    · exact h.destroyed_subset other old
    · obtain ⟨tcb, found⟩ := Option.isSome_iff_exists.mp (AList.lookup_isSome.mpr there)
      rw [same]
      exact (h.sockets id tcb found).2.1
  · intro other tcb found
    rw [TrackedTables.withoutSocket, after] at found
    obtain ⟨differ, old⟩ := before other tcb found
    obtain ⟨own, made, kept⟩ := h.sockets other tcb old
    refine ⟨own, made, fun hmem => ?_⟩
    rcases gone other hmem with still | ⟨same, _⟩
    · exact kept still
    · exact differ same

theorem withListeners (h : Sound t) {listeners : ListenerTable}
    {lastBound : UInt16 → Option UInt64}
    (entries : ∀ port id, listeners.listeners.lookup port = some id → lastBound port = some id) :
    Sound { t with listenerTable := listeners, lastBound := lastBound } :=
  ⟨h.created_eq, h.nextId_eq, h.destroyed_subset, h.sockets, entries, h.connections⟩

theorem withConnections (h : Sound t) {connections : ConnectionTable}
    {lastRegistered : ConnectionKey → Option UInt64}
    (entries : ∀ key id, connections.connections.lookup key = some id →
      lastRegistered key = some id) :
    Sound { t with connectionTable := connections, lastRegistered := lastRegistered } :=
  ⟨h.created_eq, h.nextId_eq, h.destroyed_subset, h.sockets, h.listeners, entries⟩

/-- Rewriting the addresses of a block leaves its id. -/
theorem withTcb (h : Sound t) {id : UInt64} {tcb : TransmissionControlBlock}
    (found : t.socketTable.sockets.lookup id = some tcb) (after : TransmissionControlBlock)
    (same : after.id = tcb.id) :
    Sound { t with socketTable := t.socketTable.setSocket id after } := by
  refine ⟨h.created_eq, h.nextId_eq, h.destroyed_subset, ?_, h.listeners, h.connections⟩
  intro other block bound
  rw [SocketTable.setSocket] at bound
  by_cases own : other = id
  · rw [own, AList.lookup_insert, Option.some.injEq] at bound
    rw [own, ← bound, same]
    exact h.sockets id tcb found
  · rw [AList.lookup_insert_ne own] at bound
    exact h.sockets other block bound

end Sound

section Entries
universe u v
variable {α : Type u} [DecidableEq α] {β : Type v} {entries : AList fun _ : α => β}
variable {latest : α → Option β}

/-- A new entry is the last one made for its key. -/
theorem latest_insert (agree : ∀ key value, entries.lookup key = some value →
    latest key = some value) (key : α) (value : β) (other : α) (found : β)
    (entry : (entries.insert key value).lookup other = some found) :
    Function.update latest key (some value) other = some found := by
  by_cases same : other = key
  · rw [same, AList.lookup_insert] at entry
    rw [same, Function.update_self, entry]
  · rw [AList.lookup_insert_ne same] at entry
    rw [Function.update_of_ne same]
    exact agree other found entry

theorem latest_erase (agree : ∀ key value, entries.lookup key = some value →
    latest key = some value) (key other : α) (found : β)
    (entry : (entries.erase key).lookup other = some found) : latest other = some found := by
  by_cases same : other = key
  · rw [same, AList.lookup_erase] at entry
    cases entry
  · rw [AList.lookup_erase_ne same] at entry
    exact agree other found entry

end Entries

theorem created_length_le (t : TrackedTables) (call : TableCall) :
    t.created.length ≤ (t.step call).created.length := by
  cases call with
  | createSocket state src dst => simp [step]
  | bindNew addr => simp [step]
  | registerConnection localAddr remoteAddr socketId =>
    simp only [step]
    split_ifs <;> simp
  | _ => exact Nat.le_refl _

/-- What each of the nine operations preserves, as long as the counter has not wrapped. -/
theorem step_sound {t : TrackedTables} (h : Sound t) (call : TableCall)
    (few : (t.step call).created.length < 2 ^ 64 - 1) : Sound (t.step call) := by
  cases call with
  | createSocket state src dst =>
    rw [step, List.length_append] at few
    exact h.withSocket (by simp only [List.length_singleton] at few; omega) state src dst
  | destroySocket id => exact h.withoutSocket id
  | bind port socketId =>
    exact h.withListeners (latest_insert h.listeners port socketId)
  | bindNew addr =>
    rw [step, List.length_append] at few
    have created := h.withSocket (by simp only [List.length_singleton] at few; omega)
      .closed addr ⟨0, 0⟩
    exact created.withListeners (latest_insert h.listeners addr.port t.socketTable.nextId)
  | unbind port =>
    cases entry : t.listenerTable.listeners.lookup port with
    | none =>
      simp only [step, ListenerTable.unbind, entry, destroyedWith, Bool.false_eq_true, if_false]
      exact h
    | some id =>
      simp only [step, ListenerTable.unbind, entry, Option.getD_some]
      exact (h.withoutSocket id).withListeners (latest_erase h.listeners port)
  | insert remoteAddr localAddr socketId =>
    exact h.withConnections (latest_insert h.connections ⟨remoteAddr, localAddr⟩ socketId)
  | registerConnection localAddr remoteAddr socketId =>
    cases found : t.socketTable.findSocket socketId with
    | none =>
      have absent := SocketTable.contains_eq_false_iff.mpr found
      simp only [step, ConnectionTable.registerConnection, found, absent, Bool.false_eq_true,
        if_false] at few ⊢
      rw [List.length_append, List.length_singleton] at few
      have created := h.withSocket (by omega) .closed localAddr remoteAddr
      exact created.withConnections
        (latest_insert h.connections ⟨remoteAddr, localAddr⟩ t.socketTable.nextId)
    | some tcb =>
      have there := SocketTable.contains_of_findSocket found
      simp only [step, ConnectionTable.registerConnection, found, there, if_true]
      have rewritten := h.withTcb (SocketTable.findSocket_eq_some_iff.mp found).2
        { tcb with srcAddress := localAddr, dstAddress := remoteAddr } rfl
      exact rewritten.withConnections
        (latest_insert h.connections ⟨remoteAddr, localAddr⟩ socketId)
  | erase remoteAddr localAddr =>
    exact h.withConnections (latest_erase h.connections ⟨remoteAddr, localAddr⟩)
  | destroyConnection remoteAddr localAddr =>
    cases entry : t.connectionTable.connections.lookup ⟨remoteAddr, localAddr⟩ with
    | none =>
      simp only [step, ConnectionTable.destroyConnection, entry, destroyedWith,
        Bool.false_eq_true, if_false]
      exact h
    | some id =>
      simp only [step, ConnectionTable.destroyConnection, entry, Option.getD_some]
      exact (h.withoutSocket id).withConnections
        (latest_erase h.connections ⟨remoteAddr, localAddr⟩)

theorem new_sound : Sound new where
  created_eq := rfl
  nextId_eq := rfl
  destroyed_subset := fun _ gone => absurd gone List.not_mem_nil
  sockets := fun id tcb found => absurd found (by rw [new, SocketTable.new, AList.lookup_empty]; simp)
  listeners := fun port id entry =>
    absurd entry (by rw [new, ListenerTable.new, AList.lookup_empty]; simp)
  connections := fun key id entry =>
    absurd entry (by rw [new, ConnectionTable.new, AList.lookup_empty]; simp)

/-- The number of creations only grows, so a run with few of them had few all along. -/
theorem run_sound (calls : List TableCall)
    (few : (run step new calls).created.length < 2 ^ 64 - 1) : Sound (run step new calls) := by
  have preserve : ∀ t call, True → (t.created.length < 2 ^ 64 - 1 → Sound t) →
      ((t.step call).created.length < 2 ^ 64 - 1 → Sound (t.step call)) :=
    fun t call _ before few =>
      step_sound (before (Nat.lt_of_le_of_lt (t.created_length_le call) few)) call few
  exact run_invariant preserve (fun _ => new_sound) calls (fun _ _ => trivial) few

theorem find_bound {t : TrackedTables} (h : Sound t) {port : UInt16} {id : UInt64}
    (found : t.listenerTable.find t.socketTable port = id) (real : id ≠ 0) :
    t.socketTable.contains id = true ∧ t.lastBound port = some id := by
  obtain ⟨entry, live⟩ := (ListenerTable.find_eq_iff real).mp found
  exact ⟨live, h.listeners port id entry⟩

theorem find_registered {t : TrackedTables} (h : Sound t) {remoteAddr localAddr : IPv4Address}
    {id : UInt64} (found : t.connectionTable.find t.socketTable remoteAddr localAddr = id)
    (real : id ≠ 0) :
    t.socketTable.contains id = true ∧ t.lastRegistered ⟨remoteAddr, localAddr⟩ = some id := by
  obtain ⟨entry, live⟩ := (ConnectionTable.find_eq_iff real).mp found
  exact ⟨live, h.connections _ id entry⟩

theorem not_contains_destroyed {t : TrackedTables} (h : Sound t) {id : UInt64}
    (gone : id ∈ t.destroyed) : t.socketTable.contains id = false := by
  rw [SocketTable.contains_eq_false_iff]
  cases found : t.socketTable.findSocket id with
  | none => rfl
  | some tcb =>
    obtain ⟨_, entry⟩ := SocketTable.findSocket_eq_some_iff.mp found
    exact absurd gone (h.sockets id tcb entry).2.2

end TrackedTables

/-- Over every sequence of the nine operations with fewer than `2 ^ 64 - 1` creations,
ids are nonzero and distinct, blocks carry their key, both lookups return only live ids
that were the last entered for their key, and no lookup returns a destroyed id. -/
theorem ids_not_confused (calls : List TableCall)
    (few : (run TrackedTables.step .new calls).created.length < 2 ^ 64 - 1) :
    let t := run TrackedTables.step .new calls
    (∀ id ∈ t.created, id ≠ 0) ∧ t.created.Nodup ∧
    (∀ id tcb, t.socketTable.sockets.lookup id = some tcb → tcb.id = id) ∧
    (∀ port id, t.listenerTable.find t.socketTable port = id → id ≠ 0 →
      t.socketTable.contains id = true ∧ t.lastBound port = some id) ∧
    (∀ remoteAddr localAddr id, t.connectionTable.find t.socketTable remoteAddr localAddr = id →
      id ≠ 0 → t.socketTable.contains id = true ∧
        t.lastRegistered ⟨remoteAddr, localAddr⟩ = some id) ∧
    ∀ id ∈ t.destroyed, (∀ port, t.listenerTable.find t.socketTable port ≠ id) ∧
      ∀ remoteAddr localAddr,
        t.connectionTable.find t.socketTable remoteAddr localAddr ≠ id := by
  intro t
  have h : TrackedTables.Sound t := TrackedTables.run_sound calls few
  refine ⟨h.created_ne_zero few, h.created_nodup few, fun id tcb found => (h.sockets id tcb found).1,
    fun port id => TrackedTables.find_bound h, fun remoteAddr localAddr id =>
    TrackedTables.find_registered h, ?_⟩
  intro id gone
  have real : id ≠ 0 := h.created_ne_zero few id (h.destroyed_subset id gone)
  have dead := TrackedTables.not_contains_destroyed h gone
  constructor
  · intro port found
    rw [(TrackedTables.find_bound h found real).1] at dead
    cases dead
  · intro remoteAddr localAddr found
    rw [(TrackedTables.find_registered h found real).1] at dead
    cases dead

/-- Socket 1 is destroyed while a port and a connection still lead to it. -/
theorem ids_not_confused_stale :
    let t := run TrackedTables.step .new [.bindNew ⟨0x0A000002, 80⟩,
      .insert ⟨0x0A000003, 9090⟩ ⟨0x0A000002, 80⟩ 1, .destroySocket 1,
      .createSocket .closed ⟨0, 0⟩ ⟨0, 0⟩]
    t.destroyed = [1] ∧ t.listenerTable.listeners.lookup 80 = some 1 ∧
      t.listenerTable.find t.socketTable 80 ≠ 1 := by
  refine ⟨by decide, by decide, ?_⟩
  exact ((ids_not_confused _ (by decide)).2.2.2.2.2 1 (by decide)).1 80

end TinyCP
