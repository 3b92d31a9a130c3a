import TinyCP.HandlerSpecs
import TinyCP.StackSpecs
import TinyCP.Chunks

/-!
# Draining the queue of dirty ids

What a connection may send at a given moment is cut into segments of 1460 bytes, and
each visit of `process_block_` sends one more of them and queues the connection again
while some are left. Visits to other connections do not matter, so what is sent does
not depend on the order of the queue or on how often an id stands in it, and the queue
is empty after as many rounds as the longest cut has segments.
-/
namespace TinyCP
open SequenceSpace EventRun Chunks

namespace TransmissionControlBlock

/-- `min(L, W)`, the end of what the buffer and the peer's window permit to send. -/
def sendLimit (tcb : TransmissionControlBlock) : Nat :=
  min tcb.sendBuffer.size tcb.snd.wnd.toNat

/-- The bytes from the first one not in flight to the limit. -/
def sendableBytes (tcb : TransmissionControlBlock) : List UInt8 :=
  (tcb.sendBuffer.contents.take tcb.sendLimit).drop tcb.inFlight.toNat

def segmentAt (tcb : TransmissionControlBlock) (i : Nat) : Segment :=
  tcb.createWriterTcpPacket (chunk 1460 tcb.sendableBytes i) (seqAt tcb.snd.nxt (1460 * i))

/-- The segments that the sendable bytes are cut into. -/
def pendingSegments (tcb : TransmissionControlBlock) : List Segment :=
  (List.range (chunkCount 1460 tcb.sendableBytes.length)).map tcb.segmentAt

theorem sendLimit_le (tcb : TransmissionControlBlock) : tcb.sendLimit ≤ 65535 :=
  Nat.le_trans (Nat.min_le_left _ _) tcb.sendSize_le

theorem length_sendableBytes (tcb : TransmissionControlBlock) :
    tcb.sendableBytes.length = tcb.sendLimit - tcb.inFlight.toNat := by
  rw [sendableBytes, List.length_drop, List.length_take, BlockingBuffer.length_contents,
    sendLimit]
  omega

/-- Each segment begins where the one before it ends. -/
def ConsecutiveFrom : UInt32 → List Segment → Prop
  | _, [] => True
  | seqNum, packet :: rest => packet.seqNum = seqNum ∧
      ConsecutiveFrom (seqNum + UInt32.ofNat packet.payload.length) rest

theorem length_pendingSegments (tcb : TransmissionControlBlock) :
    tcb.pendingSegments.length = chunkCount 1460 tcb.sendableBytes.length := by
  rw [pendingSegments, List.length_map, List.length_range]

theorem getElem_pendingSegments (tcb : TransmissionControlBlock) {i : Nat}
    (within : i < tcb.pendingSegments.length) : tcb.pendingSegments[i] = tcb.segmentAt i := by
  simp only [pendingSegments, List.getElem_map, List.getElem_range]

/-- The segments from one of them on, all but the last of which are full. -/
theorem consecutive_segments (tcb : TransmissionControlBlock) (n : Nat) {i : Nat}
    (within : i + n ≤ chunkCount 1460 tcb.sendableBytes.length) :
    ConsecutiveFrom (seqAt tcb.snd.nxt (1460 * i)) ((List.range' i n).map tcb.segmentAt) := by
  induction n generalizing i with
  | zero => trivial
  | succ n ih =>
    rw [List.range'_succ, List.map_cons]
    refine ⟨rfl, ?_⟩
    cases n with
    | zero => trivial
    | succ n =>
      have full : (tcb.segmentAt i).payload.length = 1460 :=
        length_chunk_of_succ_lt (by decide) (by omega)
      rw [full, seqAt_add, ← Nat.mul_succ]
      exact ih (by omega)

theorem pendingSegments_consecutive (tcb : TransmissionControlBlock) :
    ConsecutiveFrom tcb.snd.nxt tcb.pendingSegments := by
  have all := tcb.consecutive_segments (chunkCount 1460 tcb.sendableBytes.length)
    (Nat.le_of_eq (Nat.zero_add _))
  rwa [Nat.mul_zero, seqAt_zero, ← List.range_eq_range'] at all

theorem pendingSegments_full {tcb : TransmissionControlBlock} {packet : Segment}
    (member : packet ∈ tcb.pendingSegments.dropLast) : packet.payload.length = 1460 := by
  rw [List.dropLast_eq_take] at member
  obtain ⟨i, within, rfl⟩ := List.mem_take_iff_getElem.mp member
  have length := tcb.length_pendingSegments
  rw [getElem_pendingSegments]
  exact length_chunk_of_succ_lt (by decide) (by omega)

theorem pendingSegments_size {tcb : TransmissionControlBlock} {packet : Segment}
    (member : packet ∈ tcb.pendingSegments) :
    0 < packet.payload.length ∧ packet.payload.length ≤ 1460 := by
  obtain ⟨i, within, rfl⟩ := List.mem_map.mp member
  refine ⟨length_chunk_pos (by decide) (List.mem_range.mp within), ?_⟩
  change (chunk 1460 tcb.sendableBytes i).length ≤ 1460
  rw [length_chunk]
  exact Nat.min_le_left _ _

theorem pendingSegments_flatten (tcb : TransmissionControlBlock) :
    (tcb.pendingSegments.map Segment.payload).flatten = tcb.sendableBytes := by
  rw [pendingSegments, List.map_map]
  exact flatten_chunks (by decide) tcb.sendableBytes

/-- The block after the first `visits` segments, whenever the last one was sent. -/
def Visited (tcb : TransmissionControlBlock) (visits : Nat) (after : TransmissionControlBlock) :
    Prop :=
  after = { tcb with
    lastWritten := after.lastWritten
    snd.nxt := seqAt tcb.snd.nxt (min (1460 * visits) tcb.sendableBytes.length) }

namespace Visited
variable {tcb after : TransmissionControlBlock} {visits : Nat}

theorem refl (tcb : TransmissionControlBlock) : Visited tcb 0 tcb := by
  rw [Visited, Nat.mul_zero, Nat.zero_min, seqAt_zero]

theorem inFlight_eq (h : Visited tcb visits after) : after.inFlight.toNat =
    tcb.inFlight.toNat + min (1460 * visits) tcb.sendableBytes.length := by
  have bound := tcb.sendLimit_le
  have length := tcb.length_sendableBytes
  have flight := tcb.inFlight.toNat_lt
  have near : tcb.inFlight.toNat + min (1460 * visits) tcb.sendableBytes.length < 2 ^ 32 := by
    omega
  rw [h]
  exact distance_extend tcb.snd.una tcb.snd.nxt near

theorem nextData_eq (h : Visited tcb visits after) :
    after.nextData = chunk 1460 tcb.sendableBytes visits := by
  have length := tcb.length_sendableBytes
  have buffer : after.sendBuffer = tcb.sendBuffer := by rw [h]
  have window : after.snd.wnd = tcb.snd.wnd := by rw [h]
  rw [nextData, h.inFlight_eq, buffer, window, chunk]
  rcases Nat.lt_or_ge (1460 * visits) tcb.sendableBytes.length with some | none
  · rw [Nat.min_eq_left (Nat.le_of_lt some), sendableBytes, List.drop_drop, List.drop_take,
      List.take_take, List.take_eq_take_iff, List.length_drop, BlockingBuffer.length_contents]
    rw [length] at some
    rw [sendLimit] at some ⊢
    omega
  · rw [List.drop_of_length_le none, List.take_nil, ← List.length_eq_zero_iff, List.length_take,
      List.length_drop, BlockingBuffer.length_contents]
    rw [length, sendLimit] at none ⊢
    omega

theorem hasUnsentInWindow_eq (h : Visited tcb visits after) :
    after.hasUnsentInWindow = decide (1460 * visits < tcb.sendableBytes.length) := by
  have length := tcb.length_sendableBytes
  have buffer : after.sendBuffer = tcb.sendBuffer := by rw [h]
  have window : after.snd.wnd = tcb.snd.wnd := by rw [h]
  rw [Bool.eq_iff_iff, hasUnsentInWindow_iff, h.inFlight_eq, buffer, window, decide_eq_true_iff,
    length, sendLimit]
  omega

theorem createWriterTcpPacket_eq (h : Visited tcb visits after) (data : List UInt8)
    (seqNum : UInt32) :
    after.createWriterTcpPacket data seqNum = tcb.createWriterTcpPacket data seqNum := by
  rw [h]
  rfl

theorem transmitted (h : Visited tcb visits after) (now : Int) :
    Visited tcb (visits + 1) (after.transmitted now) := by
  have next : after.snd.nxt = seqAt tcb.snd.nxt (min (1460 * visits) tcb.sendableBytes.length) := by
    rw [h]
  have advanced : after.snd.nxt + UInt32.ofNat after.nextData.length =
      seqAt tcb.snd.nxt (min (1460 * (visits + 1)) tcb.sendableBytes.length) := by
    rw [next, seqAt_add, h.nextData_eq, length_chunk]
    congr 1
    omega
  rw [Visited, TransmissionControlBlock.transmitted, advanced, h]

/-- One more visit. -/
theorem processBlock (h : Visited tcb visits after)
    (sends : TransmitsData tcb.currentState = true) (now : Int) :
    Visited tcb (visits + 1) (after.processBlock now).tcb ∧
    (after.processBlock now).out = (tcb.pendingSegments.drop visits).take 1 ∧
    (after.processBlock now).dirty =
      decide (1460 * (visits + 1) < tcb.sendableBytes.length) := by
  have state : TransmitsData after.currentState = true := by rwa [h]
  have visited := h.transmitted now
  rw [processBlock_of_transmits state]
  rcases Nat.lt_or_ge (1460 * visits) tcb.sendableBytes.length with some | none
  · have within := (lt_chunkCount_iff (by decide : 0 < 1460) _ _).mpr some
    have data : after.nextData ≠ [] := by
      rw [h.nextData_eq, ← List.length_pos_iff]
      exact length_chunk_pos (by decide) within
    rw [if_neg data]
    refine ⟨visited, ?_, visited.hasUnsentInWindow_eq⟩
    have next : after.snd.nxt = seqAt tcb.snd.nxt (1460 * visits) := by
      rw [h, Nat.min_eq_left (Nat.le_of_lt some)]
    have here : visits < (List.range (chunkCount 1460 tcb.sendableBytes.length)).length := by
      rwa [List.length_range]
    rw [pendingSegments, ← List.map_drop, ← List.map_take, List.drop_eq_getElem_cons here,
      List.getElem_range, h.createWriterTcpPacket_eq, h.nextData_eq, next]
    rfl
  · have nothing : after.nextData = [] := by
      rw [h.nextData_eq, chunk, List.drop_of_length_le none, List.take_nil]
    have covered : chunkCount 1460 tcb.sendableBytes.length ≤ visits := by
      rw [← Nat.not_lt, lt_chunkCount_iff (by decide)]
      omega
    rw [if_pos nothing]
    refine ⟨visited, ?_, ?_⟩
    · rw [List.drop_of_length_le, List.take_nil]
      rw [pendingSegments, List.length_map, List.length_range]
      exact covered
    · symm
      rw [decide_eq_false_iff_not]
      omega

end Visited
end TransmissionControlBlock

/-- What the stack keeps for one id while its queue is drained: the block, how often the
id is queued, and what was sent for it. -/
structure Sender where
  block : Option TransmissionControlBlock
  queued : Nat
  emitted : List Segment

namespace Sender
open TransmissionControlBlock

/-- `process_block_` for the id, which was queued. -/
def visit (s : Sender) (now : Int) : Sender :=
  match s.block with
  | none => { s with queued := s.queued - 1 }
  | some tcb =>
    { block := some (tcb.processBlock now).tcb
      queued := s.queued - 1 + (tcb.processBlock now).dirty.toNat
      emitted := s.emitted ++ (tcb.processBlock now).out }

/-- A round of `process_dirty_blocks_`: as many visits as the id was queued. -/
def round (s : Sender) (now : Int) : Sender :=
  run visit s (List.replicate s.queued now)

/-- The sender of `tcb` after some visits. -/
structure At (tcb : TransmissionControlBlock) (visits : Nat) (s : Sender) : Prop where
  block : ∃ after, s.block = some after ∧ Visited tcb visits after
  emitted : s.emitted = tcb.pendingSegments.take visits

theorem At.visit {tcb : TransmissionControlBlock} {visits : Nat} {s : Sender}
    (h : At tcb visits s) (sends : TransmitsData tcb.currentState = true) (now : Int) :
    At tcb (visits + 1) (s.visit now) ∧ (s.visit now).queued = s.queued - 1 +
      (decide (1460 * (visits + 1) < tcb.sendableBytes.length)).toNat := by
  obtain ⟨after, found, visited⟩ := h.block
  obtain ⟨next, out, dirty⟩ := visited.processBlock sends now
  simp only [Sender.visit, found]
  refine ⟨⟨⟨_, rfl, next⟩, ?_⟩, by rw [dirty]⟩
  rw [h.emitted, out, List.take_add]

/-- Visits within a round that has begun after `first` of them: what is queued then is
`again`, and a visit queues again what is not drained. -/
theorem At.visits {tcb : TransmissionControlBlock} (sends : TransmitsData tcb.currentState = true)
    (now : Int) {first : Nat} (n : Nat) {visits again : Nat} {s : Sender} (h : At tcb visits s)
    (since : first ≤ visits) (queued : s.queued = n + again)
    (unsent : 0 < again → 1460 * (first + 1) < tcb.sendableBytes.length) :
    At tcb (visits + n) (run Sender.visit s (List.replicate n now)) ∧
    again ≤ (run Sender.visit s (List.replicate n now)).queued ∧
    (0 < (run Sender.visit s (List.replicate n now)).queued →
      1460 * (first + 1) < tcb.sendableBytes.length) ∧
    (0 < n → 1460 * (visits + n) < tcb.sendableBytes.length →
      0 < (run Sender.visit s (List.replicate n now)).queued) := by
  induction n generalizing visits again s with
  | zero =>
    have here : s.queued = again := by omega
    rw [List.replicate_zero, run_nil, here]
    exact ⟨h, Nat.le_refl _, unsent, fun positive => by omega⟩
  | succ n ih =>
    obtain ⟨next, count⟩ := h.visit sends now
    rw [List.replicate_succ, run_cons]
    by_cases more : 1460 * (visits + 1) < tcb.sendableBytes.length
    · rw [decide_eq_true more] at count
      obtain ⟨done, kept, still, last⟩ := @ih (visits + 1) (again + 1) _ next (by omega)
        (by rw [count, queued, Bool.toNat_true]; omega) (fun _ => by omega)
      rw [Nat.add_right_comm, Nat.add_assoc] at done
      exact ⟨done, by omega, still, fun _ _ => by omega⟩
    · rw [decide_eq_false more] at count
      obtain ⟨done, kept, still, last⟩ := @ih (visits + 1) again _ next (by omega)
        (by rw [count, queued, Bool.toNat_false]; omega) unsent
      rw [Nat.add_right_comm, Nat.add_assoc] at done
      exact ⟨done, kept, still, fun _ unfinished => by omega⟩

/-- After some rounds: a sender still queued has more segments than there were rounds,
and one that is not is drained. -/
structure After (tcb : TransmissionControlBlock) (rounds visits : Nat) (s : Sender) : Prop where
  at_visits : At tcb visits s
  queued : 0 < s.queued → rounds ≤ visits ∧ (0 < rounds → 1460 * rounds < tcb.sendableBytes.length)
  drained : s.queued = 0 → tcb.sendableBytes.length ≤ 1460 * visits

theorem After.round {tcb : TransmissionControlBlock} {rounds visits : Nat} {s : Sender}
    (h : After tcb rounds visits s) (sends : TransmitsData tcb.currentState = true) (now : Int) :
    After tcb (rounds + 1) (visits + s.queued) (s.round now) := by
  obtain ⟨done, _, still, last⟩ := h.at_visits.visits sends now s.queued (Nat.le_refl visits)
    (Nat.add_zero _).symm (fun none => absurd none (Nat.lt_irrefl 0))
  refine ⟨done, ?_, ?_⟩
  · intro again
    have unsent := still again
    by_cases idle : s.queued = 0
    · have covered := h.drained idle
      omega
    · have before := h.queued (Nat.pos_of_ne_zero idle)
      omega
  · intro empty
    by_cases idle : s.queued = 0
    · have covered := h.drained idle
      omega
    · by_contra unfinished
      have again := last (Nat.pos_of_ne_zero idle) (by omega)
      rw [Sender.round] at empty
      omega

theorem After.rounds {tcb : TransmissionControlBlock} (sends : TransmitsData tcb.currentState = true)
    (nows : List Int) {rounds visits : Nat} {s : Sender} (h : After tcb rounds visits s) :
    ∃ visits', After tcb (rounds + nows.length) visits' (run Sender.round s nows) := by
  induction nows generalizing rounds visits s with
  | nil => exact ⟨visits, h⟩
  | cons now nows ih =>
    obtain ⟨visits', done⟩ := ih (h.round sends now)
    rw [Nat.add_right_comm, Nat.add_assoc] at done
    exact ⟨visits', done⟩

/-- A sender that is not to transmit data is visited once more and not queued again. -/
structure Idle (s : Sender) : Prop where
  block : ∀ tcb, s.block = some tcb → TransmitsData tcb.currentState = false

theorem Idle.visit {s : Sender} (h : Idle s) (now : Int) :
    Idle (s.visit now) ∧ (s.visit now).queued = s.queued - 1 := by
  cases found : s.block with
  | none =>
    simp only [Sender.visit, found]
    exact ⟨⟨fun tcb some => by cases some⟩, trivial⟩
  | some tcb =>
    have quiet := h.block tcb found
    have state := tcb.processBlock_currentState now
    have dirty : (tcb.processBlock now).dirty = false := by
      simp only [TransmissionControlBlock.processBlock, quiet, Bool.not_false, if_true]
      split_ifs <;> rfl
    simp only [Sender.visit, found]
    refine ⟨⟨fun after same => ?_⟩, by rw [dirty]; rfl⟩
    rw [Option.some.injEq] at same
    rw [← same, state]
    exact quiet

theorem Idle.visits {s : Sender} (h : Idle s) (now : Int) (n : Nat) :
    Idle (run Sender.visit s (List.replicate n now)) ∧
    (run Sender.visit s (List.replicate n now)).queued = s.queued - n := by
  induction n generalizing s with
  | zero => exact ⟨h, rfl⟩
  | succ n ih =>
    obtain ⟨idle, count⟩ := h.visit now
    obtain ⟨done, rest⟩ := ih idle
    rw [List.replicate_succ, run_cons]
    exact ⟨done, by omega⟩

theorem Idle.rounds {s : Sender} (h : Idle s) (nows : List Int) (some : nows ≠ []) :
    (run Sender.round s nows).queued = 0 := by
  induction nows generalizing s with
  | nil => exact absurd rfl some
  | cons now nows ih =>
    obtain ⟨done, count⟩ := h.visits now s.queued
    rw [Nat.sub_self] at count
    rw [run_cons]
    by_cases last : nows = []
    · rw [last, run_nil]
      exact count
    · exact ih done last

end Sender

/-- A stack and the segments it has sent, each with the id that it was sent for. -/
structure Logged where
  stack : TcpStack
  log : List (UInt64 × Segment)

namespace Logged

/-- What one visit sends. -/
def sends (stack : TcpStack) (socketId : UInt64) (now : Int) : List Segment :=
  ((stack.getTcb socketId).map fun tcb => (tcb.processBlock now).out).getD []

def processBlock (now : Int) (l : Logged) (socketId : UInt64) : Logged where
  stack := l.stack.processBlock socketId now
  log := l.log ++ (sends l.stack socketId now).map (socketId, ·)

def processDirtyBlocks (l : Logged) (now : Int) : Logged :=
  l.stack.dirtySocketIds.foldl (processBlock now)
    { l with stack := { l.stack with dirtySocketIds := [] } }

/-- The segments that were sent for an id, in the order in which they were sent. -/
def sentFor (l : Logged) (id : UInt64) : List Segment :=
  (l.log.filter (·.1 = id)).map Prod.snd

/-- The log tells the stack's own segments apart, and changes nothing. -/
theorem foldl_processBlock (now : Int) (ids : List UInt64) (l : Logged) :
    (ids.foldl (processBlock now) l).stack =
      ids.foldl (fun stack socketId => stack.processBlock socketId now) l.stack ∧
    ∃ segments, (ids.foldl (processBlock now) l).log = l.log ++ segments ∧
      (ids.foldl (processBlock now) l).stack.written = l.stack.written ++ segments.map Prod.snd := by
  induction ids generalizing l with
  | nil => exact ⟨rfl, [], by simp, by simp⟩
  | cons socketId ids ih =>
    obtain ⟨same, segments, log, written⟩ := ih (processBlock now l socketId)
    have here : (l.stack.processBlock socketId now).written =
        l.stack.written ++ sends l.stack socketId now := by
      rw [TcpStack.processBlock, TcpStack.withTcb, sends]
      cases l.stack.getTcb socketId with
      | none => exact (List.append_nil _).symm
      | some tcb =>
        dsimp only
        rw [TcpStack.perform_frame]
        rfl
    refine ⟨same, (sends l.stack socketId now).map (socketId, ·) ++ segments, ?_, ?_⟩
    · rw [List.foldl_cons, log, processBlock, List.append_assoc]
    · rw [List.foldl_cons, written, processBlock, here]
      simp [Function.comp_def]

theorem processDirtyBlocks_stack (l : Logged) (now : Int) :
    (l.processDirtyBlocks now).stack = l.stack.processDirtyBlocks now :=
  (foldl_processBlock now _ _).1

/-- What is kept for an id, when `pending` are the ids still to be visited. -/
def sender (id : UInt64) (pending : List UInt64) (l : Logged) : Sender where
  block := l.stack.getTcb id
  queued := (pending ++ l.stack.dirtySocketIds).count id
  emitted := l.sentFor id

theorem sentFor_append (l : Logged) (stack : TcpStack) (socketId id : UInt64)
    (segments : List Segment) :
    sentFor { stack := stack, log := l.log ++ segments.map (socketId, ·) } id =
      l.sentFor id ++ if socketId = id then segments else [] := by
  rw [sentFor, List.filter_append, List.map_append, sentFor, List.filter_map, List.map_map]
  by_cases same : socketId = id
  · simp [same, Function.comp_def]
  · simp [same, Function.comp_def]

theorem sender_processBlock_own (id : UInt64) (ids : List UInt64) (l : Logged) (now : Int) :
    sender id ids (processBlock now l id) = (sender id (id :: ids) l).visit now := by
  have fewer : (id :: ids ++ l.stack.dirtySocketIds).count id - 1 =
      (ids ++ l.stack.dirtySocketIds).count id := by
    rw [List.cons_append, List.count_cons_self, Nat.add_sub_cancel]
  simp only [sender, processBlock, sentFor_append, if_true, TcpStack.processBlock,
    TcpStack.withTcb, sends, Sender.visit]
  cases found : l.stack.getTcb id with
  | none => simp [found]
  | some tcb =>
    have real := SocketTable.ne_zero_of_findSocket found
    have plain := (tcb.processBlock_confined now).plain
    have block : (l.stack.perform id (tcb.processBlock now)).getTcb id =
        some (tcb.processBlock now).tcb := by
      rw [TcpStack.getTcb, (l.stack.perform_of_plain id plain).1,
        SocketTable.findSocket_setSocket _ real]
    have queue : (l.stack.perform id (tcb.processBlock now)).dirtySocketIds.count id =
        l.stack.dirtySocketIds.count id + (tcb.processBlock now).dirty.toNat := by
      rw [TcpStack.perform_frame, List.count_append, List.count_replicate_self,
        bne_iff_ne.mpr real, Bool.and_true]
    simp only [block, Option.map_some, Option.getD_some, Sender.mk.injEq, true_and, and_true]
    rw [fewer, List.count_append, queue, List.count_append, Nat.add_assoc]

theorem sender_processBlock_other {id other : UInt64} (differ : other ≠ id) (ids : List UInt64)
    (l : Logged) (now : Int) :
    sender id ids (processBlock now l other) = sender id (other :: ids) l := by
  have same : (l.stack.processBlock other now).getTcb id = l.stack.getTcb id ∧
      (l.stack.processBlock other now).dirtySocketIds.count id =
        l.stack.dirtySocketIds.count id := by
    rw [TcpStack.processBlock, TcpStack.withTcb]
    split
    · next tcb _ =>
      have plain := (tcb.processBlock_confined now).plain
      refine ⟨?_, ?_⟩
      · rw [TcpStack.getTcb, (l.stack.perform_of_plain other plain).1,
          SocketTable.findSocket_setSocket_ne _ differ.symm]
        rfl
      · rw [TcpStack.perform_frame, List.count_append, List.count_replicate,
          if_neg (by simpa using differ), Nat.add_zero]
    · exact ⟨rfl, rfl⟩
  simp only [sender, processBlock, sentFor_append, if_neg differ, List.append_nil, same.1,
    Sender.mk.injEq, true_and, and_true]
  rw [List.count_append, same.2, List.cons_append, List.count_cons_of_ne differ, List.count_append]

/-- A round of the stack is a round for every id. -/
theorem sender_processDirtyBlocks (id : UInt64) (l : Logged) (now : Int) :
    sender id [] (l.processDirtyBlocks now) = (sender id [] l).round now := by
  have taken : sender id [] l = sender id l.stack.dirtySocketIds
      { l with stack := { l.stack with dirtySocketIds := [] } } := by
    simp [sender, sentFor, TcpStack.getTcb]
  have visited : run Sender.visit (sender id [] l)
      (List.replicate (l.stack.dirtySocketIds.count id) now) =
      sender id [] (l.processDirtyBlocks now) := by
    refine foldl_simulates (R := fun ids l s => s = sender id ids l) ?_ ?_ _ taken
    · intro ids l s same
      rw [same, sender_processBlock_own]
    · intro other ids l s differ same
      rw [same, sender_processBlock_other differ]
  exact visited.symm

theorem run_stack (l : Logged) (nows : List Int) :
    (run processDirtyBlocks l nows).stack = run TcpStack.processDirtyBlocks l.stack nows :=
  run_commutes processDirtyBlocks_stack l nows

theorem run_written (l : Logged) (nows : List Int) :
    ∃ segments, (run processDirtyBlocks l nows).log = l.log ++ segments ∧
      (run processDirtyBlocks l nows).stack.written = l.stack.written ++ segments.map Prod.snd := by
  induction nows generalizing l with
  | nil => exact ⟨[], by simp, by simp⟩
  | cons now nows ih =>
    obtain ⟨_, first, log, written⟩ := foldl_processBlock now l.stack.dirtySocketIds
      { l with stack := { l.stack with dirtySocketIds := [] } }
    obtain ⟨rest, log', written'⟩ := ih (l.processDirtyBlocks now)
    refine ⟨first ++ rest, ?_, ?_⟩
    · rw [run_cons, log', processDirtyBlocks, log, List.append_assoc]
    · rw [run_cons, written', processDirtyBlocks, written, List.map_append, List.append_assoc]

theorem sender_run (id : UInt64) (l : Logged) (nows : List Int) :
    sender id [] (run processDirtyBlocks l nows) = run Sender.round (sender id [] l) nows :=
  run_commutes (sender_processDirtyBlocks id) l nows

end Logged

namespace Sender
open TransmissionControlBlock

theorem run_round_of_not_queued {s : Sender} (idle : s.queued = 0) (nows : List Int) :
    run Sender.round s nows = s := by
  induction nows with
  | nil => rfl
  | cons now nows ih =>
    have same : s.round now = s := by
      rw [Sender.round, idle]
      rfl
    rw [run_cons, same, ih]

/-- A queued sender before the first round. -/
theorem After.initial {tcb : TransmissionControlBlock} {s : Sender} (block : s.block = some tcb)
    (queued : 0 < s.queued) (nothing : s.emitted = []) : After tcb 0 0 s where
  at_visits := ⟨⟨tcb, block, .refl tcb⟩, nothing⟩
  queued := fun _ => ⟨Nat.le_refl 0, fun none => absurd none (Nat.lt_irrefl 0)⟩
  drained := fun empty => absurd empty (Nat.ne_of_gt queued)

/-- At most 65535 bytes are 45 segments, so no sender is queued after 45 rounds. -/
theorem queued_eq_zero {s : Sender} (nothing : s.emitted = []) {nows : List Int}
    (enough : 45 ≤ nows.length) : (run Sender.round s nows).queued = 0 := by
  by_cases idle : s.queued = 0
  · rw [run_round_of_not_queued idle, idle]
  · by_cases quiet : ∀ tcb, s.block = some tcb → TransmitsData tcb.currentState = false
    · refine Idle.rounds ⟨quiet⟩ nows ?_
      rintro rfl
      cases enough
    · push Not at quiet
      obtain ⟨tcb, block, sends⟩ := quiet
      rw [ne_eq, Bool.not_eq_false] at sends
      obtain ⟨visits, after⟩ :=
        After.rounds sends nows (.initial block (Nat.pos_of_ne_zero idle) nothing)
      by_contra again
      have unsent := (after.queued (Nat.pos_of_ne_zero again)).2
      have length := tcb.length_sendableBytes
      have limit := tcb.sendLimit_le
      omega

end Sender

/-- What draining the queue makes of a connection: the bytes from the first one not in
flight to the limit go out in full segments and a last one, and are in flight then. -/
structure SentToLimit (tcb : TransmissionControlBlock) (emitted : List Segment)
    (after : TransmissionControlBlock) : Prop where
  cut : tcb.inFlight.toNat < tcb.sendLimit →
    TransmissionControlBlock.ConsecutiveFrom tcb.snd.nxt emitted ∧
    (∀ packet ∈ emitted.dropLast, packet.payload.length = 1460) ∧
    (∀ packet ∈ emitted, 0 < packet.payload.length ∧ packet.payload.length ≤ 1460) ∧
    (emitted.map Segment.payload).flatten =
      (tcb.sendBuffer.contents.take tcb.sendLimit).drop tcb.inFlight.toNat ∧
    after.inFlight.toNat = tcb.sendLimit
  quiet : ¬ tcb.inFlight.toNat < tcb.sendLimit → emitted = [] ∧ after.snd.nxt = tcb.snd.nxt
  una_eq : after.snd.una = tcb.snd.una
  wnd_eq : after.snd.wnd = tcb.snd.wnd
  sendBuffer_eq : after.sendBuffer = tcb.sendBuffer

namespace TransmissionControlBlock

theorem Visited.sentToLimit {tcb after : TransmissionControlBlock} {visits : Nat}
    (h : Visited tcb visits after) (covered : tcb.sendableBytes.length ≤ 1460 * visits) :
    SentToLimit tcb tcb.pendingSegments after := by
  have length := tcb.length_sendableBytes
  have flight := h.inFlight_eq
  rw [Nat.min_eq_right covered] at flight
  refine ⟨?_, ?_, by rw [h], by rw [h], by rw [h]⟩
  · intro some
    exact ⟨tcb.pendingSegments_consecutive, fun _ => pendingSegments_full,
      fun _ => pendingSegments_size, tcb.pendingSegments_flatten, by omega⟩
  · intro none
    have empty : tcb.sendableBytes.length = 0 := by omega
    refine ⟨?_, ?_⟩
    · rw [← List.length_eq_zero_iff, length_pendingSegments, empty]
      rfl
    · rw [h, empty, Nat.min_zero, seqAt_zero]

end TransmissionControlBlock

namespace TcpStack
open TransmissionControlBlock

/-- What was sent for an id in rounds of `process_dirty_blocks_` at these times. -/
def sentFor (stack : TcpStack) (nows : List Int) (id : UInt64) : List Segment :=
  (run Logged.processDirtyBlocks ⟨stack, []⟩ nows).sentFor id

variable {stack : TcpStack} {id : UInt64} {tcb : TransmissionControlBlock}

theorem sender_of_run (nows : List Int) :
    run Sender.round ⟨stack.getTcb id, stack.dirtySocketIds.count id, []⟩ nows =
      ⟨(run processDirtyBlocks stack nows).getTcb id,
        (run processDirtyBlocks stack nows).dirtySocketIds.count id, stack.sentFor nows id⟩ := by
  have ran := Logged.sender_run id ⟨stack, []⟩ nows
  rw [Logged.sender, Logged.run_stack] at ran
  exact ran.symm

/-- A queued connection after any number of rounds. -/
theorem run_visited (found : stack.getTcb id = some tcb) (queued : id ∈ stack.dirtySocketIds)
    (sends : TransmitsData tcb.currentState = true) (nows : List Int) :
    ∃ visits after, (run processDirtyBlocks stack nows).getTcb id = some after ∧
      Visited tcb visits after ∧ stack.sentFor nows id = tcb.pendingSegments.take visits ∧
      ((run processDirtyBlocks stack nows).dirtySocketIds.count id = 0 →
        tcb.sendableBytes.length ≤ 1460 * visits) := by
  obtain ⟨visits, ran⟩ := Sender.After.rounds sends nows
    (@Sender.After.initial tcb ⟨stack.getTcb id, stack.dirtySocketIds.count id, []⟩ found
      (List.count_pos_iff.mpr queued) rfl)
  rw [sender_of_run] at ran
  obtain ⟨after, block, visited⟩ := ran.at_visits.block
  exact ⟨visits, after, block, visited, ran.at_visits.emitted, ran.drained⟩

theorem run_dirtySocketIds {nows : List Int} (enough : 45 ≤ nows.length) :
    (run processDirtyBlocks stack nows).dirtySocketIds = [] := by
  rw [List.eq_nil_iff_forall_not_mem]
  intro id
  have none := @Sender.queued_eq_zero ⟨stack.getTcb id, stack.dirtySocketIds.count id, []⟩ rfl
    nows enough
  rw [sender_of_run] at none
  exact List.count_eq_zero.mp none

/-- Draining the queue of any stack, in rounds at any times: it is empty after 45 of
them, each queued connection that transmits data has sent all it may, the segments are
those that the stack has written, no window is exceeded on the way, and a connection
sends the same in every queue in which it stands. -/
theorem processDirtyBlocks_drains (stack : TcpStack) (nows : List Int)
    (enough : 45 ≤ nows.length) :
    (run processDirtyBlocks stack nows).dirtySocketIds = [] ∧
    (∃ log : List (UInt64 × Segment),
      (run processDirtyBlocks stack nows).written = stack.written ++ log.map Prod.snd ∧
      ∀ id, stack.sentFor nows id = (log.filter (·.1 = id)).map Prod.snd) ∧
    ∀ id tcb, stack.getTcb id = some tcb → id ∈ stack.dirtySocketIds →
      TransmitsData tcb.currentState = true →
      (∃ after, (run processDirtyBlocks stack nows).getTcb id = some after ∧
        SentToLimit tcb (stack.sentFor nows id) after) ∧
      (∀ done, done <+: nows → ∃ after, (run processDirtyBlocks stack done).getTcb id = some after ∧
        (after.inFlight = tcb.inFlight ∨ after.inFlight.toNat ≤ tcb.snd.wnd.toNat)) ∧
      ∀ (queue : List UInt64) (others : List Int), 45 ≤ others.length → id ∈ queue →
        ({ stack with dirtySocketIds := queue } : TcpStack).sentFor others id =
          stack.sentFor nows id ∧
        ((run processDirtyBlocks { stack with dirtySocketIds := queue } others).getTcb id).map
            TransmissionControlBlock.snd =
          ((run processDirtyBlocks stack nows).getTcb id).map TransmissionControlBlock.snd := by
  have everything : ∀ (stack : TcpStack) (nows : List Int) (id : UInt64)
      (tcb : TransmissionControlBlock), 45 ≤ nows.length → stack.getTcb id = some tcb →
      id ∈ stack.dirtySocketIds → TransmitsData tcb.currentState = true →
      ∃ visits after, (run processDirtyBlocks stack nows).getTcb id = some after ∧
        Visited tcb visits after ∧ tcb.sendableBytes.length ≤ 1460 * visits ∧
        stack.sentFor nows id = tcb.pendingSegments := by
    intro stack nows id tcb enough found queued sends
    obtain ⟨visits, after, block, visited, sent, drained⟩ := run_visited found queued sends nows
    have covered := drained (by rw [run_dirtySocketIds enough]; rfl)
    refine ⟨visits, after, block, visited, covered, ?_⟩
    rw [sent, List.take_of_length_le]
    rw [length_pendingSegments, ← Nat.not_lt, lt_chunkCount_iff (by decide)]
    omega
  obtain ⟨log, logged, written⟩ := Logged.run_written ⟨stack, []⟩ nows
  rw [Logged.run_stack] at written
  refine ⟨run_dirtySocketIds enough, ⟨log, written, ?_⟩, ?_⟩
  · intro id
    rw [sentFor, Logged.sentFor, logged]
    rfl
  · intro id tcb found queued sends
    obtain ⟨visits, after, block, visited, covered, sent⟩ :=
      everything stack nows id tcb enough found queued sends
    refine ⟨⟨after, block, by rw [sent]; exact visited.sentToLimit covered⟩, ?_, ?_⟩
    · intro done _
      obtain ⟨some, midway, there, partly, _⟩ := run_visited found queued sends done
      refine ⟨midway, there, ?_⟩
      have flight := partly.inFlight_eq
      have length := tcb.length_sendableBytes
      have limit : tcb.sendLimit ≤ tcb.snd.wnd.toNat := Nat.min_le_right _ _
      by_cases still : tcb.sendableBytes.length = 0
      · left
        rw [still, Nat.min_zero, Nat.add_zero] at flight
        exact UInt32.toNat_inj.mp flight
      · right
        omega
    · intro queue others enough' queued'
      obtain ⟨visits', after', block', visited', covered', sent'⟩ := everything
        { stack with dirtySocketIds := queue } others id tcb enough' found queued' sends
      refine ⟨sent'.trans sent.symm, ?_⟩
      rw [block, block', Option.map_some, Option.map_some, visited, visited',
        Nat.min_eq_right covered, Nat.min_eq_right covered']

/-- Three bytes to send on socket 1, which is queued twice around an id that is gone. -/
def sampleQueued : TcpStack :=
  { TcpStack.new 0x0A000002 with
    socketTable := SocketTable.new.setSocket 1
      { sampleTcb with sendBuffer := (emptyBuffer.store [1, 2, 3]).1 }
    dirtySocketIds := [1, 7, 1] }

theorem sampleQueued_drains :
    (run processDirtyBlocks sampleQueued (List.replicate 45 0)).dirtySocketIds = [] ∧
    ∃ tcb after, sampleQueued.getTcb 1 = some tcb ∧ tcb.sendBuffer.contents = [1, 2, 3] ∧
      SentToLimit tcb (sampleQueued.sentFor (List.replicate 45 0) 1) after := by
  obtain ⟨empty, _, each⟩ := processDirtyBlocks_drains sampleQueued (List.replicate 45 0)
    (by rw [List.length_replicate])
  obtain ⟨⟨after, _, sent⟩, _⟩ := each 1 _ rfl (by decide) rfl
  exact ⟨empty, _, after, rfl, by decide, sent⟩

end TcpStack
end TinyCP
