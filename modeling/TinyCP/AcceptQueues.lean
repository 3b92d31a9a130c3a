import TinyCP.AcceptLedger

/-!
# What `accept` hands out

As long as no active open ends its handshake in SYN_RECEIVED on a port that is bound,
what stands in the accept queues are the completed passive opens, each once and in the
order of completion. The queue is found by the port, so an active open on a bound port
ends up in one too.
-/
namespace TinyCP
open EventRun

namespace Ledger

/-- No id is issued a second time. No active open completes its handshake in SYN_RECEIVED on
a port that leads to a live socket, and the port of a passive open that completes while its
listener is live leads to one. -/
structure Clear (l : Ledger) (event : OpenEvent) : Prop where
  counter : l.stack.socketTable.nextId + 1 ≠ 0
  active : ∀ id tcb, l.stack.Completing event id tcb → id ∈ l.dialled →
    l.stack.listenerTable.find l.stack.socketTable tcb.srcAddress.port = 0
  passive : ∀ id tcb, l.stack.Completing event id tcb → ∀ child ∈ l.opened, child.id = id →
    l.stack.socketTable.contains child.listener = true →
    l.stack.listenerTable.find l.stack.socketTable tcb.srcAddress.port ≠ 0

/-- What is queued, and what `accept` has returned, in one state of a run. -/
structure HandsOutPassiveOpens (l : Ledger) : Prop where
  passive : ∀ listener id, (listener, id) ∈ l.pushed →
    ∃ child ∈ l.opened, child.id = id ∧ (listener, child.port) ∈ l.bound
  active : ∀ id ∈ l.dialled, ∀ listener, (listener, id) ∉ l.pushed
  once : (l.pushed.map Prod.snd).Nodup
  completed : (l.pushed.map Prod.snd).Sublist l.completed
  taken : ∀ listener, entriesOf l.taken listener <+: entriesOf l.pushed listener
  ordered : ∀ listener, (entriesOf l.taken listener).Sublist l.completed ∧
    (entriesOf l.taken listener).Nodup
  queued : ∀ listener tcb, l.stack.getTcb listener = some tcb →
    entriesOf l.pushed listener = entriesOf l.taken listener ++ tcb.acceptQueue

/-- What one step pushes completes its handshake in that step, and no passive open that
does so while its listener is live is left out. -/
structure PushesAtCompletion (l : Ledger) (event : OpenEvent) : Prop where
  only : ∀ listener id, (listener, id) ∈ l.stack.pushes (l.step event).stack →
    id ∈ l.stack.completions (l.step event).stack
  all : ∀ child ∈ l.opened, child.id ∈ l.stack.completions (l.step event).stack →
    l.stack.socketTable.contains child.listener = true →
    ∃ listener, (listener, child.id) ∈ l.stack.pushes (l.step event).stack

section Step
variable {l : Ledger} {event : OpenEvent}

theorem Sound.step_completing (h : l.Sound) {id : UInt64} {tcb : TransmissionControlBlock}
    (completing : l.stack.Completing event id tcb) (active : id ∈ l.dialled →
      l.stack.listenerTable.find l.stack.socketTable tcb.srcAddress.port = 0) :
    (l.step event).Sound := by
  obtain ⟨nothing, settled⟩ := completing.settled
  obtain ⟨completions, pushes⟩ := completing.logs
  have sound := h.complete settled.books (TcpStack.slot_of_getTcb completing.block)
    completing.state (fun real => (TcpStack.find_listed real).1) active settled.slots
  rw [Ledger.step, nothing, completions, pushes]
  simp only [List.append_nil]
  exact sound

theorem Sound.step (h : l.Sound) (connects : l.ConnectsOnce event) (clear : l.Clear event) :
    (l.step event).Sound := by
  rcases TcpStack.step_openMove h.identified.counter h.phased.quiet event with
    move | ⟨id, tcb, completing⟩
  · exact h.step_quiet connects clear.counter move
  · exact h.step_completing completing (clear.active id tcb completing)

/-- A step that breaks the condition is seen in the records. -/
theorem Clear.of_handsOutPassiveOpens (counter : l.stack.socketTable.nextId + 1 ≠ 0)
    (next : (l.step event).HandsOutPassiveOpens) (pushes : l.PushesAtCompletion event) :
    l.Clear event := by
  refine ⟨counter, ?_, ?_⟩
  · intro id tcb completing dialled
    by_contra real
    obtain ⟨_, entered⟩ := completing.logs
    rw [TcpStack.delivery, if_neg real] at entered
    have pushed : (l.stack.listenerTable.find l.stack.socketTable tcb.srcAddress.port, id) ∈
        l.stack.pushes (l.stack.step event.call) := by
      rw [entered]
      exact List.mem_singleton_self _
    exact next.active id (List.mem_append_left _ dialled) _ (List.mem_append_right _ pushed)
  · intro id tcb completing child member same live
    obtain ⟨completions, entered⟩ := completing.logs
    have completed : child.id ∈ l.stack.completions (l.step event).stack := by
      rw [Ledger.step, completions, same]
      exact List.mem_singleton_self id
    obtain ⟨listener, pushed⟩ := pushes.all child member completed live
    rw [Ledger.step, entered, TcpStack.delivery] at pushed
    intro none
    rw [if_pos none] at pushed
    cases pushed

end Step

/-- The condition is the weakest one, as long as ids are left. -/
theorem run_clear (localAddress : UInt32) (events : List OpenEvent)
    (counter : Throughout step (fun l _ => l.stack.socketTable.nextId + 1 ≠ 0)
      (new localAddress) events)
    (always : Always step HandsOutPassiveOpens (new localAddress) events)
    (pushes : Throughout step PushesAtCompletion (new localAddress) events) :
    Throughout step Clear (new localAddress) events := by
  generalize new localAddress = l at counter always pushes
  induction events generalizing l with
  | nil => trivial
  | cons event events ih =>
    have next : (l.step event).HandsOutPassiveOpens := always [event] ⟨events, rfl⟩
    exact ⟨.of_handsOutPassiveOpens counter.1 next pushes.1,
      ih (l.step event) counter.2 (always_tail always) pushes.2⟩

end Ledger
end TinyCP
