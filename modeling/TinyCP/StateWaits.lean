import TinyCP.Monitor
import TinyCP.TransmissionControlBlock

/-!
# Waiting on the state

`connect` waits on `state_cv` until its handshake has succeeded or failed, `accept` until a
completed connection is queued. `set_state` notifies after it has released the mutex, the
handlers that queue a connection or take an acknowledgment do so before; `listen` neither
locks nor notifies. All threads are notified every time.
-/
namespace TinyCP
open EventRun Monitor

/-- What is done under `state_mutex`, and `listen`. -/
inductive StateCall where
  | connect
  | accept
  | setState (newState : TcpState)
  | complete (childId : UInt64)
  | acknowledge
  | listen
  deriving DecidableEq

namespace TransmissionControlBlock

def stateMonitor : Object TransmissionControlBlock StateCall Unit where
  locks
    | .listen => false
    | _ => true
  cond
    | .connect | .accept => some ()
    | _ => none
  ready tcb
    | .connect => tcb.currentState = .established ∨ tcb.currentState = .closed
    | .accept => !tcb.acceptQueue.isEmpty
    | _ => true
  body tcb
    | .connect => tcb
    | .accept => { tcb with acceptQueue := tcb.acceptQueue.tail }
    | .setState newState => tcb.setState newState
    | .complete childId => { tcb with acceptQueue := tcb.acceptQueue ++ [childId] }
    | .acknowledge => { tcb with hasRecivedAck := true }
    | .listen => if tcb.currentState ≠ .closed then tcb else { tcb with currentState := .listen }
  inside _
    | .complete _ | .acknowledge => [.all ()]
    | _ => []
  outside _
    | .setState _ => [.all ()]
    | _ => []
  ready_of_cond _ call never := by
    cases call with
    | connect => cases never
    | accept => cases never
    | _ => rfl
  cond_of_locks call free := by
    cases call with
    | listen => rfl
    | _ => cases free

theorem listen_acceptQueue (tcb : TransmissionControlBlock) :
    (stateMonitor.body tcb .listen).acceptQueue = tcb.acceptQueue := by
  change (if tcb.currentState ≠ .closed then tcb else _).acceptQueue = _
  split_ifs <;> rfl

/-- The ids that an `accept` takes from the queue. -/
def handsOut (tcb : TransmissionControlBlock) : StateCall → List UInt64
  | .accept => tcb.acceptQueue.head?.toList
  | _ => []

def completed : StateCall → List UInt64
  | .complete childId => [childId]
  | _ => []

theorem body_conserves (tcb : TransmissionControlBlock) (call : StateCall) :
    tcb.acceptQueue ++ completed call =
      handsOut tcb call ++ (stateMonitor.body tcb call).acceptQueue := by
  cases call with
  | accept =>
    change tcb.acceptQueue ++ [] = tcb.acceptQueue.head?.toList ++ tcb.acceptQueue.tail
    cases tcb.acceptQueue <;> simp
  | complete childId => rfl
  | listen =>
    rw [listen_acceptQueue]
    exact List.append_nil _
  | _ => exact List.append_nil _

theorem run_conserves (tcb : TransmissionControlBlock) (calls : List StateCall) :
    tcb.acceptQueue ++ calls.flatMap completed =
      actionsOf stateMonitor.body handsOut tcb calls ++
        (run stateMonitor.body tcb calls).acceptQueue := by
  induction calls generalizing tcb with
  | nil => exact List.append_nil _
  | cons call calls ih =>
    rw [List.flatMap_cons, ← List.append_assoc, body_conserves, List.append_assoc, ih, actionsOf,
      run_cons, List.append_assoc]

end TransmissionControlBlock
end TinyCP
