import TinyCP.Lifecycle

/-!
# What the calls return

An application sees of its connection what `send` and `recv` return. The bytes that they
move are exactly those that the history of the endpoint records.
-/
namespace TinyCP
open EventRun

namespace TcpStack

/-- The bytes that a call hands to the socket, as many as `send` returns. -/
def bytesSent (id : UInt64) (stack : TcpStack) : LifecycleEvent → List UInt8
  | .call made =>
    match made.event with
    | .send socketId data =>
      if socketId = id then data.take (((TcpSocket.send stack id data).map Prod.snd).getD 0) else []
    | _ => []
  | _ => []

/-- The bytes that a call takes from the socket, those that `recv` returns. -/
def bytesReceived (id : UInt64) (stack : TcpStack) : LifecycleEvent → List UInt8
  | .call made =>
    match made.event with
    | .recv socketId len =>
      if socketId = id then ((TcpSocket.recv stack id len).map Prod.snd).getD [] else []
    | _ => []
  | _ => []

end TcpStack

namespace Endpoint

/-- The history of an endpoint grows by these bytes. -/
structure Grows (before after : Endpoint) (sent received : List UInt8) : Prop where
  accepted : after.accepted = before.accepted ++ sent
  delivered : after.delivered = before.delivered ++ received

namespace Grows
variable {first second third : Endpoint} {sent sent' received received' : List UInt8}

theorem none (e : Endpoint) : Grows e e [] [] :=
  ⟨(List.append_nil _).symm, (List.append_nil _).symm⟩

theorem trans (h : Grows first second sent received) (h' : Grows second third sent' received') :
    Grows first third (sent ++ sent') (received ++ received') := by
  refine ⟨?_, ?_⟩
  · rw [h'.accepted, h.accepted, List.append_assoc]
  · rw [h'.delivered, h.delivered, List.append_assoc]

end Grows

/-- Neither `send` nor `recv`. -/
def Quiet : Action → Prop
  | .send _ | .recv _ => False
  | _ => True

theorem step_grows (e : Endpoint) {action : Action} (quiet : Quiet action) :
    Grows e (e.step action) [] [] := by
  have done := e.act_done action
  rw [step]
  generalize e.act action = result at done ⊢
  cases done with
  | send | recv => exact quiet.elim
  | stay => exact .none e
  | _ => exact ⟨(List.append_nil _).symm, (List.append_nil _).symm⟩

theorem run_grows (e : Endpoint) {actions : List Action} (quiet : ∀ action ∈ actions, Quiet action) :
    Grows e (run step e actions) [] [] := by
  induction actions generalizing e with
  | nil => exact .none e
  | cons action actions ih =>
    rw [List.forall_mem_cons] at quiet
    exact (e.step_grows quiet.1).trans (ih (e.step action) quiet.2)

end Endpoint

namespace TcpStack

theorem receives_quiet (id : UInt64) (stack : TcpStack) (packet : Segment) :
    ∀ action ∈ stack.receives id packet, Endpoint.Quiet action := by
  intro action member
  rw [receives] at member
  split_ifs at member
  · cases member
  · rw [List.mem_singleton.mp member]
    trivial

namespace Holds
variable {id : UInt64} {pending : List UInt64} {stack : TcpStack} {e : Endpoint}

theorem send_grows (h : Holds id pending stack e) (data : List UInt8) :
    Endpoint.Grows e (e.step (.send data))
      (data.take (((TcpSocket.send stack id data).map Prod.snd).getD 0)) [] := by
  rw [TcpSocket.send, h.block]
  simp only [Endpoint.step, Endpoint.act]
  cases e.tcb.send data with
  | none => exact .none e
  | some sent => exact ⟨rfl, (List.append_nil _).symm⟩

theorem recv_grows (h : Holds id pending stack e) (len : Nat) :
    Endpoint.Grows e (e.step (.recv len)) []
      (((TcpSocket.recv stack id len).map Prod.snd).getD []) := by
  rw [TcpSocket.recv, h.block]
  simp only [Endpoint.step, Endpoint.act]
  cases e.tcb.recv len with
  | none => exact .none e
  | some got => exact ⟨(List.append_nil _).symm, rfl⟩

theorem call_grows (h : Holds id pending stack e) (made : SocketCall) :
    Endpoint.Grows e (run Endpoint.step e (stack.actionsFor id made.event))
      (stack.bytesSent id (.call made)) (stack.bytesReceived id (.call made)) := by
  obtain ⟨event, isCall⟩ := made
  cases event with
  | send socketId data =>
    simp only [actionsFor, bytesSent, bytesReceived]
    split_ifs
    · exact h.send_grows data
    · exact .none e
  | recv socketId len =>
    simp only [actionsFor, bytesSent, bytesReceived]
    split_ifs
    · exact h.recv_grows len
    · exact .none e
  | close socketId now =>
    simp only [actionsFor, bytesSent, bytesReceived]
    split_ifs
    · exact e.step_grows trivial
    · exact .none e
  | bind | listen | connect | accept => exact .none e
  | _ => cases isCall

end Holds
end TcpStack

namespace Lifecycle
variable {fd : Int} {id : UInt64} {d : Lifecycle} {e : Endpoint}

theorem workFor_quiet (fd : Int) (id : UInt64) (d : Lifecycle) (now : Int) (read : DeviceRead) :
    ∀ action ∈ d.workFor fd id now read, Endpoint.Quiet action := by
  rw [workFor]
  split
  · split_ifs
    · simp [Endpoint.Quiet]
    · simp
  · exact d.stack.receives_quiet id _
  · intro action member
    obtain ⟨packet, _, member⟩ := List.mem_flatMap.mp member
    exact d.stack.receives_quiet id packet action member
  · simp [Endpoint.Quiet]
  · simp

/-- A step of any thread adds to the history what the call returns, and nothing else. -/
theorem Holds.grows (h : Holds id d e) (event : LifecycleEvent) :
    Endpoint.Grows e (run Endpoint.step e (d.actionsFor fd id event))
      (d.stack.bytesSent id event) (d.stack.bytesReceived id event) := by
  cases event with
  | call made => exact TcpStack.Holds.call_grows h made
  | stop => exact .none e
  | daemon now iss read =>
    rw [actionsFor]
    split_ifs
    · exact e.step_grows trivial
    · exact e.run_grows (d.workFor_quiet fd id now read)

end Lifecycle
end TinyCP
