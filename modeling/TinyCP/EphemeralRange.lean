import TinyCP.StackSpecs

/-!
# The range of the ephemeral ports

The loop of `allocate_ephemeral_port` tries one candidate in each of its 16384 rounds. A
round in which the counter wraps tries the first port, which the next round tries again,
so the rounds are just enough to come to each of the 16383 ports from any start.
-/
namespace TinyCP

/-- The ports that `allocate_ephemeral_port` hands out. -/
def IsEphemeral (port : UInt16) : Prop := 49152 ≤ port.toNat ∧ port.toNat ≤ 65534

/-- Where the search begins when the counter has this value. -/
def searchStart (nextPort : UInt16) : Nat :=
  if 49152 ≤ nextPort.toNat ∧ nextPort.toNat ≤ 65534 then nextPort.toNat else 49152

/-- How many ports the search passes before it comes to this one. -/
def portsBefore (nextPort port : UInt16) : Nat :=
  (port.toNat + 16383 - searchStart nextPort) % 16383

/-- The counter is beyond the end of the range, or has never been in it. -/
def Wraps (nextPort : UInt16) : Bool := nextPort ≥ 65535 || nextPort < 49152

def candidate (nextPort : UInt16) : UInt16 := if Wraps nextPort then 49152 else nextPort

def counterAfter (nextPort : UInt16) : UInt16 := if Wraps nextPort then 49152 else nextPort + 1

/-- The ports that the loop tries as long as it finds them bound. -/
def candidates : Nat → UInt16 → List UInt16
  | 0, _ => []
  | attempts + 1, nextPort => candidate nextPort :: candidates attempts (counterAfter nextPort)

theorem wraps_iff (nextPort : UInt16) : Wraps nextPort = true ↔ ¬ IsEphemeral nextPort := by
  rw [Wraps, Bool.or_eq_true, decide_eq_true_iff, decide_eq_true_iff, ge_iff_le,
    UInt16.le_iff_toNat_le, UInt16.lt_iff_toNat_lt, IsEphemeral]
  change 65535 ≤ nextPort.toNat ∨ nextPort.toNat < 49152 ↔ _
  omega

theorem candidate_of_ephemeral {nextPort : UInt16} (inRange : IsEphemeral nextPort) :
    candidate nextPort = nextPort ∧ counterAfter nextPort = nextPort + 1 := by
  have stays : ¬ Wraps nextPort = true := fun wraps => (wraps_iff nextPort).mp wraps inRange
  exact ⟨if_neg stays, if_neg stays⟩

theorem candidate_of_wraps {nextPort : UInt16} (outside : ¬ IsEphemeral nextPort) :
    candidate nextPort = 49152 ∧ counterAfter nextPort = 49152 := by
  have wraps := (wraps_iff nextPort).mpr outside
  exact ⟨if_pos wraps, if_pos wraps⟩

theorem candidate_ephemeral (nextPort : UInt16) : IsEphemeral (candidate nextPort) := by
  by_cases inRange : IsEphemeral nextPort
  · rw [(candidate_of_ephemeral inRange).1]
    exact inRange
  · rw [(candidate_of_wraps inRange).1]
    exact ⟨Nat.le_refl _, by decide⟩

theorem candidates_ephemeral {attempts : Nat} {nextPort port : UInt16}
    (member : port ∈ candidates attempts nextPort) : IsEphemeral port := by
  induction attempts generalizing nextPort with
  | zero => cases member
  | succ attempts ih =>
    rcases List.mem_cons.mp member with rfl | later
    · exact candidate_ephemeral nextPort
    · exact ih later

theorem toNat_succ {port : UInt16} (inRange : port.toNat < 65535) :
    (port + 1).toNat = port.toNat + 1 := by
  rw [UInt16.toNat_add]
  exact Nat.mod_eq_of_lt (by change port.toNat + 1 < 2 ^ 16; omega)

/-- After a round the counter is in the range, or just beyond its end. -/
theorem counterAfter_range (nextPort : UInt16) :
    49152 ≤ (counterAfter nextPort).toNat ∧ (counterAfter nextPort).toNat ≤ 65535 := by
  refine ⟨?_, Nat.le_of_lt_succ (counterAfter nextPort).toNat_lt⟩
  by_cases inRange : IsEphemeral nextPort
  · obtain ⟨low, high⟩ := inRange
    rw [(candidate_of_ephemeral ⟨low, high⟩).2, toNat_succ (by omega)]
    omega
  · rw [(candidate_of_wraps inRange).2]
    decide

/-- A port ahead of the counter comes after those between. -/
theorem candidates_ahead {port : UInt16} (inRange : IsEphemeral port) (distance : Nat)
    {attempts : Nat} {nextPort : UInt16} (start : 49152 ≤ nextPort.toNat)
    (ahead : port.toNat = nextPort.toNat + distance) (enough : distance < attempts) :
    ∃ before after, candidates attempts nextPort = before ++ port :: after ∧
      ∀ other ∈ before, nextPort.toNat ≤ other.toNat ∧ other.toNat < port.toNat := by
  have limit := inRange.2
  induction distance generalizing attempts nextPort with
  | zero =>
    obtain ⟨attempts, rfl⟩ := Nat.exists_eq_succ_of_ne_zero (Nat.ne_of_gt enough)
    have same : nextPort = port := UInt16.toNat_inj.mp ahead.symm
    refine ⟨[], candidates attempts (counterAfter port), ?_, fun _ none => by cases none⟩
    rw [candidates, same, (candidate_of_ephemeral inRange).1]
    rfl
  | succ distance ih =>
    obtain ⟨attempts, rfl⟩ := Nat.exists_eq_succ_of_ne_zero (Nat.ne_of_gt (Nat.zero_lt_of_lt enough))
    have next : (nextPort + 1).toNat = nextPort.toNat + 1 := toNat_succ (by omega)
    obtain ⟨same, moved⟩ := @candidate_of_ephemeral nextPort ⟨start, by omega⟩
    obtain ⟨before, after, split, between⟩ :=
      @ih attempts (nextPort + 1) (by omega) (by omega) (by omega)
    refine ⟨nextPort :: before, after, ?_, ?_⟩
    · rw [candidates, same, moved, split]
      rfl
    · intro other member
      rcases List.mem_cons.mp member with rfl | later
      · omega
      · have range := between other later
        omega

/-- The rounds up to the end of the range are followed by those from beyond it. -/
theorem candidates_end (distance attempts : Nat) {nextPort : UInt16}
    (start : 49152 ≤ nextPort.toNat) (ahead : nextPort.toNat + distance = 65535) :
    ∃ before, candidates (distance + attempts) nextPort = before ++ candidates attempts 65535 ∧
      ∀ other ∈ before, nextPort.toNat ≤ other.toNat ∧ other.toNat ≤ 65534 := by
  induction distance generalizing nextPort with
  | zero =>
    have same : nextPort = 65535 := UInt16.toNat_inj.mp ahead
    refine ⟨[], ?_, fun _ none => by cases none⟩
    rw [same, Nat.zero_add]
    rfl
  | succ distance ih =>
    have next : (nextPort + 1).toNat = nextPort.toNat + 1 := toNat_succ (by omega)
    obtain ⟨same, moved⟩ := @candidate_of_ephemeral nextPort ⟨start, by omega⟩
    obtain ⟨before, split, between⟩ := @ih (nextPort + 1) (by omega) (by omega)
    refine ⟨nextPort :: before, ?_, ?_⟩
    · rw [Nat.succ_add, candidates, same, moved, split]
      rfl
    · intro other member
      rcases List.mem_cons.mp member with rfl | later
      · omega
      · have range := between other later
        omega

/-- The round of the wrap comes before those from the first port on. -/
theorem candidates_outside {port nextPort : UInt16} (inRange : IsEphemeral port)
    (outside : ¬ IsEphemeral nextPort) {attempts : Nat} (enough : port.toNat - 49152 < attempts) :
    ∃ before after, candidates (attempts + 1) nextPort = before ++ port :: after ∧
      ∀ other ∈ before, 49152 ≤ other.toNat ∧ other.toNat < port.toNat := by
  have low := inRange.1
  have least : (49152 : UInt16).toNat = 49152 := rfl
  obtain ⟨first, moved⟩ := candidate_of_wraps outside
  by_cases atFirst : port.toNat = 49152
  · have same : port = 49152 := UInt16.toNat_inj.mp atFirst
    refine ⟨[], candidates attempts 49152, ?_, fun _ none => by cases none⟩
    rw [candidates, first, moved, same]
    rfl
  · obtain ⟨before, after, split, between⟩ := @candidates_ahead port inRange (port.toNat - 49152)
      attempts 49152 (Nat.le_refl _) (by omega) enough
    refine ⟨49152 :: before, after, ?_, ?_⟩
    · rw [candidates, first, moved, split]
      rfl
    · intro other member
      rcases List.mem_cons.mp member with rfl | later
      · omega
      · have range := between other later
        omega

/-- From any start every port of the range is tried, and those that the search passes before
it are tried before it. -/
theorem candidates_split {port : UInt16} (inRange : IsEphemeral port) (nextPort : UInt16) :
    ∃ before after, candidates 16384 nextPort = before ++ port :: after ∧
      ∀ other ∈ before, IsEphemeral other ∧
        portsBefore nextPort other < portsBefore nextPort port := by
  obtain ⟨low, high⟩ := inRange
  by_cases inside : IsEphemeral nextPort
  · have start : searchStart nextPort = nextPort.toNat := if_pos inside
    obtain ⟨first, last⟩ := inside
    rcases Nat.lt_or_ge port.toNat nextPort.toNat with behind | ahead
    · have rounds : 16384 = 65535 - nextPort.toNat + (nextPort.toNat - 49152 + 1) := by omega
      have beyond : ¬ IsEphemeral 65535 := fun inRange => absurd inRange.2 (by decide)
      obtain ⟨upper, toEnd, above⟩ := candidates_end (65535 - nextPort.toNat)
        (nextPort.toNat - 49152 + 1) first (by omega)
      obtain ⟨lower, after, wrapped, below⟩ := @candidates_outside port 65535 ⟨low, high⟩ beyond
        (nextPort.toNat - 49152) (by omega)
      refine ⟨upper ++ lower, after, ?_, ?_⟩
      · rw [rounds, toEnd, wrapped, List.append_assoc]
      · intro other member
        rw [portsBefore, portsBefore, start, IsEphemeral]
        rcases List.mem_append.mp member with early | late
        · have range := above other early
          omega
        · have range := below other late
          omega
    · obtain ⟨before, after, split, between⟩ := @candidates_ahead port ⟨low, high⟩
        (port.toNat - nextPort.toNat) 16384 nextPort first (by omega) (by omega)
      refine ⟨before, after, split, fun other member => ?_⟩
      have range := between other member
      rw [portsBefore, portsBefore, start, IsEphemeral]
      omega
  · have start : searchStart nextPort = 49152 := if_neg inside
    obtain ⟨before, after, split, between⟩ := @candidates_outside port nextPort ⟨low, high⟩ inside
      16383 (by omega)
    refine ⟨before, after, split, fun other member => ?_⟩
    have range := between other member
    rw [portsBefore, portsBefore, start, IsEphemeral]
    omega

namespace TcpStack

def IsBound (stack : TcpStack) (port : UInt16) : Prop :=
  stack.listenerTable.contains stack.socketTable port = true

/-- One round of the loop. -/
theorem findEphemeralPort_round (stack : TcpStack) (attempts : Nat) (nextPort : UInt16) :
    stack.findEphemeralPort (attempts + 1) nextPort =
      if stack.listenerTable.contains stack.socketTable (candidate nextPort) then
        stack.findEphemeralPort attempts (counterAfter nextPort)
      else (candidate nextPort, counterAfter nextPort) := rfl

/-- The loop hands out a candidate that is not bound, or has found all of them bound. -/
theorem findEphemeralPort_cases (stack : TcpStack) (attempts : Nat) (nextPort : UInt16) :
    ((stack.findEphemeralPort attempts nextPort).1 ∈ candidates attempts nextPort ∧
      ¬ stack.IsBound (stack.findEphemeralPort attempts nextPort).1) ∨
    ((stack.findEphemeralPort attempts nextPort).1 = counterAfter^[attempts] nextPort ∧
      ∀ port ∈ candidates attempts nextPort, stack.IsBound port) := by
  induction attempts generalizing nextPort with
  | zero => exact .inr ⟨rfl, fun _ none => by cases none⟩
  | succ attempts ih =>
    rw [findEphemeralPort_round]
    split_ifs with bound
    · rcases ih (counterAfter nextPort) with ⟨member, unbound⟩ | ⟨counter, all⟩
      · exact .inl ⟨List.mem_cons_of_mem _ member, unbound⟩
      · refine .inr ⟨counter, fun port member => ?_⟩
        rcases List.mem_cons.mp member with rfl | later
        · exact bound
        · exact all port later
    · exact .inl ⟨List.mem_cons_self, bound⟩

/-- The loop passes the bound ports before the first that is not bound. -/
theorem findEphemeralPort_of_split {stack : TcpStack} {attempts : Nat} {nextPort port : UInt16}
    {before after : List UInt16} (split : candidates attempts nextPort = before ++ port :: after)
    (bound : ∀ other ∈ before, stack.IsBound other) (unbound : ¬ stack.IsBound port) :
    (stack.findEphemeralPort attempts nextPort).1 = port := by
  induction before generalizing attempts nextPort with
  | nil =>
    cases attempts with
    | zero => cases split
    | succ attempts =>
      obtain ⟨same, _⟩ := List.cons.inj split
      rw [IsBound] at unbound
      rw [findEphemeralPort_round, same, if_neg unbound]
  | cons other before ih =>
    cases attempts with
    | zero => cases split
    | succ attempts =>
      obtain ⟨same, later⟩ := List.cons.inj split
      have passed := bound other List.mem_cons_self
      rw [IsBound] at passed
      rw [findEphemeralPort_round, same, if_pos passed]
      exact ih later fun rest member => bound rest (List.mem_cons_of_mem _ member)

/-- Whatever the counter and the bound ports: the port is in the range or just beyond it, it
is not bound if any port of the range is not, and that is because the loop comes to all
of them. -/
theorem allocateEphemeralPort_covers (stack : TcpStack) :
    (49152 ≤ stack.allocateEphemeralPort.2.toNat ∧ stack.allocateEphemeralPort.2.toNat ≤ 65535) ∧
    ((∃ port, IsEphemeral port ∧ ¬ stack.IsBound port) →
      ¬ stack.IsBound stack.allocateEphemeralPort.2) ∧
    ∀ port, IsEphemeral port → port ∈ candidates 16384 stack.nextPort := by
  have visited : ∀ port, IsEphemeral port → port ∈ candidates 16384 stack.nextPort := by
    intro port inRange
    obtain ⟨before, after, split, _⟩ := candidates_split inRange stack.nextPort
    rw [split]
    exact List.mem_append_right _ List.mem_cons_self
  rcases stack.findEphemeralPort_cases 16384 stack.nextPort with ⟨member, unbound⟩ | ⟨counter, all⟩
  · obtain ⟨low, high⟩ := candidates_ephemeral member
    exact ⟨⟨low, Nat.le_succ_of_le high⟩, fun _ => unbound, visited⟩
  · refine ⟨?_, ?_, visited⟩
    · change 49152 ≤ (stack.findEphemeralPort 16384 stack.nextPort).1.toNat ∧
        (stack.findEphemeralPort 16384 stack.nextPort).1.toNat ≤ 65535
      rw [counter, Function.iterate_succ_apply']
      exact counterAfter_range _
    · rintro ⟨port, inRange, unbound⟩
      exact absurd (all port (visited port inRange)) unbound

/-- A stack whose counter, which all stacks of a process share, has come to the end. -/
def sampleCounterAtEnd : TcpStack := { TcpStack.new 0x0A000002 with nextPort := 65535 }

/-- From beyond the end, in a stack in which nothing is bound. -/
theorem sampleCounterAtEnd_covers :
    ¬ sampleCounterAtEnd.IsBound sampleCounterAtEnd.allocateEphemeralPort.2 :=
  sampleCounterAtEnd.allocateEphemeralPort_covers.2.1
    ⟨50000, ⟨by decide, by decide⟩, by rw [IsBound]; decide⟩

end TcpStack
end TinyCP
