import TinyCP.Monitor
import TinyCP.BufferQueue

/-!
# Waiting on the buffer

Readers of the ring buffer wait on `can_read_` and writers on `can_write_`. `write` and
`read` notify one thread, `discard` all of them, and `force_wake_up_` takes no lock: it
sets its flag and notifies both conditions whatever the other threads are doing. A thread
that has found nothing to do and is about to sleep can miss it.
-/
namespace TinyCP
open EventRun BoundedQueue Monitor

deriving instance DecidableEq for BoundedQueue.Call

inductive BufferCond where
  | canRead
  | canWrite
  deriving DecidableEq

namespace BlockingBuffer
variable {T : Type} {Size : Nat}

def waitsOn : Call T → Option BufferCond
  | .write _ => some .canWrite
  | .read _ => some .canRead
  | _ => none

def monitor : Object (BlockingBuffer T Size) (Call T) BufferCond where
  locks
    | .wakeUp => false
    | _ => true
  cond := waitsOn
  ready b
    | .write _ => b.canWrite
    | .read _ => b.canRead
    | _ => true
  body := step
  inside b
    | .write _ => [.one .canRead]
    | .read _ => [.one .canWrite]
    | .tryRead _ => if b.currLen = 0 then [] else [.one .canWrite]
    | .discard count => if min count b.currLen > 0 then [.all .canWrite] else []
    | _ => []
  outside _
    | .wakeUp => [.all .canRead, .all .canWrite]
    | _ => []
  ready_of_cond _ call never := by
    cases call with
    | write => cases never
    | read => cases never
    | _ => rfl
  cond_of_locks call free := by
    cases call with
    | wakeUp => rfl
    | _ => cases free

/-- `read` and `try_read`. -/
def takes : Call T → Bool
  | .read _ | .tryRead _ => true
  | _ => false

/-- The flag is set by `force_wake_up_` only. -/
theorem isForcefullyWokenUp_step (b : BlockingBuffer T Size) (call : Call T) (other : call ≠ .wakeUp) :
    (b.step call).isForcefullyWokenUp = b.isForcefullyWokenUp := by
  cases call with
  | write bytes =>
    rw [step, call, write]
    split_ifs <;> rfl
  | read len =>
    rw [step, call, read]
    split_ifs <;> rfl
  | tryRead len =>
    rw [step, call, tryRead]
    split_ifs <;> rfl
  | wakeUp => exact absurd rfl other
  | _ => rfl

theorem tryRead_of_empty {b : BlockingBuffer T Size} (empty : b.currLen = 0) (len : Nat) :
    b.step (.tryRead len) = b := by
  rw [step, call, tryRead, if_pos empty]

theorem currLen_discard_of_none {b : BlockingBuffer T Size} {count : Nat}
    (nothing : ¬ min count b.currLen > 0) : (b.step (.discard count)).currLen = b.currLen := by
  rw [step, call, discard]
  dsimp only
  omega

/-- Reads may wait for a single notification when there is one reader at a time, and writes
when there is one writer at a time or nobody takes anything out. -/
theorem monitor_covers {solo : BufferCond → Prop} {call : Call T} (reader : solo .canRead)
    (writer : takes call = true → solo .canWrite) :
    Covers (monitor : Object (BlockingBuffer T Size) (Call T) BufferCond) solo call := by
  intro b other cond waits ready before after
  cases other with
  | write bytes =>
    cases waits
    replace before : b.canWrite = false := before
    replace after : (b.step call).canWrite = true := after
    cases call with
    | write data =>
      replace ready : b.canWrite = true := ready
      rw [before] at ready
      cases ready
    | read len => exact Or.inr (Or.inr ⟨List.mem_singleton_self _, writer rfl⟩)
    | tryRead len =>
      by_cases empty : b.currLen = 0
      · rw [tryRead_of_empty empty, before] at after
        cases after
      · exact Or.inr (Or.inr ⟨by simp [monitor, empty], writer rfl⟩)
    | discard count =>
      by_cases freed : min count b.currLen > 0
      · exact Or.inl (by simp only [monitor, if_pos freed, List.mem_singleton])
      · rw [canWrite, currLen_discard_of_none freed, isForcefullyWokenUp_step b (.discard count) (by rintro ⟨⟩)] at after
        rw [canWrite, after] at before
        cases before
    | wakeUp => exact Or.inr (Or.inl (by simp [monitor]))
    | peek | size | availableCapacity =>
      rw [step, call, before] at after
      cases after
  | read len =>
    cases waits
    replace before : b.canRead = false := before
    replace after : (b.step call).canRead = true := after
    have empty : b.currLen = 0 := by
      rw [canRead, Bool.or_eq_false_iff, decide_eq_false_iff_not] at before
      omega
    cases call with
    | write data => exact Or.inr (Or.inr ⟨List.mem_singleton_self _, reader⟩)
    | read other =>
      replace ready : b.canRead = true := ready
      rw [before] at ready
      cases ready
    | tryRead other =>
      rw [tryRead_of_empty empty, before] at after
      cases after
    | discard count =>
      rw [canRead, currLen_discard_of_none (by omega), isForcefullyWokenUp_step b (.discard count) (by rintro ⟨⟩)] at after
      rw [canRead, after] at before
      cases before
    | wakeUp => exact Or.inr (Or.inl (by simp [monitor]))
    | peek | size | availableCapacity =>
      rw [step, call, before] at after
      cases after
  | _ => cases waits

/-- Whoever sleeps has nothing to do, or is going to be notified. -/
structure Justified (s : State (BlockingBuffer T Size) (Call T) BufferCond) : Prop where
  reader : ∀ len, .read len ∈ s.asleep →
    s.shared.size = 0 ∧ s.shared.isForcefullyWokenUp = false ∨ .all .canRead ∈ s.pending
  writer : ∀ bytes, .write bytes ∈ s.asleep →
    s.shared.size = Size ∧ s.shared.isForcefullyWokenUp = false ∨ .all .canWrite ∈ s.pending

/-- A thread goes to sleep although `force_wake_up_` has set its flag, and too late for the
notification. -/
def MissesWakeUp (s : State (BlockingBuffer T Size) (Call T) BufferCond) (event : Event (Call T)) :
    Prop :=
  ∃ call cond, event = .sleep ∧ s.deciding = some call ∧ waitsOn call = some cond ∧
    s.shared.isForcefullyWokenUp = true ∧ .all cond ∉ s.pending

theorem ready_false_iff (b : BlockingBuffer T Size) :
    (∀ len, monitor.ready b (.read len) = false ↔
      b.size = 0 ∧ b.isForcefullyWokenUp = false) ∧
    (∀ bytes, monitor.ready b (.write bytes) = false ↔
      b.size = Size ∧ b.isForcefullyWokenUp = false) := by
  constructor
  · intro len
    change b.canRead = false ↔ _
    rw [← Bool.not_eq_true, canRead_iff, not_or, Bool.not_eq_true]
    refine and_congr_left fun _ => ?_
    omega
  · intro bytes
    change b.canWrite = false ↔ _
    have bounded := b.size_le
    rw [← Bool.not_eq_true, canWrite_iff, not_or, Bool.not_eq_true]
    refine and_congr_left fun _ => ?_
    omega

theorem heeded_iff_justified (s : State (BlockingBuffer T Size) (Call T) BufferCond) :
    Heeded monitor s ↔ Justified s := by
  constructor
  · intro heeded
    refine ⟨fun len sleeps => ?_, fun bytes sleeps => ?_⟩
    · rw [← (ready_false_iff s.shared).1 len, or_iff_not_imp_left, Bool.not_eq_false]
      exact heeded _ sleeps .canRead rfl
    · rw [← (ready_false_iff s.shared).2 bytes, or_iff_not_imp_left, Bool.not_eq_false]
      exact heeded _ sleeps .canWrite rfl
  · intro justified call sleeps cond waits ready
    cases call with
    | read len =>
      cases waits
      refine (justified.reader len sleeps).resolve_left fun idle => ?_
      rw [((ready_false_iff s.shared).1 len).mpr idle] at ready
      cases ready
    | write bytes =>
      cases waits
      refine (justified.writer bytes sleeps).resolve_left fun idle => ?_
      rw [((ready_false_iff s.shared).2 bytes).mpr idle] at ready
      cases ready
    | _ => cases waits

/-- Without regard to the flag, the caller has to wait. -/
def Idle (b : BlockingBuffer T Size) : Call T → Prop
  | .read _ => b.size = 0
  | .write _ => b.size = Size
  | _ => False

theorem idle_of_waiting {b : BlockingBuffer T Size} {call : Call T}
    (waiting : monitor.ready b call = false) : Idle b call := by
  cases call with
  | read len => exact (((ready_false_iff b).1 len).mp waiting).1
  | write bytes => exact (((ready_false_iff b).2 bytes).mp waiting).1
  | _ => cases waiting

/-- Between the check and the sleep nothing but the flag can change. -/
theorem overtaken_iff_missesWakeUp {s : State (BlockingBuffer T Size) (Call T) BufferCond}
    (found : Found Idle s) (event : Event (Call T)) :
    Overtaken monitor s event ↔ MissesWakeUp s event := by
  refine exists_congr fun call => exists_congr fun cond => and_congr_right fun _ =>
    and_congr_right fun deciding => and_congr_right fun waits => and_congr_left fun _ => ?_
  have idle := found call deciding
  rw [← Bool.not_eq_false, ← Bool.not_eq_false s.shared.isForcefullyWokenUp, not_iff_not]
  cases call with
  | read len => exact ((ready_false_iff s.shared).1 len).trans (and_iff_right idle)
  | write bytes => exact ((ready_false_iff s.shared).2 bytes).trans (and_iff_right idle)
  | _ => exact idle.elim

theorem found_step [DecidableEq T] {s : State (BlockingBuffer T Size) (Call T) BufferCond}
    (found : Found Idle s) (event : Event (Call T)) : Found Idle (s.step monitor event) := by
  refine Found.step (fun _ _ => idle_of_waiting) found fun call pick _ => ?_
  cases call with
  | wakeUp => exact Or.inr fun _ _ => id
  | _ => exact Or.inl rfl

theorem never_overtaken_iff [DecidableEq T] {s : State (BlockingBuffer T Size) (Call T) BufferCond}
    (found : Found Idle s) (events : List (Event (Call T))) :
    Throughout (State.step monitor) (fun s event => ¬ Overtaken monitor s event) s events ↔
      Throughout (State.step monitor) (fun s event => ¬ MissesWakeUp s event) s events := by
  induction events generalizing s with
  | nil => exact Iff.rfl
  | cons event events ih =>
    exact and_congr (not_congr (overtaken_iff_missesWakeUp found event)) (ih (found_step found event))

/-- The calls of a run go together: each kind of call that waits is made by one thread at a
time, or nothing is ever taken out by `read` or `try_read`, as on a send buffer. -/
def GoTogether [DecidableEq T] (s : State (BlockingBuffer T Size) (Call T) BufferCond)
    (events : List (Event (Call T))) : Prop :=
  Throughout (State.step monitor) (InTurn monitor fun _ => True) s events ∨
    ∀ call pick, .enter call pick ∈ events → takes call = false

/-- No thread sleeps on a buffer that it could use, at any time and in any interleaving,
exactly if none goes to sleep just behind `force_wake_up_`. -/
theorem waits_justified_iff [DecidableEq T] (cells : Nat → T) (positive : 0 < Size)
    (events : List (Event (Call T)))
    (together : GoTogether (.start (empty cells positive)) events) :
    Always (State.step monitor) Justified (.start (empty cells positive)) events ↔
      Throughout (State.step monitor) (fun s event => ¬ MissesWakeUp s event)
        (.start (empty cells positive)) events := by
  have same : Heeded (monitor : Object (BlockingBuffer T Size) (Call T) BufferCond) = Justified :=
    funext fun s => propext (heeded_iff_justified s)
  rw [← same, ← never_overtaken_iff (.of_free rfl)]
  rcases together with turns | untaken
  · exact always_heeded_iff (Orderly.start _) events
      (fun _ _ _ => monitor_covers trivial fun _ => trivial) turns
  · -- Nobody waits for data, so the single notification of `write` is enough.
    have alone : Orderly monitor (· = .canRead) (.start (empty cells positive)) := .start _
    refine always_heeded_iff alone events ?_ ?_
    · intro call pick member
      refine monitor_covers rfl fun taken => ?_
      rw [untaken call pick member] at taken
      cases taken
    · refine throughout_of_mem _ _ fun s event member => ?_
      rintro call pick cond rfl waits rfl
      have taken := untaken call pick member
      cases call with
      | read len => cases taken
      | _ => cases waits

/-- A reader finds nothing, `force_wake_up_` runs to its end, and the reader goes to sleep. -/
def lateReader : List (Event (Call Nat)) :=
  [.enter (.read 1) 0, .enter .wakeUp 0, .notify 0 0, .notify 0 0, .sleep]

theorem lateReader_forgotten : ¬ Always (State.step monitor) Justified
    (.start (empty (fun _ => 0) (by decide : 0 < 2))) lateReader := by
  rw [waits_justified_iff _ _ lateReader]
  · rintro ⟨_, _, _, _, inTime, _⟩
    exact inTime ⟨.read 1, .canRead, rfl, rfl, rfl, rfl, by decide⟩
  · refine Or.inl ⟨?_, ?_, ?_, ?_, ?_, trivial⟩
    · rintro call pick cond ⟨⟩ _ _
      rfl
    · rintro call pick cond ⟨⟩ waits _
      cases waits
    · exact fun _ _ _ => nofun
    · exact fun _ _ _ => nofun
    · exact fun _ _ _ => nofun

end BlockingBuffer
end TinyCP
