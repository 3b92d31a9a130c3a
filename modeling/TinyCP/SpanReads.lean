/-!
# Reads from a buffer

A program that reads from a buffer through spans, with every byte it touches and every
span it cuts recorded beside its result. That it stays inside the buffer is a property
of the record, and it is proved along the structure of the program.
-/
namespace SpanReads
universe u
variable {Cell : Type} {α β : Type u}

/-- A stretch of a buffer. -/
structure Span where
  start : Nat
  size : Nat
  deriving DecidableEq

def Span.Inside (s : Span) (buffer : List Cell) : Prop := s.start + s.size ≤ buffer.length

def Span.contents (s : Span) (buffer : List Cell) : List Cell :=
  (buffer.drop s.start).take s.size

/-- A result and the spans touched on the way to it. -/
structure Reading (Cell : Type) (α : Type u) where
  run : List Cell → α × List Span

namespace Reading

instance : Monad (Reading Cell) where
  pure a := ⟨fun _ => (a, [])⟩
  bind r f := ⟨fun buffer =>
    let (a, first) := r.run buffer
    let (b, second) := (f a).run buffer
    (b, first ++ second)⟩

def value (r : Reading Cell α) (buffer : List Cell) : α := (r.run buffer).1

/-- Nothing outside the buffer is touched. -/
def InBounds (r : Reading Cell α) (buffer : List Cell) : Prop :=
  ∀ span ∈ (r.run buffer).2, span.Inside buffer

@[simp] theorem value_pure (a : α) (buffer : List Cell) :
    (pure a : Reading Cell α).value buffer = a := (rfl)

@[simp] theorem value_bind (r : Reading Cell α) (f : α → Reading Cell β) (buffer : List Cell) :
    (r >>= f).value buffer = (f (r.value buffer)).value buffer := (rfl)

@[simp] theorem inBounds_pure (a : α) (buffer : List Cell) :
    (pure a : Reading Cell α).InBounds buffer := by
  intro span none
  cases none

@[simp] theorem inBounds_bind (r : Reading Cell α) (f : α → Reading Cell β) (buffer : List Cell) :
    (r >>= f).InBounds buffer ↔ r.InBounds buffer ∧ (f (r.value buffer)).InBounds buffer := by
  constructor
  · intro both
    exact ⟨fun span first => both span (List.mem_append_left _ first),
      fun span second => both span (List.mem_append_right _ second)⟩
  · rintro ⟨first, second⟩ span either
    rcases List.mem_append.mp either with before | after
    · exact first span before
    · exact second span after

/-- `first && second`, where the second is not read unless the first holds. -/
def andThen (first second : Reading Cell Bool) : Reading Cell Bool := do
  if ← first then second else pure false

@[simp] theorem value_andThen (first second : Reading Cell Bool) (buffer : List Cell) :
    (first.andThen second).value buffer = (first.value buffer && second.value buffer) := by
  rw [andThen, value_bind]
  cases first.value buffer <;> rfl

theorem inBounds_andThen {first second : Reading Cell Bool} {buffer : List Cell}
    (reads : first.InBounds buffer)
    (then_reads : first.value buffer = true → second.InBounds buffer) :
    (first.andThen second).InBounds buffer := by
  rw [andThen, inBounds_bind]
  refine ⟨reads, ?_⟩
  cases holds : first.value buffer with
  | true => exact then_reads holds
  | false => exact inBounds_pure false buffer

end Reading

namespace Span
variable {s : Span} {buffer : List Cell} {i offset count : Nat}

/-- One byte of a span. -/
def read [Inhabited Cell] (s : Span) (i : Nat) : Reading Cell Cell :=
  ⟨fun buffer => (buffer.getD (s.start + i) default, [⟨s.start + i, 1⟩])⟩

/-- A part of a span. -/
def subspan (s : Span) (offset count : Nat) : Reading Cell Span :=
  ⟨fun _ => (⟨s.start + offset, count⟩, [⟨s.start + offset, count⟩])⟩

theorem length_contents (inside : s.Inside buffer) : (s.contents buffer).length = s.size := by
  rw [contents, List.length_take, List.length_drop]
  rw [Inside] at inside
  omega

@[simp] theorem value_read [Inhabited Cell] (within : i < s.size) :
    (s.read i : Reading Cell Cell).value buffer = (s.contents buffer).getD i default := by
  change buffer.getD (s.start + i) default = _
  rw [contents, List.getD_eq_getElem?_getD, List.getD_eq_getElem?_getD, List.getElem?_take,
    if_pos within, List.getElem?_drop]

theorem inBounds_read [Inhabited Cell] (inside : s.Inside buffer) (within : i < s.size) :
    (s.read i : Reading Cell Cell).InBounds buffer := by
  intro span member
  rw [List.mem_singleton.mp member]
  rw [Inside] at inside ⊢
  change s.start + i + 1 ≤ buffer.length
  omega

@[simp] theorem value_subspan :
    (s.subspan offset count : Reading Cell Span).value buffer = ⟨s.start + offset, count⟩ := rfl

theorem inside_subspan (inside : s.Inside buffer) (within : offset + count ≤ s.size) :
    Inside ⟨s.start + offset, count⟩ buffer := by
  rw [Inside] at inside ⊢
  change s.start + offset + count ≤ buffer.length
  omega

theorem inBounds_subspan (inside : s.Inside buffer) (within : offset + count ≤ s.size) :
    (s.subspan offset count : Reading Cell Span).InBounds buffer := by
  intro span member
  rw [List.mem_singleton.mp member]
  exact inside_subspan inside within

theorem contents_subspan (within : offset + count ≤ s.size) :
    contents ⟨s.start + offset, count⟩ buffer = ((s.contents buffer).drop offset).take count := by
  change (buffer.drop (s.start + offset)).take count = _
  rw [contents, List.drop_take, List.drop_drop, List.take_take, Nat.min_eq_left (by omega)]

end Span

end SpanReads
