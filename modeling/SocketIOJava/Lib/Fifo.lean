/-
First in, first out: a queue with its history.

A history has what ever entered the queue, what left it and what is in it, and carries the proof that the first of these
is the other two in a row. Later histories extend both lists (`Fifo.History` is ordered by that), so that what entered has
left or waits, at every later point, and leaves once and in its turn.
-/
import Mathlib.Data.List.Infix
import Mathlib.Data.List.Nodup

namespace Fifo

structure History (α : Type*) where
  entered : List α
  left : List α
  queue : List α
  inOrder : left ++ queue = entered

namespace History

variable {α : Type*}

def empty : History α := ⟨[], [], [], rfl⟩

def enter (h : History α) (a : α) : History α where
  entered := h.entered ++ [a]
  left := h.left
  queue := h.queue ++ [a]
  inOrder := by rw [← List.append_assoc, h.inOrder]

/-- the first `n` leave, in their order -/
def leave (h : History α) (n : ℕ) : History α where
  entered := h.entered
  left := h.left ++ h.queue.take n
  queue := h.queue.drop n
  inOrder := by rw [List.append_assoc, List.take_append_drop, h.inOrder]

/-- the second history continues the first -/
instance : LE (History α) := ⟨fun h h' => h.entered <+: h'.entered ∧ h.left <+: h'.left⟩

theorem le_refl (h : History α) : h ≤ h := ⟨List.prefix_refl _, List.prefix_refl _⟩

theorem le_trans {h₁ h₂ h₃ : History α} (h : h₁ ≤ h₂) (h' : h₂ ≤ h₃) : h₁ ≤ h₃ := ⟨h.1.trans h'.1, h.2.trans h'.2⟩

theorem le_enter (h : History α) (a : α) : h ≤ h.enter a := ⟨List.prefix_append _ _, List.prefix_refl _⟩

theorem le_leave (h : History α) (n : ℕ) : h ≤ h.leave n := ⟨List.prefix_refl _, List.prefix_append _ _⟩

theorem left_prefix (h : History α) : h.left <+: h.entered := ⟨h.queue, h.inOrder⟩

theorem mem_entered {h : History α} {a : α} : a ∈ h.entered ↔ a ∈ h.left ∨ a ∈ h.queue := by
  rw [← h.inOrder, List.mem_append]

/-- what entered is out or waits, at every later point -/
theorem mem_of_le {h h' : History α} (hle : h ≤ h') {a : α} (ha : a ∈ h.entered) : a ∈ h'.left ∨ a ∈ h'.queue :=
  mem_entered.1 (hle.1.subset ha)

/-- if nothing enters twice, nothing leaves twice -/
theorem nodup_left {h : History α} (hn : h.entered.Nodup) : h.left.Nodup := hn.sublist h.left_prefix.sublist

end History

end Fifo
