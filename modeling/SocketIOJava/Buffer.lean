/-
`TransportBuffer`: the queue between a polling session and its next poll, bounded by a semaphore with one permit for
each char.

The operations are those of one caller at a time: an acquire that has to wait gets no permit from anyone, so
`tryAcquire` with a timeout fails exactly when the permits do not suffice.
-/
import SocketIOJava.Text

namespace SocketIOJava.Buffer

open SocketIOJava.Text

/-- a listener takes messages directly; either method may raise -/
structure BufferListener where
  onMessage : JString → Except JavaException Bool
  onMessages : List JString → Except JavaException Bool

structure TransportBuffer where
  bufferSize : ℤ
  permits : ℤ
  queue : List JString
  listener : Option BufferListener

namespace TransportBuffer

def new (bufferSize : ℤ) : TransportBuffer := ⟨bufferSize, bufferSize, [], none⟩

/-- `null` takes the listener away -/
def setListener (b : TransportBuffer) (listener : Option BufferListener) : TransportBuffer := { b with listener := listener }

def getFreeBytes (b : TransportBuffer) : ℤ := b.permits

def isEmpty (b : TransportBuffer) : Bool := b.queue.isEmpty

/-- the number of chars of some messages -/
def size (messages : List JString) : ℤ := (messages.map fun m => (m.length : ℤ)).sum

def drainMessages (b : TransportBuffer) : List JString × TransportBuffer :=
  (b.queue, { b with queue := [], permits := b.permits + size b.queue })

def clear (b : TransportBuffer) : TransportBuffer := b.drainMessages.2

def getMessage (b : TransportBuffer) : Option JString × TransportBuffer :=
  match b.queue with
  | [] => (none, b)
  | m :: queue => (some m, { b with queue := queue, permits := b.permits + m.length })

/-- `inputSemaphore.tryAcquire(n, timeout)` -/
def tryAcquire (b : TransportBuffer) (n : ℤ) : Option TransportBuffer :=
  if n ≤ b.permits then some { b with permits := b.permits - n } else none

/-- `try { ... } catch (Throwable t) { return false; }` -/
def orFalse (r : Except JavaException Bool) : Bool :=
  match r with
  | .ok v => v
  | .error _ => false

def putMessage (b : TransportBuffer) (message : JString) : Bool × TransportBuffer :=
  match b.listener with
  | some listener =>
    if b.queue.length = 0 then (orFalse (listener.onMessage message), b)
    else (orFalse (listener.onMessages (b.queue ++ [message])), { b with queue := [] })
  | none =>
    match b.tryAcquire message.length with
    | some b => (true, { b with queue := b.queue ++ [message] })
    | none => (false, b)

theorem putMessage_listener (b : TransportBuffer) (m : JString) : (b.putMessage m).2.listener = b.listener := by
  unfold putMessage
  cases hl : b.listener with
  | some listener =>
    by_cases hq : b.queue.length = 0
    · simp only [hq, if_true, hl]
    · simp only [hq, if_false]
  | none =>
    by_cases hp : (m.length : ℤ) ≤ b.permits
    · simp only [tryAcquire, hp, if_true, hl]
    · simp only [tryAcquire, hp, if_false, hl]

/-! ## Without a listener -/

theorem putMessage_of_le {b : TransportBuffer} {m : JString} (hl : b.listener = none) (h : (m.length : ℤ) ≤ b.permits) :
    b.putMessage m = (true, { b with permits := b.permits - m.length, queue := b.queue ++ [m] }) := by
  unfold putMessage tryAcquire
  rw [hl, if_pos h]

theorem putMessage_refused {b : TransportBuffer} {m : JString} (hl : b.listener = none) (h : ¬ (m.length : ℤ) ≤ b.permits) :
    b.putMessage m = (false, b) := by
  unfold putMessage tryAcquire
  rw [hl, if_neg h]

theorem putMessage_fits {b : TransportBuffer} {m : JString} (hl : b.listener = none) :
    (b.putMessage m).1 = true ↔ (m.length : ℤ) ≤ b.permits := by
  unfold putMessage tryAcquire
  rw [hl]
  by_cases h : (m.length : ℤ) ≤ b.permits
  · rw [if_pos h]; exact iff_of_true rfl h
  · rw [if_neg h]; exact iff_of_false Bool.false_ne_true h

theorem size_cons (m : JString) (messages : List JString) : size (m :: messages) = m.length + size messages := rfl

theorem size_append (xs ys : List JString) : size (xs ++ ys) = size xs + size ys := by
  simp only [size, List.map_append, List.sum_append]

theorem size_nonneg (messages : List JString) : 0 ≤ size messages := by
  induction messages with
  | nil => exact le_refl _
  | cons m messages ih => rw [size_cons]; omega

end TransportBuffer

end SocketIOJava.Buffer
