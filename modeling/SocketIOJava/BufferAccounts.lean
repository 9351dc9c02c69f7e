/-
The account of a `TransportBuffer`: every char of its size is free, or in a queued message.

Calls come one at a time. A put without a listener takes permits for the message that it queues; whatever takes messages
out of the queue gives their permits back, but for a put that hands the queue to a listener.

- `accounts_iff`: in all states of a run the account is even, and an empty buffer takes every message of its size, exactly
  if no put of the run finds both a listener and a queue with text in it.
-/
import SocketIOJava.Buffer
import SocketIOJava.Lib.Runs

namespace SocketIOJava.BufferAccounts

open SocketIOJava.Text SocketIOJava.Buffer SocketIOJava.Buffer.TransportBuffer

/-- the methods that change a buffer; a thread that waits in `putMessage` or `getMessage` may be interrupted -/
inductive Call where
  | putMessage (message : JString) (interrupted : Bool)
  | getMessage (interrupted : Bool)
  | drainMessages
  | clear
  | setListener (listener : Option BufferListener)

def step (b : TransportBuffer) : Call → TransportBuffer
  | .putMessage message interrupted => if interrupted && b.listener.isNone then b else (b.putMessage message).2
  | .getMessage interrupted => if interrupted then b else b.getMessage.2
  | .drainMessages => b.drainMessages.2
  | .clear => b.clear
  | .setListener listener => b.setListener listener

def run (bufferSize : ℤ) (calls : List Call) : TransportBuffer := calls.foldl step (.new bufferSize)

/-- the free chars and those of the queue make up the buffer, and a message that fits goes into an empty buffer -/
structure Accounts (bufferSize : ℤ) (b : TransportBuffer) : Prop where
  even : b.getFreeBytes + size b.queue = bufferSize
  accepts : b.isEmpty = true → b.listener = none → ∀ message : JString, message.length ≤ bufferSize →
    (b.putMessage message).1 = true

/-- a put that hands queued text to a listener -/
def Leaks (b : TransportBuffer) : Call → Prop
  | .putMessage _ _ => b.listener.isSome = true ∧ 0 < size b.queue
  | _ => False

/-- the account is even -/
def Even (bufferSize : ℤ) (b : TransportBuffer) : Prop := b.permits + size b.queue = bufferSize

theorem size_nil : size [] = 0 := rfl

theorem size_eq_zero_of_not_pos {messages : List JString} (h : ¬ 0 < size messages) : size messages = 0 :=
  le_antisymm (not_lt.1 h) (size_nonneg messages)

theorem Even.accounts {n : ℤ} {b : TransportBuffer} (h : Even n b) : Accounts n b := by
  refine ⟨h, fun hempty hl message hmessage => (putMessage_fits hl).2 ?_⟩
  have hqueue : b.queue = [] := List.isEmpty_iff.1 hempty
  unfold Even at h
  rw [hqueue, size_nil] at h
  omega

/-! ## What a call does to the account -/

variable {n : ℤ} {b : TransportBuffer}

theorem step_put (b : TransportBuffer) (message : JString) (interrupted : Bool) :
    step b (.putMessage message interrupted) = if interrupted && b.listener.isNone then b else (b.putMessage message).2 := rfl

/-- a put with a listener does not wait -/
theorem step_put_listening {listener : BufferListener} (hl : b.listener = some listener) (message : JString)
    (interrupted : Bool) : step b (.putMessage message interrupted) = (b.putMessage message).2 := by
  rw [step_put, hl]
  exact if_neg (by simp)

theorem Even.drainMessages (h : Even n b) : Even n b.drainMessages.2 := by
  change b.permits + size b.queue + size [] = n
  rw [size_nil, add_zero]
  exact h

theorem Even.getMessage (h : Even n b) : Even n b.getMessage.2 := by
  unfold TransportBuffer.getMessage
  cases hq : b.queue with
  | nil => exact h
  | cons m queue =>
    unfold Even at h ⊢
    rw [hq, size_cons] at h
    change b.permits + m.length + size queue = n
    omega

theorem Even.putMessage (h : Even n b) (hl : b.listener = none) (message : JString) : Even n (b.putMessage message).2 := by
  by_cases hfits : (message.length : ℤ) ≤ b.permits
  · rw [putMessage_of_le hl hfits]
    change b.permits - message.length + size (b.queue ++ [message]) = n
    have hsize : size (b.queue ++ [message]) = size b.queue + message.length := by
      rw [size_append, size_cons, size_nil, add_zero]
    unfold Even at h
    omega
  · rw [putMessage_refused hl hfits]
    exact h

/-- with a listener the queue is emptied, and no permit is given back -/
theorem putMessage_listening {listener : BufferListener} (hl : b.listener = some listener) (message : JString) :
    (b.putMessage message).2.permits = b.permits ∧ (b.putMessage message).2.queue = [] := by
  unfold TransportBuffer.putMessage
  simp only [hl]
  by_cases hq : b.queue.length = 0
  · rw [if_pos hq]
    exact ⟨rfl, List.length_eq_zero_iff.1 hq⟩
  · rw [if_neg hq]
    exact ⟨rfl, rfl⟩

/-- so the account is even afterwards if no permit was taken before -/
theorem even_put_listening_iff {listener : BufferListener} (hl : b.listener = some listener) (message : JString)
    (interrupted : Bool) : Even n (step b (.putMessage message interrupted)) ↔ b.permits = n := by
  obtain ⟨hpermits, hqueue⟩ := putMessage_listening hl message
  rw [step_put_listening hl]
  unfold Even
  rw [hpermits, hqueue, size_nil, add_zero]

theorem Even.step_of_not_leaks (h : Even n b) (c : Call) (hc : ¬ Leaks b c) : Even n (step b c) := by
  cases c with
  | putMessage message interrupted =>
    cases hl : b.listener with
    | none =>
      rw [step_put]
      split_ifs
      · exact h
      · exact h.putMessage hl message
    | some listener =>
      have hempty : size b.queue = 0 := size_eq_zero_of_not_pos fun hpos => hc ⟨by rw [hl]; rfl, hpos⟩
      unfold Even at h
      exact (even_put_listening_iff hl message interrupted).2 (by omega)
  | getMessage interrupted =>
    cases interrupted with
    | true => exact h
    | false => exact h.getMessage
  | drainMessages => exact h.drainMessages
  | clear => exact h.drainMessages
  | setListener listener => exact h

/-- a leak leaves fewer free chars than the empty buffer has -/
theorem Even.step_of_leaks (h : Even n b) (c : Call) (hc : Leaks b c) : ¬ Even n (step b c) := by
  cases c with
  | putMessage message interrupted =>
    obtain ⟨hsome, hpos⟩ := hc
    obtain ⟨listener, hl⟩ := Option.isSome_iff_exists.1 hsome
    unfold Even at h
    rw [even_put_listening_iff hl]
    omega
  | getMessage | drainMessages | clear | setListener => exact hc.elim

theorem decides (n : ℤ) : Runs.Decides step (Accounts n) Leaks (Even n) where
  holds _ h := h.accounts
  keeps _ c h hc := h.step_of_not_leaks c hc
  breaks _ c h hc hafter := h.step_of_leaks c hc hafter.even

/-! ## Runs -/

/-- **The account is even in all states of a run** exactly if no put of the run hands queued text to a listener. -/
theorem accounts_iff (bufferSize : ℤ) (calls : List Call) :
    (∀ past, past <+: calls → Accounts bufferSize (run bufferSize past)) ↔
      ∀ past c, past ++ [c] <+: calls → ¬ Leaks (run bufferSize past) c := by
  refine (decides bufferSize).holds_iff_no_bad ?_ calls
  change bufferSize + size [] = bufferSize
  rw [size_nil, add_zero]

/-- a buffer of ten chars with five queued, and a listener that takes everything -/
def listened : List Call :=
  [.putMessage (str "hello") false, .setListener (some ⟨fun _ => .ok true, fun _ => .ok true⟩), .putMessage (str "x") false]

/-- the queue is empty, and five chars are free; six that would fit are refused -/
theorem listener_leaks :
    (run 10 listened).queue = [] ∧ (run 10 listened).getFreeBytes = 5 ∧ ¬ Accounts 10 (run 10 listened) ∧
      ((run 10 (listened ++ [.setListener none])).putMessage (str "sixsix")).1 = false := by
  refine ⟨by decide, by decide, fun h => absurd h.even (by decide), by decide⟩

end SocketIOJava.BufferAccounts
