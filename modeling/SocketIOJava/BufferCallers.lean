/-
Any number of threads in one `TransportBuffer` without a listener.

The operations of the semaphore and of the queue are atomic, and a thread may be stopped between two of them: a put first
acquires its permits and then offers its message, a thread that has taken messages releases their permits one message at a
time. `step` lets the scheduler choose which thread goes on, whether one that waits gives up (its time is over, or it is
interrupted), and when a new call comes. A message carries the number of the call that puts it, so that two messages of one
text are two messages.

- `alone_putMessage`, `alone_getMessage`, `alone_drainMessages`: undisturbed, a call does what the methods of
  `TransportBuffer` do.
- `Inv`: the permits that are free, those of the queue and those that threads hold make up the buffer.
- `bounded_fifo`: in every interleaving the queue and the free permits stay within the buffer's size; what was put is
  handed out once, in its turn, or still queued.
-/
import Mathlib.Algebra.Order.BigOperators.Group.List
import Mathlib.Data.List.Perm.Basic
import SocketIOJava.Buffer
import SocketIOJava.Lib.Fifo

namespace SocketIOJava.BufferCallers

open SocketIOJava.Text SocketIOJava.Buffer

structure Message where
  id : ℕ
  text : JString
deriving DecidableEq, Repr

/-- what the threads share -/
structure Shared where
  permits : ℤ
  fifo : Fifo.History Message

/-- where a thread is in its call, or what the call returned -/
inductive Caller where
  | acquiring (message : Message)
  | offering (message : Message)
  | put (message : Message) (accepted : Bool)
  | polling
  | draining
  | releasing (taken held : List Message)
  | got (taken : List Message)
deriving DecidableEq, Repr

/-- `putMessage(message)` up to its next atomic operation -/
def putMessage (message : Message) : Caller := .acquiring message

/-- `getMessage` up to its next atomic operation -/
def getMessage : Caller := .polling

/-- `drainMessages` up to its next atomic operation -/
def drainMessages : Caller := .draining

/-- the next atomic operation of a thread; `gives`: the thread waits no longer -/
def advance (gives : Bool) (s : Shared) : Caller → Shared × Caller
  | .acquiring m =>
    if gives then (s, .put m false)
    else if m.text.length ≤ s.permits then ({ s with permits := s.permits - m.text.length }, .offering m)
    else (s, .acquiring m)
  | .offering m => ({ s with fifo := s.fifo.enter m }, .put m true)
  | .polling =>
    if gives then (s, .got [])
    else
      match s.fifo.queue with
      | [] => (s, .polling)
      | m :: _ => ({ s with fifo := s.fifo.leave 1 }, .releasing [m] [m])
  | .draining => ({ s with fifo := s.fifo.leave s.fifo.queue.length }, .releasing s.fifo.queue s.fifo.queue)
  | .releasing taken (m :: held) => ({ s with permits := s.permits + m.text.length }, .releasing taken held)
  | .releasing taken [] => (s, .got taken)
  | .put m accepted => (s, .put m accepted)
  | .got taken => (s, .got taken)

inductive Method where
  | putMessage (text : JString)
  | getMessage
  | drainMessages

/-- what the scheduler chooses: a thread that goes on, or a new call -/
inductive Action where
  | call (method : Method)
  | advance (caller : ℕ) (gives : Bool)

structure State where
  shared : Shared
  callers : List Caller
  calls : ℕ

/-- the thread of a new call -/
def begin (id : ℕ) : Method → Caller
  | .putMessage text => putMessage ⟨id, text⟩
  | .getMessage => getMessage
  | .drainMessages => drainMessages

def step (s : State) : Action → State
  | .call method => { s with callers := begin s.calls method :: s.callers, calls := s.calls + 1 }
  | .advance i gives =>
    match s.callers[i]? with
    | none => s
    | some c =>
      let (shared, c) := advance gives s.shared c
      { s with shared := shared, callers := s.callers.set i c }

def start (bufferSize : ℤ) : State := ⟨⟨bufferSize, .empty⟩, [], 0⟩

def run (bufferSize : ℤ) (actions : List Action) : State := actions.foldl step (start bufferSize)

/-! ## A thread that nobody interrupts -/

/-- the buffer of the methods that run one at a time -/
def Shared.buffer (bufferSize : ℤ) (s : Shared) : TransportBuffer := ⟨bufferSize, s.permits, s.fifo.queue.map Message.text, none⟩

/-- the next operations of a thread, with no other thread in between -/
def alone : ℕ → Shared → Caller → Shared × Caller
  | 0, s, c => (s, c)
  | n + 1, s, c => alone n (advance false s c).1 (advance false s c).2

theorem alone_putMessage (n : ℤ) (s : Shared) (m : Message) (h : (m.text.length : ℤ) ≤ s.permits) :
    (alone 2 s (putMessage m)).2 = .put m true ∧
      (s.buffer n).putMessage m.text = (true, (alone 2 s (putMessage m)).1.buffer n) := by
  have hfirst : advance false s (putMessage m) = ({ s with permits := s.permits - m.text.length }, .offering m) := if_pos h
  have hput := TransportBuffer.putMessage_of_le (b := s.buffer n) (m := m.text) rfl h
  unfold alone
  rw [hfirst]
  refine ⟨rfl, hput.trans ?_⟩
  simp [alone, advance, Shared.buffer, Fifo.History.enter]

/-- a put that has no room waits, and gives up -/
theorem advance_putMessage (n : ℤ) (s : Shared) (m : Message) (h : ¬ (m.text.length : ℤ) ≤ s.permits) :
    advance false s (putMessage m) = (s, putMessage m) ∧ advance true s (putMessage m) = (s, .put m false) ∧
      (s.buffer n).putMessage m.text = (false, s.buffer n) :=
  ⟨if_neg h, rfl, TransportBuffer.putMessage_refused rfl h⟩

theorem alone_getMessage (n : ℤ) (s : Shared) (m : Message) (queue : List Message) (h : s.fifo.queue = m :: queue) :
    (alone 3 s getMessage).2 = .got [m] ∧ (s.buffer n).getMessage = (some m.text, (alone 3 s getMessage).1.buffer n) := by
  have hfirst : advance false s getMessage = ({ s with fifo := s.fifo.leave 1 }, .releasing [m] [m]) := by
    simp [advance, getMessage, h]
  unfold alone
  rw [hfirst]
  refine ⟨rfl, ?_⟩
  simp [TransportBuffer.getMessage, Shared.buffer, alone, advance, Fifo.History.leave, h]

/-- the permits of the messages come back one message at a time -/
theorem alone_releasing (s : Shared) (taken held : List Message) :
    alone (held.length + 1) s (.releasing taken held) =
      ({ s with permits := s.permits + TransportBuffer.size (held.map Message.text) }, .got taken) := by
  induction held generalizing s with
  | nil =>
    change (s, Caller.got taken) = (({ s with permits := s.permits + 0 } : Shared), .got taken)
    rw [add_zero]
  | cons m held ih =>
    change alone (held.length + 1) { s with permits := s.permits + m.text.length } (.releasing taken held) = _
    rw [ih, List.map_cons, TransportBuffer.size_cons, ← add_assoc]

theorem alone_drainMessages (n : ℤ) (s : Shared) :
    (alone (s.fifo.queue.length + 2) s drainMessages).2 = .got s.fifo.queue ∧
      (s.buffer n).drainMessages =
        (s.fifo.queue.map Message.text, (alone (s.fifo.queue.length + 2) s drainMessages).1.buffer n) := by
  have hrest : alone (s.fifo.queue.length + 2) s drainMessages =
      alone (s.fifo.queue.length + 1) { s with fifo := s.fifo.leave s.fifo.queue.length }
        (.releasing s.fifo.queue s.fifo.queue) := rfl
  rw [hrest, alone_releasing]
  refine ⟨rfl, ?_⟩
  simp [TransportBuffer.drainMessages, Shared.buffer, Fifo.History.leave]

/-! ## What is counted -/

/-- the number of chars of some messages -/
def size (messages : List Message) : ℤ := TransportBuffer.size (messages.map Message.text)

/-- the permits that a thread has acquired, or is yet to release -/
def heldBy : Caller → ℤ
  | .offering m => m.text.length
  | .releasing _ held => size held
  | _ => 0

/-- the message that a thread is yet to put into the queue -/
def pending : Caller → List Message
  | .acquiring m | .offering m => [m]
  | _ => []

/-- what a thread has out of the queue -/
def takenBy : Caller → List Message
  | .releasing taken _ | .got taken => taken
  | _ => []

@[simp] theorem size_nil : size [] = 0 := rfl

@[simp] theorem size_cons (m : Message) (messages : List Message) : size (m :: messages) = m.text.length + size messages := rfl

@[simp] theorem size_append (xs ys : List Message) : size (xs ++ ys) = size xs + size ys := by
  unfold size
  rw [List.map_append, TransportBuffer.size_append]

theorem size_nonneg (messages : List Message) : 0 ≤ size messages := TransportBuffer.size_nonneg _

/-- messages with text have at least one char each -/
theorem length_le_size {messages : List Message} (h : ∀ m ∈ messages, m.text ≠ []) : (messages.length : ℤ) ≤ size messages := by
  induction messages with
  | nil => exact le_refl (0 : ℤ)
  | cons m messages ih =>
    have hlength : 0 < m.text.length := List.length_pos_iff.2 (h m List.mem_cons_self)
    have hrest := ih fun m hm => h m (List.mem_cons_of_mem _ hm)
    rw [size_cons, List.length_cons]
    omega

theorem heldBy_nonneg (c : Caller) : 0 ≤ heldBy c := by
  cases c with
  | offering m => exact Int.natCast_nonneg _
  | releasing taken held => exact size_nonneg held
  | acquiring | put | polling | draining | got => exact le_refl _

/-! ## One atomic operation -/

/-- what one operation of a thread does, whoever else is there -/
structure Turn (s : Shared) (c : Caller) (s' : Shared) (c' : Caller) : Prop where
  account : s'.permits + size s'.fifo.queue + heldBy c' = s.permits + size s.fifo.queue + heldBy c
  free : 0 ≤ s.permits → 0 ≤ s'.permits
  later : s.fifo ≤ s'.fifo
  entered : (s'.fifo.entered ++ pending c').Sublist (s.fifo.entered ++ pending c)
  accepted : ∀ m, c' = .put m true → c = .put m true ∨ m ∈ s'.fifo.entered
  taken : ∃ out, s'.fifo.left = s.fifo.left ++ out ∧ takenBy c' = takenBy c ++ out
  block : takenBy c <:+: s.fifo.left → takenBy c' <:+: s'.fifo.left

/-- an operation that leaves the queue alone -/
theorem turn_of_fifo {s s' : Shared} {c c' : Caller} (hfifo : s'.fifo = s.fifo)
    (haccount : s'.permits + heldBy c' = s.permits + heldBy c) (hfree : 0 ≤ s.permits → 0 ≤ s'.permits)
    (hpending : (pending c').Sublist (pending c)) (haccepted : ∀ m, c' = .put m true → c = .put m true)
    (htaken : takenBy c' = takenBy c) : Turn s c s' c' where
  account := by rw [hfifo]; omega
  free := hfree
  later := by rw [hfifo]; exact Fifo.History.le_refl _
  entered := by rw [hfifo]; exact (List.Sublist.refl _).append hpending
  accepted m h := .inl (haccepted m h)
  taken := ⟨[], by rw [hfifo, List.append_nil], by rw [htaken, List.append_nil]⟩
  block h := by rw [hfifo, htaken]; exact h

theorem turn_refl (s : Shared) (c : Caller) : Turn s c s c :=
  turn_of_fifo rfl rfl id (List.Sublist.refl _) (fun _ h => h) rfl

/-- messages that leave the queue keep their permits -/
theorem turn_leave {s : Shared} {c : Caller} (n : ℕ) (hheld : heldBy c = 0) (hpending : pending c = [])
    (htaken : takenBy c = []) :
    Turn s c { s with fifo := s.fifo.leave n } (.releasing (s.fifo.queue.take n) (s.fifo.queue.take n)) where
  account := by
    have hsplit : size s.fifo.queue = size (s.fifo.queue.take n) + size (s.fifo.queue.drop n) := by
      rw [← size_append, List.take_append_drop]
    change s.permits + size (s.fifo.queue.drop n) + size (s.fifo.queue.take n) = _
    omega
  free := id
  later := s.fifo.le_leave n
  entered := by rw [hpending]; exact List.Sublist.refl _
  accepted _ h := nomatch h
  taken := ⟨s.fifo.queue.take n, rfl, by rw [htaken]; rfl⟩
  block _ := (List.suffix_append _ _).isInfix

theorem turn_advance (gives : Bool) (s : Shared) (c : Caller) :
    Turn s c (advance gives s c).1 (advance gives s c).2 := by
  cases c with
  | acquiring m =>
    simp only [advance]
    split_ifs with hgives hfits
    · exact turn_of_fifo rfl rfl id (List.nil_sublist _) nofun rfl
    · refine turn_of_fifo rfl ?_ (fun _ => ?_) (List.Sublist.refl _) nofun rfl
      · change s.permits - m.text.length + m.text.length = s.permits + 0
        omega
      · change 0 ≤ s.permits - m.text.length
        omega
    · exact turn_refl s _
  | offering m =>
    refine ⟨?_, id, s.fifo.le_enter m, ?_, fun m' h => ?_, ⟨[], ?_, rfl⟩, id⟩
    · change s.permits + size (s.fifo.queue ++ [m]) + 0 = s.permits + size s.fifo.queue + m.text.length
      rw [size_append, size_cons, size_nil]
      omega
    · change ((s.fifo.entered ++ [m]) ++ []).Sublist (s.fifo.entered ++ [m])
      rw [List.append_nil]
    · obtain ⟨rfl, -⟩ := Caller.put.inj h
      exact .inr (List.mem_append_right _ (List.mem_singleton_self m))
    · exact (List.append_nil _).symm
  | polling =>
    simp only [advance]
    split_ifs with hgives
    · exact turn_of_fifo rfl rfl id (List.Sublist.refl _) nofun rfl
    · cases hq : s.fifo.queue with
      | nil => exact turn_refl s _
      | cons m queue =>
        have hturn : Turn s .polling _ _ := turn_leave (s := s) (c := .polling) 1 rfl rfl rfl
        rw [hq] at hturn
        exact hturn
  | draining =>
    have hturn : Turn s .draining _ _ := turn_leave (s := s) (c := .draining) s.fifo.queue.length rfl rfl rfl
    rw [List.take_length] at hturn
    exact hturn
  | releasing taken held =>
    cases held with
    | nil => exact turn_of_fifo rfl rfl id (List.Sublist.refl _) nofun rfl
    | cons m held =>
      refine turn_of_fifo rfl ?_ (fun hfree => ?_) (List.Sublist.refl _) nofun rfl
      · change s.permits + m.text.length + size held = s.permits + size (m :: held)
        rw [size_cons]
        omega
      · change 0 ≤ s.permits + m.text.length
        omega
  | put | got => exact turn_refl s _

/-! ## All threads -/

structure Inv (bufferSize : ℤ) (s : State) : Prop where
  account : s.shared.permits + size s.shared.fifo.queue + (s.callers.map heldBy).sum = bufferSize
  free : 0 ≤ s.shared.permits
  numbered : ∀ m ∈ s.shared.fifo.entered ++ s.callers.flatMap pending, m.id < s.calls
  distinct : (s.shared.fifo.entered ++ s.callers.flatMap pending).Nodup
  accepted : ∀ m, .put m true ∈ s.callers → m ∈ s.shared.fifo.entered
  handedOut : (s.callers.flatMap takenBy).Perm s.shared.fifo.left
  blocks : ∀ c ∈ s.callers, takenBy c <:+: s.shared.fifo.left

theorem inv_start (bufferSize : ℕ) : Inv bufferSize (start bufferSize) where
  account := by
    change (bufferSize : ℤ) + 0 + 0 = bufferSize
    omega
  free := Int.natCast_nonneg _
  numbered _ h := nomatch h
  distinct := List.nodup_nil
  accepted _ h := nomatch h
  handedOut := List.Perm.refl _
  blocks _ h := nomatch h

theorem Inv.call {n : ℤ} {s : State} (h : Inv n s) (method : Method) : Inv n (step s (.call method)) := by
  have hheld : heldBy (begin s.calls method) = 0 := by cases method <;> rfl
  have htaken : takenBy (begin s.calls method) = [] := by cases method <;> rfl
  have hput : ∀ m, begin s.calls method ≠ .put m true := by cases method <;> exact fun m h => nomatch h
  have hpending : ∀ m ∈ pending (begin s.calls method), m.id = s.calls := by
    cases method with
    | putMessage text =>
      intro m hm
      rw [List.mem_singleton.1 hm]
    | getMessage | drainMessages => exact fun m hm => nomatch hm
  have hone : (pending (begin s.calls method)).Nodup := by
    cases method with
    | putMessage text => exact List.nodup_singleton _
    | getMessage | drainMessages => exact List.nodup_nil
  -- the new call's message comes after all others
  have hperm : (s.shared.fifo.entered ++ (pending (begin s.calls method) ++ s.callers.flatMap pending)).Perm
      (pending (begin s.calls method) ++ (s.shared.fifo.entered ++ s.callers.flatMap pending)) := by
    rw [← List.append_assoc, ← List.append_assoc]
    exact List.perm_append_comm.append_right _
  refine ⟨?_, h.free, fun m hm => ?_, ?_, fun m hm => ?_, ?_, fun c hc => ?_⟩
  · change s.shared.permits + size s.shared.fifo.queue + (heldBy (begin s.calls method) + (s.callers.map heldBy).sum) = n
    rw [hheld, zero_add]
    exact h.account
  · change m.id < s.calls + 1
    rcases List.mem_append.1 (hperm.subset hm) with hm | hm
    · rw [hpending m hm]
      exact Nat.lt_succ_self _
    · exact Nat.lt_succ_of_lt (h.numbered m hm)
  · refine hperm.nodup_iff.2 (List.nodup_append.2 ⟨hone, h.distinct, fun a ha b hb hab => ?_⟩)
    have hlt := h.numbered b hb
    rw [← hab, hpending a ha] at hlt
    exact Nat.lt_irrefl _ hlt
  · rcases List.mem_cons.1 hm with hm | hm
    · exact absurd hm.symm (hput m)
    · exact h.accepted m hm
  · change (takenBy (begin s.calls method) ++ s.callers.flatMap takenBy).Perm _
    rw [htaken]
    exact h.handedOut
  · rcases List.mem_cons.1 hc with rfl | hc
    · rw [htaken]
      exact List.nil_infix
    · exact h.blocks c hc

/-- the invariant does not depend on the order of the threads -/
theorem Inv.perm {n : ℤ} {s : State} {callers : List Caller} (h : Inv n s) (hp : callers.Perm s.callers) :
    Inv n { s with callers := callers } where
  account := by
    rw [(hp.map heldBy).sum_eq]
    exact h.account
  free := h.free
  numbered m hm := h.numbered m (((hp.flatMap_right pending).append_left _).subset hm)
  distinct := ((hp.flatMap_right pending).append_left _).nodup_iff.2 h.distinct
  accepted m hm := h.accepted m (hp.subset hm)
  handedOut := (hp.flatMap_right takenBy).trans h.handedOut
  blocks c hc := h.blocks c (hp.subset hc)

theorem Inv.turn {n : ℤ} {shared shared' : Shared} {c c' : Caller} {others : List Caller} {calls : ℕ}
    (h : Inv n ⟨shared, c :: others, calls⟩) (ht : Turn shared c shared' c') : Inv n ⟨shared', c' :: others, calls⟩ := by
  have hsub : (shared'.fifo.entered ++ (c' :: others).flatMap pending).Sublist
      (shared.fifo.entered ++ (c :: others).flatMap pending) := by
    rw [List.flatMap_cons, List.flatMap_cons, ← List.append_assoc, ← List.append_assoc]
    exact ht.entered.append (List.Sublist.refl _)
  refine ⟨?_, ht.free h.free, fun m hm => h.numbered m (hsub.subset hm), h.distinct.sublist hsub, fun m hm => ?_, ?_,
    fun d hd => ?_⟩
  · have haccount := h.account
    have hturn := ht.account
    simp only [List.map_cons, List.sum_cons] at haccount ⊢
    omega
  · rcases List.mem_cons.1 hm with hm | hm
    · rcases ht.accepted m hm.symm with hc | hentered
      · exact ht.later.1.subset (h.accepted m (hc ▸ List.mem_cons_self))
      · exact hentered
    · exact ht.later.1.subset (h.accepted m (List.mem_cons_of_mem _ hm))
  · obtain ⟨out, hleft, htaken⟩ := ht.taken
    have hout := h.handedOut
    simp only [List.flatMap_cons] at hout ⊢
    rw [htaken, hleft, List.append_assoc]
    calc takenBy c ++ (out ++ others.flatMap takenBy)
        _ |>.Perm (takenBy c ++ (others.flatMap takenBy ++ out)) := List.perm_append_comm.append_left _
        _ |>.Perm (shared.fifo.left ++ out) := by
          rw [← List.append_assoc]
          exact hout.append_right out
  · rcases List.mem_cons.1 hd with rfl | hd
    · exact ht.block (h.blocks c List.mem_cons_self)
    · exact (h.blocks d (List.mem_cons_of_mem _ hd)).trans ht.later.2.isInfix

/-- what a step does: a new call, or the turn of a thread among the others -/
theorem step_cases (s : State) (a : Action) :
    (∃ method, a = .call method) ∨ step s a = s ∨
      ∃ c c' others callers shared, s.callers.Perm (c :: others) ∧ callers.Perm (c' :: others) ∧
        Turn s.shared c shared c' ∧ step s a = ⟨shared, callers, s.calls⟩ := by
  cases a with
  | call method => exact .inl ⟨method, rfl⟩
  | advance i gives =>
    right
    cases hi : s.callers[i]? with
    | none =>
      left
      simp only [step, hi]
    | some c =>
      right
      obtain ⟨hlt, rfl⟩ := List.getElem?_eq_some_iff.1 hi
      refine ⟨s.callers[i], (advance gives s.shared s.callers[i]).2, s.callers.eraseIdx i, _, _,
        (List.getElem_cons_eraseIdx_perm hlt).symm, List.set_perm_cons_eraseIdx hlt _, turn_advance _ _ _, ?_⟩
      simp only [step, hi]

theorem Inv.step {n : ℤ} {s : State} (h : Inv n s) (a : Action) : Inv n (step s a) := by
  rcases step_cases s a with ⟨method, rfl⟩ | hsame | ⟨c, c', others, callers, shared, hbefore, hafter, hturn, heq⟩
  · exact h.call method
  · rw [hsame]
    exact h
  · rw [heq]
    exact ((h.perm hbefore.symm).turn hturn).perm hafter

theorem later_step (s : State) (a : Action) : s.shared.fifo ≤ (step s a).shared.fifo := by
  rcases step_cases s a with ⟨method, rfl⟩ | hsame | ⟨c, c', others, callers, shared, -, -, hturn, heq⟩
  · exact Fifo.History.le_refl _
  · rw [hsame]
    exact Fifo.History.le_refl _
  · rw [heq]
    exact hturn.later

theorem inv_foldl {n : ℤ} {s : State} (h : Inv n s) (actions : List Action) : Inv n (actions.foldl BufferCallers.step s) := by
  induction actions generalizing s with
  | nil => exact h
  | cons a actions ih => exact ih (h.step a)

theorem later_foldl (s : State) (actions : List Action) :
    s.shared.fifo ≤ (actions.foldl BufferCallers.step s).shared.fifo := by
  induction actions generalizing s with
  | nil => exact Fifo.History.le_refl _
  | cons a actions ih => exact Fifo.History.le_trans (later_step s a) (ih (BufferCallers.step s a))

/-! ## Bounded, and first in, first out -/

/-- the queued chars and the free permits stay within the buffer's size -/
structure Bounded (bufferSize : ℤ) (s : State) : Prop where
  queued : size s.shared.fifo.queue ≤ bufferSize
  permits : s.shared.permits ≤ bufferSize

theorem Inv.bounded {n : ℤ} {s : State} (h : Inv n s) : Bounded n s := by
  have haccount := h.account
  have hfree := h.free
  have hqueue := size_nonneg s.shared.fifo.queue
  have hheld : 0 ≤ (s.callers.map heldBy).sum := by
    refine List.sum_nonneg fun x hx => ?_
    obtain ⟨c, -, rfl⟩ := List.mem_map.1 hx
    exact heldBy_nonneg c
  constructor <;> omega

/-- the messages that callers have taken out are those that left the queue, each once, and each caller's are some that left
in a row; they left in the order in which they were offered -/
structure OnceInOrder (s : State) : Prop where
  once : (s.callers.flatMap takenBy).Nodup
  handedOut : (s.callers.flatMap takenBy).Perm s.shared.fifo.left
  blocks : ∀ c ∈ s.callers, takenBy c <:+: s.shared.fifo.left
  inOrder : s.shared.fifo.left ++ s.shared.fifo.queue = s.shared.fifo.entered

theorem Inv.onceInOrder {n : ℤ} {s : State} (h : Inv n s) : OnceInOrder s where
  once := h.handedOut.nodup_iff.2 (Fifo.History.nodup_left (List.nodup_append.1 h.distinct).1)
  handedOut := h.handedOut
  blocks := h.blocks
  inOrder := s.shared.fifo.inOrder

/-- **A bounded first-in, first-out queue, in every interleaving.** A message whose `putMessage` returned true is handed
out or queued at every later point, and what was handed out stays so, in its order. -/
theorem bounded_fifo (bufferSize : ℕ) (actions : List Action) :
    Bounded bufferSize (run bufferSize actions) ∧ OnceInOrder (run bufferSize actions) ∧
      ∀ past, past <+: actions →
        (run bufferSize past).shared.fifo ≤ (run bufferSize actions).shared.fifo ∧
        ∀ m, .put m true ∈ (run bufferSize past).callers →
          m ∈ (run bufferSize actions).shared.fifo.left ∨ m ∈ (run bufferSize actions).shared.fifo.queue := by
  have hinv : ∀ actions, Inv bufferSize (run bufferSize actions) := inv_foldl (inv_start bufferSize)
  refine ⟨(hinv actions).bounded, (hinv actions).onceInOrder, fun past hp => ?_⟩
  obtain ⟨future, rfl⟩ := hp
  have hlater : (run bufferSize past).shared.fifo ≤ (run bufferSize (past ++ future)).shared.fifo := by
    unfold run
    rw [List.foldl_append]
    exact later_foldl _ future
  exact ⟨hlater, fun m hm => Fifo.History.mem_of_le hlater ((hinv past).accepted m hm)⟩

/-- what bounds the queue is the semaphore: messages with text never reach the capacity of a `LinkedBlockingQueue` -/
theorem queue_length_le (bufferSize : ℕ) (actions : List Action)
    (h : ∀ m ∈ (run bufferSize actions).shared.fifo.queue, m.text ≠ []) :
    ((run bufferSize actions).shared.fifo.queue.length : ℤ) ≤ bufferSize := by
  have hbounded : Bounded bufferSize (run bufferSize actions) := (inv_foldl (inv_start bufferSize) actions).bounded
  exact (length_le_size h).trans hbounded.queued

end SocketIOJava.BufferCallers
