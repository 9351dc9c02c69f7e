/-
The pending timers of a session.

Whatever is called, in whichever order, the executor holds at most one task of each kind for a session, and it is the task
in the session's field for that kind. The invariant is that of the two timers (`Clocks`), and that the executor tells its
tasks apart (`Apart`).

- `at_most_one_of_each`: runs of the timers' methods and the session's, called directly, of tasks that fire, and of the
  container's events, for either handler; the delays and the clock change at will.
-/
import Mathlib.Data.List.Nodup
import SocketIOJava.JettyTraversal
import SocketIOJava.Timers

namespace SocketIOJava.PendingTimers

open Program SocketIOJava.Text SocketIOJava.Frame SocketIOJava.Session SocketIOJava.Run SocketIOJava.Traversal
open SocketIOJava.Timers

/-! ## Direct calls of the timers -/

/-- the methods of a session for its timers, and a clock that is set -/
inductive TimerCall where
  | startTimeoutTimer
  | clearTimeoutTimer
  | startHeartbeatTimer
  | clearHeartbeatTimer
  | sendPing
  | setHeartbeat (delay : ℤ)
  | setTimeout (timeout : ℤ)
  | setClock (ticks : ℕ)
deriving DecidableEq, Repr

section

variable {η κ : Type}

def setHeartbeat (delay : ℤ) (s : St η) : St η := { s with session.hbDelay := delay }

def setTimeout (timeout : ℤ) (s : St η) : St η := { s with session.timeout := timeout }

/-- the time at which tasks become due, and what `currentTimeMillis` reads, jumps -/
def setClock (ticks : ℕ) (s : St η) : St η := { s with executor.ticks := ticks }

variable [TransportHandler η]

def timerCall (cb : Callback η) : TimerCall → M η Unit
  | .startTimeoutTimer => modify startTimeoutTimer
  | .clearTimeoutTimer => modify clearTimeoutTimer
  | .startHeartbeatTimer => modify startHeartbeatTimer
  | .clearHeartbeatTimer => modify clearHeartbeatTimer
  | .sendPing => Session.sendPing cb
  | .setHeartbeat delay => modify (setHeartbeat delay)
  | .setTimeout timeout => modify (setTimeout timeout)
  | .setClock ticks => modify (setClock ticks)

/-- the container's events, and direct calls of the session's methods and its timers' -/
def anyTimerCall (serve : Callback η → κ → M η Unit) (cb : Callback η) : (κ ⊕ SessionCall) ⊕ TimerCall → M η Unit
  | .inl e => anyCall serve cb e
  | .inr c => timerCall cb c

end

/-! ## What is pending -/

section

variable {η : Type}

/-- the scheduled tasks of a kind that are neither cancelled nor started -/
def pendingOf (kind : TaskKind) (s : St η) : List Task := s.executor.pending.filter fun t => t.kind = kind

/-- the session's field for a kind -/
def taskOf : TaskKind → St η → Option Task
  | .onTimeout, s => s.session.timeoutTask
  | .sendPing, s => s.session.hbDelayTask

/-- the method that cancels the task of a kind -/
def clearOf : TaskKind → St η → St η
  | .onTimeout => clearTimeoutTimer
  | .sendPing => clearHeartbeatTimer

/-- at most one task of each kind is pending, it is the one in its field, and clearing cancels it -/
structure OneOfEach (s : St η) : Prop where
  one : ∀ kind, (pendingOf kind s).length ≤ 1
  referenced : ∀ kind, ∀ t ∈ pendingOf kind s, taskOf kind s = some t
  cleared : ∀ kind, pendingOf kind (clearOf kind s) = []

/-! ## The invariant -/

/-- no task is pending twice, and the id of the next one is new -/
structure Apart (e : Executor) : Prop where
  fresh : ∀ t ∈ e.pending, t.id < e.next
  nodup : e.pending.Nodup

namespace Apart

variable {e : Executor}

theorem cancel (h : Apart e) (task : Option Task) : Apart (e.cancel task) where
  fresh t ht := h.fresh t (mem_cancel ht).1
  nodup := h.nodup.filter _

theorem schedule (h : Apart e) (kind : TaskKind) (delay : ℤ) : Apart (e.schedule (e.newTask kind delay)) where
  fresh t ht := by
    rcases List.mem_append.1 ht with hold | hnew
    · exact (h.fresh t hold).trans (Nat.lt_succ_self _)
    · rw [List.mem_singleton.1 hnew]
      exact Nat.lt_succ_self _
  nodup := by
    refine List.nodup_append.2 ⟨h.nodup, List.nodup_singleton _, fun t ht new hnew heq => ?_⟩
    rw [heq, List.mem_singleton.1 hnew] at ht
    exact Nat.lt_irrefl _ (h.fresh _ ht)

/-- a task that starts is taken off the queue -/
theorem erase (h : Apart e) (t : Task) : Apart { e with pending := e.pending.erase t } where
  fresh x hx := h.fresh x (List.mem_of_mem_erase hx)
  nodup := h.nodup.erase t

end Apart

structure Inv (s : St η) : Prop where
  clocks : Clocks s
  apart : Apart s.executor

variable {s s' : St η}

/-- tasks of a field that are told apart -/
theorem length_le_one {l : List Task} (hnodup : l.Nodup) {task : Option Task} (h : ∀ t ∈ l, task = some t) : l.length ≤ 1 := by
  cases task with
  | none =>
    have hnil : l = [] := List.eq_nil_iff_forall_not_mem.2 fun t ht => Option.some_ne_none t (h t ht).symm
    rw [hnil]
    exact Nat.zero_le 1
  | some task =>
    have hsame : l = List.replicate l.length task := List.eq_replicate_of_mem fun t ht => (Option.some.inj (h t ht)).symm
    rw [hsame] at hnodup
    exact List.nodup_replicate.1 hnodup

theorem taskOf_of_pending (h : Clocks s) {kind : TaskKind} {t : Task} (ht : t ∈ pendingOf kind s) : taskOf kind s = some t := by
  obtain ⟨hmem, hkind⟩ := List.mem_filter.1 ht
  have hkind : t.kind = kind := of_decide_eq_true hkind
  subst hkind
  rcases h.tasks t hmem with ⟨hsend, htask⟩ | ⟨htimeout, htask⟩
  · rw [hsend]; exact htask
  · rw [htimeout]; exact htask

theorem pendingOf_clearOf (h : Clocks s) (kind : TaskKind) : pendingOf kind (clearOf kind s) = [] := by
  refine List.filter_eq_nil_iff.2 fun t ht hkind => ?_
  have hkind : t.kind = kind := of_decide_eq_true hkind
  cases kind with
  | onTimeout => cases (h.mem_clearTimeoutTimer ht).2.1.symm.trans hkind
  | sendPing => cases (h.mem_clearHeartbeatTimer ht).2.1.symm.trans hkind

theorem Inv.oneOfEach (h : Inv s) : OneOfEach s where
  one _ := length_le_one (h.apart.nodup.filter _) fun _ => taskOf_of_pending h.clocks
  referenced _ _ := taskOf_of_pending h.clocks
  cleared := pendingOf_clearOf h.clocks

/-! ### One update -/

def Keeps (s s' : St η) : Prop := Inv s → Inv s'

instance : Std.Refl (Keeps (η := η)) := ⟨fun _ => id⟩

instance : IsTrans (St η) Keeps := ⟨fun _ _ _ h h' => h' ∘ h⟩

/-- what the invariant is about -/
def clock (s : St η) : List Task × ℕ × Option Task × Option Task × ℕ :=
  (s.executor.pending, s.executor.next, s.session.hbDelayTask, s.session.timeoutTask, s.session.lStartTime)

theorem keeps_of_clock (h : clock s' = clock s) : Keeps s s' := by
  simp only [clock, Prod.mk.injEq] at h
  obtain ⟨hpending, hnext, hheartbeat, htimeout, hstart⟩ := h
  refine fun hs => ⟨hs.clocks.congr (fun t ht => hpending ▸ ht) hheartbeat htimeout hstart, ?_, ?_⟩
  · rw [hpending, hnext]; exact hs.apart.fresh
  · rw [hpending]; exact hs.apart.nodup

theorem keeps_clearTimeout (s : St η) : Keeps s (clearTimeoutTimer s) := fun h => ⟨h.clocks.clearTimeout, h.apart.cancel _⟩

theorem keeps_clearHeartbeat (s : St η) : Keeps s (clearHeartbeatTimer s) := fun h => ⟨h.clocks.clearHeartbeat, h.apart.cancel _⟩

/-- **A start of the timeout timer**, also one that schedules nothing -/
theorem keeps_startTimeout (s : St η) : Keeps s (startTimeoutTimer s) := by
  refine fun h => ⟨h.clocks.startTimeout.1, startTimeoutTimer_executor ?_ ?_ h.apart⟩
  · exact fun _ task hapart => hapart.cancel task
  · exact fun _ kind delay hapart => hapart.schedule kind delay

theorem keeps_startHeartbeat (s : St η) : Keeps s (startHeartbeatTimer s) := by
  refine fun h => ⟨h.clocks.startHeartbeat.1, startHeartbeatTimer_executor ?_ ?_ h.apart⟩
  · exact fun _ task hapart => hapart.cancel task
  · exact fun _ kind delay hapart => hapart.schedule kind delay

theorem keeps_startTask (t : Task) (s : St η) : Keeps s (startTask t s) := fun h =>
  ⟨h.clocks.congr (fun _ ht => List.mem_of_mem_erase ht) rfl rfl rfl, h.apart.erase t⟩

theorem inv_of_idle (hpending : s.executor.pending = []) (hstopped : s.session.timeoutTask = none) : Inv s := by
  refine ⟨clocks_of_idle hpending hstopped, ?_, ?_⟩
  · rw [hpending]; exact fun _ ht => absurd ht List.not_mem_nil
  · rw [hpending]; exact List.nodup_nil

end

/-! ## The session with its handler -/

section

variable {η : Type} [TransportHandler η] {n : ℕ}

theorem along_call (k : ∀ m < n, Calls Keeps (app m : Callback η)) (c : InboundCall) :
    Along Keeps (app n c : M η (List JString)) := along_app k (fun _ => keeps_of_clock rfl) fun _ => keeps_of_clock rfl

theorem along_onDisconnect_app (k : ∀ m < n, Calls Keeps (app m : Callback η)) (reason : DisconnectReason) :
    Along Keeps (Session.onDisconnect (app n : Callback η) reason) := by
  refine along_onDisconnect_of (fun s => ?_) fun s _ => ?_
  · exact IsTrans.trans _ _ _ (keeps_clearTimeout s) (keeps_clearHeartbeat _)
  · exact notify_related (along_call k _) (fun _ => keeps_of_clock rfl) (fun _ => keeps_of_clock rfl) s

theorem moves (k : ∀ m < n, Calls Keeps (app m : Callback η)) : Moves Keeps (app n : Callback η) where
  acts _ _ _ := keeps_of_clock rfl
  io _ := keeps_of_clock rfl
  outbound _ _ := keeps_of_clock rfl
  startClose _ := keeps_of_clock rfl
  onDisconnect reason _ _ := along_onDisconnect_app k reason
  removed _ _ := keeps_of_clock rfl

omit [TransportHandler η] in
theorem opens : Opens (Keeps (η := η)) where
  opened _ _ _ := keeps_of_clock rfl
  attached _ := keeps_of_clock rfl

/-- what a handler does to the timers, at every depth of callbacks -/
structure Handles (η : Type) [TransportHandler η] : Prop where
  calls : ∀ n, Calls Keeps (app n : Callback η)
  disconnectWhenEmpty : Along Keeps (TransportHandler.disconnectWhenEmpty : M η Unit)
  setNamespace : ∀ a, Along Keeps (TransportHandler.setNamespace a : M η Unit)

namespace Handles

variable (h : Handles η)
include h

theorem along_callback (n : ℕ) (c : InboundCall) : Along Keeps (app n c : M η (List JString)) :=
  along_call (fun m _ => h.calls m) c

theorem along_onDisconnect (n : ℕ) (reason : DisconnectReason) : Along Keeps (Session.onDisconnect (app n : Callback η) reason) :=
  along_onDisconnect_app (fun m _ => h.calls m) reason

theorem closes (n : ℕ) : Closes Keeps (app n : Callback η) where
  send := (h.calls n).send
  abort := (h.calls n).abort
  disconnectWhenEmpty := h.disconnectWhenEmpty
  onDisconnect reason _ := h.along_onDisconnect n reason
  acknowledged _ _ _ := keeps_of_clock rfl
  closing _ _ _ := keeps_of_clock rfl
  closed _ := keeps_of_clock rfl

theorem frames (n : ℕ) : Frames Keeps (app n : Callback η) := by
  refine (h.calls n).frames (h.closes n).along_onClose (fun s c _ _ => h.along_callback n c s) h.setNamespace
    (fun _ _ _ => keeps_of_clock rfl) (fun _ _ => keeps_of_clock rfl) fun s f _ => ?_
  have hreceived : Keeps s (s.push (.received f)) := keeps_of_clock rfl
  have hpong : Keeps s (onPong (s.push (.received f))) := IsTrans.trans _ _ _ hreceived (keeps_clearTimeout _)
  exact IsTrans.trans _ _ _ hpong (keeps_startHeartbeat _)

theorem along_onConnect (n : ℕ) : Along Keeps (Session.onConnect (app n : Callback η) true) :=
  opens.along_onConnect (fun _ => keeps_of_clock rfl) (fun s _ => h.along_callback n .onConnect s) (h.calls n).abort

theorem along_onTimeout (n : ℕ) : Along Keeps (Session.onTimeout (app n : Callback η)) :=
  along_onTimeout_of (fun _ => keeps_of_clock rfl) (h.along_onDisconnect n .timeout) (h.calls n).abort

theorem along_sendPing (n : ℕ) : Along Keeps (Session.sendPing (app n : Callback η)) :=
  along_sendPing_of (fun _ => keeps_of_clock rfl) (h.calls n).toSends keeps_startTimeout

theorem along_sessionCall (n : ℕ) (call : SessionCall) : Along Keeps (sessionCall (app n : Callback η) call) := by
  have hshutdown := (moves fun m (_ : m < n) => h.calls m).along_onShutdown
  exact along_sessionCall_of ⟨h.calls n, h.closes n, h.frames n⟩ opens (fun s _ => h.along_callback n .onConnect s)
    (fun _ => keeps_of_clock rfl) keeps_clearTimeout (h.along_onDisconnect n) (h.along_onTimeout n) hshutdown call

theorem along_timerCall (n : ℕ) (call : TimerCall) : Along Keeps (timerCall (app n : Callback η) call) := by
  cases call with
  | startTimeoutTimer => exact along_modify keeps_startTimeout
  | clearTimeoutTimer => exact along_modify keeps_clearTimeout
  | startHeartbeatTimer => exact along_modify keeps_startHeartbeat
  | clearHeartbeatTimer => exact along_modify keeps_clearHeartbeat
  | sendPing => exact h.along_sendPing n
  | setHeartbeat _ | setTimeout _ | setClock _ => exact along_modify fun _ => keeps_of_clock rfl

/-- **A run keeps the invariant** if the container's events do. -/
theorem inv_run {κ : Type} {serve : Callback η → κ → M η Unit} (hserve : ∀ n e, Along Keeps (serve (app n) e)) {s : St η}
    (hs : Inv s) (is : List (Input ((κ ⊕ SessionCall) ⊕ TimerCall))) : Inv (run (anyTimerCall serve) s is) := by
  have hevent : ∀ n e, Along Keeps (perform (anyTimerCall serve) (app n) e) := by
    intro n e
    refine along_perform_of (fun e => ?_) (h.calls n).along_outbound keeps_startTask (fun kind => ?_)
      (fun _ _ => keeps_of_clock rfl) e
    · rcases e with (e | call) | call
      · exact hserve n e
      · exact h.along_sessionCall n call
      · exact h.along_timerCall n call
    · cases kind with
      | onTimeout => exact h.along_onTimeout n
      | sendPing => exact h.along_sendPing n
  refine run_of_steps (R := Keeps) (fun s i _ => ?_) s hs
  have hinput : Keeps s { s with acts := i.acts, io := i.io } := keeps_of_clock rfl
  exact IsTrans.trans _ _ _ hinput (hevent _ i.event _)

end Handles

end

/-! ## The two handlers -/

namespace Http

open JettyContinuation

theorem wire {n : ℕ} (k : ∀ m < n, Calls Keeps (app m : Callback Handler)) :
    JettyTraversal.Http.Wire Keeps (app n : Callback Handler) where
  toMoves := moves k
  expired := along_onDisconnect_app k .timeout
  update _ _ _ _ := keeps_of_clock rfl
  release s := by
    have hcleared : Keeps s (clearTimeoutTimer (clearHeartbeatTimer s)) :=
      IsTrans.trans _ _ _ (keeps_clearHeartbeat s) (keeps_clearTimeout _)
    exact IsTrans.trans _ _ _ hcleared (keeps_of_clock rfl)
  startHeartbeat := keeps_startHeartbeat
  frame _ _ _ := keeps_of_clock rfl
  wrote _ _ _ := keeps_of_clock rfl
  completed _ := keeps_of_clock rfl

theorem handles : Handles Handler where
  calls n := by
    induction n using Nat.strong_induction_on with
    | _ n ih => exact (wire ih).calls
  disconnectWhenEmpty := along_modify fun _ => keeps_of_clock rfl
  setNamespace _ := along_modify fun _ => keeps_of_clock rfl

theorem host (n : ℕ) : JettyTraversal.Http.Host Keeps (app n : Callback Handler) where
  toLine := (wire fun m _ => handles.calls m).line
  closed := handles.along_onDisconnect n .closed
  hosted _ _ _ := keeps_of_clock rfl
  startTimeout := keeps_startTimeout
  clearTimeout := keeps_clearTimeout
  shutdown s _ := (moves fun m _ => handles.calls m).along_onShutdown s

theorem along_serve (n : ℕ) (e : HttpEvent) : Along Keeps (serveHttp (app n) e) :=
  (host n).along_events (handles.frames n) (fun _ => keeps_of_clock rfl) (handles.along_onConnect n) e

end Http

namespace Socket

open JettyWebSocket

theorem wire {n : ℕ} (k : ∀ m < n, Calls Keeps (app m : Callback Handler)) :
    JettyTraversal.Socket.Wire Keeps (app n : Callback Handler) where
  toMoves := moves k
  frame _ _ _ := keeps_of_clock rfl
  wrote _ _ _ := keeps_of_clock rfl
  setOutbound _ _ := keeps_of_clock rfl

theorem handles : Handles Handler where
  calls n := by
    induction n using Nat.strong_induction_on with
    | _ n ih => exact (wire ih).calls
  disconnectWhenEmpty := along_pure _
  setNamespace _ := along_modify fun _ => keeps_of_clock rfl

theorem along_serve (n : ℕ) (e : SocketEvent) : Along Keeps (serveSocket (app n) e) := by
  refine (wire fun m _ => handles.calls m).along_events (handles.frames n) (fun s message => ?_) (handles.along_onConnect n) e
  have hpushed : Keeps s (s.push (.text message)) := keeps_of_clock rfl
  exact IsTrans.trans _ _ _ hpushed (keeps_startHeartbeat _)

end Socket

/-! ## Runs -/

/-- **At most one timer of each kind is pending**, and it is the one that its field refers to: after every run, whichever
methods are called, tasks fire, delays are set and times the clock reads. -/
theorem at_most_one_of_each (config : JettyContinuation.SocketIOConfig) (persistent : Bool)
    (is : List (Input ((HttpEvent ⊕ SessionCall) ⊕ TimerCall))) (wsConfig : JettyWebSocket.SocketIOConfig)
    (js : List (Input ((SocketEvent ⊕ SessionCall) ⊕ TimerCall))) :
    OneOfEach (run (anyTimerCall serveHttp) (JettyContinuation.created config persistent) is) ∧
      OneOfEach (run (anyTimerCall serveSocket) (JettyWebSocket.created wsConfig) js) :=
  ⟨(Http.handles.inv_run Http.along_serve (inv_of_idle rfl rfl) is).oneOfEach,
    (Socket.handles.inv_run Socket.along_serve (inv_of_idle rfl rfl) js).oneOfEach⟩

end SocketIOJava.PendingTimers
