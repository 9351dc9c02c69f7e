/-
Who watches a connected session of a polling HTTP handler, and the result for all three kinds of sessions.

`watcher` reads off the history who notices that the client is gone: the container, while a poll is parked, or a timeout
task, after a poll was answered or released; or nobody.

- `watched_iff`: in every state that a run reaches with the session CONNECTED, somebody watches it exactly when the
  history says so: since the session was connected, something was heard (WebSocket, persistent HTTP), or the last turn of
  the polls left a watcher (polling).
- `connected_unwatched`: nobody does right after the connect request.
-/
import SocketIOJava.JettyWatch

namespace SocketIOJava.Watch

open Program SocketIOJava.Text SocketIOJava.Frame SocketIOJava.Session SocketIOJava.Buffer SocketIOJava.Run
  SocketIOJava.Traversal Guard

/-! ## The polling HTTP handler -/

namespace Polling

open JettyContinuation

inductive Watcher where
  | nobody
  | timer
  | poll
deriving DecidableEq

/-- who watches after a history, the latest entry first -/
def watcher : List Entry → Watcher
  | [] => .nobody
  | .parked :: _ => .poll
  | .answered :: _ | .released :: _ => .timer
  | .completed :: _ => .nobody
  | .finished failed :: past => if failed ∨ watcher past = .timer then watcher past else .nobody
  | .received f :: past => if f.frameType = .heartbeat ∧ watcher past = .timer then .nobody else watcher past
  | _ :: past => watcher past

/-- a GET is waiting for messages -/
def parkedPoll (h : Handler) : Bool := h.continuation.any Continuation.suspended

/-- who watches now -/
def watching (h : Handler) (pending : List Session.Task) : Watcher :=
  if parkedPoll h then .poll else if pending = [] then .nobody else .timer

/-- the timers of a polling session: at most one timeout task is pending, and its start is noted -/
structure Clocks (s : St Handler) : Prop where
  timeout : 0 < s.session.timeout
  hbDelay : s.session.hbDelay = 0
  hbDelayTask : s.session.hbDelayTask = none
  persistent : s.handler.persistent = false
  task : ∀ t ∈ s.executor.pending, t.kind = .onTimeout ∧ s.session.timeoutTask = some t
  stopped : s.session.lStartTime = 0 → s.executor.pending = []

/-- a parked poll leaves no message and no timeout task behind -/
structure Live (v : View Handler) : Prop where
  inbound : v.session.inbound = true
  timedout : v.session.timedout = false
  idle : v.handler.continuation ≠ none → v.handler.buffer.isEmpty = true ∧ v.pending = []
  watched : watcher v.heard = watching v.handler v.pending

section

variable {s : St Handler}

theorem Clocks.pending_clearTimeoutTimer (h : Clocks s) : (clearTimeoutTimer s).executor.pending = [] := by
  refine List.filter_eq_nil_iff.2 fun t ht => ?_
  rw [(h.task t ht).2]
  simp

theorem Clocks.pending_clearHeartbeatTimer (h : Clocks s) :
    (clearHeartbeatTimer s).executor.pending = s.executor.pending := by
  refine List.filter_eq_self.2 fun t _ => ?_
  rw [h.hbDelayTask]
  simp

/-- a polling session has no heartbeat -/
theorem Clocks.startHeartbeatTimer_eq (h : Clocks s) : startHeartbeatTimer s = clearHeartbeatTimer s := by
  unfold startHeartbeatTimer
  rw [h.hbDelay]
  simp

theorem Clocks.clearTimeout (h : Clocks s) : Clocks (clearTimeoutTimer s) := by
  refine ⟨h.timeout, h.hbDelay, h.hbDelayTask, h.persistent, fun x hx => ?_, fun _ => h.pending_clearTimeoutTimer⟩
  rw [h.pending_clearTimeoutTimer] at hx
  cases hx

/-- after the start time is noted, no task is pending -/
theorem Clocks.stamp (h : Clocks s) :
    Clocks (stamp s) ∧ (stamp s).executor.pending = [] ∧ (stamp s).session.lStartTime ≠ 0 := by
  by_cases hstart : s.session.lStartTime = 0
  · have hpending := h.stopped hstart
    simp only [Session.stamp, hstart, ne_eq, not_true_eq_false, if_false]
    exact ⟨⟨h.timeout, h.hbDelay, h.hbDelayTask, h.persistent, h.task, fun _ => hpending⟩, hpending, Nat.succ_ne_zero _⟩
  · have hc := h.clearTimeout
    have hpending := h.pending_clearTimeoutTimer
    simp only [Session.stamp, hstart, ne_eq, not_false_eq_true, if_true]
    exact ⟨⟨hc.timeout, hc.hbDelay, hc.hbDelayTask, hc.persistent, hc.task, fun _ => hpending⟩, hpending,
      Nat.succ_ne_zero _⟩

theorem Clocks.startTimeout (h : Clocks s) : Clocks (startTimeoutTimer s) := by
  obtain ⟨hc, hpending, hstart⟩ := h.stamp
  unfold startTimeoutTimer
  split_ifs
  · refine ⟨hc.timeout, hc.hbDelay, hc.hbDelayTask, hc.persistent, fun t ht => ?_, fun h0 => absurd h0 hstart⟩
    change t ∈ (Session.stamp s).executor.pending ++ [_] at ht
    rw [hpending, List.nil_append, List.mem_singleton] at ht
    exact ⟨ht ▸ rfl, congrArg some ht.symm⟩
  · exact hc

end

def guard : Guard Handler where
  clocks := Clocks
  live := Live
  same s s' hclock h := by
    simp only [clock, Prod.mk.injEq] at hclock
    obtain ⟨hpending, hdelay, htimeout, hbtask, htask, hstart, hhandler⟩ := hclock
    refine ⟨htimeout ▸ h.timeout, hdelay ▸ h.hbDelay, hbtask ▸ h.hbDelayTask, hhandler ▸ h.persistent, ?_, ?_⟩
    · rw [hpending, htask]; exact h.task
    · rw [hpending, hstart]; exact h.stopped
  fired s t h := by
    refine ⟨h.timeout, h.hbDelay, h.hbDelayTask, h.persistent, fun x hx => h.task x (List.mem_of_mem_erase hx), ?_⟩
    intro hstart
    change s.executor.pending.erase t = []
    rw [h.stopped hstart, List.erase_nil]
  clearTimeout _ h := h.clearTimeout
  clearHeartbeat s h := by
    refine ⟨h.timeout, h.hbDelay, rfl, h.persistent, ?_, ?_⟩
    · rw [h.pending_clearHeartbeatTimer]; exact h.task
    · rw [h.pending_clearHeartbeatTimer]; exact h.stopped
  startTimeout _ h := h.startTimeout
  inbound _ h := h.inbound
  timedout _ h := h.timedout

/-! ### Steps -/

theorem clocks_of_handler (s : St Handler) (h : Handler) (hp : h.persistent = s.handler.persistent)
    (hs : guard.clocks s) : guard.clocks { s with handler := h } :=
  ⟨hs.timeout, hs.hbDelay, hs.hbDelayTask, hp.trans hs.persistent, hs.task, hs.stopped⟩

/-- the watcher depends on the heeded entries only -/
theorem watcher_filter (log : List Entry) : watcher (log.filter heeded) = watcher log := by
  induction log with
  | nil => rfl
  | cons e log ih =>
    by_cases he : heeded e = true
    · rw [List.filter_cons_of_pos he]
      cases e <;> simp only [watcher, ih]
    · rw [List.filter_cons_of_neg he, ih]
      cases e with
      | received f => exact (if_neg fun h => he (decide_eq_true h.1)).symm
      | _ => first | rfl | exact absurd rfl he

theorem Live.log {s : St Handler} (h : Live (view s)) : watcher s.log = watching s.handler s.executor.pending :=
  (watcher_filter s.log).symm.trans h.watched

/-- what a step has to do to keep the guard -/
theorem keeps_of {s s' : St Handler} (hsame : SameSettings s s') (hclocks : Clocks s → Clocks s')
    (hidle : Clocks s → Live (view s) → s'.handler.continuation ≠ none →
      s'.handler.buffer.isEmpty = true ∧ s'.executor.pending = [])
    (hwatched : Clocks s → Live (view s) → watcher s'.log = watching s'.handler s'.executor.pending) : guard.Keeps s s' := by
  intro h
  refine ⟨⟨hclocks h.clocks, fun hc => ?_⟩, fun hs => hsame.state ▸ hs⟩
  have hl := h.live (hsame.state ▸ hc)
  refine ⟨hsame.inbound.trans hl.inbound, hsame.timedout.trans hl.timedout, hidle h.clocks hl, ?_⟩
  exact (watcher_filter s'.log).trans (hwatched h.clocks hl)

theorem watching_nobody {h : Handler} (hp : parkedPoll h = false) : watching h [] = .nobody := by
  simp [watching, hp]

theorem watching_timer {h : Handler} (hp : parkedPoll h = false) {pending : List Session.Task} (hne : pending ≠ []) :
    watching h pending = .timer := by
  simp [watching, hp, hne]

/-- a timeout timer is started after a poll -/
theorem restart {s : St Handler} (h : Clocks s)
    (hlive : s.session.state = .connected → s.session.inbound = true ∧ s.session.timedout = false)
    (hc : s.handler.continuation = none) (hw : watcher s.log = .timer) : guard.Inv (startTimeoutTimer s) := by
  have hsame := settings_startTimeoutTimer s
  have hlog := startTimeoutTimer_log s
  have hhandler := startTimeoutTimer_handler s
  refine ⟨h.startTimeout, fun hconnected => ?_⟩
  obtain ⟨hinbound, htimedout⟩ := hlive (hsame.state ▸ hconnected)
  have hpending := startTimeoutTimer_pending htimedout h.timeout
  have hnone : (startTimeoutTimer s).handler.continuation = none := by rw [hhandler, hc]
  refine ⟨hsame.inbound.trans hinbound, hsame.timedout.trans htimedout, fun hne => absurd hnone hne, ?_⟩
  have hunparked : parkedPoll (startTimeoutTimer s).handler = false := by rw [parkedPoll, hnone]; rfl
  calc watcher ((startTimeoutTimer s).log.filter heeded) = watcher (startTimeoutTimer s).log := watcher_filter _
    _ = .timer := by rw [hlog, hw]
    _ = watching (startTimeoutTimer s).handler (startTimeoutTimer s).executor.pending :=
      (watching_timer hunparked hpending).symm

/-- an entry that says nothing about polls -/
theorem keeps_ignored {e : Entry} (he : ∀ past, watcher (e :: past) = watcher past) (s : St Handler) :
    guard.Keeps s (s.push e) :=
  keeps_of ⟨rfl, rfl, rfl, rfl, rfl, rfl⟩ (guard.same s (s.push e) rfl) (fun _ hl => hl.idle) fun _ hl => (he _).trans hl.log

theorem keeps_drain (s : St Handler) : guard.Keeps s (setBuffer s.handler.buffer.drainMessages.2 s) :=
  keeps_of ⟨rfl, rfl, rfl, rfl, rfl, rfl⟩ (clocks_of_handler s _ rfl) (fun _ hl hc => ⟨rfl, (hl.idle hc).2⟩) fun _ hl => hl.log

theorem keeps_put {s : St Handler} (hc : s.handler.continuation = none) (b : TransportBuffer) :
    guard.Keeps s (setBuffer b s) :=
  keeps_of ⟨rfl, rfl, rfl, rfl, rfl, rfl⟩ (clocks_of_handler s _ rfl) (fun _ _ hne => absurd hc hne) fun _ hl => hl.log

/-- a poll is completed by a message: nobody watches from then on -/
theorem keeps_completed {s : St Handler} (hc : s.handler.continuation ≠ none) :
    guard.Keeps s (setContinuation none (s.push .completed)) := by
  refine keeps_of ⟨rfl, rfl, rfl, rfl, rfl, rfl⟩ (fun h => ?_) (fun _ _ hne => absurd rfl hne) fun _ hl => ?_
  · exact clocks_of_handler (s.push .completed) { s.handler with continuation := none } rfl (guard.same s _ rfl h)
  · have hpending : s.executor.pending = [] := (hl.idle hc).2
    change Watcher.nobody = watching _ s.executor.pending
    rw [hpending]
    exact (watching_nobody rfl).symm

theorem keeps_startHeartbeatTimer (s : St Handler) : guard.Keeps s (startHeartbeatTimer s) := by
  have hlog := startHeartbeatTimer_log s
  have hhandler := startHeartbeatTimer_handler s
  have hpending : Clocks s → (startHeartbeatTimer s).executor.pending = s.executor.pending :=
    fun h => h.startHeartbeatTimer_eq ▸ h.pending_clearHeartbeatTimer
  refine keeps_of (settings_startHeartbeatTimer s) (fun h => ?_) (fun h hl hc => ?_) fun h hl => ?_
  · rw [h.startHeartbeatTimer_eq]
    exact guard.clearHeartbeat s h
  · rw [hhandler] at hc ⊢
    rw [hpending h]
    exact hl.idle hc
  · rw [hlog, hl.log, hhandler, hpending h]

/-- a text is written to the poll, which is then completed -/
theorem keeps_sendNow {s : St Handler} {cont : Continuation} (hc : s.handler.continuation = some cont) (data : JString) :
    guard.Keeps s (sendNow cont data s).2 := by
  have hwritten : guard.Keeps s (written data s) :=
    IsTrans.trans _ (s.push (.wrote data s.nextWriteFails)) _ (keeps_ignored (fun _ => rfl) s) (keeps_of_view rfl)
  cases hio : s.nextWriteFails with
  | true => rw [sendNow_fails hio]; exact hwritten
  | false =>
    rw [sendNow_ok hio]
    by_cases hp : (!s.handler.persistent && !cont.initial) = true
    · rw [if_pos hp]
      refine IsTrans.trans _ _ _ hwritten (IsTrans.trans _ _ _ (keeps_completed (s := written data s) ?_) ?_)
      · rw [show (written data s).handler.continuation = some cont from hc]
        exact Option.some_ne_none _
      · exact Along.ite (R := guard.Keeps) (fun _ => along_pure _) (fun _ => along_stop _) _
    · rw [if_neg hp]
      exact IsTrans.trans _ _ _ hwritten (keeps_startHeartbeatTimer _)

variable {n : ℕ} (hcall : ∀ c, Along guard.Keeps (app n c))

/-- a heartbeat frame clears the timeout timer, and no heartbeat follows -/
theorem keeps_received (s : St Handler) (f : SocketIOFrame) (hf : f.frameType = .heartbeat) :
    guard.Keeps s (startHeartbeatTimer (onPong (s.push (.received f)))) := by
  refine IsTrans.trans _ (clearTimeoutTimer (s.push (.received f))) _ ?_ (keeps_startHeartbeatTimer _)
  have hpending : Clocks s → (clearTimeoutTimer (s.push (.received f))).executor.pending = [] :=
    fun h => h.pending_clearTimeoutTimer
  refine keeps_of ⟨rfl, rfl, rfl, rfl, rfl, rfl⟩ (fun h => ?_) (fun h hl hc => ⟨(hl.idle hc).1, hpending h⟩) fun h hl => ?_
  · exact guard.clearTimeout _ (guard.same s (s.push (.received f)) rfl h)
  · rw [hpending h]
    change (if f.frameType = .heartbeat ∧ watcher s.log = .timer then .nobody else watcher s.log) = watching s.handler []
    rw [hl.log]
    cases hp : parkedPoll s.handler with
    | true => simp [watching, hp]
    | false => by_cases hne : s.executor.pending = [] <;> simp [watching, hp, hf, hne]

section

include hcall

/-- a frame is buffered, or the session ends -/
theorem keeps_sendLater {s : St Handler} (hc : s.handler.continuation = none) (data : JString) :
    guard.Keeps s (sendLater (app n) data s).2 := by
  have habort := along_keeps_of_ends (Http.along_abort clocks_of_handler hcall)
  have hend : Along guard.Keeps (do
      Session.onDisconnect (app n) .timeout; abort (app n); raise .socketIOException : M Handler Unit) :=
    (along_keeps_of_ends (along_onDisconnect hcall _)).bind fun _ => habort.bind fun _ => along_stop _
  unfold sendLater
  rw [get_bind]
  refine bind_related (keeps_put hc _) fun _ => ?_
  exact Along.ite (fun _ => hend) fun _ => along_pure _

theorem along_sendMessage (f : SocketIOFrame) : Along guard.Keeps (sendMessage (app n) f) := by
  refine (along_modify fun s => keeps_push rfl s).bind fun _ => along_get.bind fun s => ?_
  refine Along.ite (fun _ s => ?_) fun _ => along_stop _
  cases hc : s.handler.continuation with
  | none =>
    rw [deliver_later hc]
    exact keeps_sendLater hcall hc _
  | some cont =>
    rw [deliver_now hc]
    exact IsTrans.trans _ _ _ (keeps_drain s) (keeps_sendNow (s := setBuffer s.handler.buffer.drainMessages.2 s) hc _)

theorem handles : Handles guard (app n) where
  send := along_sendMessage hcall
  abort := Http.along_abort clocks_of_handler hcall
  disconnect := Http.along_terminate clocks_of_handler hcall _
  disconnectWhenEmpty := along_modify fun s =>
    keeps_of ⟨rfl, rfl, rfl, rfl, rfl, rfl⟩ (clocks_of_handler s { s.handler with disconnectWhenEmpty := true } rfl)
      (fun _ hl => hl.idle) fun _ hl => hl.log
  setNamespace a := along_modify fun s =>
    keeps_of ⟨rfl, rfl, rfl, rfl, rfl, rfl⟩ (clocks_of_handler s { s.handler with endpoint := a } rfl)
      (fun _ hl => hl.idle) fun _ hl => hl.log
  isOpen := along_get.bind fun _ => along_pure _
  heartbeat := keeps_received

end

/-! ### Requests -/

/-- no poll is there, as long as the session is connected -/
def Unparked (s : St Handler) : Prop := s.session.state = .connected → s.handler.continuation = none

/-- the guard is kept, and no poll comes -/
def Aside (s s' : St Handler) : Prop := guard.Keeps s s' ∧ (Unparked s → Unparked s')

instance : Std.Refl Aside := ⟨fun _ => ⟨Std.Refl.refl _, id⟩⟩

instance : IsTrans (St Handler) Aside := ⟨fun _ _ _ h h' => ⟨IsTrans.trans _ _ _ h.1 h'.1, h'.2 ∘ h.2⟩⟩

/-- without a poll, the guard is kept -/
def Answers (s s' : St Handler) : Prop := Unparked s → guard.Keeps s s'

theorem along_answers_bind {α β : Type} {m : M Handler α} {k : α → M Handler β} (hm : Along Aside m)
    (hk : ∀ a, Along Answers (k a)) : Along Answers (m >>= k) :=
  hm.comp hk (fun _ _ h _ => h.1) fun _ _ _ h h' hu => IsTrans.trans _ _ _ h.1 (h' (h.2 hu))

theorem aside_write : Along Aside (write : M Handler Unit) := along_write_of fun _ => ⟨keeps_of_view rfl, id⟩

theorem aside_onWriteData (data : JString) : Along Aside (onWriteData data) :=
  (along_modify fun s => ⟨keeps_ignored (fun _ => rfl) s, id⟩).bind fun _ => aside_write

theorem keeps_answered {s : St Handler} (hu : Unparked s) : guard.Keeps s (startTimeoutTimer (s.push .answered)) := by
  intro h
  have hstate := (settings_startTimeoutTimer (s.push .answered)).state
  refine ⟨?_, fun hs => hstate ▸ hs⟩
  by_cases hc : s.session.state = .connected
  · refine restart (guard.same s (s.push .answered) rfl h.clocks) (fun hc => ?_) (hu hc) rfl
    exact ⟨(h.live hc).inbound, (h.live hc).timedout⟩
  · exact .of_not_connected (guard.startTimeout _ (guard.same s (s.push .answered) rfl h.clocks)) (hstate ▸ hc)

theorem keeps_released (s : St Handler) : guard.Keeps s (startTimeoutTimer (setContinuation none (s.push .released))) := by
  intro h
  have hstate := (settings_startTimeoutTimer (setContinuation none (s.push .released))).state
  have hclocks : Clocks (setContinuation none (s.push .released)) :=
    clocks_of_handler (s.push .released) { s.handler with continuation := none } rfl (guard.same s _ rfl h.clocks)
  refine ⟨restart hclocks (fun hc => ?_) rfl rfl, fun hs => hstate ▸ hs⟩
  exact ⟨(h.live hc).inbound, (h.live hc).timedout⟩

theorem keeps_parked {s : St Handler} (hbuffer : s.handler.buffer.isEmpty = true) :
    guard.Keeps s (suspend (getContinuation (clearTimeoutTimer (s.push .parked)))) := by
  have hcleared : Clocks s → Clocks (clearTimeoutTimer (s.push .parked)) :=
    fun h => guard.clearTimeout _ (guard.same s (s.push .parked) rfl h)
  refine keeps_of ⟨rfl, rfl, rfl, rfl, rfl, rfl⟩ (fun h => ?_) (fun h _ _ => ⟨hbuffer, ?_⟩) fun _ _ => rfl
  · exact clocks_of_handler (clearTimeoutTimer (s.push .parked)) _ rfl (hcleared h)
  · exact (guard.same s (s.push .parked) rfl h : Clocks (s.push .parked)).pending_clearTimeoutTimer

theorem keeps_dispatched (s : St Handler) : guard.Keeps s (endDispatch s) := by
  refine keeps_of ⟨rfl, rfl, rfl, rfl, rfl, rfl⟩ (clocks_of_handler s (endDispatch s).handler rfl) (fun _ hl hc => ?_)
    fun _ hl => ?_
  · exact hl.idle fun hnone => hc (Option.map_eq_none_iff.2 hnone)
  · have hparked : parkedPoll (endDispatch s).handler = parkedPoll s.handler := by
      change (s.handler.continuation.map _).any Continuation.suspended = s.handler.continuation.any Continuation.suspended
      cases s.handler.continuation <;> rfl
    refine hl.log.trans ?_
    unfold watching
    rw [hparked]
    rfl

/-- the connect request's own continuation is dropped -/
theorem keeps_finished {s : St Handler} {io : List Bool} :
    guard.Keeps s (setContinuation none { s.push (.finished false) with io := io }) := by
  refine keeps_of ⟨rfl, rfl, rfl, rfl, rfl, rfl⟩ (fun h => ?_) (fun _ _ hne => absurd rfl hne) fun _ hl => ?_
  · let s₁ : St Handler := { s.push (.finished false) with io := io }
    exact clocks_of_handler s₁ { s.handler with continuation := none } rfl (guard.same s s₁ rfl h)
  · have hdropped : parkedPoll { s.handler with continuation := none } = false := rfl
    change (if false = true ∨ watcher s.log = .timer then watcher s.log else .nobody) =
      watching { s.handler with continuation := none } s.executor.pending
    rw [hl.log]
    cases hp : parkedPoll s.handler with
    | true =>
      have hcont : s.handler.continuation ≠ none := fun hnone => by simp [parkedPoll, hnone] at hp
      rw [show s.executor.pending = [] from (hl.idle hcont).2, watching_nobody hdropped]
      simp [watching, hp]
    | false =>
      by_cases hne : s.executor.pending = []
      · rw [hne, watching_nobody hp, watching_nobody hdropped]
        rfl
      · rw [watching_timer hp hne, watching_timer hdropped hne]
        rfl

theorem along_finish : Along guard.Keeps finish := by
  intro s h
  unfold finish
  rw [get_bind, modify_bind]
  cases hio : s.nextWriteFails with
  | true =>
    have hpushed := keeps_ignored (e := .finished true) (fun _ => if_pos (.inl rfl)) s
    rw [bind_of_error (write_fails (s := s.push (.finished true)) hio)]
    exact (hpushed h).imp (fun hi => hi.of_view rfl) id
  | false =>
    have hpolling : ({ s.push (.finished false) with io := s.io.tail } : St Handler).handler.persistent = false :=
      h.clocks.persistent
    rw [bind_of_ok (write_ok (s := s.push (.finished false)) hio), get_bind, if_neg (Bool.eq_false_iff.1 hpolling)]
    exact keeps_finished h

section

include hcall

theorem along_answer : Along Answers (answer (app n)) := by
  have habort : Along Answers (abort (app n)) :=
    (along_keeps_of_ends (Http.along_abort clocks_of_handler hcall)).mono fun _ _ h _ => h
  have hrest : ∀ data, Along Answers (do write; onWriteData data; answered (app n) : M Handler Unit) := by
    intro data
    refine along_answers_bind aside_write fun _ => along_answers_bind (aside_onWriteData data) fun _ => ?_
    refine along_answers_bind aside_write fun _ => along_answers_bind along_get fun s => ?_
    exact Along.ite (fun _ => along_modify fun _ => keeps_answered) fun _ => habort
  intro s hu
  exact IsTrans.trans _ _ _ (keeps_drain s) (hrest _ (setBuffer s.handler.buffer.drainMessages.2 s) hu)

/-- the container released the poll: its response is finished, and the timeout timer is started -/
theorem keeps_expired {s : St Handler} : guard.Keeps s
    ((do expirePoll (app n); modify startTimeoutTimer : M Handler Unit) (setContinuation none (s.push .released))).2 := by
  intro h
  let s₁ := setContinuation none (s.push .released)
  have hclocks : Clocks s₁ :=
    clocks_of_handler (s.push .released) { s.handler with continuation := none } rfl (guard.same s _ rfl h.clocks)
  have hlive : s.session.state = .connected → s.session.inbound = true ∧ s.session.timedout = false :=
    fun hc => ⟨(h.live hc).inbound, (h.live hc).timedout⟩
  have hend : ∀ s₂ : St Handler, Clocks s₂ → s₂.session = s.session → expirePoll (app n) s₁ = terminate (app n) .disconnect s₂ →
      guard.Inv ((do expirePoll (app n); modify startTimeoutTimer : M Handler Unit) s₁).2 ∧
        ((do expirePoll (app n); modify startTimeoutTimer : M Handler Unit) s₁).2.session.state ≠ .connected := by
    intro s₂ hclocks₂ hsession heq
    have hends := (Http.along_terminate clocks_of_handler hcall .disconnect s₂).start
    obtain ⟨hclocks', hstate⟩ := hends hclocks₂ fun hc => hsession ▸ (hlive (hsession ▸ hc)).1
    rw [bind_of_eq heq]
    exact ⟨.of_not_connected hclocks' hstate, hstate⟩
  rcases expirePoll_cases (app n) s₁ with ⟨-, heq⟩ | ⟨-, heq⟩
  · exact (hend s₁ hclocks rfl heq).imp id fun hstate _ => hstate
  · let s₂ : St Handler := { s₁ with io := s₁.io.tail }
    have hclocks₂ : Clocks s₂ := guard.same s₁ s₂ rfl hclocks
    cases hio : s₁.nextWriteFails with
    | true =>
      have hcaught := (catching_of_error (write_fails hio) Abrupt.isIOException (terminate (app n) .disconnect)).trans
        (if_pos rfl)
      exact (hend s₂ hclocks₂ rfl (heq.trans hcaught)).imp id fun hstate _ => hstate
    | false =>
      rw [bind_of_ok (heq.trans (catching_of_ok (write_ok hio) _ _))]
      refine ⟨restart hclocks₂ hlive rfl rfl, fun hs => ?_⟩
      rw [modify_apply, (settings_startTimeoutTimer s₂).state]
      exact hs

theorem requests : Http.Requests guard (app n) where
  dispatched := keeps_dispatched
  answer s _ hbuffer h := by
    refine along_answer hcall s (fun hc => ?_) h
    by_contra hne
    exact absurd ((h.live hc).idle hne).1 (by rw [show (view s).handler = s.handler from rfl, hbuffer]; exact Bool.false_ne_true)
  park s _ hbuffer := bind_related (keeps_parked hbuffer) fun _ => along_write
  released s _ := keeps_released s
  expired s _ := keeps_expired hcall

/-- the request that creates the session -/
theorem connect_inv {config : SocketIOConfig} (ht : 0 < config.timeout.getD DEFAULT_TIMEOUT) (acts : List Act)
    (io : List Bool) : guard.Inv (connect (app n) { created config false with acts := acts, io := io }).2 := by
  have hclocks : guard.clocks { created config false with acts := acts, io := io } :=
    ⟨ht, rfl, rfl, rfl, nofun, fun _ => rfl⟩
  exact Http.connect_inv clocks_of_handler ((handles hcall).kept hcall) keeps_dispatched along_finish hclocks nofun
    ⟨rfl, rfl, fun _ => ⟨rfl, rfl⟩, rfl⟩

end

end Polling

/-! ## Every reachable state -/

section

variable {η : Type}

/-- a heartbeat task is pending, or a timeout task is -/
def TaskPending (s : St η) : Prop :=
  (∃ t ∈ s.executor.pending, t.kind = .sendPing) ∨ ∃ t ∈ s.executor.pending, t.kind = .onTimeout

instance (s : St η) : Decidable (TaskPending s) := inferInstanceAs (Decidable (_ ∨ _))

theorem taskPending_iff (s : St η) : TaskPending s ↔ s.executor.pending ≠ [] := by
  constructor
  · rintro (⟨t, ht, -⟩ | ⟨t, ht, -⟩) <;> exact List.ne_nil_of_mem ht
  · intro h
    obtain ⟨t, ht⟩ := List.exists_mem_of_ne_nil _ h
    cases hk : t.kind with
    | sendPing => exact .inl ⟨t, ht, hk⟩
    | onTimeout => exact .inr ⟨t, ht, hk⟩

/-- the events after the connect request -/
def Later {κ : Type} (connect : κ) (is : List (Input κ)) : Prop := ∀ i ∈ is, i.event ≠ .container connect

variable [TransportHandler η]

theorem call_keeps {g : Guard η} (handles : ∀ n, (∀ c, Along g.Keeps (app n c : M η (List JString))) → Handles g (app n))
    (n : ℕ) (c : InboundCall) : Along g.Keeps (app n c : M η (List JString)) :=
  along_call (fun m _ => kept_app handles m) c

/-- a guard that holds after the connect request holds in every state that is reached later -/
theorem connected_inv {κ : Type} {serve : Callback η → κ → M η Unit} {connect : κ} {g : Guard η}
    (handles : ∀ n, (∀ c, Along g.Keeps (app n c : M η (List JString))) → Handles g (app n))
    (hping : ∀ n s t, g.Inv s → t ∈ s.executor.pending → t.kind = .sendPing → s.session.state = .connected →
      g.Inv (sendPing (app n) (startTask t s)).2)
    (hlater : ∀ n e, e ≠ connect → Along g.Keeps (serve (app n) e)) {s : St η} {acts : List Act} {io : List Bool}
    (hconnect : g.Inv (serve (app (acts.length + 1)) connect { s with acts := acts, io := io }).2)
    {is : List (Input κ)} (his : Later connect is) : g.Inv (run serve s (⟨.container connect, acts, io⟩ :: is)) := by
  refine run_inv (s := step serve s ⟨.container connect, acts, io⟩) handles hping (fun n i hi x hx => ?_) hconnect
  exact hlater n x fun hc => his i hi (hc ▸ hx)

end

theorem Guard.Inv.taskPending_iff {η : Type} {kind present : η → Prop} {hears : Entry → Bool} {s : St η}
    (h : (beating kind present hears).Inv s) (hheeded : ∀ e, hears e = true → heeded e = true)
    (hs : s.session.state = .connected) : TaskPending s ↔ ∃ e ∈ s.log, hears e := by
  refine (Watch.taskPending_iff s).trans ((h.live hs).watched.trans ?_)
  constructor
  · rintro ⟨e, he, hhears⟩
    exact ⟨e, List.mem_of_mem_filter he, hhears⟩
  · rintro ⟨e, he, hhears⟩
    exact ⟨e, List.mem_filter.2 ⟨he, hheeded e hhears⟩, hhears⟩

theorem Polling.watched_of_inv {s : St JettyContinuation.Handler} (h : Polling.guard.Inv s)
    (hs : s.session.state = .connected) :
    TaskPending s ∨ Polling.parkedPoll s.handler ↔ Polling.watcher s.log ≠ .nobody := by
  rw [taskPending_iff, (h.live hs).log]
  unfold Polling.watching
  cases Polling.parkedPoll s.handler with
  | true => simp
  | false => by_cases hne : s.executor.pending = [] <;> simp [hne]

/-- **Who watches a connected session**, in every state that a run reaches with the session CONNECTED. On a WebSocket: a
heartbeat or timeout task is pending exactly if a text message was received since the connect request. Over a persistent
HTTP connection: exactly if a frame was written to it, or a heartbeat frame was received. Polling: such a task is pending
or a poll is parked, exactly if the last turn of the polls left a watcher. -/
theorem watched_iff (wsConfig : JettyWebSocket.SocketIOConfig) (config : JettyContinuation.SocketIOConfig)
    (acts : List Act) (io : List Bool) (is : List (Input SocketEvent)) (js : List (Input HttpEvent)) :
    (0 < wsConfig.heartbeatDelay.getD JettyWebSocket.DEFAULT_HEARTBEAT_DELAY →
      0 < wsConfig.heartbeatTimeout.getD JettyWebSocket.DEFAULT_HEARTBEAT_TIMEOUT → Later .connect is →
      let s := run serveSocket (JettyWebSocket.created wsConfig) (⟨.container .connect, acts, io⟩ :: is)
      s.session.state = .connected → (TaskPending s ↔ ∃ e ∈ s.log, Socket.hears e)) ∧
    (0 < config.heartbeatDelay.getD JettyContinuation.DEFAULT_HEARTBEAT_DELAY →
      0 < config.heartbeatTimeout.getD JettyContinuation.DEFAULT_HEARTBEAT_TIMEOUT → Later .connect js →
      let s := run serveHttp (JettyContinuation.created config true) (⟨.container .connect, acts, io⟩ :: js)
      s.session.state = .connected → (TaskPending s ↔ ∃ e ∈ s.log, Stream.hears e)) ∧
    (0 < config.timeout.getD JettyContinuation.DEFAULT_TIMEOUT → Later .connect js →
      let s := run serveHttp (JettyContinuation.created config false) (⟨.container .connect, acts, io⟩ :: js)
      s.session.state = .connected →
        (TaskPending s ∨ Polling.parkedPoll s.handler ↔ Polling.watcher s.log ≠ .nobody)) := by
  refine ⟨?_, ?_, ?_⟩
  · intro hdelay htimeout his
    have hcall := call_keeps Socket.handles
    have hinv := connected_inv Socket.handles
      (fun n s t h ht _ hc => ping_keeps Socket.delivers (Socket.along_abort (hcall n)) h ht hc)
      (fun n e => Socket.along_later (hcall n)) (Socket.connect_inv hdelay htimeout (hcall _) acts io) his
    exact hinv.taskPending_iff fun e he => by cases e <;> first | rfl | exact he
  · intro hdelay htimeout hjs
    have hhandles : ∀ n, (∀ c, Along Stream.guard.Keeps (app n c)) → Handles Stream.guard (app n) := fun n => Stream.handles
    have hcall := call_keeps hhandles
    have hkept := kept_app hhandles
    have hinv := connected_inv hhandles
      (fun n s t h ht _ hc =>
        ping_keeps Stream.delivers (Http.along_abort Stream.clocks_of_handler (hcall n)) h ht hc)
      (fun n e => Http.along_later Stream.clocks_of_handler (hcall n) (hkept n) Stream.requests)
      (Stream.connect_inv (hcall _) hdelay htimeout acts io) hjs
    exact hinv.taskPending_iff fun e he => by cases e <;> first | rfl | exact he
  · intro htimeout hjs
    have hhandles : ∀ n, (∀ c, Along Polling.guard.Keeps (app n c)) → Handles Polling.guard (app n) :=
      fun n => Polling.handles
    have hcall := call_keeps hhandles
    have hkept := kept_app hhandles
    -- a polling session has no heartbeat
    have hinv := connected_inv hhandles
      (fun n s t h ht hk _ => absurd ((h.clocks.task t ht).1.symm.trans hk) nofun)
      (fun n e => Http.along_later Polling.clocks_of_handler (hcall n) (hkept n) (Polling.requests (hcall n)))
      (Polling.connect_inv (hcall _) htimeout acts io) hjs
    exact Polling.watched_of_inv hinv

/-- a heartbeat arrives, a message is written to an open response, a poll is parked: somebody watches -/
theorem watched_after_turn :
    TaskPending (run serveSocket (JettyWebSocket.created ⟨none, none⟩)
      [⟨.container .connect, [], []⟩, ⟨.container (.text (str "2:::")), [], []⟩]) ∧
    TaskPending (run serveHttp (JettyContinuation.created ⟨none, none, none, none⟩ true)
      [⟨.container .connect, [.call (.sendMessage (str "hello"))], []⟩]) ∧
    let s := run serveHttp (JettyContinuation.created ⟨none, none, none, none⟩ false)
      [⟨.container .connect, [], []⟩, ⟨.container .get, [], []⟩]
    TaskPending s ∨ Polling.parkedPoll s.handler := by
  refine ⟨?_, ?_, ?_⟩
  · exact ((watched_iff ⟨none, none⟩ ⟨none, none, none, none⟩ [] [] _ []).1 (by decide) (by decide) (by simp [Later])
      (by decide)).2 (by decide)
  · exact ((watched_iff ⟨none, none⟩ ⟨none, none, none, none⟩ _ [] [] []).2.1 (by decide) (by decide) (by simp [Later])
      (by decide)).2 (by decide)
  · exact ((watched_iff ⟨none, none⟩ ⟨none, none, none, none⟩ [] [] [] _).2.2 (by decide) (by simp [Later])
      (by decide)).2 (by decide)

/-- **Nobody watches right after the connect request**, with the default settings of each handler. -/
theorem connected_unwatched :
    (let s := run serveSocket (JettyWebSocket.created ⟨none, none⟩) [⟨.container .connect, [], []⟩]
     s.session.state = .connected ∧ 0 < s.session.hbDelay ∧ 0 < s.session.timeout ∧ ¬ TaskPending s) ∧
    (let s := run serveHttp (JettyContinuation.created ⟨none, none, none, none⟩ true) [⟨.container .connect, [], []⟩]
     s.session.state = .connected ∧ 0 < s.session.hbDelay ∧ 0 < s.session.timeout ∧ ¬ TaskPending s) ∧
    let s := run serveHttp (JettyContinuation.created ⟨none, none, none, none⟩ false) [⟨.container .connect, [], []⟩]
    s.session.state = .connected ∧ 0 < s.session.timeout ∧ ¬ TaskPending s ∧ Polling.parkedPoll s.handler = false := by
  decide

end SocketIOJava.Watch
