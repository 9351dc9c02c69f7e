/-
Calls of the application on the outbound of a session that has ended.

The polling handler keeps its end in the flag `is_open`, the WebSocket handler in its connection, which `abort` makes null.
- `Polling.closed_once_ended`: once `onShutdown` has run, in any run, the flag is false, and every call finds it so.
- `Socket.outbound_clean_iff`: of a session without an inbound, a call on the WebSocket handler ends cleanly exactly if the
  connection is not null; a `close` that the connection refuses makes it null for the calls after it.
-/
import SocketIOJava.EndedTimers
import SocketIOJava.Receiving

namespace SocketIOJava.EndedCalls

open Program SocketIOJava.Text SocketIOJava.Frame SocketIOJava.Session SocketIOJava.Run SocketIOJava.Traversal
open SocketIOJava.EndedTimers SocketIOJava.Receiving

/-! ## Calls, one after the other -/

section

variable {η : Type} [TransportHandler η] {R : St η → St η → Prop} {n : ℕ} {s : St η}

/-- an exception of a call comes back to the application, which goes on -/
def attempt (n : ℕ) (c : OutboundCall) : M η Unit := catching (fun _ => true) (Session.outbound (app n) c) (pure ())

/-- the call returns, or throws a `SocketIOException` -/
def EndsCleanly (n : ℕ) (c : OutboundCall) (s : St η) : Prop :=
  Fails (fun e => e.isSocketIOException = true) (Session.outbound (app n) c) s

/-- so does each of these calls, one after the other -/
def Clean (n : ℕ) (calls : List OutboundCall) (s : St η) : Prop := AtEachTurn calls (attempt n) (EndsCleanly n) s

theorem along_attempt [Std.Refl R] [IsTrans (St η) R] (k : Calls R (app n : Callback η)) (c : OutboundCall) :
    Along R (attempt n c : M η Unit) := Along.catching _ (k.along_outbound c) (along_pure ())

/-- the methods that throw whenever their frame is refused -/
theorem fails_sendTyped {cb : Callback η} (messageType : ℤ) (message : JString)
    (hopen : ∃ b, (TransportHandler.isOpen : M η Bool) s = (.ok b, s))
    (hsend : ∀ f, Fails (fun e => e.isSocketIOException = true) (TransportHandler.sendMessage cb f) s) :
    Fails (fun e => e.isSocketIOException = true) (sendTyped cb messageType message) s := by
  obtain ⟨b, hb⟩ := hopen
  intro e t he
  unfold sendTyped at he
  rw [bind_of_ok hb, get_bind] at he
  by_cases hc : b = true ∧ s.session.state = .connected
  · rw [if_pos hc] at he
    exact hsend _ e t he
  · rw [if_neg hc] at he
    cases he
    rfl

theorem ended_of_push {e : Entry} (he : Onward e) {log : List Entry} (h : Ended (e :: log)) : Ended log := by
  rcases List.mem_cons.1 h with heq | hpast
  · rw [← heq] at he
    exact he.elim
  · exact hpast

end

/-! ## The HTTP transports -/

namespace Polling

open JettyContinuation

variable {s s' : St Handler} {n : ℕ}

/-- an ended session is closed and without an inbound; so is its handler closed before the session has it -/
structure Sealed (s : St Handler) : Prop where
  closed : Ended s.log → s.handler.is_open = false
  dropped : Ended s.log → s.session.inbound = false
  detached : s.session.handler = false → s.handler.is_open = false

/-- a handler that is closed is not opened, and a sealed session stays so -/
structure Seals (s s' : St Handler) : Prop where
  closed : s.handler.is_open = false → s'.handler.is_open = false
  dropped : s.session.inbound = false → s'.session.inbound = false
  seals : Sealed s → Sealed s'

instance : Std.Refl Seals := ⟨fun _ => ⟨id, id, id⟩⟩

instance : IsTrans (St Handler) Seals where
  trans _ _ _ := fun h h' => ⟨h'.closed ∘ h.closed, h'.dropped ∘ h.dropped, h'.seals ∘ h.seals⟩

/-- an update that opens nothing and attaches nothing, and is not the end -/
theorem seals_of (hopen : s'.handler.is_open = true → s.handler.is_open = true)
    (hattached : s'.session.handler = s.session.handler) (hi : s.session.inbound = false → s'.session.inbound = false)
    (hlog : Ended s'.log → Ended s.log) : Seals s s' := by
  have hclosed : s.handler.is_open = false → s'.handler.is_open = false := fun h => by
    rw [Bool.eq_false_iff] at h ⊢
    exact fun h' => h (hopen h')
  exact ⟨hclosed, hi, fun hs => ⟨fun he => hclosed (hs.closed (hlog he)), fun he => hi (hs.dropped (hlog he)),
    fun hh => hclosed (hs.detached (hattached.symm.trans hh))⟩⟩

theorem seals_push (e : Entry) (he : Onward e) (s : St Handler) : Seals s (s.push e) := seals_of id rfl id (ended_of_push he)

theorem seals_setState (c : ConnectionState) (s : St Handler) : Seals s (setState c s) :=
  seals_of id rfl id (ended_of_push (e := .state c) trivial)

theorem seals_startHeartbeatTimer (s : St Handler) : Seals s (startHeartbeatTimer s) := by
  obtain ⟨e, t, heq⟩ := startHeartbeatTimer_eq s
  rw [heq]
  exact seals_of id rfl id id

theorem seals_startTimeoutTimer (s : St Handler) : Seals s (startTimeoutTimer s) := by
  obtain ⟨e, t, l, heq⟩ := startTimeoutTimer_eq s
  rw [heq]
  exact seals_of id rfl id id

/-- a closed session without an inbound is sealed, whatever was before -/
theorem seals_shut (hopen : s'.handler.is_open = false) (hi : s'.session.inbound = false) : Seals s s' :=
  ⟨fun _ => hopen, fun _ => hi, fun _ => ⟨fun _ => hopen, fun _ => hi, fun _ => hopen⟩⟩

theorem seals_app (k : ∀ m < n, Calls Seals (app m : Callback Handler)) (c : InboundCall) :
    Along Seals (app n c : M Handler (List JString)) :=
  along_app k (seals_push (.called c) trivial) (seals_push (.returned c) trivial)

theorem seals_onDisconnect (k : ∀ m < n, Calls Seals (app m : Callback Handler)) (reason : DisconnectReason) :
    Along Seals (Session.onDisconnect (app n : Callback Handler) reason) := by
  have hclear : ∀ s : St Handler, Seals s (clearHeartbeatTimer (clearTimeoutTimer s)) := fun _ => seals_of id rfl id id
  refine along_onDisconnect_of hclear fun s _ => ?_
  exact notify_related (seals_app k _) (seals_setState .closed) (fun _ => seals_of id rfl (fun _ => rfl) id) s

/-- `onShutdown` of a closed handler -/
theorem onShutdown_closed (k : ∀ m < n, Calls Seals (app m : Callback Handler)) (hopen : s.handler.is_open = false) :
    (Session.onShutdown (app n) s).2.handler.is_open = false := by
  rcases onShutdown_cases (app n) s with ⟨-, reason, -, heq⟩ | ⟨-, heq⟩
  · have hclosed := (seals_onDisconnect k reason s).closed hopen
    obtain ⟨t, ht⟩ := onDisconnect_app n reason s
    rw [ht] at hclosed
    rw [heq, bind_of_ok ht]
    exact hclosed
  · rw [heq]
    exact hopen

theorem seals_abort (k : ∀ m < n, Calls Seals (app m : Callback Handler)) : Along Seals (abort (app n)) := fun s =>
  seals_shut (onShutdown_closed (s := release s) k rfl) (onShutdown_inbound n (release s))

theorem seals_line (k : ∀ m < n, Calls Seals (app m : Callback Handler)) :
    JettyTraversal.Http.Line Seals (app n : Callback Handler) where
  acts _ _ _ := seals_of id rfl id id
  io _ := seals_of id rfl id id
  outbound s c := seals_push (.outbound c (TransportHandler.refuses s closeFrame)) trivial s
  startClose s := by
    have hcalled := seals_push (.startClose s.session.state) trivial s
    have hclosing := seals_setState .closing (s.push (.startClose s.session.state))
    exact IsTrans.trans _ _ _ hcalled (IsTrans.trans _ _ _ hclosing (seals_of id rfl id id))
  onDisconnect reason _ := seals_onDisconnect k reason
  abort := seals_abort k
  update _ _ _ _ hopen := seals_of hopen rfl id id
  startHeartbeat := seals_startHeartbeatTimer
  frame s f _ := seals_push (.frame f) trivial s
  wrote s data failed := seals_push (.wrote data failed) trivial s
  completed := seals_push .completed trivial

/-- **The application's calls keep a session sealed**, at every depth of callbacks. -/
theorem seals_calls (n : ℕ) : Calls Seals (app n : Callback Handler) := by
  induction n using Nat.strong_induction_on with
  | _ n ih => exact (seals_line ih).calls

theorem seals_host (n : ℕ) : JettyTraversal.Http.Host Seals (app n : Callback Handler) where
  toLine := seals_line fun m _ => seals_calls m
  closed := seals_onDisconnect (fun m _ => seals_calls m) .closed
  hosted s e he := seals_push e (by cases e <;> trivial) s
  startTimeout := seals_startTimeoutTimer
  clearTimeout _ := seals_of id rfl id id
  shutdown s hh := by
    -- without a handler attached nothing is open, and what is closed stays so
    have hdropped := onShutdown_inbound n s
    have hclosed := onShutdown_closed (n := n) (s := s) fun m _ => seals_calls m
    refine ⟨hclosed, fun _ => hdropped, fun hs => ?_⟩
    have hopen := hclosed (hs.detached hh)
    exact ⟨fun _ => hopen, fun _ => hdropped, fun _ => hopen⟩

theorem seals_closes (n : ℕ) : Closes Seals (app n : Callback Handler) where
  send := (seals_calls n).send
  abort := (seals_calls n).abort
  disconnectWhenEmpty := along_modify fun _ => seals_of id rfl id id
  onDisconnect reason _ := seals_onDisconnect (fun m _ => seals_calls m) reason
  acknowledged s data _ := seals_push (.onClose .closing data) trivial s
  closing s data _ := by
    have hcalled := seals_push (.onClose s.session.state data) trivial s
    exact IsTrans.trans _ _ _ hcalled (seals_setState .closing _)
  closed := seals_setState .closed

theorem seals_frames (n : ℕ) : Frames Seals (app n : Callback Handler) := by
  refine (seals_calls n).toSends.frames (seals_closes n).along_onClose (fun s c _ _ => seals_app (fun m _ => seals_calls m) c s)
    (fun _ => along_modify fun _ => seals_of id rfl id id) (fun s f _ => seals_push (.received f) trivial s)
    (fun s names => seals_push (.listed names) trivial s) fun s f _ => ?_
  have hreceived := seals_push (.received f) trivial s
  have hpong : Seals (s.push (.received f)) (onPong (s.push (.received f))) := seals_of id rfl id id
  exact IsTrans.trans _ _ _ hreceived (IsTrans.trans _ _ _ hpong (seals_startHeartbeatTimer _))

/-- `session.onConnect(handler)` of an open handler leaves it open only to a session that has not ended -/
theorem sealed_onConnect (hi : s.session.inbound = true → ¬ Ended s.log) :
    Sealed (Session.onConnect (app n : Callback Handler) true s).2 := by
  have habort : ∀ t, Sealed (abort (app n : Callback Handler) t).2 := fun t => by
    have hopen := onShutdown_closed (n := n) (s := release t) (fun m _ => seals_calls m) rfl
    have hdropped := onShutdown_inbound n (release t)
    exact ⟨fun _ => hopen, fun _ => hdropped, fun _ => hopen⟩
  cases hh : s.session.handler with
  | true => rw [onConnect_again (app n) hh]; exact habort s
  | false =>
    cases hinbound : s.session.inbound with
    | false => rw [onConnect_dropped (app n) hh hinbound]; exact habort _
    | true =>
      rw [onConnect_first (app n) hh hinbound]
      have hnot : ¬ Ended (Entry.state .connected :: .opened s.session.state :: s.log) := fun he => by
        have hopened : Ended (Entry.opened s.session.state :: s.log) := ended_of_push (e := .state .connected) trivial he
        exact hi hinbound (ended_of_push (e := .opened s.session.state) trivial hopened)
      have hconnected : Sealed (setState .connected ((attach s).push (.opened s.session.state))) :=
        ⟨fun he => absurd he hnot, fun he => absurd he hnot, nofun⟩
      have hannounce : Along Seals (announce (app n : Callback Handler)) := by
        refine Along.catching _ ((seals_app (fun m _ => seals_calls m) .onConnect).bind fun _ => along_pure ()) ?_
        exact (along_modify (seals_setState .closed)).bind fun _ => (seals_calls n).abort
      exact (hannounce _).seals hconnected

/-- the request that connects -/
theorem sealed_connect (hs : Sealed s) : Sealed (connect (app n : Callback Handler) s).2 := by
  cases hw : s.nextWriteFails with
  | true =>
    have hfails : connect (app n) s =
        (.error (.thrown .ioException), endDispatch { getContinuation s with io := s.io.tail }) := by
      unfold connect ending
      rw [modify_bind, bind_of_error (write_fails (s := getContinuation s) hw)]
      rfl
    have hstays : Seals s (endDispatch { getContinuation s with io := s.io.tail }) := seals_of id rfl id id
    rw [hfails]
    exact hstays.seals hs
  | false =>
    let started : M Handler Unit := Session.onConnect (app n) true
    have hconnected : Sealed (started (attaching s)).2 := sealed_onConnect fun hi he => by
      cases hi.symm.trans (hs.dropped he)
    have hfinish : Seals (started (attaching s)).2 ((do started; finish : M Handler Unit) (attaching s)).2 :=
      bind_related (Std.Refl.refl _) fun _ => (seals_host n).along_finish
    have hreturns : Seals ((do started; finish : M Handler Unit) (attaching s)).2
        (endDispatch ((do started; finish : M Handler Unit) (attaching s)).2) := seals_of id rfl id id
    rw [connect_ok (app n) hw]
    exact hreturns.seals (hfinish.seals hconnected)

/-- a sealed session stays so -/
def Keeps (s s' : St Handler) : Prop := Sealed s → Sealed s'

instance : Std.Refl Keeps := ⟨fun _ => id⟩

instance : IsTrans (St Handler) Keeps := ⟨fun _ _ _ h h' => h' ∘ h⟩

theorem keeps_serve (n : ℕ) (e : HttpEvent) : Along Keeps (serveHttp (app n) e) := by
  by_cases he : e = .connect
  · rw [he]
    exact fun s => sealed_connect
  · intro s
    have hlater := ((seals_host n).requests (seals_frames n)).later_related (s := s) he fun cont _ =>
      (seals_host n).along_onTimeoutContinuation cont s
    exact hlater.seals

theorem seals_runTask (n : ℕ) (kind : TaskKind) : Along Seals (runTask (app n) kind : M Handler Unit) := by
  cases kind with
  | sendPing =>
    have hnext : ∀ s : St Handler, Seals s (incrementMessageId s) := fun _ => seals_of id rfl id id
    exact along_sendPing_of hnext (seals_calls n).toSends seals_startTimeoutTimer
  | onTimeout =>
    have hexpire : ∀ s : St Handler, Seals s (setState .closed { s with session.timedout := true }) := fun _ =>
      seals_of id rfl id (ended_of_push (e := .state .closed) trivial)
    exact along_onTimeout_of hexpire (seals_onDisconnect (fun m _ => seals_calls m) .timeout) (seals_calls n).abort

theorem keeps_step (s : St Handler) (i : Input HttpEvent) : Keeps s (step serveHttp s i) := by
  have hseals : ∀ s s', Seals s s' → Keeps s s' := fun _ _ h => h.seals
  have hinput : Seals s { s with acts := i.acts, io := i.io } := seals_of id rfl id id
  refine IsTrans.trans _ _ _ (hseals _ _ hinput) ?_
  refine along_perform_of (keeps_serve _) (fun c => ?_) (fun t s => ?_) (fun kind => ?_) (fun d s => ?_) i.event _
  · exact ((seals_calls _).along_outbound c).mono hseals
  · exact hseals _ _ (seals_of id rfl id id)
  · exact (seals_runTask _ kind).mono hseals
  · exact hseals _ _ (seals_of id rfl id id)

/-- **Once `onShutdown` has run, the handler is closed**, in every run. -/
theorem closed_once_ended (config : SocketIOConfig) (persistent : Bool) (is : List (Input HttpEvent)) :
    Ended (run serveHttp (created config persistent) is).log →
      (run serveHttp (created config persistent) is).handler.is_open = false := by
  have hcreated : Sealed (created config persistent) :=
    ⟨fun h => absurd h List.not_mem_nil, fun h => absurd h List.not_mem_nil, fun _ => rfl⟩
  have hrun : Keeps (created config persistent) (run serveHttp (created config persistent) is) :=
    run_of_steps (fun s i _ => keeps_step s i) _
  exact (hrun hcreated).closed

/-! ### Calls on a closed handler -/

theorem sendMessage_fails (f : SocketIOFrame) (hopen : s.handler.is_open = false) :
    Fails (fun e => e.isSocketIOException = true) (TransportHandler.sendMessage (app n) f) s := by
  intro e t he
  have hclosed : sendMessage (app n) f s = (.error (.thrown .socketIOClosedException), s.push (.frame f)) :=
    sendMessage_closed hopen
  cases hclosed.symm.trans he
  rfl

/-- **Any call on a closed handler ends cleanly.** -/
theorem outbound_clean (c : OutboundCall) (hh : s.session.handler = true) (hopen : s.handler.is_open = false) :
    EndsCleanly n c s := by
  let called := s.push (.outbound c (TransportHandler.refuses s closeFrame))
  have hrun : Session.outbound (app n) c s = outboundMethod (app n) c called := derefHandler_bind hh _
  have hisOpen : ∃ b, (TransportHandler.isOpen : M Handler Bool) called = (.ok b, called) := ⟨_, rfl⟩
  have hsend : ∀ f, Fails (fun e => e.isSocketIOException = true) (TransportHandler.sendMessage (app n) f) called :=
    fun f => sendMessage_fails f hopen
  intro e t he
  rw [hrun] at he
  revert e t
  cases c with
  | disconnect =>
    obtain ⟨t, ht⟩ := onDisconnect_app n .disconnect called
    exact Returns.fails (Returns.bind ht (steady_http.abort n t))
  | close =>
    have hclosing : (initiateClose called).handler.is_open = false := hopen
    exact Returns.fails (steady_http.sendOrAbort_returns (sendable_close rfl hh rfl) hh (sendMessage_fails _ hclosing))
  | sendMessage message => exact fails_sendTyped _ _ hisOpen hsend
  | sendTyped messageType message => exact fails_sendTyped _ _ hisOpen hsend
  | emitMessage key message => exact fails_sendTyped _ _ hisOpen hsend

theorem clean (calls : List OutboundCall) (hh : s.session.handler = true) (hopen : s.handler.is_open = false) :
    Clean n calls s := by
  have hkept : AtEachTurn calls (attempt n)
      (fun _ (t : St Handler) => t.session.handler = true ∧ t.handler.is_open = false) s := by
    refine atEachTurn_of_kept (I := fun (t : St Handler) => t.session.handler = true ∧ t.handler.is_open = false)
      (fun c t ht => ?_) ⟨hh, hopen⟩
    exact ⟨(along_attempt (mild_http n) c t).handler ht.1, (along_attempt (seals_calls n) c t).closed ht.2⟩
  exact hkept.imp fun c t ht => outbound_clean c ht.1 ht.2

end Polling

/-! ## The WebSocket transports -/

namespace Socket

open JettyWebSocket

variable {s s' : St Handler} {n : ℕ}

/-- an inbound that is dropped stays so, and the end drops it -/
structure Forgets (s s' : St Handler) : Prop where
  dropped : s.session.inbound = false → s'.session.inbound = false
  ended : (Ended s.log → s.session.inbound = false) → Ended s'.log → s'.session.inbound = false

instance : Std.Refl Forgets := ⟨fun _ => ⟨id, id⟩⟩

instance : IsTrans (St Handler) Forgets where
  trans _ _ _ := fun h h' => ⟨h'.dropped ∘ h.dropped, h'.ended ∘ h.ended⟩

theorem forgets_of (hi : s'.session.inbound = s.session.inbound) (hlog : Ended s'.log → Ended s.log) : Forgets s s' :=
  ⟨hi.trans, fun hs he => hi.trans (hs (hlog he))⟩

theorem forgets_push (e : Entry) (he : Onward e) (s : St Handler) : Forgets s (s.push e) := forgets_of rfl (ended_of_push he)

theorem forgets_setState (c : ConnectionState) (s : St Handler) : Forgets s (setState c s) :=
  forgets_of rfl (ended_of_push (e := .state c) trivial)

theorem forgets_updates : Updates Forgets where
  same s s' h := by
    obtain ⟨-, hi, -, hlog⟩ := by simpa only [core, Prod.mk.injEq] using h
    exact forgets_of hi (hlog ▸ id)
  silent s e he := forgets_push e (by cases e <;> trivial) s
  outbound s c := forgets_push (.outbound c (TransportHandler.refuses s closeFrame)) trivial s
  startClose s := by
    have hcalled := forgets_push (.startClose s.session.state) trivial s
    have hclosing := forgets_setState .closing (s.push (.startClose s.session.state))
    exact IsTrans.trans _ _ _ hcalled (IsTrans.trans _ _ _ hclosing (forgets_of rfl id))
  acknowledged s data _ := forgets_push (.onClose .closing data) trivial s
  closing s data _ := by
    have hcalled := forgets_push (.onClose s.session.state data) trivial s
    exact IsTrans.trans _ _ _ hcalled (forgets_setState .closing _)
  closed := forgets_setState .closed
  removed _ hi := ⟨fun _ => hi, fun _ _ => hi⟩

theorem forgets_core (n : ℕ) : Core Forgets (app n : Callback Handler) := by
  refine forgets_updates.core_app (fun n c => JettyTraversal.Socket.steps c) (fun n _ s reason _ => ?_) n
  rw [notify_app]
  exact ⟨fun _ => rfl, fun _ _ => rfl⟩

theorem forgets_steps (n : ℕ) : Steps Forgets (app n : Callback Handler) :=
  JettyTraversal.Socket.steps (forgets_core n).incoming

theorem forgets_opens : Opens Forgets where
  opened s _ _ := by
    have hattached : Forgets s (attach s) := forgets_of rfl id
    have hopened := forgets_push (.opened s.session.state) trivial (attach s)
    exact IsTrans.trans _ _ _ hattached (IsTrans.trans _ _ _ hopened (forgets_setState .connected _))
  attached _ := forgets_of rfl id

/-- **Once `onShutdown` has run, there is no inbound**, in every run. -/
theorem dropped_once_ended (config : SocketIOConfig) (is : List (Input SocketEvent)) :
    Ended (run serveSocket (created config) is).log → (run serveSocket (created config) is).session.inbound = false := by
  have hserving : ∀ n, Serving Forgets (app n : Callback Handler) := fun n => (forgets_core n).incoming.serving
  have hserve : ∀ n e, Along Forgets (serveSocket (app n) e) := fun n e =>
    JettyTraversal.Socket.along_serve (hserving n) (forgets_steps n) forgets_opens e
  exact (run_related hserving forgets_steps hserve (created config) is).ended fun h => absurd h List.not_mem_nil

/-! ### Calls without an inbound -/

/-- a frame for a connection that is closed, or breaks, is a `SocketIOException` -/
theorem sendMessage_fails (f : SocketIOFrame) {c : Connection} (hc : s.handler.outbound = some c) :
    Fails (fun e => e.isSocketIOException = true) (TransportHandler.sendMessage (app n) f) s := by
  intro e t he
  have hrun : sendMessage (app n) f s =
      (if c.isOpen then deliver (app n) f else raise .socketIOClosedException) (s.push (.frame f)) := sendMessage_some hc
  replace hrun := hrun.symm.trans he
  by_cases hopen : c.isOpen = true
  · rw [if_pos hopen] at hrun
    cases hw : s.nextWriteFails with
    | false => cases (deliver_ok _ (s := s.push (.frame f)) hw f).symm.trans hrun
    | true =>
      cases (deliver_fails _ (s := s.push (.frame f)) hc hw f).symm.trans hrun
      rfl
  · rw [if_neg hopen] at hrun
    cases hrun
    rfl

/-- with a connection, whatever its state -/
theorem outbound_connected (c : OutboundCall) (hh : s.session.handler = true) (hi : s.session.inbound = false)
    (hc : s.handler.outbound ≠ none) : EndsCleanly n c s := by
  obtain ⟨conn, hconn⟩ := Option.ne_none_iff_exists'.1 hc
  let called := s.push (.outbound c (TransportHandler.refuses s closeFrame))
  have hrun : Session.outbound (app n) c s = outboundMethod (app n) c called := derefHandler_bind hh _
  have hisOpen : ∃ b, (TransportHandler.isOpen : M Handler Bool) called = (.ok b, called) := ⟨_, isOpen_some hconn⟩
  have hsend : ∀ f, Fails (fun e => e.isSocketIOException = true) (TransportHandler.sendMessage (app n) f) called :=
    fun f => sendMessage_fails f hconn
  intro e t he
  rw [hrun] at he
  revert e t
  cases c with
  | disconnect =>
    let gone := clearHeartbeatTimer (clearTimeoutTimer called)
    have hdisconnect : disconnectOutbound (app n) gone = (.ok (), setOutbound (some ⟨false⟩) gone) :=
      disconnectOutbound_some (s := gone) _ hconn
    exact Returns.fails (Returns.bind (onDisconnect_null (s := called) _ _ hi) ⟨_, _, hdisconnect⟩)
  | close =>
    have hclosing : (initiateClose called).handler.outbound = some conn := hconn
    exact Returns.fails (steady_socket.sendOrAbort_returns (sendable_close rfl hh rfl) hh (sendMessage_fails _ hclosing))
  | sendMessage message => exact fails_sendTyped _ _ hisOpen hsend
  | sendTyped messageType message => exact fails_sendTyped _ _ hisOpen hsend
  | emitMessage key message => exact fails_sendTyped _ _ hisOpen hsend

/-- without one, every call dereferences it -/
theorem outbound_null (c : OutboundCall) (hh : s.session.handler = true) (hi : s.session.inbound = false)
    (hc : s.handler.outbound = none) : (Session.outbound (app n) c s).1 = .error (.thrown .nullPointer) := by
  let called := s.push (.outbound c (TransportHandler.refuses s closeFrame))
  have hrun : Session.outbound (app n) c s = outboundMethod (app n) c called := derefHandler_bind hh _
  rw [hrun]
  cases c with
  | disconnect =>
    let gone := clearHeartbeatTimer (clearTimeoutTimer called)
    have hdisconnect : disconnectOutbound (app n) gone = (.error (.thrown .nullPointer), gone) :=
      disconnectOutbound_none (s := gone) _ hc
    have hall : outboundMethod (app n) .disconnect called = (.error (.thrown .nullPointer), gone) :=
      (bind_of_ok (onDisconnect_null (s := called) _ _ hi) _).trans hdisconnect
    rw [hall]
  | close =>
    have hsend : (do derefHandler; TransportHandler.sendMessage (app n) closeFrame : M Handler Unit) (initiateClose called) =
        (.error (.thrown .nullPointer), (initiateClose called).push (.frame closeFrame)) :=
      (derefHandler_bind (s := initiateClose called) hh _).trans (sendMessage_null (s := initiateClose called) hc)
    have hall : outboundMethod (app n) .close called =
        (.error (.thrown .nullPointer), (initiateClose called).push (.frame closeFrame)) :=
      (catching_of_error hsend _ _).trans (if_neg (by decide))
    rw [hall]
  | sendMessage message => exact congrArg Prod.fst (sendTyped_null (s := called) (app n) _ message hc)
  | sendTyped messageType message => exact congrArg Prod.fst (sendTyped_null (s := called) (app n) messageType message hc)
  | emitMessage key message => exact congrArg Prod.fst (sendTyped_null (s := called) (app n) _ (emitText key message) hc)

/-- **A call on the WebSocket handler of a session without an inbound** -/
theorem outbound_clean_iff (c : OutboundCall) (hh : s.session.handler = true) (hi : s.session.inbound = false) :
    EndsCleanly n c s ↔ s.handler.outbound ≠ none := by
  refine ⟨fun h hc => ?_, outbound_connected c hh hi⟩
  have hnull := outbound_null (n := n) c hh hi hc
  rcases hr : Session.outbound (app n) c s with ⟨r, t⟩
  rw [hr] at hnull
  cases hnull
  cases h _ t hr

/-- calls add no inbound and take no handler away, so each of them is such a call -/
theorem clean_iff (calls : List OutboundCall) (hh : s.session.handler = true) (hi : s.session.inbound = false) :
    Clean n calls s ↔ AtEachTurn calls (attempt n) (fun _ t => t.handler.outbound ≠ none) s := by
  have hkept : AtEachTurn calls (attempt n)
      (fun _ (t : St Handler) => t.session.handler = true ∧ t.session.inbound = false) s := by
    refine atEachTurn_of_kept (I := fun (t : St Handler) => t.session.handler = true ∧ t.session.inbound = false)
      (fun c t ht => ?_) ⟨hh, hi⟩
    exact ⟨(along_attempt (mild_socket n) c t).handler ht.1, (along_attempt (forgets_steps n).calls c t).dropped ht.2⟩
  constructor
  · intro h
    exact (h.and hkept).imp fun c t ht => (outbound_clean_iff c ht.2.1 ht.2.2).1 ht.1
  · intro h
    exact (h.and hkept).imp fun c t ht => (outbound_clean_iff c ht.2.1 ht.2.2).2 ht.1

end Socket

/-- **Calls on an ended outbound**, in every state that a run reaches after `onShutdown` with a handler that is attached:
on an HTTP transport each call of any sequence returns or throws a `SocketIOException`. On a WebSocket that is so exactly
if each call of the sequence finds the connection not null. -/
theorem ended_calls_clean (config : JettyContinuation.SocketIOConfig) (wsConfig : JettyWebSocket.SocketIOConfig)
    (persistent : Bool) (js : List (Input HttpEvent)) (is : List (Input SocketEvent)) (n : ℕ) (calls : List OutboundCall) :
    (let s := run serveHttp (JettyContinuation.created config persistent) js;
      Ended s.log → s.session.handler = true → Clean n calls s) ∧
    (let s := run serveSocket (JettyWebSocket.created wsConfig) is;
      Ended s.log → s.session.handler = true →
        (Clean n calls s ↔ AtEachTurn calls (attempt n) (fun _ t => t.handler.outbound ≠ none) s)) :=
  ⟨fun he hh => Polling.clean calls hh (Polling.closed_once_ended config persistent js he),
    fun he hh => Socket.clean_iff calls hh (Socket.dropped_once_ended wsConfig is he)⟩

/-- a WebSocket that the container has closed, and a polling session that was disconnected -/
theorem ended_calls_closed :
    let http := run serveHttp (JettyContinuation.created ⟨none, none, none, none⟩ false)
      [⟨.container .connect, [], []⟩, ⟨.outbound .disconnect, [], []⟩]
    let socket := run serveSocket (JettyWebSocket.created ⟨none, none⟩)
      [⟨.container .connect, [], []⟩, ⟨.container .onClose, [], []⟩]
    let calls := [.sendMessage (str "hello"), .disconnect]
    Clean 1 calls http ∧
      (Clean 1 calls socket ↔ AtEachTurn calls (attempt 1) (fun _ t => t.handler.outbound ≠ none) socket) := by
  intro http socket calls
  have hboth := ended_calls_clean ⟨none, none, none, none⟩ ⟨none, none⟩ false
    [⟨.container .connect, [], []⟩, ⟨.outbound .disconnect, [], []⟩]
    [⟨.container .connect, [], []⟩, ⟨.container .onClose, [], []⟩] 1 calls
  exact ⟨hboth.1 (by decide +kernel) rfl, hboth.2 (by decide +kernel) rfl⟩

/-- a CLOSE frame that cannot be written aborts the session; the next message raises a `NullPointerException` -/
theorem message_after_abort :
    let s := run serveSocket (JettyWebSocket.created ⟨none, none⟩) [⟨.container .connect, [], []⟩, ⟨.outbound .close, [], [true]⟩]
    Ended s.log ∧ s.session.handler = true ∧
      (Session.outbound (app 1) (.sendMessage (str "hello")) s).1 = .error (.thrown .nullPointer) ∧
        ¬ Clean 1 [.sendMessage (str "hello")] s := by
  intro s
  have hnull : (Session.outbound (app 1) (.sendMessage (str "hello")) s).1 = .error (.thrown .nullPointer) := rfl
  refine ⟨by decide +kernel, rfl, hnull, fun h => ?_⟩
  have hfirst := (atEachTurn_cons.1 h).1
  rcases hr : Session.outbound (app 1) (.sendMessage (str "hello")) s with ⟨r, t⟩
  rw [hr] at hnull
  cases hnull
  cases hfirst _ t hr

end SocketIOJava.EndedCalls
