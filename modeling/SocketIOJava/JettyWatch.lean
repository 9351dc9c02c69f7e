/-
Who watches a connected session of the Jetty handlers.

The WebSocket and the persistent HTTP handler rely on the heartbeat: a heartbeat task sends a ping and leaves a timeout
task behind, and an answer starts the heartbeat anew. Nothing starts it when the session is connected, so the client is
watched only from the first message on. A polling handler relies on the poll in `continuation`, and between two polls on
a timeout task; that one is missing after the connect request, after a poll was completed by a message, and after a
heartbeat frame.
-/
import SocketIOJava.JettyTraversal
import SocketIOJava.Watch

namespace SocketIOJava.Watch

open Program SocketIOJava.Text SocketIOJava.Frame SocketIOJava.Session SocketIOJava.Buffer SocketIOJava.Run
  SocketIOJava.Traversal Guard

/-! ## A session with a heartbeat -/

section

variable {η : Type}

/-- watched from the first entry on that `hears` picks out, with its transport `present` -/
structure Beating (present : η → Prop) (hears : Entry → Bool) (v : View η) : Prop where
  inbound : v.session.inbound = true
  timedout : v.session.timedout = false
  handler : v.session.handler = true
  present : present v.handler
  watched : v.pending ≠ [] ↔ ∃ e ∈ v.heard, hears e

/-- the settings of a heartbeat, for a handler of some kind -/
structure Beats (kind : η → Prop) (s : St η) : Prop where
  hbDelay : 0 < s.session.hbDelay
  timeout : 0 < s.session.timeout
  kind : kind s.handler

variable {kind present : η → Prop} {hears : Entry → Bool}

theorem Beats.startTimeout {s : St η} (h : Beats kind s) : Beats kind (startTimeoutTimer s) := by
  obtain ⟨e, t, l, hs⟩ := startTimeoutTimer_eq s
  rw [hs]
  exact ⟨h.hbDelay, h.timeout, h.kind⟩

def beating (kind present : η → Prop) (hears : Entry → Bool) : Guard η where
  clocks := Beats kind
  live := Beating present hears
  same s s' hclock h := by
    simp only [clock, Prod.mk.injEq] at hclock
    obtain ⟨-, hdelay, htimeout, -, -, -, hhandler⟩ := hclock
    exact ⟨hdelay ▸ h.hbDelay, htimeout ▸ h.timeout, hhandler ▸ h.kind⟩
  fired _ _ h := ⟨h.hbDelay, h.timeout, h.kind⟩
  clearTimeout _ h := ⟨h.hbDelay, h.timeout, h.kind⟩
  clearHeartbeat _ h := ⟨h.hbDelay, h.timeout, h.kind⟩
  startTimeout _ h := h.startTimeout
  inbound _ h := h.inbound
  timedout _ h := h.timedout

/-- what the heartbeat of a session depends on, besides its tasks -/
structure SameSettings (s s' : St η) : Prop where
  state : s'.session.state = s.session.state
  inbound : s'.session.inbound = s.session.inbound
  timedout : s'.session.timedout = s.session.timedout
  handler : s'.session.handler = s.session.handler
  hbDelay : s'.session.hbDelay = s.session.hbDelay
  timeout : s'.session.timeout = s.session.timeout

theorem SameSettings.trans {s s' s'' : St η} (h : SameSettings s s') (h' : SameSettings s' s'') : SameSettings s s'' :=
  ⟨h'.state.trans h.state, h'.inbound.trans h.inbound, h'.timedout.trans h.timedout, h'.handler.trans h.handler,
    h'.hbDelay.trans h.hbDelay, h'.timeout.trans h.timeout⟩

theorem settings_startTimeoutTimer (s : St η) : SameSettings s (startTimeoutTimer s) := by
  obtain ⟨e, t, l, hs⟩ := startTimeoutTimer_eq s
  rw [hs]
  exact ⟨rfl, rfl, rfl, rfl, rfl, rfl⟩

theorem settings_startHeartbeatTimer (s : St η) : SameSettings s (startHeartbeatTimer s) := by
  obtain ⟨e, t, hs⟩ := startHeartbeatTimer_eq s
  rw [hs]
  exact ⟨rfl, rfl, rfl, rfl, rfl, rfl⟩

/-- a task is pending, and something was heard -/
theorem Guard.Inv.beats {s s' : St η} (h : (beating kind present hears).Inv s) (hsame : SameSettings s s')
    (hkind : kind s.handler → kind s'.handler) (hpresent : present s.handler → present s'.handler)
    (hpending : s'.session.timedout = false → s'.executor.pending ≠ [])
    (hheard : s.session.state = .connected → ∃ e ∈ s'.log.filter heeded, hears e) :
    (beating kind present hears).Inv s' := by
  refine ⟨⟨hsame.hbDelay ▸ h.clocks.hbDelay, hsame.timeout ▸ h.clocks.timeout, hkind h.clocks.kind⟩, fun hc => ?_⟩
  have hconnected : s.session.state = .connected := hsame.state ▸ hc
  have hl := h.live hconnected
  have htimedout := hsame.timedout.trans hl.timedout
  refine ⟨hsame.inbound.trans hl.inbound, htimedout, hsame.handler.trans hl.handler, hpresent hl.present, ?_⟩
  exact iff_of_true (hpending htimedout) (hheard hconnected)

/-- the heartbeat starts, and the entry on top of the log says why -/
theorem Guard.Inv.startHeartbeat {s s' : St η} {e : Entry} (h : (beating kind present hears).Inv s)
    (hsame : SameSettings s s') (hhandler : s'.handler = s.handler) (hlog : s'.log = e :: s.log)
    (hheeded : heeded e = true) (he : hears e = true) : (beating kind present hears).Inv (startHeartbeatTimer s') := by
  have hstart := settings_startHeartbeatTimer s'
  have hdelay : 0 < s'.session.hbDelay := hsame.hbDelay ▸ h.clocks.hbDelay
  have hsamehandler := (startHeartbeatTimer_handler s').trans hhandler
  refine h.beats (hsame.trans hstart) (hsamehandler ▸ id) (hsamehandler ▸ id) ?_ fun _ => ⟨e, ?_, he⟩
  · exact fun ht => startHeartbeatTimer_pending (hstart.timedout ▸ ht) hdelay
  · rw [startHeartbeatTimer_log, hlog, List.filter_cons_of_pos hheeded]
    exact List.mem_cons_self

/-- nothing is heard, and no timer starts -/
structure Unheard (kind present : η → Prop) (hears : Entry → Bool) (s s' : St η) : Prop where
  session : s'.session = s.session
  pending : s'.executor.pending = s.executor.pending
  kind : kind s.handler → kind s'.handler
  present : present s.handler → present s'.handler
  heard : (∃ e ∈ s'.log.filter heeded, hears e) ↔ ∃ e ∈ s.log.filter heeded, hears e

instance : Std.Refl (Unheard kind present hears) := ⟨fun _ => ⟨rfl, rfl, id, id, Iff.rfl⟩⟩

instance : IsTrans (St η) (Unheard kind present hears) := ⟨fun _ _ _ h h' =>
  ⟨h'.session.trans h.session, h'.pending.trans h.pending, h'.kind ∘ h.kind, h'.present ∘ h.present,
    h'.heard.trans h.heard⟩⟩

theorem Unheard.keeps {s s' : St η} (h : Unheard kind present hears s s') : (beating kind present hears).Keeps s s' := by
  intro hi
  refine ⟨⟨⟨h.session ▸ hi.clocks.hbDelay, h.session ▸ hi.clocks.timeout, h.kind hi.clocks.kind⟩, fun hc => ?_⟩,
    fun hs => h.session ▸ hs⟩
  have hl := hi.live (h.session ▸ hc)
  refine ⟨?_, ?_, ?_, h.present hl.present, ?_⟩
  · exact (congrArg DefaultSession.inbound h.session).trans hl.inbound
  · exact (congrArg DefaultSession.timedout h.session).trans hl.timedout
  · exact (congrArg DefaultSession.handler h.session).trans hl.handler
  · rw [show (view s').pending = (view s).pending from h.pending]
    exact hl.watched.trans h.heard.symm

theorem unheard_push {e : Entry} (he : hears e = false) (s : St η) : Unheard kind present hears s (s.push e) := by
  refine ⟨rfl, rfl, id, id, ?_⟩
  change (∃ x ∈ (e :: s.log).filter heeded, hears x) ↔ _
  by_cases h : heeded e = true
  · rw [List.filter_cons_of_pos h, List.exists_mem_cons_iff, or_iff_right (by rw [he]; exact Bool.false_ne_true)]
  · rw [List.filter_cons_of_neg h]

/-- a heartbeat frame -/
theorem beating_received (hbeat : ∀ f : SocketIOFrame, f.frameType = .heartbeat → hears (.received f) = true) (s : St η)
    (f : SocketIOFrame) (hf : f.frameType = .heartbeat) :
    (beating kind present hears).Keeps s (startHeartbeatTimer (onPong (s.push (.received f)))) := by
  have hsame : SameSettings s (onPong (s.push (.received f))) := ⟨rfl, rfl, rfl, rfl, rfl, rfl⟩
  intro h
  refine ⟨h.startHeartbeat hsame rfl rfl (decide_eq_true hf) (hbeat f hf), fun hs => ?_⟩
  rw [(hsame.trans (settings_startHeartbeatTimer _)).state]
  exact hs

variable [TransportHandler η]

/-- a frame over a transport that is there is sent, or refused with a `SocketIOException` -/
def Delivers (kind present : η → Prop) : Prop :=
  ∀ (cb : Callback η) (f : SocketIOFrame) (s : St η), kind s.handler → present s.handler →
    ∃ s', SameSettings s s' ∧ kind s'.handler ∧ present s'.handler ∧ s.log <:+ s'.log ∧
      (TransportHandler.sendMessage cb f s = (.ok (), s') ∨
        ∃ e, Abrupt.isSocketIOException e = true ∧ TransportHandler.sendMessage cb f s = (.error e, s'))

/-- **A ping leaves a timeout task behind**, or it ends the session. -/
theorem ping_keeps (hdelivers : Delivers kind present) {cb : Callback η}
    (habort : Along (beating kind present hears).Ends (TransportHandler.abort cb)) {s : St η} {t : Session.Task}
    (h : (beating kind present hears).Inv s) (ht : t ∈ s.executor.pending) (hc : s.session.state = .connected) :
    (beating kind present hears).Inv (sendPing cb (startTask t s)).2 := by
  have hl := h.live hc
  obtain ⟨e, hmem, he⟩ := hl.watched.1 (List.ne_nil_of_mem ht)
  let s₁ := incrementMessageId (startTask t s)
  let f : SocketIOFrame := .new .heartbeat FrameType.message.value (intToString s₁.session.messageId)
  have hsame₁ : SameSettings s s₁ := ⟨rfl, rfl, rfl, rfl, rfl, rfl⟩
  have hderef : (do derefHandler; TransportHandler.sendMessage cb f : M η Unit) s₁ = TransportHandler.sendMessage cb f s₁ :=
    derefHandler_bind (s := s₁) hl.handler _
  change (beating kind present hears).Inv ((do sendOrAbort cb f; modify startTimeoutTimer : M η Unit) s₁).2
  obtain ⟨s', hsame', hkind, hpresent, hlog, hok | ⟨a, ha, herror⟩⟩ := hdelivers cb f s₁ h.clocks.kind hl.present
  · -- the frame is out, and the timeout task is pending
    have hsame := hsame₁.trans hsame'
    have hsend : sendOrAbort cb f s₁ = (.ok (), s') := catching_of_ok (hderef.trans hok) _ _
    have hhandler := startTimeoutTimer_handler s'
    have hstart := settings_startTimeoutTimer s'
    rw [bind_of_ok hsend]
    refine h.beats (hsame.trans hstart) (fun _ => hhandler ▸ hkind) (fun _ => hhandler ▸ hpresent) ?_ fun _ => ⟨e, ?_, he⟩
    · exact fun ht => startTimeoutTimer_pending (hstart.timedout ▸ ht) (hsame.timeout ▸ h.clocks.timeout)
    · change e ∈ (startTimeoutTimer s').log.filter heeded
      rw [startTimeoutTimer_log]
      exact (hlog.filter heeded).subset hmem
  · -- the session ends
    have hcaught : sendOrAbort cb f s₁ = (do derefHandler; TransportHandler.abort cb : M η Unit) s' :=
      (catching_of_error (hderef.trans herror) _ _).trans (if_pos ha)
    have hsame := hsame₁.trans hsame'
    have hclocks : Beats kind s' := ⟨hsame.hbDelay ▸ h.clocks.hbDelay, hsame.timeout ▸ h.clocks.timeout, hkind⟩
    rw [derefHandler_bind (hsame.handler.trans hl.handler)] at hcaught
    obtain ⟨hclocks', hstate⟩ := (habort s').start hclocks fun _ => hsame.inbound.trans hl.inbound
    rw [bind_of_eq hcaught]
    exact .of_not_connected hclocks' hstate

end

/-! ## The WebSocket handler -/

namespace Socket

open JettyWebSocket

/-- a text message, or a heartbeat frame in one -/
def hears : Entry → Bool
  | .text _ => true
  | .received f => f.frameType = .heartbeat
  | _ => false

def present (h : Handler) : Prop := h.outbound ≠ none

/-- the guard of a WebSocket session -/
abbrev guard : Guard Handler := beating (fun _ => True) present hears

theorem delivers : Delivers (fun _ => True) present := by
  intro cb f s _ hpresent
  obtain ⟨c, hc⟩ := Option.ne_none_iff_exists'.1 hpresent
  let s₁ := s.push (.frame f)
  have hsend : sendMessage cb f s = (if c.isOpen then deliver cb f else raise .socketIOClosedException) s₁ := sendMessage_some hc
  by_cases hopen : c.isOpen = true
  · rw [if_pos hopen] at hsend
    cases hio : s.nextWriteFails with
    | false =>
      have hsent := hsend.trans (deliver_ok cb (s := s₁) hio f)
      exact ⟨written _ s₁, ⟨rfl, rfl, rfl, rfl, rfl, rfl⟩, trivial, hpresent, ⟨[_, _], rfl⟩, .inl hsent⟩
    | true =>
      have hfailed := hsend.trans (deliver_fails cb (s := s₁) hc hio f)
      exact ⟨setOutbound (some ⟨false⟩) (written _ s₁), ⟨rfl, rfl, rfl, rfl, rfl, rfl⟩, trivial, Option.some_ne_none _,
        ⟨[_, _], rfl⟩, .inr ⟨.thrown .socketIOException, rfl, hfailed⟩⟩
  · rw [if_neg hopen] at hsend
    exact ⟨s₁, ⟨rfl, rfl, rfl, rfl, rfl, rfl⟩, trivial, hpresent, ⟨[_], rfl⟩,
      .inr ⟨.thrown .socketIOClosedException, rfl, hsend⟩⟩

/-- the relation of a step over which nothing is heard -/
abbrev Silence : St Handler → St Handler → Prop := Unheard (fun _ => True) present hears

theorem silent_of_handler {s : St Handler} (h : Handler) (hp : present s.handler → present h) :
    Silence s { s with handler := h } := ⟨rfl, rfl, id, hp, Iff.rfl⟩

theorem silent_setOutbound (c : Connection) (s : St Handler) : Silence s (setOutbound (some c) s) :=
  silent_of_handler ⟨some c, s.handler.endpoint⟩ fun _ => Option.some_ne_none _

theorem silent_writes : JettyTraversal.Socket.Writes Silence where
  io _ := ⟨rfl, rfl, id, id, Iff.rfl⟩
  wrote s _ _ := unheard_push rfl s
  disconnected s _ := silent_setOutbound ⟨false⟩ s

theorem silent_sendMessage (cb : Callback Handler) (f : SocketIOFrame) : Along Silence (sendMessage cb f) := fun s =>
  silent_writes.sendMessage_related cb (unheard_push rfl s)

theorem silent_upgrade (cb : Callback Handler) : Along Silence (upgrade cb) :=
  silent_writes.along_upgrade cb (silent_setOutbound ⟨true⟩) fun s => unheard_push rfl s

theorem along_abort {n : ℕ} (hcall : ∀ c, Along guard.Keeps (app n c)) : Along guard.Ends (abort (app n)) := by
  intro s
  rw [abort_eq]
  exact (along_onShutdown hcall (setOutbound none s)).after (fun h => ⟨h.hbDelay, h.timeout, trivial⟩) rfl rfl

theorem handles (n : ℕ) (hcall : ∀ c, Along guard.Keeps (app n c)) : Handles guard (app n) where
  send f := (silent_sendMessage _ f).mono fun _ _ => Unheard.keeps
  abort := along_abort hcall
  disconnect := along_ends_bind (along_onDisconnect hcall _) fun _ =>
    (silent_writes.along_disconnectOutbound _).mono fun _ _ => Unheard.keeps
  disconnectWhenEmpty := along_pure _
  setNamespace _ := along_modify fun _ => Unheard.keeps (silent_of_handler _ id)
  isOpen := JettyTraversal.Socket.along_isOpen
  heartbeat := beating_received fun _ hf => decide_eq_true hf

theorem along_onText {n : ℕ} (k : Kept guard.Keeps (app n)) (message : JString) :
    Along guard.Keeps (onText (app n) message) := by
  refine (along_modify fun s => ?_).bind fun _ => ?_
  · have hsame : SameSettings s (s.push (.text message)) := ⟨rfl, rfl, rfl, rfl, rfl, rfl⟩
    refine fun h => ⟨h.startHeartbeat hsame rfl rfl rfl rfl, fun hs => ?_⟩
    rw [(hsame.trans (settings_startHeartbeatTimer _)).state]
    exact hs
  · cases parse message with
    | none => exact along_stop _
    | some frames => exact (along_lift frames).bind fun frames => k.frames.along_frames frames

theorem along_later {n : ℕ} (hcall : ∀ c, Along guard.Keeps (app n c)) {e : SocketEvent} (he : e ≠ .connect) :
    Along guard.Keeps (serveSocket (app n) e) := by
  cases e with
  | connect => exact absurd rfl he
  | reconnect => exact along_derefHandler.bind fun _ => (silent_upgrade _).mono fun _ _ => Unheard.keeps
  | text message => exact along_onText ((handles n hcall).kept hcall) message
  | lose =>
    refine along_modify fun s => Unheard.keeps (silent_of_handler _ fun hp => ?_)
    exact fun h => hp (Option.map_eq_none_iff.1 h)
  | onClose => exact along_keeps_of_ends (along_onShutdown hcall)

/-- the request that creates the session -/
theorem connect_inv {config : SocketIOConfig} (hd : 0 < config.heartbeatDelay.getD DEFAULT_HEARTBEAT_DELAY)
    (ht : 0 < config.heartbeatTimeout.getD DEFAULT_HEARTBEAT_TIMEOUT) {n : ℕ} (hcall : ∀ c, Along guard.Keeps (app n c))
    (acts : List Act) (io : List Bool) :
    guard.Inv (connect (app n) { created config with acts := acts, io := io }).2 := by
  let s₀ : St Handler := { created config with acts := acts, io := io }
  have hclocks : guard.clocks s₀ := ⟨hd, ht, trivial⟩
  have hupgrade := silent_upgrade (app n) s₀
  have hpresent : present (upgrade (app n) s₀).2.handler :=
    (silent_sendMessage (app n) _ (setOutbound (some ⟨true⟩) s₀)).present (Option.some_ne_none _)
  have hinv : guard.Inv (upgrade (app n) s₀).2 := (hupgrade.keeps (.of_not_connected hclocks (by rintro ⟨⟩))).1
  change guard.Inv ((do upgrade (app n); Session.onConnect (app n) true : M Handler Unit) s₀).2
  rcases hr : upgrade (app n) s₀ with ⟨r, s₁⟩
  rw [hr] at hupgrade hpresent hinv
  cases r with
  | error e => rw [bind_of_error hr]; exact hinv
  | ok _ =>
    rw [bind_of_ok hr]
    have hsession : s₁.session = s₀.session := hupgrade.session
    refine onConnect_inv ((handles n hcall).kept hcall) hinv.clocks (hsession ▸ nofun) fun _ _ => ?_
    refine ⟨?_, ?_, rfl, hpresent, ?_⟩
    · exact congrArg DefaultSession.inbound hsession
    · exact congrArg DefaultSession.timedout hsession
    · refine iff_of_false (fun h => h hupgrade.pending) fun h => ?_
      obtain ⟨e, he, -⟩ := hupgrade.heard.1 h
      cases he

end Socket

/-! ## The requests of the HTTP handler -/

namespace Http

open JettyContinuation

/-- what a guard has to keep over the requests of a polling session, and over the end of any request -/
structure Requests (g : Guard Handler) (cb : Callback Handler) : Prop where
  dispatched : ∀ s, g.Keeps s (endDispatch s)
  answer : ∀ s, s.handler.persistent = false → s.handler.buffer.isEmpty = false → g.Keeps s (answer cb s).2
  park : ∀ s, s.handler.persistent = false → s.handler.buffer.isEmpty = true → g.Keeps s (park s).2
  released : ∀ s, s.handler.persistent = false →
    g.Keeps s (startTimeoutTimer (setContinuation none (s.push .released)))
  expired : ∀ s, s.handler.persistent = false →
    g.Keeps s ((do expirePoll cb; modify startTimeoutTimer : M Handler Unit) (setContinuation none (s.push .released))).2

variable {g : Guard Handler} {n : ℕ}
  (hkind : ∀ (s : St Handler) h, h.persistent = s.handler.persistent → g.clocks s → g.clocks { s with handler := h })
  (hcall : ∀ c, Along g.Keeps (app n c : M Handler (List JString)))

section Ends

include hkind hcall

theorem along_abort : Along g.Ends (abort (app n)) := by
  intro s
  refine (along_onShutdown hcall (release s)).after (fun h => ?_) rfl rfl
  exact hkind (clearTimeoutTimer (clearHeartbeatTimer s)) _ rfl (g.clearTimeout _ (g.clearHeartbeat _ h))

theorem along_terminate (reason : DisconnectReason) : Along g.Ends (terminate (app n) reason) :=
  along_ends_bind (along_onDisconnect hcall reason) fun _ => along_keeps_of_ends (along_abort hkind hcall)

/-- `onDisconnect` under a condition, then `abort` -/
theorem along_whenever_abort {c : Prop} [Decidable c] (reason : DisconnectReason) :
    Along g.Ends (do whenever c (Session.onDisconnect (app n) reason); abort (app n) : M Handler Unit) := by
  by_cases h : c
  · simp only [whenever, if_pos h]
    exact along_terminate hkind hcall reason
  · simp only [whenever, if_neg h, pure_bind]
    exact along_abort hkind hcall

theorem along_closeCheck : Along g.Keeps (closeCheck (app n)) := by
  refine along_get.bind fun s => Along.ite (fun _ => ?_) fun _ => along_pure _
  exact along_keeps_of_ends (along_whenever_abort hkind hcall _)

end Ends

/-- the handler changes, and the session ends -/
theorem ends_after {m : M Handler Unit} (hm : Along g.Ends m) {f : St Handler → St Handler}
    (hclocks : ∀ s, g.clocks s → g.clocks (f s)) (hsession : ∀ s, (f s).session = s.session) :
    Along g.Keeps (do modify f; m : M Handler Unit) := fun s =>
  ((hm (f s)).after (hclocks s) (congrArg _ (hsession s)) (congrArg _ (hsession s))).keeps

variable (k : Kept g.Keeps (app n : Callback Handler)) (r : Requests g (app n))
include hkind hcall r

theorem along_onComplete (cont : ℕ) : Along g.Keeps (onComplete (app n) cont) := by
  have hdrop : ∀ s, g.clocks s → g.clocks (setContinuation none s) :=
    fun s => hkind s { s.handler with continuation := none } rfl
  have hclose : ∀ s, g.clocks s → g.clocks (dropConnection s) :=
    fun s => hkind s { s.handler with continuation := none, is_open := false } rfl
  intro s
  rcases onComplete_cases (app n) cont s with ⟨-, heq⟩ | ⟨-, ⟨-, heq⟩ | ⟨hp, ⟨-, heq⟩ | ⟨-, ⟨-, heq⟩ | ⟨-, heq⟩⟩⟩⟩
  · rw [heq]; exact Std.Refl.refl s
  · rw [heq]; exact ends_after (along_whenever_abort hkind hcall _) hclose (fun _ => rfl) s
  · rw [heq]; exact ends_after (along_abort hkind hcall) hdrop (fun _ => rfl) s
  · rw [heq]; exact ends_after (along_terminate hkind hcall _) hdrop (fun _ => rfl) s
  · rw [heq]; exact r.released s hp

theorem along_onTimeoutContinuation (cont : ℕ) : Along g.Keeps (onTimeoutContinuation (app n) cont) := by
  have hclose : ∀ s, g.clocks s → g.clocks (dropConnection s) :=
    fun s => hkind s { s.handler with continuation := none, is_open := false } rfl
  intro s
  rcases onTimeoutContinuation_cases (app n) cont s with ⟨-, heq⟩ | ⟨-, ⟨-, heq⟩ | ⟨hp, heq⟩⟩
  · rw [heq]; exact Std.Refl.refl s
  · rw [heq]; exact ends_after (along_terminate hkind hcall _) hclose (fun _ => rfl) s
  · rw [heq]; exact r.expired s hp

include k

/-- the requests after the one that connects -/
theorem along_later {e : HttpEvent} (he : e ≠ .connect) : Along g.Keeps (serveHttp (app n) e) := by
  have requests : JettyTraversal.Http.Requests g.Keeps (app n) :=
    { frames := k.frames
      responded := fun s status => keeps_push (e := .responded status) rfl s
      answer := r.answer
      park := fun s hp _ hempty => r.park s hp hempty
      endDispatch := r.dispatched
      closeCheck := along_closeCheck hkind hcall
      onComplete := along_onComplete hkind hcall r
      shutdown := fun s _ => along_keeps_of_ends (along_onShutdown hcall) s }
  exact fun s => requests.later_related he fun cont _ => along_onTimeoutContinuation hkind hcall r cont s

omit r hcall in
/-- the request that creates the session, if the guard holds once the session is connected -/
theorem connect_inv (hdispatched : ∀ s, g.Keeps s (endDispatch s)) (hfinish : Along g.Keeps finish) {s : St Handler}
    (hclocks : g.clocks s) (hs : s.session.state ≠ .connected)
    (hopen : g.live (view (setState .connected ((attach (opened { getContinuation s with io := s.io.tail })).push
      (.opened s.session.state))))) :
    g.Inv (connect (app n) s).2 := by
  have hclocks₁ : g.clocks (getContinuation s) := hkind s (getContinuation s).handler rfl hclocks
  suffices h : g.Inv ((do
      modify getContinuation; write; modify opened; Session.onConnect (app n) true; finish : M Handler Unit) s).2 from
    (hdispatched _ h).1
  rw [modify_bind]
  cases hio : s.nextWriteFails with
  | true =>
    rw [bind_of_error (write_fails (s := getContinuation s) hio)]
    exact .of_not_connected (g.same (getContinuation s) _ rfl hclocks₁) hs
  | false =>
    rw [bind_of_ok (write_ok (s := getContinuation s) hio), modify_bind]
    let s₁ : St Handler := { getContinuation s with io := s.io.tail }
    have hopened : g.clocks (opened s₁) := hkind s₁ (opened s₁).handler rfl (g.same (getContinuation s) s₁ rfl hclocks₁)
    exact Inv.bind (onConnect_inv k hopened hs fun _ _ => hopen) fun _ => hfinish

end Http

/-! ## The persistent HTTP handler -/

namespace Stream

open JettyContinuation

/-- a frame that was written, or a heartbeat frame -/
def hears : Entry → Bool
  | .wrote _ failed => !failed
  | .received f => f.frameType = .heartbeat
  | _ => false

def kind (h : Handler) : Prop := h.persistent = true

structure Present (h : Handler) : Prop where
  is_open : h.is_open = true
  continuation : h.continuation ≠ none

/-- the guard of a session with a persistent connection -/
abbrev guard : Guard Handler := beating kind Present hears

theorem clocks_of_handler (s : St Handler) (h : Handler) (hp : h.persistent = s.handler.persistent)
    (hs : guard.clocks s) : guard.clocks { s with handler := h } := ⟨hs.hbDelay, hs.timeout, hp.trans hs.kind⟩

/-- the relation of a step over which nothing is heard -/
abbrev Silence : St Handler → St Handler → Prop := Unheard kind Present hears

theorem silent_of_handler {s : St Handler} (h : Handler) (hk : h.persistent = s.handler.persistent)
    (hp : Present s.handler → Present h) : Silence s { s with handler := h } := ⟨rfl, rfl, hk.trans, hp, Iff.rfl⟩

theorem silent_setBuffer (b : TransportBuffer) (s : St Handler) : Silence s (setBuffer b s) :=
  silent_of_handler { s.handler with buffer := b } rfl fun h => ⟨h.is_open, h.continuation⟩

theorem silent_map (f : Continuation → Continuation) (s : St Handler) :
    Silence s (setContinuation (s.handler.continuation.map f) s) := by
  refine silent_of_handler { s.handler with continuation := s.handler.continuation.map f } rfl fun h => ⟨h.is_open, ?_⟩
  exact fun hc => h.continuation (Option.map_eq_none_iff.1 hc)

/-- a text is written, or it is not, and then a `SocketIOException` is raised -/
theorem sendNow_cases (s : St Handler) (hk : kind s.handler) (cont : Continuation) (data : JString) :
    sendNow cont data s = (.ok (), startHeartbeatTimer (written data s)) ∧ s.nextWriteFails = false ∨
      sendNow cont data s = (.error (.thrown .socketIOException), written data s) ∧ s.nextWriteFails = true := by
  cases hio : s.nextWriteFails with
  | false =>
    refine .inl ⟨(sendNow_ok hio cont data).trans (if_neg ?_), rfl⟩
    rw [show s.handler.persistent = true from hk]
    exact Bool.false_ne_true
  | true => exact .inr ⟨sendNow_fails hio cont data, rfl⟩

theorem delivers : Delivers kind Present := by
  intro cb f s hk hpresent
  obtain ⟨cont, hcont⟩ := Option.ne_none_iff_exists'.1 hpresent.continuation
  let s₁ := setBuffer s.handler.buffer.drainMessages.2 (s.push (.frame f))
  have hsend : sendMessage cb f s = sendNow cont (joined (s.push (.frame f)) f) s₁ :=
    (sendMessage_open hpresent.is_open).trans (deliver_now hcont)
  rcases sendNow_cases s₁ hk cont (joined (s.push (.frame f)) f) with ⟨hr, -⟩ | ⟨hr, -⟩
  · have hsame : SameSettings s (written (joined (s.push (.frame f)) f) s₁) := ⟨rfl, rfl, rfl, rfl, rfl, rfl⟩
    refine ⟨_, hsame.trans (settings_startHeartbeatTimer _), ?_, ?_, ?_, .inl (hsend.trans hr)⟩
    · rw [startHeartbeatTimer_handler]; exact hk
    · rw [startHeartbeatTimer_handler]; exact ⟨hpresent.is_open, hpresent.continuation⟩
    · rw [startHeartbeatTimer_log]; exact ⟨[_, _], rfl⟩
  · exact ⟨written _ s₁, ⟨rfl, rfl, rfl, rfl, rfl, rfl⟩, hk, ⟨hpresent.is_open, hpresent.continuation⟩, ⟨[_, _], rfl⟩,
      .inr ⟨.thrown .socketIOException, rfl, hsend.trans hr⟩⟩

theorem along_sendNow (cont : Continuation) (data : JString) : Along guard.Keeps (sendNow cont data) := by
  intro s h
  have hlog : (written data s).log = .wrote data s.nextWriteFails :: s.log := rfl
  have hsame : SameSettings s (written data s) := ⟨rfl, rfl, rfl, rfl, rfl, rfl⟩
  rcases sendNow_cases s h.clocks.kind cont data with ⟨hr, hio⟩ | ⟨hr, hio⟩
  · rw [hr]
    rw [hio] at hlog
    refine ⟨h.startHeartbeat hsame rfl hlog rfl rfl, fun hs => ?_⟩
    rw [(hsame.trans (settings_startHeartbeatTimer _)).state]
    exact hs
  · rw [hr]
    have hpush : Silence s (s.push (.wrote data s.nextWriteFails)) := unheard_push (by rw [hio]; rfl) s
    exact (hpush.keeps h).imp (fun hi => hi.of_view rfl) id

variable {n : ℕ} (hcall : ∀ c, Along guard.Keeps (app n c))
include hcall

theorem along_sendLater (data : JString) : Along guard.Keeps (sendLater (app n) data) := by
  have habort := along_keeps_of_ends (Http.along_abort clocks_of_handler hcall)
  refine along_get.bind fun s => (along_modify fun s' => (silent_setBuffer _ s').keeps).bind fun _ => ?_
  refine Along.ite (fun _ => ?_) fun _ => along_pure _
  exact (along_keeps_of_ends (along_onDisconnect hcall _)).bind fun _ => habort.bind fun _ => along_stop _

theorem along_sendMessage (f : SocketIOFrame) : Along guard.Keeps (sendMessage (app n) f) := by
  refine (along_modify fun s => keeps_push rfl s).bind fun _ => along_get.bind fun s => ?_
  refine Along.ite (fun _ => along_get.bind fun s => ?_) fun _ => along_stop _
  cases s.handler.continuation with
  | none => exact along_sendLater hcall _
  | some cont => exact (along_modify fun s' => (silent_setBuffer _ s').keeps).bind fun _ => along_sendNow cont _

theorem handles : Handles guard (app n) where
  send := along_sendMessage hcall
  abort := Http.along_abort clocks_of_handler hcall
  disconnect := Http.along_terminate clocks_of_handler hcall _
  disconnectWhenEmpty := along_modify fun s =>
    (silent_of_handler { s.handler with disconnectWhenEmpty := true } rfl fun h => ⟨h.is_open, h.continuation⟩).keeps
  setNamespace a := along_modify fun s =>
    (silent_of_handler { s.handler with endpoint := a } rfl fun h => ⟨h.is_open, h.continuation⟩).keeps
  isOpen := along_get.bind fun _ => along_pure _
  heartbeat := beating_received fun _ hf => decide_eq_true hf

omit hcall in
/-- no request of a polling session comes through -/
theorem requests : Http.Requests guard (app n) where
  dispatched s := (silent_map _ s).keeps
  answer s hp _ h := absurd h.clocks.kind (by rw [kind, hp]; exact Bool.false_ne_true)
  park s hp _ h := absurd h.clocks.kind (by rw [kind, hp]; exact Bool.false_ne_true)
  released s hp h := absurd h.clocks.kind (by rw [kind, hp]; exact Bool.false_ne_true)
  expired s hp h := absurd h.clocks.kind (by rw [kind, hp]; exact Bool.false_ne_true)

omit hcall in
theorem along_finish : Along guard.Keeps finish := by
  refine along_get.bind fun s => (along_modify fun s' => (unheard_push rfl s').keeps).bind fun _ => along_write.bind fun _ => ?_
  refine along_get_bind fun s => ?_
  by_cases hp : s.handler.persistent = true
  · rw [if_pos hp]
    exact (silent_map _ s).keeps
  · exact fun h => absurd h.clocks.kind hp

/-- the request that creates the session -/
theorem connect_inv {config : SocketIOConfig} (hd : 0 < config.heartbeatDelay.getD DEFAULT_HEARTBEAT_DELAY)
    (ht : 0 < config.heartbeatTimeout.getD DEFAULT_HEARTBEAT_TIMEOUT) (acts : List Act) (io : List Bool) :
    guard.Inv (connect (app n) { created config true with acts := acts, io := io }).2 := by
  have hclocks : guard.clocks { created config true with acts := acts, io := io } := ⟨hd, ht, rfl⟩
  refine Http.connect_inv clocks_of_handler ((handles hcall).kept hcall) (requests (n := n)).dispatched along_finish hclocks
    nofun ⟨rfl, rfl, rfl, ⟨rfl, Option.some_ne_none _⟩, ?_⟩
  exact iff_of_false (fun h => h rfl) fun ⟨e, he, _⟩ => by cases he

end Stream

end SocketIOJava.Watch