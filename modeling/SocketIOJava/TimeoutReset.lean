/-
The timeout timer of a WebSocket session, and the frames of a client that keeps talking.

A ping starts the timeout timer, a HEARTBEAT frame clears it, and a message of the client does neither. So the client has
to answer the ping within the timeout, whatever else it sends.

- `timeout_after_silence`: if messages come only while no ping is outstanding, a timeout task that fires was preceded by
  a timeout's length without any frame of the client.
- `talking_client_times_out`: a client sends a message while a ping is outstanding, and is timed out soon after.
-/
import SocketIOJava.JettyTraversal
import SocketIOJava.Timers

namespace SocketIOJava.TimeoutReset

open Program SocketIOJava.Text SocketIOJava.Frame SocketIOJava.Session SocketIOJava.Run SocketIOJava.Traversal
open SocketIOJava.Timers
open SocketIOJava.JettyTraversal (Adds Outward adds_outgoing)

/-! ## Pings and frames in the history -/

/-- a ping was sent that no HEARTBEAT frame has answered -/
def Outstanding : List Entry → Prop
  | [] => False
  | .frame f :: log => f.frameType = .heartbeat ∨ Outstanding log
  | .received f :: log => f.frameType ≠ .heartbeat ∧ Outstanding log
  | _ :: log => Outstanding log

/-- a frame that shows that the client is there -/
def Talk : Entry → Prop
  | .received f => f.frameType = .heartbeat ∨ IsData f
  | _ => False

/-- messages came only while no ping was outstanding -/
def Answered : List Entry → Prop
  | [] => True
  | .received f :: log => (IsData f → ¬ Outstanding log) ∧ Answered log
  | _ :: log => Answered log

theorem Answered.tail {e : Entry} {log : List Entry} (h : Answered (e :: log)) : Answered log := by
  cases e with
  | received f => exact h.2
  | _ => exact h

theorem Answered.of_append {added log : List Entry} (h : Answered (added ++ log)) : Answered log := by
  induction added with
  | nil => exact h
  | cons e added ih => exact ih h.tail

instance (f : SocketIOFrame) : Decidable (IsData f) := inferInstanceAs (Decidable (_ ∨ _ ∨ _))

instance decidableOutstanding : DecidablePred Outstanding
  | [] => .isFalse id
  | e :: log =>
    have := decidableOutstanding log
    match e with
    | .frame f => inferInstanceAs (Decidable (f.frameType = .heartbeat ∨ Outstanding log))
    | .received f => inferInstanceAs (Decidable (f.frameType ≠ .heartbeat ∧ Outstanding log))
    | .state _ | .startClose _ | .onClose _ _ | .opened _ | .called _ | .returned _ | .outbound _ _ | .wrote _ _ | .removed
    | .listed _ | .text _ | .parked | .answered | .released | .completed | .finished _ | .responded _ =>
      inferInstanceAs (Decidable (Outstanding log))

instance decidableAnswered : DecidablePred Answered
  | [] => .isTrue trivial
  | e :: log =>
    have := decidableAnswered log
    match e with
    | .received f => inferInstanceAs (Decidable ((IsData f → ¬ Outstanding log) ∧ Answered log))
    | .state _ | .startClose _ | .onClose _ _ | .opened _ | .called _ | .returned _ | .outbound _ _ | .frame _ | .wrote _ _
    | .removed | .listed _ | .text _ | .parked | .answered | .released | .completed | .finished _ | .responded _ =>
      inferInstanceAs (Decidable (Answered log))

theorem outstanding_cons {e : Entry} (he : ¬ Talk e) {log : List Entry} (h : Outstanding log) : Outstanding (e :: log) := by
  cases e with
  | frame f => exact .inr h
  | received f => exact ⟨fun hf => he (.inl hf), h⟩
  | _ => exact h

theorem not_talk_of_outward {e : Entry} (he : Outward e) : ¬ Talk e := by
  cases e <;> first | exact id | exact absurd he id

theorem outstanding_append {added log : List Entry} (hadded : ∀ e ∈ added, Outward e) (h : Outstanding log) :
    Outstanding (added ++ log) := by
  induction added with
  | nil => exact h
  | cons e added ih =>
    apply outstanding_cons (not_talk_of_outward (hadded e List.mem_cons_self))
    exact ih fun x hx => hadded x (List.mem_cons_of_mem e hx)

/-! ## The invariant -/

section

variable {η : Type}

structure Inv (s : St η) : Prop where
  clocks : Clocks s
  outstanding : ∀ t ∈ s.executor.pending, t.kind = .onTimeout → Outstanding s.log

/-- Between two states, `added` was added to the history. A timeout task that is pending afterwards was pending before, and
no frame was heard in between; or it is due a timeout's length after the first state, or later. -/
structure Passes (added : List Entry) (s s' : St η) : Prop where
  log : s'.log = added ++ s.log
  ticks : s.executor.ticks ≤ s'.executor.ticks
  timeout : s'.session.timeout = s.session.timeout
  inv : Answered s'.log → Inv s → Inv s'
  tasks : Answered s'.log → Inv s → ∀ t ∈ s'.executor.pending, t.kind = .onTimeout →
    t ∈ s.executor.pending ∧ (∀ e ∈ added, ¬ Talk e) ∨ s.executor.ticks + s.session.timeout.toNat ≤ t.due

def Keeps (s s' : St η) : Prop := ∃ added, Passes added s s'

variable {s s' s'' : St η}

theorem Passes.trans {added added' : List Entry} (h : Passes added s s') (h' : Passes added' s' s'') :
    Passes (added' ++ added) s s'' := by
  have hpast : Answered s''.log → Answered s'.log := fun ha => .of_append (h'.log ▸ ha)
  refine ⟨?_, h.ticks.trans h'.ticks, h'.timeout.trans h.timeout, ?_, ?_⟩
  · rw [h'.log, h.log, List.append_assoc]
  · exact fun ha hs => h'.inv ha (h.inv (hpast ha) hs)
  · intro ha hs t ht hkind
    rcases h'.tasks ha (h.inv (hpast ha) hs) t ht hkind with ⟨hold, hquiet⟩ | hdue
    · refine (h.tasks (hpast ha) hs t hold hkind).imp (fun ⟨hfirst, hquiet'⟩ => ⟨hfirst, fun e he => ?_⟩) id
      exact (List.mem_append.1 he).elim (hquiet e) (hquiet' e)
    · rw [h.timeout] at hdue
      exact .inr ((Nat.add_le_add_right h.ticks _).trans hdue)

instance : Std.Refl (Keeps (η := η)) :=
  ⟨fun _ => ⟨[], rfl, le_rfl, rfl, fun _ => id, fun _ _ _ ht _ => .inl ⟨ht, fun _ h => absurd h List.not_mem_nil⟩⟩⟩

instance : IsTrans (St η) Keeps := ⟨fun _ _ _ ⟨_, h⟩ ⟨_, h'⟩ => ⟨_, h.trans h'⟩⟩

/-- the timers of a session -/
def timers (s : St η) : Option Task × Option Task × ℕ × ℤ :=
  (s.session.hbDelayTask, s.session.timeoutTask, s.session.lStartTime, s.session.timeout)

theorem keeps_of_same (hlog : s'.log = s.log) (hexecutor : s'.executor = s.executor) (htimers : timers s' = timers s) :
    Keeps s s' := by
  simp only [timers, Prod.mk.injEq] at htimers
  obtain ⟨hheartbeat, htask, hstart, htimeout⟩ := htimers
  refine ⟨[], hlog, by rw [hexecutor], htimeout, fun _ h => ⟨?_, ?_⟩, fun _ _ t ht _ => .inl ⟨?_, ?_⟩⟩
  · exact h.clocks.congr (fun t ht => hexecutor ▸ ht) hheartbeat htask hstart
  · rw [hexecutor, hlog]; exact h.outstanding
  · rw [← hexecutor]; exact ht
  · exact fun _ h => absurd h List.not_mem_nil

theorem keeps_push {e : Entry} (he : ¬ Talk e) (s : St η) : Keeps s (s.push e) := by
  refine ⟨[e], rfl, le_rfl, rfl, fun _ h => ⟨?_, ?_⟩, fun _ _ t ht _ => .inl ⟨ht, fun x hx => ?_⟩⟩
  · exact h.clocks.congr (fun _ ht => ht) rfl rfl rfl
  · exact fun t ht hkind => outstanding_cons he (h.outstanding t ht hkind)
  · rw [List.mem_singleton.1 hx]; exact he

theorem keeps_setState (c : ConnectionState) (s : St η) : Keeps s (setState c s) := by
  have hpushed : Keeps s (s.push (.state c)) := keeps_push (e := .state c) id s
  exact IsTrans.trans _ _ _ hpushed (keeps_of_same rfl rfl rfl)

/-- the heartbeat timer has nothing to do with the timeout task -/
theorem keeps_startHeartbeat (s : St η) : Keeps s (startHeartbeatTimer s) := by
  obtain ⟨e, t, heq⟩ := startHeartbeatTimer_eq s
  have hlog := startHeartbeatTimer_log s
  have hticks := startHeartbeatTimer_ticks s
  refine ⟨[], hlog, hticks.ge, by rw [heq], fun _ h => ⟨h.clocks.startHeartbeat.1, fun t ht hkind => ?_⟩, ?_⟩
  · rw [hlog]
    exact h.outstanding t (h.clocks.startHeartbeat.2 t ht hkind) hkind
  · exact fun _ h t ht hkind => .inl ⟨h.clocks.startHeartbeat.2 t ht hkind, fun _ hx => absurd hx List.not_mem_nil⟩

/-- both timers are cleared -/
theorem keeps_clear (s : St η) : Keeps s (clearHeartbeatTimer (clearTimeoutTimer s)) := by
  have hnone : Inv s → ∀ t ∈ (clearHeartbeatTimer (clearTimeoutTimer s)).executor.pending, False := by
    intro h t ht
    rw [h.clocks.pending_clear] at ht
    cases ht
  refine ⟨[], rfl, le_rfl, rfl, fun _ h => ⟨h.clocks.clearTimeout.clearHeartbeat, ?_⟩, ?_⟩
  · exact fun t ht _ => (hnone h t ht).elim
  · exact fun _ h t ht _ => (hnone h t ht).elim

/-- **A HEARTBEAT frame** clears the timeout timer. -/
theorem keeps_heartbeat (s : St η) (f : SocketIOFrame) :
    Keeps s (startHeartbeatTimer (onPong (s.push (.received f)))) := by
  refine IsTrans.trans _ (onPong (s.push (.received f))) _ ?_ (keeps_startHeartbeat _)
  have hclocks : Inv s → Clocks (s.push (.received f)) := fun h => h.clocks.congr (fun _ ht => ht) rfl rfl rfl
  have hnone : Inv s → ∀ t ∈ (clearTimeoutTimer (s.push (.received f))).executor.pending, t.kind ≠ .onTimeout := by
    intro h t ht hkind
    cases ((hclocks h).mem_clearTimeoutTimer ht).2.1.symm.trans hkind
  refine ⟨[.received f], rfl, le_rfl, rfl, fun _ h => ⟨(hclocks h).clearTimeout, ?_⟩, ?_⟩
  · exact fun t ht hkind => absurd hkind (hnone h t ht)
  · exact fun _ h t ht hkind => absurd hkind (hnone h t ht)

/-- **A message** finds no timeout task, as no ping is outstanding. -/
theorem keeps_data (s : St η) (f : SocketIOFrame) (hf : IsData f) : Keeps s (s.push (.received f)) := by
  have hnone : Answered (s.push (.received f)).log → Inv s → ∀ t ∈ s.executor.pending, t.kind ≠ .onTimeout := by
    intro ha h t ht hkind
    exact ha.1 hf (h.outstanding t ht hkind)
  refine ⟨[.received f], rfl, le_rfl, rfl, fun ha h => ⟨?_, ?_⟩, ?_⟩
  · exact h.clocks.congr (fun _ ht => ht) rfl rfl rfl
  · exact fun t ht hkind => absurd hkind (hnone ha h t ht)
  · exact fun ha h t ht hkind => absurd hkind (hnone ha h t ht)

theorem keeps_received (s : St η) (f : SocketIOFrame) (hf : f.frameType ≠ .heartbeat) : Keeps s (s.push (.received f)) := by
  by_cases hd : IsData f
  · exact keeps_data s f hd
  · exact keeps_push (e := .received f) (fun ht => ht.elim hf hd) s

/-- **A ping is out**: the timeout task is due a timeout's length from now. -/
theorem keeps_startTimeout (h : Outstanding s.log) : Keeps s (startTimeoutTimer s) := by
  obtain ⟨e, t, l, heq⟩ := startTimeoutTimer_eq s
  have hlog := startTimeoutTimer_log s
  have hticks := startTimeoutTimer_ticks s
  refine ⟨[], hlog, hticks.ge, by rw [heq], fun _ hs => ⟨hs.clocks.startTimeout.1, fun _ _ _ => ?_⟩, ?_⟩
  · rw [hlog]; exact h
  · exact fun _ hs t ht hkind => .inr (hs.clocks.startTimeout.2 t ht hkind).ge

theorem keeps_removeSession (s : St η) : Keeps s (removeSession s) := by
  have hpushed : Keeps s (s.push .removed) := keeps_push (e := .removed) id s
  exact IsTrans.trans _ _ _ hpushed (keeps_of_same rfl rfl rfl)

theorem keeps_startClose (s : St η) : Keeps s (initiateClose s) := by
  have hpushed : Keeps s (s.push (.startClose s.session.state)) := keeps_push (e := .startClose s.session.state) id s
  have hclosing : Keeps (s.push (.startClose s.session.state)) (setState .closing (s.push (.startClose s.session.state))) :=
    keeps_setState _ _
  exact IsTrans.trans _ _ _ hpushed (IsTrans.trans _ _ _ hclosing (keeps_of_same rfl rfl rfl))

/-- a task is taken off the queue -/
theorem keeps_startTask (t : Task) (s : St η) : Keeps s (startTask t s) := by
  have hsub : ∀ x ∈ (startTask t s).executor.pending, x ∈ s.executor.pending := fun _ hx => List.mem_of_mem_erase hx
  refine ⟨[], rfl, le_rfl, rfl, fun _ h => ⟨?_, ?_⟩, ?_⟩
  · exact h.clocks.congr hsub rfl rfl rfl
  · exact fun x hx hkind => h.outstanding x (hsub x hx) hkind
  · exact fun _ _ x hx _ => .inl ⟨hsub x hx, fun _ he => absurd he List.not_mem_nil⟩

/-- time passes, and no task moves -/
theorem keeps_tick (d : ℕ) (s : St η) : Keeps s (tick d s) := by
  refine ⟨[], rfl, Nat.le_add_right _ _, rfl, fun _ h => ⟨?_, h.outstanding⟩, ?_⟩
  · exact h.clocks.congr (fun _ ht => ht) rfl rfl rfl
  · exact fun _ _ x hx _ => .inl ⟨hx, fun _ he => absurd he List.not_mem_nil⟩

end

/-! ## The session with its WebSocket handler -/

section

open JettyWebSocket

variable {n : ℕ}

theorem along_call (k : ∀ m < n, Calls Keeps (app m : Callback Handler)) (c : InboundCall) :
    Along Keeps (app n c : M Handler (List JString)) :=
  along_app k (keeps_push (e := .called c) id) (keeps_push (e := .returned c) id)

theorem along_onDisconnect_app (k : ∀ m < n, Calls Keeps (app m : Callback Handler)) (reason : DisconnectReason) :
    Along Keeps (Session.onDisconnect (app n : Callback Handler) reason) := by
  refine along_onDisconnect_of keeps_clear fun s _ => ?_
  exact notify_related (along_call k _) (keeps_setState .closed) (fun _ => keeps_of_same rfl rfl rfl) s

theorem wire_app (k : ∀ m < n, Calls Keeps (app m : Callback Handler)) :
    JettyTraversal.Socket.Wire Keeps (app n : Callback Handler) where
  acts _ _ _ := keeps_of_same rfl rfl rfl
  io _ := keeps_of_same rfl rfl rfl
  onDisconnect reason _ _ := along_onDisconnect_app k reason
  outbound s c := keeps_push (e := .outbound c (TransportHandler.refuses s closeFrame)) id s
  startClose := keeps_startClose
  removed s _ := keeps_removeSession s
  frame s f _ := keeps_push (e := .frame f) id s
  wrote s data failed := keeps_push (e := .wrote data failed) id s
  setOutbound _ _ := keeps_of_same rfl rfl rfl

theorem calls_app (n : ℕ) : Calls Keeps (app n : Callback Handler) := by
  induction n using Nat.strong_induction_on with
  | _ n ih => exact (wire_app ih).calls

theorem wire (n : ℕ) : JettyTraversal.Socket.Wire Keeps (app n : Callback Handler) := wire_app fun m _ => calls_app m

theorem along_callback (n : ℕ) (c : InboundCall) : Along Keeps (app n c : M Handler (List JString)) :=
  along_call (fun m _ => calls_app m) c

theorem closes (n : ℕ) : Closes Keeps (app n : Callback Handler) where
  send := (calls_app n).send
  abort := (calls_app n).abort
  disconnectWhenEmpty := along_pure _
  onDisconnect reason _ := along_onDisconnect_app (fun m _ => calls_app m) reason
  acknowledged s data _ := keeps_push (e := .onClose .closing data) id s
  closing s data _ := by
    have hpushed : Keeps s (s.push (.onClose s.session.state data)) := keeps_push (e := .onClose s.session.state data) id s
    exact IsTrans.trans _ _ _ hpushed (keeps_setState _ _)
  closed := keeps_setState .closed

theorem frames (n : ℕ) : Frames Keeps (app n : Callback Handler) :=
  (calls_app n).frames (closes n).along_onClose (fun s c _ _ => along_callback n c s)
    (fun _ => along_modify fun _ => keeps_of_same rfl rfl rfl) keeps_received
    (fun s names => keeps_push (e := .listed names) id s) fun s f _ => keeps_heartbeat s f

theorem opens : Opens (Keeps (η := Handler)) where
  attached _ := keeps_of_same rfl rfl rfl
  opened s _ _ := by
    have hattached : Keeps s (attach s) := keeps_of_same rfl rfl rfl
    have hpushed : Keeps (attach s) ((attach s).push (.opened s.session.state)) :=
      keeps_push (e := .opened s.session.state) id _
    exact IsTrans.trans _ _ _ hattached (IsTrans.trans _ _ _ hpushed (keeps_setState _ _))

theorem along_serve (n : ℕ) (e : SocketEvent) : Along Keeps (serveSocket (app n) e) := by
  refine (wire n).along_events (frames n) (fun s message => ?_) ?_ e
  · have hpushed : Keeps s (s.push (.text message)) := keeps_push (e := .text message) id s
    exact IsTrans.trans _ _ _ hpushed (keeps_startHeartbeat _)
  · exact opens.along_onConnect (keeps_setState .closed) (fun s _ => along_callback n .onConnect s) (calls_app n).abort

/-! ## The tasks -/

theorem along_onTimeout (n : ℕ) : Along Keeps (Session.onTimeout (app n : Callback Handler)) := by
  refine along_onTimeout_of (fun s => ?_) (along_onDisconnect_app (fun m _ => calls_app m) .timeout) (calls_app n).abort
  have hflag : Keeps s { s with session.timedout := true } := keeps_of_same rfl rfl rfl
  exact IsTrans.trans _ _ _ hflag (keeps_setState _ _)

/-- a ping that the session made something of is in the history, with nothing after it that answers it -/
theorem outstanding_of_ping {f : SocketIOFrame} (hf : f.frameType = .heartbeat) {s s' : St Handler} {u : Unit}
    (h : sendOrAbort (app n) f s = (.ok u, s')) : Outstanding s'.log := by
  have w := JettyTraversal.Socket.wire (adds_outgoing fun m (_ : m < n) => JettyTraversal.Socket.adds_calls m)
  cases hh : s.session.handler with
  | false =>
    unfold sendOrAbort at h
    rw [catching_of_error (derefHandler_null hh _)] at h
    cases h
  | true =>
    have hsend : Adds Outward (s.push (.frame f)) (sendOrAbort (app n) f s).2 := by
      refine catching_related ?_ (along_derefHandler.bind fun _ => w.line.along_abort)
      rw [derefHandler_bind hh]
      exact w.line.writes.sendMessage_pushed _ s f
    obtain ⟨added, hlog, hadded⟩ := hsend
    rw [h] at hlog
    rw [hlog]
    exact outstanding_append hadded (.inl hf)

theorem along_sendPing (n : ℕ) : Along Keeps (Session.sendPing (app n : Callback Handler)) := by
  intro s
  have hnext : Keeps s (incrementMessageId s) := keeps_of_same rfl rfl rfl
  have hping := (calls_app n).along_heartbeat (intToString (incrementMessageId s).session.messageId) (incrementMessageId s)
  refine IsTrans.trans _ _ _ hnext (bind_related_ok (s := incrementMessageId s) hping fun u s' hping => ?_)
  exact keeps_startTimeout (outstanding_of_ping rfl hping)

/-- **Every event is along the relation.** -/
theorem along_perform (n : ℕ) (e : Event SocketEvent) : Along Keeps (perform serveSocket (app n) e) := by
  refine along_perform_of (along_serve n) (calls_app n).along_outbound keeps_startTask (fun kind => ?_) keeps_tick e
  cases kind with
  | onTimeout => exact along_onTimeout n
  | sendPing => exact along_sendPing n

theorem keeps_step (s : St Handler) (i : Input SocketEvent) : Keeps s (step serveSocket s i) := by
  have hinput : Keeps s { s with acts := i.acts, io := i.io } := keeps_of_same rfl rfl rfl
  exact IsTrans.trans _ _ _ hinput (along_perform _ i.event _)

theorem keeps_run (s : St Handler) (is : List (Input SocketEvent)) : Keeps s (run serveSocket s is) :=
  run_of_steps (fun s i _ => keeps_step s i) s

/-! ## Runs -/

/-- the session after a list of inputs -/
def after (config : SocketIOConfig) (js : List (Input SocketEvent)) : St Handler := run serveSocket (created config) js

theorem after_append (config : SocketIOConfig) (past more : List (Input SocketEvent)) :
    after config (past ++ more) = run serveSocket (after config past) more := List.foldl_append

/-- a frame is processed that shows that the client is there -/
def Hears (s s' : St Handler) : Prop := ∃ added, s'.log = added ++ s.log ∧ ∃ e ∈ added, Talk e

/-- the executor starts the session's timeout task -/
def TimesOut (s : St Handler) (i : Input SocketEvent) : Prop :=
  ∃ t, i.event = .fire t ∧ t.kind = .onTimeout ∧ t ∈ s.executor.pending ∧ t.due ≤ s.executor.ticks

/-- whenever the timeout task fires, the client has been silent for the length of the timeout -/
def SilentBefore (config : SocketIOConfig) (js : List (Input SocketEvent)) : Prop :=
  ∀ past i later, js = past ++ i :: later → TimesOut (after config past) i →
    ∀ earlier j between, past = earlier ++ j :: between → Hears (after config earlier) (after config (earlier ++ [j])) →
      (after config earlier).executor.ticks + (created config).session.timeout ≤ (after config past).executor.ticks

theorem keeps_after (config : SocketIOConfig) (past more : List (Input SocketEvent)) :
    Keeps (after config past) (after config (past ++ more)) := by
  rw [after_append]
  exact keeps_run _ _

theorem answered_past {config : SocketIOConfig} {past more : List (Input SocketEvent)}
    (h : Answered (after config (past ++ more)).log) : Answered (after config past).log := by
  obtain ⟨added, hrun⟩ := keeps_after config past more
  exact .of_append (hrun.log ▸ h)

theorem inv_after (config : SocketIOConfig) (js : List (Input SocketEvent)) (h : Answered (after config js).log) :
    Inv (after config js) := by
  have hcreated : Inv (created config) := ⟨clocks_of_idle rfl rfl, fun _ ht => absurd ht List.not_mem_nil⟩
  obtain ⟨added, hrun⟩ := keeps_run (created config) js
  exact hrun.inv h hcreated

theorem timeout_after (config : SocketIOConfig) (js : List (Input SocketEvent)) :
    (after config js).session.timeout = (created config).session.timeout := by
  obtain ⟨added, hrun⟩ := keeps_run (created config) js
  exact hrun.timeout

/-- a message or a heartbeat puts off every timeout task -/
theorem Passes.due_of_hears {added : List Entry} {s s' : St Handler} (h : Passes added s s') (ha : Answered s'.log)
    (hs : Inv s) (heard : ∃ e ∈ added, Talk e) {t : Task} (ht : t ∈ s'.executor.pending) (hkind : t.kind = .onTimeout) :
    s.executor.ticks + s.session.timeout.toNat ≤ t.due := by
  obtain ⟨e, he, htalk⟩ := heard
  refine (h.tasks ha hs t ht hkind).resolve_left fun hold => ?_
  exact hold.2 e he htalk

/-- **Who is timed out was silent**, if messages come only while no ping is outstanding: in every such run, when the
timeout task fires, no HEARTBEAT, MESSAGE, JSON_MESSAGE or EVENT frame was processed within a timeout's length before. -/
theorem timeout_after_silence (config : SocketIOConfig) (js : List (Input SocketEvent))
    (h : Answered (after config js).log) : SilentBefore config js := by
  intro past i later hjs hout earlier j between hpast hheard
  obtain ⟨t, -, hkind, hmem, hdue⟩ := hout
  obtain ⟨added, hlog, hears⟩ := hheard
  obtain ⟨added', hstep⟩ := keeps_after config earlier [j]
  obtain ⟨more, hrest⟩ := keeps_after config (earlier ++ [j]) between
  have hadded : added' = added := List.append_cancel_right (hstep.log.symm.trans hlog)
  rw [List.append_assoc, List.singleton_append, ← hpast] at hrest
  rw [hjs] at h
  have hanswered : Answered (after config past).log := answered_past h
  have hinv : Inv (after config earlier) := inv_after config earlier (answered_past (hpast ▸ hanswered))
  have hlater : ∃ e ∈ more ++ added', Talk e := by
    obtain ⟨e, he, htalk⟩ := hears
    exact ⟨e, List.mem_append_right _ (hadded ▸ he), htalk⟩
  have hput := (hstep.trans hrest).due_of_hears hanswered hinv hlater hmem hkind
  rw [timeout_after] at hput
  omega

/-- a client connects and says something, answers the ping that it gets 100 ms later and says something else; the next ping
it leaves unanswered, and the timeout task fires 120 ms later -/
def fallingSilent : List (Input SocketEvent) :=
  [⟨.container .connect, [], []⟩, ⟨.container (.text (str "3:::hello")), [], []⟩, ⟨.tick 100, [], []⟩,
    ⟨.fire ⟨0, .sendPing, 100⟩, [], []⟩, ⟨.tick 60, [], []⟩, ⟨.container (.text (str "2:::1")), [], []⟩,
    ⟨.container (.text (str "3:::hi")), [], []⟩, ⟨.tick 100, [], []⟩, ⟨.fire ⟨4, .sendPing, 260⟩, [], []⟩,
    ⟨.tick 120, [], []⟩, ⟨.fire ⟨5, .onTimeout, 380⟩, [], []⟩]

theorem timeout_after_silence_fallingSilent :
    .called (.onDisconnect .timeout) ∈ (after ⟨some 100, some 120⟩ fallingSilent).log ∧
      SilentBefore ⟨some 100, some 120⟩ fallingSilent :=
  ⟨by decide +kernel, timeout_after_silence _ _ (by decide +kernel)⟩

/-- a client connects and says something, and the session pings it 100 ms later; 60 ms after the ping the client says
something else, and 60 ms after that the timeout task fires -/
def talking : List (Input SocketEvent) :=
  [⟨.container .connect, [], []⟩, ⟨.container (.text (str "3:::hello")), [], []⟩, ⟨.tick 100, [], []⟩,
    ⟨.fire ⟨0, .sendPing, 100⟩, [], []⟩, ⟨.tick 60, [], []⟩]

def timedOut : Input SocketEvent := ⟨.fire ⟨1, .onTimeout, 220⟩, [], []⟩

/-- **A client that talks is timed out** while its answer to the ping is missing. -/
theorem talking_client_times_out :
    let js := talking ++ ⟨.container (.text (str "3:::hi")), [], []⟩ :: [⟨.tick 60, [], []⟩]
    .called (.onDisconnect .timeout) ∈ (after ⟨some 100, some 120⟩ (js ++ [timedOut])).log ∧
      ¬ SilentBefore ⟨some 100, some 120⟩ (js ++ [timedOut]) := by
  refine ⟨by decide +kernel, fun h => ?_⟩
  have hout : TimesOut (after ⟨some 100, some 120⟩ (talking ++ ⟨.container (.text (str "3:::hi")), [], []⟩ ::
      [⟨.tick 60, [], []⟩])) timedOut :=
    ⟨_, rfl, rfl, by decide +kernel, by decide +kernel⟩
  have hhears : Hears (after ⟨some 100, some 120⟩ talking)
      (after ⟨some 100, some 120⟩ (talking ++ [⟨.container (.text (str "3:::hi")), [], []⟩])) := by
    refine ⟨(after ⟨some 100, some 120⟩ (talking ++ [⟨.container (.text (str "3:::hi")), [], []⟩])).log.take 4,
      by decide +kernel, .received (.new .message 0 (str "hi")), by decide +kernel, .inr (.inl rfl)⟩
  have hsilent := h _ _ [] rfl hout _ _ _ rfl hhears
  exact absurd hsilent (by decide +kernel)

end

end SocketIOJava.TimeoutReset
