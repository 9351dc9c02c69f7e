/-
`SocketIOInbound.onDisconnect` is promised to be called only once.

Six paths lead to it, and they call each other. The session forgets its inbound only after the callback has returned, so
what the application does inside the callback decides: there `disconnect()`, and a `close()` whose CLOSE frame the
transport refuses, lead to `onDisconnect` again.

- `onDisconnect_once`: in every run in which the application does neither inside the callback (`Courteous`), the callback
  is called at most once; and in every run it was called before the session was removed from its manager.
- `disconnect_inside_disconnects_twice`: a WebSocket application that calls `disconnect()` in its `onDisconnect` callback
  is called back a second time.

The argument: outside of the callback no second call is possible (`Quiet`), and inside of it the courteous application
never gets to `onDisconnect` (`Inside`), because the state is not CONNECTED and an accepted CLOSE frame only writes.
-/
import SocketIOJava.JettyTraversal

namespace SocketIOJava.Disconnect

open Program SocketIOJava.Text SocketIOJava.Frame SocketIOJava.Session SocketIOJava.Run SocketIOJava.Traversal

/-! ## Calls in the history -/

def isCall : Entry → Bool
  | .called (.onDisconnect _) => true
  | _ => false

def isReturn : Entry → Bool
  | .returned (.onDisconnect _) => true
  | _ => false

/-- how often `inbound.onDisconnect` was called -/
def disconnects (log : List Entry) : ℕ := log.countP isCall

/-- how often it returned -/
def returns (log : List Entry) : ℕ := log.countP isReturn

/-- a call has not returned yet -/
def Notifying (log : List Entry) : Prop := returns log < disconnects log

/-- a call of the application that leads to `onDisconnect`: `disconnect()`, and `close()` when the transport refuses the
CLOSE frame -/
def isOffence : Entry → Bool
  | .outbound .disconnect _ => true
  | .outbound .close refused => refused
  | _ => false

/-- inside its `onDisconnect` callback the application commits no offence -/
def Courteous : List Entry → Prop
  | [] => True
  | e :: past => Courteous past ∧ (isOffence e = true → ¬ Notifying past)

/-- when the session was removed from its manager, `onDisconnect` had been called -/
def Accounted : List Entry → Prop
  | [] => True
  | e :: past => Accounted past ∧ (e = .removed → 1 ≤ disconnects past)

theorem Courteous.of_suffix {past log : List Entry} (h : Courteous log) (hp : past <:+ log) : Courteous past := by
  induction log with
  | nil => rw [List.suffix_nil.1 hp]; trivial
  | cons e log ih =>
    rcases List.suffix_cons_iff.1 hp with rfl | hpast
    · exact h
    · exact ih h.1 hpast

instance : DecidablePred Notifying := fun log => inferInstanceAs (Decidable (returns log < disconnects log))

instance decidableCourteous : DecidablePred Courteous
  | [] => isTrue trivial
  | e :: past =>
    have : Decidable (Courteous past) := decidableCourteous past
    inferInstanceAs (Decidable (Courteous past ∧ (isOffence e = true → ¬ Notifying past)))

instance decidableAccounted : DecidablePred Accounted
  | [] => isTrue trivial
  | e :: past =>
    have : Decidable (Accounted past) := decidableAccounted past
    inferInstanceAs (Decidable (Accounted past ∧ (e = .removed → 1 ≤ disconnects past)))

/-- an entry that is not one of those counted here -/
structure Uncounted (e : Entry) : Prop where
  call : isCall e = false
  ret : isReturn e = false
  removed : e ≠ .removed

theorem uncounted_of_silent {e : Entry} (he : Silent e) : Uncounted e := by
  cases e with
  | called c => cases c <;> first | exact ⟨rfl, rfl, nofun⟩ | exact absurd rfl (he _)
  | returned c => cases c <;> first | exact ⟨rfl, rfl, nofun⟩ | exact absurd rfl (he _)
  | removed => exact he.elim
  | _ => exact ⟨rfl, rfl, nofun⟩

theorem Uncounted.disconnects_cons {e : Entry} (he : Uncounted e) (log : List Entry) :
    disconnects (e :: log) = disconnects log := List.countP_cons_of_neg (by simp [he.call])

theorem Uncounted.returns_cons {e : Entry} (he : Uncounted e) (log : List Entry) :
    returns (e :: log) = returns log := List.countP_cons_of_neg (by simp [he.ret])

/-! ## Outside of the callback -/

section

variable {η : Type}

/-- whatever the application does: without an inbound, `onDisconnect` was called -/
structure Base (s : St η) : Prop where
  dropped : s.session.inbound = false → 1 ≤ disconnects s.log
  accounted : Accounted s.log

/-- if the application was courteous: no call is running, there was at most one, and none while there is an inbound -/
structure Calm (s : St η) : Prop where
  returned : returns s.log = disconnects s.log
  once : disconnects s.log ≤ 1
  inbound : s.session.inbound = true → disconnects s.log = 0

def Quiet (s : St η) : Prop := Courteous s.log → Calm s

/-- the history grows and the facts are kept -/
structure Keeps (s s' : St η) : Prop where
  log : s.log <:+ s'.log
  base : Base s → Base s'
  quiet : Quiet s → Quiet s'

instance : Std.Refl (Keeps (η := η)) := ⟨fun _ => ⟨List.suffix_refl _, id, id⟩⟩

instance : IsTrans (St η) Keeps := ⟨fun _ _ _ h h' => ⟨h.log.trans h'.log, h'.base ∘ h.base, h'.quiet ∘ h.quiet⟩⟩

theorem keeps_of_core {s s' : St η} (hs : core s' = core s) : Keeps s s' := by
  obtain ⟨-, hinbound, -, hlog⟩ : s'.session.state = s.session.state ∧ s'.session.inbound = s.session.inbound ∧
      s'.session.handler = s.session.handler ∧ s'.log = s.log := by
    simpa [core] using hs
  refine ⟨by rw [hlog], fun h => ⟨?_, ?_⟩, fun h hc => ?_⟩
  · rw [hlog, hinbound]; exact h.dropped
  · rw [hlog]; exact h.accounted
  · rw [hlog] at hc
    have hcalm := h hc
    exact ⟨by rw [hlog]; exact hcalm.returned, by rw [hlog]; exact hcalm.once,
      by rw [hlog, hinbound]; exact hcalm.inbound⟩

theorem keeps_cons {s s' : St η} {e : Entry} (he : Uncounted e) (hlog : s'.log = e :: s.log)
    (hinbound : s'.session.inbound = s.session.inbound) : Keeps s s' := by
  refine ⟨by rw [hlog]; exact List.suffix_cons _ _, fun h => ⟨?_, ?_⟩, fun h hc => ?_⟩
  · rw [hlog, hinbound, he.disconnects_cons]; exact h.dropped
  · rw [hlog]; exact ⟨h.accounted, fun h => absurd h he.removed⟩
  · rw [hlog] at hc
    have hcalm := h hc.1
    refine ⟨?_, ?_, ?_⟩
    · rw [hlog, he.disconnects_cons, he.returns_cons]; exact hcalm.returned
    · rw [hlog, he.disconnects_cons]; exact hcalm.once
    · rw [hlog, hinbound, he.disconnects_cons]; exact hcalm.inbound

/-- an assignment of the state, after an entry -/
theorem keeps_assign {s : St η} {e : Entry} (he : Uncounted e) (c : ConnectionState) :
    Keeps s (setState c (s.push e)) :=
  have hpush : Keeps s (s.push e) := keeps_cons he rfl rfl
  IsTrans.trans _ _ _ hpush (keeps_cons (e := .state c) ⟨rfl, rfl, nofun⟩ rfl rfl)

theorem keeps_attach (s : St η) : Keeps s (attach s) :=
  ⟨List.suffix_refl _, fun h => ⟨h.dropped, h.accounted⟩,
    fun h hc => ⟨(h hc).returned, (h hc).once, (h hc).inbound⟩⟩

theorem keeps_removed (s : St η) (hi : s.session.inbound = false) : Keeps s (removeSession s) := by
  refine ⟨List.suffix_cons _ _, fun h => ⟨fun h' => ?_, h.accounted, fun _ => h.dropped hi⟩, fun h hc => ?_⟩
  · exact h.dropped h'
  · have hcalm := h hc.1
    exact ⟨hcalm.returned, hcalm.once, hcalm.inbound⟩

variable [TransportHandler η]

theorem updates : Updates (Keeps (η := η)) where
  same _ _ hs := keeps_of_core hs
  silent _ _ he := keeps_cons (uncounted_of_silent he) rfl rfl
  outbound s c := keeps_cons (e := .outbound c (TransportHandler.refuses s closeFrame)) ⟨rfl, rfl, nofun⟩ rfl rfl
  acknowledged _ data _ := keeps_cons (e := .onClose .closing data) ⟨rfl, rfl, nofun⟩ rfl rfl
  startClose s := IsTrans.trans _ _ _ (keeps_assign (e := .startClose s.session.state) ⟨rfl, rfl, nofun⟩ .closing)
    (keeps_of_core rfl)
  closing s data _ := keeps_assign (e := .onClose s.session.state data) ⟨rfl, rfl, nofun⟩ _
  closed _ := keeps_cons (e := .state .closed) ⟨rfl, rfl, nofun⟩ rfl rfl
  removed := keeps_removed

omit [TransportHandler η] in
theorem opens : Opens (Keeps (η := η)) where
  opened s _ _ := IsTrans.trans _ (attach s) _ (keeps_attach s)
    (keeps_assign (e := .opened s.session.state) ⟨rfl, rfl, nofun⟩ _)
  attached := keeps_attach

end

/-! ## Inside of the callback -/

section

variable {η : Type}

/-- if the application was courteous: the one call is running, and the session is not CONNECTED -/
structure Running (s : St η) : Prop where
  once : disconnects s.log = 1
  open_ : returns s.log = 0
  inbound : s.session.inbound = true
  state : s.session.state ≠ .connected

def Inside (s : St η) : Prop := Courteous s.log → Running s

/-- the history grows, and inside of the callback one stays inside of it -/
structure Stays (s s' : St η) : Prop where
  log : s.log <:+ s'.log
  inside : Inside s → Inside s'

instance : Std.Refl (Stays (η := η)) := ⟨fun _ => ⟨List.suffix_refl _, id⟩⟩

instance : IsTrans (St η) Stays := ⟨fun _ _ _ h h' => ⟨h.log.trans h'.log, h'.inside ∘ h.inside⟩⟩

/-- only entries about the transport are added, and the core does not change -/
structure Tame (s s' : St η) : Prop where
  log : ∃ added, s'.log = added ++ s.log ∧ ∀ e ∈ added, Uncounted e
  state : s'.session.state = s.session.state
  inbound : s'.session.inbound = s.session.inbound

theorem disconnects_append {added : List Entry} (h : ∀ e ∈ added, Uncounted e) (log : List Entry) :
    disconnects (added ++ log) = disconnects log ∧ returns (added ++ log) = returns log := by
  induction added with
  | nil => exact ⟨rfl, rfl⟩
  | cons e added ih =>
    obtain ⟨he, hadded⟩ := List.forall_mem_cons.1 h
    rw [List.cons_append, he.disconnects_cons, he.returns_cons]
    exact ih hadded

theorem Tame.stays {s s' : St η} (h : Tame s s') : Stays s s' := by
  obtain ⟨added, hlog, hadded⟩ := h.log
  obtain ⟨hd, hr⟩ := disconnects_append hadded s.log
  refine ⟨⟨added, hlog.symm⟩, fun hs hc => ?_⟩
  have hrun := hs (hc.of_suffix ⟨added, hlog.symm⟩)
  exact ⟨by rw [hlog, hd]; exact hrun.once, by rw [hlog, hr]; exact hrun.open_, by rw [h.inbound]; exact hrun.inbound,
    by rw [h.state]; exact hrun.state⟩

/-- what the argument uses of a transport handler: a CLOSE frame that it does not refuse is written or buffered, and the
test before a message of the application changes nothing -/
structure Lawful (η : Type) [TransportHandler η] : Prop where
  accepted : ∀ (cb : Callback η) (s s' : St η), s'.handler = s.handler → s'.io = s.io →
    TransportHandler.refuses s closeFrame = false → Tame s' (TransportHandler.sendMessage cb closeFrame s').2 ∧
      ∀ e, (TransportHandler.sendMessage cb closeFrame s').1 = .error e → e.isSocketIOException = false
  isOpen : ∀ s : St η, (TransportHandler.isOpen s).2 = s

variable [TransportHandler η] {cb : Callback η}

/-- **A `close()` whose frame is not refused does not lead to `onDisconnect`.** -/
theorem stays_startClose (lawful : Lawful η) {s₀ s : St η} (hhandler : s.handler = s₀.handler) (hio : s.io = s₀.io)
    (h : TransportHandler.refuses s₀ closeFrame = false) : Stays s (startClose cb s).2 := by
  have hclosing : Stays s (initiateClose s) := by
    refine ⟨⟨[_, _], rfl⟩, fun hs hc => ?_⟩
    have hrun := hs hc.1.1
    exact ⟨hrun.once, hrun.open_, hrun.inbound, nofun⟩
  obtain ⟨htame, hnot⟩ := lawful.accepted cb s₀ (initiateClose s) hhandler hio h
  refine IsTrans.trans _ _ _ hclosing ?_
  change Stays (initiateClose s) (sendOrAbort cb closeFrame (initiateClose s)).2
  rcases sendOrAbort_accepted hnot with hr | hr
  · rw [hr]; exact Std.Refl.refl _
  · rw [hr]; exact htame.stays

/-- a message is refused unless the session is CONNECTED -/
theorem sendTyped_of_not_connected (lawful : Lawful η) {s : St η} (h : s.session.state ≠ .connected) (messageType : ℤ)
    (message : JString) : (sendTyped cb messageType message s).2 = s := by
  have hopen := lawful.isOpen s
  unfold sendTyped
  rcases hr : (TransportHandler.isOpen : M η Bool) s with ⟨r, s'⟩
  rw [hr] at hopen
  obtain rfl : s' = s := hopen
  cases r with
  | error e => rw [bind_of_error hr]
  | ok b =>
    rw [bind_of_ok hr, get_bind, if_neg fun hb => h hb.2]
    rfl

/-- the calls of the application that are not an offence -/
theorem stays_outboundMethod (lawful : Lawful η) (k : Calls Keeps cb) {c : OutboundCall} {s : St η}
    (hc : isOffence (.outbound c (TransportHandler.refuses s closeFrame)) = false) {s' : St η} (hhandler : s'.handler = s.handler)
    (hio : s'.io = s.io) : Stays s' (outboundMethod cb c s').2 := by
  have hsend : ∀ messageType message, Stays s' (sendTyped cb messageType message s').2 := by
    intro messageType message
    have hlog := (k.along_sendTyped messageType message s').log
    refine ⟨hlog, fun hs hcourteous => ?_⟩
    have hrun := hs (hcourteous.of_suffix hlog)
    rw [sendTyped_of_not_connected lawful hrun.state]
    exact hrun
  cases c with
  | disconnect => cases hc
  | close => exact stays_startClose lawful hhandler hio hc
  | sendMessage message => exact hsend _ _
  | sendTyped messageType message => exact hsend _ _
  | emitMessage key message => exact hsend _ _

/-- **Inside of the callback, a courteous call of the application stays inside of it.** -/
theorem stays_outbound (lawful : Lawful η) (k : Calls Keeps cb) (c : OutboundCall) : Along Stays (outbound cb c) := by
  refine along_derefHandler.bind fun _ s => ?_
  let s' := s.push (.outbound c (TransportHandler.refuses s closeFrame))
  change Stays s (outboundMethod cb c s').2
  have hpushed : Stays s s' :=
    Tame.stays ⟨⟨[_], rfl, fun e he => by rw [List.mem_singleton.1 he]; exact ⟨rfl, rfl, nofun⟩⟩, rfl, rfl⟩
  have hlog := (k.along_outboundMethod c s').log
  by_cases hoffence : isOffence (.outbound c (TransportHandler.refuses s closeFrame)) = true
  · refine ⟨hpushed.log.trans hlog, fun hs hcourteous => ?_⟩
    -- inside of the callback an offence is not courteous
    have hpast := hcourteous.of_suffix hlog
    have hrun := hs hpast.1
    exact absurd (show Notifying s.log by rw [Notifying, hrun.open_, hrun.once]; decide) (hpast.2 hoffence)
  · exact IsTrans.trans _ _ _ hpushed (stays_outboundMethod lawful k (Bool.eq_false_iff.2 hoffence) rfl rfl)

omit [TransportHandler η] in
theorem stays_acts (s : St η) (acts : List Act) : Stays s { s with acts := acts } :=
  ⟨List.suffix_refl _, fun h hc => ⟨(h hc).once, (h hc).open_, (h hc).inbound, (h hc).state⟩⟩

theorem stays_behave (lawful : Lawful η) {n : ℕ} (k : ∀ m < n, Calls Keeps (app m : Callback η)) :
    Along Stays (behave n : M η (List JString)) :=
  along_behave_of (fun s acts _ => stays_acts s acts) fun m hm => stays_outbound lawful (k m hm)

/-! ## The callback as a whole -/

/-- **`notify` calls back at most once**, and leaves the session calm and without an inbound. -/
theorem keeps_notify (lawful : Lawful η) {n : ℕ} (k : ∀ m < n, Calls Keeps (app m : Callback η)) (s : St η)
    (reason : DisconnectReason) (hi : s.session.inbound = true) : Keeps s (Session.notify (app n) reason s).2 := by
  -- the states in which the application takes over and gives back
  let begun := (setState .closed s).push (.called (.onDisconnect reason))
  let done := (behave n begun).2
  have hkeeps : Keeps begun done := along_behave k begun
  have hstays : Stays begun done := stays_behave lawful k begun
  have hbegun : disconnects begun.log = disconnects s.log + 1 := List.countP_cons_of_pos rfl
  have hfirst : s.log <:+ begun.log := ⟨[_, _], rfl⟩
  rw [notify_app]
  refine ⟨hfirst.trans (hkeeps.log.trans (List.suffix_cons _ _)), fun h => ?_, fun h hc => ?_⟩
  · have hdone := hkeeps.base ⟨fun _ => by omega, ⟨h.accounted, nofun⟩, nofun⟩
    refine ⟨fun _ => ?_, hdone.accounted, nofun⟩
    have hle := List.Sublist.countP_le (p := isCall) hkeeps.log.sublist
    change 1 ≤ disconnects done.log
    simp only [disconnects] at hbegun hle ⊢
    omega
  · have hcalm := h ((hc.1.of_suffix hkeeps.log).of_suffix hfirst)
    have hzero := hcalm.inbound hi
    have hrunning := hstays.inside (fun _ => ⟨by omega, hcalm.returned.trans hzero, hi, nofun⟩) hc.1
    have hreturned : returns (.returned (.onDisconnect reason) :: done.log) = returns done.log + 1 :=
      List.countP_cons_of_pos rfl
    refine ⟨?_, ?_, nofun⟩
    · exact hreturned.trans (by rw [hrunning.open_]; exact hrunning.once.symm)
    · exact hrunning.once.le

/-- the application keeps the facts, at every depth of callbacks -/
theorem core_app (lawful : Lawful η)
    (hsteps : ∀ n, Incoming Keeps (app n : Callback η) → Steps Keeps (app n : Callback η)) (n : ℕ) :
    Core Keeps (app n : Callback η) :=
  updates.core_app hsteps (fun _ hn s reason hi => keeps_notify lawful hn s reason hi) n

end

/-! ## The two handlers -/

theorem tame_of_same {η : Type} {s s' : St η} (hlog : s'.log = s.log) (hstate : s'.session.state = s.session.state)
    (hinbound : s'.session.inbound = s.session.inbound) : Tame s s' :=
  ⟨⟨[], by rw [hlog]; rfl, fun _ h => absurd h List.not_mem_nil⟩, hstate, hinbound⟩

theorem tame_push {η : Type} (s : St η) {e : Entry} (he : Uncounted e) : Tame s (s.push e) :=
  ⟨⟨[e], rfl, fun x hx => by rw [List.mem_singleton.1 hx]; exact he⟩, rfl, rfl⟩

theorem Tame.trans {η : Type} {s s' s'' : St η} (h : Tame s s') (h' : Tame s' s'') : Tame s s'' := by
  obtain ⟨added, hlog, hadded⟩ := h.log
  obtain ⟨added', hlog', hadded'⟩ := h'.log
  refine ⟨⟨added' ++ added, by rw [hlog', hlog, List.append_assoc], ?_⟩, h'.state.trans h.state,
    h'.inbound.trans h.inbound⟩
  exact fun e he => (List.mem_append.1 he).elim (hadded' e) (hadded e)

instance : Std.Refl (Tame (η := η)) := ⟨fun _ => tame_of_same rfl rfl rfl⟩

instance : IsTrans (St η) Tame := ⟨fun _ _ _ => Tame.trans⟩

section Http

open JettyContinuation

theorem tame_writes : JettyTraversal.Http.Writes Tame where
  buffer _ _ _ := tame_of_same rfl rfl rfl
  wrote s data := by
    have hpushed : Tame s (s.push (.wrote data s.nextWriteFails)) := tame_push s (uncounted_of_silent trivial)
    exact Tame.trans hpushed (tame_of_same rfl rfl rfl)
  completed s := Tame.trans (tame_push s (e := .completed) (uncounted_of_silent trivial)) (tame_of_same rfl rfl rfl)
  startHeartbeat s := by
    have hcore := core_startHeartbeatTimer s
    simp only [core, Prod.mk.injEq] at hcore
    exact tame_of_same hcore.2.2.2 hcore.1 hcore.2.1

theorem http_lawful : Lawful Handler where
  isOpen _ := rfl
  accepted cb s s' hhandler hio h := by
    have h' : refuses s' closeFrame = false := by
      rw [← h]
      simp only [TransportHandler.refuses, refuses, blocked, St.nextWriteFails, hhandler, hio]
    have hframe : Tame s' (s'.push (.frame closeFrame)) := tame_push s' (e := .frame closeFrame) (uncounted_of_silent trivial)
    exact ⟨hframe.trans (tame_writes.sendMessage_accepted h'), JettyTraversal.Http.sendMessage_accepted_error h'⟩

end Http

section Socket

open JettyWebSocket

theorem tame_written (data : JString) (s : St Handler) : Tame s (written data s) :=
  Tame.trans (tame_push s (e := .wrote data s.nextWriteFails) (uncounted_of_silent trivial)) (tame_of_same rfl rfl rfl)

theorem socket_lawful : Lawful Handler where
  isOpen s := by
    change (isOpen s).2 = s
    unfold isOpen
    rw [get_bind]
    cases s.handler.outbound <;> rfl
  accepted cb s s' hhandler hio h := by
    have h' : refuses s' closeFrame = false := by
      refine Eq.trans ?_ h
      simp only [TransportHandler.refuses, refuses, St.nextWriteFails, hhandler, hio]
    have hframe : Tame s' (s'.push (.frame closeFrame)) := tame_push s' (e := .frame closeFrame) (uncounted_of_silent trivial)
    change Tame s' (sendMessage cb closeFrame s').2 ∧
      ∀ e, (sendMessage cb closeFrame s').1 = .error e → e.isSocketIOException = false
    rcases sendMessage_accepted cb h' with hnull | hsent
    · rw [hnull]
      exact ⟨hframe, fun e he => by cases he; rfl⟩
    · rw [hsent]
      exact ⟨hframe.trans (tame_written _ _), fun e he => by cases he⟩

end Socket

/-! ## Runs -/

theorem facts_initial {η : Type} {s : St η} (hlog : s.log = []) (hinbound : s.session.inbound = true) :
    Base s ∧ Quiet s := by
  refine ⟨⟨fun h => ?_, ?_⟩, fun _ => ⟨?_, ?_, fun _ => ?_⟩⟩
  · rw [hinbound] at h; cases h
  · rw [hlog]; trivial
  · rw [hlog]; rfl
  · rw [hlog]; exact Nat.zero_le 1
  · rw [hlog]; rfl

/-- the facts hold after a run that starts with a fresh session -/
theorem http_keeps (config : JettyContinuation.SocketIOConfig) (persistent : Bool) (is : List (Input HttpEvent)) :
    Keeps (JettyContinuation.created config persistent) (run serveHttp (JettyContinuation.created config persistent) is) := by
  have hcore := fun n => (core_app http_lawful (fun n c => JettyTraversal.Http.steps c) n).incoming
  have hsteps := fun n => JettyTraversal.Http.steps (hcore n)
  exact run_related (fun n => (hcore n).serving) hsteps
    (fun n e => JettyTraversal.Http.along_serve (hcore n).serving (hsteps n) opens e) _ is

theorem socket_keeps (config : JettyWebSocket.SocketIOConfig) (is : List (Input SocketEvent)) :
    Keeps (JettyWebSocket.created config) (run serveSocket (JettyWebSocket.created config) is) := by
  have hcore := fun n => (core_app socket_lawful (fun n c => JettyTraversal.Socket.steps c) n).incoming
  have hsteps := fun n => JettyTraversal.Socket.steps (hcore n)
  exact run_related (fun n => (hcore n).serving) hsteps
    (fun n e => JettyTraversal.Socket.along_serve (hcore n).serving (hsteps n) opens e) _ is

/-- `onDisconnect` was called at most once, and before the session was removed from its manager -/
def DisconnectedOnce (log : List Entry) : Prop := disconnects log ≤ 1 ∧ Accounted log

instance : DecidablePred DisconnectedOnce := fun log => inferInstanceAs (Decidable (disconnects log ≤ 1 ∧ Accounted log))

theorem Keeps.disconnectedOnce {η : Type} {s₀ s : St η} (h : Keeps s₀ s) (hlog : s₀.log = [])
    (hinbound : s₀.session.inbound = true) (hc : Courteous s.log) : DisconnectedOnce s.log := by
  obtain ⟨hbase, hquiet⟩ := facts_initial hlog hinbound
  exact ⟨(h.quiet hquiet hc).once, (h.base hbase).accounted⟩

/-- **`onDisconnect` is called at most once.** In every run of a session with either handler in which the application,
inside its `onDisconnect` callback, neither calls `disconnect()` nor a `close()` whose CLOSE frame the transport refuses:
the callback is called at most once, and it was called when the session is removed from its manager. -/
theorem onDisconnect_once (config : JettyContinuation.SocketIOConfig) (persistent : Bool) (is : List (Input HttpEvent))
    (wsConfig : JettyWebSocket.SocketIOConfig) (js : List (Input SocketEvent)) :
    let s := run serveHttp (JettyContinuation.created config persistent) is
    let t := run serveSocket (JettyWebSocket.created wsConfig) js
    (Courteous s.log → DisconnectedOnce s.log) ∧ (Courteous t.log → DisconnectedOnce t.log) :=
  ⟨(http_keeps config persistent is).disconnectedOnce rfl rfl, (socket_keeps wsConfig js).disconnectedOnce rfl rfl⟩

/-- a WebSocket session whose application answers in each callback, and closes in the last one -/
def courteousRun : List (Input SocketEvent) :=
  [⟨.container .connect, [.call (.sendMessage (str "hello"))], []⟩, ⟨.container (.text (str "3:::hi")), [], []⟩,
    ⟨.container .onClose, [.call (.sendMessage (str "bye")), .call .close], []⟩]

theorem onDisconnect_once_courteousRun :
    DisconnectedOnce (run serveSocket (JettyWebSocket.created ⟨none, none⟩) courteousRun).log :=
  (onDisconnect_once ⟨none, none, none, none⟩ false [] ⟨none, none⟩ courteousRun).2 (by decide)

/-- a WebSocket session whose connection closes; inside the callback the application calls `disconnect()` -/
def disconnectInside : List (Input SocketEvent) :=
  [⟨.container .connect, [], []⟩, ⟨.container .onClose, [.call .disconnect], []⟩]

/-- **`disconnect()` inside the callback leads to a second call.** -/
theorem disconnect_inside_disconnects_twice :
    ¬ DisconnectedOnce (run serveSocket (JettyWebSocket.created ⟨none, none⟩) disconnectInside).log := by
  decide

end SocketIOJava.Disconnect
