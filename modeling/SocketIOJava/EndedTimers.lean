/-
The timers of a session that has ended.

`abort` ends with `onShutdown`, and every way there clears both timers. What runs after it can start one again: the rest
of a ping that the transport refused, the rest of the container's timeout of a poll, and a sign of life of a client that
comes in after the end.

- `nothing_pending_once_ended`: in a run without these, no task is pending once `onShutdown` has run.
- `refused_ping_leaves_timeout`: a ping that fails ends the session and starts its timeout timer.
-/
import SocketIOJava.JettyTraversal
import SocketIOJava.Timers

namespace SocketIOJava.EndedTimers

open Program SocketIOJava.Text SocketIOJava.Frame SocketIOJava.Session SocketIOJava.Run SocketIOJava.Traversal
open SocketIOJava.Timers

/-! ## The end in the history -/

/-- `onShutdown` has run -/
def Ended (log : List Entry) : Prop := .removed ∈ log

/-- `onDisconnect` is called, for another reason than TIMEOUT -/
def Parting : Entry → Prop
  | .called (.onDisconnect reason) => reason ≠ .timeout
  | _ => False

def Parted (log : List Entry) : Prop := ∃ e ∈ log, Parting e

/-- no text message and no HEARTBEAT frame came in once the session was `gone` -/
def Hushed (gone : List Entry → Prop) : List Entry → Prop
  | [] => True
  | .text _ :: log => ¬ gone log ∧ Hushed gone log
  | .received f :: log => (f.frameType = .heartbeat → ¬ gone log) ∧ Hushed gone log
  | _ :: log => Hushed gone log

instance : DecidablePred Ended := fun log => inferInstanceAs (Decidable (.removed ∈ log))

instance : DecidablePred Parting
  | .called (.onDisconnect reason) => inferInstanceAs (Decidable (reason ≠ .timeout))
  | .called .onConnect | .called (.onMessage _ _) | .called .setEventnames | .called (.setNamespace _) => .isFalse id
  | .state _ | .startClose _ | .onClose _ _ | .opened _ | .returned _ | .outbound _ _ | .frame _ | .wrote _ _ | .received _
  | .removed | .listed _ | .text _ | .parked | .answered | .released | .completed | .finished _ | .responded _ => .isFalse id

instance : DecidablePred Parted := fun log => inferInstanceAs (Decidable (∃ e ∈ log, Parting e))

instance decidableHushed {gone : List Entry → Prop} [DecidablePred gone] : DecidablePred (Hushed gone)
  | [] => .isTrue trivial
  | e :: log =>
    have := @decidableHushed gone _ log
    match e with
    | .text _ => inferInstanceAs (Decidable (¬ gone log ∧ Hushed gone log))
    | .received f => inferInstanceAs (Decidable ((f.frameType = .heartbeat → ¬ gone log) ∧ Hushed gone log))
    | .state _ | .startClose _ | .onClose _ _ | .opened _ | .called _ | .returned _ | .outbound _ _ | .frame _ | .wrote _ _
    | .removed | .listed _ | .parked | .answered | .released | .completed | .finished _ | .responded _ =>
      inferInstanceAs (Decidable (Hushed gone log))

theorem Hushed.of_suffix {gone : List Entry → Prop} {past log : List Entry} (h : Hushed gone log) (hp : past <:+ log) :
    Hushed gone past := by
  induction log with
  | nil => rw [List.suffix_nil.1 hp]; trivial
  | cons e log ih =>
    rcases List.suffix_cons_iff.1 hp with rfl | hpast
    · exact h
    · cases e with
      | text _ | received _ => exact ih h.2 hpast
      | _ => exact ih h hpast

theorem Parted.of_suffix {past log : List Entry} (h : Parted past) (hp : past <:+ log) : Parted log := by
  obtain ⟨e, he, hparting⟩ := h
  exact ⟨e, hp.subset he, hparting⟩

section

variable {η κ : Type}

/-- the timeout timer does not start -/
def Off (s : St η) : Prop := s.session.timedout = true ∨ s.session.timeout ≤ 0

/-- the frame of the next ping -/
def pingFrame (s : St η) : SocketIOFrame :=
  .new .heartbeat FrameType.message.value (intToString (incrementMessageId s).session.messageId)

/-- the heartbeat task fires and the transport refuses the ping -/
def PingRefused [TransportHandler η] (s : St η) (i : Input κ) : Prop :=
  ∃ t, i.event = .fire t ∧ t.kind = .sendPing ∧ t ∈ s.executor.pending ∧ t.due ≤ s.executor.ticks ∧
    TransportHandler.refuses { s with io := i.io } (pingFrame s) = true

/-- the container's timeout of the poll in `continuation` ends the session -/
def PollExpired (s : St JettyContinuation.Handler) (i : Input HttpEvent) : Prop :=
  ∃ cont, i.event = .container (.onTimeout cont) ∧
    s.handler.continuation.map JettyContinuation.Continuation.id = some cont ∧ s.handler.persistent = false ∧
      (s.handler.is_open = false ∧ s.handler.buffer.isEmpty = true ∨ i.io.headD false = true)

/-! ## Updates that have nothing to do with the timers -/

def clock (s : St η) : List Task × Option Task × Option Task × ℕ × Bool :=
  (s.executor.pending, s.session.hbDelayTask, s.session.timeoutTask, s.session.lStartTime, s.session.inbound)

def settings (s : St η) : ℤ × ℤ × Bool × Bool :=
  (s.session.hbDelay, s.session.timeout, s.session.timedout, s.session.handler)

/-- any entry but the removal -/
def Onward : Entry → Prop
  | .removed => False
  | _ => True

structure Same (s s' : St η) : Prop where
  log : ∃ added, s'.log = added ++ s.log ∧ .removed ∉ added
  clock : clock s' = clock s
  settings : settings s' = settings s

variable {s s' : St η}

theorem same_of_log (hlog : s'.log = s.log) (hclock : clock s' = clock s) (hsettings : settings s' = settings s) :
    Same s s' := ⟨⟨[], hlog, List.not_mem_nil⟩, hclock, hsettings⟩

theorem same_push {e : Entry} (he : Onward e) (s : St η) : Same s (s.push e) := by
  refine ⟨⟨[e], rfl, fun h => ?_⟩, rfl, rfl⟩
  rw [← List.mem_singleton.1 h] at he
  exact he

instance : IsTrans (St η) Same where
  trans _ _ _ := fun h h' => by
    obtain ⟨added, hlog, hadded⟩ := h.log
    obtain ⟨added', hlog', hadded'⟩ := h'.log
    refine ⟨⟨added' ++ added, ?_, ?_⟩, h'.clock.trans h.clock, h'.settings.trans h.settings⟩
    · rw [hlog', hlog, List.append_assoc]
    · exact fun hmem => (List.mem_append.1 hmem).elim hadded' hadded

theorem same_setState (c : ConnectionState) (s : St η) : Same s (setState c s) := by
  have hpushed : Same s (s.push (.state c)) := same_push (e := .state c) trivial s
  exact IsTrans.trans _ _ _ hpushed (same_of_log rfl rfl rfl)

theorem same_startClose (s : St η) : Same s (initiateClose s) := by
  have hpushed : Same s (s.push (.startClose s.session.state)) :=
    same_push (e := .startClose s.session.state) trivial s
  have hclosing := same_setState .closing (s.push (.startClose s.session.state))
  exact IsTrans.trans _ _ _ hpushed (IsTrans.trans _ _ _ hclosing (same_of_log rfl rfl rfl))

namespace Same

variable (h : Same s s')
include h

theorem suffix : s.log <:+ s'.log := by
  obtain ⟨added, hlog, -⟩ := h.log
  exact ⟨added, hlog.symm⟩

theorem ended (he : Ended s'.log) : Ended s.log := by
  obtain ⟨added, hlog, hadded⟩ := h.log
  rw [Ended, hlog] at he
  exact (List.mem_append.1 he).resolve_left hadded

theorem pending : s'.executor.pending = s.executor.pending := (Prod.ext_iff.1 h.clock).1

theorem inbound : s'.session.inbound = s.session.inbound :=
  (Prod.ext_iff.1 (Prod.ext_iff.1 (Prod.ext_iff.1 (Prod.ext_iff.1 h.clock).2).2).2).2

theorem clocks (hs : Clocks s) : Clocks s' := by
  have hclock := h.clock
  simp only [EndedTimers.clock, Prod.mk.injEq] at hclock
  obtain ⟨hpending, hheartbeat, htimeout, hstart, -⟩ := hclock
  exact hs.congr (fun t ht => hpending ▸ ht) hheartbeat htimeout hstart

end Same

/-! ## The callback inside of `onShutdown` -/

/-- No task is pending, and the handler is shut. -/
structure Still (shut : η → Prop) (s : St η) : Prop where
  clocks : Clocks s
  idle : s.executor.pending = []
  shut : shut s.handler
  ended : Ended s.log → s.session.inbound = false

variable {shut : η → Prop}

/-- a still session stays so -/
def Stays (shut : η → Prop) (s s' : St η) : Prop :=
  Still shut s → Still shut s' ∧ s.log <:+ s'.log ∧ settings s' = settings s

instance : Std.Refl (Stays shut) := ⟨fun _ h => ⟨h, List.suffix_refl _, rfl⟩⟩

instance : IsTrans (St η) (Stays shut) where
  trans _ _ _ := fun h h' hs => by
    obtain ⟨hstill, hlog, hsettings⟩ := h hs
    obtain ⟨hstill', hlog', hsettings'⟩ := h' hstill
    exact ⟨hstill', hlog.trans hlog', hsettings'.trans hsettings⟩

theorem Same.stays (h : Same s s') (hshut : shut s.handler → shut s'.handler) : Stays shut s s' := by
  intro hs
  refine ⟨⟨h.clocks hs.clocks, h.pending.trans hs.idle, hshut hs.shut, fun he => ?_⟩, h.suffix, h.settings⟩
  rw [h.inbound]
  exact hs.ended (h.ended he)

theorem pending_clear_subset (s : St η) :
    ∀ t ∈ (clearHeartbeatTimer (clearTimeoutTimer s)).executor.pending, t ∈ s.executor.pending :=
  fun _ ht => (mem_cancel (mem_cancel ht).1).1

theorem pending_clear_idle (h : s.executor.pending = []) :
    (clearHeartbeatTimer (clearTimeoutTimer s)).executor.pending = [] :=
  List.eq_nil_iff_forall_not_mem.2 fun t ht => List.not_mem_nil (h ▸ pending_clear_subset s t ht)

theorem stays_clear (s : St η) : Stays shut s (clearHeartbeatTimer (clearTimeoutTimer s)) := by
  intro hs
  refine ⟨⟨hs.clocks.clearTimeout.clearHeartbeat, pending_clear_idle hs.idle, hs.shut, hs.ended⟩, List.suffix_refl _, rfl⟩

theorem stays_removed (h : s.session.inbound = false) : Stays shut s (removeSession s) := by
  intro hs
  refine ⟨⟨?_, hs.idle, hs.shut, fun _ => h⟩, List.suffix_cons _ _, rfl⟩
  exact hs.clocks.congr (fun _ ht => ht) rfl rfl rfl

section

variable [TransportHandler η] {n : ℕ} (k : ∀ m < n, Calls (Stays shut) (app m : Callback η))
include k

theorem along_stays_app (c : InboundCall) : Along (Stays shut) (app n c : M η (List JString)) :=
  along_app k (fun s => Same.stays (same_push (e := .called c) trivial s) id) fun s =>
    Same.stays (same_push (e := .returned c) trivial s) id

theorem along_stays_onDisconnect (reason : DisconnectReason) :
    Along (Stays shut) (Session.onDisconnect (app n : Callback η) reason) := by
  refine along_onDisconnect_of stays_clear fun s _ => ?_
  rw [notify_app]
  have hclosed : Stays shut s (setState .closed s) := Same.stays (same_setState .closed s) id
  have hcall := along_stays_app k (.onDisconnect reason) (setState .closed s)
  refine IsTrans.trans _ _ _ hclosed (IsTrans.trans _ _ _ hcall fun hs => ?_)
  refine ⟨⟨?_, hs.idle, hs.shut, fun _ => rfl⟩, List.suffix_refl _, rfl⟩
  exact hs.clocks.congr (fun _ ht => ht) rfl rfl rfl

theorem stays_moves : Moves (Stays shut) (app n : Callback η) where
  acts _ _ _ := Same.stays (same_of_log rfl rfl rfl) id
  io _ := Same.stays (same_of_log rfl rfl rfl) id
  outbound s c := Same.stays (same_push (e := .outbound c (TransportHandler.refuses s closeFrame)) trivial s) id
  startClose s := Same.stays (same_startClose s) id
  removed _ h := stays_removed h
  onDisconnect reason _ _ := along_stays_onDisconnect k reason

end

/-! ## Starting and clearing a timer -/

theorem settings_startHeartbeatTimer (s : St η) : settings (startHeartbeatTimer s) = settings s := by
  obtain ⟨e, t, heq⟩ := startHeartbeatTimer_eq s
  rw [heq]
  rfl

theorem settings_startTimeoutTimer (s : St η) : settings (startTimeoutTimer s) = settings s := by
  obtain ⟨e, t, l, heq⟩ := startTimeoutTimer_eq s
  rw [heq]
  rfl

/-- a start of a timer that is off notes the time, and that is all -/
theorem Off.startTimeoutTimer (h : Off s) : startTimeoutTimer s = stamp s := by
  refine startTimeoutTimer_off fun hstart => ?_
  rcases h with htimedout | htimeout
  · cases hstart.1.symm.trans htimedout
  · exact not_le.2 hstart.2 htimeout

theorem off_of_settings (h : settings s' = settings s) (hs : Off s) : Off s' := by
  simp only [settings, Prod.mk.injEq] at h
  obtain ⟨-, htimeout, htimedout, -⟩ := h
  rw [Off, htimeout, htimedout]
  exact hs

end

/-- the history grows; where it is `Hushed`, an invariant is kept and a timeout timer that is off stays off -/
def Carries {η : Type} (gone : List Entry → Prop) (I : St η → Prop) (delay : ℤ) (s s' : St η) : Prop :=
  s.log <:+ s'.log ∧ ((0 < delay → Hushed gone s'.log) → I s → I s' ∧ (Off s → Off s'))

section Carries

variable {η : Type} {gone : List Entry → Prop} {I : St η → Prop} {delay : ℤ}

instance : Std.Refl (Carries gone I delay) := ⟨fun _ => ⟨List.suffix_refl _, fun _ h => ⟨h, id⟩⟩⟩

instance : IsTrans (St η) (Carries gone I delay) where
  trans _ _ _ := fun h h' => by
    refine ⟨h.1.trans h'.1, fun hushed hs => ?_⟩
    have hfirst := h.2 (fun hd => (hushed hd).of_suffix h'.1) hs
    have hthen := h'.2 hushed hfirst.1
    exact ⟨hthen.1, hthen.2 ∘ hfirst.2⟩

/-- a program, and then a start of the timeout timer that the invariant survives -/
theorem Carries.then_startTimeout {m : M η Unit} {s s₀ : St η} (hm : Carries gone I delay s (m s₀).2)
    (hstart : I s → I (m s₀).2 → (Off s → Off (m s₀).2) → I (startTimeoutTimer (m s₀).2)) :
    Carries gone I delay s ((do m; modify startTimeoutTimer : M η Unit) s₀).2 := by
  rcases hr : m s₀ with ⟨r, s'⟩
  rw [hr] at hm hstart
  cases r with
  | error e => rw [bind_of_error hr]; exact hm
  | ok u =>
    have hlog := startTimeoutTimer_log s'
    rw [bind_of_ok hr]
    refine ⟨hlog.symm ▸ hm.1, fun hushed hs => ?_⟩
    obtain ⟨hs', hoff⟩ := hm.2 (fun hd => hlog ▸ hushed hd) hs
    exact ⟨hstart hs hs' hoff, fun h => off_of_settings (settings_startTimeoutTimer s') (hoff h)⟩

end Carries

/-- every step of a run is as `P` says, in the state in which it starts -/
def EachStep {η κ : Type} [TransportHandler η] (serve : Callback η → κ → M η Unit) (s : St η) (is : List (Input κ))
    (P : St η → Input κ → Prop) : Prop :=
  ∀ past i later, is = past ++ i :: later → P (run serve s past) i

/-! ## WebSocket sessions -/

namespace Socket

open JettyWebSocket
open SocketIOJava.JettyTraversal (Adds Outward adds_outgoing)
open SocketIOJava.JettyTraversal.Socket (Wire adds_calls)

/-- a callback in a session without a task leaves it without one -/
abbrev Idles : St Handler → St Handler → Prop := Stays fun _ => True

theorem idles_calls (n : ℕ) : Calls Idles (app n : Callback Handler) := by
  induction n using Nat.strong_induction_on with
  | _ n ih =>
    refine Wire.calls
      { stays_moves ih with frame := fun s f _ => ?_, wrote := fun s data failed => ?_, setOutbound := fun s c => ?_ }
    · exact Same.stays (same_push (e := .frame f) trivial s) id
    · exact Same.stays (same_push (e := .wrote data failed) trivial s) id
    · exact Same.stays (same_of_log rfl rfl rfl) id

structure Inv (delay : ℤ) (s : St Handler) : Prop where
  clocks : Clocks s
  idle : s.session.inbound = false → s.executor.pending = []
  ended : Ended s.log → s.session.inbound = false
  parted : s.session.inbound = false → s.session.timedout = true ∨ Parted s.log
  delay : s.session.hbDelay = delay

/-- the history grows, and without a late sign of life the invariant is kept and a timeout timer that is off stays off -/
def Keeps (delay : ℤ) (s s' : St Handler) : Prop :=
  s.log <:+ s'.log ∧ ((0 < delay → Hushed Parted s'.log) → Inv delay s → Inv delay s' ∧ (Off s → Off s'))

variable {delay : ℤ} {s s' : St Handler}

instance : Std.Refl (Keeps delay) := inferInstanceAs (Std.Refl (Carries Parted (Inv delay) delay))

instance : IsTrans (St Handler) (Keeps delay) := inferInstanceAs (IsTrans _ (Carries Parted (Inv delay) delay))

theorem keeps_of_same (h : Same s s') : Keeps delay s s' := by
  refine ⟨h.suffix, fun _ hs => ⟨⟨h.clocks hs.clocks, ?_, fun he => ?_, fun hi => ?_, ?_⟩, off_of_settings h.settings⟩⟩
  · rw [h.inbound, h.pending]; exact hs.idle
  · rw [h.inbound]; exact hs.ended (h.ended he)
  · have htimedout : s'.session.timedout = s.session.timedout :=
      (Prod.ext_iff.1 (Prod.ext_iff.1 (Prod.ext_iff.1 h.settings).2).2).1
    rw [htimedout]
    exact (hs.parted (h.inbound ▸ hi)).imp id fun hparted => hparted.of_suffix h.suffix
  · exact (Prod.ext_iff.1 h.settings).1.trans hs.delay

theorem keeps_removed (h : s.session.inbound = false) : Keeps delay s (removeSession s) := by
  refine ⟨List.suffix_cons _ _, fun _ hs => ⟨⟨?_, hs.idle, fun _ => h, fun hi => ?_, hs.delay⟩, id⟩⟩
  · exact hs.clocks.congr (fun _ ht => ht) rfl rfl rfl
  · exact (hs.parted hi).imp id fun hparted => hparted.of_suffix (List.suffix_cons _ _)

/-- a timer is cleared, or a task is taken off the queue -/
theorem Inv.shrink (h : Inv delay s) (hclocks : Clocks s') (hpending : ∀ t ∈ s'.executor.pending, t ∈ s.executor.pending)
    (hlog : s'.log = s.log) (hinbound : s'.session.inbound = s.session.inbound) (hsettings : settings s' = settings s) :
    Inv delay s' := by
  simp only [settings, Prod.mk.injEq] at hsettings
  obtain ⟨hdelay, -, htimedout, -⟩ := hsettings
  refine ⟨hclocks, fun hi => ?_, fun he => ?_, fun hi => ?_, hdelay.trans h.delay⟩
  · have hidle := h.idle (hinbound ▸ hi)
    exact List.eq_nil_iff_forall_not_mem.2 fun t ht => List.not_mem_nil (hidle ▸ hpending t ht)
  · rw [hinbound]; exact h.ended (hlog ▸ he)
  · rw [htimedout, hlog]; exact h.parted (hinbound ▸ hi)

/-- a start of the heartbeat timer, which is off once the session is over -/
theorem Inv.startHeartbeat (h : Inv delay s) (hquiet : 0 < delay → ¬ Parted s.log) : Inv delay (startHeartbeatTimer s) := by
  cases hi : s.session.inbound with
  | true =>
    have hinbound := (startHeartbeatTimer_inbound s).trans hi
    refine ⟨h.clocks.startHeartbeat.1, fun hno => ?_, fun he => ?_, fun hno => ?_, ?_⟩
    · cases hinbound.symm.trans hno
    · rw [startHeartbeatTimer_log] at he
      cases hi.symm.trans (h.ended he)
    · cases hinbound.symm.trans hno
    · exact (Prod.ext_iff.1 (settings_startHeartbeatTimer s)).1.trans h.delay
  | false =>
    have hno : ¬ (s.session.timedout = false ∧ 0 < s.session.hbDelay) := by
      intro hon
      rcases h.parted hi with htimedout | hparted
      · cases hon.1.symm.trans htimedout
      · exact hquiet (h.delay ▸ hon.2) hparted
    rw [startHeartbeatTimer_off hno]
    exact h.shrink h.clocks.clearHeartbeat (fun t ht => (mem_cancel ht).1) rfl rfl rfl

/-- **`onDisconnect` leaves no task behind**, also after what the application does in its callback. -/
theorem keeps_onDisconnect (n : ℕ) (reason : DisconnectReason) (h : reason ≠ .timeout ∨ s.session.timedout = true) :
    Keeps delay s (Session.onDisconnect (app n) reason s).2 := by
  obtain ⟨added, hlog, -⟩ := (adds_outgoing fun m (_ : m < n) => adds_calls m).along_onDisconnect reason s
  refine ⟨⟨added, hlog.symm⟩, fun _ hs => ?_⟩
  let cleared := clearHeartbeatTimer (clearTimeoutTimer s)
  have hstill : Still (fun _ => True) cleared :=
    ⟨hs.clocks.clearTimeout.clearHeartbeat, hs.clocks.pending_clear, trivial, hs.ended⟩
  unfold Session.onDisconnect
  rw [modify_bind, modify_bind, get_bind]
  by_cases hi : cleared.session.inbound = true
  · rw [if_pos hi, notify_app]
    let begun := (setState .closed cleared).push (.called (.onDisconnect reason))
    have hbegun : Idles cleared begun := by
      have hpushed : Same (setState .closed cleared) begun := same_push (e := .called (.onDisconnect reason)) trivial _
      exact Same.stays (IsTrans.trans _ _ _ (same_setState .closed cleared) hpushed) id
    obtain ⟨hbegunStill, -, hbegunSettings⟩ := hbegun hstill
    obtain ⟨hdone, hsuffix, hsettings⟩ := along_behave (fun m (_ : m < n) => idles_calls m) begun hbegunStill
    have hall : settings (behave n begun).2 = settings s := hsettings.trans hbegunSettings
    refine ⟨⟨?_, fun _ => hdone.idle, fun _ => rfl, fun _ => ?_, ?_⟩, off_of_settings hall⟩
    · exact hdone.clocks.congr (fun _ ht => ht) rfl rfl rfl
    · refine h.symm.imp (fun htimedout => ?_) fun hreason => ?_
      · exact (Prod.ext_iff.1 (Prod.ext_iff.1 (Prod.ext_iff.1 hall).2).2).1.trans htimedout
      · refine ⟨.called (.onDisconnect reason), ?_, hreason⟩
        exact List.mem_cons_of_mem _ (hsuffix.subset List.mem_cons_self)
    · exact (Prod.ext_iff.1 hall).1.trans hs.delay
  · rw [if_neg hi]
    exact ⟨hs.shrink hstill.clocks (pending_clear_subset s) rfl rfl rfl, id⟩

theorem wire (n : ℕ) : Wire (Keeps delay) (app n : Callback Handler) where
  acts _ _ _ := keeps_of_same (same_of_log rfl rfl rfl)
  io _ := keeps_of_same (same_of_log rfl rfl rfl)
  outbound s c := keeps_of_same (same_push (e := .outbound c (TransportHandler.refuses s closeFrame)) trivial s)
  startClose s := keeps_of_same (same_startClose s)
  onDisconnect reason hreason _ _ := keeps_onDisconnect n reason (.inl hreason)
  removed _ h := keeps_removed h
  frame s f _ := keeps_of_same (same_push (e := .frame f) trivial s)
  wrote s data failed := keeps_of_same (same_push (e := .wrote data failed) trivial s)
  setOutbound _ _ := keeps_of_same (same_of_log rfl rfl rfl)

theorem calls (n : ℕ) : Calls (Keeps delay) (app n : Callback Handler) := (wire n).calls

theorem along_callback (n : ℕ) (c : InboundCall) : Along (Keeps delay) (app n c : M Handler (List JString)) := by
  refine Along.bind (along_modify fun s => keeps_of_same (same_push (e := .called c) trivial s)) fun _ => ?_
  exact (along_behave fun m _ => calls m).ending fun s => keeps_of_same (same_push (e := .returned c) trivial s)

theorem closes (n : ℕ) : Closes (Keeps delay) (app n : Callback Handler) where
  send := (calls n).send
  abort := (calls n).abort
  disconnectWhenEmpty := along_pure _
  onDisconnect reason hreason _ := keeps_onDisconnect n reason (.inl hreason)
  acknowledged s data _ := keeps_of_same (same_push (e := .onClose .closing data) trivial s)
  closing s data _ := by
    have hpushed : Same s (s.push (.onClose s.session.state data)) :=
      same_push (e := .onClose s.session.state data) trivial s
    exact keeps_of_same (IsTrans.trans _ _ _ hpushed (same_setState .closing _))
  closed s := keeps_of_same (same_setState .closed s)

/-- **A sign of life** starts the heartbeat timer, of a session that is not over. -/
theorem keeps_startHeartbeat (h : Keeps delay s s')
    (hquiet : (0 < delay → Hushed Parted s'.log) → 0 < delay → ¬ Parted s'.log) : Keeps delay s (startHeartbeatTimer s') := by
  have hlog := startHeartbeatTimer_log s'
  refine ⟨hlog.symm ▸ h.1, fun hushed hs => ?_⟩
  rw [hlog] at hushed
  have hs' := h.2 hushed hs
  exact ⟨hs'.1.startHeartbeat (hquiet hushed), fun hoff => off_of_settings (settings_startHeartbeatTimer s') (hs'.2 hoff)⟩

theorem keeps_text (s : St Handler) (message : JString) : Keeps delay s (startHeartbeatTimer (s.push (.text message))) := by
  refine keeps_startHeartbeat (keeps_of_same (same_push (e := .text message) trivial s)) fun hushed hd hparted => ?_
  obtain ⟨e, he, hparting⟩ := hparted
  rcases List.mem_cons.1 he with rfl | he
  · exact hparting
  · exact (hushed hd).1 ⟨e, he, hparting⟩

theorem keeps_heartbeat (s : St Handler) (f : SocketIOFrame) (hf : f.frameType = .heartbeat) :
    Keeps delay s (startHeartbeatTimer (onPong (s.push (.received f)))) := by
  have hpushed : Keeps delay s (s.push (.received f)) := keeps_of_same (same_push (e := .received f) trivial s)
  have hcleared : Keeps delay (s.push (.received f)) (onPong (s.push (.received f))) := by
    refine ⟨List.suffix_refl _, fun _ hs => ⟨?_, id⟩⟩
    exact hs.shrink hs.clocks.clearTimeout (fun _ ht => (mem_cancel ht).1) rfl rfl rfl
  refine keeps_startHeartbeat (IsTrans.trans _ _ _ hpushed hcleared) fun hushed hd hparted => ?_
  obtain ⟨e, he, hparting⟩ := hparted
  rcases List.mem_cons.1 he with rfl | he
  · exact hparting
  · exact (hushed hd).1 hf ⟨e, he, hparting⟩

theorem frames (n : ℕ) : Frames (Keeps delay) (app n : Callback Handler) :=
  (calls n).frames (closes n).along_onClose (fun s c _ _ => along_callback n c s)
    (fun _ => along_modify fun _ => keeps_of_same (same_of_log rfl rfl rfl))
    (fun s f _ => keeps_of_same (same_push (e := .received f) trivial s))
    (fun s names => keeps_of_same (same_push (e := .listed names) trivial s)) keeps_heartbeat

theorem keeps_attach (s : St Handler) : Keeps delay s (attach s) := by
  refine ⟨List.suffix_refl _, fun _ hs => ⟨⟨?_, hs.idle, hs.ended, hs.parted, hs.delay⟩, id⟩⟩
  exact hs.clocks.congr (fun _ ht => ht) rfl rfl rfl

theorem opens : Opens (Keeps delay) where
  attached := keeps_attach
  opened s _ _ := by
    have hpushed : Same (attach s) ((attach s).push (.opened s.session.state)) :=
      same_push (e := .opened s.session.state) trivial _
    exact IsTrans.trans _ _ _ (keeps_attach s) (keeps_of_same (IsTrans.trans _ _ _ hpushed (same_setState .connected _)))

theorem along_serve (n : ℕ) (e : SocketEvent) : Along (Keeps delay) (serveSocket (app n) e) := by
  refine (wire n).along_events (frames n) keeps_text ?_ e
  exact opens.along_onConnect (fun s => keeps_of_same (same_setState .closed s))
    (fun s _ => along_callback n .onConnect s) (calls n).abort

/-! ### The tasks -/

theorem along_onTimeout (n : ℕ) : Along (Keeps delay) (Session.onTimeout (app n : Callback Handler)) := by
  refine along_get_bind fun s => ?_
  split_ifs
  · rw [modify_bind]
    have hflag : Keeps delay s { s with session.timedout := true } := by
      refine ⟨List.suffix_refl _, fun _ hs => ⟨⟨?_, hs.idle, hs.ended, fun _ => .inl rfl, hs.delay⟩, fun _ => .inl rfl⟩⟩
      exact hs.clocks.congr (fun _ ht => ht) rfl rfl rfl
    refine IsTrans.trans _ _ _ hflag (IsTrans.trans _ _ _ (keeps_of_same (same_setState .closed _)) ?_)
    refine bind_related (keeps_onDisconnect n .timeout (.inr rfl)) fun _ => ?_
    exact along_derefHandler.bind fun _ => (calls n).abort
  · exact Std.Refl.refl s

theorem keeps_startTask (t : Task) (s : St Handler) : Keeps delay s (startTask t s) := by
  have hsub : ∀ x ∈ (startTask t s).executor.pending, x ∈ s.executor.pending := fun _ hx => List.mem_of_mem_erase hx
  refine ⟨List.suffix_refl _, fun _ hs => ⟨hs.shrink ?_ hsub rfl rfl rfl, id⟩⟩
  exact hs.clocks.congr hsub rfl rfl rfl

/-- a start of the timeout timer in a session that is not over, or where that timer is off -/
theorem Inv.startTimeout (h : Inv delay s) (hon : s.session.inbound = true ∨ Off s) : Inv delay (startTimeoutTimer s) := by
  have hinbound := startTimeoutTimer_inbound s
  have hlog := startTimeoutTimer_log s
  have hsettings := settings_startTimeoutTimer s
  by_cases hoff : Off s
  · refine h.shrink h.clocks.startTimeout.1 ?_ hlog hinbound hsettings
    rw [hoff.startTimeoutTimer]
    exact h.clocks.stamp.2.2.2.2.2
  · have hi : (startTimeoutTimer s).session.inbound = true := hinbound.trans (hon.resolve_right hoff)
    refine ⟨h.clocks.startTimeout.1, fun hno => ?_, fun he => ?_, fun hno => ?_, (Prod.ext_iff.1 hsettings).1.trans h.delay⟩
    · cases hi.symm.trans hno
    · rw [hinbound]; exact h.ended (hlog ▸ he)
    · cases hi.symm.trans hno

/-- a frame that the connection takes does nothing to the timers -/
theorem same_of_accepted {n : ℕ} {f : SocketIOFrame} (h : refuses s f = false) : Same s (sendOrAbort (app n) f s).2 := by
  have hframe : Same s (s.push (.frame f)) := same_push (e := .frame f) trivial s
  have hsend : Same s (sendMessage (app n) f s).2 ∧
      ∀ e, (sendMessage (app n) f s).1 = .error e → e.isSocketIOException = false := by
    rcases sendMessage_accepted (app n) h with hnull | hsent
    · rw [hnull]
      exact ⟨hframe, fun e he => by cases he; rfl⟩
    · rw [hsent]
      have hwrote : Same (s.push (.frame f)) ((s.push (.frame f)).push (.wrote (f.encode s.handler.endpoint) s.nextWriteFails)) :=
        same_push (e := .wrote (f.encode s.handler.endpoint) s.nextWriteFails) trivial _
      exact ⟨IsTrans.trans _ _ _ hframe (IsTrans.trans _ _ _ hwrote (same_of_log rfl rfl rfl)), nofun⟩
  have hresult : (sendOrAbort (app n) f s).2 = s ∨ (sendOrAbort (app n) f s).2 = (sendMessage (app n) f s).2 :=
    sendOrAbort_accepted hsend.2
  rcases hresult with hr | hr
  · rw [hr]; exact same_of_log rfl rfl rfl
  · rw [hr]; exact hsend.1

/-- a program, and then a start of the timeout timer -/
theorem keeps_then_startTimeout {m : M Handler Unit} {s₀ : St Handler} (hm : Keeps delay s (m s₀).2)
    (hon : Inv delay s → (m s₀).2.session.inbound = true ∨ Off s) :
    Keeps delay s ((do m; modify startTimeoutTimer : M Handler Unit) s₀).2 :=
  Carries.then_startTimeout hm fun hs hs' hoff => hs'.startTimeout ((hon hs).imp id hoff)

/-- **A task that fires**; a ping is not refused, or its timeout timer is off -/
theorem keeps_fire (n : ℕ) (t : Task) (ht : t ∈ s.executor.pending)
    (h : t.kind = .sendPing → Off s ∨ refuses s (pingFrame s) = false) :
    Keeps delay s (runTask (app n) t.kind (startTask t s)).2 := by
  have hstart : Keeps delay s (startTask t s) := keeps_startTask t s
  cases hkind : t.kind with
  | onTimeout => exact IsTrans.trans _ _ _ hstart (along_onTimeout n _)
  | sendPing =>
    let s₀ := incrementMessageId (startTask t s)
    have hnext : Same (startTask t s) s₀ := same_of_log rfl rfl rfl
    have hsend : Keeps delay s (sendOrAbort (app n) (pingFrame s) s₀).2 :=
      IsTrans.trans _ _ _ hstart (IsTrans.trans _ _ _ (keeps_of_same hnext) ((calls n).along_heartbeat _ s₀))
    refine keeps_then_startTimeout hsend fun hs => ?_
    -- a session with a task is not over
    have hi : s.session.inbound = true := by
      by_contra hno
      rw [hs.idle (Bool.eq_false_iff.2 hno)] at ht
      cases ht
    refine (h hkind).symm.imp (fun haccepted => ?_) id
    have hsame : Same s₀ (sendOrAbort (app n) (pingFrame s) s₀).2 := same_of_accepted haccepted
    exact hsame.inbound.trans hi

/-! ### Runs -/

/-- a step in which no ping is refused -/
theorem keeps_step {i : Input SocketEvent} (h : ¬ Off s → ¬ PingRefused s i) : Keeps delay s (step serveSocket s i) := by
  let s₀ := { s with acts := i.acts, io := i.io }
  have hinput : Keeps delay s s₀ := keeps_of_same (same_of_log rfl rfl rfl)
  refine IsTrans.trans _ _ _ hinput ?_
  change Keeps delay s₀ (perform serveSocket (app (i.acts.length + 1)) i.event s₀).2
  cases hevent : i.event with
  | container e => exact along_serve _ e s₀
  | outbound c => exact (calls _).along_outbound c s₀
  | tick d =>
    refine ⟨List.suffix_refl _, fun _ hs => ⟨hs.shrink ?_ (fun _ ht => ht) rfl rfl rfl, id⟩⟩
    exact hs.clocks.congr (fun _ ht => ht) rfl rfl rfl
  | fire t =>
    rw [perform_fire]
    by_cases hready : t ∈ s₀.executor.pending ∧ t.due ≤ s₀.executor.ticks
    · rw [if_pos hready]
      refine keeps_fire _ t hready.1 fun hkind => ?_
      by_contra hno
      rw [not_or] at hno
      refine h hno.1 ⟨t, hevent, hkind, hready.1, hready.2, ?_⟩
      exact Bool.ne_false_iff.1 hno.2
    · rw [if_neg hready]
      exact Std.Refl.refl _

theorem keeps_run {js : List (Input SocketEvent)} (h : EachStep serveSocket s js fun s i => ¬ Off s → ¬ PingRefused s i) :
    Keeps delay s (run serveSocket s js) := by
  induction js generalizing s with
  | nil => exact Std.Refl.refl s
  | cons i js ih =>
    refine IsTrans.trans _ _ _ (keeps_step (h [] i js rfl)) (ih fun past j later hjs => ?_)
    exact h (i :: past) j later (congrArg (i :: ·) hjs)

end Socket

/-! ## Sessions on an HTTP transport -/

namespace Http

open JettyContinuation
open SocketIOJava.JettyTraversal (Adds Outward adds_outgoing)
open SocketIOJava.JettyTraversal.Http (adds_calls)

/-- as `abort` leaves the handler -/
def Shut (h : Handler) : Prop := h.is_open = false ∧ h.buffer.queue = []

theorem still_release {s : St Handler} (hs : Clocks s) (hended : Ended s.log → s.session.inbound = false) :
    Still Shut (release s) where
  clocks := by
    have hcleared := hs.clearHeartbeat.clearTimeout
    exact hcleared.congr (fun _ ht => ht) rfl rfl rfl
  idle := hs.pending_clear'
  shut := ⟨rfl, rfl⟩
  ended := hended

theorem rests_calls (n : ℕ) : Calls (Stays Shut) (app n : Callback Handler) := by
  induction n using Nat.strong_induction_on with
  | _ n ih =>
    have m := stays_moves ih
    have habort : Along (Stays Shut) (abort (app n)) := by
      refine Along.bind (along_modify fun s hs => ?_) fun _ => m.along_onShutdown
      exact ⟨still_release hs.clocks hs.ended, List.suffix_refl _, rfl⟩
    have hsend : ∀ s f, Stays Shut s (sendMessage (app n) f s).2 := by
      intro s f hs
      rw [sendMessage_closed hs.shut.1]
      exact Same.stays (same_push (e := .frame f) trivial s) id hs
    exact
      { send := fun s f _ => hsend s f, abort := habort
        disconnect := (m.onDisconnect .disconnect (by decide) (by decide)).bind fun _ => habort
        isOpen := along_get.bind fun _ => along_pure _, startClose := m.startClose, outbound := m.outbound, acts := m.acts }

theorem along_onShutdown (n : ℕ) : Along (Stays Shut) (Session.onShutdown (app n : Callback Handler)) :=
  (stays_moves fun m _ => rests_calls m).along_onShutdown

/-- **`abort` leaves no task behind**, from any state -/
theorem still_abort (n : ℕ) {s : St Handler} (hs : Clocks s) (hended : Ended s.log → s.session.inbound = false) :
    Still Shut (abort (app n) s).2 ∧ settings (abort (app n) s).2 = settings s := by
  obtain ⟨hstill, -, hsettings⟩ := along_onShutdown n (release s) (still_release hs hended)
  exact ⟨hstill, hsettings⟩

/-- a session that is connected, or has ended and left nothing behind -/
structure Live (delay : ℤ) (s : St Handler) : Prop where
  clocks : Clocks s
  handler : s.session.handler = true
  ended : Ended s.log → s.session.inbound = false ∧ s.executor.pending = [] ∧ Shut s.handler
  delay : s.session.hbDelay = delay

/-- the history grows, and without a late sign of life the session stays as it was -/
def Keeps (delay : ℤ) (s s' : St Handler) : Prop :=
  s.log <:+ s'.log ∧ ((0 < delay → Hushed Ended s'.log) → Live delay s → Live delay s' ∧ (Off s → Off s'))

variable {delay : ℤ} {s s' s'' : St Handler}

instance : Std.Refl (Keeps delay) := inferInstanceAs (Std.Refl (Carries Ended (Live delay) delay))

instance : IsTrans (St Handler) (Keeps delay) := inferInstanceAs (IsTrans _ (Carries Ended (Live delay) delay))

theorem Live.not_ended (h : Live delay s) (hopen : ¬ Shut s.handler) : ¬ Ended s.log :=
  fun he => hopen (h.ended he).2.2

theorem Live.of_still (h : Still Shut s') (hsettings : settings s' = settings s) (hs : Live delay s) :
    Live delay s' ∧ (Off s → Off s') := by
  refine ⟨⟨h.clocks, ?_, fun he => ⟨h.ended he, h.idle, h.shut⟩, ?_⟩, off_of_settings hsettings⟩
  · exact (Prod.ext_iff.1 (Prod.ext_iff.1 (Prod.ext_iff.1 hsettings).2).2).2.trans hs.handler
  · exact (Prod.ext_iff.1 hsettings).1.trans hs.delay

/-- tasks may go, and the handler may shut -/
theorem Live.shrink (h : Live delay s) (hclocks : Clocks s') (hpending : ∀ t ∈ s'.executor.pending, t ∈ s.executor.pending)
    (hended : Ended s'.log → Ended s.log) (hinbound : s'.session.inbound = s.session.inbound)
    (hsettings : settings s' = settings s) (hshut : Shut s.handler → Shut s'.handler) : Live delay s' := by
  refine ⟨hclocks, ?_, fun he => ?_, (Prod.ext_iff.1 hsettings).1.trans h.delay⟩
  · exact (Prod.ext_iff.1 (Prod.ext_iff.1 (Prod.ext_iff.1 hsettings).2).2).2.trans h.handler
  · obtain ⟨hi, hidle, hs⟩ := h.ended (hended he)
    refine ⟨hinbound.trans hi, ?_, hshut hs⟩
    exact List.eq_nil_iff_forall_not_mem.2 fun t ht => List.not_mem_nil (hidle ▸ hpending t ht)

theorem keeps_of_same (h : Same s s') (hshut : Shut s.handler → Shut s'.handler) : Keeps delay s s' := by
  refine ⟨h.suffix, fun _ hs => ⟨?_, off_of_settings h.settings⟩⟩
  exact hs.shrink (h.clocks hs.clocks) (fun t ht => h.pending ▸ ht) h.ended h.inbound h.settings hshut

/-! ### Updates that may start a timer -/

structure Grows (s s' : St Handler) : Prop where
  log : ∃ added, s'.log = added ++ s.log ∧ .removed ∉ added
  settings : settings s' = settings s
  clocks : Clocks s → Clocks s'

instance : Std.Refl Grows := ⟨fun _ => ⟨⟨[], rfl, List.not_mem_nil⟩, rfl, id⟩⟩

instance : IsTrans (St Handler) Grows where
  trans _ _ _ := fun h h' => by
    obtain ⟨added, hlog, hadded⟩ := h.log
    obtain ⟨added', hlog', hadded'⟩ := h'.log
    refine ⟨⟨added' ++ added, ?_, ?_⟩, h'.settings.trans h.settings, h'.clocks ∘ h.clocks⟩
    · rw [hlog', hlog, List.append_assoc]
    · exact fun hmem => (List.mem_append.1 hmem).elim hadded' hadded

theorem Grows.suffix (h : Grows s s') : s.log <:+ s'.log := by
  obtain ⟨added, hlog, -⟩ := h.log
  exact ⟨added, hlog.symm⟩

theorem Grows.ended (h : Grows s s') (he : Ended s'.log) : Ended s.log := by
  obtain ⟨added, hlog, hadded⟩ := h.log
  rw [Ended, hlog] at he
  exact (List.mem_append.1 he).resolve_left hadded

theorem grows_of_same (h : Same s s') : Grows s s' := ⟨h.log, h.settings, h.clocks⟩

/-- a session that has not ended may start timers -/
theorem Grows.keeps (h : Grows s s') (hs : Live delay s → ¬ Ended s.log) : Keeps delay s s' := by
  refine ⟨h.suffix, fun _ hlive => ⟨⟨h.clocks hlive.clocks, ?_, fun he => ?_, ?_⟩, off_of_settings h.settings⟩⟩
  · exact (Prod.ext_iff.1 (Prod.ext_iff.1 (Prod.ext_iff.1 h.settings).2).2).2.trans hlive.handler
  · exact absurd (h.ended he) (hs hlive)
  · exact (Prod.ext_iff.1 h.settings).1.trans hlive.delay

theorem grows_startHeartbeat (s : St Handler) : Grows s (startHeartbeatTimer s) :=
  ⟨⟨[], startHeartbeatTimer_log s, List.not_mem_nil⟩, settings_startHeartbeatTimer s, fun h => h.startHeartbeat.1⟩

theorem grows_startTimeout (s : St Handler) : Grows s (startTimeoutTimer s) :=
  ⟨⟨[], startTimeoutTimer_log s, List.not_mem_nil⟩, settings_startTimeoutTimer s, fun h => h.startTimeout.1⟩

theorem grows_clearTimeout (s : St Handler) : Grows s (clearTimeoutTimer s) :=
  ⟨⟨[], rfl, List.not_mem_nil⟩, rfl, fun h => h.clearTimeout⟩

theorem grows_push {e : Entry} (he : Onward e) (s : St Handler) : Grows s (s.push e) := grows_of_same (same_push he s)

theorem writes : JettyTraversal.Http.Writes Grows where
  buffer _ _ _ := grows_of_same (same_of_log rfl rfl rfl)
  wrote s data := by
    have hpushed := grows_push (e := .wrote data s.nextWriteFails) trivial s
    exact IsTrans.trans _ _ _ hpushed (grows_of_same (same_of_log rfl rfl rfl))
  completed s := by
    have hpushed := grows_push (e := .completed) trivial s
    exact IsTrans.trans _ _ _ hpushed (grows_of_same (same_of_log rfl rfl rfl))
  startHeartbeat := grows_startHeartbeat

/-! ### The methods of the session -/

theorem keeps_abort (n : ℕ) (s : St Handler) : Keeps delay s (abort (app n) s).2 := by
  obtain ⟨added, hlog, -⟩ := (adds_calls n).abort s
  refine ⟨⟨added, hlog.symm⟩, fun _ hs => ?_⟩
  obtain ⟨hstill, hsettings⟩ := still_abort n hs.clocks fun he => (hs.ended he).1
  exact Live.of_still hstill hsettings hs

theorem along_call {n : ℕ} (k : ∀ m < n, Calls (Keeps delay) (app m : Callback Handler)) (c : InboundCall) :
    Along (Keeps delay) (app n c : M Handler (List JString)) :=
  along_app k (fun s => keeps_of_same (same_push (e := .called c) trivial s) id) fun s =>
    keeps_of_same (same_push (e := .returned c) trivial s) id

theorem along_onDisconnect_app {n : ℕ} (k : ∀ m < n, Calls (Keeps delay) (app m : Callback Handler))
    (reason : DisconnectReason) : Along (Keeps delay) (Session.onDisconnect (app n : Callback Handler) reason) := by
  refine along_onDisconnect_of (fun s => ?_) fun s _ => ?_
  · refine ⟨List.suffix_refl _, fun _ hs => ⟨?_, id⟩⟩
    exact hs.shrink hs.clocks.clearTimeout.clearHeartbeat (pending_clear_subset s) id rfl rfl id
  · rw [notify_app]
    have hclosed : Keeps delay s (setState .closed s) := keeps_of_same (same_setState .closed s) id
    have hcall := along_call k (.onDisconnect reason) (setState .closed s)
    refine IsTrans.trans _ _ _ hclosed (IsTrans.trans _ _ _ hcall ⟨List.suffix_refl _, fun _ hs => ?_⟩)
    refine ⟨⟨?_, hs.handler, ?_, hs.delay⟩, id⟩
    · exact hs.clocks.congr (fun _ ht => ht) rfl rfl rfl
    · exact fun he => ⟨rfl, (hs.ended he).2⟩

theorem keeps_sendMessage {n : ℕ} (k : ∀ m < n, Calls (Keeps delay) (app m : Callback Handler)) (s : St Handler)
    (f : SocketIOFrame) : Keeps delay s (sendMessage (app n) f s).2 := by
  have hframe : Keeps delay s (s.push (.frame f)) := keeps_of_same (same_push (e := .frame f) trivial s) id
  cases hopen : s.handler.is_open with
  | false => rw [sendMessage_closed hopen]; exact hframe
  | true =>
    have hlive : ∀ x : St Handler, x.handler.is_open = true → Live delay x → ¬ Ended x.log := fun x hx hs =>
      hs.not_ended fun hshut => by cases hx.symm.trans hshut.1
    rw [sendMessage_open hopen]
    refine IsTrans.trans _ _ _ hframe ?_
    let s₁ := s.push (.frame f)
    change Keeps delay s₁ (deliver (app n) f s₁).2
    cases hcont : s₁.handler.continuation with
    | some cont =>
      rw [deliver_now hcont]
      refine Grows.keeps ?_ (hlive s₁ hopen)
      have hdrained : Grows s₁ (setBuffer s₁.handler.buffer.drainMessages.2 s₁) := writes.buffer s₁ _ rfl
      exact IsTrans.trans _ _ _ hdrained (writes.along_sendNow cont _ _)
    | none =>
      rw [deliver_later hcont]
      have hput : Keeps delay s₁ (setBuffer (s₁.handler.buffer.putMessage (f.encode s₁.handler.endpoint)).2 s₁) :=
        Grows.keeps (writes.buffer s₁ _ (s₁.handler.buffer.putMessage_listener _)) (hlive s₁ hopen)
      refine IsTrans.trans _ _ _ hput ?_
      have hfull : Along (Keeps delay) (do
          Session.onDisconnect (app n) .timeout
          abort (app n)
          raise .socketIOException : M Handler Unit) :=
        (along_onDisconnect_app k .timeout).bind fun _ => Along.bind (keeps_abort n) fun _ => along_stop _
      exact Along.ite (fun _ => hfull) (fun _ => along_pure _) _

theorem calls (n : ℕ) : Calls (Keeps delay) (app n : Callback Handler) := by
  induction n using Nat.strong_induction_on with
  | _ n ih =>
    exact
      { send := fun s f _ => keeps_sendMessage ih s f, abort := keeps_abort n
        disconnect := (along_onDisconnect_app ih .disconnect).bind fun _ => keeps_abort n
        isOpen := along_get.bind fun _ => along_pure _, startClose := fun s => keeps_of_same (same_startClose s) id
        outbound := fun s c => keeps_of_same (same_push (e := .outbound c (TransportHandler.refuses s closeFrame)) trivial s) id
        acts := fun s acts _ => keeps_of_same (same_of_log rfl rfl rfl) id }

theorem along_callback (n : ℕ) (c : InboundCall) : Along (Keeps delay) (app n c : M Handler (List JString)) :=
  along_call (fun m _ => calls m) c

theorem along_onDisconnect (n : ℕ) (reason : DisconnectReason) :
    Along (Keeps delay) (Session.onDisconnect (app n : Callback Handler) reason) :=
  along_onDisconnect_app (fun m _ => calls m) reason

theorem closes (n : ℕ) : Closes (Keeps delay) (app n : Callback Handler) where
  send := (calls n).send
  abort := keeps_abort n
  disconnectWhenEmpty := along_modify fun _ => keeps_of_same (same_of_log rfl rfl rfl) id
  onDisconnect reason _ := along_onDisconnect n reason
  acknowledged s data _ := keeps_of_same (same_push (e := .onClose .closing data) trivial s) id
  closing s data _ := by
    have hpushed : Same s (s.push (.onClose s.session.state data)) :=
      same_push (e := .onClose s.session.state data) trivial s
    exact keeps_of_same (IsTrans.trans _ _ _ hpushed (same_setState .closing _)) id
  closed s := keeps_of_same (same_setState .closed s) id

/-- **A HEARTBEAT frame** starts the heartbeat timer, of a session that has not ended. -/
theorem keeps_heartbeat (s : St Handler) (f : SocketIOFrame) (hf : f.frameType = .heartbeat) :
    Keeps delay s (startHeartbeatTimer (onPong (s.push (.received f)))) := by
  have hpushed := grows_push (e := .received f) trivial s
  have hcleared := grows_clearTimeout (s.push (.received f))
  have hgrows : Grows s (startHeartbeatTimer (onPong (s.push (.received f)))) :=
    IsTrans.trans _ _ _ hpushed (IsTrans.trans _ _ _ hcleared (grows_startHeartbeat _))
  refine ⟨hgrows.suffix, fun hushed hs => ?_⟩
  by_cases hended : Ended s.log
  · -- the timer is off, as the sign of life would be late
    have hno : ¬ ((onPong (s.push (.received f))).session.timedout = false ∧ 0 < s.session.hbDelay) := by
      intro hon
      have hlate := hushed (hs.delay ▸ hon.2)
      rw [startHeartbeatTimer_log] at hlate
      exact hlate.1 hf hended
    refine ⟨?_, off_of_settings hgrows.settings⟩
    rw [startHeartbeatTimer_off hno]
    refine hs.shrink ?_ (fun t ht => (mem_cancel (mem_cancel ht).1).1) (fun _ => hended) rfl rfl id
    exact (hcleared.clocks (hpushed.clocks hs.clocks)).clearHeartbeat
  · exact (hgrows.keeps fun _ => hended).2 hushed hs

theorem frames (n : ℕ) : Frames (Keeps delay) (app n : Callback Handler) :=
  (calls n).frames (closes n).along_onClose (fun s c _ _ => along_callback n c s)
    (fun _ => along_modify fun _ => keeps_of_same (same_of_log rfl rfl rfl) id)
    (fun s f _ => keeps_of_same (same_push (e := .received f) trivial s) id)
    (fun s names => keeps_of_same (same_push (e := .listed names) trivial s) id) keeps_heartbeat

/-! ### The requests of the container -/

/-- from a session that is connected and has not ended -/
def Held (delay : ℤ) (s s' : St Handler) : Prop :=
  s.log <:+ s'.log ∧
    ((0 < delay → Hushed Ended s'.log) → Live delay s → ¬ Ended s.log → Live delay s' ∧ (Off s → Off s'))

theorem Held.keeps (h : Held delay s s') (hs : Live delay s → ¬ Ended s.log) : Keeps delay s s' :=
  ⟨h.1, fun hushed hlive => h.2 hushed hlive (hs hlive)⟩

theorem Keeps.held (h : Keeps delay s s') : Held delay s s' := ⟨h.1, fun hushed hs _ => h.2 hushed hs⟩

theorem Grows.held (h : Grows s s') : Held delay s s' :=
  ⟨h.suffix, fun hushed hs hended => (h.keeps fun _ => hended).2 hushed hs⟩

theorem Grows.trans_held (h : Grows s s') (h' : Held delay s' s'') : Held delay s s'' := by
  refine ⟨h.suffix.trans h'.1, fun hushed hs hended => ?_⟩
  have hkeeps : Keeps delay s s' := h.keeps fun _ => hended
  obtain ⟨hs', hoff⟩ := hkeeps.2 (fun hd => (hushed hd).of_suffix h'.1) hs
  obtain ⟨hs'', hoff'⟩ := h'.2 hushed hs' fun he => hended (h.ended he)
  exact ⟨hs'', hoff' ∘ hoff⟩

theorem along_held_bind {α β : Type} {m : M Handler α} {k : α → M Handler β} (hm : Along Grows m)
    (hk : ∀ a, Along (Held delay) (k a)) : Along (Held delay) (m >>= k) :=
  hm.comp hk (fun _ _ => Grows.held) fun _ _ _ => Grows.trans_held

theorem along_write : Along Grows (write : M Handler Unit) :=
  along_write_of fun _ => grows_of_same (same_of_log rfl rfl rfl)

theorem keeps_answer (n : ℕ) (h : s.handler.buffer.isEmpty = false) : Keeps delay s (answer (app n) s).2 := by
  have hanswered : Along (Held delay) (answered (app n)) := by
    refine along_held_bind along_write fun _ => along_held_bind along_get fun s => ?_
    refine Along.ite (fun _ => along_modify fun s => ?_) fun _ s => (keeps_abort n s).held
    have hpushed := grows_push (e := .answered) trivial s
    exact Grows.held (IsTrans.trans _ _ _ hpushed (grows_startTimeout _))
  have hanswer : Along (Held delay) (answer (app n)) := by
    refine along_get_bind fun s => ?_
    have hdrained : Grows s (setBuffer s.handler.buffer.drainMessages.2 s) := writes.buffer s _ rfl
    have hwritten := along_held_bind (writes.along_onWriteData s.handler.buffer.drainMessages.1.flatten) fun _ => hanswered
    exact hdrained.trans_held (along_held_bind along_write (fun _ => hwritten) _)
  refine (hanswer s).keeps fun hs => hs.not_ended fun hshut => ?_
  have hempty : s.handler.buffer.isEmpty = true := by
    unfold Buffer.TransportBuffer.isEmpty
    rw [hshut.2]
    rfl
  cases h.symm.trans hempty

theorem keeps_park (h : s.handler.is_open = true) : Keeps delay s (park s).2 := by
  have hpark : Along Grows (park : M Handler Unit) := by
    refine Along.bind (along_modify fun s => ?_) fun _ => along_write
    have hpushed := grows_push (e := .parked) trivial s
    have hcleared := grows_clearTimeout (s.push .parked)
    exact IsTrans.trans _ _ _ hpushed (IsTrans.trans _ _ _ hcleared (grows_of_same (same_of_log rfl rfl rfl)))
  exact (hpark s).keeps fun hs => hs.not_ended fun hshut => by cases h.symm.trans hshut.1

theorem along_terminate (n : ℕ) (reason : DisconnectReason) : Along (Keeps delay) (terminate (app n) reason) :=
  (along_onDisconnect n reason).bind fun _ => keeps_abort n

theorem keeps_dropConnection (s : St Handler) : Keeps delay s (dropConnection s) :=
  keeps_of_same (same_of_log rfl rfl rfl) fun h => ⟨rfl, h.2⟩

theorem keeps_setContinuation (c : Option Continuation) (s : St Handler) : Keeps delay s (setContinuation c s) :=
  keeps_of_same (same_of_log rfl rfl rfl) id

theorem along_closeCheck (n : ℕ) : Along (Keeps delay) (closeCheck (app n)) := by
  refine along_get.bind fun s => Along.ite (fun _ => ?_) fun _ => along_pure _
  exact (along_whenever fun _ => along_onDisconnect n _).bind fun _ => keeps_abort n

theorem not_shut {h : Handler} (hopen : (!h.is_open && h.buffer.isEmpty) = false) : ¬ Shut h := by
  intro hshut
  unfold Buffer.TransportBuffer.isEmpty at hopen
  rw [hshut.1, hshut.2] at hopen
  cases hopen

theorem along_onComplete (n : ℕ) (cont : ℕ) : Along (Keeps delay) (onComplete (app n) cont) := by
  intro s
  rcases onComplete_cases (app n) cont s with ⟨-, heq⟩ | ⟨-, ⟨-, heq⟩ | ⟨-, ⟨-, heq⟩ | ⟨-, ⟨-, heq⟩ | ⟨hopen, heq⟩⟩⟩⟩
  · rw [heq]; exact Std.Refl.refl s
  · have hend : Along (Keeps delay) (do
        whenever (!s.handler.disconnectWhenEmpty) (Session.onDisconnect (app n) .disconnect)
        abort (app n) : M Handler Unit) :=
      (along_whenever fun _ => along_onDisconnect n _).bind fun _ => keeps_abort n
    rw [heq]; exact IsTrans.trans _ _ _ (keeps_dropConnection s) (hend _)
  · rw [heq]; exact IsTrans.trans _ _ _ (keeps_setContinuation none s) (keeps_abort n _)
  · rw [heq]; exact IsTrans.trans _ _ _ (keeps_setContinuation none s) (along_terminate n _ _)
  · have hpushed := grows_push (e := .released) trivial s
    have hdropped : Grows (s.push .released) (setContinuation none (s.push .released)) :=
      grows_of_same (same_of_log rfl rfl rfl)
    have hgrows : Grows s (startTimeoutTimer (setContinuation none (s.push .released))) :=
      IsTrans.trans _ _ _ hpushed (IsTrans.trans _ _ _ hdropped (grows_startTimeout _))
    rw [heq]; exact hgrows.keeps fun hs => hs.not_ended (not_shut hopen)

theorem keeps_shutdown (n : ℕ) (h : s.session.handler = false) : Keeps delay s (Session.onShutdown (app n) s).2 := by
  obtain ⟨added, hlog, -⟩ := (adds_outgoing fun m (_ : m < n) => adds_calls m).along_onShutdown s
  refine ⟨⟨added, hlog.symm⟩, fun _ hs => ?_⟩
  cases h.symm.trans hs.handler

theorem requests (n : ℕ) : JettyTraversal.Http.Requests (Keeps delay) (app n) where
  frames := frames n
  responded s status := keeps_of_same (same_push (e := .responded status) trivial s) id
  answer _ _ h := keeps_answer n h
  park _ _ h _ := keeps_park h
  endDispatch s := keeps_setContinuation _ s
  closeCheck := along_closeCheck n
  onComplete := along_onComplete n
  shutdown _ h := keeps_shutdown n h

/-! ### Steps that start the timeout timer last -/

theorem Live.startTimeout (h : Live delay s) (hon : ¬ Ended s.log ∨ Off s) : Live delay (startTimeoutTimer s) := by
  have hgrows := grows_startTimeout s
  by_cases hended : Ended s.log
  · have hoff : Off s := hon.resolve_left (not_not.2 hended)
    refine h.shrink h.clocks.startTimeout.1 ?_ hgrows.ended (startTimeoutTimer_inbound s) hgrows.settings fun hshut => ?_
    · rw [hoff.startTimeoutTimer]
      exact h.clocks.stamp.2.2.2.2.2
    · rw [startTimeoutTimer_handler]; exact hshut
  · exact ⟨hgrows.clocks h.clocks,
      (Prod.ext_iff.1 (Prod.ext_iff.1 (Prod.ext_iff.1 hgrows.settings).2).2).2.trans h.handler,
      fun he => absurd (hgrows.ended he) hended, (Prod.ext_iff.1 hgrows.settings).1.trans h.delay⟩

/-- a program, and then a start of the timeout timer -/
theorem keeps_then_startTimeout {m : M Handler Unit} {s₀ : St Handler} (hm : Keeps delay s (m s₀).2)
    (hon : Live delay s → ¬ Ended (m s₀).2.log ∨ Off s) :
    Keeps delay s ((do m; modify startTimeoutTimer : M Handler Unit) s₀).2 :=
  Carries.then_startTimeout hm fun hs hs' hoff => hs'.startTimeout ((hon hs).imp id hoff)

theorem along_expirePoll (n : ℕ) : Along (Keeps delay) (expirePoll (app n)) :=
  JettyTraversal.Http.along_expirePoll_of (fun _ => keeps_of_same (same_of_log rfl rfl rfl) id) (along_terminate n _)

/-- a poll expires without ending the session, or the timeout timer is off -/
theorem keeps_expire (n : ℕ)
    (h : Off s ∨ (!s.handler.is_open && s.handler.buffer.isEmpty) = false ∧ s.nextWriteFails = false) :
    Keeps delay s ((do expirePoll (app n); modify startTimeoutTimer : M Handler Unit)
      (setContinuation none (s.push .released))).2 := by
  let s₀ := setContinuation none (s.push .released)
  have hpushed : Same s (s.push .released) := same_push (e := .released) trivial s
  have hdropped : Same (s.push .released) s₀ := same_of_log rfl rfl rfl
  have hreleased : Same s s₀ := IsTrans.trans _ _ _ hpushed hdropped
  refine keeps_then_startTimeout (IsTrans.trans _ _ _ (keeps_of_same hreleased id) (along_expirePoll n s₀)) fun hs => ?_
  refine h.symm.imp (fun ⟨hopen, hwrite⟩ => ?_) id
  have hcaught : expirePoll (app n) s₀ = (.ok (), { s₀ with io := s₀.io.tail }) := by
    rcases expirePoll_cases (app n) s₀ with ⟨hgone, -⟩ | ⟨-, heq⟩
    · cases hopen.symm.trans hgone
    · rw [heq]
      exact catching_of_ok (write_ok (s := s₀) hwrite) _ _
  rw [hcaught]
  exact fun he => hs.not_ended (not_shut hopen) (hreleased.ended he)

theorem keeps_onTimeoutContinuation (n : ℕ) (cont : ℕ)
    (h : s.handler.continuation.map Continuation.id = some cont → s.handler.persistent = false →
      Off s ∨ (!s.handler.is_open && s.handler.buffer.isEmpty) = false ∧ s.nextWriteFails = false) :
    Keeps delay s (onTimeoutContinuation (app n) cont s).2 := by
  rcases onTimeoutContinuation_cases (app n) cont s with ⟨-, heq⟩ | ⟨hid, ⟨-, heq⟩ | ⟨hp, heq⟩⟩
  · rw [heq]; exact Std.Refl.refl s
  · rw [heq]; exact IsTrans.trans _ _ _ (keeps_dropConnection s) (along_terminate n _ _)
  · rw [heq]; exact keeps_expire n (h hid hp)

/-- a frame that the handler takes ends no session -/
theorem grows_of_accepted {n : ℕ} {f : SocketIOFrame} (h : refuses s f = false) : Grows s (sendOrAbort (app n) f s).2 := by
  have hframe : Grows s (s.push (.frame f)) := grows_push (e := .frame f) trivial s
  have hsend : Grows s (sendMessage (app n) f s).2 := IsTrans.trans _ _ _ hframe (writes.sendMessage_accepted h)
  have hresult : (sendOrAbort (app n) f s).2 = s ∨ (sendOrAbort (app n) f s).2 = (sendMessage (app n) f s).2 :=
    sendOrAbort_accepted (JettyTraversal.Http.sendMessage_accepted_error h)
  rcases hresult with hr | hr
  · rw [hr]; exact Std.Refl.refl s
  · rw [hr]; exact hsend

theorem along_onTimeout (n : ℕ) : Along (Keeps delay) (Session.onTimeout (app n : Callback Handler)) := by
  refine along_onTimeout_of (fun s => ?_) (along_onDisconnect n .timeout) (keeps_abort n)
  have hflag : Keeps delay s { s with session.timedout := true } := by
    refine ⟨List.suffix_refl _, fun _ hs => ⟨⟨?_, hs.handler, hs.ended, hs.delay⟩, fun _ => .inl rfl⟩⟩
    exact hs.clocks.congr (fun _ ht => ht) rfl rfl rfl
  exact IsTrans.trans _ _ _ hflag (keeps_of_same (same_setState .closed _) id)

/-- **A task that fires**; a ping is not refused, or its timeout timer is off -/
theorem keeps_fire (n : ℕ) (t : Task) (ht : t ∈ s.executor.pending)
    (h : t.kind = .sendPing → Off s ∨ refuses s (pingFrame s) = false) :
    Keeps delay s (runTask (app n) t.kind (startTask t s)).2 := by
  have hstart : Keeps delay s (startTask t s) := by
    have hsub : ∀ x ∈ (startTask t s).executor.pending, x ∈ s.executor.pending := fun _ hx => List.mem_of_mem_erase hx
    refine ⟨List.suffix_refl _, fun _ hs => ⟨hs.shrink ?_ hsub id rfl rfl id, id⟩⟩
    exact hs.clocks.congr hsub rfl rfl rfl
  cases hkind : t.kind with
  | onTimeout => exact IsTrans.trans _ _ _ hstart (along_onTimeout n _)
  | sendPing =>
    let s₀ := incrementMessageId (startTask t s)
    have hnext : Same (startTask t s) s₀ := same_of_log rfl rfl rfl
    have hsend : Keeps delay s (sendOrAbort (app n) (pingFrame s) s₀).2 :=
      IsTrans.trans _ _ _ hstart (IsTrans.trans _ _ _ (keeps_of_same hnext id) ((calls n).along_heartbeat _ s₀))
    refine keeps_then_startTimeout hsend fun hs => ?_
    -- a session with a task has not ended
    have hnot : ¬ Ended s.log := by
      intro he
      rw [(hs.ended he).2.1] at ht
      cases ht
    refine (h hkind).symm.imp (fun haccepted => ?_) id
    have hgrows : Grows s₀ (sendOrAbort (app n) (pingFrame s) s₀).2 := grows_of_accepted haccepted
    exact fun he => hnot (hgrows.ended he)

/-! ### A session that is not connected, or has ended -/

theorem stays_onDisconnect (n : ℕ) (reason : DisconnectReason) :
    Along (Stays Shut) (Session.onDisconnect (app n : Callback Handler) reason) :=
  along_stays_onDisconnect (fun m _ => rests_calls m) reason

theorem stays_terminate (n : ℕ) (reason : DisconnectReason) : Along (Stays Shut) (terminate (app n) reason) :=
  (stays_onDisconnect n reason).bind fun _ => (rests_calls n).abort

theorem stays_setContinuation (c : Option Continuation) (s : St Handler) : Stays Shut s (setContinuation c s) :=
  Same.stays (same_of_log rfl rfl rfl) id

theorem stays_dropConnection (s : St Handler) : Stays Shut s (dropConnection s) :=
  Same.stays (same_of_log rfl rfl rfl) fun h => ⟨rfl, h.2⟩

theorem guard_of_shut {h : Handler} (hshut : Shut h) : (!h.is_open && h.buffer.isEmpty) = true := by
  unfold Buffer.TransportBuffer.isEmpty
  rw [hshut.1, hshut.2]
  rfl

theorem stays_get (n : ℕ) (s : St Handler) : Stays Shut s (serveHttp (app n) .get s).2 := by
  rw [serveHttp_get]
  by_cases hh : s.session.handler = true
  · rw [if_pos hh]
    intro hs
    have hmissing : handleGet (app n) s = (.ok (), sendError 404 s) := by
      unfold handleGet
      rw [get_bind, if_pos (guard_of_shut hs.shut)]
      rfl
    have hsent : Stays Shut s (sendError 404 s) := Same.stays (same_push (e := .responded 404) trivial s) id
    have hended : Stays Shut s (endDispatch (sendError 404 s)) := IsTrans.trans _ _ _ hsent (stays_setContinuation _ _)
    rw [ending, hmissing]
    exact hended hs
  · rw [if_neg hh]
    exact along_onShutdown n s

theorem stays_post (n : ℕ) (decoded : Option (Except JavaException JString)) (s : St Handler) :
    Stays Shut s (serveHttp (app n) (.post decoded) s).2 := by
  rw [serveHttp_post]
  by_cases hh : s.session.handler = true
  · rw [if_pos hh]
    intro hs
    have hignored : handlePost (app n) decoded s = (.ok (), s) := by
      unfold handlePost
      rw [get_bind, if_neg (by rw [hs.shut.1]; exact Bool.false_ne_true)]
      rfl
    rw [hignored]
    exact Std.Refl.refl (r := Stays Shut) s hs
  · rw [if_neg hh]
    exact along_onShutdown n s

theorem stays_onComplete (n : ℕ) (cont : ℕ) (s : St Handler) : Stays Shut s (onComplete (app n) cont s).2 := by
  intro hs
  rcases onComplete_cases (app n) cont s with ⟨-, heq⟩ | ⟨-, ⟨-, heq⟩ | ⟨-, ⟨-, heq⟩ | ⟨-, ⟨-, heq⟩ | ⟨hopen, -⟩⟩⟩⟩
  · rw [heq]; exact Std.Refl.refl (r := Stays Shut) s hs
  · have hend : Along (Stays Shut) (do
        whenever (!s.handler.disconnectWhenEmpty) (Session.onDisconnect (app n) .disconnect)
        abort (app n) : M Handler Unit) :=
      (along_whenever fun _ => stays_onDisconnect n _).bind fun _ => (rests_calls n).abort
    rw [heq]; exact IsTrans.trans (r := Stays Shut) _ _ _ (stays_dropConnection s) (hend _) hs
  · rw [heq]; exact IsTrans.trans (r := Stays Shut) _ _ _ (stays_setContinuation none s) ((rests_calls n).abort _) hs
  · rw [heq]; exact IsTrans.trans (r := Stays Shut) _ _ _ (stays_setContinuation none s) (stays_terminate n _ _) hs
  · cases (guard_of_shut hs.shut).symm.trans hopen

theorem stays_startTimeout (h : Off s) : Stays Shut s (startTimeoutTimer s) := by
  intro hs
  have hlog := startTimeoutTimer_log s
  refine ⟨⟨hs.clocks.startTimeout.1, ?_, ?_, fun he => ?_⟩, by rw [hlog], settings_startTimeoutTimer s⟩
  · rw [h.startTimeoutTimer]
    exact List.eq_nil_iff_forall_not_mem.2 fun t ht => List.not_mem_nil (hs.idle ▸ hs.clocks.stamp.2.2.2.2.2 t ht)
  · rw [startTimeoutTimer_handler]; exact hs.shut
  · rw [startTimeoutTimer_inbound]; exact hs.ended (hlog ▸ he)

theorem stays_onTimeoutContinuation (n : ℕ) (cont : ℕ) (s : St Handler)
    (h : s.handler.continuation.map Continuation.id = some cont → s.handler.persistent = false → Shut s.handler → Off s) :
    Stays Shut s (onTimeoutContinuation (app n) cont s).2 := by
  intro hs
  rcases onTimeoutContinuation_cases (app n) cont s with ⟨-, heq⟩ | ⟨hid, ⟨-, heq⟩ | ⟨hp, heq⟩⟩
  · rw [heq]; exact Std.Refl.refl (r := Stays Shut) s hs
  · rw [heq]; exact IsTrans.trans (r := Stays Shut) _ _ _ (stays_dropConnection s) (stays_terminate n _ _) hs
  · let s₀ := setContinuation none (s.push .released)
    have hpushed : Stays Shut s (s.push .released) := Same.stays (same_push (e := .released) trivial s) id
    have hreleased : Stays Shut s s₀ := IsTrans.trans _ _ _ hpushed (stays_setContinuation none _)
    have hexpired : Along (Stays Shut) (expirePoll (app n)) :=
      JettyTraversal.Http.along_expirePoll_of (R := Stays Shut) (fun _ => Same.stays (same_of_log rfl rfl rfl) id)
        (stays_terminate n _)
    have hexpire : Stays Shut s (expirePoll (app n) s₀).2 := IsTrans.trans _ _ _ hreleased (hexpired s₀)
    have hoff : Off s := h hid hp hs.shut
    rw [heq]
    refine bind_related_ok (R := Stays Shut) hexpire (fun u s' hs' => ?_) hs
    refine stays_startTimeout (off_of_settings ?_ hoff)
    rw [hs'] at hexpire
    exact (hexpire hs).2.2

/-! ### Runs -/

/-- what holds between two steps of a run -/
def Sound (delay : ℤ) (s : St Handler) : Prop := Live delay s ∨ Still Shut s ∧ s.session.hbDelay = delay

def Goes (delay : ℤ) (s s' : St Handler) : Prop :=
  s.log <:+ s'.log ∧ ((0 < delay → Hushed Ended s'.log) → Sound delay s → Sound delay s')

instance : Std.Refl (Goes delay) := ⟨fun _ => ⟨List.suffix_refl _, fun _ => id⟩⟩

instance : IsTrans (St Handler) (Goes delay) where
  trans _ _ _ := fun h h' =>
    ⟨h.1.trans h'.1, fun hushed hs => h'.2 hushed (h.2 (fun hd => (hushed hd).of_suffix h'.1) hs)⟩

theorem Keeps.goes (h : Keeps delay s s') (hstill : Stays Shut s s') : Goes delay s s' := by
  refine ⟨h.1, fun hushed hs => hs.imp (fun hlive => (h.2 hushed hlive).1) fun ⟨hs, hdelay⟩ => ?_⟩
  obtain ⟨hs', -, hsettings⟩ := hstill hs
  exact ⟨hs', (Prod.ext_iff.1 hsettings).1.trans hdelay⟩

theorem goes_of_same (h : Same s s') (hshut : Shut s.handler → Shut s'.handler) : Goes delay s s' :=
  (keeps_of_same h hshut).goes (Same.stays h hshut)

theorem Sound.clocks (h : Sound delay s) : Clocks s ∧ (Ended s.log → s.session.inbound = false) :=
  h.elim (fun hs => ⟨hs.clocks, fun he => (hs.ended he).1⟩) fun hs => ⟨hs.1.clocks, hs.1.ended⟩

theorem Sound.hbDelay (h : Sound delay s) : s.session.hbDelay = delay := h.elim Live.delay And.right

theorem along_announce (n : ℕ) : Along (Keeps delay) (announce (app n : Callback Handler)) := by
  refine Along.catching _ ((along_callback n .onConnect).bind fun _ => along_pure _) ?_
  exact Along.bind (along_modify fun s => keeps_of_same (same_setState .closed s) id) fun _ => keeps_abort n

/-- **The request that connects**, once the handler is open -/
theorem goes_onConnect (n : ℕ) (s : St Handler) : Goes delay s (Session.onConnect (app n) true (opened s)).2 := by
  -- a session that is not connected is aborted
  have habort : ∀ s₀ : St Handler, Same s { s₀ with session.handler := s.session.handler } →
      Goes delay s (abort (app n) s₀).2 := by
    intro s₀ hsame
    have hkeeps : Keeps delay s₀ (abort (app n) s₀).2 := keeps_abort n s₀
    refine ⟨hsame.suffix.trans hkeeps.1, fun _ hs => ?_⟩
    obtain ⟨hclocks, hended⟩ := hs.clocks
    have hclocks₀ : Clocks s₀ := (hsame.clocks hclocks).congr (fun _ ht => ht) rfl rfl rfl
    have hinbound : s₀.session.inbound = s.session.inbound := hsame.inbound
    obtain ⟨hstill, hsettings⟩ := still_abort n hclocks₀ fun he => hinbound.trans (hended (hsame.ended he))
    refine .inr ⟨hstill, (Prod.ext_iff.1 hsettings).1.trans ?_⟩
    exact (Prod.ext_iff.1 hsame.settings).1.trans hs.hbDelay
  cases hh : s.session.handler with
  | true =>
    rw [onConnect_again (s := opened s) (app n) hh]
    exact habort (opened s) (same_of_log rfl rfl rfl)
  | false =>
    cases hi : s.session.inbound with
    | false =>
      rw [onConnect_dropped (s := opened s) (app n) hh hi]
      refine habort _ ⟨⟨[.state .closed], rfl, fun hmem => ?_⟩, rfl, rfl⟩
      cases List.mem_singleton.1 hmem
    | true =>
      rw [onConnect_first (s := opened s) (app n) hh hi]
      let s₁ := setState .connected ((attach (opened s)).push (.opened s.session.state))
      have hannounce : Keeps delay s₁ (announce (app n) s₁).2 := along_announce n s₁
      obtain ⟨hsuffix, hkeeps⟩ := hannounce
      have hgrown : s.log <:+ s₁.log := ⟨[.state .connected, .opened s.session.state], rfl⟩
      refine ⟨hgrown.trans hsuffix, fun hushed hs => .inl (hkeeps hushed ⟨?_, rfl, fun he => ?_, hs.hbDelay⟩).1⟩
      · exact hs.clocks.1.congr (fun _ ht => ht) rfl rfl rfl
      · -- a session that has ended has no inbound
        have hended : Ended s.log := (List.mem_cons.1 ((List.mem_cons.1 he).resolve_left nofun)).resolve_left nofun
        cases hi.symm.trans (hs.clocks.2 hended)

theorem along_connect (n : ℕ) : Along (Goes delay) (connect (app n)) := by
  have hwrite : Along (Goes delay) (write : M Handler Unit) :=
    along_write_of fun _ => goes_of_same (same_of_log rfl rfl rfl) id
  have hcontinuation : ∀ c s, Goes delay s (setContinuation c s) := fun c s =>
    goes_of_same (same_of_log rfl rfl rfl) id
  have hfinish : Along (Goes delay) (finish : M Handler Unit) := by
    refine along_get.bind fun s => Along.bind (along_modify fun s' => ?_) fun _ => hwrite.bind fun _ => ?_
    · exact goes_of_same (same_push (e := .finished s.nextWriteFails) trivial s') id
    · exact along_get.bind fun s => Along.ite (fun _ => along_modify fun s => hcontinuation _ s)
        fun _ => along_modify (hcontinuation none)
  refine Along.ending ?_ fun s => hcontinuation _ s
  refine Along.bind (along_modify fun s => goes_of_same (same_of_log rfl rfl rfl) id) fun _ => hwrite.bind fun _ s => ?_
  rw [modify_bind]
  exact bind_related (goes_onConnect n s) fun _ => hfinish

/-- **A step** in which no ping is refused and no poll expires -/
theorem goes_step {i : Input HttpEvent} (h : ¬ Off s → ¬ PingRefused s i ∧ ¬ PollExpired s i) :
    Goes delay s (step serveHttp s i) := by
  let s₀ := { s with acts := i.acts, io := i.io }
  let n := i.acts.length + 1
  have hinput : Goes delay s s₀ := goes_of_same (same_of_log rfl rfl rfl) id
  refine IsTrans.trans _ _ _ hinput ?_
  change Goes delay s₀ (perform serveHttp (app n) i.event s₀).2
  cases hevent : i.event with
  | outbound c => exact Keeps.goes ((calls n).along_outbound c s₀) ((rests_calls n).along_outbound c s₀)
  | tick d =>
    have hclocks : Clocks s₀ → Clocks (tick d s₀) := fun hs => hs.congr (fun _ ht => ht) rfl rfl rfl
    refine Keeps.goes ⟨List.suffix_refl _, fun _ hs => ⟨hs.shrink (hclocks hs.clocks) (fun _ ht => ht) id rfl rfl id, id⟩⟩ ?_
    exact fun hs => ⟨⟨hclocks hs.clocks, hs.idle, hs.shut, hs.ended⟩, List.suffix_refl _, rfl⟩
  | fire t =>
    rw [perform_fire]
    by_cases hready : t ∈ s₀.executor.pending ∧ t.due ≤ s₀.executor.ticks
    · rw [if_pos hready]
      refine Keeps.goes (keeps_fire n t hready.1 fun hkind => ?_) fun hs => ?_
      · by_contra hno
        rw [not_or] at hno
        refine (h hno.1).1 ⟨t, hevent, hkind, hready.1, hready.2, ?_⟩
        exact Bool.ne_false_iff.1 hno.2
      · have hidle := hready.1
        rw [hs.idle] at hidle
        cases hidle
    · rw [if_neg hready]
      exact Std.Refl.refl _
  | container e =>
    change Goes delay s₀ (serveHttp (app n) e s₀).2
    -- what a poll's timeout asks for, from the step
    have hexpired : ∀ cont, e = .onTimeout cont → s.handler.continuation.map Continuation.id = some cont →
        s.handler.persistent = false →
          Off s ∨ (!s.handler.is_open && s.handler.buffer.isEmpty) = false ∧ i.io.headD false = false := by
      intro cont he hid hp
      by_contra hno
      rw [not_or, not_and_or] at hno
      refine (h hno.1).2 ⟨cont, by rw [hevent, he], hid, hp, hno.2.imp (fun hguard => ?_) Bool.ne_false_iff.1⟩
      have hclosed := Bool.and_eq_true_iff.1 (Bool.ne_false_iff.1 hguard)
      exact ⟨by rw [← Bool.not_eq_true']; exact hclosed.1, hclosed.2⟩
    by_cases he : e = .connect
    · rw [he]; exact along_connect n s₀
    · refine Keeps.goes ?_ ?_
      · exact (requests n).later_related he fun cont hc => keeps_onTimeoutContinuation n cont (hexpired cont hc)
      · cases e with
        | connect => exact absurd rfl he
        | get => exact stays_get n s₀
        | post decoded => exact stays_post n decoded s₀
        | onComplete cont => exact stays_onComplete n cont s₀
        | onTimeout cont =>
          refine stays_onTimeoutContinuation n cont s₀ fun hid hp hshut => ?_
          refine (hexpired cont rfl hid hp).resolve_right fun hno => ?_
          cases (guard_of_shut hshut).symm.trans hno.1

theorem goes_run {is : List (Input HttpEvent)}
    (h : EachStep serveHttp s is fun s i => ¬ Off s → ¬ PingRefused s i ∧ ¬ PollExpired s i) :
    Goes delay s (run serveHttp s is) := by
  induction is generalizing s with
  | nil => exact Std.Refl.refl s
  | cons i is ih =>
    refine IsTrans.trans _ _ _ (goes_step (h [] i is rfl)) (ih fun past j later his => ?_)
    exact h (i :: past) j later (congrArg (i :: ·) his)

end Http

/-! ## No task is left -/

theorem eachStep_cons {η κ : Type} [TransportHandler η] {serve : Callback η → κ → M η Unit} {s : St η} {i : Input κ}
    {is : List (Input κ)} {P : St η → Input κ → Prop} (h : P s i) (hlater : EachStep serve (step serve s i) is P) :
    EachStep serve s (i :: is) P := by
  intro past j later his
  cases past with
  | nil => cases his; exact h
  | cons x past => cases his; exact hlater past j later rfl

theorem eachStep_nil {η κ : Type} [TransportHandler η] {serve : Callback η → κ → M η Unit} {s : St η}
    {P : St η → Input κ → Prop} : EachStep serve s [] P := fun past _ _ his => by cases past <;> cases his

theorem EachStep.of_prefix {η κ : Type} [TransportHandler η] {serve : Callback η → κ → M η Unit} {s : St η}
    {is past : List (Input κ)} {P : St η → Input κ → Prop} (h : EachStep serve s is P) (hp : past <+: is) :
    EachStep serve s past P := by
  obtain ⟨rest, rfl⟩ := hp
  intro earlier i later his
  refine h earlier i (later ++ rest) ?_
  rw [his, List.append_assoc, List.cons_append]

theorem run_append {η κ : Type} [TransportHandler η] (serve : Callback η → κ → M η Unit) (s : St η)
    (past rest : List (Input κ)) : run serve s (past ++ rest) = run serve (run serve s past) rest := List.foldl_append

theorem EachStep.rest {η κ : Type} [TransportHandler η] {serve : Callback η → κ → M η Unit} {s : St η}
    {past rest : List (Input κ)} {P : St η → Input κ → Prop} (h : EachStep serve s (past ++ rest) P) :
    EachStep serve (run serve s past) rest P := by
  intro earlier i later hrest
  rw [← run_append]
  exact h (past ++ earlier) i later (by rw [hrest, List.append_assoc])

/-- no task is pending once `onShutdown` has run -/
def NothingPending {η : Type} (s : St η) : Prop := Ended s.log → s.executor.pending = []

instance {η : Type} (s : St η) : Decidable (NothingPending s) :=
  inferInstanceAs (Decidable (Ended s.log → s.executor.pending = []))

/-- While the timeout timer is on, no ping is refused and no poll's timeout ends the session; and, if the session has
heartbeats, no HEARTBEAT frame comes in once `onShutdown` has run. -/
def HttpOrderly (config : JettyContinuation.SocketIOConfig) (persistent : Bool) (is : List (Input HttpEvent)) : Prop :=
  EachStep serveHttp (JettyContinuation.created config persistent) is
      (fun s i => ¬ Off s → ¬ PingRefused s i ∧ ¬ PollExpired s i) ∧
    (0 < (JettyContinuation.created config persistent).session.hbDelay →
      Hushed Ended (run serveHttp (JettyContinuation.created config persistent) is).log)

/-- While the timeout timer is on, no ping is refused; and, if the session has heartbeats, no text message and no
HEARTBEAT frame comes in once `onDisconnect` was called for another reason than TIMEOUT. -/
def SocketOrderly (config : JettyWebSocket.SocketIOConfig) (js : List (Input SocketEvent)) : Prop :=
  EachStep serveSocket (JettyWebSocket.created config) js (fun s i => ¬ Off s → ¬ PingRefused s i) ∧
    (0 < (JettyWebSocket.created config).session.hbDelay →
      Hushed Parted (run serveSocket (JettyWebSocket.created config) js).log)

/-- **Nothing stays scheduled after a session has ended**, in every orderly run of either handler. -/
theorem nothing_pending_once_ended (config : JettyContinuation.SocketIOConfig) (persistent : Bool)
    (is : List (Input HttpEvent)) (wsConfig : JettyWebSocket.SocketIOConfig) (js : List (Input SocketEvent)) :
    (HttpOrderly config persistent is →
      ∀ past, past <+: is → NothingPending (run serveHttp (JettyContinuation.created config persistent) past)) ∧
    (SocketOrderly wsConfig js →
      ∀ past, past <+: js → NothingPending (run serveSocket (JettyWebSocket.created wsConfig) past)) := by
  refine ⟨fun ⟨hsteps, hushed⟩ past hp hended => ?_, fun ⟨hsteps, hushed⟩ past hp hended => ?_⟩
  · let s := JettyContinuation.created config persistent
    have hcreated : Http.Sound s.session.hbDelay s :=
      .inr ⟨⟨clocks_of_idle rfl rfl, rfl, ⟨rfl, rfl⟩, fun h => absurd h List.not_mem_nil⟩, rfl⟩
    have hgoes : Http.Goes s.session.hbDelay s (run serveHttp s past) := Http.goes_run (hsteps.of_prefix hp)
    obtain ⟨rest, rfl⟩ := hp
    have hpast : (run serveHttp s past).log <:+ (run serveHttp s (past ++ rest)).log := by
      have hrest : Http.Goes s.session.hbDelay (run serveHttp s past) (run serveHttp (run serveHttp s past) rest) :=
        Http.goes_run hsteps.rest
      rw [run_append]
      exact hrest.1
    rcases hgoes.2 (fun hd => (hushed hd).of_suffix hpast) hcreated with hlive | hstill
    · exact (hlive.ended hended).2.1
    · exact hstill.1.idle
  · let s := JettyWebSocket.created wsConfig
    have hcreated : Socket.Inv s.session.hbDelay s := by
      refine ⟨clocks_of_idle rfl rfl, nofun, fun h => absurd h List.not_mem_nil, nofun, rfl⟩
    have hkeeps : Socket.Keeps s.session.hbDelay s (run serveSocket s past) := Socket.keeps_run (hsteps.of_prefix hp)
    obtain ⟨rest, rfl⟩ := hp
    have hpast : (run serveSocket s past).log <:+ (run serveSocket s (past ++ rest)).log := by
      have hrest : Socket.Keeps s.session.hbDelay (run serveSocket s past) (run serveSocket (run serveSocket s past) rest) :=
        Socket.keeps_run hsteps.rest
      rw [run_append]
      exact hrest.1
    have hinv := (hkeeps.2 (fun hd => (hushed hd).of_suffix hpast) hcreated).1
    exact hinv.idle (hinv.ended hended)

/-- a client connects and says something, the application disconnects, and the connection closes -/
def disconnected : List (Input SocketEvent) :=
  [⟨.container .connect, [], []⟩, ⟨.container (.text (str "3:::hello")), [], []⟩, ⟨.outbound .disconnect, [], []⟩,
    ⟨.container .onClose, [], []⟩]

theorem nothing_pending_once_ended_disconnected :
    let s := run serveSocket (JettyWebSocket.created ⟨none, none⟩) disconnected
    Ended s.log ∧ NothingPending s ∧
      NothingPending (run serveHttp (JettyContinuation.created ⟨none, none, none, none⟩ false)
        [⟨.container .connect, [], []⟩, ⟨.outbound .disconnect, [], []⟩]) := by
  have hresult := nothing_pending_once_ended ⟨none, none, none, none⟩ false
    [⟨.container .connect, [], []⟩, ⟨.outbound .disconnect, [], []⟩] ⟨none, none⟩ disconnected
  refine ⟨by decide +kernel, hresult.2 ⟨?_, fun _ => by decide +kernel⟩ _ (List.prefix_refl _),
    hresult.1 ⟨?_, fun h => absurd h (by decide)⟩ _ (List.prefix_refl _)⟩
  · -- no task fires in this run
    refine eachStep_cons (fun _ => ?_) (eachStep_cons (fun _ => ?_) (eachStep_cons (fun _ => ?_)
      (eachStep_cons (fun _ => ?_) eachStep_nil)))
    all_goals exact fun ⟨_, hfire, _⟩ => by cases hfire
  · refine eachStep_cons (fun _ => ⟨?_, ?_⟩) (eachStep_cons (fun _ => ⟨?_, ?_⟩) eachStep_nil)
    all_goals exact fun ⟨_, hevent, _⟩ => by cases hevent

/-- a client connects and says something, and the ping that the session sends later fails -/
def failingPing : List (Input SocketEvent) :=
  [⟨.container .connect, [], []⟩, ⟨.container (.text (str "3:::hello")), [], []⟩, ⟨.tick 150000, [], []⟩,
    ⟨.fire ⟨0, .sendPing, 150000⟩, [], [true]⟩]

/-- a client connects and polls; the poll expires, and finishing its response fails -/
def failingPoll : List (Input HttpEvent) :=
  [⟨.container .connect, [], []⟩, ⟨.container .get, [], []⟩, ⟨.container (.onTimeout 1), [], [true]⟩]

/-- **A refused ping leaves the timeout timer running** in a session that it ended, and so does a poll's timeout. -/
theorem refused_ping_leaves_timeout :
    ¬ NothingPending (run serveSocket (JettyWebSocket.created ⟨none, none⟩) failingPing) ∧
      ¬ NothingPending (run serveHttp (JettyContinuation.created ⟨none, none, none, none⟩ false) failingPoll) := by
  decide +kernel

end SocketIOJava.EndedTimers
