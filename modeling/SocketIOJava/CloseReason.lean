/-
What the reason of `onDisconnect` says about who closed a polling session.

CLOSED is given in two places: by `onClose(data)` when the session's own CLOSE frame comes back, and at the end of a POST
when `disconnectWhenEmpty` is set and nothing is in the buffer. The second is meant for a close of the peer whose answer
has gone out. With a poll parked the answer does not wait in the buffer: it completes the poll, and the same POST calls the
close of the peer CLOSED.

- `reason_tells_who_closed`: in every run without a failing write, a call of `disconnect()` or a timeout, in which no poll
  is parked when a CLOSE frame with other data than "client" opens the close, CLOSED comes only after `close()` and the
  return of its frame, and after a CLOSE frame of the peer without a `close()` the reason is CLOSED_REMOTELY.
- `parked_poll_closed`: with a poll parked the reason is CLOSED, and nobody called `close()`.
-/
import SocketIOJava.Disconnect

namespace SocketIOJava.CloseReason

open Program SocketIOJava.Text SocketIOJava.Frame SocketIOJava.Session SocketIOJava.Buffer SocketIOJava.Run
  SocketIOJava.Traversal JettyContinuation
open SocketIOJava.JettyTraversal.Http (Wire Requests)

/-! ## The history -/

/-- a response is there to write to: that of the connect request, or of a parked poll -/
def waits : List Entry → Bool
  | [] => false
  | .parked :: _ | .opened _ :: _ => true
  | .completed :: _ | .released :: _ | .finished _ :: _ | .removed :: _ => false
  | _ :: past => waits past

def isStartClose : Entry → Bool
  | .startClose _ => true
  | _ => false

def isOnClose : Entry → Bool
  | .onClose _ _ => true
  | _ => false

/-- the application called `close()` -/
def askedToClose (log : List Entry) : Bool := log.any isStartClose

/-- the peer sent a CLOSE frame -/
def peerClosed (log : List Entry) : Bool := log.any isOnClose

/-- the reason of an `onDisconnect` tells who closed -/
structure Tells (reason : DisconnectReason) (past : List Entry) : Prop where
  closed : reason = .closed →
    ∃ earlier, .onClose .closing (str "server") :: earlier <:+ past ∧ askedToClose earlier = true
  remotely : peerClosed past = true → askedToClose past = false → reason = .closedRemotely

/-- the reason of every `onDisconnect` does -/
def Told (log : List Entry) : Prop := ∀ reason past, .called (.onDisconnect reason) :: past <:+ log → Tells reason past

/-- neither a call of `disconnect()` nor a timeout -/
structure Undisturbed (log : List Entry) : Prop where
  disconnect : ∀ refused, .outbound .disconnect refused ∉ log
  timeout : .called (.onDisconnect .timeout) ∉ log

/-- no poll is parked when a CLOSE frame of the peer, with other data than "client", opens the close -/
def ClosedUnpolled (log : List Entry) : Prop :=
  ∀ old data past, .onClose old data :: past <:+ log → old ≠ .closing → data ≠ str "client" → waits past = false

/-- what an entry adds to this -/
def Unpolled (past : List Entry) : Entry → Prop
  | .onClose old data => old ≠ .closing → data ≠ str "client" → waits past = false
  | _ => True

instance (past : List Entry) : DecidablePred (Unpolled past)
  | .onClose old data => inferInstanceAs (Decidable (old ≠ .closing → data ≠ str "client" → waits past = false))
  | .state _ | .startClose _ | .opened _ | .called _ | .returned _ | .outbound _ _ | .frame _ | .wrote _ _ | .received _
  | .removed | .listed _ | .text _ | .parked | .answered | .released | .completed | .finished _ | .responded _ => isTrue trivial

theorem closedUnpolled_cons {e : Entry} {log : List Entry} : ClosedUnpolled (e :: log) ↔ Unpolled log e ∧ ClosedUnpolled log := by
  constructor
  · intro h
    refine ⟨?_, fun old data past hp => h old data past (hp.trans (List.suffix_cons _ _))⟩
    cases e with
    | onClose old data => exact h old data log (List.suffix_refl _)
    | _ => trivial
  · intro ⟨he, h⟩ old data past hp
    rcases List.suffix_cons_iff.1 hp with hcons | hp
    · obtain ⟨rfl, rfl⟩ := List.cons.inj hcons
      exact he
    · exact h old data past hp

instance decidableClosedUnpolled : DecidablePred ClosedUnpolled
  | [] => isTrue fun _ _ _ hp => absurd (List.suffix_nil.1 hp) (List.cons_ne_nil _ _)
  | _ :: log =>
    have := decidableClosedUnpolled log
    decidable_of_iff _ closedUnpolled_cons.symm

structure Fair (log : List Entry) : Prop where
  undisturbed : Undisturbed log
  unpolled : ClosedUnpolled log

variable {log past : List Entry} {reason : DisconnectReason}

theorem Undisturbed.of_suffix (h : Undisturbed log) (hp : past <:+ log) : Undisturbed past :=
  ⟨fun refused hmem => h.disconnect refused (hp.subset hmem), fun hmem => h.timeout (hp.subset hmem)⟩

theorem Fair.of_suffix (h : Fair log) (hp : past <:+ log) : Fair past :=
  ⟨h.undisturbed.of_suffix hp, fun old data earlier he => h.unpolled old data earlier (he.trans hp)⟩

theorem askedToClose_of_suffix (hp : past <:+ log) (h : askedToClose past = true) : askedToClose log = true := by
  obtain ⟨e, he, hstart⟩ := List.any_eq_true.1 h
  exact List.any_eq_true.2 ⟨e, hp.subset he, hstart⟩

/-- an assignment of the state does not matter -/
theorem Tells.state (h : Tells reason past) (c : ConnectionState) : Tells reason (.state c :: past) := by
  refine ⟨fun hreason => ?_, h.remotely⟩
  obtain ⟨earlier, hsuffix, hasked⟩ := h.closed hreason
  exact ⟨earlier, hsuffix.trans (List.suffix_cons _ _), hasked⟩

/-- after `close()` any reason but CLOSED is fine -/
theorem tells_of_asked (hasked : askedToClose past = true) (hreason : reason ≠ .closed) : Tells reason past :=
  ⟨fun h => absurd h hreason, fun _ hno => by cases hasked.symm.trans hno⟩

/-- and while the peer has sent no CLOSE frame -/
theorem tells_of_open (hpeer : peerClosed past = false) (hreason : reason ≠ .closed) : Tells reason past :=
  ⟨fun h => absurd h hreason, fun h _ => by cases hpeer.symm.trans h⟩

theorem told_cons {e : Entry} (he : ∀ reason, e = .called (.onDisconnect reason) → Tells reason log) (h : Told log) :
    Told (e :: log) := by
  intro reason past hp
  rcases List.suffix_cons_iff.1 hp with hcons | hp
  · obtain ⟨rfl, rfl⟩ := List.cons.inj hcons
    exact he reason rfl
  · exact h reason past hp

theorem told_append {added : List Entry} (he : ∀ reason, .called (.onDisconnect reason) ∉ added) (h : Told log) :
    Told (added ++ log) := by
  induction added with
  | nil => exact h
  | cons e added ih =>
    refine told_cons (fun reason hreason => ?_) (ih fun reason hmem => he reason (List.mem_cons_of_mem _ hmem))
    exact absurd (hreason ▸ List.mem_cons_self) (he reason)

theorem Told.of_suffix (h : Told log) (hp : past <:+ log) : Told past := fun reason earlier he => h reason earlier (he.trans hp)

/-! ## The history grows, and falls silent -/

variable {p : Continuation → Prop} {s s' s'' : St Handler}

/-- the history grows, and a session without an inbound stays so and calls `onDisconnect` no more -/
structure Past (s s' : St Handler) : Prop where
  log : s.log <:+ s'.log
  inbound : s.session.inbound = false → s'.session.inbound = false
  silent : s.session.inbound = false → Told s.log → Told s'.log

instance : Std.Refl Past := ⟨fun _ => ⟨List.suffix_refl _, id, fun _ => id⟩⟩

instance : IsTrans (St Handler) Past where
  trans _ _ _ := fun h h' =>
    ⟨h.log.trans h'.log, h'.inbound ∘ h.inbound, fun hi ht => h'.silent (h.inbound hi) (h.silent hi ht)⟩

/-- an update that keeps the inbound and adds an entry other than a call of `onDisconnect` -/
theorem past_cons {e : Entry} (he : ∀ reason, e ≠ .called (.onDisconnect reason)) (hlog : s'.log = e :: s.log)
    (hi : s'.session.inbound = s.session.inbound) : Past s s' := by
  refine ⟨⟨[e], hlog.symm⟩, hi.trans, fun _ ht => ?_⟩
  rw [hlog]
  exact told_cons (fun reason hreason => absurd hreason (he reason)) ht

theorem past_of_log (hlog : s'.log = s.log) (hi : s'.session.inbound = s.session.inbound) : Past s s' :=
  ⟨⟨[], hlog.symm⟩, hi.trans, fun _ ht => hlog ▸ ht⟩

theorem past_updates : Updates Past where
  same s s' h := by
    obtain ⟨-, hi, -, hlog⟩ := by simpa only [core, Prod.mk.injEq] using h
    exact past_of_log hlog hi
  silent s e he := past_cons (fun reason heq => by rw [heq] at he; exact he reason rfl) rfl rfl
  outbound s c := past_cons (e := .outbound c (TransportHandler.refuses s closeFrame)) (by simp) rfl rfl
  startClose s := by
    have hpushed : Past s (s.push (.startClose s.session.state)) :=
      past_cons (e := .startClose s.session.state) (by simp) rfl rfl
    exact IsTrans.trans _ _ _ hpushed (past_cons (e := .state .closing) (by simp) rfl rfl)
  acknowledged s data _ := past_cons (e := .onClose .closing data) (by simp) rfl rfl
  closing s data _ := by
    have hpushed : Past s (s.push (.onClose s.session.state data)) :=
      past_cons (e := .onClose s.session.state data) (by simp) rfl rfl
    exact IsTrans.trans _ _ _ hpushed (past_cons (e := .state .closing) (by simp) rfl rfl)
  closed s := past_cons (e := .state .closed) (by simp) rfl rfl
  removed s _ := past_cons (e := .removed) (by simp) rfl rfl

theorem past_core (n : ℕ) : Core Past (app n : Callback Handler) := by
  refine past_updates.core_app (fun n c => JettyTraversal.Http.steps c) (fun n k s reason hi => ?_) n
  let begun := (setState .closed s).push (.called (.onDisconnect reason))
  have hbody : Past begun (behave n begun).2 := along_behave k begun
  have hbegun : s.log <:+ begun.log := ⟨[_, _], rfl⟩
  rw [notify_app]
  refine ⟨hbegun.trans (hbody.log.trans (List.suffix_cons _ _)), fun hno => ?_, fun hno => ?_⟩
  · cases hi.symm.trans hno
  · cases hi.symm.trans hno

theorem past_steps (n : ℕ) : Steps Past (app n : Callback Handler) := JettyTraversal.Http.steps (past_core n).incoming

theorem past_opens : Opens (Past) where
  opened s _ _ := by
    have hpushed : Past (attach s) ((attach s).push (.opened s.session.state)) :=
      past_cons (e := .opened s.session.state) nofun rfl rfl
    exact IsTrans.trans _ (attach s) _ (past_of_log rfl rfl)
      (IsTrans.trans _ _ _ hpushed (past_cons (e := .state .connected) nofun rfl rfl))
  attached _ := past_of_log rfl rfl

theorem past_serving (n : ℕ) : Serving Past (app n : Callback Handler) := (past_core n).incoming.serving

theorem past_serve (n : ℕ) (e : HttpEvent) : Along Past (serveHttp (app n) e) :=
  JettyTraversal.Http.along_serve (past_serving n) (past_steps n) past_opens e

/-! ## After `close()` -/

/-- once the application has called `close()`, its calls end the session with other reasons than CLOSED, and never
connect it again -/
structure Asked (s s' : St Handler) : Prop where
  log : s.log <:+ s'.log
  state : s.session.state ≠ .connected → s'.session.state ≠ .connected
  told : askedToClose s.log = true → Told s.log → Told s'.log

instance : Std.Refl Asked := ⟨fun _ => ⟨List.suffix_refl _, id, fun _ => id⟩⟩

instance : IsTrans (St Handler) Asked where
  trans _ _ _ := fun h h' =>
    ⟨h.log.trans h'.log, h'.state ∘ h.state, fun ha ht => h'.told (askedToClose_of_suffix h.log ha) (h.told ha ht)⟩

theorem asked_cons {e : Entry} (he : ∀ reason, e = .called (.onDisconnect reason) → reason ≠ .closed)
    (hlog : s'.log = e :: s.log) (hstate : s.session.state ≠ .connected → s'.session.state ≠ .connected) : Asked s s' := by
  refine ⟨⟨[e], hlog.symm⟩, hstate, fun ha ht => ?_⟩
  rw [hlog]
  exact told_cons (fun reason heq => tells_of_asked ha (he reason heq)) ht

theorem asked_of_log (hlog : s'.log = s.log) (hstate : s'.session.state = s.session.state) : Asked s s' :=
  ⟨⟨[], hlog.symm⟩, fun h => hstate ▸ h, fun _ ht => hlog ▸ ht⟩

theorem asked_startClose (s : St Handler) : Asked s (initiateClose s) := by
  have hpushed : Asked s (s.push (.startClose s.session.state)) := asked_cons (e := .startClose s.session.state) nofun rfl id
  exact IsTrans.trans _ _ _ hpushed (asked_cons (e := .state .closing) nofun rfl fun _ => nofun)

theorem asked_startHeartbeatTimer (s : St Handler) : Asked s (startHeartbeatTimer s) := by
  obtain ⟨e, t, heq⟩ := startHeartbeatTimer_eq s
  rw [heq]
  exact asked_of_log rfl rfl

theorem asked_onDisconnect {n : ℕ} (k : ∀ m < n, Calls Asked (app m : Callback Handler)) (h : reason ≠ .closed) :
    Along Asked (Session.onDisconnect (app n : Callback Handler) reason) := by
  have hclear : ∀ s : St Handler, Asked s (clearHeartbeatTimer (clearTimeoutTimer s)) := fun _ => asked_of_log rfl rfl
  refine along_onDisconnect_of hclear fun s _ => ?_
  have hcalled : ∀ r, InboundCall.onDisconnect reason = .onDisconnect r → r ≠ .closed := fun r hr => by cases hr; exact h
  have hcall : Along Asked (app n (.onDisconnect reason) : M Handler (List JString)) :=
    along_app k (fun _ => asked_cons (fun r hr => hcalled r (Entry.called.inj hr)) rfl id) fun _ =>
      asked_cons (e := .returned (.onDisconnect reason)) nofun rfl id
  refine notify_related hcall (fun _ => ?_) (fun _ => asked_of_log rfl rfl) s
  exact asked_cons (e := .state .closed) nofun rfl fun _ => nofun

theorem asked_wire {n : ℕ} (k : ∀ m < n, Calls Asked (app m : Callback Handler)) : Wire Asked (app n : Callback Handler) where
  acts _ _ _ := asked_of_log rfl rfl
  io _ := asked_of_log rfl rfl
  outbound s c := asked_cons (e := .outbound c (TransportHandler.refuses s closeFrame)) nofun rfl id
  startClose := asked_startClose
  onDisconnect _ _ h := asked_onDisconnect k h
  removed _ _ := asked_cons (e := .removed) nofun rfl id
  expired := asked_onDisconnect k (by decide)
  update _ _ _ _ := asked_of_log rfl rfl
  release _ := asked_of_log rfl rfl
  startHeartbeat := asked_startHeartbeatTimer
  frame _ f _ := asked_cons (e := .frame f) nofun rfl id
  wrote _ data failed := asked_cons (e := .wrote data failed) nofun rfl id
  completed _ := asked_cons (e := .completed) nofun rfl id

theorem asked_calls (n : ℕ) : Calls Asked (app n : Callback Handler) := by
  induction n using Nat.strong_induction_on with
  | _ n ih => exact (asked_wire ih).calls

/-! ## Inside of `onDisconnect` -/

/-- inside of the callback the session is not CONNECTED; without `disconnect()` the reasons stay right -/
def Inside (s s' : St Handler) : Prop :=
  s.log <:+ s'.log ∧ (Undisturbed s'.log → Told s.log → s.session.state ≠ .connected →
    Told s'.log ∧ s'.session.state ≠ .connected)

instance : Std.Refl Inside := ⟨fun _ => ⟨List.suffix_refl _, fun _ ht hs => ⟨ht, hs⟩⟩⟩

instance : IsTrans (St Handler) Inside where
  trans _ _ _ := fun h h' => by
    refine ⟨h.1.trans h'.1, fun hu ht hs => ?_⟩
    obtain ⟨ht', hs'⟩ := h.2 (hu.of_suffix h'.1) ht hs
    exact h'.2 hu ht' hs'

/-- a call of the application: after `close()` its frame may fail and abort the session, messages are refused -/
theorem inside_outbound (n : ℕ) (c : OutboundCall) : Along Inside (Session.outbound (app n : Callback Handler) c) := by
  refine fun s => derefHandler_related fun _ => ?_
  rw [modify_bind]
  let s₁ := s.push (.outbound c (TransportHandler.refuses s closeFrame))
  have hpast : Past s₁ (outboundMethod (app n) c s₁).2 := (past_steps n).calls.along_outboundMethod c s₁
  have hlog : s.log <:+ (outboundMethod (app n) c s₁).2.log := (List.suffix_cons _ _).trans hpast.log
  have htold : Told s.log → Told s₁.log := told_cons nofun
  have hsend : ∀ messageType message, Inside s (sendTyped (app n) messageType message s₁).2 := by
    intro messageType message
    have hsuffix : s.log <:+ (sendTyped (app n) messageType message s₁).2.log :=
      (List.suffix_cons _ _).trans ((past_steps n).calls.along_sendTyped messageType message s₁).log
    refine ⟨hsuffix, fun _ ht hs => ?_⟩
    rw [Disconnect.sendTyped_of_not_connected Disconnect.http_lawful (s := s₁) hs]
    exact ⟨htold ht, hs⟩
  cases c with
  | disconnect =>
    refine ⟨hlog, fun hu _ _ => ?_⟩
    exact absurd (hpast.log.subset List.mem_cons_self) (hu.disconnect _)
  | close =>
    refine ⟨hlog, fun _ ht _ => ?_⟩
    let s₂ := initiateClose s₁
    have hsent : Asked s₂ (sendOrAbort (app n) closeFrame s₂).2 :=
      sendOrAbort_related (fun hh => (asked_calls n).send _ _ (sendable_close rfl hh rfl)) (asked_calls n).abort
    have htold₂ : Told s₂.log := told_cons nofun (told_cons nofun (htold ht))
    exact ⟨hsent.told rfl htold₂, hsent.state nofun⟩
  | sendMessage message => exact hsend _ _
  | sendTyped messageType message => exact hsend _ _
  | emitMessage key message => exact hsend _ _

theorem inside_behave (n : ℕ) : Along Inside (behave n : M Handler (List JString)) :=
  along_behave_of (fun _ _ _ => ⟨List.suffix_refl _, fun _ ht hs => ⟨ht, hs⟩⟩) fun m _ => inside_outbound m

/-- **The end of a session**, with a reason that tells who closed -/
theorem told_onDisconnect (n : ℕ) (ht : Told s.log) (h : s.session.inbound = true → Tells reason s.log)
    (hu : Undisturbed (Session.onDisconnect (app n) reason s).2.log) :
    Told (Session.onDisconnect (app n) reason s).2.log := by
  unfold Session.onDisconnect at hu ⊢
  rw [modify_bind, modify_bind, get_bind] at hu ⊢
  let cleared := clearHeartbeatTimer (clearTimeoutTimer s)
  by_cases hi : cleared.session.inbound = true
  · rw [if_pos hi, notify_app] at hu ⊢
    let begun := (setState .closed cleared).push (.called (.onDisconnect reason))
    have hbegun : Told begun.log := by
      refine told_cons (fun r hr => ?_) (told_cons nofun ht)
      cases hr
      exact (h hi).state .closed
    have hbody := (inside_behave n begun).2 (hu.of_suffix (List.suffix_cons _ _)) hbegun nofun
    exact told_cons nofun hbody.1
  · rw [if_neg hi]
    exact ht

/-- what `onShutdown` needs to know about a session with an inbound -/
structure Owes (s : St Handler) : Prop where
  closeId : s.session.closeId.isSome = true → askedToClose s.log = true
  remote : peerClosed s.log = true → askedToClose s.log = false → s.session.state = .closing

theorem told_onShutdown (n : ℕ) (ht : Told s.log) (h : s.session.inbound = true → Owes s)
    (hu : Undisturbed (Session.onShutdown (app n) s).2.log) : Told (Session.onShutdown (app n) s).2.log := by
  unfold Session.onShutdown at hu ⊢
  rw [get_bind] at hu ⊢
  by_cases hi : s.session.inbound = true
  · have hend : ∀ reason, Tells reason s.log →
        Undisturbed ((do Session.onDisconnect (app n) reason; modify removeSession : M Handler Unit) s).2.log →
        Told ((do Session.onDisconnect (app n) reason; modify removeSession : M Handler Unit) s).2.log := by
      intro reason hreason hu
      obtain ⟨s', hs'⟩ := onDisconnect_app n reason s
      rw [bind_of_ok hs'] at hu ⊢
      have htold := told_onDisconnect n ht (fun _ => hreason) (by rw [hs']; exact hu.of_suffix (List.suffix_cons _ _))
      rw [hs'] at htold
      exact told_cons nofun htold
    rw [if_pos hi] at hu ⊢
    by_cases hstate : s.session.state = .closing
    · rw [if_pos hstate] at hu ⊢
      by_cases hid : s.session.closeId.isSome = true
      · rw [if_pos hid] at hu ⊢
        exact hend _ (tells_of_asked ((h hi).closeId hid) (by decide)) hu
      · rw [if_neg hid] at hu ⊢
        exact hend .closedRemotely ⟨nofun, fun _ _ => rfl⟩ hu
    · rw [if_neg hstate] at hu ⊢
      refine hend _ ⟨nofun, fun hpeer hasked => ?_⟩ hu
      exact absurd ((h hi).remote hpeer hasked) hstate
  · rw [if_neg hi]
    exact told_cons nofun ht

theorem told_abort (n : ℕ) (ht : Told s.log) (h : s.session.inbound = true → Owes s)
    (hu : Undisturbed (abort (app n) s).2.log) : Told (abort (app n) s).2.log :=
  told_onShutdown n (s := release s) ht (fun hi => ⟨(h hi).closeId, (h hi).remote⟩) hu

/-! ## A connected session -/

/-- a connected polling session; once `disconnectWhenEmpty` is set, messages are in the buffer, and no poll is parked -/
structure Connected (p : Continuation → Prop) (s : St Handler) : Prop where
  attached : s.session.handler = true
  polling : s.handler.persistent = false
  listener : s.handler.buffer.listener = none
  io : ∀ b ∈ s.io, b = false
  closeId : ∀ d, s.session.closeId = some d → d = str "server" ∧ askedToClose s.log = true
  draining : s.handler.disconnectWhenEmpty = true → s.handler.continuation = none ∧ s.handler.buffer.queue ≠ []
  waiting : ∀ c, s.handler.continuation = some c → waits s.log = true ∧ p c

/-- a session that has not ended; after a CLOSE frame of the peer, without a `close()`, the next GET will end it -/
structure Live (p : Continuation → Prop) (s : St Handler) : Prop extends Connected p s where
  remote : s.session.state = .closing ∨ peerClosed s.log = true → askedToClose s.log = false →
    s.session.state = .closing ∧ s.handler.disconnectWhenEmpty = true

/-- every `onDisconnect` so far told who closed, and what comes will -/
structure Inv (p : Continuation → Prop) (s : St Handler) : Prop where
  told : Told s.log
  live : s.session.inbound = true → Live p s

theorem Live.owes (h : Live p s) : Owes s where
  closeId hid := by
    obtain ⟨d, hd⟩ := Option.isSome_iff_exists.1 hid
    exact (h.closeId d hd).2
  remote hpeer hasked := (h.remote (.inr hpeer) hasked).1

/-- a session to which a response is open has not been closed by the peer alone -/
theorem Live.not_remote (h : Live p s) {c : Continuation} (hc : s.handler.continuation = some c)
    (hpeer : s.session.state = .closing ∨ peerClosed s.log = true) : askedToClose s.log = true := by
  by_contra hasked
  have hremote := h.remote hpeer (Bool.eq_false_iff.2 hasked)
  cases hc.symm.trans (h.draining hremote.2).1

/-- and any reason but CLOSED tells the truth about it -/
theorem Live.tells (h : Live p s) {c : Continuation} (hc : s.handler.continuation = some c) (hreason : reason ≠ .closed) :
    Tells reason s.log := by
  cases hpeer : peerClosed s.log with
  | false => exact tells_of_open hpeer hreason
  | true => exact tells_of_asked (h.not_remote hc (.inr hpeer)) hreason

theorem inv_of_gone (ht : Told s.log) (hi : s.session.inbound = false) : Inv p s := by
  refine ⟨ht, fun h => ?_⟩
  cases hi.symm.trans h

/-- all that the close of a session depends on, apart from the history -/
def parts (s : St Handler) : Bool × Bool × ConnectionState × Option JString × Bool × Option BufferListener × List JString ×
    Bool × Option Continuation :=
  (s.session.inbound, s.session.handler, s.session.state, s.session.closeId, s.handler.persistent, s.handler.buffer.listener,
    s.handler.buffer.queue, s.handler.disconnectWhenEmpty, s.handler.continuation)

/-- and what it reads off the history -/
def views (log : List Entry) : Bool × Bool × Bool := (waits log, askedToClose log, peerClosed log)

/-- nothing changes that the close of the session depends on -/
structure Same (s s' : St Handler) : Prop where
  log : ∃ added, s'.log = added ++ s.log ∧ ∀ reason, .called (.onDisconnect reason) ∉ added
  views : views s'.log = views s.log
  parts : parts s' = parts s
  io : ∀ b ∈ s'.io, b ∈ s.io

theorem same_push {e : Entry} (he : ∀ reason, e ≠ .called (.onDisconnect reason))
    (hviews : ∀ log, CloseReason.views (e :: log) = CloseReason.views log) (s : St Handler) : Same s (s.push e) := by
  refine ⟨⟨[e], rfl, fun reason hmem => ?_⟩, hviews s.log, rfl, fun _ hb => hb⟩
  exact he reason (List.mem_singleton.1 hmem).symm

theorem same_of_log (hlog : s'.log = s.log) (hparts : CloseReason.parts s' = CloseReason.parts s) (hio : ∀ b ∈ s'.io, b ∈ s.io) :
    Same s s' :=
  ⟨⟨[], hlog, fun _ => List.not_mem_nil⟩, by rw [hlog], hparts, hio⟩

theorem Same.inv (h : Same s s') (hs : Inv p s) : Inv p s' := by
  obtain ⟨added, hlog, hadded⟩ := h.log
  obtain ⟨hi, hh, hstate, hid, hpersistent, hlistener, hqueue, hempty, hcont⟩ := by
    simpa only [CloseReason.parts, Prod.mk.injEq] using h.parts
  obtain ⟨hwaits, hasked, hpeer⟩ := by simpa only [CloseReason.views, Prod.mk.injEq] using h.views
  refine ⟨hlog ▸ told_append hadded hs.told, fun hinbound => ?_⟩
  have hlive := hs.live (hi ▸ hinbound)
  refine ⟨⟨hh.trans hlive.attached, hpersistent.trans hlive.polling, hlistener.trans hlive.listener,
    fun b hb => hlive.io b (h.io b hb), ?_, ?_, ?_⟩, ?_⟩
  · rw [hid, hasked]; exact hlive.closeId
  · rw [hempty, hcont, hqueue]; exact hlive.draining
  · rw [hcont, hwaits]; exact hlive.waiting
  · rw [hstate, hasked, hpeer, hempty]; exact hlive.remote

theorem Same.grows (h : Same s s') : Past s s' := by
  obtain ⟨added, hlog, hadded⟩ := h.log
  refine ⟨⟨added, hlog.symm⟩, (congrArg Prod.fst h.parts).trans, fun _ ht => hlog ▸ told_append hadded ht⟩

theorem same_startTimeoutTimer (s : St Handler) : Same s (startTimeoutTimer s) := by
  obtain ⟨e, t, l, heq⟩ := startTimeoutTimer_eq s
  rw [heq]
  exact same_of_log rfl rfl fun _ hb => hb

theorem same_startHeartbeatTimer (s : St Handler) : Same s (startHeartbeatTimer s) := by
  obtain ⟨e, t, heq⟩ := startHeartbeatTimer_eq s
  rw [heq]
  exact same_of_log rfl rfl fun _ hb => hb

/-- in a fair history, every reason told who closed and will -/
structure Follows (p : Continuation → Prop) (s s' : St Handler) : Prop extends Past s s' where
  inv : Fair s'.log → Inv p s → Inv p s'

instance : Std.Refl (Follows p) := ⟨fun s => ⟨Std.Refl.refl s, fun _ => id⟩⟩

instance : IsTrans (St Handler) (Follows p) where
  trans _ _ _ := fun h h' =>
    ⟨IsTrans.trans _ _ _ h.toPast h'.toPast, fun hf hs => h'.inv hf (h.inv (hf.of_suffix h'.log) hs)⟩

theorem Same.follows (h : Same s s') : Follows p s s' := ⟨h.grows, fun _ => h.inv⟩

theorem follows_of_log (hlog : s'.log = s.log) (hparts : parts s' = parts s) (hio : ∀ b ∈ s'.io, b ∈ s.io) : Follows p s s' :=
  (same_of_log hlog hparts hio).follows

/-- only a session with an inbound has to be followed -/
theorem follows_of_live (hp : Past s s') (h : s.session.inbound = true → Fair s'.log → Told s.log → Live p s → Inv p s') :
    Follows p s s' := by
  refine ⟨hp, fun hf hs => ?_⟩
  cases hi : s.session.inbound with
  | true => exact h hi hf hs.told (hs.live hi)
  | false => exact inv_of_gone (hp.silent hi hs.told) (hp.inbound hi)

/-! ## The ways to the end -/

theorem inv_onDisconnect (n : ℕ) (ht : Told s.log) (h : s.session.inbound = true → Tells reason s.log)
    (hf : Fair (Session.onDisconnect (app n) reason s).2.log) : Inv p (Session.onDisconnect (app n) reason s).2 := by
  obtain ⟨s', hs'⟩ := onDisconnect_app n reason s
  have htold := told_onDisconnect n ht h hf.undisturbed
  rw [hs'] at htold ⊢
  exact inv_of_gone htold (onDisconnect_ok hs')

theorem inv_abort (n : ℕ) (ht : Told s.log) (h : s.session.inbound = true → Owes s) (hf : Fair (abort (app n) s).2.log) :
    Inv p (abort (app n) s).2 :=
  inv_of_gone (told_abort n ht h hf.undisturbed) (onShutdown_inbound n (release s))

theorem along_abort (n : ℕ) : Along (Follows p) (abort (app n)) := fun s =>
  ⟨(past_steps n).calls.abort s, fun hf hs => inv_abort n hs.told (fun hi => (hs.live hi).owes) hf⟩

/-- a session that has no inbound any more, whatever follows -/
theorem follows_of_gone (hp : Past s s') (hi : s.session.inbound = false) : Follows p s s' :=
  follows_of_live hp fun h => by cases hi.symm.trans h

/-- an `onDisconnect` of a session with an inbound is in the history -/
theorem mem_onDisconnect (n : ℕ) (hi : s.session.inbound = true) :
    .called (.onDisconnect reason) ∈ (Session.onDisconnect (app n) reason s).2.log := by
  let begun := (setState .closed (clearHeartbeatTimer (clearTimeoutTimer s))).push (.called (.onDisconnect reason))
  have hbody : Past begun (behave n begun).2 := along_behave (fun m _ => (past_steps m).calls) begun
  unfold Session.onDisconnect
  rw [modify_bind, modify_bind, get_bind,
    if_pos (show (clearHeartbeatTimer (clearTimeoutTimer s)).session.inbound = true from hi),
    notify_app]
  exact List.mem_cons_of_mem _ (hbody.log.subset List.mem_cons_self)

/-! ## A message -/

/-- a frame that the handler took; without a response to write to it is in the buffer -/
structure Sent (p : Continuation → Prop) (s s' : St Handler) : Prop where
  connected : Connected p s'
  told : Told s.log → Told s'.log
  session : s'.session.inbound = s.session.inbound ∧ s'.session.state = s.session.state
  empties : s'.handler.disconnectWhenEmpty = s.handler.disconnectWhenEmpty
  asked : askedToClose s'.log = askedToClose s.log
  peer : peerClosed s'.log = peerClosed s.log
  buffered : s.handler.continuation = none → s'.handler.continuation = none ∧ s'.handler.buffer.queue ≠ []

theorem Sent.live (h : Sent p s s') (hs : Live p s) : Live p s' := by
  refine ⟨h.connected, ?_⟩
  rw [h.session.2, h.empties, h.asked, h.peer]
  exact hs.remote

theorem Sent.inv (h : Sent p s s') (ht : Told s.log) (hs : Live p s) : Inv p s' := ⟨h.told ht, fun _ => h.live hs⟩

theorem Connected.nextWriteFails (h : Connected p s) : s.nextWriteFails = false := nextWriteFails_of_io h.io

/-- a frame for the open response; a parked poll is completed -/
theorem Connected.sent_now (hp : ∀ c, p c → c.initial = true ∨ c.suspended = true) (h : Connected p s) {cont : Continuation}
    (hcont : s.handler.continuation = some cont)
    (hopen : s.handler.is_open = true) (n : ℕ) (f : SocketIOFrame) :
    ∃ s', sendMessage (app n) f s = (.ok (), s') ∧ Sent p s s' := by
  let s₁ : St Handler := setBuffer s.handler.buffer.drainMessages.2 (s.push (.frame f))
  have hnow : sendMessage (app n) f s = sendNow cont (joined s f) s₁ :=
    (sendMessage_open hopen).trans (deliver_now (s := s.push (.frame f)) hcont)
  have hnotempty : s.handler.disconnectWhenEmpty = true → s.handler.continuation = none := fun he => (h.draining he).1
  have hio : ∀ b ∈ s.io.tail, b = false := fun b hb => h.io b (List.mem_of_mem_tail hb)
  have htold : ∀ data failed, Told s.log → Told (.wrote data failed :: .frame f :: s.log) := fun _ _ ht =>
    told_cons nofun (told_cons nofun ht)
  rw [hnow, sendNow_ok (s := s₁) h.nextWriteFails]
  by_cases hpoll : (!s₁.handler.persistent && !cont.initial) = true
  · have hsuspended : cont.suspended = true := by
      refine (hp cont (h.waiting cont hcont).2).resolve_left fun hinitial => ?_
      rw [hinitial, Bool.not_true, Bool.and_false] at hpoll
      cases hpoll
    rw [if_pos hpoll]
    unfold complete
    rw [if_pos hsuspended]
    refine ⟨_, rfl, ⟨h.attached, h.polling, h.listener, hio, h.closeId, fun he => ?_, nofun⟩, fun ht => ?_, ⟨rfl, rfl⟩, rfl,
      rfl, rfl, fun hno => ?_⟩
    · cases hcont.symm.trans (hnotempty he)
    · exact told_cons nofun (htold _ _ ht)
    · cases hcont.symm.trans hno
  · rw [if_neg hpoll]
    obtain ⟨e, t, heq⟩ := startHeartbeatTimer_eq (written (joined s f) s₁)
    rw [heq]
    refine ⟨_, rfl, ⟨h.attached, h.polling, h.listener, hio, h.closeId, fun he => ?_, h.waiting⟩, htold _ _, ⟨rfl, rfl⟩,
      rfl, rfl, rfl, fun hno => ?_⟩
    · cases hcont.symm.trans (hnotempty he)
    · cases hcont.symm.trans hno

/-- a frame for the buffer -/
theorem Connected.sent_later (h : Connected p s) (hcont : s.handler.continuation = none) (hopen : s.handler.is_open = true)
    (n : ℕ) {f : SocketIOFrame} (hput : (s.handler.buffer.putMessage (f.encode s.handler.endpoint)).1 = true) :
    ∃ s', sendMessage (app n) f s = (.ok (), s') ∧ Sent p s s' := by
  have hbuffer := TransportBuffer.putMessage_of_le h.listener ((TransportBuffer.putMessage_fits h.listener).1 hput)
  have hlater : sendMessage (app n) f s =
      (.ok (), setBuffer (s.handler.buffer.putMessage (f.encode s.handler.endpoint)).2 (s.push (.frame f))) :=
    ((sendMessage_open hopen).trans (deliver_later (s := s.push (.frame f)) hcont)).trans
      (sendLater_ok (s := s.push (.frame f)) hput)
  rw [hlater, hbuffer]
  have hqueue : s.handler.buffer.queue ++ [f.encode s.handler.endpoint] ≠ [] :=
    List.append_ne_nil_of_right_ne_nil _ (List.cons_ne_nil _ _)
  refine ⟨_, rfl, ⟨h.attached, h.polling, h.listener, h.io, h.closeId, fun _ => ⟨hcont, hqueue⟩, h.waiting⟩, told_cons nofun,
    ⟨rfl, rfl⟩, rfl, rfl, rfl, fun _ => ⟨hcont, hqueue⟩⟩

/-- a full buffer is an end by TIMEOUT -/
theorem mem_sendLater (n : ℕ) {data : JString} (hi : s.session.inbound = true)
    (h : ¬ (s.handler.buffer.putMessage data).1 = true) :
    .called (.onDisconnect .timeout) ∈ (sendLater (app n) data s).2.log := by
  let full := setBuffer (s.handler.buffer.putMessage data).2 s
  have hmem : .called (.onDisconnect .timeout) ∈ (Session.onDisconnect (app n) .timeout full).2.log :=
    mem_onDisconnect n (s := full) hi
  obtain ⟨s', hs'⟩ := onDisconnect_app n .timeout full
  rw [hs'] at hmem
  have hrest : Along Past (do abort (app n); raise .socketIOException : M Handler Unit) :=
    (past_steps n).calls.abort.bind fun _ => along_stop _
  unfold sendLater
  rw [get_bind, modify_bind, Bool.eq_false_iff.2 h]
  change _ ∈ ((do Session.onDisconnect (app n) .timeout; abort (app n); raise .socketIOException : M Handler Unit) full).2.log
  rw [bind_of_ok hs']
  exact (hrest s').log.subset hmem

/-- **One message** is refused by a closed handler, taken, or finds the buffer full, which is an end by TIMEOUT. -/
theorem Connected.sendMessage_cases (hp : ∀ c, p c → c.initial = true ∨ c.suspended = true) (h : Connected p s)
    (hi : s.session.inbound = true) (n : ℕ) (f : SocketIOFrame) :
    sendMessage (app n) f s = (.error (.thrown .socketIOClosedException), s.push (.frame f)) ∨
      (∃ s', sendMessage (app n) f s = (.ok (), s') ∧ Sent p s s') ∨
      .called (.onDisconnect .timeout) ∈ (sendMessage (app n) f s).2.log := by
  cases hopen : s.handler.is_open with
  | false => exact .inl (sendMessage_closed hopen)
  | true =>
    right
    cases hcont : s.handler.continuation with
    | some cont => exact .inl (h.sent_now hp hcont hopen n f)
    | none =>
      by_cases hput : (s.handler.buffer.putMessage (f.encode s.handler.endpoint)).1 = true
      · exact .inl (h.sent_later hcont hopen n hput)
      · right
        have hlater : sendMessage (app n) f s = sendLater (app n) (f.encode s.handler.endpoint) (s.push (.frame f)) :=
          (sendMessage_open hopen).trans (deliver_later (s := s.push (.frame f)) hcont)
        rw [hlater]
        exact mem_sendLater n (s := s.push (.frame f)) hi hput

section

variable (hp : ∀ c, p c → c.initial = true ∨ c.suspended = true)
include hp

/-- **One message** -/
theorem follows_sendMessage (n : ℕ) (f : SocketIOFrame) (hpast : Past s (sendMessage (app n) f s).2) :
    Follows p s (sendMessage (app n) f s).2 := by
  refine follows_of_live hpast fun hi hf ht hs => ?_
  rcases hs.sendMessage_cases hp hi n f with hr | ⟨s', hr, hsent⟩ | htimeout
  · have hnoted : Same s (s.push (.frame f)) := same_push (e := .frame f) nofun (fun _ => rfl) s
    rw [hr]
    exact hnoted.inv ⟨ht, fun _ => hs⟩
  · rw [hr]
    exact hsent.inv ht hs
  · exact absurd htimeout hf.undisturbed.timeout

/-! ## The methods of the session -/

omit hp in
theorem follows_startClose (s : St Handler) : Follows p s (initiateClose s) := by
  refine follows_of_live (past_updates.startClose s) fun _ _ ht hs => ?_
  have htold : Told (initiateClose s).log := told_cons nofun (told_cons nofun ht)
  refine ⟨htold, fun _ => ⟨⟨hs.attached, hs.polling, hs.listener, hs.io, fun d hd => ?_, hs.draining, hs.waiting⟩, ?_⟩⟩
  · cases hd
    exact ⟨rfl, rfl⟩
  · intro _ hno
    cases hno

theorem sends (n : ℕ) : Sends (Follows p) (app n : Callback Handler) where
  send s f hf := follows_sendMessage hp n f ((past_steps n).calls.send s f hf)
  abort := along_abort n
  isOpen := along_get.bind fun _ => along_pure _
  startClose := follows_startClose

/-- a call of the application other than `disconnect()` -/
theorem along_outbound (n : ℕ) (c : OutboundCall) : Along (Follows p) (Session.outbound (app n : Callback Handler) c) := by
  refine fun s => derefHandler_related fun _ => ?_
  rw [modify_bind]
  let s₁ := s.push (.outbound c (TransportHandler.refuses s closeFrame))
  have hpushed : Follows p s s₁ :=
    (same_push (e := .outbound c (TransportHandler.refuses s closeFrame)) nofun (fun _ => rfl) s).follows
  refine IsTrans.trans _ _ _ hpushed ?_
  cases c with
  | disconnect =>
    have hpast : Past s₁ (disconnect (app n) s₁).2 := (past_steps n).calls.disconnect s₁
    refine ⟨hpast, fun hf _ => ?_⟩
    exact absurd (hpast.log.subset List.mem_cons_self) (hf.undisturbed.disconnect _)
  | close => exact (sends hp n).along_startClose s₁
  | sendMessage message => exact (sends hp n).along_sendTyped _ _ s₁
  | sendTyped messageType message => exact (sends hp n).along_sendTyped _ _ s₁
  | emitMessage key message => exact (sends hp n).along_sendTyped _ _ s₁

/-- a callback other than `onDisconnect` -/
theorem along_call (n : ℕ) (c : InboundCall) (hc : Ordinary c) : Along (Follows p) (app n c : M Handler (List JString)) := by
  have hcalled : ∀ s : St Handler, Follows p s (s.push (.called c)) := fun s =>
    (same_push (fun reason heq => hc reason (Entry.called.inj heq)) (fun _ => rfl) s).follows
  have hreturned : ∀ s : St Handler, Follows p s (s.push (.returned c)) := fun s =>
    (same_push (e := .returned c) nofun (fun _ => rfl) s).follows
  refine (along_modify hcalled).bind fun _ => Along.ending ?_ hreturned
  exact along_behave_of (fun _ _ _ => follows_of_log rfl rfl fun _ hb => hb) fun m _ => along_outbound hp m

/-! ### A CLOSE frame -/

omit hp in
theorem past_close (n : ℕ) (data : JString) : Along Past (Session.onClose (app n : Callback Handler) data) :=
  (past_steps n).closes.along_onClose data

/-- a CLOSE frame in state CLOSING: the session's own one has come back, or it is answered -/
theorem follows_onClose_closing (n : ℕ) (data : JString) (hstate : s.session.state = .closing) :
    Follows p s (Session.onClose (app n) data s).2 := by
  refine follows_of_live (past_close n data s) fun _ hf ht hs => ?_
  unfold Session.onClose at hf ⊢
  rw [get_bind, if_pos hstate, modify_bind] at hf ⊢
  let s₁ := s.push (.onClose .closing data)
  have ht₁ : Told s₁.log := told_cons nofun ht
  by_cases hid : s.session.closeId = some data
  · rw [if_pos hid, modify_bind] at hf ⊢
    obtain ⟨hdata, hasked⟩ := hs.closeId data hid
    let s₂ := setState .closed s₁
    have htells : Tells .closed s₂.log := by
      refine ⟨fun _ => ⟨s.log, ?_, hasked⟩, fun _ hno => ?_⟩
      · rw [← hdata]
        exact List.suffix_cons _ _
      · cases hasked.symm.trans hno
    have hrest : Along (Follows p) (do derefHandler; abort (app n) : M Handler Unit) :=
      along_derefHandler.bind fun _ => along_abort n
    have hended := inv_onDisconnect (p := p) n (s := s₂) (told_cons nofun ht₁) fun _ => htells
    obtain ⟨s₃, hs₃⟩ := onDisconnect_app n .closed s₂
    rw [hs₃] at hended
    rw [bind_of_ok hs₃] at hf ⊢
    exact (hrest s₃).inv hf (hended (hf.of_suffix (hrest s₃).log))
  · rw [if_neg hid] at hf ⊢
    have hlive : Live p s₁ :=
      ⟨⟨hs.attached, hs.polling, hs.listener, hs.io, hs.closeId, hs.draining, hs.waiting⟩,
        fun _ hno => hs.remote (.inl hstate) hno⟩
    have hanswer : Follows p s₁ (sendOrAbort (app n) (.new .close 0 data) s₁).2 :=
      sendOrAbort_related (fun hh => (sends hp n).send _ _ (sendable_close rfl hh hstate)) (along_abort n)
    exact hanswer.inv hf ⟨ht₁, fun _ => hlive⟩

omit hp in
/-- the answer to a CLOSE frame is in the buffer, if no response was there to write it to -/
theorem inv_answered {data : JString} (hs : Live p s) (ht : Told s.log)
    (hsent : Sent p (setState .closing (s.push (.onClose s.session.state data))) s') (hwaits : waits s.log = false) :
    Inv p { s' with handler.disconnectWhenEmpty := true } := by
  have hnone : s.handler.continuation = none := by
    cases hc : s.handler.continuation with
    | none => rfl
    | some c => cases hwaits.symm.trans (hs.waiting c hc).1
  have ht' : Told s'.log := hsent.told (told_cons nofun (told_cons nofun ht))
  have hconnected : Connected p { s' with handler.disconnectWhenEmpty := true } :=
    { hsent.connected with draining := fun _ => hsent.buffered hnone }
  exact ⟨ht', fun _ => ⟨hconnected, fun _ _ => ⟨hsent.session.2, rfl⟩⟩⟩

/-- a CLOSE frame in another state: it is answered, and `disconnectWhenEmpty` is set -/
theorem follows_onClose_first (n : ℕ) (data : JString) (hstate : s.session.state ≠ .closing) :
    Follows p s (Session.onClose (app n) data s).2 := by
  refine follows_of_live (past_close n data s) fun hi hf ht hs => ?_
  unfold Session.onClose at hf ⊢
  rw [get_bind, if_neg hstate, modify_bind] at hf ⊢
  let s₁ := setState .closing (s.push (.onClose s.session.state data))
  let f : SocketIOFrame := .new .close 0 data
  let rest : M Handler Unit := do
    derefHandler
    TransportHandler.disconnectWhenEmpty
    if data = str "client" then Session.onDisconnect (app n) .closedRemotely
  let recover : M Handler Unit := do derefHandler; abort (app n)
  let body : M Handler Unit := do sendMessage (app n) f; rest
  have hrun : catching Abrupt.isSocketIOException (do derefHandler; body) recover s₁ =
      catching Abrupt.isSocketIOException body recover s₁ := catching_of_eq (derefHandler_bind (s := s₁) hs.attached _) _ _
  change Inv p (catching Abrupt.isSocketIOException (do derefHandler; body) recover s₁).2
  change Fair (catching Abrupt.isSocketIOException (do derefHandler; body) recover s₁).2.log at hf
  rw [hrun] at hf ⊢
  have ht₁ : Told s₁.log := told_cons nofun (told_cons nofun ht)
  have hconnected : Connected p s₁ := ⟨hs.attached, hs.polling, hs.listener, hs.io, hs.closeId, hs.draining, hs.waiting⟩
  have howes : Owes (s₁.push (.frame f)) := ⟨hs.owes.closeId, fun _ _ => rfl⟩
  have hpastFlag : Along Past (TransportHandler.disconnectWhenEmpty : M Handler Unit) :=
    along_modify fun _ => past_of_log rfl rfl
  have hpastRest : Along Past rest := by
    refine along_derefHandler.bind fun _ => hpastFlag.bind fun _ => ?_
    exact Along.ite (fun _ => (past_serving n).along_onDisconnect _) fun _ => along_pure _
  have hpastRecover : Along Past recover := along_derefHandler.bind fun _ => (past_steps n).calls.abort
  rcases hconnected.sendMessage_cases hp hi n f with hr | ⟨s₂, hr, hsent⟩ | htimeout
  · -- the handler is closed
    have hbody : body s₁ = (.error (.thrown .socketIOClosedException), s₁.push (.frame f)) := bind_of_error hr _
    have hrecover : catching Abrupt.isSocketIOException body recover s₁ = abort (app n) (s₁.push (.frame f)) :=
      (catching_of_error hbody _ _).trans ((if_pos rfl).trans (derefHandler_bind (s := s₁.push (.frame f)) hs.attached _))
    rw [hrecover] at hf ⊢
    exact inv_abort n (told_cons nofun ht₁) (fun _ => howes) hf
  · have hbody : body s₁ = rest s₂ := bind_of_ok hr _
    let s₃ : St Handler := { s₂ with handler.disconnectWhenEmpty := true }
    have hpastSent : s₁.log <:+ s₂.log := by
      have hsend := (past_steps n).calls.send s₁ f (sendable_close rfl hs.attached rfl)
      rw [show TransportHandler.sendMessage (app n) f s₁ = (.ok (), s₂) from hr] at hsend
      exact hsend.log
    have hderef : rest s₂ = (if data = str "client" then Session.onDisconnect (app n) .closedRemotely else pure ()) s₃ :=
      derefHandler_bind hsent.connected.attached _
    by_cases hclient : data = str "client"
    · obtain ⟨s₄, hs₄⟩ := onDisconnect_app n .closedRemotely s₃
      have hresult : catching Abrupt.isSocketIOException body recover s₁ = (.ok (), s₄) :=
        catching_of_ok ((hbody.trans hderef).trans ((congrFun (if_pos hclient) _).trans hs₄)) _ _
      have hremotely : Tells .closedRemotely s₃.log := ⟨nofun, fun _ _ => rfl⟩
      have hended := inv_onDisconnect (p := p) n (s := s₃) (hsent.told ht₁) fun _ => hremotely
      rw [hresult] at hf ⊢
      rw [hs₄] at hended
      exact hended hf
    · have hresult : catching Abrupt.isSocketIOException body recover s₁ = (.ok (), s₃) :=
        catching_of_ok ((hbody.trans hderef).trans (congrFun (if_neg hclient) _)) _ _
      rw [hresult] at hf ⊢
      refine inv_answered hs ht hsent (hf.unpolled s.session.state data s.log ?_ hstate hclient)
      exact (List.suffix_cons _ _).trans hpastSent
  · have hgrows : Past (sendMessage (app n) f s₁).2 (catching Abrupt.isSocketIOException body recover s₁).2 :=
      catching_related (bind_related (Std.Refl.refl _) fun _ => hpastRest) hpastRecover
    exact absurd (hgrows.log.subset htimeout) hf.undisturbed.timeout

theorem along_onClose (n : ℕ) (data : JString) : Along (Follows p) (Session.onClose (app n : Callback Handler) data) := by
  intro s
  by_cases hstate : s.session.state = .closing
  · exact follows_onClose_closing hp n data hstate
  · exact follows_onClose_first hp n data hstate

theorem frames (n : ℕ) : Frames (Follows p) (app n : Callback Handler) := by
  refine (sends hp n).frames (along_onClose hp n) (fun s c hc _ => along_call hp n c hc s) (fun _ => ?_) (fun s f _ => ?_)
    (fun s names => ?_) fun s f _ => ?_
  · exact along_modify fun _ => follows_of_log rfl rfl fun _ hb => hb
  · exact (same_push (e := .received f) nofun (fun _ => rfl) s).follows
  · exact (same_push (e := .listed names) nofun (fun _ => rfl) s).follows
  · have hreceived : Follows p s (s.push (.received f)) := (same_push (e := .received f) nofun (fun _ => rfl) s).follows
    have hpong : Follows p (s.push (.received f)) (onPong (s.push (.received f))) := follows_of_log rfl rfl fun _ hb => hb
    exact IsTrans.trans _ _ _ hreceived (IsTrans.trans _ _ _ hpong (same_startHeartbeatTimer _).follows)

end

/-! ## The requests of the container -/

theorem along_write : Along (Follows p) (write : M Handler Unit) :=
  along_write_of fun _ => follows_of_log rfl rfl fun _ hb => List.mem_of_mem_tail hb

theorem follows_startTimeout {e : Entry} (he : ∀ reason, e ≠ .called (.onDisconnect reason))
    (hviews : ∀ log, views (e :: log) = views log) (s : St Handler) : Follows p s (startTimeoutTimer (s.push e)) :=
  IsTrans.trans _ _ _ (same_push he hviews s).follows (same_startTimeoutTimer _).follows

/-- the past of a request, whatever comes of it -/
theorem past_host (n : ℕ) : JettyTraversal.Http.Host Past (app n : Callback Handler) :=
  JettyTraversal.Http.host (past_serving n)

/-- a GET that finds messages ends a session whose peer has closed -/
theorem follows_answer (n : ℕ) (s : St Handler) : Follows Parked s (answer (app n) s).2 := by
  refine follows_of_live ((past_host n).along_answer s) fun hi hf ht hs => ?_
  rw [answer_ok (app n) hs.io] at hf ⊢
  let s₁ := handedOver s
  let s₂ : St Handler := { s₁ with io := s₁.io.tail }
  have hio : ∀ b ∈ s₁.io, b = false := fun b hb => hs.io b (List.mem_of_mem_tail (List.mem_of_mem_tail hb))
  have ht₁ : Told s₁.log := told_cons nofun ht
  unfold answered at hf ⊢
  rw [bind_of_ok (write_ok (s := s₁) (nextWriteFails_of_io hio)), get_bind] at hf ⊢
  cases hempty : s.handler.disconnectWhenEmpty with
  | false =>
    have hno : (!s₂.handler.disconnectWhenEmpty) = true := by
      change (!s.handler.disconnectWhenEmpty) = true
      rw [hempty]
      rfl
    rw [if_pos hno] at hf ⊢
    have hlive : Live Parked s₂ :=
      ⟨⟨hs.attached, hs.polling, hs.listener, fun b hb => hio b (List.mem_of_mem_tail hb), hs.closeId,
        fun he => absurd (hempty.symm.trans he) Bool.false_ne_true, hs.waiting⟩, hs.remote⟩
    exact (follows_startTimeout (e := .answered) nofun (fun _ => rfl) s₂).inv hf ⟨ht₁, fun _ => hlive⟩
  | true =>
    have hyes : ¬ (!s₂.handler.disconnectWhenEmpty) = true := by
      change ¬ (!s.handler.disconnectWhenEmpty) = true
      rw [hempty]
      exact Bool.false_ne_true
    rw [if_neg hyes] at hf ⊢
    exact inv_abort n (s := s₂) ht₁ (fun _ => ⟨hs.owes.closeId, hs.owes.remote⟩) hf

theorem follows_park (hp : Past s (park s).2) (hbuffer : s.handler.buffer.isEmpty = true) : Follows Parked s (park s).2 := by
  refine follows_of_live hp fun _ hf ht hs => ?_
  let s₁ := suspend (getContinuation (clearTimeoutTimer (s.push .parked)))
  have hempty : s.handler.buffer.queue = [] := List.isEmpty_iff.1 hbuffer
  have hlive : Live Parked s₁ := by
    refine ⟨⟨hs.attached, hs.polling, hs.listener, hs.io, hs.closeId, fun he => ?_, fun c hc => ?_⟩, hs.remote⟩
    · exact absurd hempty (hs.draining he).2
    · cases hc
      exact ⟨rfl, rfl⟩
  exact (along_write s₁).inv hf ⟨told_cons nofun ht, fun _ => hlive⟩

theorem follows_endDispatch (s : St Handler) : Follows Parked s (endDispatch s) := by
  refine follows_of_live (past_of_log rfl rfl) fun _ _ ht hs => ⟨ht, fun _ => ⟨⟨hs.attached, hs.polling, hs.listener, hs.io,
    hs.closeId, fun he => ?_, fun c hc => ?_⟩, hs.remote⟩⟩
  · obtain ⟨hnone, hqueue⟩ := hs.draining he
    refine ⟨?_, hqueue⟩
    change s.handler.continuation.map _ = none
    rw [hnone]
    rfl
  · obtain ⟨c', hc', rfl⟩ := Option.map_eq_some_iff.1 hc
    exact hs.waiting c' hc'

theorem inv_terminate (n : ℕ) (ht : Told s.log) (h : s.session.inbound = true → Tells reason s.log)
    (hf : Fair (terminate (app n) reason s).2.log) : Inv p (terminate (app n) reason s).2 := by
  obtain ⟨s', hs'⟩ := onDisconnect_app n reason s
  have hended := inv_onDisconnect (p := p) n ht h
  rw [hs'] at hended
  unfold terminate at hf ⊢
  rw [bind_of_ok hs'] at hf ⊢
  exact (along_abort n s').inv hf (hended (hf.of_suffix (along_abort (p := p) n s').log))

/-- at the end of a POST a session with an inbound and `disconnectWhenEmpty` has its answer in the buffer -/
theorem along_closeCheck (n : ℕ) : Along (Follows Parked) (closeCheck (app n)) := by
  refine fun s => follows_of_live ((past_host n).along_closeCheck s) fun _ _ ht hs => ?_
  have hno : ¬ (s.handler.disconnectWhenEmpty && s.handler.buffer.isEmpty) = true := by
    intro h
    obtain ⟨hempties, hbuffer⟩ := Bool.and_eq_true_iff.1 h
    exact (hs.draining hempties).2 (List.isEmpty_iff.1 hbuffer)
  unfold closeCheck
  rw [get_bind, if_neg hno]
  exact ⟨ht, fun _ => hs⟩

/-- the poll is gone; a session that the peer has closed had none -/
theorem Live.released (h : Live Parked s) {c : Continuation} (hc : s.handler.continuation = some c) :
    Live Parked (setContinuation none (s.push .released)) := by
  refine ⟨⟨h.attached, h.polling, h.listener, h.io, h.closeId, fun he => ?_, nofun⟩, h.remote⟩
  cases hc.symm.trans (h.draining he).1

theorem along_onComplete (n cont : ℕ) : Along (Follows Parked) (onComplete (app n) cont) := by
  refine fun s => follows_of_live ((past_host n).along_onComplete cont s) fun _ hf ht hs => ?_
  rcases onComplete_cases (app n) cont s with ⟨-, heq⟩ | ⟨hid, hwaits⟩
  · rw [heq]; exact ⟨ht, fun _ => hs⟩
  · obtain ⟨c, hc, -⟩ := Option.map_eq_some_iff.1 hid
    rcases hwaits with ⟨hp, -⟩ | ⟨-, ⟨hempties, -⟩ | ⟨-, ⟨-, heq⟩ | ⟨-, heq⟩⟩⟩
    · cases hs.polling.symm.trans hp
    · cases hc.symm.trans (hs.draining hempties).1
    · rw [heq] at hf ⊢
      exact inv_terminate n (s := setContinuation none s) ht (fun _ => hs.tells hc (by decide)) hf
    · have hstart := (same_startTimeoutTimer (setContinuation none (s.push .released))).inv (p := Parked)
      rw [heq]; exact hstart ⟨told_cons nofun ht, fun _ => hs.released hc⟩

/-- a poll that the container releases -/
theorem inv_expirePoll (n : ℕ) (ht : Told s.log) (hs : Live Parked s) {c : Continuation} (hc : s.handler.continuation = some c)
    (hf : Fair (expirePoll (app n) (setContinuation none (s.push .released))).2.log) :
    Inv Parked (expirePoll (app n) (setContinuation none (s.push .released))).2 := by
  let s₁ := setContinuation none (s.push .released)
  have ht₁ : Told s₁.log := told_cons nofun ht
  rcases expirePoll_cases (app n) s₁ with ⟨-, heq⟩ | ⟨-, heq⟩
  · have htells : Tells .disconnect s₁.log := ⟨nofun, (hs.tells hc (by decide)).remotely⟩
    rw [heq] at hf ⊢
    exact inv_terminate n ht₁ (fun _ => htells) hf
  · have hwritten : catching Abrupt.isIOException write (terminate (app n) .disconnect) s₁ =
        (.ok (), { s₁ with io := s₁.io.tail }) :=
      catching_of_ok (write_ok (s := s₁) hs.toConnected.nextWriteFails) _ _
    have hsame : Same s₁ { s₁ with io := s₁.io.tail } := same_of_log rfl rfl fun _ hb => List.mem_of_mem_tail hb
    rw [heq, hwritten]
    exact hsame.inv ⟨ht₁, fun _ => hs.released hc⟩

theorem along_onTimeoutContinuation (n cont : ℕ) : Along (Follows Parked) (onTimeoutContinuation (app n) cont) := by
  refine fun s => follows_of_live ((past_host n).along_onTimeoutContinuation cont s) fun _ hf ht hs => ?_
  rcases onTimeoutContinuation_cases (app n) cont s with ⟨-, heq⟩ | ⟨hid, ⟨hp, -⟩ | ⟨-, heq⟩⟩
  · rw [heq]; exact ⟨ht, fun _ => hs⟩
  · cases hs.polling.symm.trans hp
  · obtain ⟨c, hc, -⟩ := Option.map_eq_some_iff.1 hid
    have hstart : Along (Follows Parked) (modify startTimeoutTimer : M Handler Unit) :=
      along_modify fun s => (same_startTimeoutTimer s).follows
    have hexpire := inv_expirePoll n ht hs hc
    rw [heq] at hf ⊢
    rcases hr : expirePoll (app n) (setContinuation none (s.push .released)) with ⟨r, s₂⟩
    rw [hr] at hexpire
    cases r with
    | ok u =>
      rw [bind_of_ok hr] at hf ⊢
      exact (hstart s₂).inv hf (hexpire (hf.of_suffix (hstart s₂).log))
    | error e =>
      rw [bind_of_error hr] at hf ⊢
      exact hexpire hf

theorem requests (n : ℕ) : Requests (Follows Parked) (app n : Callback Handler) where
  frames := frames parked_or n
  responded s status := (same_push (e := .responded status) nofun (fun _ => rfl) s).follows
  answer s _ _ := follows_answer n s
  park s _ _ hbuffer := follows_park ((past_host n).along_park s) hbuffer
  endDispatch := follows_endDispatch
  closeCheck := along_closeCheck n
  onComplete := along_onComplete n
  shutdown s hh := by
    refine follows_of_live ((past_serving n).along_onShutdown s) fun _ _ _ hs => ?_
    cases hh.symm.trans hs.attached

/-! ### The connect request -/

theorem past_finish (n : ℕ) : Along Past (finish : M Handler Unit) := (past_host n).along_finish

theorem finish_live (ht : Told s.log) (hs : Live Initial s) : Inv Parked (finish s).2 := by
  rw [finish_ok hs.toConnected.nextWriteFails hs.polling]
  refine ⟨told_cons nofun ht, fun _ => ⟨⟨hs.attached, hs.polling, hs.listener, fun b hb => hs.io b (List.mem_of_mem_tail hb),
    hs.closeId, fun he => ⟨rfl, (hs.draining he).2⟩, nofun⟩, hs.remote⟩⟩

/-- another connect request: the session is aborted -/
theorem follows_connect (n : ℕ) (s : St Handler) : Follows Parked s (connect (app n) s).2 := by
  refine follows_of_live (past_serve n .connect s) fun _ hf ht hs => ?_
  rw [connect_ok (app n) hs.toConnected.nextWriteFails] at hf ⊢
  let s₁ := attaching s
  have hagain : Session.onConnect (app n) true s₁ = abort (app n) s₁ := onConnect_again (app n) (s := s₁) hs.attached
  have hrest : Past (abort (app n) s₁).2 (endDispatch ((do Session.onConnect (app n) true; finish : M Handler Unit) s₁).2) := by
    have hbody : Past (Session.onConnect (app n) true s₁).2 ((do Session.onConnect (app n) true; finish : M Handler Unit) s₁).2 :=
      bind_related (Std.Refl.refl _) fun _ => past_finish n
    rw [hagain] at hbody
    exact IsTrans.trans _ _ _ hbody (past_of_log rfl rfl)
  have hended : Inv Parked (abort (app n) s₁).2 :=
    inv_abort n (s := s₁) ht (fun _ => ⟨hs.owes.closeId, hs.owes.remote⟩) (hf.of_suffix hrest.log)
  exact (follows_of_gone hrest (onShutdown_inbound n (release s₁))).inv hf hended

/-- what the application does sends no CLOSE frame of the peer -/
theorem peerClosed_behave (n : ℕ) (s : St Handler) : peerClosed (behave n s).2.log = peerClosed s.log := by
  obtain ⟨added, hlog, hadded⟩ := (JettyTraversal.adds_behave n).1 s
  have hnone : added.any isOnClose = false := by
    rw [List.any_eq_false]
    intro e he hclose
    have houtward := hadded e he
    cases e <;> first | exact houtward | cases hclose
  unfold peerClosed
  rw [hlog, List.any_append, hnone, Bool.false_or]

/-- the application is told of the connection -/
theorem follows_announce (n : ℕ) (hpeer : peerClosed s.log = false) : Follows Initial s (announce (app n) s).2 := by
  have hpast : Past s (announce (app n) s).2 := by
    have hcall : Along Past (app n .onConnect : M Handler (List JString)) :=
      along_app (fun m _ => (past_steps m).calls) (fun _ => past_cons (e := .called .onConnect) nofun rfl rfl) fun _ =>
        past_cons (e := .returned .onConnect) nofun rfl rfl
    refine catching_related (bind_related (hcall s) fun _ => along_pure _) ?_
    exact Along.bind (along_modify past_updates.closed) fun _ => (past_steps n).calls.abort
  refine ⟨hpast, fun hf hs => ?_⟩
  unfold announce at hf ⊢
  have hcall := along_call initial_or n .onConnect ordinary_onConnect s
  have hstill : peerClosed (app n .onConnect s : _ × St Handler).2.log = false := by
    have hbehave := peerClosed_behave n (s.push (.called .onConnect))
    exact hbehave.trans hpeer
  rcases hr : (app n .onConnect : M Handler (List JString)) s with ⟨r, s₁⟩
  rw [hr] at hcall hstill
  cases r with
  | ok names =>
    have hbody : (do let _ ← app n .onConnect : M Handler Unit) s = (.ok (), s₁) := bind_of_ok hr _
    rw [catching_of_ok hbody] at hf ⊢
    exact hcall.inv hf hs
  | error e =>
    have hthrown : e.isThrowable = true := behave_error (congrArg Prod.fst hr)
    have hbody : (do let _ ← app n .onConnect : M Handler Unit) s = (.error e, s₁) := bind_of_error hr _
    rw [catching_of_error hbody, if_pos hthrown, modify_bind] at hf ⊢
    let s₂ := setState .closed s₁
    have hlog : s₁.log <:+ (abort (app n) s₂).2.log := (List.suffix_cons _ _).trans ((past_steps n).calls.abort s₂).log
    have hinv : Inv Initial s₁ := hcall.inv (hf.of_suffix hlog) hs
    refine inv_abort n (s := s₂) (told_cons nofun hinv.told) (fun hi => ⟨(hinv.live hi).owes.closeId, fun hyes _ => ?_⟩) hf
    cases hstill.symm.trans hyes

theorem announce_app (n : ℕ) (s : St Handler) : ∃ s', announce (app n) s = (.ok (), s') := by
  unfold announce
  rcases hr : (app n .onConnect : M Handler (List JString)) s with ⟨r, s₁⟩
  cases r with
  | ok names =>
    have hbody : (do let _ ← app n .onConnect : M Handler Unit) s = (.ok (), s₁) := bind_of_ok hr _
    exact ⟨s₁, catching_of_ok hbody _ _⟩
  | error e =>
    have hthrown : e.isThrowable = true := behave_error (congrArg Prod.fst hr)
    have hbody : (do let _ ← app n .onConnect : M Handler Unit) s = (.error e, s₁) := bind_of_error hr _
    rw [catching_of_error hbody, if_pos hthrown, modify_bind]
    exact onShutdown_app n (release (setState .closed s₁))

/-- a session that waits for its connect request -/
structure Fresh (s : St Handler) : Prop where
  told : Told s.log
  inbound : s.session.inbound = true
  attached : s.session.handler = false
  polling : s.handler.persistent = false
  listener : s.handler.buffer.listener = none
  io : ∀ b ∈ s.io, b = false
  closeId : s.session.closeId = none
  empties : s.handler.disconnectWhenEmpty = false
  continuation : s.handler.continuation = none
  peer : peerClosed s.log = false

theorem Fresh.live_connecting (h : Fresh s) : Live Initial (connecting s) := by
  refine ⟨⟨rfl, h.polling, h.listener, fun b hb => h.io b (List.mem_of_mem_tail hb), fun d hd => ?_, fun he => ?_,
    fun c hc => ?_⟩, fun hclose _ => ?_⟩
  · cases h.closeId.symm.trans hd
  · cases h.empties.symm.trans he
  · cases hc
    exact ⟨rfl, rfl⟩
  · rcases hclose with hstate | hpeer
    · cases hstate
    · cases h.peer.symm.trans hpeer

theorem Fresh.inv_connect (h : Fresh s) (n : ℕ) (hf : Fair (connect (app n) s).2.log) : Inv Parked (connect (app n) s).2 := by
  let rest : M Handler Unit := do announce (app n); finish
  have hrun : (connect (app n) s).2 = endDispatch (rest (connecting s)).2 := by
    have hfirst := onConnect_first (app n) (s := attaching s) h.attached h.inbound
    rw [connect_ok (app n) (nextWriteFails_of_io h.io), bind_of_eq hfirst]
    rfl
  have hannounce := follows_announce n (s := connecting s) h.peer
  have hlive : Inv Initial (connecting s) := ⟨told_cons nofun (told_cons nofun h.told), fun _ => h.live_connecting⟩
  obtain ⟨s₁, hs₁⟩ := announce_app n (connecting s)
  rw [hs₁] at hannounce
  rw [hrun, show rest (connecting s) = finish s₁ from bind_of_ok hs₁ _] at hf ⊢
  have hfinished : s₁.log <:+ (endDispatch (finish s₁).2).log := (past_finish n s₁).log
  have hinv := hannounce.inv (hf.of_suffix hfinished) hlive
  refine (follows_endDispatch _).inv hf ?_
  cases hi : s₁.session.inbound with
  | true => exact finish_live hinv.told (hinv.live hi)
  | false => exact inv_of_gone ((past_finish n s₁).silent hi hinv.told) ((past_finish n s₁).inbound hi)

/-! ## Runs -/

/-- the session waits for its connect request, or its reasons tell who closed -/
def Either (s : St Handler) : Prop := Fresh s ∨ Inv Parked s

structure Goes (s s' : St Handler) : Prop extends Past s s' where
  either : Fair s'.log → Either s → Either s'

instance : Std.Refl Goes := ⟨fun s => ⟨Std.Refl.refl s, fun _ => id⟩⟩

instance : IsTrans (St Handler) Goes where
  trans _ _ _ := fun h h' =>
    ⟨IsTrans.trans _ _ _ h.toPast h'.toPast, fun hf hs => h'.either hf (h.either (hf.of_suffix h'.log) hs)⟩

/-- a step that follows the reasons is looked at before the connect request only -/
theorem goes_of_fresh (h : Follows Parked s s') (hfresh : Fair s'.log → Fresh s → Either s') : Goes s s' :=
  ⟨h.toPast, fun hf hs => hs.elim (hfresh hf) fun hinv => .inr (h.inv hf hinv)⟩

theorem Fresh.shutdown (h : Fresh s) (n : ℕ) (hf : Fair (Session.onShutdown (app n) s).2.log) :
    Either (Session.onShutdown (app n) s).2 := by
  refine .inr (inv_of_gone (told_onShutdown n h.told (fun _ => ⟨fun hid => ?_, fun hpeer => ?_⟩) hf.undisturbed)
    (onShutdown_inbound n s))
  · rw [h.closeId] at hid
    cases hid
  · cases h.peer.symm.trans hpeer

theorem goes_serve (n : ℕ) (e : HttpEvent) : Along Goes (serveHttp (app n) e) := by
  intro s
  have hlater : e ≠ .connect → Follows Parked s (serveHttp (app n) e s).2 := fun he =>
    (requests n).later_related he fun cont _ => along_onTimeoutContinuation n cont s
  cases e with
  | connect => exact goes_of_fresh (follows_connect n s) fun hf h => .inr (h.inv_connect n hf)
  | get =>
    refine goes_of_fresh (hlater (by decide)) fun hf h => ?_
    rw [serveHttp_get, if_neg (by rw [h.attached]; exact Bool.false_ne_true)] at hf ⊢
    exact h.shutdown n hf
  | post decoded =>
    refine goes_of_fresh (hlater nofun) fun hf h => ?_
    rw [serveHttp_post, if_neg (by rw [h.attached]; exact Bool.false_ne_true)] at hf ⊢
    exact h.shutdown n hf
  | onComplete cont =>
    refine goes_of_fresh (hlater nofun) fun _ h => .inl ?_
    rcases onComplete_cases (app n) cont s with ⟨-, heq⟩ | ⟨hid, -⟩
    · change Fresh (onComplete (app n) cont s).2
      rw [heq]; exact h
    · rw [h.continuation] at hid
      cases hid
  | onTimeout cont =>
    refine goes_of_fresh (hlater nofun) fun _ h => .inl ?_
    rcases onTimeoutContinuation_cases (app n) cont s with ⟨-, heq⟩ | ⟨hid, -⟩
    · change Fresh (onTimeoutContinuation (app n) cont s).2
      rw [heq]; exact h
    · rw [h.continuation] at hid
      cases hid

/-- a call of the application finds no outbound before the session is connected -/
theorem goes_outbound (n : ℕ) (c : OutboundCall) : Along Goes (Session.outbound (app n : Callback Handler) c) := by
  refine fun s => goes_of_fresh (along_outbound parked_or n c s) fun _ h => .inl ?_
  unfold Session.outbound
  rw [derefHandler_null h.attached]
  exact h

theorem goes_onTimeout (n : ℕ) : Along Goes (Session.onTimeout (app n : Callback Handler)) := by
  refine fun s => ⟨(past_serving n).along_onTimeout (past_steps n) s, fun hf hs => ?_⟩
  unfold Session.onTimeout at hf ⊢
  rw [get_bind] at hf ⊢
  by_cases htimedout : (!s.session.timedout) = true
  · rw [if_pos htimedout, modify_bind] at hf ⊢
    let s₁ := setState .closed { s with session.timedout := true }
    have hrest : Along Past (do derefHandler; abort (app n) : M Handler Unit) :=
      along_derefHandler.bind fun _ => (past_steps n).calls.abort
    have hpast : Past s₁ ((do Session.onDisconnect (app n) .timeout; derefHandler; abort (app n) : M Handler Unit) s₁).2 :=
      bind_related ((past_serving n).along_onDisconnect .timeout s₁) fun _ => hrest
    have ht : Told s.log → Told s₁.log := told_cons nofun
    cases hi : s.session.inbound with
    | true =>
      have hmem : .called (.onDisconnect .timeout) ∈ (Session.onDisconnect (app n) .timeout s₁).2.log :=
        mem_onDisconnect n (s := s₁) hi
      obtain ⟨s₂, hs₂⟩ := onDisconnect_app n .timeout s₁
      rw [hs₂] at hmem
      rw [bind_of_ok hs₂] at hf
      exact absurd ((hrest s₂).log.subset hmem) hf.undisturbed.timeout
    | false =>
      have htold : Told s.log := hs.elim Fresh.told Inv.told
      exact .inr (inv_of_gone (hpast.silent hi (ht htold)) (hpast.inbound hi))
  · rw [if_neg htimedout]
    exact hs

theorem goes_sendPing (n : ℕ) : Along Goes (Session.sendPing (app n : Callback Handler)) := by
  have hping : Along (Follows Parked) (Session.sendPing (app n : Callback Handler)) :=
    along_sendPing_of (fun _ => follows_of_log rfl rfl fun _ hb => hb) (sends parked_or n) fun s =>
      (same_startTimeoutTimer s).follows
  refine fun s => goes_of_fresh (hping s) fun _ h => .inl ?_
  let s₁ := incrementMessageId s
  let f : SocketIOFrame := .new .heartbeat FrameType.message.value (intToString s₁.session.messageId)
  have hnull : sendOrAbort (app n) f s₁ = (.error (.thrown .nullPointer), s₁) :=
    catching_of_error (derefHandler_null (s := s₁) h.attached _) _ _
  unfold Session.sendPing
  rw [modify_bind, get_bind, bind_of_error hnull]
  exact { h with }

/-- the environment changes, and the clock -/
theorem goes_of_env (hsession : s'.session = s.session) (hhandler : s'.handler = s.handler) (hlog : s'.log = s.log)
    (hio : (∀ b ∈ s.io, b = false) → ∀ b ∈ s'.io, b = false) : Goes s s' := by
  refine ⟨past_of_log hlog (by rw [hsession]), fun _ hs => ?_⟩
  rcases hs with h | h
  · left
    exact ⟨hlog ▸ h.told, hsession ▸ h.inbound, hsession ▸ h.attached, hhandler ▸ h.polling, hhandler ▸ h.listener, hio h.io,
      hsession ▸ h.closeId, hhandler ▸ h.empties, hhandler ▸ h.continuation, hlog ▸ h.peer⟩
  · refine .inr ⟨hlog ▸ h.told, fun hi => ?_⟩
    have hs := h.live (hsession ▸ hi)
    refine ⟨⟨hsession ▸ hs.attached, hhandler ▸ hs.polling, hhandler ▸ hs.listener, hio hs.io, ?_, hhandler ▸ hs.draining,
      ?_⟩, ?_⟩
    · rw [hsession, hlog]; exact hs.closeId
    · rw [hhandler, hlog]; exact hs.waiting
    · rw [hsession, hhandler, hlog]; exact hs.remote

theorem goes_step (s : St Handler) (i : Input HttpEvent) (hio : ∀ b ∈ i.io, b = false) : Goes s (step serveHttp s i) := by
  have hinput : Goes s { s with acts := i.acts, io := i.io } := goes_of_env rfl rfl rfl fun _ => hio
  refine IsTrans.trans _ _ _ hinput ?_
  refine along_perform_of (goes_serve _) (goes_outbound _) (fun _ _ => ?_) (fun kind => ?_) (fun _ _ => ?_) i.event _
  · exact goes_of_env rfl rfl rfl id
  · cases kind with
    | onTimeout => exact goes_onTimeout _
    | sendPing => exact goes_sendPing _
  · exact goes_of_env rfl rfl rfl id

theorem goes_run (s : St Handler) (is : List (Input HttpEvent)) (hio : ∀ i ∈ is, ∀ b ∈ i.io, b = false) :
    Goes s (run serveHttp s is) := run_of_steps (fun s i hi => goes_step s i (hio i hi)) s

theorem fresh_created (config : SocketIOConfig) : Fresh (created config false) where
  told _ _ hp := absurd (List.suffix_nil.1 hp) (List.cons_ne_nil _ _)
  inbound := rfl
  attached := rfl
  polling := rfl
  listener := rfl
  io _ hb := absurd hb List.not_mem_nil
  closeId := rfl
  empties := rfl
  continuation := rfl
  peer := rfl

/-- **The reason tells who closed**, if the peer's CLOSE frames find no poll parked: in every run of a polling session
without failing writes, calls of `disconnect()` and timeouts, `onDisconnect` gets CLOSED only after the application has
called `close()` and a CLOSE frame with the session's closeId "server" has come back; and once the peer has sent a CLOSE
frame, and the application has not called `close()`, the reason is CLOSED_REMOTELY. -/
theorem reason_tells_who_closed (config : SocketIOConfig) (is : List (Input HttpEvent)) (hio : ∀ i ∈ is, ∀ b ∈ i.io, b = false)
    (hundisturbed : Undisturbed (run serveHttp (created config false) is).log)
    (hunpolled : ClosedUnpolled (run serveHttp (created config false) is).log) :
    Told (run serveHttp (created config false) is).log := by
  have hgoes := goes_run (created config false) is hio
  exact (hgoes.either ⟨hundisturbed, hunpolled⟩ (.inl (fresh_created config))).elim Fresh.told Inv.told

/-- a client connects and closes while no poll is parked; the next GET takes the answer -/
def closesBetweenPolls : List (Input HttpEvent) :=
  [⟨.container .connect, [], []⟩, ⟨.container (.post (some (.ok (str "0:::bye")))), [], []⟩, ⟨.container .get, [], []⟩]

theorem reason_tells_who_closed_closesBetweenPolls :
    let log := (run serveHttp (created ⟨none, none, none, none⟩ false) closesBetweenPolls).log
    .called (.onDisconnect .closedRemotely) ∈ log ∧ Told log :=
  ⟨by decide +kernel, reason_tells_who_closed _ closesBetweenPolls (by decide)
    ⟨by decide +kernel, by decide +kernel⟩ (by decide +kernel)⟩

/-- the same with a poll parked -/
def closesDuringPoll : List (Input HttpEvent) :=
  [⟨.container .connect, [], []⟩, ⟨.container .get, [], []⟩, ⟨.container (.post (some (.ok (str "0:::bye")))), [], []⟩]

/-- **A parked poll turns the peer's close into the session's own.** Nobody has called `close()`, the peer sends a CLOSE
frame, and the reason is CLOSED. -/
theorem parked_poll_closed :
    let log := (run serveHttp (created ⟨none, none, none, none⟩ false) closesDuringPoll).log
    Undisturbed log ∧ askedToClose log = false ∧ .called (.onDisconnect .closed) ∈ log ∧ ¬ Told log := by
  intro log
  refine ⟨⟨by decide +kernel, by decide +kernel⟩, by decide +kernel, by decide +kernel, fun h => ?_⟩
  have hpast : .called (.onDisconnect .closed) :: log.drop 3 <:+ log := by decide +kernel
  have hreason := (h .closed _ hpast).remotely (by decide +kernel) (by decide +kernel)
  cases hreason

end SocketIOJava.CloseReason
