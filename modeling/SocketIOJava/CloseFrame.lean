/-
No application data after a CLOSE frame.

A CLOSE frame is passed to the handler from `startClose` and from both branches of `onClose`, always in state CLOSING and
with a handler attached; a frame with a message of the application only in state CONNECTED. CONNECTED is assigned in one
place, the first `onConnect(handler)`, which needs a session without a handler. So the frame seals the session.

- `no_data_after_close`: in every run of a session with either handler, under any order of events and of direct calls of
  the session's methods, no MESSAGE, JSON_MESSAGE or EVENT frame is passed to the handler after a CLOSE frame, and a
  message that the application sends in a later state, also inside a callback, ends in an exception and changes nothing.
-/
import SocketIOJava.Lifecycle

namespace SocketIOJava.CloseFrame

open Program SocketIOJava.Text SocketIOJava.Frame SocketIOJava.Session SocketIOJava.Run SocketIOJava.Traversal
open SocketIOJava.Lifecycle (stateOf)

/-! ## CLOSE frames in the history -/

/-- a CLOSE frame was passed to the handler -/
def ClosePassed (log : List Entry) : Prop := ∃ f, f.frameType = .close ∧ .frame f ∈ log

/-- no message of the application was passed to the handler after a CLOSE frame -/
def NoDataAfterClose (log : List Entry) : Prop := ∀ f past, .frame f :: past <:+ log → IsData f → ¬ ClosePassed past

/-- after a CLOSE frame the session was never CONNECTED -/
def NeverReopened (log : List Entry) : Prop := ∀ past, past <:+ log → ClosePassed past → stateOf past ≠ .connected

/-- an entry that neither is a frame nor assigns the state -/
def Other (e : Entry) : Prop := (∀ f, e ≠ .frame f) ∧ ∀ c, e ≠ .state c

theorem other_of_silent {e : Entry} (h : Silent e) (hf : ∀ f, e ≠ .frame f) : Other e :=
  ⟨hf, fun c hc => by rw [hc] at h; exact h⟩

theorem stateOf_cons {e : Entry} (he : ∀ c, e ≠ .state c) (log : List Entry) : stateOf (e :: log) = stateOf log := by
  cases e <;> first | rfl | exact absurd rfl (he _)

theorem closePassed_cons {e : Entry} (he : ∀ f, f.frameType = .close → e ≠ .frame f) {log : List Entry} :
    ClosePassed (e :: log) ↔ ClosePassed log := by
  constructor
  · intro ⟨f, hf, hmem⟩
    exact ⟨f, hf, (List.mem_cons.1 hmem).resolve_left (he f hf).symm⟩
  · intro ⟨f, hf, hmem⟩
    exact ⟨f, hf, List.mem_cons_of_mem _ hmem⟩

theorem noDataAfterClose_cons {e : Entry} {log : List Entry} (h : NoDataAfterClose log)
    (he : ∀ f, e = .frame f → IsData f → ¬ ClosePassed log) : NoDataAfterClose (e :: log) := by
  intro f past hp hf
  rcases List.suffix_cons_iff.1 hp with hcons | hp
  · obtain ⟨rfl, rfl⟩ := List.cons.inj hcons
    exact he f rfl hf
  · exact h f past hp hf

theorem neverReopened_cons {e : Entry} {log : List Entry} (h : NeverReopened log)
    (he : ClosePassed (e :: log) → stateOf (e :: log) ≠ .connected) : NeverReopened (e :: log) := by
  intro past hp hc
  rcases List.suffix_cons_iff.1 hp with rfl | hp
  · exact he hc
  · exact h past hp hc

/-! ## The invariant -/

section

variable {η : Type}

structure Inv (s : St η) : Prop where
  current : stateOf s.log = s.session.state
  sealed : ClosePassed s.log → s.session.handler = true ∧ s.session.state ≠ .connected
  order : NoDataAfterClose s.log
  never : NeverReopened s.log

def Keeps (s s' : St η) : Prop := Inv s → Inv s'

instance : Std.Refl (Keeps (η := η)) := ⟨fun _ => id⟩

instance : IsTrans (St η) Keeps := ⟨fun _ _ _ h h' => h' ∘ h⟩

theorem keeps_of_same {s s' : St η} (hlog : s'.log = s.log) (hstate : s'.session.state = s.session.state)
    (hhandler : s'.session.handler = s.session.handler) : Keeps s s' := by
  intro h
  refine ⟨?_, ?_, ?_, ?_⟩
  · rw [hlog, hstate]; exact h.current
  · rw [hlog, hstate, hhandler]; exact h.sealed
  · rw [hlog]; exact h.order
  · rw [hlog]; exact h.never

theorem keeps_of_core {s s' : St η} (hs : core s' = core s) : Keeps s s' := by
  simp only [core, Prod.mk.injEq] at hs
  exact keeps_of_same hs.2.2.2 hs.1 hs.2.2.1

theorem keeps_push {e : Entry} (he : Other e) (s : St η) : Keeps s (s.push e) := by
  intro h
  have hstate : stateOf (e :: s.log) = s.session.state := (stateOf_cons he.2 _).trans h.current
  have hclose : ClosePassed (e :: s.log) ↔ ClosePassed s.log := closePassed_cons fun f _ => he.1 f
  refine ⟨hstate, fun hc => h.sealed (hclose.1 hc), ?_, ?_⟩
  · exact noDataAfterClose_cons h.order fun f hf => absurd hf (he.1 f)
  · exact neverReopened_cons h.never fun hc => by rw [hstate]; exact (h.sealed (hclose.1 hc)).2

/-- **A frame keeps the invariant** when it is a CLOSE only in state CLOSING and a message only in state CONNECTED. -/
theorem keeps_frame {s : St η} {f : SocketIOFrame} (hf : Sendable s f) : Keeps s (s.push (.frame f)) := by
  intro h
  have hstate : stateOf (.frame f :: s.log) = s.session.state := (stateOf_cons (e := .frame f) nofun _).trans h.current
  have hsealed : ClosePassed (.frame f :: s.log) → s.session.handler = true ∧ s.session.state ≠ .connected := by
    intro ⟨g, hg, hmem⟩
    rcases List.mem_cons.1 hmem with heq | hpast
    · obtain rfl : g = f := Entry.frame.inj heq
      obtain ⟨hhandler, hclosing⟩ := hf.close hg
      exact ⟨hhandler, by rw [hclosing]; exact nofun⟩
    · exact h.sealed ⟨g, hg, hpast⟩
  refine ⟨hstate, hsealed, ?_, ?_⟩
  · refine noDataAfterClose_cons h.order fun g hg hd hc => ?_
    obtain rfl : f = g := Entry.frame.inj hg
    exact (h.sealed hc).2 (hf.data hd)
  · exact neverReopened_cons h.never fun hc => by rw [hstate]; exact (hsealed hc).2

/-- an assignment of the state, CONNECTED only before any CLOSE frame -/
theorem keeps_setState {s : St η} {c : ConnectionState} (hc : ClosePassed s.log → c ≠ .connected) :
    Keeps s (setState c s) := by
  intro h
  have hclose : ClosePassed (.state c :: s.log) ↔ ClosePassed s.log := closePassed_cons (e := .state c) nofun
  refine ⟨rfl, fun hp => ⟨(h.sealed (hclose.1 hp)).1, hc (hclose.1 hp)⟩, ?_, ?_⟩
  · exact noDataAfterClose_cons h.order nofun
  · exact neverReopened_cons h.never fun hp => hc (hclose.1 hp)

theorem keeps_closing (s : St η) {e : Entry} (he : Other e) : Keeps s (setState .closing (s.push e)) :=
  IsTrans.trans _ _ _ (keeps_push he s) (keeps_setState fun _ => nofun)

variable [TransportHandler η]

/-- `notify` with an application whose calls keep the invariant -/
theorem keeps_notify {n : ℕ} (k : ∀ m < n, Calls Keeps (app m : Callback η)) (s : St η) (reason : DisconnectReason) :
    Keeps s (Session.notify (app n) reason s).2 := by
  have hcall : Along Keeps (app n (.onDisconnect reason) : M η (List JString)) :=
    along_app k (keeps_push (e := .called (.onDisconnect reason)) ⟨nofun, nofun⟩)
      (keeps_push (e := .returned (.onDisconnect reason)) ⟨nofun, nofun⟩)
  exact notify_related hcall (fun _ => keeps_setState fun _ => nofun) (fun _ => keeps_of_same rfl rfl rfl) s

theorem incoming {n : ℕ} (k : ∀ m < n, Calls Keeps (app m : Callback η)) : Incoming Keeps (app n : Callback η) where
  same _ _ := keeps_of_core
  frame _ _ := keeps_frame
  wrote s data failed := keeps_push (e := .wrote data failed) ⟨nofun, nofun⟩ s
  completed s := keeps_push (e := .completed) ⟨nofun, nofun⟩ s
  outbound s c := keeps_push (e := .outbound c (TransportHandler.refuses s closeFrame)) ⟨nofun, nofun⟩ s
  startClose s := IsTrans.trans _ _ _ (keeps_closing s (e := .startClose s.session.state) ⟨nofun, nofun⟩)
    (keeps_of_same rfl rfl rfl)
  removed s _ := IsTrans.trans _ _ _ (keeps_push (e := .removed) ⟨nofun, nofun⟩ s) (keeps_of_same rfl rfl rfl)
  notify s reason _ := keeps_notify k s reason
  silent s _ he hf := keeps_push (other_of_silent he hf) s
  acknowledged s data _ := keeps_push (e := .onClose .closing data) ⟨nofun, nofun⟩ s
  closing s data _ := keeps_closing s (e := .onClose s.session.state data) ⟨nofun, nofun⟩
  closed _ := keeps_setState fun _ => nofun
  call s c _ _ := by
    have hcall : Along Keeps (app n c : M η (List JString)) :=
      (along_modify fun s => keeps_push (e := .called c) ⟨nofun, nofun⟩ s).bind fun _ =>
        (along_behave k).ending fun s => keeps_push (e := .returned c) ⟨nofun, nofun⟩ s
    exact hcall s

omit [TransportHandler η] in
/-- the session is connected once, before a CLOSE frame can have been passed on -/
theorem opens : Opens (Keeps (η := η)) where
  opened s hh _ h := by
    have hnone : ¬ ClosePassed s.log := fun hc => by
      have hattached := (h.sealed hc).1
      rw [hh] at hattached
      cases hattached
    have hpushed : Inv ((attach s).push (.opened s.session.state)) :=
      keeps_push (e := .opened s.session.state) ⟨nofun, nofun⟩ _
        ⟨h.current, fun hc => absurd hc hnone, h.order, h.never⟩
    refine keeps_setState (fun hc => absurd ?_ hnone) hpushed
    exact (closePassed_cons (e := .opened s.session.state) nofun).1 hc
  attached s h := ⟨h.current, fun hc => ⟨rfl, (h.sealed hc).2⟩, h.order, h.never⟩

omit [TransportHandler η] in
theorem inv_initial {s : St η} (hlog : s.log = []) (hstate : s.session.state = .connecting) : Inv s := by
  refine ⟨by rw [hlog, hstate]; rfl, fun hc => ?_, fun f past hp => ?_, fun past hp hc => ?_⟩
  · obtain ⟨f, -, hmem⟩ := hc
    rw [hlog] at hmem
    exact absurd hmem List.not_mem_nil
  · rw [hlog] at hp
    cases List.suffix_nil.1 hp
  · rw [hlog, List.suffix_nil] at hp
    rw [hp]
    exact nofun

/-! ## Messages after the frame -/

/-- a call with a message of the application -/
def IsSend (c : OutboundCall) : Prop := c ≠ .disconnect ∧ c ≠ .close

/-- `t` is a state on the way to `s`: its history is a past of that of `s`, and it is in the state that its history says -/
structure During (s t : St η) : Prop where
  log : t.log <:+ s.log
  state : stateOf t.log = t.session.state

/-- no message followed a CLOSE frame, and a message that comes later is refused without any effect -/
structure Sealed (s : St η) : Prop where
  order : NoDataAfterClose s.log
  refused : ∀ (t : St η) (c : OutboundCall) (cb : Callback η), During s t → ClosePassed t.log → IsSend c →
    ∃ e, outboundMethod cb c t = (.error (.thrown e), t)

/-- a message is refused in every state but CONNECTED, where the handler's own test changes nothing -/
theorem sendTyped_refused (test : ∀ s : St η, ∃ r, (TransportHandler.isOpen : M η Bool) s = lift r s) (cb : Callback η)
    {s : St η} (h : s.session.state ≠ .connected) (messageType : ℤ) (message : JString) :
    ∃ e, sendTyped cb messageType message s = (.error (.thrown e), s) := by
  obtain ⟨r, hr⟩ := test s
  unfold sendTyped
  cases r with
  | error e =>
    have hraised : (TransportHandler.isOpen : M η Bool) s = (.error (.thrown e), s) := hr
    exact ⟨e, bind_of_error hraised _⟩
  | ok b =>
    have htested : (TransportHandler.isOpen : M η Bool) s = (.ok b, s) := hr
    rw [bind_of_ok htested, get_bind, if_neg fun hb => h hb.2]
    exact ⟨_, rfl⟩

theorem Inv.isSealed (test : ∀ s : St η, ∃ r, (TransportHandler.isOpen : M η Bool) s = lift r s) {s : St η} (h : Inv s) :
    Sealed s := by
  refine ⟨h.order, fun t c cb hd hc hsend => ?_⟩
  have hstate : t.session.state ≠ .connected := by
    rw [← hd.state]
    exact h.never t.log hd.log hc
  cases c with
  | disconnect => exact absurd rfl hsend.1
  | close => exact absurd rfl hsend.2
  | sendMessage message => exact sendTyped_refused test cb hstate _ _
  | sendTyped messageType message => exact sendTyped_refused test cb hstate _ _
  | emitMessage key message => exact sendTyped_refused test cb hstate _ _

end

/-! ## Runs -/

theorem http_inv (config : JettyContinuation.SocketIOConfig) (persistent : Bool)
    (is : List (Input (HttpEvent ⊕ SessionCall))) :
    Inv (run (anyCall serveHttp) (JettyContinuation.created config persistent) is) := by
  have hcalls : ∀ n, Calls Keeps (app n : Callback JettyContinuation.Handler) := fun n =>
    Nat.strong_induction_on n fun _ ih => JettyTraversal.Http.calls (incoming ih).toOutgoing
  have hin := fun n => incoming (n := n) fun m _ => hcalls m
  have hsteps := fun n => JettyTraversal.Http.steps (hin n)
  refine run_related (fun n => (hin n).serving) hsteps (fun n e => ?_) _ is (inv_initial rfl rfl)
  cases e with
  | inl e => exact JettyTraversal.Http.along_serve (hin n).serving (hsteps n) opens e
  | inr call => exact (hin n).serving.along_sessionCall (hsteps n) opens (fun _ _ => keeps_of_same rfl rfl rfl) call

theorem socket_inv (config : JettyWebSocket.SocketIOConfig) (is : List (Input (SocketEvent ⊕ SessionCall))) :
    Inv (run (anyCall serveSocket) (JettyWebSocket.created config) is) := by
  have hcalls : ∀ n, Calls Keeps (app n : Callback JettyWebSocket.Handler) := fun n =>
    Nat.strong_induction_on n fun _ ih => JettyTraversal.Socket.calls (incoming ih).toOutgoing
  have hin := fun n => incoming (n := n) fun m _ => hcalls m
  have hsteps := fun n => JettyTraversal.Socket.steps (hin n)
  refine run_related (fun n => (hin n).serving) hsteps (fun n e => ?_) _ is (inv_initial rfl rfl)
  cases e with
  | inl e => exact JettyTraversal.Socket.along_serve (hin n).serving (hsteps n) opens e
  | inr call => exact (hin n).serving.along_sessionCall (hsteps n) opens (fun _ _ => keeps_of_same rfl rfl rfl) call

theorem http_test (s : St JettyContinuation.Handler) :
    ∃ r, (TransportHandler.isOpen : M JettyContinuation.Handler Bool) s = lift r s :=
  ⟨.ok s.handler.is_open, rfl⟩

theorem socket_test (s : St JettyWebSocket.Handler) :
    ∃ r, (TransportHandler.isOpen : M JettyWebSocket.Handler Bool) s = lift r s := by
  change ∃ r, JettyWebSocket.isOpen s = lift r s
  unfold JettyWebSocket.isOpen
  rw [get_bind]
  cases s.handler.outbound with
  | none => exact ⟨.error .nullPointer, rfl⟩
  | some c => exact ⟨.ok c.isOpen, rfl⟩

/-- **No application data after a close.** In every run of a session with either handler, under any order of events and
of direct calls of the session's methods: no frame with a message of the application is passed to the handler after a
CLOSE frame, and each message that the application sends in a state after one ends in an exception and leaves that state
as it is. -/
theorem no_data_after_close (config : JettyContinuation.SocketIOConfig) (persistent : Bool)
    (is : List (Input (HttpEvent ⊕ SessionCall))) (wsConfig : JettyWebSocket.SocketIOConfig)
    (js : List (Input (SocketEvent ⊕ SessionCall))) :
    Sealed (run (anyCall serveHttp) (JettyContinuation.created config persistent) is) ∧
      Sealed (run (anyCall serveSocket) (JettyWebSocket.created wsConfig) js) :=
  ⟨(http_inv config persistent is).isSealed http_test, (socket_inv wsConfig js).isSealed socket_test⟩

end SocketIOJava.CloseFrame
