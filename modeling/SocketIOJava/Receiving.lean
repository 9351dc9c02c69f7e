/-
The frames of one payload, handed to `DefaultSession.onMessage` one after the other.

The loop over a payload is in the transport handlers (`onMessage(String)` of the WebSocket handler, the POST branch of the
polling handler); neither catches anything. So a payload is handled to its end exactly if `onMessage` completes for each
frame when its turn comes.

- `payload_returns`: with callbacks that do not throw and a handler that throws nothing but `SocketIOException`, that is
  so exactly if no CONNECT frame comes while the inbound is null. A CLOSE frame with the data `client` makes it null.
- `confined`: where callbacks throw, each message of the payload reaches the application exactly if none of them throws on
  a MESSAGE or JSON_MESSAGE frame; an EVENT frame's exception is caught.
-/
import SocketIOJava.JettyTraversal
import SocketIOJava.Lib.Outcomes

namespace SocketIOJava.Receiving

open Program SocketIOJava.Text SocketIOJava.Frame SocketIOJava.Session SocketIOJava.Run SocketIOJava.Traversal

variable {η : Type} {s s' : St η} {n : ℕ} {f : SocketIOFrame}

/-! ## Callbacks that do not throw -/

/-- no act of the application is an exception -/
def Calm (s : St η) : Prop := ∀ e, Act.raise e ∉ s.acts

/-- no act is added, and the handler stays attached -/
structure Mild (s s' : St η) : Prop where
  acts : ∀ a ∈ s'.acts, a ∈ s.acts
  handler : s.session.handler = true → s'.session.handler = true

instance : Std.Refl (Mild (η := η)) := ⟨fun _ => ⟨fun _ ha => ha, id⟩⟩

instance : IsTrans (St η) Mild where
  trans _ _ _ := fun h h' => ⟨fun a ha => h.acts a (h'.acts a ha), h'.handler ∘ h.handler⟩

theorem mild_of (hacts : s'.acts = s.acts) (hh : s'.session.handler = s.session.handler) : Mild s s' :=
  ⟨fun _ ha => hacts ▸ ha, hh.trans⟩

theorem Mild.calm (h : Mild s s') (hs : Calm s) : Calm s' := fun e he => hs e (h.acts _ he)

theorem mild_startHeartbeatTimer (s : St η) : Mild s (startHeartbeatTimer s) := by
  obtain ⟨e, t, heq⟩ := startHeartbeatTimer_eq s
  rw [heq]
  exact mild_of rfl rfl

theorem mild_of_aside (s s' : St η) (h : Aside s s') : Mild s s' :=
  ⟨fun _ ha => h.acts.subset ha, h.attached.trans⟩

theorem mild_http (n : ℕ) : Calls Mild (app n : Callback JettyContinuation.Handler) := by
  induction n using Nat.strong_induction_on with
  | _ n ih =>
    refine JettyTraversal.Http.Wire.calls { moves_aside mild_of_aside ih with
      expired := along_onDisconnect_aside mild_of_aside ih _, update := fun _ _ _ _ => mild_of rfl rfl
      release := fun _ => mild_of rfl rfl
      startHeartbeat := mild_startHeartbeatTimer, frame := fun _ _ _ => mild_of rfl rfl
      wrote := fun _ _ _ => mild_of rfl rfl, completed := fun _ => mild_of rfl rfl }

theorem mild_socket (n : ℕ) : Calls Mild (app n : Callback JettyWebSocket.Handler) := by
  induction n using Nat.strong_induction_on with
  | _ n ih =>
    refine JettyTraversal.Socket.Wire.calls { moves_aside mild_of_aside ih with
      frame := fun _ _ _ => mild_of rfl rfl, wrote := fun _ _ _ => mild_of rfl rfl, setOutbound := fun _ _ => mild_of rfl rfl }

/-- callbacks that do not throw return -/
theorem behave_returns [TransportHandler η] (k : ∀ m < n, Calls Mild (app m : Callback η)) (hs : Calm s) :
    Returns (behave n) s := by
  induction n generalizing s with
  | zero => exact returns_of_ok rfl
  | succ n ih =>
    unfold behave
    cases hacts : s.acts with
    | nil => exact ⟨[], s, by rw [get_bind, hacts]; rfl⟩
    | cons a acts =>
      have hrest : Calm { s with acts := acts } := fun e he => hs e (hacts ▸ List.mem_cons_of_mem a he)
      cases a with
      | ret names => exact ⟨names, { s with acts := acts }, by rw [get_bind, hacts]; rfl⟩
      | raise e => exact absurd (hacts ▸ List.mem_cons_self) (hs e)
      | call c =>
        let called : M η Unit := catching (fun _ => true) (outbound (inboundCall (behave n)) c) (pure ())
        have hmild : Along Mild called :=
          Along.catching _ ((k n (Nat.lt_succ_self n)).along_outbound c) (along_pure ())
        obtain ⟨u, t, ht⟩ := catching_all (outbound (inboundCall (behave n)) c : M η Unit) () { s with acts := acts }
        have hcalm : Calm t := by
          have := hmild { s with acts := acts }
          rw [show called { s with acts := acts } = (.ok u, t) from ht] at this
          exact this.calm hrest
        obtain ⟨names, t', hbehave⟩ := ih (fun m hm => k m (Nat.lt_succ_of_lt hm)) hcalm
        refine ⟨names, t', ?_⟩
        rw [get_bind, hacts]
        exact (bind_of_ok ht _).trans hbehave

theorem app_returns [TransportHandler η] (k : ∀ m, Calls Mild (app m : Callback η)) (hs : Calm s) (c : InboundCall) :
    Returns (app n c) s := by
  have hpushed : Calm (s.push (.called c)) := hs
  obtain ⟨names, t, ht⟩ := behave_returns (n := n) (fun m _ => k m) hpushed
  refine ⟨names, t.push (.returned c), ?_⟩
  change ((behave n (s.push (.called c))).1, (behave n (s.push (.called c))).2.push (.returned c)) = _
  rw [ht]

/-! ## What the session asks of a handler, `sendMessage` apart -/

/-- the other methods complete, and change only the handler's own fields -/
structure Steady (η : Type) [TransportHandler η] : Prop where
  calls : ∀ n, Calls Mild (app n : Callback η)
  abort : ∀ n (s : St η), Returns (TransportHandler.abort (app n)) s
  disconnectWhenEmpty : ∀ s : St η, ∃ h, TransportHandler.disconnectWhenEmpty s = (.ok (), { s with handler := h })
  setNamespace : ∀ a (s : St η), ∃ h, TransportHandler.setNamespace a s = (.ok (), { s with handler := h })

/-- with the application, `onShutdown` always completes -/
theorem onShutdown_returns [TransportHandler η] (n : ℕ) (s : St η) : Returns (Session.onShutdown (app n)) s := by
  rcases onShutdown_cases (app n) s with ⟨-, reason, -, heq⟩ | ⟨-, heq⟩
  · obtain ⟨t, ht⟩ := onDisconnect_app n reason s
    exact ⟨(), removeSession t, heq.trans (bind_of_ok ht _)⟩
  · exact ⟨(), removeSession s, heq⟩

theorem steady_http : Steady JettyContinuation.Handler where
  calls := mild_http
  abort n s := onShutdown_returns n (JettyContinuation.release s)
  disconnectWhenEmpty _ := ⟨_, rfl⟩
  setNamespace _ _ := ⟨_, rfl⟩

theorem steady_socket : Steady JettyWebSocket.Handler where
  calls := mild_socket
  abort n s := by
    obtain ⟨u, t, ht⟩ := onShutdown_returns n (JettyWebSocket.setOutbound none s)
    exact ⟨u, t, (JettyWebSocket.abort_eq (app n) s).trans ht⟩
  disconnectWhenEmpty s := ⟨s.handler, rfl⟩
  setNamespace _ _ := ⟨_, rfl⟩

namespace Steady

variable [TransportHandler η] (st : Steady η)
include st

theorem along_setNamespace (a : JString) : Along Mild (TransportHandler.setNamespace a : M η Unit) := by
  intro s
  obtain ⟨h, heq⟩ := st.setNamespace a s
  rw [heq]
  exact mild_of rfl rfl

theorem along_disconnectWhenEmpty : Along Mild (TransportHandler.disconnectWhenEmpty : M η Unit) := by
  intro s
  obtain ⟨h, heq⟩ := st.disconnectWhenEmpty s
  rw [heq]
  exact mild_of rfl rfl

theorem along_onDisconnect (n : ℕ) (reason : DisconnectReason) :
    Along Mild (Session.onDisconnect (app n : Callback η) reason) :=
  along_onDisconnect_aside mild_of_aside (fun m _ => st.calls m) reason

theorem along_app (n : ℕ) (c : InboundCall) : Along Mild (app n c : M η (List JString)) :=
  along_app_aside mild_of_aside (fun m _ => st.calls m) c

theorem closes (n : ℕ) : Closes Mild (app n : Callback η) where
  send := (st.calls n).send
  abort := (st.calls n).abort
  disconnectWhenEmpty := st.along_disconnectWhenEmpty
  onDisconnect reason _ := st.along_onDisconnect n reason
  acknowledged _ _ _ := mild_of rfl rfl
  closing _ _ _ := mild_of rfl rfl
  closed _ := mild_of rfl rfl

theorem frames (n : ℕ) : Frames Mild (app n : Callback η) := by
  refine (st.calls n).toSends.frames (st.closes n).along_onClose (fun s c _ _ => st.along_app n c s) st.along_setNamespace
    (fun _ _ _ => mild_of rfl rfl) (fun _ _ => mild_of rfl rfl) fun s f _ => ?_
  exact IsTrans.trans _ (onPong (s.push (.received f))) _ (mild_of rfl rfl) (mild_startHeartbeatTimer _)

/-- a frame of the session: where the handler throws nothing but a `SocketIOException`, an abort answers it -/
theorem sendOrAbort_returns (hf : Sendable s f) (hh : s.session.handler = true)
    (hsend : Fails (fun e => e.isSocketIOException = true) (TransportHandler.sendMessage (app n) f) s) :
    Returns (sendOrAbort (app n) f) s := by
  have hderef : (do derefHandler; TransportHandler.sendMessage (app n) f : M η Unit) s =
      TransportHandler.sendMessage (app n) f s := derefHandler_bind hh _
  have hmild := (st.calls n).send s f hf
  refine Fails.returns (Fails.catching (fun e t he hno => ?_) fun e t he _ => ?_)
  · rw [hderef] at he
    exact absurd (hsend e t he) (Bool.eq_false_iff.1 hno)
  · rw [hderef] at he
    rw [he] at hmild
    refine Returns.fails ?_
    obtain ⟨u, t', ht'⟩ := st.abort n t
    exact ⟨u, t', (derefHandler_bind (hmild.handler hh) _).trans ht'⟩

end Steady

/-! ## The answer to a frame -/

/-- the namespace that a CONNECT frame gives to the inbound -/
def inboundNamespace (data : JString) : JString :=
  if (namespaceOf data).length = 0 then str "/" else namespaceOf data

/-- the frame with which `onMessage(f)` answers, and the state in which it is passed to the handler -/
def replyOf [TransportHandler η] (cb : Callback η) (f : SocketIOFrame) (s : St η) : Option (SocketIOFrame × St η) :=
  match f.frameType with
  | .connect =>
    let asked : M η Unit := do
      TransportHandler.setNamespace (namespaceOf f.data)
      let _ ← cb (.setNamespace (inboundNamespace f.data))
    if s.session.inbound then some (.new .connect 0 [], (asked (s.push (.received f))).2) else none
  | .close =>
    let received := s.push (.received f)
    if s.session.state = .closing then
      if s.session.closeId = some f.data then none
      else some (.new .close 0 f.data, received.push (.onClose .closing f.data))
    else some (.new .close 0 f.data, setState .closing (received.push (.onClose s.session.state f.data)))
  | _ => none

/-- the handler's `sendMessage` throws nothing but `SocketIOException` when the session answers the frame -/
def Polite [TransportHandler η] (cb : Callback η) (f : SocketIOFrame) (s : St η) : Prop :=
  ∀ g t, replyOf cb f s = some (g, t) →
    Fails (fun e => e.isSocketIOException = true) (TransportHandler.sendMessage cb g) t

/-- a CONNECT frame gives the handler its namespace, before the inbound is used -/
theorem onMessage_connect_eq [TransportHandler η] (cb : Callback η) {h : η} (hf : f.frameType = .connect)
    (hh : s.session.handler = true)
    (hset : TransportHandler.setNamespace (namespaceOf f.data) (s.push (.received f)) =
      (.ok (), { s.push (.received f) with handler := h })) :
    Session.onMessage cb f s = (do
      derefInbound
      let _ ← cb (.setNamespace (inboundNamespace f.data))
      onConnectData cb [] : M η Unit) { s.push (.received f) with handler := h } := by
  unfold Session.onMessage
  simp only [hf]
  rw [modify_bind, derefHandler_bind (s := s.push (.received f)) hh, bind_of_ok hset]
  rfl

/-- what `onMessage` does with a CONNECT frame, from there on -/
theorem replyOf_connect [TransportHandler η] (cb : Callback η) {h : η} (hf : f.frameType = .connect)
    (hi : s.session.inbound = true)
    (hset : TransportHandler.setNamespace (namespaceOf f.data) (s.push (.received f)) =
      (.ok (), { s.push (.received f) with handler := h })) :
    replyOf cb f s = some (.new .connect 0 [],
      (cb (.setNamespace (inboundNamespace f.data)) { s.push (.received f) with handler := h }).2) := by
  unfold replyOf
  simp only [hf, hi, if_true]
  rw [bind_of_ok hset, discard_snd]

namespace Steady

variable [TransportHandler η] (st : Steady η)
include st

/-- a CONNECT frame needs an inbound -/
theorem onMessage_connect (hf : f.frameType = .connect) (hh : s.session.handler = true) (hs : Calm s)
    (hpolite : Polite (app n) f s) : Returns (Session.onMessage (app n) f) s ↔ s.session.inbound = true := by
  let received := s.push (.received f)
  obtain ⟨h, hset⟩ := st.setNamespace (namespaceOf f.data) received
  have hrun := onMessage_connect_eq (app n) hf hh hset
  cases hi : s.session.inbound with
  | false =>
    have hnull := hrun.trans (derefInbound_null (s := { received with handler := h }) hi _)
    exact iff_of_false (not_returns_of_error hnull) Bool.false_ne_true
  | true =>
    refine iff_of_true ?_ rfl
    have hcalm : Calm { received with handler := h } := hs
    obtain ⟨names, t, ht⟩ := app_returns (n := n) st.calls hcalm (.setNamespace (inboundNamespace f.data))
    have hmild := st.along_app n (.setNamespace (inboundNamespace f.data)) { received with handler := h }
    rw [ht] at hmild
    have hreply : replyOf (app n) f s = some (.new .connect 0 [], t) := by
      rw [replyOf_connect (app n) hf hi hset, ht]
    obtain ⟨u, t', ht'⟩ := st.sendOrAbort_returns (sendable_connect 0 []) (hmild.handler hh) (hpolite _ _ hreply)
    refine ⟨u, t', hrun.trans ?_⟩
    rw [derefInbound_bind (s := { received with handler := h }) hi, bind_of_ok ht]
    exact ht'

/-- the first CLOSE frame of a session that is not CLOSING -/
theorem closing_returns {data : JString} (hstate : s.session.state = .closing) (hh : s.session.handler = true)
    (hsend : Fails (fun e => e.isSocketIOException = true) (TransportHandler.sendMessage (app n) (.new .close 0 data)) s) :
    Returns (catching Abrupt.isSocketIOException
      (do
        derefHandler
        TransportHandler.sendMessage (app n) (.new .close 0 data)
        derefHandler
        TransportHandler.disconnectWhenEmpty
        if data = str "client" then Session.onDisconnect (app n) .closedRemotely)
      (do derefHandler; TransportHandler.abort (app n)) : M η Unit) s := by
  have hmild := (st.calls n).send s (.new .close 0 data) (sendable_close rfl hh hstate)
  refine Fails.returns (Fails.catching ?_ fun e t he _ => ?_)
  · refine Fails.mono (E := fun e => e.isSocketIOException = true) ?_ fun e hsocket hno => ?_
    · intro e t he
      rw [derefHandler_bind hh] at he
      refine (hsend.bind fun _ t ht => Returns.fails ?_) e t he
      rw [ht] at hmild
      obtain ⟨h, hempty⟩ := st.disconnectWhenEmpty t
      unfold Returns
      rw [derefHandler_bind (hmild.handler hh), bind_of_ok hempty]
      by_cases hdata : data = str "client"
      · rw [if_pos hdata]
        obtain ⟨t', ht'⟩ := onDisconnect_app n .closedRemotely { t with handler := h }
        exact ⟨(), t', ht'⟩
      · rw [if_neg hdata]
        exact ⟨(), _, rfl⟩
    · exact absurd hsocket (Bool.eq_false_iff.1 hno)
  · have hbody : Mild s t := by
      refine (congrArg (Mild s ·.2) he).mp (derefHandler_related fun _ => bind_related hmild fun _ => ?_)
      refine along_derefHandler.bind fun _ => st.along_disconnectWhenEmpty.bind fun _ => ?_
      exact Along.ite (fun _ => st.along_onDisconnect n .closedRemotely) fun _ => along_pure ()
    obtain ⟨u, t', ht'⟩ := st.abort n t
    exact Returns.fails ⟨u, t', (derefHandler_bind (hbody.handler hh) _).trans ht'⟩

/-- `onClose(data)` always completes, also inside of an abort -/
theorem onMessage_close (hf : f.frameType = .close) (hh : s.session.handler = true) (hpolite : Polite (app n) f s) :
    Returns (Session.onMessage (app n) f) s := by
  let received := s.push (.received f)
  have hrun : Session.onMessage (app n) f s = Session.onClose (app n) f.data received := by
    unfold Session.onMessage
    simp only [hf, modify_bind]
    rfl
  have hcases : ∀ g t, replyOf (app n) f s = some (g, t) →
      Fails (fun e => e.isSocketIOException = true) (TransportHandler.sendMessage (app n) g) t := hpolite
  unfold replyOf at hcases
  simp only [hf] at hcases
  unfold Returns
  rw [hrun]
  unfold Session.onClose
  rw [get_bind]
  by_cases hstate : s.session.state = .closing
  · rw [if_pos hstate] at hcases
    rw [if_pos (show received.session.state = .closing from hstate), modify_bind]
    by_cases hid : s.session.closeId = some f.data
    · rw [if_pos (show received.session.closeId = some f.data from hid), modify_bind]
      obtain ⟨t, ht⟩ := onDisconnect_app n .closed (setState .closed (received.push (.onClose .closing f.data)))
      have hmild := st.along_onDisconnect n .closed (setState .closed (received.push (.onClose .closing f.data)))
      rw [ht] at hmild
      rw [bind_of_ok ht, derefHandler_bind (hmild.handler hh)]
      exact st.abort n t
    · rw [if_neg hid] at hcases
      rw [if_neg (show ¬ received.session.closeId = some f.data from hid)]
      exact st.sendOrAbort_returns (sendable_close rfl hh hstate) hh (hcases _ _ rfl)
  · rw [if_neg hstate] at hcases
    rw [if_neg (show ¬ received.session.state = .closing from hstate), modify_bind]
    exact st.closing_returns rfl hh (hcases _ _ rfl)

end Steady

/-! ## Messages of the application -/

theorem fails_derefInbound (s : St η) : Fails (fun e => e.isThrowable = true) derefInbound s := by
  intro e t he
  unfold derefInbound at he
  rw [get_bind] at he
  cases hi : s.session.inbound with
  | true => rw [hi] at he; cases he
  | false => rw [hi] at he; cases he; rfl

theorem fails_app [TransportHandler η] (c : InboundCall) (s : St η) : Fails (fun e => e.isThrowable = true) (app n c) s := by
  intro e t he
  exact behave_error (n := n) (s := s.push (.called c)) (congrArg Prod.fst he)

theorem fails_lift {α : Type} (r : Except JavaException α) (s : St η) :
    Fails (fun e => e.isThrowable = true) (lift r) s := by
  cases r with
  | ok a => exact fails_pure a
  | error e => exact fails_stop rfl

/-- what an EVENT frame with a key and arguments makes of the application -/
def dispatch [TransportHandler η] (cb : Callback η) (key args : JString) : M η Unit := do
  let message ← lift (unquote args)
  derefInbound
  let names ← cb .setEventnames
  modify (·.push (.listed names))
  forEach names fun b =>
    if key = b then do
      derefInbound
      let _ ← cb (.onMessage key message)
    else pure ()

theorem fails_dispatch [TransportHandler η] (key args : JString) (s : St η) :
    Fails (fun e => e.isThrowable = true) (dispatch (app n) key args) s := by
  refine (fails_lift _ s).bind fun message t _ => (fails_derefInbound t).bind fun _ t _ => ?_
  refine (fails_app _ t).bind fun names t _ => (fails_modify _).bind fun _ t _ => Fails.forEach fun _ b _ t _ _ => ?_
  dsimp only
  by_cases hb : key = b
  · rw [if_pos hb]
    exact (fails_derefInbound t).bind fun _ t _ => (fails_app _ t).bind fun _ t _ => fails_pure ()
  · rw [if_neg hb]
    exact fails_pure ()

/-- an EVENT frame's callbacks may throw -/
theorem event_returns [TransportHandler η] (message : JString) (s : St η) : Returns (onMessageText (app n) 5 message) s := by
  unfold onMessageText
  cases hi : s.session.inbound with
  | false => exact ⟨(), s, by rw [get_bind, hi]; rfl⟩
  | true =>
    refine Fails.returns fun e t he => ?_
    rw [get_bind, hi, if_pos rfl, if_neg (by decide), if_pos rfl] at he
    refine Fails.catching (E := fun _ => False) ?_ (fun _ _ _ _ => fails_pure ()) e t he
    refine Fails.mono (E := fun e => e.isThrowable = true) ?_ fun e hthrown hno => absurd hthrown (Bool.eq_false_iff.1 hno)
    cases findEvent message with
    | none => exact fails_pure ()
    | some event => exact fails_dispatch event.1 event.2 s

/-- a MESSAGE or JSON_MESSAGE frame -/
def Plain (f : SocketIOFrame) : Prop := f.frameType = .message ∨ f.frameType = .jsonMessage

/-- of a MESSAGE or JSON_MESSAGE frame, `onMessage` only calls the application -/
theorem onMessage_plain [TransportHandler η] {cb : Callback η} (hf : Plain f) (hi : s.session.inbound = true) :
    Session.onMessage cb f s = (do let _ ← cb (.onMessage (str "message") f.data) : M η Unit) (s.push (.received f)) := by
  have htype : f.frameType.value = 1 ∨ f.frameType.value = 3 ∨ f.frameType.value = 4 := by
    rcases hf with hf | hf <;> rw [hf] <;> decide
  rw [onMessage_data (hf.imp_right .inl), modify_bind]
  unfold onMessageText
  rw [get_bind, if_pos (show (s.push (.received f)).session.inbound = true from hi), if_pos htype]

theorem onMessage_null [TransportHandler η] {cb : Callback η} (hf : IsData f) (hi : s.session.inbound = false) :
    Session.onMessage cb f s = (.ok (), s.push (.received f)) := by
  have hnull : ¬ (s.push (.received f)).session.inbound = true := Bool.eq_false_iff.1 hi
  rw [onMessage_data hf, modify_bind]
  unfold onMessageText
  rw [get_bind, if_neg hnull]
  rfl

/-! ## The frames of a payload -/

namespace Steady

variable [TransportHandler η] (st : Steady η)
include st

/-- **One frame**: only a CONNECT frame without an inbound raises -/
theorem onMessage_returns_iff (hh : s.session.handler = true) (hs : Calm s) (hpolite : Polite (app n) f s) :
    Returns (Session.onMessage (app n) f) s ↔ (f.frameType = .connect → s.session.inbound = true) := by
  have hplain : Plain f → Returns (Session.onMessage (app n) f) s := by
    intro hf
    cases hi : s.session.inbound with
    | false => exact ⟨(), _, onMessage_null (hf.imp_right .inl) hi⟩
    | true =>
      have hcalm : Calm (s.push (.received f)) := hs
      obtain ⟨names, t, ht⟩ := app_returns (n := n) st.calls hcalm (.onMessage (str "message") f.data)
      exact ⟨(), t, (onMessage_plain hf hi).trans (bind_of_ok ht _)⟩
  cases hf : f.frameType with
  | connect => exact (st.onMessage_connect hf hh hs hpolite).trans (by simp)
  | close => exact iff_of_true (st.onMessage_close hf hh hpolite) nofun
  | message => exact iff_of_true (hplain (.inl hf)) nofun
  | jsonMessage => exact iff_of_true (hplain (.inr hf)) nofun
  | event =>
    refine iff_of_true ?_ nofun
    rw [onMessage_data (.inr (.inr hf)), hf]
    exact event_returns f.data (s.push (.received f))
  | heartbeat =>
    refine iff_of_true ?_ nofun
    unfold Session.onMessage
    simp only [hf]
    exact returns_of_ok rfl
  | unknown | ack | error | noop =>
    refine iff_of_true ⟨(), s.push (.received f), ?_⟩ nofun
    unfold Session.onMessage
    simp only [hf]
    rfl

/-- **A payload**: no CONNECT frame comes while the inbound is null -/
theorem payload_returns_iff {frames : List SocketIOFrame} (hh : s.session.handler = true) (hs : Calm s)
    (hpolite : AtEachTurn frames (Session.onMessage (app n)) (Polite (app n)) s) :
    Returns (forEach frames (Session.onMessage (app n))) s ↔
      AtEachTurn frames (Session.onMessage (app n)) (fun f t => f.frameType = .connect → t.session.inbound = true) s := by
  have hkept : AtEachTurn frames (Session.onMessage (app n)) (fun _ t => t.session.handler = true ∧ Calm t) s := by
    refine atEachTurn_of_kept (fun f t ht => ?_) ⟨hh, hs⟩
    have hmild := (st.frames n).along_onMessage f t
    exact ⟨hmild.handler ht.1, hmild.calm ht.2⟩
  have heach := hkept.and hpolite
  rw [forEach_returns_iff]
  constructor
  · intro h
    exact (h.and heach).imp fun f t hft => (st.onMessage_returns_iff hft.2.1.1 hft.2.1.2 hft.2.2).1 hft.1
  · intro h
    exact (h.and heach).imp fun f t hft => (st.onMessage_returns_iff hft.2.1.1 hft.2.1.2 hft.2.2).2 hft.1

end Steady

/-- **Processing received frames**, with either handler: in every state of a session with its handler attached, the
frames of a payload are all processed exactly if no CONNECT frame comes while the inbound is null. -/
theorem payload_returns (n : ℕ) (frames : List SocketIOFrame) :
    (∀ s : St JettyWebSocket.Handler, s.session.handler = true → Calm s →
      AtEachTurn frames (Session.onMessage (app n)) (Polite (app n)) s →
      (Returns (forEach frames (Session.onMessage (app n))) s ↔
        AtEachTurn frames (Session.onMessage (app n)) (fun f t => f.frameType = .connect → t.session.inbound = true) s)) ∧
    ∀ s : St JettyContinuation.Handler, s.session.handler = true → Calm s →
      AtEachTurn frames (Session.onMessage (app n)) (Polite (app n)) s →
      (Returns (forEach frames (Session.onMessage (app n))) s ↔
        AtEachTurn frames (Session.onMessage (app n)) (fun f t => f.frameType = .connect → t.session.inbound = true) s) :=
  ⟨fun _ => steady_socket.payload_returns_iff, fun _ => steady_http.payload_returns_iff⟩

/-- a polling session that its request has connected -/
def polled : St JettyContinuation.Handler :=
  run serveHttp (JettyContinuation.created ⟨none, none, none, none⟩ false) [⟨.container .connect, [], []⟩]

theorem calm_polled : Calm polled := fun _ => List.not_mem_nil

/-- the answer to the client's CLOSE frame goes into the buffer -/
theorem polite_polled : Polite (app 1) (.new .close 0 (str "client")) polled := by
  intro g t h
  cases h
  exact Returns.fails ⟨(), _, rfl⟩

/-- a frame other than CONNECT and CLOSE is not answered -/
theorem polite_message [TransportHandler η] (cb : Callback η) (data : JString) (s : St η) :
    Polite cb (.new .message 0 data) s := fun _ _ h => by cases h

/-- after a CLOSE frame, a message finds no inbound and is dropped -/
theorem payload_returns_polled :
    Returns (forEach [.new .close 0 (str "client"), .new .message 0 (str "late")] (Session.onMessage (app 1))) polled := by
  refine ((payload_returns 1 _).2 polled rfl calm_polled ?_).2 ?_
  · exact atEachTurn_cons.2 ⟨polite_polled, fun t _ => atEachTurn_cons.2 ⟨polite_message _ _ t, fun _ _ => atEachTurn_nil⟩⟩
  · intro before f rest t hl _ hf
    have hmem : f ∈ [SocketIOFrame.new .close 0 (str "client"), .new .message 0 (str "late")] := by
      rw [hl]
      exact List.mem_append_right _ List.mem_cons_self
    rcases List.mem_pair.1 hmem with rfl | rfl
    · cases hf
    · cases hf

/-- the client closes and then asks for a namespace, in one payload: its inbound is gone by then -/
theorem connect_after_close :
    polled.session.handler = true ∧ Calm polled ∧
      AtEachTurn [.new .close 0 (str "client"), .new .connect 0 []] (Session.onMessage (app 1)) (Polite (app 1)) polled ∧
      ¬ Returns (forEach [.new .close 0 (str "client"), .new .connect 0 []] (Session.onMessage (app 1))) polled := by
  refine ⟨rfl, calm_polled, atEachTurn_cons.2 ⟨polite_polled, fun t ht => ?_⟩, not_returns_of_error rfl⟩
  refine atEachTurn_cons.2 ⟨fun g t' h => ?_, fun _ _ => atEachTurn_nil⟩
  cases ht
  cases h

/-! ## Callbacks that throw -/

/-- a call of `inbound.onMessage` -/
def seesMessage : Entry → Option (JString × JString)
  | .called (.onMessage key message) => some (key, message)
  | _ => none

/-- the messages that the application was called with, latest first -/
def delivered (log : List Entry) : List (JString × JString) := log.filterMap seesMessage

theorem not_seesMessage {e : Entry} (he : JettyTraversal.Outward e) : seesMessage e = none := by
  cases e with
  | called c =>
    cases c with
    | onMessage _ _ => exact he.elim
    | _ => rfl
  | _ => rfl

/-- the application names the event, once, and still has its session -/
def Registered (cb : Callback η) (key : JString) (s : St η) : Prop :=
  ∃ names t, cb .setEventnames s = (.ok names, t) ∧ names.count key = 1 ∧ t.session.inbound = true

/-- the turn of a frame with a message for the application -/
structure Due (cb : Callback η) (f : SocketIOFrame) (s : St η) : Prop where
  inbound : s.session.inbound = true
  message : (messageOf f).isSome = true
  registered : f.frameType = .event → ∀ key m, messageOf f = some (key, m) → Registered cb key (s.push (.received f))

section

variable [TransportHandler η] (hunseen : ∀ n, Along (JettyTraversal.Unseen seesMessage) (behave n : M η (List JString)))
include hunseen

theorem delivered_app (c : InboundCall) (s : St η) :
    delivered (app n c s).2.log = (seesMessage (.called c)).toList ++ delivered s.log :=
  JettyTraversal.filterMap_app (hunseen n) rfl s

omit hunseen [TransportHandler η] in
/-- of the registered names, the event's own is the one that counts -/
theorem forEach_offer (cb : Callback η) (key m : JString) (names : List JString) (hi : s.session.inbound = true)
    (hcount : names.count key = 1) :
    (forEach names (fun b => if key = b then do
        derefInbound
        let _ ← cb (.onMessage key m)
      else pure ()) s).2 = (cb (.onMessage key m) s).2 := by
  let offer : JString → M η Unit := fun b => if key = b then do
      derefInbound
      let _ ← cb (.onMessage key m)
    else pure ()
  change (forEach names offer s).2 = _
  have hother : ∀ b (t : St η), key ≠ b → offer b t = (.ok (), t) := fun b t hb => congrFun (if_neg hb) t
  induction names with
  | nil => cases hcount
  | cons b names ih =>
    by_cases hb : key = b
    · have hown : offer b s = (do let _ ← cb (.onMessage key m) : M η Unit) s :=
        (congrFun (if_pos hb) s).trans (derefInbound_bind hi _)
      have hnone : key ∉ names := by
        rw [hb, List.count_cons_self] at hcount
        rw [← List.count_eq_zero, hb]
        omega
      unfold forEach
      rcases hr : cb (.onMessage key m) s with ⟨r, t⟩
      cases r with
      | ok l =>
        rw [bind_of_ok (hown.trans (bind_of_ok hr _))]
        have hrest := forEach_skip (s := t) fun x hx => hother x t fun heq => hnone (heq ▸ hx)
        rw [hrest]
      | error e => rw [bind_of_error (hown.trans (bind_of_error hr _))]
    · unfold forEach
      rw [bind_of_ok (hother b s hb)]
      refine ih ?_
      rw [List.count_cons_of_ne (Ne.symm hb)] at hcount
      exact hcount

omit hunseen in
/-- an EVENT frame with a key and arguments is passed on, whatever the application does with it -/
theorem onMessage_event (hf : f.frameType = .event) (hi : s.session.inbound = true) {key args : JString}
    (hfind : findEvent f.data = some (key, args)) :
    ∃ t, Session.onMessage (app n) f s = (.ok (), t) ∧ t = (dispatch (app n) key args (s.push (.received f))).2 := by
  have hrun : Session.onMessage (app n) f s = onMessageText (app n) 5 f.data (s.push (.received f)) := by
    rw [onMessage_data (.inr (.inr hf)), hf, modify_bind]
    rfl
  have hcaught : onMessageText (app n) 5 f.data (s.push (.received f)) =
      catching Abrupt.isThrowable (dispatch (app n) key args) (pure ()) (s.push (.received f)) := by
    unfold onMessageText
    rw [get_bind, if_pos (show (s.push (.received f)).session.inbound = true from hi), if_neg (by decide), if_pos rfl, hfind]
    rfl
  obtain ⟨u, t, ht⟩ := event_returns (n := n) f.data (s.push (.received f))
  refine ⟨t, hrun.trans ht, ?_⟩
  rw [hcaught] at ht
  rw [← catching_pure_snd Abrupt.isThrowable _ (), ht]

/-- **An EVENT frame** is handled to its end, and its message reaches the application once. -/
theorem event_delivered (hf : f.frameType = .event) (hdue : Due (app n) f s) {m : JString × JString}
    (hm : messageOf f = some m) :
    ∃ t, Session.onMessage (app n) f s = (.ok (), t) ∧ delivered t.log = m :: delivered s.log := by
  have hregistered := hdue.registered hf m.1 m.2 hm
  unfold messageOf at hm
  simp only [hf] at hm
  cases hfind : findEvent f.data with
  | none => rw [hfind] at hm; cases hm
  | some event =>
    obtain ⟨key, args⟩ := event
    rw [hfind] at hm
    cases hunquote : unquote args with
    | error e => simp only [hunquote, reduceCtorEq] at hm
    | ok message =>
      simp only [hunquote, Option.some.injEq] at hm
      subst hm
      obtain ⟨names, t, hnames, hcount, hi⟩ := hregistered
      obtain ⟨t', ht', heq⟩ := onMessage_event (n := n) hf hdue.inbound hfind
      refine ⟨t', ht', ?_⟩
      have hbegun : delivered t.log = delivered s.log := by
        have happ := delivered_app hunseen (n := n) .setEventnames (s.push (.received f))
        rw [hnames] at happ
        exact happ
      have hdispatch : (dispatch (app n) key args (s.push (.received f))).2 =
          (app n (.onMessage key message) (t.push (.listed names))).2 := by
        unfold dispatch
        have hlift : lift (unquote args) (s.push (.received f)) = (.ok message, s.push (.received f)) := by
          rw [hunquote]
          rfl
        rw [bind_of_ok hlift, derefInbound_bind (s := s.push (.received f)) hdue.inbound, bind_of_ok hnames,
          modify_bind]
        exact forEach_offer (app n) key message names hi hcount
      have hlisted : delivered (t.push (.listed names)).log = delivered t.log := rfl
      rw [heq, hdispatch, delivered_app hunseen, hlisted, hbegun]
      rfl

/-- **A MESSAGE or JSON_MESSAGE frame** reaches the application once, and is handled to its end unless that throws. -/
theorem plain_delivered (hf : Plain f) (hi : s.session.inbound = true) :
    delivered (Session.onMessage (app n) f s).2.log = (str "message", f.data) :: delivered s.log := by
  rw [onMessage_plain hf hi, discard_snd, delivered_app hunseen]
  rfl

omit hunseen [TransportHandler η] in
theorem Due.kind {cb : Callback η} (hdue : Due cb f s) : Plain f ∨ f.frameType = .event := by
  have hmessage := hdue.message
  unfold messageOf at hmessage
  cases hf : f.frameType with
  | message => exact .inl (.inl hf)
  | jsonMessage => exact .inl (.inr hf)
  | event => exact .inr rfl
  | unknown | close | connect | heartbeat | ack | error | noop => simp only [hf] at hmessage; cases hmessage

omit hunseen in
/-- what a frame of its turn needs to be handled to its end -/
theorem Due.returns_iff (hdue : Due (app n) f s) : Returns (Session.onMessage (app n) f) s ↔
    (Plain f → Returns (app n (.onMessage (str "message") f.data)) (s.push (.received f))) := by
  rcases hdue.kind with hf | hf
  · unfold Returns
    rw [onMessage_plain hf hdue.inbound]
    constructor
    · intro h _
      exact Returns.first h
    · intro h
      obtain ⟨names, t, ht⟩ := h hf
      exact ⟨(), t, bind_of_ok ht _⟩
  · refine iff_of_true ?_ fun hplain => ?_
    · rw [onMessage_data (.inr (.inr hf)), hf]
      exact event_returns f.data (s.push (.received f))
    · rcases hplain with h | h
      · cases hf.symm.trans h
      · cases hf.symm.trans h

theorem Due.delivered (hdue : Due (app n) f s) {t : St η} (ht : Session.onMessage (app n) f s = (.ok (), t)) :
    delivered t.log = (messageOf f).toList ++ delivered s.log := by
  obtain ⟨m, hm⟩ := Option.isSome_iff_exists.1 hdue.message
  rw [hm]
  rcases hdue.kind with hf | hf
  · have hplain := plain_delivered hunseen (n := n) hf hdue.inbound
    rw [ht] at hplain
    rcases hf with hf | hf
    · simp only [messageOf, hf, Option.some.injEq] at hm
      exact hm ▸ hplain
    · simp only [messageOf, hf, Option.some.injEq] at hm
      exact hm ▸ hplain
  · obtain ⟨t', ht', hdelivered⟩ := event_delivered hunseen hf hdue hm
    cases ht.symm.trans ht'
    exact hdelivered

/-- a payload that is handled to its end has reached the application, each of its messages once and in order -/
theorem forEach_delivered {frames : List SocketIOFrame} {t : St η}
    (hdue : AtEachTurn frames (Session.onMessage (app n)) (Due (app n)) s)
    (ht : forEach frames (Session.onMessage (app n)) s = (.ok (), t)) :
    delivered t.log = (frames.filterMap messageOf).reverse ++ delivered s.log := by
  induction frames generalizing s with
  | nil => cases ht; rfl
  | cons f frames ih =>
    obtain ⟨hfirst, hrest⟩ := atEachTurn_cons.1 hdue
    rcases hr : Session.onMessage (app n) f s with ⟨r, s'⟩
    cases r with
    | error e => cases (bind_of_error hr _).symm.trans ht
    | ok u =>
      rw [ih (hrest s' hr) ((bind_of_ok hr _).symm.trans ht), hfirst.delivered hunseen hr]
      cases hm : messageOf f with
      | none => simp [hm]
      | some m => simp [hm]

end

/-- the messages of the payload have reached the application between two states, each once and in order -/
def AllDelivered (frames : List SocketIOFrame) (s t : St η) : Prop :=
  delivered t.log = (frames.filterMap messageOf).reverse ++ delivered s.log

/-- no callback throws on a MESSAGE or JSON_MESSAGE frame of the payload -/
def QuietOnPlain [TransportHandler η] (n : ℕ) (frames : List SocketIOFrame) (s : St η) : Prop :=
  AtEachTurn frames (Session.onMessage (app n)) (fun f t =>
    Plain f → Returns (app n (.onMessage (str "message") f.data)) (t.push (.received f))) s

/-- **An exception of the application stays with its message** exactly where it is thrown on an EVENT frame. -/
theorem forEach_confined [TransportHandler η]
    (hunseen : ∀ n, Along (JettyTraversal.Unseen seesMessage) (behave n : M η (List JString)))
    {frames : List SocketIOFrame} (hdue : AtEachTurn frames (Session.onMessage (app n)) (Due (app n)) s) :
    (∃ t, forEach frames (Session.onMessage (app n)) s = (.ok (), t) ∧ AllDelivered frames s t) ↔ QuietOnPlain n frames s := by
  have hturns : Returns (forEach frames (Session.onMessage (app n))) s ↔ QuietOnPlain n frames s := by
    rw [forEach_returns_iff]
    constructor
    · intro h
      exact (h.and hdue).imp fun _ _ hft => hft.2.returns_iff.1 hft.1
    · intro h
      exact (h.and hdue).imp fun _ _ hft => hft.2.returns_iff.2 hft.1
  rw [← hturns]
  constructor
  · rintro ⟨t, ht, -⟩
    exact ⟨(), t, ht⟩
  · rintro ⟨u, t, ht⟩
    exact ⟨t, ht, forEach_delivered hunseen hdue ht⟩

/-! ## The handlers' receive methods -/

/-- the state in which a WebSocket's first frame is handled -/
def texted (text : JString) (s : St JettyWebSocket.Handler) : St JettyWebSocket.Handler :=
  startHeartbeatTimer (s.push (.text text))

/-- a text message of a WebSocket starts the heartbeat timer and hands over its frames -/
theorem onText_eq {cb : Callback JettyWebSocket.Handler} {text : JString} {frames : List SocketIOFrame}
    (hparse : parse text = some (.ok frames)) (s : St JettyWebSocket.Handler) :
    JettyWebSocket.onText cb text s =
      forEach frames (Session.onMessage cb) (texted text s) := by
  unfold JettyWebSocket.onText
  rw [modify_bind, hparse]
  rfl

/-- a POST hands over its frames and then checks whether the session is to be closed -/
theorem handlePost_eq {cb : Callback JettyContinuation.Handler} {data : JString} {frames : List SocketIOFrame}
    (hparse : parse data = some (.ok frames)) {s : St JettyContinuation.Handler} (hopen : s.handler.is_open = true) :
    JettyContinuation.handlePost cb (some (.ok data)) s =
      (do forEach frames (Session.onMessage cb); JettyContinuation.closeCheck cb : M JettyContinuation.Handler Unit) s := by
  have hreceive : whenever (data.length > 0) (JettyContinuation.receive cb data) = forEach frames (Session.onMessage cb) := by
    cases data with
    | nil => cases hparse; rfl
    | cons c data =>
      unfold whenever JettyContinuation.receive
      rw [if_pos (show (c :: data).length > 0 from Nat.succ_pos _), hparse]
      rfl
  unfold JettyContinuation.handlePost
  rw [get_bind, if_pos hopen]
  change (whenever (data.length > 0) (JettyContinuation.receive cb data) >>= fun _ => JettyContinuation.closeCheck cb) s = _
  rw [hreceive]

theorem abort_returns (n : ℕ) (s : St JettyContinuation.Handler) : Returns (JettyContinuation.abort (app n)) s :=
  steady_http.abort n s

theorem closeCheck_returns (n : ℕ) (s : St JettyContinuation.Handler) : Returns (JettyContinuation.closeCheck (app n)) s := by
  unfold JettyContinuation.closeCheck
  by_cases hempty : (s.handler.disconnectWhenEmpty && s.handler.buffer.isEmpty) = true
  · obtain ⟨t, ht⟩ : ∃ t, whenever (s.session.state = .closing) (Session.onDisconnect (app n) .closed) s = (.ok (), t) := by
      by_cases hstate : s.session.state = .closing
      · obtain ⟨t, ht⟩ := onDisconnect_app n .closed s
        exact ⟨t, (congrFun (if_pos hstate) s).trans ht⟩
      · exact ⟨s, congrFun (if_neg hstate) s⟩
    obtain ⟨u, t', ht'⟩ := abort_returns n t
    refine ⟨u, t', ?_⟩
    rw [get_bind, if_pos hempty]
    exact (bind_of_ok ht _).trans ht'
  · refine ⟨(), s, ?_⟩
    rw [get_bind, if_neg hempty]
    rfl

theorem unseen_http (n : ℕ) :
    Along (JettyTraversal.Unseen seesMessage) (behave n : M JettyContinuation.Handler (List JString)) :=
  (JettyTraversal.unseen_behave (fun _ => not_seesMessage) n).1

theorem unseen_socket (n : ℕ) :
    Along (JettyTraversal.Unseen seesMessage) (behave n : M JettyWebSocket.Handler (List JString)) :=
  (JettyTraversal.unseen_behave (fun _ => not_seesMessage) n).2

theorem delivered_texted (text : JString) (s : St JettyWebSocket.Handler) :
    delivered (texted text s).log = delivered s.log := by
  obtain ⟨e, t, heq⟩ := startHeartbeatTimer_eq (s.push (.text text))
  unfold texted
  rw [heq]
  rfl

/-- **Application exceptions and payloads**, with either handler. Each frame of the payload carries a message for which
the application is there when its turn comes. Then all messages reach it, the receive method returns, and a POST ends
with its close check, exactly if no callback throws on a MESSAGE or JSON_MESSAGE frame. -/
theorem confined (n : ℕ) (text : JString) (frames : List SocketIOFrame) (hparse : parse text = some (.ok frames)) :
    (∀ s : St JettyWebSocket.Handler, AtEachTurn frames (Session.onMessage (app n)) (Due (app n)) (texted text s) →
      (Returns (JettyWebSocket.onText (app n) text) s ∧ AllDelivered frames s (JettyWebSocket.onText (app n) text s).2 ↔
        QuietOnPlain n frames (texted text s))) ∧
    ∀ s : St JettyContinuation.Handler, s.handler.is_open = true →
      AtEachTurn frames (Session.onMessage (app n)) (Due (app n)) s →
      (Returns (JettyContinuation.handlePost (app n) (some (.ok text))) s ∧
          (∃ t, AllDelivered frames s t ∧
            forEach frames (Session.onMessage (app n)) s = (.ok (), t) ∧
            JettyContinuation.handlePost (app n) (some (.ok text)) s = JettyContinuation.closeCheck (app n) t) ↔
        QuietOnPlain n frames s) := by
  refine ⟨fun s hdue => ?_, fun s hopen hdue => ?_⟩
  · rw [← forEach_confined unseen_socket hdue]
    unfold Returns AllDelivered
    rw [onText_eq hparse, ← delivered_texted text s]
    constructor
    · rintro ⟨⟨u, t, ht⟩, hdelivered⟩
      rw [ht] at hdelivered
      exact ⟨t, ht, hdelivered⟩
    · rintro ⟨t, ht, hdelivered⟩
      rw [ht]
      exact ⟨⟨(), t, rfl⟩, hdelivered⟩
  · rw [← forEach_confined unseen_http hdue]
    constructor
    · rintro ⟨-, t, hdelivered, ht, -⟩
      exact ⟨t, ht, hdelivered⟩
    · rintro ⟨t, ht, hdelivered⟩
      have hpost : JettyContinuation.handlePost (app n) (some (.ok text)) s = JettyContinuation.closeCheck (app n) t :=
        (handlePost_eq hparse hopen).trans (bind_of_ok ht _)
      obtain ⟨u, t', ht'⟩ := closeCheck_returns n t
      exact ⟨⟨u, t', hpost.trans ht'⟩, t, hdelivered, ht, hpost⟩

/-- an event and a message -/
def eventThenMessage : JString :=
  str "\uFFFD29\uFFFD5:::\x7b\"name\":\"m\",\"args\":[\"x\"]\x7d\uFFFD5\uFFFD3:::b"

/-- two messages -/
def twoMessages : JString := str "\uFFFD5\uFFFD3:::a\uFFFD5\uFFFD3:::b"

/-- the frame of an event `m` -/
def eventFrame : SocketIOFrame := ⟨.event, 1, [], str "\x7b\"name\":\"m\",\"args\":[\"x\"]\x7d"⟩

/-- an application that names the event `m`, and throws when it is called with it -/
def throwing : St JettyContinuation.Handler := { polled with acts := [.ret [str "m"], .raise .application] }

/-- the application's exception on the event does not keep the message from it -/
theorem confined_event : Returns (JettyContinuation.handlePost (app 4) (some (.ok eventThenMessage))) throwing := by
  have hparse : parse eventThenMessage = some (.ok [eventFrame, ⟨.message, 0, [], str "b"⟩]) := by decide +kernel
  have hevent : messageOf eventFrame = some (str "m", str "x") := by decide +kernel
  have hdue : Due (app 4) eventFrame throwing := by
    refine ⟨rfl, hevent ▸ rfl, fun _ key m hm => ?_⟩
    obtain ⟨rfl, rfl⟩ := by simpa using hevent.symm.trans hm
    exact ⟨[str "m"], _, rfl, by decide, rfl⟩
  have hafter : ∀ t, Session.onMessage (app 4) eventFrame throwing = (.ok (), t) → t.session.inbound = true ∧ t.acts = [] := by
    intro t ht
    have hrun : (Session.onMessage (app 4) eventFrame throwing).2.session.inbound = true ∧
        (Session.onMessage (app 4) eventFrame throwing).2.acts = [] := by decide +kernel
    rw [ht] at hrun
    exact hrun
  refine (((confined 4 _ _ hparse).2 throwing rfl ?_).2 ?_).1
  · refine atEachTurn_cons.2 ⟨hdue, fun t ht => atEachTurn_cons.2 ⟨?_, fun _ _ => atEachTurn_nil⟩⟩
    exact ⟨(hafter t ht).1, rfl, nofun⟩
  · refine atEachTurn_cons.2 ⟨fun hplain => ?_, fun t ht => atEachTurn_cons.2 ⟨fun _ => ?_, fun _ _ => atEachTurn_nil⟩⟩
    · rcases hplain with h | h <;> cases h
    · refine app_returns mild_http (fun e he => ?_) _
      rw [show (t.push _).acts = [] from (hafter t ht).2] at he
      cases he

/-- an application that throws on the first message -/
def refusing : St JettyContinuation.Handler := { polled with acts := [.raise .application] }

/-- the application's exception on the first of two messages keeps the second one from it, and leaves the POST -/
theorem message_stops_payload :
    parse twoMessages = some (.ok [⟨.message, 0, [], str "a"⟩, ⟨.message, 0, [], str "b"⟩]) ∧
      refusing.session.inbound = true ∧ refusing.handler.is_open = true ∧
      ¬ Returns (JettyContinuation.handlePost (app 3) (some (.ok twoMessages))) refusing ∧
      delivered (JettyContinuation.handlePost (app 3) (some (.ok twoMessages)) refusing).2.log =
        [(str "message", str "a")] := by
  refine ⟨?_, rfl, rfl, not_returns_of_error rfl, ?_⟩
  · decide +kernel
  · decide +kernel

end SocketIOJava.Receiving
