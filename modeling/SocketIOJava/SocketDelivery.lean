/-
What a WebSocket session writes and what it receives.

A frame that `sendMessage` takes is encoded and written at once.

- `faithful_connected`, `faithful_step`: what was written is, text by text, the encoding of what was spoken, from the
  connection on and after every later event.
- `adds_own`: between the messages of the client no frame is received.
- `heard_text`: a message that is read as one frame is one frame received.
-/
import SocketIOJava.WireDelivery
import SocketIOJava.Lifecycle
import SocketIOJava.Hearing

namespace SocketIOJava.SocketDelivery

open Program SocketIOJava.Text SocketIOJava.Frame SocketIOJava.Session SocketIOJava.Run SocketIOJava.Traversal
  SocketIOJava.JettyTraversal SocketIOJava.Hearing JettyWebSocket
open SocketIOJava.WireDelivery hiding Faithful

/-! ## What is written -/

/-- what was written is what was spoken, and the handler has the namespace of the history -/
abbrev Faithful : St Handler → Prop := WireDelivery.Faithful (fun h : Handler => h.endpoint) fun _ => True

variable {s : St Handler}

/-- **One message**: it is written at once, with its frame right below it in the history, or it is not written. -/
theorem faithful_sendMessage (cb : Callback Handler) (f : SocketIOFrame) :
    Along (Preserves Faithful) (sendMessage cb f) := by
  intro s h
  cases hc : s.handler.outbound with
  | none =>
    rw [sendMessage_null hc]
    exact h.congr id rfl rfl rfl
  | some c =>
    rw [sendMessage_some hc]
    by_cases hopen : c.isOpen = true
    · rw [if_pos hopen]
      cases hfails : s.nextWriteFails with
      | true =>
        rw [deliver_fails cb (s := s.push (.frame f)) hc hfails]
        refine h.congr id rfl rfl ?_
        change views (.wrote _ s.nextWriteFails :: .frame f :: s.log) = views s.log
        rw [hfails]
        rfl
      | false =>
        rw [deliver_ok cb (s := s.push (.frame f)) hfails]
        refine h.wrote trivial rfl rfl (f := f) ?_
        exact congrArg (fun b => Entry.wrote (f.encode s.handler.endpoint) b :: Entry.frame f :: s.log) hfails
    · rw [if_neg hopen]
      exact h.congr id rfl rfl rfl

theorem faithful_setOutbound (c : Option Connection) (s : St Handler) : Preserves Faithful s (setOutbound c s) :=
  faithful_of id rfl rfl rfl

theorem writer : Writer (fun h : Handler => h.endpoint) fun _ => True where
  sendMessage := faithful_sendMessage
  abort cb hshutdown s := by
    have habort : TransportHandler.abort cb s = onShutdown cb (setOutbound none s) := abort_eq cb s
    rw [habort]
    exact IsTrans.trans _ _ _ (faithful_setOutbound none s) (hshutdown _)
  disconnect cb hdisconnect _ := by
    refine hdisconnect.bind fun _ s => ?_
    cases hc : s.handler.outbound with
    | none => rw [disconnectOutbound_none cb hc]; exact fun h => h
    | some c => rw [disconnectOutbound_some cb hc]; exact faithful_setOutbound _ s
  disconnectWhenEmpty := along_pure _
  isOpen := Socket.along_isOpen
  setNamespace _ _ := ⟨_, rfl, rfl, id⟩

theorem keeps : Keeps Faithful := writer.keeps

/-! ### Runs -/

/-- the upgrade of a request, the first one or a later one -/
theorem faithful_upgrade (cb : Callback Handler) : Along (Preserves Faithful) (upgrade cb) := by
  refine Along.bind (along_modify fun s => ?_) fun _ => faithful_sendMessage cb _
  exact faithful_of id rfl rfl rfl

/-- the container's events, but for the request that creates the session -/
theorem faithful_serve (n : ℕ) {e : SocketEvent} (he : e ≠ .connect) : Along (Preserves Faithful) (serveSocket (app n) e) := by
  cases e with
  | connect => exact absurd rfl he
  | reconnect => exact along_derefHandler.bind fun _ => faithful_upgrade _
  | text message =>
    have hnoted (s : St Handler) : Preserves Faithful s (startHeartbeatTimer (s.push (.text message))) :=
      IsTrans.trans s (s.push (.text message)) _ (faithful_same rfl rfl rfl) (keeps.startHeartbeatTimer _)
    refine (along_modify hnoted).bind fun _ => ?_
    cases parse message with
    | none => exact along_stop _
    | some received => exact (along_lift received).bind fun received => (keeps.frames n).along_frames received
  | lose => exact along_modify fun s => faithful_of id rfl rfl rfl
  | onClose => exact (keeps.moves n).along_onShutdown

/-- an event other than the request that creates the session -/
def Later (e : Event SocketEvent) : Prop := e ≠ .container .connect

theorem faithful_step {i : Input SocketEvent} (hi : Later i.event) : Preserves Faithful s (step serveSocket s i) := fun h =>
  keeps.along_perform _ (fun _ hc => faithful_serve _ fun hconnect => hi (hc.trans (congrArg Event.container hconnect)))
    { s with acts := i.acts, io := i.io } (h.congr id rfl rfl rfl)

/-- the request that creates the session -/
theorem faithful_first (n : ℕ) (h : Faithful s) (hh : s.session.handler = false) (hi : s.session.inbound = true) :
    Faithful (connect (app n) s).2 := by
  have hupgraded : Faithful (upgrade (app n) s).2 := faithful_upgrade _ s h
  let f : SocketIOFrame := .new .connect TEXT_MESSAGE_TYPE []
  let opened : St Handler := (setOutbound (some ⟨true⟩) s).push (.frame f)
  have hsent : upgrade (app n) s = deliver (app n) f opened := @sendMessage_some false (app n) f (setOutbound (some ⟨true⟩) s) ⟨true⟩ rfl
  unfold connect
  cases hfails : s.nextWriteFails with
  | true =>
    rw [bind_of_error (hsent.trans (deliver_fails (app n) (s := opened) rfl hfails f))]
    rwa [hsent, deliver_fails (app n) (s := opened) rfl hfails f] at hupgraded
  | false =>
    let told : St Handler := written (f.encode opened.handler.endpoint) opened
    have htold : upgrade (app n) s = (.ok (), told) := hsent.trans (deliver_ok (app n) (s := opened) hfails f)
    have hfaithful : Faithful told := (congrArg (fun r => Faithful r.2) htold).mp hupgraded
    rw [bind_of_ok htold, onConnect_first (s := told) _ hh hi]
    exact keeps.along_announce n _ ⟨⟨rfl, hfaithful.endpoint⟩, trivial, hfaithful.texts⟩

theorem faithful_created (config : SocketIOConfig) : Faithful (created config) := ⟨⟨rfl, rfl⟩, trivial, rfl⟩

/-- a session right after the request that created it -/
def connected (config : SocketIOConfig) (acts : List Act) (io : List Bool) : St Handler :=
  step serveSocket (created config) ⟨.container .connect, acts, io⟩

theorem faithful_connected (config : SocketIOConfig) (acts : List Act) (io : List Bool) :
    Faithful (connected config acts io) := by
  have hinput : Faithful { created config with acts := acts, io := io } := (faithful_created config).congr id rfl rfl rfl
  exact faithful_first _ hinput rfl rfl

/-! ## What is received -/

/-- an event that is neither a connection nor a message of the client -/
def Own : Event SocketEvent → Prop
  | .container .lose | .container .onClose | .fire _ | .outbound _ | .tick _ => True
  | .container .connect | .container .reconnect | .container (.text _) => False

/-- **Between the messages of the client nothing is received.** -/
theorem adds_own (n : ℕ) {e : Event SocketEvent} (he : Own e) : Along (Adds Local) (perform serveSocket (app n) e) := by
  refine deaf_socket.along_perform n fun c hc => ?_
  cases c with
  | lose => exact along_modify fun s => adds_of_log rfl
  | onClose => exact along_local (deaf_socket.outgoing n).along_onShutdown
  | connect | reconnect | text _ => rw [hc] at he; exact he.elim

/-- **A message that is read as one frame is one frame received.** -/
theorem heard_text (n : ℕ) {text : JString} {f : SocketIOFrame} (hparse : parse text = some (.ok [f])) (s : St Handler) :
    heard (serveSocket (app n) (.text text) s).2.log = heard s.log ++ [f] := by
  have hframes : serveSocket (app n) (.text text) s = forEach [f] (Session.onMessage (app n)) (Receiving.texted text s) :=
    Receiving.onText_eq hparse s
  have hone : (forEach [f] (Session.onMessage (app n)) (Receiving.texted text s)).2 =
      (Session.onMessage (app n) f (Receiving.texted text s)).2 := discard_snd _ _
  have hlog : (Receiving.texted text s).log = .text text :: s.log := startHeartbeatTimer_log (s.push (.text text))
  rw [hframes, hone, deaf_socket.heard_onMessage, hlog]
  rfl

theorem local_writes : Socket.Writes (Adds Local) where
  io _ := adds_of_log rfl
  wrote _ data failed := adds_cons (e := .wrote data failed) rfl rfl
  disconnected _ _ := adds_of_log rfl

/-- the request that creates the session brings no message -/
theorem adds_connect (n : ℕ) : Along (Adds Local) (connect (app n : Callback Handler)) := by
  refine (local_writes.along_upgrade _ (fun _ => adds_of_log rfl) fun _ => ?_).bind fun _ => ?_
  · exact adds_cons (e := .frame (.new .connect TEXT_MESSAGE_TYPE [])) rfl rfl
  · exact local_opens.along_onConnect local_closed (fun s _ => deaf_socket.along_call n .onConnect s)
      (deaf_socket.calls_local n).abort

theorem heard_connected (config : SocketIOConfig) (acts : List Act) (io : List Bool) :
    heard (connected config acts io).log = [] :=
  heard_of_adds (adds_connect _ { created config with acts := acts, io := io })

/-- whatever the message, the history is only added to -/
theorem suffix_text (s : St Handler) (text : JString) (acts : List Act) (io : List Bool) :
    s.log <:+ (step serveSocket s ⟨.container (.text text), acts, io⟩).log :=
  (Lifecycle.socket_keeps s [⟨.container (.inl (.text text)), acts, io⟩]).1

end SocketIOJava.SocketDelivery
