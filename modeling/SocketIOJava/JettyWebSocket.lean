/-
`JettyWebSocketTransportHandler`: the handler of the WebSocket transports.

`outbound` is the container's connection, null before it opens and after `abort`. Of the container it is assumed that a
connection is open until `disconnect` is called on it or the environment loses it, that a write to an open connection may
raise an `IOException`, and that the close of a connection is reported by `onClose`. It is a parameter when `disconnect`
has the close reported: from inside (`reports`), or later, as an event of its own. `Handler` is the handler in a container
that reports it later.
-/
import SocketIOJava.Session

namespace SocketIOJava.JettyWebSocket

open Program SocketIOJava.Text SocketIOJava.Frame SocketIOJava.Session

structure Connection where
  isOpen : Bool
deriving DecidableEq, Repr

structure JettyWebSocketTransportHandler (reports : Bool) where
  outbound : Option Connection
  endpoint : JString
deriving DecidableEq, Repr

/-- the handler in a container that reports the close of a connection so -/
abbrev HandlerIn (reports : Bool) := JettyWebSocketTransportHandler reports

abbrev Handler := HandlerIn false

/-- the init parameters that the handler reads, where they are set -/
structure SocketIOConfig where
  heartbeatDelay : Option ℤ
  heartbeatTimeout : Option ℤ
deriving DecidableEq, Repr

def DEFAULT_MAX_IDLE : ℤ := 300 * 1000

def DEFAULT_HEARTBEAT_DELAY : ℤ := DEFAULT_MAX_IDLE / 2

def DEFAULT_HEARTBEAT_TIMEOUT : ℤ := 10 * 1000

variable {reports : Bool}

/-- a session that `createSession` registered, with its handler after `init` -/
def createdIn (reports : Bool) (config : SocketIOConfig) : St (HandlerIn reports) where
  session :=
    { state := .connecting, inbound := true, handler := false, closeId := none, timedout := false
      hbDelay := config.heartbeatDelay.getD DEFAULT_HEARTBEAT_DELAY
      timeout := config.heartbeatTimeout.getD DEFAULT_HEARTBEAT_TIMEOUT
      hbDelayTask := none, timeoutTask := none, messageId := 0, lStartTime := 0 }
  handler := ⟨none, []⟩
  executor := ⟨0, [], 0⟩
  registered := true
  acts := []
  io := []
  log := []

abbrev created (config : SocketIOConfig) : St Handler := createdIn false config

def setOutbound (c : Option Connection) (s : St (HandlerIn reports)) : St (HandlerIn reports) :=
  { s with handler.outbound := c }

/-- `outbound.disconnect()`, which closes the connection -/
def disconnectOutbound (cb : Callback (HandlerIn reports)) : M (HandlerIn reports) Unit := do
  match (← get).handler.outbound with
  | none => raise .nullPointer
  | some c => do
    modify (setOutbound (some ⟨false⟩))
    whenever (reports && c.isOpen) (onShutdown cb)

/-- `outbound.isOpen()` -/
def isOpen : M (HandlerIn reports) Bool := do
  match (← get).handler.outbound with
  | none => raise .nullPointer
  | some c => return c.isOpen

/-- `outbound.sendMessage(data)` -/
def sendText (data : JString) : M (HandlerIn reports) Unit := do
  modify fun s => s.push (.wrote data s.nextWriteFails)
  write

/-- `sendMessage(frame)` over an open connection -/
def deliver (cb : Callback (HandlerIn reports)) (f : SocketIOFrame) : M (HandlerIn reports) Unit := do
  let s ← get
  catching Abrupt.isIOException (sendText (f.encode s.handler.endpoint))
    (do
      disconnectOutbound cb
      raise .socketIOException)

def sendMessage (cb : Callback (HandlerIn reports)) (f : SocketIOFrame) : M (HandlerIn reports) Unit := do
  modify (·.push (.frame f))
  if ← isOpen then deliver cb f else raise .socketIOClosedException

def abort (cb : Callback (HandlerIn reports)) : M (HandlerIn reports) Unit := do
  whenever (← get).handler.outbound.isSome (disconnectOutbound cb)
  modify (setOutbound none)
  onShutdown cb

def disconnect (cb : Callback (HandlerIn reports)) : M (HandlerIn reports) Unit := do
  onDisconnect cb .disconnect
  disconnectOutbound cb

/-- the connection is there, and it is closed or the write fails -/
def refuses (s : St (HandlerIn reports)) (_f : SocketIOFrame) : Bool :=
  match s.handler.outbound with
  | none => false
  | some c => !c.isOpen || s.nextWriteFails

instance : TransportHandler (HandlerIn reports) where
  sendMessage := sendMessage
  abort := abort
  disconnect := disconnect
  disconnectWhenEmpty := pure ()
  setNamespace a := modify fun s => { s with handler.endpoint := a }
  isOpen := isOpen
  refuses := refuses

/-- a close that is reported later -/
theorem disconnectOutbound_some (cb : Callback Handler) {s : St Handler} {c : Connection} (hc : s.handler.outbound = some c) :
    disconnectOutbound cb s = (.ok (), setOutbound (some ⟨false⟩) s) := by
  unfold disconnectOutbound
  rw [get_bind, hc]
  rfl

theorem disconnectOutbound_none (cb : Callback Handler) {s : St Handler} (hc : s.handler.outbound = none) :
    disconnectOutbound cb s = (.error (.thrown .nullPointer), s) := by
  unfold disconnectOutbound
  rw [get_bind, hc]
  rfl

/-- an abort then drops the connection and ends the session -/
theorem abort_eq (cb : Callback Handler) (s : St Handler) : abort cb s = onShutdown cb (setOutbound none s) := by
  unfold abort
  rw [get_bind]
  cases hc : s.handler.outbound with
  | none => rfl
  | some c => exact bind_of_ok (disconnectOutbound_some cb hc) _

theorem isOpen_some {s : St Handler} {c : Connection} (hc : s.handler.outbound = some c) :
    (TransportHandler.isOpen : M Handler Bool) s = (.ok c.isOpen, s) := by
  change isOpen s = _
  unfold isOpen
  rw [get_bind, hc]
  rfl

theorem isOpen_none {s : St Handler} (hc : s.handler.outbound = none) :
    (TransportHandler.isOpen : M Handler Bool) s = (.error (.thrown .nullPointer), s) := by
  change isOpen s = _
  unfold isOpen
  rw [get_bind, hc]
  rfl

theorem sendTyped_null (cb : Callback Handler) {s : St Handler} (messageType : ℤ) (message : JString)
    (hc : s.handler.outbound = none) : sendTyped cb messageType message s = (.error (.thrown .nullPointer), s) :=
  bind_of_error (isOpen_none hc) _

/-- the state after a text was written -/
def written (data : JString) (s : St (HandlerIn reports)) : St (HandlerIn reports) :=
  { s.push (.wrote data s.nextWriteFails) with io := s.io.tail }

theorem deliver_ok (cb : Callback (HandlerIn reports)) {s : St (HandlerIn reports)} (h : s.nextWriteFails = false) (f : SocketIOFrame) :
    deliver cb f s = (.ok (), written (f.encode s.handler.endpoint) s) := by
  unfold deliver
  rw [get_bind]
  exact catching_of_ok (write_ok (s := s.push (.wrote (f.encode s.handler.endpoint) s.nextWriteFails)) h) _ _

theorem deliver_fails (cb : Callback Handler) {s : St Handler} {c : Connection} (hc : s.handler.outbound = some c)
    (h : s.nextWriteFails = true) (f : SocketIOFrame) :
    deliver cb f s =
      (.error (.thrown .socketIOException), setOutbound (some ⟨false⟩) (written (f.encode s.handler.endpoint) s)) := by
  have hwrite : sendText (f.encode s.handler.endpoint) s =
      (.error (.thrown .ioException), written (f.encode s.handler.endpoint) s) :=
    write_fails (s := s.push (.wrote (f.encode s.handler.endpoint) s.nextWriteFails)) h
  have hclose : disconnectOutbound cb (written (f.encode s.handler.endpoint) s) =
      (.ok (), setOutbound (some ⟨false⟩) (written (f.encode s.handler.endpoint) s)) :=
    disconnectOutbound_some cb (s := written (f.encode s.handler.endpoint) s) hc
  have hcaught := catching_of_error hwrite Abrupt.isIOException (do disconnectOutbound cb; raise .socketIOException)
  unfold deliver
  rw [get_bind]
  exact hcaught.trans (bind_of_ok hclose _)

theorem sendMessage_null {cb : Callback Handler} {f : SocketIOFrame} {s : St Handler} (h : s.handler.outbound = none) :
    sendMessage cb f s = (.error (.thrown .nullPointer), s.push (.frame f)) := by
  have hopen : isOpen (s.push (.frame f)) = (.error (.thrown .nullPointer), s.push (.frame f)) := by
    simp only [isOpen, get_bind, St.push, h]
    rfl
  unfold sendMessage
  rw [modify_bind]
  exact bind_of_error hopen _

theorem sendMessage_some {cb : Callback (HandlerIn reports)} {f : SocketIOFrame} {s : St (HandlerIn reports)} {c : Connection}
    (h : s.handler.outbound = some c) :
    sendMessage cb f s = (if c.isOpen then deliver cb f else raise .socketIOClosedException) (s.push (.frame f)) := by
  have hopen : isOpen (s.push (.frame f)) = (.ok c.isOpen, s.push (.frame f)) := by
    simp only [isOpen, get_bind, St.push, h]
    rfl
  unfold sendMessage
  rw [modify_bind]
  exact bind_of_ok hopen _

/-- a frame that is not refused is written, or there is no connection -/
theorem sendMessage_accepted (cb : Callback Handler) {f : SocketIOFrame} {s : St Handler} (h : refuses s f = false) :
    sendMessage cb f s = (.error (.thrown .nullPointer), s.push (.frame f)) ∨
      sendMessage cb f s = (.ok (), written (f.encode s.handler.endpoint) (s.push (.frame f))) := by
  unfold refuses at h
  cases hout : s.handler.outbound with
  | none => exact .inl (sendMessage_null hout)
  | some c =>
    rw [hout] at h
    simp only [Bool.or_eq_false_iff, Bool.not_eq_eq_eq_not, Bool.not_false] at h
    right
    rw [sendMessage_some hout, if_pos h.1]
    exact deliver_ok cb (s := s.push (.frame f)) h.2 f

/-! ## Requests and callbacks of the container -/

/-- the upgrade of a request: `onOpen` with a new connection, then a CONNECT frame -/
def upgrade (cb : Callback (HandlerIn reports)) : M (HandlerIn reports) Unit := do
  modify (setOutbound (some ⟨true⟩))
  sendMessage cb (.new .connect TEXT_MESSAGE_TYPE [])

/-- `handle`, for the request that created the session -/
def connect (cb : Callback (HandlerIn reports)) : M (HandlerIn reports) Unit := do
  upgrade cb
  Session.onConnect cb true

/-- `handle`, for a later request with the session's id; it takes the session's handler, null before the session is
connected -/
def reconnect (cb : Callback (HandlerIn reports)) : M (HandlerIn reports) Unit := do
  derefHandler
  upgrade cb

/-- `onMessage(String)` -/
def onText (cb : Callback (HandlerIn reports)) (message : JString) : M (HandlerIn reports) Unit := do
  modify fun s => startHeartbeatTimer (s.push (.text message))
  match parse message with
  | none => stop .hangs
  | some frames => do
    let frames ← lift frames
    forEach frames (onMessage cb)

/-- the connection is lost, before the container reports it by `onClose` -/
def lose (s : St (HandlerIn reports)) : St (HandlerIn reports) :=
  setOutbound (s.handler.outbound.map fun _ => ⟨false⟩) s

end SocketIOJava.JettyWebSocket
