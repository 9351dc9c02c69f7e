/-
`DefaultSession`: one client's session, with the parts of the world it acts on.

A method is a program over the state `St η` of the session and its surroundings: the session's fields, the transport
handler's (of type `η`), the executor with its pending tasks, whether the session manager holds the session, and what
the environment will answer (`acts`: what the application does in its callbacks, `io`: which writes raise an
`IOException`). `log` is the history, latest entry first; no method reads it.

The session and its handler call each other: the session calls the handler through `TransportHandler`, whose instances
are the two Jetty handlers. Both call the application back. A method takes the application as a parameter
`cb : InboundCall → M η (List JString)`; `behave` is the application, which follows `acts` and may call the session again
through its outbound (`outbound`).

Left out: logging, and the session's attributes and handshake map, which none of these methods reads.
-/
import SocketIOJava.Lib.Program
import SocketIOJava.Frame

namespace SocketIOJava.Session

open Program SocketIOJava.Text SocketIOJava.Frame

/-! ## Vocabulary -/

inductive ConnectionState where
  | connecting
  | connected
  | closing
  | closed
deriving DecidableEq, Repr

def ConnectionState.value : ConnectionState → ℕ
  | .connecting => 0
  | .connected => 1
  | .closing => 2
  | .closed => 3

inductive DisconnectReason where
  | disconnect
  | timeout
  | closeFailed
  | error
  | closedRemotely
  | closed
deriving DecidableEq, Repr

/-- the methods of `SocketIOInbound`, called by the session -/
inductive InboundCall where
  | onConnect
  | onDisconnect (reason : DisconnectReason)
  | onMessage (key message : JString)
  | setEventnames
  | setNamespace (a : JString)
deriving DecidableEq, Repr

/-- the methods of `SocketIOOutbound` that act, called by the application -/
inductive OutboundCall where
  | disconnect
  | close
  | sendMessage (message : JString)
  | sendTyped (messageType : ℤ) (message : JString)
  | emitMessage (key message : JString)
deriving DecidableEq, Repr

/-- what the application does next in a callback; `setEventnames` returns `names`, the other callbacks nothing -/
inductive Act where
  | call (c : OutboundCall)
  | ret (names : List JString)
  | raise (e : JavaException)
deriving DecidableEq, Repr

/-- why a method does not complete normally; `hangs`: a loop in it never ends -/
inductive Abrupt where
  | thrown (e : JavaException)
  | hangs
deriving DecidableEq, Repr

/-- `catch (Throwable e)` -/
def Abrupt.isThrowable : Abrupt → Bool
  | .thrown _ => true
  | .hangs => false

/-- `catch (SocketIOException e)` -/
def Abrupt.isSocketIOException : Abrupt → Bool
  | .thrown e => e.isSocketIOException
  | .hangs => false

/-- `catch (IOException e)`; a `SocketIOException` is an `IOException` -/
def Abrupt.isIOException : Abrupt → Bool
  | .thrown e => e = .ioException || e.isSocketIOException
  | .hangs => false

inductive TaskKind where
  | onTimeout
  | sendPing
deriving DecidableEq, Repr

/-- a task of the executor -/
structure Task where
  id : ℕ
  kind : TaskKind
  due : ℕ
deriving DecidableEq, Repr

/-- the scheduled executor; `pending` are the tasks neither cancelled nor started -/
structure Executor where
  ticks : ℕ
  pending : List Task
  next : ℕ
deriving DecidableEq, Repr

/-- the clock, which never reads zero -/
def Executor.currentTimeMillis (e : Executor) : ℕ := e.ticks + 1

/-- the fields of `DefaultSession`; of the two references it only matters whether they are null -/
structure DefaultSession where
  state : ConnectionState
  inbound : Bool
  handler : Bool
  closeId : Option JString
  timedout : Bool
  hbDelay : ℤ
  timeout : ℤ
  hbDelayTask : Option Task
  timeoutTask : Option Task
  messageId : ℕ
  lStartTime : ℕ
deriving DecidableEq, Repr

/-- what happened, for stating properties of runs -/
inductive Entry where
  /-- an assignment of the session's state -/
  | state (new : ConnectionState)
  /-- `startClose`, `onClose(data)` or the first `onConnect(handler)` with an inbound was called in this state -/
  | startClose (old : ConnectionState)
  | onClose (old : ConnectionState) (data : JString)
  | opened (old : ConnectionState)
  | called (c : InboundCall)
  | returned (c : InboundCall)
  /-- the inbound gave its event names for an EVENT frame -/
  | listed (names : List JString)
  /-- a call of the application; `refused`: the transport would refuse a CLOSE frame at this moment -/
  | outbound (c : OutboundCall) (refused : Bool)
  /-- a frame passed to `handler.sendMessage` -/
  | frame (f : SocketIOFrame)
  /-- a text handed to the transport, and whether that raised an `IOException` -/
  | wrote (data : JString) (failed : Bool)
  /-- a frame received by `onMessage` -/
  | received (f : SocketIOFrame)
  /-- the session manager forgot the session's id -/
  | removed
  /-- a text message came in on a WebSocket -/
  | text (message : JString)
  /-- a GET was suspended -/
  | parked
  /-- a GET was answered with the buffered messages -/
  | answered
  /-- the container called back for the poll in `continuation` -/
  | released
  /-- a message completed the poll in `continuation` -/
  | completed
  /-- the response of the connect request was finished, or finishing it raised an `IOException` -/
  | finished (failed : Bool)
  | responded (status : ℕ)
deriving DecidableEq, Repr

/-- the session and its surroundings -/
structure St (η : Type) where
  session : DefaultSession
  handler : η
  executor : Executor
  registered : Bool
  acts : List Act
  io : List Bool
  log : List Entry

abbrev M (η : Type) := Prog (St η) Abrupt

variable {η : Type}

def St.push (s : St η) (e : Entry) : St η := { s with log := e :: s.log }

def raise {α : Type} (e : JavaException) : M η α := stop (.thrown e)

/-- a computation on strings -/
def lift {α : Type} (r : Except JavaException α) : M η α :=
  match r with
  | .ok a => pure a
  | .error e => raise e

/-- the next write of the transport; `false` where nothing is said about it -/
def St.nextWriteFails (s : St η) : Bool := s.io.headD false

theorem nextWriteFails_of_io {s : St η} (h : ∀ b ∈ s.io, b = false) : s.nextWriteFails = false := by
  unfold St.nextWriteFails
  cases hio : s.io with
  | nil => rfl
  | cons b io => exact h b (hio ▸ List.mem_cons_self)

/-- a write of the transport -/
def write : M η Unit := do
  let s ← get
  modify fun s => { s with io := s.io.tail }
  if s.nextWriteFails then raise .ioException

theorem write_ok {s : St η} (h : s.nextWriteFails = false) :
    (write : M η Unit) s = (.ok (), { s with io := s.io.tail }) := by
  simp only [write, get_bind, modify_bind, h, Bool.false_eq_true, if_false]
  rfl

theorem write_fails {s : St η} (h : s.nextWriteFails = true) :
    (write : M η Unit) s = (.error (.thrown .ioException), { s with io := s.io.tail }) := by
  simp only [write, get_bind, modify_bind, h, if_true]
  rfl

/-! ## Timers -/

/-- `future.cancel(false)`, if there is a task -/
def Executor.cancel (e : Executor) (t : Option Task) : Executor :=
  { e with pending := e.pending.filter fun x => some x ≠ t }

def Executor.newTask (e : Executor) (kind : TaskKind) (delay : ℤ) : Task := ⟨e.next, kind, e.ticks + delay.toNat⟩

def Executor.schedule (e : Executor) (t : Task) : Executor :=
  { e with pending := e.pending ++ [t], next := e.next + 1 }

def clearHeartbeatTimer (s : St η) : St η :=
  { s with executor := s.executor.cancel s.session.hbDelayTask, session.hbDelayTask := none }

def clearTimeoutTimer (s : St η) : St η :=
  { s with
    executor := s.executor.cancel s.session.timeoutTask, session.timeoutTask := none, session.lStartTime := 0 }

/-- the start time is noted, after a running timer is cleared -/
def stamp (s : St η) : St η :=
  let s := if s.session.lStartTime ≠ 0 then clearTimeoutTimer s else s
  { s with session.lStartTime := s.executor.currentTimeMillis }

def scheduleTimeout (s : St η) : St η :=
  let t := s.executor.newTask .onTimeout s.session.timeout
  { s with executor := s.executor.schedule t, session.timeoutTask := some t }

def scheduleHeartbeat (s : St η) : St η :=
  let t := s.executor.newTask .sendPing s.session.hbDelay
  { s with executor := s.executor.schedule t, session.hbDelayTask := some t }

def startTimeoutTimer (s : St η) : St η :=
  if !s.session.timedout && s.session.timeout > 0 then scheduleTimeout (stamp s) else stamp s

def startHeartbeatTimer (s : St η) : St η :=
  if !s.session.timedout && s.session.hbDelay > 0 then scheduleHeartbeat (clearHeartbeatTimer s)
  else clearHeartbeatTimer s

/-- what a start of the timeout timer changes -/
theorem startTimeoutTimer_eq (s : St η) :
    ∃ e t l, startTimeoutTimer s = { s with executor := e, session.timeoutTask := t, session.lStartTime := l } := by
  have hstamp : ∃ e t l, stamp s = { s with executor := e, session.timeoutTask := t, session.lStartTime := l } := by
    by_cases h : s.session.lStartTime ≠ 0
    · exact ⟨_, none, _, by simp only [stamp, if_pos h]; rfl⟩
    · exact ⟨s.executor, s.session.timeoutTask, s.executor.currentTimeMillis, by simp only [stamp, if_neg h]⟩
  obtain ⟨e, t, l, hs⟩ := hstamp
  unfold startTimeoutTimer
  rw [hs]
  split_ifs
  · exact ⟨_, _, _, rfl⟩
  · exact ⟨_, _, _, rfl⟩

/-- what a start of the heartbeat timer changes -/
theorem startHeartbeatTimer_eq (s : St η) :
    ∃ e t, startHeartbeatTimer s = { s with executor := e, session.hbDelayTask := t } := by
  unfold startHeartbeatTimer
  split_ifs
  · exact ⟨_, _, rfl⟩
  · exact ⟨_, _, rfl⟩

section

variable {s : St η} {P : Executor → Prop} (cancel : ∀ e t, P e → P (e.cancel t))
  (schedule : ∀ e kind delay, P e → P (e.schedule (e.newTask kind delay)))
include cancel schedule

/-- what holds of the executor whatever is cancelled and scheduled is kept by a start -/
theorem startTimeoutTimer_executor (h : P s.executor) : P (startTimeoutTimer s).executor := by
  have hstamp : P (stamp s).executor := by
    unfold stamp
    split_ifs
    · exact cancel _ _ h
    · exact h
  unfold startTimeoutTimer
  split_ifs
  · exact schedule _ _ _ hstamp
  · exact hstamp

theorem startHeartbeatTimer_executor (h : P s.executor) : P (startHeartbeatTimer s).executor := by
  have hclear : P (clearHeartbeatTimer s).executor := cancel _ _ h
  unfold startHeartbeatTimer
  split_ifs
  · exact schedule _ _ _ hclear
  · exact hclear

end

/-! ### What a start leaves alone -/

section

variable (s : St η)

@[simp] theorem startTimeoutTimer_ticks : (startTimeoutTimer s).executor.ticks = s.executor.ticks :=
  startTimeoutTimer_executor (P := fun e => e.ticks = s.executor.ticks) (fun _ _ => id) (fun _ _ _ => id) rfl

@[simp] theorem startHeartbeatTimer_ticks : (startHeartbeatTimer s).executor.ticks = s.executor.ticks :=
  startHeartbeatTimer_executor (P := fun e => e.ticks = s.executor.ticks) (fun _ _ => id) (fun _ _ _ => id) rfl

@[simp] theorem startTimeoutTimer_log : (startTimeoutTimer s).log = s.log := by
  obtain ⟨e, t, l, heq⟩ := startTimeoutTimer_eq s
  rw [heq]

@[simp] theorem startHeartbeatTimer_log : (startHeartbeatTimer s).log = s.log := by
  obtain ⟨e, t, heq⟩ := startHeartbeatTimer_eq s
  rw [heq]

@[simp] theorem startTimeoutTimer_handler : (startTimeoutTimer s).handler = s.handler := by
  obtain ⟨e, t, l, heq⟩ := startTimeoutTimer_eq s
  rw [heq]

@[simp] theorem startHeartbeatTimer_handler : (startHeartbeatTimer s).handler = s.handler := by
  obtain ⟨e, t, heq⟩ := startHeartbeatTimer_eq s
  rw [heq]

@[simp] theorem startTimeoutTimer_inbound : (startTimeoutTimer s).session.inbound = s.session.inbound := by
  obtain ⟨e, t, l, heq⟩ := startTimeoutTimer_eq s
  rw [heq]

@[simp] theorem startHeartbeatTimer_inbound : (startHeartbeatTimer s).session.inbound = s.session.inbound := by
  obtain ⟨e, t, heq⟩ := startHeartbeatTimer_eq s
  rw [heq]

end

/-! ### Which tasks are pending after a start -/

theorem startTimeoutTimer_pending {s : St η} (ht : s.session.timedout = false) (h : 0 < s.session.timeout) :
    (startTimeoutTimer s).executor.pending ≠ [] := by
  unfold startTimeoutTimer
  rw [if_pos (by simp [ht, h])]
  exact List.append_ne_nil_of_right_ne_nil _ (List.cons_ne_nil _ _)

theorem startHeartbeatTimer_pending {s : St η} (ht : s.session.timedout = false) (h : 0 < s.session.hbDelay) :
    (startHeartbeatTimer s).executor.pending ≠ [] := by
  unfold startHeartbeatTimer
  rw [if_pos (by simp [ht, h])]
  exact List.append_ne_nil_of_right_ne_nil _ (List.cons_ne_nil _ _)

/-! ## The end of a session -/

def setState (c : ConnectionState) (s : St η) : St η := { s with session.state := c, log := .state c :: s.log }

/-- a use of `handler`, which may be null -/
def derefHandler : M η Unit := do
  if !(← get).session.handler then raise .nullPointer

theorem derefHandler_bind {α : Type} {s : St η} (h : s.session.handler = true) (k : Unit → M η α) :
    (derefHandler >>= k) s = k () s := by
  simp only [derefHandler, bind_assoc, get_bind, h, Bool.not_true, Bool.false_eq_true, if_false, pure_bind]

theorem derefHandler_null {α : Type} {s : St η} (h : s.session.handler = false) (k : Unit → M η α) :
    (derefHandler >>= k) s = (.error (.thrown .nullPointer), s) := by
  simp only [derefHandler, bind_assoc, get_bind, h, Bool.not_false, if_true]
  rfl

/-- a use of `inbound`, which may be null -/
def derefInbound : M η Unit := do
  if !(← get).session.inbound then raise .nullPointer

theorem derefInbound_bind {α : Type} {s : St η} (h : s.session.inbound = true) (k : Unit → M η α) :
    (derefInbound >>= k) s = k () s := by
  simp only [derefInbound, bind_assoc, get_bind, h, Bool.not_true, Bool.false_eq_true, if_false, pure_bind]

theorem derefInbound_null {α : Type} {s : St η} (h : s.session.inbound = false) (k : Unit → M η α) :
    (derefInbound >>= k) s = (.error (.thrown .nullPointer), s) := by
  simp only [derefInbound, bind_assoc, get_bind, h, Bool.not_false, if_true]
  rfl

/-- the application, called back by the session -/
abbrev Callback (η : Type) := InboundCall → M η (List JString)

/-- the part of `onDisconnect` for a session with an inbound -/
def notify (cb : Callback η) (reason : DisconnectReason) : M η Unit := do
  modify (setState .closed)
  catching Abrupt.isThrowable (do let _ ← cb (.onDisconnect reason)) (pure ())
  modify fun s => { s with session.inbound := false }

def onDisconnect (cb : Callback η) (reason : DisconnectReason) : M η Unit := do
  modify clearTimeoutTimer
  modify clearHeartbeatTimer
  if (← get).session.inbound then notify cb reason

def removeSession (s : St η) : St η := { s with registered := false, log := .removed :: s.log }

def onShutdown (cb : Callback η) : M η Unit := do
  let s ← get
  if s.session.inbound then
    if s.session.state = .closing then
      if s.session.closeId.isSome then onDisconnect cb .closeFailed else onDisconnect cb .closedRemotely
    else onDisconnect cb .error
  modify removeSession

/-- `onShutdown` is `onDisconnect` for some reason, if there is an inbound, and `removeSession` -/
theorem onShutdown_cases (cb : Callback η) (s : St η) :
    (s.session.inbound = true ∧ ∃ reason, (reason ≠ .timeout ∧ reason ≠ .closed) ∧
        onShutdown cb s = (do onDisconnect cb reason; modify removeSession : M η Unit) s) ∨
      s.session.inbound = false ∧ onShutdown cb s = (.ok (), removeSession s) := by
  unfold onShutdown
  rw [get_bind]
  by_cases h : s.session.inbound = true
  · refine .inl ⟨h, ?_⟩
    rw [if_pos h]
    by_cases hstate : s.session.state = .closing
    · rw [if_pos hstate]
      by_cases hid : s.session.closeId.isSome = true
      · exact ⟨.closeFailed, by decide, by rw [if_pos hid]⟩
      · exact ⟨.closedRemotely, by decide, by rw [if_neg hid]⟩
    · exact ⟨.error, by decide, by rw [if_neg hstate]⟩
  · refine .inr ⟨Bool.eq_false_iff.2 h, ?_⟩
    rw [if_neg h]
    rfl

/-! ## The transport handler, as the session uses it -/

/-- the methods of a transport handler that the session or the application calls -/
class TransportHandler (η : Type) where
  sendMessage : Callback η → SocketIOFrame → M η Unit
  abort : Callback η → M η Unit
  disconnect : Callback η → M η Unit
  disconnectWhenEmpty : M η Unit
  setNamespace : JString → M η Unit
  /-- the handler's own test before it sends a message of the application -/
  isOpen : M η Bool
  /-- sending this frame now would raise a `SocketIOException` -/
  refuses : St η → SocketIOFrame → Bool

variable [TransportHandler η]

/-- `try handler.sendMessage(f) catch (SocketIOException e) handler.abort()` -/
def sendOrAbort (cb : Callback η) (f : SocketIOFrame) : M η Unit :=
  catching Abrupt.isSocketIOException
    (do derefHandler; TransportHandler.sendMessage cb f)
    (do derefHandler; TransportHandler.abort cb)

def onTimeout (cb : Callback η) : M η Unit := do
  if !(← get).session.timedout then
    modify fun s => setState .closed { s with session.timedout := true }
    onDisconnect cb .timeout
    derefHandler
    TransportHandler.abort cb

/-- `messageId.incrementAndGet()` -/
def incrementMessageId (s : St η) : St η := { s with session.messageId := s.session.messageId + 1 }

def sendPing (cb : Callback η) : M η Unit := do
  modify incrementMessageId
  sendOrAbort cb (.new .heartbeat FrameType.message.value (intToString (← get).session.messageId))
  modify startTimeoutTimer

/-- the frame of `startClose` -/
def closeFrame : SocketIOFrame := .new .close 0 (str "server")

/-- `state = CLOSING; closeId = "server"` -/
def initiateClose (s : St η) : St η :=
  { setState .closing (s.push (.startClose s.session.state)) with session.closeId := some (str "server") }

def startClose (cb : Callback η) : M η Unit := do
  modify initiateClose
  sendOrAbort cb closeFrame

/-! ## Received frames -/

/-- `onConnect(String)`: answers a namespace's CONNECT -/
def onConnectData (cb : Callback η) (data : JString) : M η Unit := sendOrAbort cb (.new .connect 0 data)

def onPing (cb : Callback η) (data : JString) : M η Unit :=
  sendOrAbort cb (.new .heartbeat FrameType.message.value data)

def onPong (s : St η) : St η := clearTimeoutTimer s

def onClose (cb : Callback η) (data : JString) : M η Unit := do
  let s ← get
  if s.session.state = .closing then
    modify (·.push (.onClose .closing data))
    if s.session.closeId = some data then
      modify (setState .closed)
      onDisconnect cb .closed
      derefHandler
      TransportHandler.abort cb
    else sendOrAbort cb (.new .close 0 data)
  else
    modify fun s => setState .closing (s.push (.onClose s.session.state data))
    catching Abrupt.isSocketIOException
      (do
        derefHandler
        TransportHandler.sendMessage cb (.new .close 0 data)
        derefHandler
        TransportHandler.disconnectWhenEmpty
        if data = str "client" then onDisconnect cb .closedRemotely)
      (do derefHandler; TransportHandler.abort cb)

/-- `this.handler = handler` -/
def attach (s : St η) : St η := { s with session.handler := true }

/-- `onConnect(TransportHandler)`; `handler` is false for null -/
def onConnect (cb : Callback η) (handler : Bool) : M η Unit := do
  if !handler then
    modify (setState .closed)
    modify fun s => { s with session.inbound := false }
    modify removeSession
  else if !(← get).session.handler then
    if !(← get).session.inbound then
      modify fun s => setState .closed (attach s)
      TransportHandler.abort cb
    else
      modify fun s => setState .connected ((attach s).push (.opened s.session.state))
      catching Abrupt.isThrowable (do let _ ← cb .onConnect)
        (do
          modify (setState .closed)
          TransportHandler.abort cb)
  else TransportHandler.abort cb

/-- the rest of `onConnect(handler)`, once the session is CONNECTED -/
def announce (cb : Callback η) : M η Unit :=
  catching Abrupt.isThrowable (do let _ ← cb .onConnect)
    (do
      modify (setState .closed)
      TransportHandler.abort cb)

theorem onConnect_again (cb : Callback η) {s : St η} (h : s.session.handler = true) :
    onConnect cb true s = TransportHandler.abort cb s := by
  simp only [onConnect, get_bind, h, Bool.not_true, Bool.false_eq_true, if_false]

theorem onConnect_dropped (cb : Callback η) {s : St η} (h : s.session.handler = false) (hi : s.session.inbound = false) :
    onConnect cb true s = TransportHandler.abort cb (setState .closed (attach s)) := by
  simp only [onConnect, get_bind, modify_bind, h, hi, Bool.not_true, Bool.not_false, Bool.false_eq_true, if_false, if_true]

theorem onConnect_first (cb : Callback η) {s : St η} (h : s.session.handler = false) (hi : s.session.inbound = true) :
    onConnect cb true s = announce cb (setState .connected ((attach s).push (.opened s.session.state))) := by
  simp only [onConnect, announce, get_bind, modify_bind, h, hi, Bool.not_true, Bool.not_false, Bool.false_eq_true,
    if_false, if_true]

/-! ## Events -/

def QUOTE : JChar := 0x22

def isLineTerminator (c : JChar) : Bool := c ∈ [(0x0A : JChar), 0x0D, 0x85, 0x2028, 0x2029]

def eventHead : JString := str "\x7b\"name\":\""

def eventMiddle : JString := str "\",\"args\":["

def eventEnd : JString := str "]\x7d"

/-- `(.*)\]\}` at the start of `s`: the group up to the last `]}` of the line -/
def matchArgs (s : JString) : Option JString :=
  let line := s.takeWhile fun c => !isLineTerminator c
  ((List.range (line.length + 1)).reverse.find? fun k => eventEnd.isPrefixOf (s.drop k)).map s.take

/-- `KEY_PATTERN` at the start of `s`, with its two groups -/
def matchEvent (s : JString) : Option (JString × JString) :=
  if eventHead.isPrefixOf s then
    let rest := s.drop eventHead.length
    let key := rest.takeWhile (· ≠ QUOTE)
    let rest := rest.drop key.length
    if key ≠ [] ∧ eventMiddle.isPrefixOf rest then
      (matchArgs (rest.drop eventMiddle.length)).map fun args => (key, args)
    else none
  else none

/-- `KEY_PATTERN.matcher(message).find()`: the leftmost match -/
def findEvent : JString → Option (JString × JString)
  | [] => none
  | c :: cs =>
    match matchEvent (c :: cs) with
    | some r => some r
    | none => findEvent cs

/-- a primitive value of an event loses its quotes -/
def unquote (args : JString) : Except JavaException JString :=
  if [QUOTE].isPrefixOf args then substring args 1 (args.length - 1) else .ok args

/-- `onMessage(frameType, message)` -/
def onMessageText (cb : Callback η) (frameType : ℤ) (message : JString) : M η Unit := do
  if (← get).session.inbound then
    if frameType = 1 ∨ frameType = 3 ∨ frameType = 4 then
      let _ ← cb (.onMessage (str "message") message)
    else if frameType = 5 then
      catching Abrupt.isThrowable
        (match findEvent message with
          | none => pure ()
          | some (key, args) => do
            let message ← lift (unquote args)
            derefInbound
            let names ← cb .setEventnames
            modify (·.push (.listed names))
            forEach names fun b =>
              if key = b then do
                derefInbound
                let _ ← cb (.onMessage key message)
              else pure ())
        (pure ())

/-- the namespace in a CONNECT frame's data -/
def namespaceOf (data : JString) : JString := data.drop (lastIndexOf data SEPERATOR_CHAR + 1).toNat

/-- `onMessage(SocketIOFrame)` -/
def onMessage (cb : Callback η) (f : SocketIOFrame) : M η Unit :=
  match f.frameType with
  | .connect => do
    modify fun s => s.push (.received f)
    derefHandler
    TransportHandler.setNamespace (namespaceOf f.data)
    derefInbound
    let _ ← cb (.setNamespace (if (namespaceOf f.data).length = 0 then str "/" else namespaceOf f.data))
    onConnectData cb []
  | .heartbeat => modify fun s => startHeartbeatTimer (onPong (s.push (.received f)))
  | .close => do
    modify fun s => s.push (.received f)
    onClose cb f.data
  | .message | .jsonMessage | .event => do
    modify fun s => s.push (.received f)
    onMessageText cb f.frameType.value f.data
  | _ => modify fun s => s.push (.received f)

/-! ## The application -/

/-- `sendMessage(messageType, message)`, which both handlers write alike -/
def sendTyped (cb : Callback η) (messageType : ℤ) (message : JString) : M η Unit := do
  if (← TransportHandler.isOpen) ∧ (← get).session.state = .connected then
    TransportHandler.sendMessage cb <|
      if messageType = TEXT_MESSAGE_TYPE then .new .message messageType message
      else if (str "\x7b\"name\":").isPrefixOf message then .new .event messageType message
      else .new .jsonMessage messageType message
  else raise .socketIOClosedException

/-- the message of `emitMessage`, which both handlers write alike -/
def emitText (key message : JString) : JString :=
  if (str "\x7b").isPrefixOf message ∨ (str "[").isPrefixOf message then
    eventHead ++ key ++ eventMiddle ++ message ++ eventEnd
  else eventHead ++ key ++ eventMiddle ++ [QUOTE] ++ message ++ [QUOTE] ++ eventEnd

/-- the handler's methods, as `SocketIOOutbound` -/
def outboundMethod (cb : Callback η) (c : OutboundCall) : M η Unit :=
  match c with
  | .disconnect => TransportHandler.disconnect cb
  | .close => startClose cb
  | .sendMessage message => sendTyped cb TEXT_MESSAGE_TYPE message
  | .sendTyped messageType message => sendTyped cb messageType message
  | .emitMessage key message => sendTyped cb JSON_MESSAGE_TYPE (emitText key message)

/-- a call of the application on its outbound, which is null before the session is connected -/
def outbound (cb : Callback η) (c : OutboundCall) : M η Unit := do
  derefHandler
  modify fun s => s.push (.outbound c (TransportHandler.refuses s closeFrame))
  outboundMethod cb c

/-- a callback, with its start and its end in the log -/
def inboundCall (body : M η (List JString)) (c : InboundCall) : M η (List JString) := do
  modify (·.push (.called c))
  ending body (·.push (.returned c))

/-- The application's callbacks: `acts`, one after the other. An exception of one of its calls comes back to the
application, whose next act says what it makes of it; no call of an outbound hangs. At most `n` acts are taken, also by
callbacks inside callbacks. -/
def behave : ℕ → M η (List JString)
  | 0 => pure []
  | n + 1 => do
    let s ← get
    match s.acts with
    | [] => pure []
    | a :: acts => do
      modify fun s => { s with acts := acts }
      match a with
      | .ret names => pure names
      | .raise e => raise e
      | .call c => do
        catching (fun _ => true) (outbound (inboundCall (behave n)) c) (pure ())
        behave n

end SocketIOJava.Session
