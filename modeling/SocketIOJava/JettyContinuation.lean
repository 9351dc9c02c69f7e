/-
`JettyContinuationTransportHandler`: the handler of the HTTP transports, over Jetty continuations.

One handler serves both kinds of connections. A persistent one (htmlfile, multipart) keeps the response of its connect
request open and writes each message to it. A polling one (xhr, jsonp) writes to a GET that is waiting in
`continuation`, and keeps messages in its buffer while none is waiting.

The data handler is a list of writes that may raise an `IOException`; the texts given to its `onWriteData` are in the
log. What `decodePostData` makes of a POST's body is part of the request.

Of Jetty's continuations the handler relies on what their documentation says. `getContinuation` makes one for each request,
with an identity of its own; `isInitial` is true until the request that made it returns to the container; `suspend` keeps
the response open; `complete` is for a suspended one and raises an `IllegalStateException` for any other. `onTimeout` and
`onComplete` are events of their own, which the container may bring in any order.
-/
import SocketIOJava.Session
import SocketIOJava.Buffer

namespace SocketIOJava.JettyContinuation

open Program SocketIOJava.Text SocketIOJava.Frame SocketIOJava.Session SocketIOJava.Buffer

structure Continuation where
  id : ℕ
  initial : Bool
  suspended : Bool
deriving DecidableEq, Repr

/-- the fields of the handler; `requests` numbers the requests that asked for a continuation -/
structure JettyContinuationTransportHandler where
  is_open : Bool
  continuation : Option Continuation
  disconnectWhenEmpty : Bool
  buffer : TransportBuffer
  persistent : Bool
  endpoint : JString
  requests : ℕ

abbrev Handler := JettyContinuationTransportHandler

/-- the init parameters that the handler reads, where they are set -/
structure SocketIOConfig where
  bufferSize : Option ℤ
  heartbeatDelay : Option ℤ
  heartbeatTimeout : Option ℤ
  timeout : Option ℤ
deriving DecidableEq, Repr

def DEFAULT_BUFFER_SIZE : ℤ := 8192

def DEFAULT_HEARTBEAT_TIMEOUT : ℤ := 10 * 1000

def DEFAULT_HEARTBEAT_DELAY : ℤ := 15 * 1000

def DEFAULT_TIMEOUT : ℤ := 5 * 1000

/-- a session that `createSession` registered, with its handler after `init` -/
def created (config : SocketIOConfig) (persistent : Bool) : St Handler where
  session :=
    { state := .connecting, inbound := true, handler := false, closeId := none, timedout := false
      hbDelay := if persistent then config.heartbeatDelay.getD DEFAULT_HEARTBEAT_DELAY else 0
      timeout := if persistent then config.heartbeatTimeout.getD DEFAULT_HEARTBEAT_TIMEOUT
        else config.timeout.getD DEFAULT_TIMEOUT
      hbDelayTask := none, timeoutTask := none, messageId := 0, lStartTime := 0 }
  handler :=
    { is_open := false, continuation := none, disconnectWhenEmpty := false
      buffer := .new (config.bufferSize.getD DEFAULT_BUFFER_SIZE), persistent := persistent, endpoint := [], requests := 0 }
  executor := ⟨0, [], 0⟩
  registered := true
  acts := []
  io := []
  log := []

/-- the listener that `abort` puts into the buffer -/
def refuseAll : BufferListener := ⟨fun _ => .ok false, fun _ => .ok false⟩

def setContinuation (c : Option Continuation) (s : St Handler) : St Handler := { s with handler.continuation := c }

def setBuffer (b : TransportBuffer) (s : St Handler) : St Handler := { s with handler.buffer := b }

/-- `cont.complete()` -/
def complete (cont : Continuation) : M Handler Unit := if cont.suspended then pure () else raise .illegalState

/-- `dataHandler.onWriteData(response, data)` -/
def onWriteData (data : JString) : M Handler Unit := do
  modify fun s => s.push (.wrote data s.nextWriteFails)
  write

/-- `abort`, up to its call of `onShutdown` -/
def release (s : St Handler) : St Handler :=
  let s := clearTimeoutTimer (clearHeartbeatTimer s)
  let buffer := (s.handler.buffer.setListener (some refuseAll)).clear
  { s with handler.is_open := false, handler.continuation := none, handler.buffer := buffer }

def abort (cb : Callback Handler) : M Handler Unit := do
  modify release
  onShutdown cb

def disconnect (cb : Callback Handler) : M Handler Unit := do
  onDisconnect cb .disconnect
  abort cb

/-- all messages of the buffer and one more, as one text -/
def joined (s : St Handler) (f : SocketIOFrame) : JString :=
  (s.handler.buffer.drainMessages.1 ++ [f.encode s.handler.endpoint]).flatten

/-- `sendMessage(frame)` with a poll or an open response -/
def sendNow (cont : Continuation) (data : JString) : M Handler Unit := do
  catching Abrupt.isIOException (onWriteData data) (raise .socketIOException)
  if !(← get).handler.persistent && !cont.initial then
    modify fun s => setContinuation none (s.push .completed)
    complete cont
  else modify startHeartbeatTimer

/-- `sendMessage(frame)` with nobody waiting -/
def sendLater (cb : Callback Handler) (data : JString) : M Handler Unit := do
  let s ← get
  modify (setBuffer (s.handler.buffer.putMessage data).2)
  if !(s.handler.buffer.putMessage data).1 then
    onDisconnect cb .timeout
    abort cb
    raise .socketIOException

/-- `sendMessage(frame)` of an open handler -/
def deliver (cb : Callback Handler) (f : SocketIOFrame) : M Handler Unit := do
  let s ← get
  match s.handler.continuation with
  | some cont => do
    modify (setBuffer s.handler.buffer.drainMessages.2)
    sendNow cont (joined s f)
  | none => sendLater cb (f.encode s.handler.endpoint)

def sendMessage (cb : Callback Handler) (f : SocketIOFrame) : M Handler Unit := do
  modify (·.push (.frame f))
  if (← get).handler.is_open then deliver cb f else raise .socketIOClosedException

/-- an open handler can neither write nor buffer the frame: a failing write, or no room -/
def blocked (s : St Handler) (f : SocketIOFrame) : Bool :=
  match s.handler.continuation with
  | some _ => s.nextWriteFails
  | none => !(s.handler.buffer.putMessage (f.encode s.handler.endpoint)).1

def refuses (s : St Handler) (f : SocketIOFrame) : Bool := !s.handler.is_open || blocked s f

instance : TransportHandler Handler where
  sendMessage := sendMessage
  abort := abort
  disconnect := disconnect
  disconnectWhenEmpty := modify fun s => { s with handler.disconnectWhenEmpty := true }
  setNamespace a := modify fun s => { s with handler.endpoint := a }
  isOpen := do return (← get).handler.is_open
  refuses := refuses

/-- the state after a text was written -/
def written (data : JString) (s : St Handler) : St Handler :=
  { s.push (.wrote data s.nextWriteFails) with io := s.io.tail }

theorem onWriteData_ok {s : St Handler} (h : s.nextWriteFails = false) (data : JString) :
    onWriteData data s = (.ok (), written data s) := by
  exact (write_ok (s := s.push (.wrote data s.nextWriteFails)) h).trans rfl

theorem sendNow_ok {s : St Handler} (h : s.nextWriteFails = false) (cont : Continuation) (data : JString) :
    sendNow cont data s =
      if !s.handler.persistent && !cont.initial then
        (complete cont) (setContinuation none ((written data s).push .completed))
      else (.ok (), startHeartbeatTimer (written data s)) := by
  unfold sendNow
  rw [bind_of_ok (catching_of_ok (onWriteData_ok h data) _ _), get_bind]
  by_cases hp : (!s.handler.persistent && !cont.initial) = true
  · rw [if_pos hp]; exact congrFun (if_pos hp) _
  · rw [if_neg hp]; exact congrFun (if_neg hp) _

theorem sendNow_fails {s : St Handler} (h : s.nextWriteFails = true) (cont : Continuation) (data : JString) :
    sendNow cont data s = (.error (.thrown .socketIOException), written data s) := by
  have hwrite : onWriteData data s = (.error (.thrown .ioException), written data s) :=
    write_fails (s := s.push (.wrote data s.nextWriteFails)) h
  have hcaught := catching_of_error hwrite Abrupt.isIOException (raise .socketIOException)
  unfold sendNow
  exact bind_of_error hcaught _

theorem sendLater_ok {cb : Callback Handler} {s : St Handler} {data : JString}
    (h : (s.handler.buffer.putMessage data).1 = true) :
    sendLater cb data s = (.ok (), setBuffer (s.handler.buffer.putMessage data).2 s) := by
  unfold sendLater
  rw [get_bind, modify_bind, h]
  rfl

theorem isOpen_eq (s : St Handler) : (TransportHandler.isOpen : M Handler Bool) s = (.ok s.handler.is_open, s) := rfl

theorem sendMessage_open {cb : Callback Handler} {f : SocketIOFrame} {s : St Handler} (h : s.handler.is_open = true) :
    sendMessage cb f s = deliver cb f (s.push (.frame f)) := by
  unfold sendMessage
  rw [modify_bind, get_bind]
  exact congrFun (if_pos h) _

theorem sendMessage_closed {cb : Callback Handler} {f : SocketIOFrame} {s : St Handler} (h : s.handler.is_open = false) :
    sendMessage cb f s = (.error (.thrown .socketIOClosedException), s.push (.frame f)) := by
  have hno : ¬ (s.push (.frame f)).handler.is_open = true := by
    change ¬ s.handler.is_open = true
    rw [h]
    exact Bool.false_ne_true
  unfold sendMessage
  rw [modify_bind, get_bind]
  exact congrFun (if_neg hno) _

/-- a frame while a poll or an open response is there -/
theorem deliver_now {cb : Callback Handler} {f : SocketIOFrame} {s : St Handler} {cont : Continuation}
    (h : s.handler.continuation = some cont) :
    deliver cb f s = sendNow cont (joined s f) (setBuffer s.handler.buffer.drainMessages.2 s) := by
  simp only [deliver, get_bind, h, modify_bind]

/-- a frame while nobody waits -/
theorem deliver_later {cb : Callback Handler} {f : SocketIOFrame} {s : St Handler}
    (h : s.handler.continuation = none) : deliver cb f s = sendLater cb (f.encode s.handler.endpoint) s := by
  simp only [deliver, get_bind, h]

/-- a frame that is not refused goes into the buffer, or out to a poll or an open response -/
theorem sendMessage_accepted (cb : Callback Handler) {f : SocketIOFrame} {s : St Handler} (h : refuses s f = false) :
    sendMessage cb f s = (.ok (), setBuffer (s.handler.buffer.putMessage (f.encode s.handler.endpoint)).2 (s.push (.frame f))) ∨
      ∃ cont, s.nextWriteFails = false ∧
        sendMessage cb f s = sendNow cont (joined s f) (setBuffer s.handler.buffer.drainMessages.2 (s.push (.frame f))) := by
  simp only [refuses, Bool.or_eq_false_iff, Bool.not_eq_eq_eq_not, Bool.not_false, blocked] at h
  obtain ⟨hopen, hblocked⟩ := h
  rw [sendMessage_open hopen]
  cases hcont : s.handler.continuation with
  | none =>
    rw [hcont] at hblocked
    have hput : (s.handler.buffer.putMessage (f.encode s.handler.endpoint)).1 = true := by simpa using hblocked
    left
    exact (deliver_later (s := s.push (.frame f)) hcont).trans (sendLater_ok (s := s.push (.frame f)) hput)
  | some cont =>
    rw [hcont] at hblocked
    exact .inr ⟨cont, hblocked, deliver_now (s := s.push (.frame f)) hcont⟩

/-! ## Requests and callbacks of the container -/

/-- the continuation of the request that is being handled -/
def getContinuation (s : St Handler) : St Handler :=
  { s with handler.continuation := some ⟨s.handler.requests, true, false⟩, handler.requests := s.handler.requests + 1 }

def suspend (s : St Handler) : St Handler :=
  setContinuation (s.handler.continuation.map fun c => { c with suspended := true }) s

/-- the request that made the continuation returns to the container -/
def endDispatch (s : St Handler) : St Handler :=
  setContinuation (s.handler.continuation.map fun c => { c with initial := false }) s

def sendError (status : ℕ) (s : St Handler) : St Handler := s.push (.responded status)

/-- the response is finished: the timeout timer waits for the next poll, or the session ends -/
def answered (cb : Callback Handler) : M Handler Unit := do
  write
  if !(← get).handler.disconnectWhenEmpty then modify fun s => startTimeoutTimer (s.push .answered)
  else abort cb

/-- `handle`, for a GET that finds messages in the buffer -/
def answer (cb : Callback Handler) : M Handler Unit := do
  let s ← get
  modify (setBuffer s.handler.buffer.drainMessages.2)
  write
  onWriteData s.handler.buffer.drainMessages.1.flatten
  answered cb

/-- `handle`, for a GET that has to wait -/
def park : M Handler Unit := do
  modify fun s => suspend (getContinuation (clearTimeoutTimer (s.push .parked)))
  write

def handleGet (cb : Callback Handler) : M Handler Unit := do
  let s ← get
  if !s.handler.is_open && s.handler.buffer.isEmpty then modify (sendError 404)
  else if s.handler.persistent then modify (sendError 404)
  else if !s.handler.buffer.isEmpty then answer cb
  else park

/-- the frames of a POST's data, one after the other -/
def receive (cb : Callback Handler) (data : JString) : M Handler Unit := do
  match parse data with
  | none => stop .hangs
  | some frames => do
    let frames ← lift frames
    forEach frames (onMessage cb)

/-- the end of a POST: the flag `disconnectWhenEmpty` is obeyed -/
def closeCheck (cb : Callback Handler) : M Handler Unit := do
  let s ← get
  if s.handler.disconnectWhenEmpty && s.handler.buffer.isEmpty then
    whenever (s.session.state = .closing) (onDisconnect cb .closed)
    abort cb

/-- a POST whose body `decodePostData` turns into `decoded`; `none` for a body of length zero -/
def handlePost (cb : Callback Handler) (decoded : Option (Except JavaException JString)) : M Handler Unit := do
  if (← get).handler.is_open then
    match decoded with
    | none => modify (sendError 400)
    | some decoded => do
      let data ← lift decoded
      whenever (data.length > 0) (receive cb data)
      closeCheck cb

/-- `onDisconnect`, then `abort` -/
def terminate (cb : Callback Handler) (reason : DisconnectReason) : M Handler Unit := do
  onDisconnect cb reason
  abort cb

/-- `continuation = null; is_open = false` -/
def dropConnection (s : St Handler) : St Handler := { setContinuation none s with handler.is_open := false }

/-- `onComplete(cont)` -/
def onComplete (cb : Callback Handler) (cont : ℕ) : M Handler Unit := do
  let s ← get
  if (s.handler.continuation.map Continuation.id) = some cont then
    if s.handler.persistent then
      modify dropConnection
      whenever (!s.handler.disconnectWhenEmpty) (onDisconnect cb .disconnect)
      abort cb
    else if !s.handler.is_open && s.handler.buffer.isEmpty && !s.handler.disconnectWhenEmpty then
      modify (setContinuation none)
      terminate cb .disconnect
    else if s.handler.disconnectWhenEmpty then
      modify (setContinuation none)
      abort cb
    else modify fun s => startTimeoutTimer (setContinuation none (s.push .released))

/-- `onTimeout(cont)`, for a poll -/
def expirePoll (cb : Callback Handler) : M Handler Unit := do
  let s ← get
  if !s.handler.is_open && s.handler.buffer.isEmpty then terminate cb .disconnect
  else catching Abrupt.isIOException write (terminate cb .disconnect)

/-- `onTimeout(cont)` -/
def onTimeoutContinuation (cb : Callback Handler) (cont : ℕ) : M Handler Unit := do
  let s ← get
  if (s.handler.continuation.map Continuation.id) = some cont then
    if s.handler.persistent then
      modify dropConnection
      terminate cb .timeout
    else
      modify fun s => setContinuation none (s.push .released)
      expirePoll cb
      modify startTimeoutTimer

/-- `connect`, after the session is connected -/
def finish : M Handler Unit := do
  let s ← get
  modify (·.push (.finished s.nextWriteFails))
  write
  if (← get).handler.persistent then modify suspend else modify (setContinuation none)

/-- `is_open = true` -/
def opened (s : St Handler) : St Handler := { s with handler.is_open := true }

/-- `connect(request, response)` -/
def connect (cb : Callback Handler) : M Handler Unit := ending
  (do
    modify getContinuation
    write
    modify opened
    Session.onConnect cb true
    finish)
  endDispatch

/-! ## What the callbacks do -/

/-- `onComplete` is for the continuation that waits, whose session it ends or which the next poll has to replace in time -/
theorem onComplete_cases (cb : Callback Handler) (cont : ℕ) (s : St Handler) :
    s.handler.continuation.map Continuation.id ≠ some cont ∧ onComplete cb cont s = (.ok (), s) ∨
      s.handler.continuation.map Continuation.id = some cont ∧
        (s.handler.persistent = true ∧ onComplete cb cont s = (do
            whenever (!s.handler.disconnectWhenEmpty) (onDisconnect cb .disconnect)
            abort cb : M Handler Unit) (dropConnection s) ∨
          s.handler.persistent = false ∧
            (s.handler.disconnectWhenEmpty = true ∧ onComplete cb cont s = abort cb (setContinuation none s) ∨
              s.handler.disconnectWhenEmpty = false ∧
                ((!s.handler.is_open && s.handler.buffer.isEmpty) = true ∧
                    onComplete cb cont s = terminate cb .disconnect (setContinuation none s) ∨
                  (!s.handler.is_open && s.handler.buffer.isEmpty) = false ∧
                    onComplete cb cont s = (.ok (), startTimeoutTimer (setContinuation none (s.push .released)))))) := by
  unfold onComplete
  rw [get_bind]
  by_cases hid : s.handler.continuation.map Continuation.id = some cont
  · refine .inr ⟨hid, ?_⟩
    rw [if_pos hid]
    cases hp : s.handler.persistent with
    | true => exact .inl ⟨rfl, rfl⟩
    | false =>
      refine .inr ⟨rfl, ?_⟩
      cases hempty : s.handler.disconnectWhenEmpty with
      | true =>
        rw [Bool.not_true, Bool.and_false]
        exact .inl ⟨rfl, rfl⟩
      | false =>
        rw [Bool.not_false, Bool.and_true]
        cases hgone : !s.handler.is_open && s.handler.buffer.isEmpty with
        | true => exact .inr ⟨rfl, .inl ⟨rfl, rfl⟩⟩
        | false => exact .inr ⟨rfl, .inr ⟨rfl, rfl⟩⟩
  · rw [if_neg hid]
    exact .inl ⟨hid, rfl⟩

theorem onTimeoutContinuation_cases (cb : Callback Handler) (cont : ℕ) (s : St Handler) :
    s.handler.continuation.map Continuation.id ≠ some cont ∧ onTimeoutContinuation cb cont s = (.ok (), s) ∨
      s.handler.continuation.map Continuation.id = some cont ∧
        (s.handler.persistent = true ∧ onTimeoutContinuation cb cont s = terminate cb .timeout (dropConnection s) ∨
          s.handler.persistent = false ∧ onTimeoutContinuation cb cont s =
            (do expirePoll cb; modify startTimeoutTimer : M Handler Unit) (setContinuation none (s.push .released))) := by
  unfold onTimeoutContinuation
  rw [get_bind]
  by_cases hid : s.handler.continuation.map Continuation.id = some cont
  · refine .inr ⟨hid, ?_⟩
    rw [if_pos hid]
    cases hp : s.handler.persistent with
    | true => exact .inl ⟨rfl, rfl⟩
    | false => exact .inr ⟨rfl, rfl⟩
  · rw [if_neg hid]
    exact .inl ⟨hid, rfl⟩

/-- a poll that expires is the end of a session without messages, and otherwise an empty response -/
theorem expirePoll_cases (cb : Callback Handler) (s : St Handler) :
    (!s.handler.is_open && s.handler.buffer.isEmpty) = true ∧ expirePoll cb s = terminate cb .disconnect s ∨
      (!s.handler.is_open && s.handler.buffer.isEmpty) = false ∧
        expirePoll cb s = catching Abrupt.isIOException write (terminate cb .disconnect) s := by
  unfold expirePoll
  rw [get_bind]
  cases hgone : !s.handler.is_open && s.handler.buffer.isEmpty with
  | true => exact .inl ⟨rfl, rfl⟩
  | false => exact .inr ⟨rfl, rfl⟩

/-! ## While no write fails -/

/-- between the requests, a continuation is a poll that waits -/
def Parked (c : Continuation) : Prop := c.suspended = true

/-- the continuation of a request that is still being handled -/
def Initial (c : Continuation) : Prop := c.initial = true

theorem parked_or (c : Continuation) (h : Parked c) : c.initial = true ∨ c.suspended = true := .inr h

theorem initial_or (c : Continuation) (h : Initial c) : c.initial = true ∨ c.suspended = true := .inl h

/-- a GET's messages are written -/
def handedOver (s : St Handler) : St Handler :=
  written s.handler.buffer.queue.flatten { setBuffer s.handler.buffer.drainMessages.2 s with io := s.io.tail }

/-- the state in which `connect` calls `session.onConnect` -/
def attaching (s : St Handler) : St Handler := opened { getContinuation s with io := s.io.tail }

/-- the state in which the first connect request calls the application back -/
def connecting (s : St Handler) : St Handler := setState .connected ((attach (attaching s)).push (.opened s.session.state))

variable {s : St Handler}

theorem answer_ok (cb : Callback Handler) (h : ∀ b ∈ s.io, b = false) : answer cb s = answered cb (handedOver s) := by
  let s₁ : St Handler := { setBuffer s.handler.buffer.drainMessages.2 s with io := s.io.tail }
  have hfirst : s.nextWriteFails = false := nextWriteFails_of_io h
  have hthen : s₁.nextWriteFails = false := nextWriteFails_of_io fun b hb => h b (List.mem_of_mem_tail hb)
  unfold answer
  rw [get_bind, modify_bind, bind_of_ok (write_ok (s := setBuffer s.handler.buffer.drainMessages.2 s) hfirst)]
  exact bind_of_ok (onWriteData_ok (s := s₁) hthen _) _

theorem connect_ok (cb : Callback Handler) (h : s.nextWriteFails = false) :
    (connect cb s).2 = endDispatch ((do Session.onConnect cb true; finish : M Handler Unit) (attaching s)).2 := by
  unfold connect ending
  rw [modify_bind, bind_of_ok (write_ok (s := getContinuation s) h), modify_bind]
  rfl

theorem finish_ok (h : s.nextWriteFails = false) (hp : s.handler.persistent = false) :
    finish s = (.ok (), setContinuation none { s.push (.finished s.nextWriteFails) with io := s.io.tail }) := by
  have hpolling : ¬ s.handler.persistent = true := by rw [hp]; exact Bool.false_ne_true
  unfold finish
  rw [get_bind, modify_bind, bind_of_ok (write_ok (s := s.push (.finished s.nextWriteFails)) h), get_bind]
  exact congrFun (if_neg hpolling) _

end SocketIOJava.JettyContinuation
