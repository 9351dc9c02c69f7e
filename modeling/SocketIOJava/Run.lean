/-
Runs of one session: the container's requests and callbacks, the executor's tasks, the application's own calls and the
passing of time, one event at a time and in any order.

An input is an event with what the environment does while it is handled. `run` is the state after a list of inputs. The
container's events are a parameter (`serve`), one instance for each handler. `anyCall` adds to these the methods of the
session, called directly and in any order.
-/
import SocketIOJava.JettyContinuation
import SocketIOJava.JettyWebSocket

namespace SocketIOJava.Run

open Program SocketIOJava.Text SocketIOJava.Frame SocketIOJava.Session

inductive Event (κ : Type) where
  /-- a request or a callback of the container -/
  | container (e : κ)
  /-- the executor starts a task -/
  | fire (t : Task)
  /-- the application calls its outbound on its own account -/
  | outbound (c : OutboundCall)
  | tick (d : ℕ)

structure Input (κ : Type) where
  event : Event κ
  acts : List Act
  io : List Bool

variable {η κ : Type}

/-- the executor takes a task off its queue -/
def startTask (t : Task) (s : St η) : St η := { s with executor.pending := s.executor.pending.erase t }

def tick (d : ℕ) (s : St η) : St η := { s with executor.ticks := s.executor.ticks + d }

section

variable [TransportHandler η]

/-- the body of a task -/
def runTask (cb : Callback η) : TaskKind → M η Unit
  | .onTimeout => onTimeout cb
  | .sendPing => sendPing cb

def perform (serve : Callback η → κ → M η Unit) (cb : Callback η) : Event κ → M η Unit
  | .container e => serve cb e
  | .fire t => do
    let s ← get
    if t ∈ s.executor.pending ∧ t.due ≤ s.executor.ticks then
      modify (startTask t)
      runTask cb t.kind
  | .outbound c => Session.outbound cb c
  | .tick d => modify (tick d)

/-- a task starts if it is pending and due -/
theorem perform_fire (serve : Callback η → κ → M η Unit) (cb : Callback η) (t : Task) (s : St η) :
    perform serve cb (.fire t) s =
      if t ∈ s.executor.pending ∧ t.due ≤ s.executor.ticks then runTask cb t.kind (startTask t s) else (.ok (), s) := by
  by_cases h : t ∈ s.executor.pending ∧ t.due ≤ s.executor.ticks
  · simp only [perform, get_bind, if_pos h, modify_bind]
  · simp only [perform, get_bind, if_neg h, pure_apply]

/-- the application, which has `n` acts left -/
def app (n : ℕ) : Callback η := inboundCall (behave n)

/-- an event is handled; an exception of it goes to the container or to the executor -/
def step (serve : Callback η → κ → M η Unit) (s : St η) (i : Input κ) : St η :=
  (perform serve (app (i.acts.length + 1)) i.event { s with acts := i.acts, io := i.io }).2

def run (serve : Callback η → κ → M η Unit) (s : St η) (is : List (Input κ)) : St η := is.foldl (step serve) s

/-- the methods of the session that change its state -/
inductive SessionCall where
  | startClose
  | onMessage (f : SocketIOFrame)
  | onPing (data : JString)
  | onPong
  | onClose (data : JString)
  | onConnect (handler : Bool)
  | onDisconnect (reason : DisconnectReason)
  | onTimeout
  | onShutdown
deriving DecidableEq, Repr

def sessionCall (cb : Callback η) : SessionCall → M η Unit
  | .startClose => startClose cb
  | .onMessage f => onMessage cb f
  | .onPing data => onPing cb data
  | .onPong => modify onPong
  | .onClose data => onClose cb data
  | .onConnect handler => onConnect cb handler
  | .onDisconnect reason => onDisconnect cb reason
  | .onTimeout => onTimeout cb
  | .onShutdown => onShutdown cb

/-- the container's events, and direct calls of the session's methods -/
def anyCall (serve : Callback η → κ → M η Unit) (cb : Callback η) : κ ⊕ SessionCall → M η Unit
  | .inl e => serve cb e
  | .inr c => sessionCall cb c

end

/-! ## The two handlers -/

/-- requests and callbacks for a session on an HTTP transport -/
inductive HttpEvent where
  | connect
  | get
  /-- a POST, with what `decodePostData` makes of its body, `none` for a body of length zero -/
  | post (decoded : Option (Except JavaException JString))
  | onComplete (cont : ℕ)
  | onTimeout (cont : ℕ)
deriving DecidableEq

open JettyContinuation in
/-- `AbstractHttpTransport.handle` for the request that creates the session and for later ones, and the continuation's
listener -/
def serveHttp (cb : Callback JettyContinuation.Handler) : HttpEvent → M JettyContinuation.Handler Unit
  | .connect => JettyContinuation.connect cb
  | .get => do
    if (← get).session.handler then ending (handleGet cb) endDispatch else onShutdown cb
  | .post decoded => do
    if (← get).session.handler then handlePost cb decoded else onShutdown cb
  | .onComplete cont => onComplete cb cont
  | .onTimeout cont => onTimeoutContinuation cb cont

theorem serveHttp_get (cb : Callback JettyContinuation.Handler) (s : St JettyContinuation.Handler) :
    serveHttp cb .get s =
      if s.session.handler then ending (JettyContinuation.handleGet cb) JettyContinuation.endDispatch s else onShutdown cb s := by
  cases h : s.session.handler <;> simp only [serveHttp, get_bind, h, if_true, Bool.false_eq_true, if_false]

theorem serveHttp_post (cb : Callback JettyContinuation.Handler) (decoded : Option (Except JavaException JString))
    (s : St JettyContinuation.Handler) :
    serveHttp cb (.post decoded) s =
      if s.session.handler then JettyContinuation.handlePost cb decoded s else onShutdown cb s := by
  cases h : s.session.handler <;> simp only [serveHttp, get_bind, h, if_true, Bool.false_eq_true, if_false]

/-- requests and callbacks for a session on a WebSocket transport -/
inductive SocketEvent where
  | connect
  /-- another WebSocket request with the session's id -/
  | reconnect
  | text (message : JString)
  /-- the connection is lost, before the container reports it -/
  | lose
  | onClose
deriving DecidableEq

def serveSocket (cb : Callback JettyWebSocket.Handler) : SocketEvent → M JettyWebSocket.Handler Unit
  | .connect => JettyWebSocket.connect cb
  | .reconnect => JettyWebSocket.reconnect cb
  | .text message => JettyWebSocket.onText cb message
  | .lose => modify JettyWebSocket.lose
  | .onClose => onShutdown cb

end SocketIOJava.Run
