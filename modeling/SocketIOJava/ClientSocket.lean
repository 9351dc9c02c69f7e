/-
`Socket`, `Transport` and `SocketNamespace` of `socket.io.js`: the client of this server.

The client has one thread. An event (a response, a timer, a call of the page's script) is handled to its end, and the
handlers that the script has registered are called in between; they may call the client again. An exception ends the event
and keeps what was done before it. The state is the socket with its namespaces, its transport and the requests that wait
for a response. `acts` is what the script does in its handlers, one after the other, and `log` what happened, latest entry
first; no function reads it.

A transport is a WebSocket or one of those that post their messages; an event of one that the socket no longer uses is
handled as well. Which transport `getTransport` finds is part of the event, and timers may fire at any time. Of the
listeners of `io.Socket` itself only a reconnection's `maybeReconnect` is there.

Left out: the query and the urls of requests, the iframes and forms of the single transports, and the times of the timers.
A reconnection that starts while another one goes on takes its place; what the first one's listeners still do then is left
out as well.
-/
import SocketIOJava.Lib.Program
import SocketIOJava.ClientParser

namespace SocketIOJava.ClientSocket

open Program SocketIOJava.Text SocketIOJava.Frame SocketIOJava.EventText SocketIOJava.ClientParser

/-! ## State -/

inductive Kind where
  | websocket
  | xhr
deriving DecidableEq, Repr

/-- how far the connection of a transport is; a closing WebSocket is closed -/
inductive Ready where
  /-- `open()` was not called -/
  | created
  | connecting
  | opened
  | closed
deriving DecidableEq, Repr

/-- `isOpen` is the property `open`, which is the method until it is set -/
structure Transport where
  kind : Kind
  isOpen : Option Bool
  ready : Ready
deriving DecidableEq, Repr

/-- `name` is the key under which the socket has it and `endpoint` what its packets carry: the name, or nothing where that
is undefined. `json` is the flag of that name, `acks` the ids that wait for an acknowledgement. -/
structure SocketNamespace where
  name : JString
  endpoint : JString
  json : Bool
  ackPackets : ℕ
  acks : List JString
deriving DecidableEq, Repr

/-- a POST that waits for its response, and the transport that sent it -/
structure Post where
  transport : ℕ
  text : JString
deriving DecidableEq, Repr

/-- `transports` are all that the socket has had, `transport` says which it uses; `attempts` and `redoTransports` are those
of a reconnection -/
structure Socket where
  connected : Bool
  connecting : Bool
  isOpen : Bool
  reconnecting : Bool
  doBuffer : Bool
  buffer : List Packet
  namespaces : List SocketNamespace
  transports : List Transport
  transport : Option ℕ
  posts : List Post
  attempts : ℕ
  redoTransports : Bool

structure Options where
  js : Js
  /-- `JSON.stringify` escapes unpaired surrogates -/
  wellFormed : Bool
  reconnect : Bool
  maxAttempts : ℕ
  /-- the order in which a loop takes the namespaces, which the language leaves open -/
  order : List SocketNamespace → List SocketNamespace

/-- calls of the script's handlers -/
inductive Handler where
  /-- the namespace and the name of the event -/
  | event (namespace_ : JString) (name : Option Json)
  | acknowledged (namespace_ id : JString)

/-- what the script calls -/
inductive Call where
  | of (name : JString)
  | send (name : JString) (data : Json) (fn : Bool)
  /-- `json.send` -/
  | jsonSend (name : JString) (data : Json) (fn : Bool)
  | emit (name : JString) (event : Json) (args : List Json) (fn : Bool)
  /-- the function that a handler of a packet with this id was given -/
  | ack (name id : JString) (args : List Json)
  | disconnect (name : JString)
  | connect

inductive Act where
  | call (c : Call)
  | ret
  | raise

inductive Thrown where
  | script
  | typeError
  /-- a WebSocket that is not yet open was told to send -/
  | invalidState
deriving DecidableEq, Repr

inductive Entry where
  /-- `Socket.packet` was called with this packet -/
  | given (p : Packet)
  /-- the call ended in an exception, and the transport that the socket used then -/
  | refused (p : Packet) (t : Option Transport)
  /-- packets that the socket passed to its transport, in one text or in one text each -/
  | sent (ps : List Packet) (texts : List JString)
  /-- the answer to a heartbeat -/
  | answered (text : JString)
  /-- a transport opened, or a heartbeat was answered by a POST, while a POST waited for its response -/
  | crossed
  /-- a packet that came in on a transport -/
  | received (p : Packet)
  | called (h : Handler)
  /-- a handshake was requested -/
  | handshake

structure St where
  socket : Socket
  acts : List Act
  log : List Entry

abbrev M := Prog St Thrown

def St.push (s : St) (e : Entry) : St := { s with log := e :: s.log }

abbrev Callback := Handler → M Unit

/-! ## Sending -/

/-- changes the transport with this number -/
def Socket.alter (s : Socket) (i : ℕ) (f : Transport → Transport) : Socket := { s with transports := s.transports.modify i f }

/-- the transport that the socket uses -/
def currentTransport : M ℕ := do
  match (← get).socket.transport with
  | none => stop .typeError
  | some i => return i

/-- `send(data)` of a transport; a POST has the socket buffer what comes next, and a closed WebSocket drops the text -/
def transportSend (i : ℕ) (text : JString) : M Unit := do
  match (← get).socket.transports[i]? with
  | none => stop .typeError
  | some t =>
    match t.kind, t.ready with
    | .websocket, .created => stop .typeError
    | .websocket, .connecting => stop .invalidState
    | .websocket, _ => pure ()
    | .xhr, _ => modify fun s => { s with socket.doBuffer := true, socket.posts := s.socket.posts ++ [⟨i, text⟩] }

/-- `Transport.packet(packet)` -/
def transportPacket (o : Options) (i : ℕ) (p : Packet) : M Unit := transportSend i (encodePacket o.wellFormed p)

/-- `payload(arr)` of a transport -/
def transportPayload (o : Options) (i : ℕ) (ps : List Packet) : M Unit := do
  match ((← get).socket.transports[i]?).map Transport.kind with
  | none => stop .typeError
  | some .websocket => do
    forEach ps (transportPacket o i)
    modify (·.push (.sent ps (ps.map (encodePacket o.wellFormed))))
  | some .xhr => do
    transportSend i (encodePayload (ps.map (encodePacket o.wellFormed)))
    modify (·.push (.sent ps [encodePayload (ps.map (encodePacket o.wellFormed))]))

/-- the transport that the socket uses, if it uses one -/
def Socket.inUse (s : Socket) : Option Transport := s.transport.bind fun i => s.transports[i]?

/-- `Socket.packet(data)` -/
def packet (o : Options) (p : Packet) : M Unit := do
  modify (·.push (.given p))
  let s ← get
  if s.socket.connected && !s.socket.doBuffer then do
    noting (do
        let i ← currentTransport
        transportPacket o i p)
      fun s => s.push (.refused p s.socket.inUse)
    modify (·.push (.sent [p] [encodePacket o.wellFormed p]))
  else modify fun s => { s with socket.buffer := s.socket.buffer ++ [p] }

/-- `Socket.setBuffer(v)` -/
def setBuffer (o : Options) (v : Bool) : M Unit := do
  modify fun s => { s with socket.doBuffer := v }
  let s ← get
  if !v && s.socket.connected && !s.socket.buffer.isEmpty then do
    let i ← currentTransport
    transportPayload o i s.socket.buffer
    modify fun s => { s with socket.buffer := [] }

/-! ## Namespaces -/

def Socket.find (s : Socket) (name : JString) : Option SocketNamespace := s.namespaces.find? fun n => n.name = name

/-- changes the namespace of that name -/
def Socket.update (s : Socket) (name : JString) (f : SocketNamespace → SocketNamespace) : Socket :=
  { s with namespaces := s.namespaces.map fun n => if n.name = name then f n else n }

/-- `SocketNamespace.packet(packet)` -/
def namespacePacket (o : Options) (name : JString) (p : Packet) : M Unit := do
  let s ← get
  packet o { p with endpoint := ((s.socket.find name).map SocketNamespace.endpoint).getD name }
  modify fun s => { s with socket := s.socket.update name fun n => { n with json := false } }

/-- a packet without an id -/
def plain (c : Content) : Packet := ⟨c, [], [], .none⟩

/-- `Socket.of(name)`, which finds what every object has under this name as well -/
def of_ (o : Options) (name endpoint : JString) : M Unit := do
  if ((← get).socket.find name).isNone && (o.js.objectMember name).isNone then do
    modify fun s => { s with socket.namespaces := s.socket.namespaces ++ [⟨name, endpoint, false, 0, []⟩] }
    whenever (name ≠ []) (namespacePacket o name (plain (.connect [])))

/-- a new id that waits for an acknowledgement -/
def SocketNamespace.expect (n : SocketNamespace) : SocketNamespace :=
  { n with ackPackets := n.ackPackets + 1, acks := n.acks ++ [intToString (n.ackPackets + 1)] }

/-- `packet.id = ++this.ackPackets; this.acks[packet.id] = fn`, with the mark for the packet -/
def identify (name : JString) (fn : Bool) (mark : Ack) (p : Packet) : M Packet := do
  if fn then do
    modify fun s => { s with socket := s.socket.update name SocketNamespace.expect }
    let n := ((← get).socket.find name).map SocketNamespace.ackPackets
    return { p with id := intToString (n.getD 0), ack := mark }
  else return p

/-- `SocketNamespace.send(data, fn)` -/
def send (o : Options) (name : JString) (data : Json) (fn : Bool) : M Unit := do
  let json := ((← get).socket.find name).any SocketNamespace.json
  let p ← identify name fn .true (plain (if json then .json (some data) else .message data))
  namespacePacket o name p

/-- `Flag.send(data, fn)` of the flag `json` -/
def jsonSend (o : Options) (name : JString) (data : Json) (fn : Bool) : M Unit := do
  modify fun s => { s with socket := s.socket.update name fun n => { n with json := true } }
  send o name data fn

/-- `SocketNamespace.emit(name, args..., fn)` -/
def emit (o : Options) (name : JString) (event : Json) (args : List Json) (fn : Bool) : M Unit := do
  let p ← identify name fn .data (plain (.event (some event) (.array args)))
  namespacePacket o name p

/-- an acknowledgement of the packet with this id -/
def acknowledge (o : Options) (name id : JString) (args : Json) : M Unit :=
  namespacePacket o name (plain (.ack (some id) args))

/-- `Socket.publish(event)`, for the namespaces -/
def publish (o : Options) (cb : Callback) (event : JString) : M Unit := do
  forEach (o.order (← get).socket.namespaces) fun n => cb (.event n.name (some (.string event)))

/-! ## The end of a connection -/

/-- `Socket.connect()`: a handshake is requested -/
def connect : M Unit := do
  if !(← get).socket.connecting then modify fun s => { s with socket.connecting := true }.push .handshake

/-- `Socket.reconnect()` -/
def reconnect (s : St) : St := { s with socket.reconnecting := true, socket.attempts := 0 }

/-- `this.websocket.close()` -/
def websocketClose (i : ℕ) : M Unit := do
  let s ← get
  whenever (s.socket.transports[i]?.any (·.ready = .created)) (stop .typeError)
  modify fun s => { s with socket := s.socket.alter i ({ · with ready := .closed }) }

/-- a transport is not open any more -/
def closing (i : ℕ) (s : St) : St :=
  { s with socket := { s.socket.alter i ({ · with isOpen := some false }) with isOpen := false } }

/-- `close()` of a transport, as `Socket.onDisconnect` calls it: that of a transport that posts calls `onDisconnect` again,
which finds the socket disconnected -/
def transportClose (i : ℕ) : M Unit := do
  match ((← get).socket.transports[i]?).map Transport.kind with
  | none => stop .typeError
  | some .websocket => websocketClose i
  | some .xhr => modify (closing i)

/-- `Socket.onDisconnect(reason)`; `booted` where that is the reason -/
def onDisconnect (o : Options) (cb : Callback) (booted : Bool) : M Unit := do
  let was := (← get).socket
  modify fun s => { s with socket.connected := false, socket.connecting := false, socket.isOpen := false }
  if was.connected || was.connecting then do
    let i ← currentTransport
    transportClose i
    if was.connected then do
      publish o cb (str "disconnect")
      let s ← get
      if !booted && o.reconnect && !s.socket.reconnecting then modify ClientSocket.reconnect

/-- `onClose()` of a transport -/
def transportOnClose (o : Options) (cb : Callback) (i : ℕ) : M Unit := do
  modify (closing i)
  onDisconnect o cb false

/-- `Transport.onDisconnect()` -/
def transportOnDisconnect (o : Options) (cb : Callback) (i : ℕ) : M Unit := do
  match (← get).socket.transports[i]? with
  | none => pure ()
  | some t => do
    whenever (t.isOpen ≠ some false) <|
      match t.kind with
      | .websocket => websocketClose i
      | .xhr => transportOnClose o cb i
    onDisconnect o cb false

/-- `Socket.disconnect()` -/
def disconnect (o : Options) (cb : Callback) : M Unit := do
  let s ← get
  if s.socket.connected || s.socket.connecting then do
    whenever s.socket.isOpen do
      of_ o [] []
      namespacePacket o [] (plain .disconnect)
    onDisconnect o cb true

/-- `Socket.onError(err)`, with the advice of a packet -/
def onError (o : Options) (cb : Callback) (advice : JString) : M Unit := do
  let s ← get
  whenever (advice = str "reconnect" ∧ (s.socket.connected || s.socket.connecting)) do
    disconnect o cb
    if o.reconnect then modify ClientSocket.reconnect
  publish o cb (str "error")

/-- a new transport, which `getTransport` has found -/
def setTransport (k : Option Kind) (s : St) : St :=
  { s with
    socket.transports := s.socket.transports ++ (k.map (⟨·, none, .created⟩)).toList
    socket.transport := k.map fun _ => s.socket.transports.length }

/-- the `reset` of a reconnection -/
def reset (o : Options) (cb : Callback) : M Unit := do
  let s ← get
  whenever s.socket.connected do
    forEach (o.order s.socket.namespaces) fun n => whenever (n.name ≠ []) (namespacePacket o n.name (plain (.connect [])))
    publish o cb (str "reconnect")
  modify fun s => { s with socket.reconnecting := false, socket.attempts := 0, socket.redoTransports := false }

/-- `maybeReconnect`; `k` is the transport that `getTransport` finds -/
def maybeReconnect (o : Options) (cb : Callback) (k : Option Kind) : M Unit := do
  let s ← get
  if !s.socket.reconnecting then pure ()
  else if s.socket.connected then reset o cb
  else if s.socket.connecting then pure ()
  else do
    modify fun s => { s with socket.attempts := s.socket.attempts + 1 }
    if s.socket.attempts ≥ o.maxAttempts then
      if !s.socket.redoTransports then do
        modify fun s => { setTransport k s with socket.redoTransports := true }
        connect
      else do
        publish o cb (str "reconnect_failed")
        reset o cb
    else do
      connect
      publish o cb (str "reconnecting")

/-- `Socket.publish('connect_failed')`, to which a reconnection listens from its last attempt on -/
def connectFailed (o : Options) (cb : Callback) : M Unit := do
  whenever (← get).socket.redoTransports (maybeReconnect o cb none)
  publish o cb (str "connect_failed")

/-! ## Receiving -/

/-- `Socket.onConnect()`; a reconnection listens to it -/
def onConnect (o : Options) (cb : Callback) : M Unit := do
  let s ← get
  if !s.socket.connected then do
    modify fun s => { s with socket.connected := true, socket.connecting := false }
    whenever (s.socket.doBuffer = false) (setBuffer o false)
    maybeReconnect o cb none

/-- `fn.apply(this, args)` takes these arguments -/
def isList : Json → Bool
  | .null | .array _ | .object _ => true
  | .bool _ | .number _ | .string _ => false

/-- the acknowledgement of the packet with this id came -/
def onAck (cb : Callback) (name id : JString) (args : Json) : M Unit := do
  if ((← get).socket.find name).any (·.acks.contains id) then do
    whenever (!isList args) (stop .typeError)
    cb (.acknowledged name id)
    modify fun s => { s with socket := s.socket.update name fun n => { n with acks := n.acks.filter (· ≠ id) } }

/-- `SocketNamespace.onPacket(packet)` -/
def namespaceOnPacket (o : Options) (cb : Callback) (name : JString) (p : Packet) : M Unit :=
  match p.content with
  | .connect _ => cb (.event name (some (.string (str "connect"))))
  | .disconnect => if name = [] then onDisconnect o cb true else cb (.event name (some (.string (str "disconnect"))))
  | .message _ | .json _ => do
    whenever (p.ack = .true) (acknowledge o name p.id .null)
    cb (.event name (some (.string (str "message"))))
  | .event event _ => cb (.event name event)
  | .ack (some id) args => onAck cb name id args
  | .error reason advice =>
    if advice ≠ [] then onError o cb advice
    else cb (.event name (some (.string (if reason = str "unauthorized" then str "connect_failed" else str "error"))))
  | .ack none _ | .heartbeat | .noop | .unknown | .empty => pure ()

/-- the key of a packet's namespace; its endpoint is undefined if it has no fields -/
def namespaceKey (p : Packet) : JString :=
  match p.content with
  | .empty => str "undefined"
  | _ => p.endpoint

/-- `Socket.onPacket(packet)`; what objects inherit is no namespace -/
def onPacket (o : Options) (cb : Callback) (p : Packet) : M Unit := do
  of_ o (namespaceKey p) p.endpoint
  whenever (o.js.objectMember (namespaceKey p)).isSome (stop .typeError)
  namespaceOnPacket o cb (namespaceKey p) p

/-- marks what may make a second POST -/
def crossing (s : St) : St := if s.socket.posts.isEmpty then s else s.push .crossed

/-- `Transport.onHeartbeat()` -/
def onHeartbeat (o : Options) (i : ℕ) : M Unit := do
  modify fun s => if s.socket.transports[i]?.any (·.kind = .xhr) then crossing s else s
  transportPacket o i (plain .heartbeat)
  modify (·.push (.answered (encodePacket o.wellFormed (plain .heartbeat))))

/-- what `Transport.onPacket` does with a packet -/
def dispatch (o : Options) (cb : Callback) (i : ℕ) (p : Packet) : M Unit :=
  match p.content with
  | .heartbeat => onHeartbeat o i
  | .connect _ => do
    whenever (p.endpoint = []) (onConnect o cb)
    onPacket o cb p
  | .error _ advice => do
    whenever (advice = str "reconnect") <|
      modify fun s => { s with socket := s.socket.alter i ({ · with isOpen := some false }) }
    onPacket o cb p
  | _ => onPacket o cb p

/-- `Transport.onPacket(packet)` -/
def transportOnPacket (o : Options) (cb : Callback) (i : ℕ) (p : Packet) : M Unit := do
  modify (·.push (.received p))
  dispatch o cb i p

/-- `Transport.onData(data)`, with the packets of `decodePayload` -/
def onData (o : Options) (cb : Callback) (i : ℕ) (data : JString) (n : ℕ) : M Unit :=
  whenever (data ≠ []) <| forEach ((decodePayload o.js n data).getD []) (transportOnPacket o cb i)

/-! ## The script -/

/-- a call of the script, on a namespace that it has -/
def call (o : Options) (cb : Callback) (c : Call) : M Unit := do
  let s ← get
  match c with
  | .of name => of_ o name name
  | .send name data fn => if (s.socket.find name).isSome then send o name data fn
  | .jsonSend name data fn => if (s.socket.find name).isSome then jsonSend o name data fn
  | .emit name event args fn => if (s.socket.find name).isSome then emit o name event args fn
  | .ack name id args => if (s.socket.find name).isSome then acknowledge o name id (.array args)
  | .disconnect name =>
    if (s.socket.find name).isSome then
      if name = [] then disconnect o cb
      else do
        namespacePacket o name (plain .disconnect)
        cb (.event name (some (.string (str "disconnect"))))
  | .connect => connect

/-- a handler, with its start in the log -/
def handling (body : M Unit) (h : Handler) : M Unit := do
  modify (·.push (.called h))
  body

/-- an act of the script, which goes on with `rest` after a call -/
def take (o : Options) (rest : M Unit) : Act → M Unit
  | .ret => pure ()
  | .raise => stop .script
  | .call c => do
    catching (fun _ => true) (call o (handling rest) c) (pure ())
    rest

/-- The script's handlers: `acts`, one after the other. What a call raises comes back to the script, whose next act says
what it makes of it. At most `n` acts are taken, also by handlers inside handlers. -/
def behave (o : Options) : ℕ → M Unit
  | 0 => pure ()
  | n + 1 => do
    let s ← get
    match s.acts with
    | [] => pure ()
    | a :: acts => do
      modify fun s => { s with acts := acts }
      take o (behave o n) a

/-! ## Runs -/

/-- what a connect timeout goes on with -/
inductive Next where
  | off
  | exhausted
  | found (k : Option Kind)
deriving DecidableEq, Repr

/-- the numbers are those of transports -/
inductive Event where
  /-- the script calls the client -/
  | script
  /-- the handshake's response, with the transport that `getTransport` finds -/
  | handshake (k : Option Kind)
  | handshakeFailed
  /-- the transport is ready -/
  | ready
  | connectTimeout (next : Next)
  /-- `onopen` of the WebSocket -/
  | socketOpen (i : ℕ)
  /-- `onclose` of the WebSocket -/
  | socketClose (i : ℕ)
  /-- `onerror` of the WebSocket -/
  | socketError
  /-- a message or a response with this text; `n` turns are enough to decode it -/
  | data (i : ℕ) (text : JString) (n : ℕ)
  | pollFailed (i : ℕ)
  /-- the response of one of the POSTs that wait -/
  | posted (j : ℕ) (ok : Bool)
  | closeTimeout (i : ℕ)
  | heartbeatTimeout
  /-- a timer or an event of the socket calls `maybeReconnect` -/
  | retry (k : Option Kind)
deriving DecidableEq, Repr

/-- `connect(transports)` inside `Socket.connect` -/
def choose (o : Options) (cb : Callback) (k : Option Kind) : M Unit := do
  modify (setTransport k)
  if k.isNone then connectFailed o cb

/-- `onOpen()` of a transport -/
def onOpen (i : ℕ) (s : St) : St :=
  { s with socket := { s.socket.alter i ({ · with isOpen := some true }) with isOpen := true } }

/-- `setBuffer(false)` of a transport that opens -/
def openBuffer (o : Options) : M Unit := do
  modify crossing
  setBuffer o false

/-- `open()` of a transport -/
def transportOpen (o : Options) (i : ℕ) : M Unit := do
  match (← get).socket.transports[i]? with
  | none => stop .typeError
  | some t => do
    whenever t.isOpen.isSome (stop .typeError)
    match t.kind with
    | .websocket => modify fun s => { s with socket := s.socket.alter i ({ · with ready := .connecting }) }
    | .xhr => do
      openBuffer o
      modify (onOpen i)
      modify fun s => { s with socket := s.socket.alter i ({ · with ready := .opened }) }

/-- the function that waits for the transport to be ready -/
def ready (o : Options) (cb : Callback) : M Unit := do
  modify fun s => { s with socket.connecting := true }
  publish o cb (str "connecting")
  let i ← currentTransport
  transportOpen o i

/-- the response of a POST came -/
def posted (o : Options) (cb : Callback) (j : ℕ) (ok : Bool) : M Unit := do
  match (← get).socket.posts[j]? with
  | none => pure ()
  | some p => do
    modify fun s => { s with socket.posts := s.socket.posts.eraseIdx j }
    if ok then setBuffer o false else transportOnClose o cb p.transport

/-- `script` are the calls of the page, on its own account or in a handler -/
def perform (o : Options) (script : M Unit) (cb : Callback) : Event → M Unit
  | .script => script
  | .handshake k => choose o cb k
  | .handshakeFailed => do
    modify fun s => { s with socket.connecting := false }
    if !(← get).socket.reconnecting then publish o cb (str "error")
  | .ready => ready o cb
  | .connectTimeout next => do
    if !(← get).socket.connected then do
      modify fun s => { s with socket.connecting := false }
      match next with
      | .off => pure ()
      | .exhausted => connectFailed o cb
      | .found k => choose o cb k
  | .socketOpen i => do
    if (← get).socket.transports[i]?.any (·.ready = .connecting) then do
      modify fun s => { s with socket := s.socket.alter i ({ · with ready := .opened }) }
      modify (onOpen i)
      openBuffer o
  | .socketClose i => do
    if (← get).socket.transports[i]?.any fun t => t.kind = .websocket ∧ t.ready ≠ .created then do
      modify fun s => { s with socket := s.socket.alter i ({ · with ready := .closed }) }
      transportOnClose o cb i
      setBuffer o true
  | .socketError => onError o cb []
  | .data i text n => do
    if (← get).socket.transports[i]?.any fun t => t.isOpen.isSome ∧ (t.ready = .opened ∨ t.ready = .closed) then
      onData o cb i text n
  | .pollFailed i => do
    if (← get).socket.transports[i]?.any fun t => t.kind = .xhr ∧ t.ready = .opened then transportOnClose o cb i
  | .posted j ok => posted o cb j ok
  | .closeTimeout i => transportOnDisconnect o cb i
  | .heartbeatTimeout => do
    let i ← currentTransport
    transportOnClose o cb i
  | .retry k => maybeReconnect o cb k

structure Input where
  event : Event
  acts : List Act

/-- an event is handled; an exception of it goes to the browser -/
def step (o : Options) (s : St) (i : Input) : St :=
  (perform o (behave o (i.acts.length + 1)) (handling (behave o (i.acts.length + 1))) i.event { s with acts := i.acts }).2

def run (o : Options) (s : St) (is : List Input) : St := is.foldl (step o) s

/-- a new socket, which has requested its handshake -/
def created : St where
  socket :=
    { connected := false, connecting := true, isOpen := false, reconnecting := false, doBuffer := false, buffer := []
      namespaces := [], transports := [], transport := none, posts := [], attempts := 0, redoTransports := false }
  acts := []
  log := [.handshake]

end SocketIOJava.ClientSocket
