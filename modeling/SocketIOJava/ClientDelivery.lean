/-
What becomes of the packets that the client is given.

`Follows o R`: what a relation between states asks for the client's methods to be along it; `along_behave` and
`perform_related` compose it over handlers at any depth and over events.

- `given_call`: a call of the page gives the packet that it asks for.
- `conserved_run`: in every run the packets that were given are those that were passed to transports, those in the buffer,
  and those that raised an exception because no transport was ready, each as often.
- `ordered_run`: they are also passed on in the order in which they were given, and none is refused, as long as transports
  are changed only while the socket is not connected and texts come only on the one in use.
- `one_post_run`: a client that posts has at most one POST in flight, as long as no heartbeat is answered and no transport
  is opened while one is.
-/
import SocketIOJava.Lib.Runs
import SocketIOJava.ClientSocket

namespace SocketIOJava.ClientDelivery

open Program SocketIOJava.Text SocketIOJava.EventText SocketIOJava.ClientParser SocketIOJava.ClientSocket

/-! ## What was given and what was sent -/

/-- the packets that were given to the socket -/
def given : List Entry → List Packet
  | [] => []
  | .given p :: past => given past ++ [p]
  | _ :: past => given past

/-- what was passed to transports: packets with the texts for them, and the answers to heartbeats -/
def said : List Entry → List (List Packet × List JString)
  | [] => []
  | .sent ps texts :: past => said past ++ [(ps, texts)]
  | .answered text :: past => said past ++ [([], [text])]
  | _ :: past => said past

def sent (log : List Entry) : List Packet := (said log).flatMap Prod.fst

/-- the packets whose call of `Socket.packet` ended in an exception, with the transport in use -/
def refusals : List Entry → List (Packet × Option Transport)
  | [] => []
  | .refused p t :: past => refusals past ++ [(p, t)]
  | _ :: past => refusals past

def refused (log : List Entry) : List Packet := (refusals log).map Prod.fst

/-- the packets that came in -/
def received : List Entry → List Packet
  | [] => []
  | .received p :: past => received past ++ [p]
  | _ :: past => received past

/-- how often a transport opened, or a heartbeat was answered by a POST, while a POST waited for its response -/
def crossings (log : List Entry) : ℕ := log.countP fun
  | .crossed => true
  | _ => false

/-- states that do not differ in what the delivery of packets depends on -/
structure Same (s s' : St) : Prop where
  connected : s'.socket.connected = s.socket.connected
  doBuffer : s'.socket.doBuffer = s.socket.doBuffer
  buffer : s'.socket.buffer = s.socket.buffer
  transports : s'.socket.transports = s.socket.transports
  transport : s'.socket.transport = s.socket.transport
  posts : s'.socket.posts = s.socket.posts
  given : given s'.log = given s.log
  said : said s'.log = said s.log
  refusals : refusals s'.log = refusals s.log
  received : received s'.log = received s.log
  crossings : crossings s'.log = crossings s.log

/-- a transport that takes what it is sent -/
def Usable (t : Transport) : Prop := t.kind = .xhr ∨ t.isOpen.isSome = true ∧ (t.ready = .opened ∨ t.ready = .closed)

/-- a WebSocket that is not yet open: what it is sent raises an exception -/
def Unready (t : Transport) : Prop := t.kind = .websocket ∧ (t.ready = .created ∨ t.ready = .connecting)

theorem Unready.not_usable {t : Transport} (h : Unready t) : ¬ Usable t := by
  rintro (hxhr | ⟨-, hready⟩)
  · cases hxhr.symm.trans h.1
  · rcases h.2 with hr | hr <;> rw [hr] at hready <;> exact hready.elim nofun nofun

/-- the socket uses this transport, which takes what it is sent -/
def Uses (i : ℕ) (s : St) : Prop := s.socket.transport = some i ∧ ∃ t, s.socket.transports[i]? = some t ∧ Usable t

/-- what the client's methods ask of a relation that they are to be along, ends of a connection and reconnections apart -/
structure Carries (o : Options) (R : St → St → Prop) : Prop where
  packet : ∀ p, Along R (packet o p)
  buffering : Along R (setBuffer o true)
  named : ∀ s namespaces, R s { s with socket.namespaces := namespaces }
  flagged : ∀ s connecting isOpen, R s { s with socket.connecting := connecting, socket.isOpen := isOpen }
  altered : ∀ i f s, (∀ t, s.socket.transports[i]? = some t → Usable t → Usable (f t)) → (∀ t, (f t).kind = t.kind) →
    R s { s with socket := s.socket.alter i f }

/-- and what those ask that call a handler or end a connection -/
structure Conducts (o : Options) (cb : Callback) (R : St → St → Prop) : Prop extends Carries o R where
  handler : ∀ h, Along R (cb h)
  onDisconnect : ∀ booted, Along R (onDisconnect o cb booted)

/-- a relation that depends on nothing else than the delivery of packets -/
structure Follows (o : Options) (R : St → St → Prop) : Prop extends Carries o R where
  same : ∀ s s', Same s s' → R s s'
  disconnected : ∀ s, R s { s with socket.connected := false }
  named := fun s _ => same s _ ⟨rfl, rfl, rfl, rfl, rfl, rfl, rfl, rfl, rfl, rfl, rfl⟩
  flagged := fun s _ _ => same s _ ⟨rfl, rfl, rfl, rfl, rfl, rfl, rfl, rfl, rfl, rfl, rfl⟩

/-- a new transport is chosen while the socket is not connected -/
def Chooses (R : St → St → Prop) : Prop := ∀ k s, s.socket.connected = false → R s (setTransport k s)

section

variable {o : Options} {R : St → St → Prop} {cb : Callback} {s : St}

theorem same_push {e : Entry} (hgiven : given (e :: s.log) = given s.log) (hsaid : said (e :: s.log) = said s.log)
    (hrefusals : refusals (e :: s.log) = refusals s.log) (hreceived : received (e :: s.log) = received s.log)
    (hcrossings : crossings (e :: s.log) = crossings s.log) : Same s (s.push e) :=
  ⟨rfl, rfl, rfl, rfl, rfl, rfl, hgiven, hsaid, hrefusals, hreceived, hcrossings⟩

theorem along_currentTransport [Std.Refl R] : Along R currentTransport := by
  refine along_get_bind fun s => ?_
  cases s.socket.transport with
  | none => exact Std.Refl.refl s
  | some i => exact Std.Refl.refl s

theorem along_publish [Std.Refl R] [IsTrans St R] (hcb : ∀ h, Along R (cb h)) (event : JString) : Along R (publish o cb event) :=
  along_get.bind fun _ => along_forEach fun _ _ => hcb _

/-- a connection has failed, of which `maybeReconnect` may be told -/
theorem along_connectFailed [Std.Refl R] [IsTrans St R] (hcb : ∀ h, Along R (cb h))
    (hretry : ∀ s, s.socket.redoTransports = true → R s (maybeReconnect o cb none s).2) : Along R (connectFailed o cb) := by
  refine along_get_bind fun s => ?_
  by_cases hredo : s.socket.redoTransports = true
  · unfold whenever
    rw [if_pos hredo]
    exact bind_related (hretry s hredo) fun _ => along_publish hcb _
  · unfold whenever
    rw [if_neg hredo]
    exact along_publish hcb _ s

/-- a new transport is chosen, where that is along the relation -/
theorem choose_related [Std.Refl R] [IsTrans St R] (hfailed : Along R (connectFailed o cb)) {found : Option Kind}
    (h : R s (setTransport found s)) : R s (choose o cb found s).2 := by
  refine bind_related h fun _ => ?_
  exact .ite (fun _ => hfailed) fun _ => along_pure _

theorem crossing_related [Std.Refl R] (hcrossed : ∀ s, R s (s.push .crossed)) (s : St) : R s (crossing s) := by
  unfold crossing
  split_ifs
  · exact Std.Refl.refl s
  · exact hcrossed s

/-- the buffering ends as a transport opens -/
theorem along_openBuffer [Std.Refl R] [IsTrans St R] (hcrossed : ∀ s, R s (s.push .crossed))
    (hflush : Along R (setBuffer o false)) : Along R (openBuffer o) :=
  (along_modify (crossing_related hcrossed)).bind fun _ => hflush

namespace Carries

variable (k : Carries o R)
include k

theorem along_update (name : JString) (f : SocketNamespace → SocketNamespace) :
    Along R (modify fun s => { s with socket := s.socket.update name f } : M Unit) :=
  along_modify fun s => k.named s (s.socket.update name f).namespaces

theorem along_flags (connecting : Bool) : Along R (modify fun s => { s with socket.connecting := connecting } : M Unit) :=
  along_modify fun s => k.flagged s connecting s.socket.isOpen

variable [IsTrans St R]

theorem along_namespacePacket (name : JString) (p : Packet) : Along R (namespacePacket o name p) :=
  along_get_bind fun s => ((k.packet _).bind fun _ => k.along_update name _) s

theorem along_acknowledge (name id : JString) (args : Json) : Along R (acknowledge o name id args) :=
  k.along_namespacePacket name _

theorem along_closing (i : ℕ) : Along R (modify (closing i) : M Unit) := by
  refine along_modify fun s => IsTrans.trans _ _ _ (k.altered i ({ · with isOpen := some false }) s ?_ fun _ => rfl)
    (k.flagged _ s.socket.connecting false)
  exact fun t _ h => h.imp_right fun h => ⟨rfl, h.2⟩

theorem along_onOpen (i : ℕ) : Along R (modify (onOpen i) : M Unit) := by
  refine along_modify fun s => IsTrans.trans _ _ _ (k.altered i ({ · with isOpen := some true }) s ?_ fun _ => rfl)
    (k.flagged _ s.socket.connecting true)
  exact fun t _ h => h.imp_right fun h => ⟨rfl, h.2⟩

variable [Std.Refl R]

theorem along_of_ (name endpoint : JString) : Along R (of_ o name endpoint) := by
  refine along_get_bind fun s => Along.ite (fun _ => ?_) (fun _ => along_pure _) s
  exact (along_modify fun s => k.named s _).bind fun _ => along_whenever fun _ => k.along_namespacePacket name _

theorem along_identify (name : JString) (fn : Bool) (mark : Ack) (p : Packet) : Along R (identify name fn mark p) :=
  .ite (fun _ => (k.along_update name _).bind fun _ => along_get.bind fun _ => along_pure _) fun _ => along_pure _

theorem along_send (name : JString) (data : Json) (fn : Bool) : Along R (send o name data fn) :=
  along_get.bind fun _ => (k.along_identify name fn _ _).bind fun p => k.along_namespacePacket name p

theorem along_jsonSend (name : JString) (data : Json) (fn : Bool) : Along R (jsonSend o name data fn) :=
  (k.along_update name _).bind fun _ => k.along_send name data fn

theorem along_emit (name : JString) (event : Json) (args : List Json) (fn : Bool) : Along R (emit o name event args fn) :=
  (k.along_identify name fn _ _).bind fun p => k.along_namespacePacket name p

theorem along_websocketClose (i : ℕ) : Along R (websocketClose i) := by
  refine along_get.bind fun s => (along_whenever fun _ => along_stop _).bind fun _ => ?_
  exact along_modify fun s => k.altered i _ s (fun t _ h => h.imp_right fun h => ⟨h.1, .inr rfl⟩) fun _ => rfl

theorem along_transportClose (i : ℕ) : Along R (transportClose i) := by
  refine along_get.bind fun s => ?_
  rcases (s.socket.transports[i]?).map Transport.kind with _ | _ | _
  · exact along_stop _
  · exact k.along_websocketClose i
  · exact k.along_closing i

/-- a transport is opened, where that the buffering ends then is along the relation -/
theorem along_transportOpen (hopen : Along R (openBuffer o)) (i : ℕ) : Along R (transportOpen o i) := by
  refine along_get_bind fun s => ?_
  rcases ht : s.socket.transports[i]? with _ | ⟨kind, _ | isOpen, state⟩
  · exact Std.Refl.refl s
  · cases kind with
    | websocket =>
      refine k.altered i ({ · with ready := .connecting }) s (fun t h husable => ?_) fun _ => rfl
      cases ht.symm.trans h
      rcases husable with hxhr | ⟨hopen, _⟩
      · cases hxhr
      · cases hopen
    | xhr =>
      have hopened : Along R (do
          openBuffer o
          modify (onOpen i)
          modify fun s => { s with socket := s.socket.alter i ({ · with ready := .opened }) } : M Unit) := by
        refine hopen.bind fun _ => (k.along_onOpen i).bind fun _ => along_modify fun s => ?_
        exact k.altered i _ s (fun t _ h => h.imp_right fun h => ⟨h.1, .inl rfl⟩) fun _ => rfl
      exact hopened s
  · exact Std.Refl.refl s

theorem along_socketOpen {script : M Unit} (hopen : Along R (openBuffer o)) (i : ℕ) :
    Along R (perform o script cb (.socketOpen i)) := by
  refine along_get.bind fun s => .ite (fun _ => ?_) fun _ => along_pure _
  refine Along.bind (along_modify fun s => ?_) fun _ => (k.along_onOpen i).bind fun _ => hopen
  exact k.altered i _ s (fun t _ h => h.imp_right fun h => ⟨h.1, .inl rfl⟩) fun _ => rfl

end Carries

namespace Conducts

variable [IsTrans St R] (k : Conducts o cb R)
include k

theorem along_transportOnClose (i : ℕ) : Along R (transportOnClose o cb i) :=
  (k.along_closing i).bind fun _ => k.onDisconnect false

variable [Std.Refl R]

theorem along_transportOnDisconnect (i : ℕ) : Along R (transportOnDisconnect o cb i) := by
  refine along_get.bind fun s => ?_
  rcases s.socket.transports[i]? with _ | t
  · exact along_pure _
  · refine (along_whenever fun _ => ?_).bind fun _ => k.onDisconnect false
    cases t.kind with
    | websocket => exact k.along_websocketClose i
    | xhr => exact k.along_transportOnClose i

theorem along_disconnect : Along R (disconnect o cb) := by
  refine along_get.bind fun s => .ite (fun _ => ?_) fun _ => along_pure _
  refine (along_whenever fun _ => ?_).bind fun _ => k.onDisconnect true
  exact (k.along_of_ [] []).bind fun _ => k.along_namespacePacket [] _

/-- an error that is no request to reconnect -/
theorem along_onError {advice : JString} (hadvice : advice ≠ str "reconnect") : Along R (onError o cb advice) :=
  along_get.bind fun _ => (along_whenever fun h => absurd h.1 hadvice).bind fun _ => along_publish k.handler _

/-- a packet for the namespaces, where an error with an advice is along the relation -/
theorem along_namespaceOnPacket (name : JString) {p : Packet}
    (herror : ∀ reason advice, p.content = .error reason advice → Along R (onError o cb advice)) :
    Along R (namespaceOnPacket o cb name p) := by
  unfold namespaceOnPacket
  have hmessage : Along R (do
      whenever (p.ack = .true) (acknowledge o name p.id .null)
      cb (.event name (some (.string (str "message")))) : M Unit) :=
    (along_whenever fun _ => k.along_acknowledge _ _ _).bind fun _ => k.handler _
  cases hcontent : p.content with
  | connect qs => exact k.handler _
  | disconnect => exact .ite (fun _ => k.onDisconnect true) fun _ => k.handler _
  | message data => exact hmessage
  | json data => exact hmessage
  | event event args => exact k.handler _
  | ack id args =>
    cases id with
    | none => exact along_pure _
    | some id =>
      refine along_get.bind fun s => .ite (fun _ => ?_) fun _ => along_pure _
      exact (along_whenever fun _ => along_stop _).bind fun _ => (k.handler _).bind fun _ => k.along_update name _
  | error reason advice => exact .ite (fun _ => herror reason advice hcontent) fun _ => k.handler _
  | heartbeat => exact along_pure _
  | noop => exact along_pure _
  | unknown => exact along_pure _
  | empty => exact along_pure _

theorem along_onPacket {p : Packet} (herror : ∀ reason advice, p.content = .error reason advice → Along R (onError o cb advice)) :
    Along R (onPacket o cb p) :=
  (k.along_of_ _ _).bind fun _ => (along_whenever fun _ => along_stop _).bind fun _ => k.along_namespaceOnPacket _ herror

/-- a packet of the server, where its transport is along the relation with a connect packet, a heartbeat and an error -/
theorem transportOnPacket_related {s₀ : St} {i : ℕ} {p : Packet} (hreceived : R s₀ (s.push (.received p)))
    (hconnect : ∀ qs, p.content = .connect qs → p.endpoint = [] → Along R (onConnect o cb))
    (hanswer : p.content = .heartbeat → Along R (onHeartbeat o i))
    (herror : ∀ reason advice, p.content = .error reason advice → Along R (onError o cb advice)) :
    R s₀ (transportOnPacket o cb i p s).2 := by
  unfold transportOnPacket dispatch
  rw [modify_bind]
  refine IsTrans.trans _ _ _ hreceived ?_
  have hother := k.along_onPacket herror
  cases hcontent : p.content with
  | heartbeat => exact hanswer hcontent _
  | connect qs => exact ((along_whenever fun h => hconnect qs hcontent h).bind fun _ => hother) _
  | error reason advice =>
    refine Along.bind (along_whenever fun _ => along_modify fun s => ?_) (fun _ => hother) _
    exact k.altered i _ s (fun t _ h => h.imp_right fun h => ⟨rfl, h.2⟩) fun _ => rfl
  | disconnect | message _ | json _ | event _ _ | ack _ _ | noop | unknown | empty => exact hother _

/-- a call of the script, where `connect` is along the relation -/
theorem along_call {c : Call} (hconnect : c = .connect → Along R ClientSocket.connect) : Along R (call o cb c) := by
  refine along_get.bind fun s => ?_
  cases c with
  | of name => exact k.along_of_ name name
  | send name data fn => exact .ite (fun _ => k.along_send name data fn) fun _ => along_pure _
  | jsonSend name data fn => exact .ite (fun _ => k.along_jsonSend name data fn) fun _ => along_pure _
  | emit name event args fn => exact .ite (fun _ => k.along_emit name event args fn) fun _ => along_pure _
  | ack name id args => exact .ite (fun _ => k.along_acknowledge name id _) fun _ => along_pure _
  | disconnect name =>
    refine .ite (fun _ => .ite (fun _ => k.along_disconnect) fun _ => ?_) fun _ => along_pure _
    exact (k.along_namespacePacket name _).bind fun _ => k.handler _
  | connect => exact hconnect rfl

/-- the events that no relation asks more for -/
def Plain : Event → Prop
  | .script | .handshakeFailed | .socketClose _ | .socketError | .pollFailed _ | .closeTimeout _ | .heartbeatTimeout => True
  | _ => False

theorem along_plain {script : M Unit} (hscript : Along R script) {e : Event} (he : Plain e) :
    Along R (perform o script cb e) := by
  cases e with
  | script => exact hscript
  | handshakeFailed =>
    refine (k.along_flags false).bind fun _ => along_get.bind fun _ => ?_
    exact .ite (fun _ => along_publish k.handler _) fun _ => along_pure _
  | socketClose i =>
    refine along_get.bind fun s => .ite (fun _ => ?_) fun _ => along_pure _
    refine Along.bind (along_modify fun s => ?_) fun _ => (k.along_transportOnClose i).bind fun _ => k.buffering
    exact k.altered i _ s (fun t _ h => h.imp_right fun h => ⟨h.1, .inr rfl⟩) fun _ => rfl
  | socketError => exact k.along_onError (List.cons_ne_nil _ _).symm
  | pollFailed i =>
    exact along_get.bind fun s => .ite (fun _ => k.along_transportOnClose i) fun _ => along_pure _
  | closeTimeout i => exact k.along_transportOnDisconnect i
  | heartbeatTimeout => exact along_currentTransport.bind fun i => k.along_transportOnClose i
  | handshake _ | ready | connectTimeout _ | socketOpen _ | data _ _ _ | posted _ _ | retry _ => exact he.elim

/-- a connect timeout may choose a new transport, as the socket is not connected then -/
theorem along_connectTimeout {script : M Unit} {next : Next} (hfailed : Along R (connectFailed o cb))
    (hchoose : ∀ found, next = .found found → ∀ s, s.socket.connected = false → R s (setTransport found s)) :
    Along R (perform o script cb (.connectTimeout next)) := by
  refine along_get_bind fun s => ?_
  by_cases hconnected : (!s.socket.connected) = true
  · rw [if_pos hconnected]
    have hoff : R s { s with socket.connecting := false } := k.along_flags false s
    rw [modify_bind]
    refine IsTrans.trans _ _ _ hoff ?_
    cases next with
    | off => exact Std.Refl.refl _
    | exhausted => exact hfailed _
    | found found => exact choose_related hfailed (hchoose found rfl _ (by simpa using hconnected))
  · rw [if_neg hconnected]; exact Std.Refl.refl s

theorem along_ready (hopen : Along R (openBuffer o)) : Along R (ready o cb) := by
  refine (k.along_flags true).bind fun _ => ?_
  exact (along_publish k.handler _).bind fun _ => along_currentTransport.bind fun i => k.along_transportOpen hopen i

theorem along_posted (hflush : Along R (setBuffer o false))
    (htaken : ∀ j s, R s { s with socket.posts := s.socket.posts.eraseIdx j }) (j : ℕ) (ok : Bool) :
    Along R (posted o cb j ok) := by
  refine along_get.bind fun s => ?_
  rcases s.socket.posts[j]? with _ | post
  · exact along_pure _
  · refine (along_modify fun s => htaken j s).bind fun _ => .ite (fun _ => hflush) fun _ => ?_
    exact k.along_transportOnClose post.transport

/-- an event in which the socket keeps its transports, and that brings no text of the server -/
def Local : Event → Prop
  | .handshake _ | .data _ _ _ | .retry _ | .connectTimeout (.found _) => False
  | _ => True

theorem along_local {script : M Unit} (hscript : Along R script) (hfailed : Along R (connectFailed o cb))
    (hopen : Along R (openBuffer o)) (hflush : Along R (setBuffer o false))
    (htaken : ∀ j s, R s { s with socket.posts := s.socket.posts.eraseIdx j }) {e : Event} (he : Local e) :
    Along R (perform o script cb e) := by
  by_cases hplain : Plain e
  · exact k.along_plain hscript hplain
  cases e with
  | ready => exact k.along_ready hopen
  | socketOpen i => exact k.along_socketOpen hopen i
  | posted j ok => exact k.along_posted hflush htaken j ok
  | connectTimeout next =>
    refine k.along_connectTimeout hfailed ?_
    rintro found rfl
    exact he.elim
  | handshake _ | data _ _ _ | retry _ => exact he.elim
  | _ => exact absurd trivial hplain

end Conducts

namespace Follows

/-- two properties that the client's methods keep -/
theorem and {I J : St → Prop} (hI : Follows o (Preserves I)) (hJ : Follows o (Preserves J)) :
    Follows o (Preserves fun s => I s ∧ J s) where
  same s s' hs h := ⟨hI.same s s' hs h.1, hJ.same s s' hs h.2⟩
  packet p := along_preserves_and (hI.packet p) (hJ.packet p)
  buffering := along_preserves_and hI.buffering hJ.buffering
  disconnected s h := ⟨hI.disconnected s h.1, hJ.disconnected s h.2⟩
  altered i f s hf hkind h := ⟨hI.altered i f s hf hkind h.1, hJ.altered i f s hf hkind h.2⟩

variable (k : Follows o R) (hcb : ∀ h, Along R (cb h))
include k

/-- an update of what the delivery of packets does not depend on -/
theorem along_same {f : St → St} (h : ∀ s, Same s (f s)) : Along R (modify f : M Unit) := along_modify fun s => k.same _ _ (h s)

theorem along_reconnect : Along R (modify reconnect : M Unit) :=
  k.along_same fun _ => ⟨rfl, rfl, rfl, rfl, rfl, rfl, rfl, rfl, rfl, rfl, rfl⟩

variable [Std.Refl R] [IsTrans St R]

theorem along_connect : Along R ClientSocket.connect :=
  along_get.bind fun _ =>
    .ite (fun _ => k.along_same fun _ => ⟨rfl, rfl, rfl, rfl, rfl, rfl, rfl, rfl, rfl, rfl, rfl⟩) fun _ => along_pure _

include hcb

theorem along_onDisconnect (booted : Bool) : Along R (onDisconnect o cb booted) := by
  refine along_get.bind fun was => (along_modify fun s => ?_).bind fun _ => .ite (fun _ => ?_) fun _ => along_pure _
  · exact IsTrans.trans _ _ _ (k.disconnected s) (k.same _ _ ⟨rfl, rfl, rfl, rfl, rfl, rfl, rfl, rfl, rfl, rfl, rfl⟩)
  · refine along_currentTransport.bind fun i => (k.along_transportClose i).bind fun _ => ?_
    refine .ite (fun _ => (along_publish hcb _).bind fun _ => along_get.bind fun _ => ?_) fun _ => along_pure _
    exact .ite (fun _ => k.along_reconnect) fun _ => along_pure _

theorem conducts : Conducts o cb R where
  toCarries := k.toCarries
  handler := hcb
  onDisconnect := k.along_onDisconnect hcb

theorem along_onError (advice : JString) : Along R (onError o cb advice) := by
  refine along_get.bind fun s => (along_whenever fun _ => ?_).bind fun _ => along_publish hcb _
  exact (k.conducts hcb).along_disconnect.bind fun _ => .ite (fun _ => k.along_reconnect) fun _ => along_pure _

theorem along_reset : Along R (reset o cb) := by
  refine along_get.bind fun s => (along_whenever fun _ => ?_).bind fun _ => k.along_same fun _ => ?_
  · refine (along_forEach fun n _ => along_whenever fun _ => ?_).bind fun _ => along_publish hcb _
    exact k.along_namespacePacket n.name _
  · exact ⟨rfl, rfl, rfl, rfl, rfl, rfl, rfl, rfl, rfl, rfl, rfl⟩

theorem maybeReconnect_connected (hconnected : s.socket.connected = true) (found : Option Kind) :
    R s (maybeReconnect o cb found s).2 := by
  unfold maybeReconnect
  rw [get_bind]
  refine Along.ite (fun _ => along_pure _) (fun _ => ?_) s
  rw [if_pos hconnected]
  exact k.along_reset hcb

/-- a reconnection chooses a new transport once, and only while the socket is not connected -/
theorem maybeReconnect_related (hchoose : s.socket.redoTransports = true ∨ Chooses R) (found : Option Kind) :
    R s (maybeReconnect o cb found s).2 := by
  by_cases hconnected : s.socket.connected = true
  · exact k.maybeReconnect_connected hcb hconnected found
  unfold maybeReconnect
  rw [get_bind]
  by_cases hreconnecting : (!s.socket.reconnecting) = true
  · rw [if_pos hreconnecting]; exact Std.Refl.refl s
  rw [if_neg hreconnecting, if_neg hconnected]
  by_cases hconnecting : s.socket.connecting = true
  · rw [if_pos hconnecting]; exact Std.Refl.refl s
  rw [if_neg hconnecting, modify_bind]
  have hcount : R s { s with socket.attempts := s.socket.attempts + 1 } :=
    k.same _ _ ⟨rfl, rfl, rfl, rfl, rfl, rfl, rfl, rfl, rfl, rfl, rfl⟩
  refine IsTrans.trans _ _ _ hcount ?_
  have hagain : Along R (do ClientSocket.connect; publish o cb (str "reconnecting") : M Unit) :=
    k.along_connect.bind fun _ => along_publish hcb _
  have hlast : Along R (do publish o cb (str "reconnect_failed"); reset o cb : M Unit) :=
    (along_publish hcb _).bind fun _ => k.along_reset hcb
  by_cases hattempts : s.socket.attempts ≥ o.maxAttempts
  · rw [if_pos hattempts]
    by_cases hredo : (!s.socket.redoTransports) = true
    · rw [if_pos hredo, modify_bind]
      have hset := hchoose.resolve_left (by simpa using hredo) found { s with socket.attempts := s.socket.attempts + 1 } (Bool.eq_false_iff.2 hconnected)
      refine IsTrans.trans _ _ _ hset (IsTrans.trans _ _ _ (k.same _ _ ?_) (k.along_connect _))
      exact ⟨rfl, rfl, rfl, rfl, rfl, rfl, rfl, rfl, rfl, rfl, rfl⟩
    · rw [if_neg hredo]; exact hlast _
  · rw [if_neg hattempts]; exact hagain _

theorem along_maybeReconnect (hchoose : Chooses R) (found : Option Kind) : Along R (maybeReconnect o cb found) :=
  fun _ => k.maybeReconnect_related hcb (.inr hchoose) found

/-- the listener of a connection that fails has chosen its transport before -/
theorem along_connectFailed : Along R (connectFailed o cb) :=
  ClientDelivery.along_connectFailed hcb fun _ hredo => k.maybeReconnect_related hcb (.inl hredo) none

/-- a packet of the server, where its transport is along the relation with a connect packet and a heartbeat -/
theorem transportOnPacket_related {s₀ : St} {i : ℕ} {p : Packet} (hreceived : R s₀ (s.push (.received p)))
    (hconnect : Along R (onConnect o cb))
    (hanswer : p.content = .heartbeat → Along R (onHeartbeat o i)) :
    R s₀ (transportOnPacket o cb i p s).2 :=
  (k.conducts hcb).transportOnPacket_related hreceived (fun _ _ _ => hconnect) hanswer fun _ advice _ =>
    k.along_onError hcb advice

theorem along_transportOnPacket (i : ℕ) (p : Packet) (hreceived : ∀ s, R s (s.push (.received p)))
    (hconnect : Along R (onConnect o cb))
    (hanswer : p.content = .heartbeat → Along R (onHeartbeat o i)) :
    Along R (transportOnPacket o cb i p) := fun s => k.transportOnPacket_related hcb (hreceived s) hconnect hanswer

omit hcb in
/-- **The script is along what the client's methods are along**, at every depth of handlers. -/
theorem along_behave (n : ℕ) : Along R (behave o n) := by
  induction n with
  | zero => exact along_pure _
  | succ n ih =>
    refine along_get.bind fun s => ?_
    cases s.acts with
    | nil => exact along_pure _
    | cons a acts =>
      refine Along.bind (k.along_same fun _ => ⟨rfl, rfl, rfl, rfl, rfl, rfl, rfl, rfl, rfl, rfl, rfl⟩) fun _ => ?_
      cases a with
      | ret => exact along_pure _
      | raise => exact along_stop _
      | call c =>
        have hhandling (h : Handler) : Along R (handling (behave o n) h) :=
          (k.along_same fun s => same_push rfl rfl rfl rfl rfl).bind fun _ => ih
        exact (Along.catching _ ((k.conducts hhandling).along_call fun _ => k.along_connect) (along_pure _)).bind fun _ => ih

omit hcb in
theorem along_handling (n : ℕ) (h : Handler) : Along R (handling (behave o n) h) :=
  (k.along_same fun _ => same_push rfl rfl rfl rfl rfl).bind fun _ => k.along_behave n

end Follows

end

/-! ## What sending does -/

section

variable {o : Options} {s : St}

/-- a POST is made -/
def posting (i : ℕ) (text : JString) (s : St) : St :=
  { s with socket.doBuffer := true, socket.posts := s.socket.posts ++ [⟨i, text⟩] }

def kindAt (s : St) (i : ℕ) : Option Kind := (s.socket.transports[i]?).map Transport.kind

/-- a transport stays of its kind -/
theorem kindAt_alter {f : Transport → Transport} (hf : ∀ t, (f t).kind = t.kind) {j : ℕ} (s : St) (i : ℕ) :
    kindAt { s with socket := s.socket.alter j f } i = kindAt s i := by
  change ((s.socket.transports.modify j f)[i]?).map Transport.kind = (s.socket.transports[i]?).map Transport.kind
  rw [List.getElem?_modify]
  change ((s.socket.transports[i]?).map fun t => if j = i then f t else t).map Transport.kind = _
  rw [Option.map_map]
  refine congrArg (Option.map · _) (funext fun t => ?_)
  change (if j = i then f t else t).kind = t.kind
  split_ifs
  · exact hf t
  · rfl

theorem kinds_alter {f : Transport → Transport} (hf : ∀ t, (f t).kind = t.kind) {k : Kind} {s : St}
    (h : ∀ t ∈ s.socket.transports, t.kind = k) (i : ℕ) : ∀ t ∈ (s.socket.alter i f).transports, t.kind = k := by
  intro t ht
  obtain ⟨j, hj⟩ := List.mem_iff_getElem?.1 ht
  have hkind : kindAt { s with socket := s.socket.alter i f } j = some t.kind := congrArg (Option.map Transport.kind) hj
  rw [kindAt_alter hf] at hkind
  obtain ⟨t', ht', hsame⟩ := Option.map_eq_some_iff.1 hkind
  rw [← hsame]
  exact h t' (List.mem_of_getElem? ht')

/-- what `send(data)` of a transport does -/
inductive Sending (i : ℕ) (text : JString) (s : St) : Except Thrown Unit × St → Prop where
  | raised (e : Thrown) (h : ∀ t, s.socket.transports[i]? = some t → Unready t) : Sending i text s (.error e, s)
  | written (h : kindAt s i = some .websocket) : Sending i text s (.ok (), s)
  | posted (h : kindAt s i = some .xhr) : Sending i text s (.ok (), posting i text s)

theorem transportSend_cases (i : ℕ) (text : JString) (s : St) : Sending i text s (transportSend i text s) := by
  unfold transportSend
  rw [get_bind]
  cases ht : s.socket.transports[i]? with
  | none => exact .raised _ fun t h => by cases ht.symm.trans h
  | some t =>
    obtain ⟨kind, isOpen, ready⟩ := t
    have hkind : kindAt s i = some kind := by rw [kindAt, ht]; rfl
    have hraised (hready : ready = .created ∨ ready = .connecting) (hk : kind = .websocket) :
        ∀ t, s.socket.transports[i]? = some t → Unready t := by
      intro t h
      cases ht.symm.trans h
      exact ⟨hk, hready⟩
    cases kind with
    | xhr => exact .posted hkind
    | websocket =>
      cases ready with
      | created => exact .raised .typeError (hraised (.inl rfl) rfl)
      | connecting => exact .raised .invalidState (hraised (.inr rfl) rfl)
      | opened => exact .written hkind
      | closed => exact .written hkind

/-- the answer to a heartbeat, where a POST past the buffer is along the relation -/
theorem along_answer {R : St → St → Prop} [Std.Refl R] [IsTrans St R] {i : ℕ} (hcrossed : ∀ s, R s (s.push .crossed))
    (hpost : ∀ text s, kindAt s i = some .xhr → R s (posting i text s))
    (hanswered : ∀ s, R s (s.push (.answered (encodePacket o.wellFormed (plain .heartbeat))))) :
    Along R (onHeartbeat o i) := by
  refine (along_modify fun s => ?_).bind fun _ => Along.bind (fun s => ?_) fun _ => along_modify hanswered
  · unfold crossing
    split_ifs
    · exact Std.Refl.refl s
    · exact hcrossed s
    · exact Std.Refl.refl s
  · change R s (transportSend i _ s).2
    have hsend := transportSend_cases i (encodePacket o.wellFormed (plain .heartbeat)) s
    generalize transportSend i _ s = r at hsend
    cases hsend with
    | raised e _ => exact Std.Refl.refl s
    | written _ => exact Std.Refl.refl s
    | posted h => exact hpost _ s h

/-- the texts of packets on a transport of this kind -/
def textsOf (o : Options) (k : Kind) (ps : List Packet) : List JString :=
  match k with
  | .websocket => ps.map (encodePacket o.wellFormed)
  | .xhr => [encodePayload (ps.map (encodePacket o.wellFormed))]

/-- what `payload(arr)` of a transport does -/
inductive Paying (o : Options) (i : ℕ) (ps : List Packet) (s : St) : Except Thrown Unit × St → Prop where
  | raised (e : Thrown) (h : ∀ t, s.socket.transports[i]? = some t → Unready t) : Paying o i ps s (.error e, s)
  | written (h : kindAt s i = some .websocket) : Paying o i ps s (.ok (), s.push (.sent ps (textsOf o .websocket ps)))
  | posted (h : kindAt s i = some .xhr) (text : JString) (htext : textsOf o .xhr ps = [text]) :
    Paying o i ps s (.ok (), (posting i text s).push (.sent ps (textsOf o .xhr ps)))

/-- a WebSocket takes all texts or, from the first on, none -/
theorem forEach_transportPacket {i : ℕ} (h : kindAt s i = some .websocket) (ps : List Packet) :
    (∃ e, forEach ps (transportPacket o i) s = (.error e, s) ∧ ∀ t, s.socket.transports[i]? = some t → Unready t) ∨
      forEach ps (transportPacket o i) s = (.ok (), s) := by
  induction ps with
  | nil => exact .inr rfl
  | cons p ps ih =>
    unfold forEach
    have hsend := transportSend_cases i (encodePacket o.wellFormed p) s
    rcases hresult : transportSend i (encodePacket o.wellFormed p) s with ⟨r, s'⟩
    rw [hresult] at hsend
    cases hsend with
    | raised e hraised => exact .inl ⟨e, bind_of_error hresult _, hraised⟩
    | posted hxhr => cases h.symm.trans hxhr
    | written =>
      have hrest := bind_of_ok (m := transportPacket o i p) hresult fun _ => forEach ps (transportPacket o i)
      rcases ih with ⟨e, he, hraised⟩ | hok
      · exact .inl ⟨e, hrest.trans he, hraised⟩
      · exact .inr (hrest.trans hok)

theorem transportPayload_cases (i : ℕ) (ps : List Packet) (s : St) : Paying o i ps s (transportPayload o i ps s) := by
  unfold transportPayload
  rw [get_bind]
  rcases hkind : (s.socket.transports[i]?).map Transport.kind with _ | kind
  · exact .raised .typeError fun t h => by rw [h] at hkind; cases hkind
  · cases kind with
    | websocket =>
      rcases forEach_transportPacket hkind ps with ⟨e, he, hraised⟩ | hok
      · exact (congrArg _ (bind_of_error he _)).mpr (.raised e hraised)
      · exact (congrArg _ (bind_of_ok hok _)).mpr (.written hkind)
    | xhr =>
      have hsend := transportSend_cases i (encodePayload (ps.map (encodePacket o.wellFormed))) s
      rcases hresult : transportSend i (encodePayload (ps.map (encodePacket o.wellFormed))) s with ⟨r, s'⟩
      rw [hresult] at hsend
      cases hsend with
      | raised e hraised => exact (congrArg _ (bind_of_error hresult _)).mpr (.raised e hraised)
      | written h => cases hkind.symm.trans h
      | posted h => exact (congrArg _ (bind_of_ok hresult _)).mpr (.posted h _ rfl)

theorem currentTransport_null {α : Type} (h : s.socket.transport = none) (k : ℕ → M α) :
    (currentTransport >>= k) s = (.error .typeError, s) := by
  refine bind_of_error ?_ k
  unfold currentTransport
  rw [get_bind, h]
  rfl

theorem currentTransport_bind {α : Type} {i : ℕ} (h : s.socket.transport = some i) (k : ℕ → M α) :
    (currentTransport >>= k) s = k i s := by
  refine bind_of_ok ?_ k
  unfold currentTransport
  rw [get_bind, h]
  rfl

/-- a socket that uses a transport which raises an exception uses none that takes what it is sent -/
theorem not_uses {i : ℕ} (hused : s.socket.transport = some i)
    (h : ∀ t, s.socket.transports[i]? = some t → Unready t) (j : ℕ) : ¬ Uses j s := by
  rintro ⟨hj, t, ht, husable⟩
  cases hused.symm.trans hj
  exact (h t ht).not_usable husable

/-- the socket stops to buffer -/
def unbuffered (s : St) : St := { s with socket.doBuffer := false }

def emptied (s : St) : St := { s with socket.buffer := [] }

/-- what `setBuffer(false)` does -/
inductive Flushing (o : Options) (s : St) : St → Prop where
  | idle (h : s.socket.connected = true → s.socket.buffer = []) : Flushing o s (unbuffered s)
  | raised (hconnected : s.socket.connected = true) (h : ∀ i, ¬ Uses i s) : Flushing o s (unbuffered s)
  | written (hconnected : s.socket.connected = true) (hne : s.socket.buffer ≠ []) (i : ℕ) (hkind : kindAt s i = some .websocket) :
    Flushing o s (emptied ((unbuffered s).push (.sent s.socket.buffer (textsOf o .websocket s.socket.buffer))))
  | posted (hconnected : s.socket.connected = true) (hne : s.socket.buffer ≠ []) (i : ℕ) (hkind : kindAt s i = some .xhr)
      (text : JString) (htext : textsOf o .xhr s.socket.buffer = [text]) :
    Flushing o s (emptied ((posting i text (unbuffered s)).push (.sent s.socket.buffer (textsOf o .xhr s.socket.buffer))))

theorem setBuffer_cases (o : Options) (s : St) : Flushing o s (setBuffer o false s).2 := by
  unfold setBuffer
  rw [modify_bind, get_bind]
  by_cases hflush : (!false && s.socket.connected && !s.socket.buffer.isEmpty) = true
  · obtain ⟨hconnected, hne⟩ : s.socket.connected = true ∧ s.socket.buffer ≠ [] := by simpa using hflush
    rw [if_pos hflush]
    change Flushing o s ((currentTransport >>= _) (unbuffered s)).2
    cases hused : s.socket.transport with
    | none =>
      rw [currentTransport_null (s := unbuffered s) hused]
      exact .raised hconnected fun i h => by cases hused.symm.trans h.1
    | some i =>
      rw [currentTransport_bind (s := unbuffered s) hused]
      have hpay := transportPayload_cases (o := o) i s.socket.buffer (unbuffered s)
      change Flushing o s ((transportPayload o i s.socket.buffer >>= _) (unbuffered s)).2
      rcases hresult : transportPayload o i s.socket.buffer (unbuffered s) with ⟨r, s'⟩
      rw [hresult] at hpay
      cases hpay with
      | raised e h =>
        rw [bind_of_error hresult]
        exact .raised hconnected (not_uses hused h)
      | written h => rw [bind_of_ok hresult]; exact .written hconnected hne i h
      | posted h text htext => rw [bind_of_ok hresult]; exact .posted hconnected hne i h text htext
  · rw [if_neg hflush]
    refine .idle fun hconnected => ?_
    rw [hconnected] at hflush
    simpa using hflush

/-- what `Socket.packet(data)` does -/
inductive Giving (o : Options) (p : Packet) (s : St) : St → Prop where
  | buffered (h : s.socket.connected = true → s.socket.doBuffer = true) :
    Giving o p s { s.push (.given p) with socket.buffer := s.socket.buffer ++ [p] }
  | raised (hconnected : s.socket.connected = true) (hunready : ∀ t, s.socket.inUse = some t → Unready t)
      (h : ∀ i, ¬ Uses i s) : Giving o p s ((s.push (.given p)).push (.refused p s.socket.inUse))
  | written (hconnected : s.socket.connected = true) (hbuffer : s.socket.doBuffer = false) (i : ℕ)
      (hkind : kindAt s i = some .websocket) :
    Giving o p s ((s.push (.given p)).push (.sent [p] (textsOf o .websocket [p])))
  | posted (hconnected : s.socket.connected = true) (hbuffer : s.socket.doBuffer = false) (i : ℕ)
      (hkind : kindAt s i = some .xhr) (text : JString) (htext : textsOf o .xhr [p] = [text]) :
    Giving o p s ((posting i text (s.push (.given p))).push (.sent [p] (textsOf o .xhr [p])))

theorem packet_cases (o : Options) (p : Packet) (s : St) : Giving o p s (packet o p s).2 := by
  unfold packet
  rw [modify_bind, get_bind]
  let s₁ : St := s.push (.given p)
  by_cases hdirect : ((s.push (.given p)).socket.connected && !(s.push (.given p)).socket.doBuffer) = true
  · obtain ⟨hconnected, hbuffer⟩ : s.socket.connected = true ∧ s.socket.doBuffer = false := by
      simpa [St.push] using hdirect
    rw [if_pos hdirect]
    cases hused : s.socket.transport with
    | none =>
      have hnone : s.socket.inUse = none := by rw [Socket.inUse, hused]; rfl
      rw [bind_of_error (noting_of_error (currentTransport_null (s := s₁) hused _) _)]
      exact .raised hconnected (fun t h => by cases hnone.symm.trans h) fun i h => by cases hused.symm.trans h.1
    | some i =>
      have hin : s.socket.inUse = s.socket.transports[i]? := by rw [Socket.inUse, hused]; rfl
      have hsend := transportSend_cases i (encodePacket o.wellFormed p) s₁
      have hbody := currentTransport_bind (s := s₁) hused fun i => transportPacket o i p
      rcases hresult : transportSend i (encodePacket o.wellFormed p) s₁ with ⟨r, s'⟩
      rw [hresult] at hsend
      cases hsend with
      | raised e h =>
        rw [bind_of_error (noting_of_error (hbody.trans hresult) _)]
        exact .raised hconnected (fun t ht => h t (hin.symm.trans ht)) (not_uses hused h)
      | written h =>
        rw [bind_of_ok (noting_of_ok (hbody.trans hresult) _)]
        exact .written hconnected hbuffer i h
      | posted h =>
        rw [bind_of_ok (noting_of_ok (hbody.trans hresult) _)]
        exact .posted hconnected hbuffer i h _ rfl
  · rw [if_neg hdirect]
    exact .buffered fun hconnected => by simpa [St.push, hconnected] using hdirect

theorem connected_flush (s : St) : (setBuffer o false s).2.socket.connected = s.socket.connected := by
  have hflush := setBuffer_cases o s
  generalize (setBuffer o false s).2 = s' at hflush
  cases hflush <;> rfl

/-- a connect packet, where that the buffering ends is along the relation -/
theorem Follows.along_onConnect {R : St → St → Prop} [Std.Refl R] [IsTrans St R] {cb : Callback} (k : Follows o R)
    (hcb : ∀ h, Along R (cb h)) (hconnected : ∀ s, R s { s with socket.connected := true, socket.connecting := false })
    (hflush : Along R (setBuffer o false)) : Along R (onConnect o cb) := by
  refine along_get_bind fun s => ?_
  by_cases hnew : (!s.socket.connected) = true
  · rw [if_pos hnew, modify_bind]
    refine IsTrans.trans _ _ _ (hconnected s) (bind_related_ok (along_whenever (fun _ => hflush) _) fun _ s' hs' => ?_)
    refine k.maybeReconnect_connected hcb ?_ none
    unfold whenever at hs'
    split_ifs at hs'
    · have hkept := connected_flush (o := o) { s with socket.connected := true, socket.connecting := false }
      rwa [hs'] at hkept
    · cases hs'; rfl
  · rw [if_neg hnew]; exact Std.Refl.refl s

end

/-! ## What the page gives -/

section

variable {o : Options} {s : St}

theorem given_packet (o : Options) (p : Packet) (s : St) : given (packet o p s).2.log = given s.log ++ [p] := by
  have hgiven := packet_cases o p s
  generalize (packet o p s).2 = s' at hgiven
  cases hgiven <;> rfl

theorem given_namespacePacket (o : Options) (name : JString) (p : Packet) (s : St) :
    given (namespacePacket o name p s).2.log =
      given s.log ++ [{ p with endpoint := ((s.socket.find name).map SocketNamespace.endpoint).getD name }] := by
  unfold namespacePacket
  rw [get_bind]
  have hgiven := given_packet o { p with endpoint := ((s.socket.find name).map SocketNamespace.endpoint).getD name } s
  rcases hpacket : packet o { p with endpoint := ((s.socket.find name).map SocketNamespace.endpoint).getD name } s with ⟨r, s'⟩
  rw [hpacket] at hgiven
  cases r with
  | ok _ => rw [bind_of_ok hpacket]; exact hgiven
  | error e => rw [bind_of_error hpacket]; exact hgiven

theorem find_update {name : JString} {f : SocketNamespace → SocketNamespace} (hf : ∀ n, (f n).name = n.name) (s : Socket) :
    (s.update name f).find name = (s.find name).map f := by
  have hnames : (fun n : SocketNamespace => decide (n.name = name)) ∘ (fun n => if n.name = name then f n else n) =
      fun n => decide (n.name = name) := by
    funext n
    by_cases hn : n.name = name <;> simp [hn, hf]
  change (s.namespaces.map _).find? _ = (s.namespaces.find? _).map f
  rw [List.find?_map, hnames]
  cases hfound : s.namespaces.find? fun n => n.name = name with
  | none => rfl
  | some n =>
    have hname : n.name = name := by simpa using List.find?_some hfound
    exact congrArg some (if_pos hname)

/-- the packet that a call of the page on this namespace asks for; with a function, it gets the next id -/
def asked (n : SocketNamespace) : Call → Option Packet
  | .send _ data fn => some ⟨if n.json then .json (some data) else .message data,
      if fn then intToString (n.ackPackets + 1) else [], n.endpoint, if fn then .true else .none⟩
  | .jsonSend _ data fn => some ⟨.json (some data), if fn then intToString (n.ackPackets + 1) else [], n.endpoint,
      if fn then .true else .none⟩
  | .emit _ event args fn => some ⟨.event (some event) (.array args), if fn then intToString (n.ackPackets + 1) else [],
      n.endpoint, if fn then .data else .none⟩
  | .ack _ id args => some ⟨.ack (some id) (.array args), [], n.endpoint, .none⟩
  | .of _ | .disconnect _ | .connect => none

/-- the namespace that a call is made on -/
def target : Call → JString
  | .of name | .send name _ _ | .jsonSend name _ _ | .emit name _ _ _ | .ack name _ _ | .disconnect name => name
  | .connect => []

theorem identify_eq {name : JString} {n : SocketNamespace} (hn : s.socket.find name = some n) (fn : Bool) (mark : Ack)
    (c : Content) :
    ∃ s' n', identify name fn mark (plain c) s =
        (.ok ⟨c, if fn then intToString (n.ackPackets + 1) else [], [], if fn then mark else .none⟩, s') ∧
      s'.log = s.log ∧ s'.socket.find name = some n' ∧ n'.endpoint = n.endpoint := by
  unfold identify
  cases fn with
  | false => exact ⟨s, n, rfl, rfl, hn, rfl⟩
  | true =>
    let s₁ : St := { s with socket := s.socket.update name SocketNamespace.expect }
    have hfound : s₁.socket.find name = some n.expect :=
      (find_update (f := SocketNamespace.expect) (fun _ => rfl) s.socket).trans (congrArg (Option.map _) hn)
    refine ⟨s₁, n.expect, ?_, rfl, hfound, rfl⟩
    change (Except.ok _, s₁) = _
    rw [hfound]
    rfl

/-- a packet with its id goes to the namespace -/
theorem given_identified {name : JString} {n : SocketNamespace} (hn : s.socket.find name = some n) (fn : Bool) (mark : Ack)
    (c : Content) : given ((identify name fn mark (plain c) >>= fun p => namespacePacket o name p) s).2.log =
      given s.log ++
        [⟨c, if fn then intToString (n.ackPackets + 1) else [], n.endpoint, if fn then mark else .none⟩] := by
  obtain ⟨s', n', hidentified, hlog, hn', hendpoint⟩ := identify_eq hn fn mark c
  rw [bind_of_ok hidentified, given_namespacePacket, hlog, hn']
  change given s.log ++ [⟨c, _, n'.endpoint, _⟩] = _
  rw [hendpoint]

theorem given_send {name : JString} {n : SocketNamespace} (hn : s.socket.find name = some n) (data : Json) (fn : Bool) :
    given (send o name data fn s).2.log = given s.log ++ [⟨if n.json then .json (some data) else .message data,
      if fn then intToString (n.ackPackets + 1) else [], n.endpoint, if fn then .true else .none⟩] := by
  have hjson : (s.socket.find name).any SocketNamespace.json = n.json := congrArg (Option.any SocketNamespace.json) hn
  unfold send
  rw [get_bind, hjson]
  exact given_identified hn fn .true _

/-- **What the page gives**: a call on a namespace gives the packet that it asks for, whatever becomes of it. -/
theorem given_call (cb : Callback) {c : Call} {n : SocketNamespace} (hn : s.socket.find (target c) = some n) {p : Packet}
    (hp : asked n c = some p) : given (call o cb c s).2.log = given s.log ++ [p] := by
  unfold call
  rw [get_bind]
  cases c with
  | of _ | disconnect _ | connect => cases hp
  | send name data fn =>
    cases hp
    have hn : s.socket.find name = some n := hn
    simp only [hn, Option.isSome_some, if_pos]
    exact given_send hn data fn
  | jsonSend name data fn =>
    cases hp
    have hn : s.socket.find name = some n := hn
    have hflagged : (s.socket.update name fun n => { n with json := true }).find name = some { n with json := true } :=
      (find_update (f := fun n => { n with json := true }) (fun _ => rfl) s.socket).trans (congrArg (Option.map _) hn)
    simp only [hn, Option.isSome_some, if_pos]
    unfold jsonSend
    rw [modify_bind]
    exact given_send (s := { s with socket := s.socket.update name fun n => { n with json := true } }) hflagged data fn
  | emit name event args fn =>
    cases hp
    have hn : s.socket.find name = some n := hn
    simp only [hn, Option.isSome_some, if_pos]
    exact given_identified hn fn .data _
  | ack name id args =>
    cases hp
    have hn : s.socket.find name = some n := hn
    simp only [hn, Option.isSome_some, if_pos]
    unfold acknowledge
    rw [given_namespacePacket, hn]
    rfl

end

/-! ## Nothing is lost -/

section

variable {o : Options} {s s' : St} {cb : Callback}

theorem sent_push (ps : List Packet) (texts : List JString) (log : List Entry) :
    sent (.sent ps texts :: log) = sent log ++ ps := by
  simp [sent, said]

theorem sent_answered (text : JString) (log : List Entry) : sent (.answered text :: log) = sent log := by
  simp [sent, said]

theorem sent_given (p : Packet) (log : List Entry) : sent (.given p :: log) = sent log := rfl

/-- properties of the packets given, sent and buffered, whatever the state of the connection -/
structure Accounts (o : Options) (I : St → Prop) : Prop where
  congr : ∀ s s', s'.socket.buffer = s.socket.buffer → given s'.log = given s.log → said s'.log = said s.log →
    refusals s'.log = refusals s.log → I s → I s'
  packet : ∀ p, Along (Preserves I) (packet o p)
  flush : Along (Preserves I) (setBuffer o false)
  answered : ∀ s, I s → I (s.push (.answered (encodePacket o.wellFormed (plain .heartbeat))))

namespace Accounts

variable {I : St → Prop} (a : Accounts o I)
include a

theorem follows : Follows o (Preserves I) where
  same s s' hs := a.congr s s' hs.buffer hs.given hs.said hs.refusals
  packet := a.packet
  buffering s := a.congr s _ rfl rfl rfl rfl
  disconnected s := a.congr s _ rfl rfl rfl rfl
  altered _ _ s _ _ := a.congr s _ rfl rfl rfl rfl

theorem chooses : Chooses (Preserves I) := fun _ s _ => a.congr s _ rfl rfl rfl rfl

theorem openBuffer : Along (Preserves I) (openBuffer o) := along_openBuffer (fun s => a.congr s _ rfl rfl rfl rfl) a.flush

theorem along_onConnect (hcb : ∀ h, Along (Preserves I) (cb h)) : Along (Preserves I) (onConnect o cb) :=
  a.follows.along_onConnect hcb (fun s => a.congr s _ rfl rfl rfl rfl) a.flush

theorem along_perform {script : M Unit} (hscript : Along (Preserves I) script) (hcb : ∀ h, Along (Preserves I) (cb h))
    (e : Event) : Along (Preserves I) (perform o script cb e) := by
  have k := a.follows
  by_cases he : Conducts.Plain e
  · exact (k.conducts hcb).along_plain hscript he
  cases e with
  | connectTimeout next => exact (k.conducts hcb).along_connectTimeout (k.along_connectFailed hcb) fun found _ => a.chooses found
  | retry found => exact k.along_maybeReconnect hcb a.chooses found
  | handshake found => exact fun s => choose_related (k.along_connectFailed hcb) (a.congr s _ rfl rfl rfl rfl)
  | ready => exact (k.conducts hcb).along_ready a.openBuffer
  | socketOpen i => exact k.along_socketOpen a.openBuffer i
  | posted j ok => exact (k.conducts hcb).along_posted a.flush (fun _ s => a.congr s _ rfl rfl rfl rfl) j ok
  | data i text n =>
    refine along_get.bind fun s => .ite (fun _ => along_whenever fun _ => along_forEach fun p _ => ?_) fun _ => along_pure _
    refine k.along_transportOnPacket hcb i p (fun s => a.congr s _ rfl rfl rfl rfl) (a.along_onConnect hcb) fun _ => ?_
    exact along_answer (fun s => a.congr s _ rfl rfl rfl rfl) (fun _ s _ => a.congr s _ rfl rfl rfl rfl) a.answered
  | _ => exact absurd trivial he

/-- they hold in every run in which they hold at the start -/
theorem holds (hstart : I created) (is : List Input) : I (run o created is) := by
  have hstep (s : St) (i : Input) (h : I s) : I (step o s i) :=
    a.along_perform (a.follows.along_behave _) (a.follows.along_handling _) i.event _ (a.congr s _ rfl rfl rfl rfl h)
  have hrun : ∀ s, I s → I (run o s is) := by
    induction is with
    | nil => exact fun _ h => h
    | cons i is ih => exact fun s h => ih _ (hstep s i h)
  exact hrun created hstart

end Accounts

/-- what was given is what was sent, what is in the buffer, and what was refused by a transport that was not ready -/
structure Conserved (s : St) : Prop where
  account : (sent s.log ++ (refused s.log ++ s.socket.buffer)).Perm (given s.log)
  unready : ∀ r ∈ refusals s.log, ∀ t, r.2 = some t → Unready t

/-- one more packet, wherever it went -/
theorem perm_insert {α : Type} {a b c d : List α} (h : (a ++ (b ++ c)).Perm d) (x : α) :
    ((a ++ [x]) ++ (b ++ c)).Perm (d ++ [x]) ∧ (a ++ ((b ++ [x]) ++ c)).Perm (d ++ [x]) ∧
      (a ++ (b ++ (c ++ [x]))).Perm (d ++ [x]) := by
  have hlast : (a ++ (b ++ (c ++ [x]))).Perm (d ++ [x]) := by
    simpa only [List.append_assoc] using h.append_right [x]
  have hmiddle : (a ++ ((b ++ [x]) ++ c)).Perm (a ++ (b ++ (c ++ [x]))) := by
    rw [List.append_assoc]
    exact (List.perm_append_comm.append_left _).append_left _
  refine ⟨?_, hmiddle.trans hlast, hlast⟩
  have hfirst : ((a ++ [x]) ++ (b ++ c)).Perm (a ++ ((b ++ c) ++ [x])) := by
    rw [List.append_assoc]
    exact List.perm_append_comm.append_left _
  exact hfirst.trans (by rwa [List.append_assoc b c])

theorem conserved_packet (p : Packet) : Along (Preserves Conserved) (packet o p) := by
  intro s h
  have hgiven := packet_cases o p s
  generalize (packet o p s).2 = s' at hgiven
  obtain ⟨hsent, hrefused, hbuffered⟩ := perm_insert h.account p
  have hdirect (texts : List JString) :
      (sent (.sent [p] texts :: .given p :: s.log) ++ (refused s.log ++ s.socket.buffer)).Perm (given s.log ++ [p]) := by
    rw [sent_push]
    exact hsent
  cases hgiven with
  | buffered _ => exact ⟨hbuffered, h.unready⟩
  | raised _ hunready _ =>
    refine ⟨?_, List.forall_mem_append.2 ⟨h.unready, List.forall_mem_singleton.2 hunready⟩⟩
    have hnote : refused (.refused p s.socket.inUse :: .given p :: s.log) = refused s.log ++ [p] := List.map_append
    change (sent s.log ++ (refused (.refused p s.socket.inUse :: .given p :: s.log) ++ s.socket.buffer)).Perm _
    rw [hnote]
    exact hrefused
  | written _ _ => exact ⟨hdirect _, h.unready⟩
  | posted _ _ i _ text => exact ⟨hdirect _, h.unready⟩

theorem conserved_flush : Along (Preserves Conserved) (setBuffer o false) := by
  intro s h
  have hflush := setBuffer_cases o s
  generalize (setBuffer o false s).2 = s' at hflush
  have hpassed (texts : List JString) :
      (sent (.sent s.socket.buffer texts :: s.log) ++ (refused s.log ++ [])).Perm (given s.log) := by
    rw [List.append_nil, sent_push, List.append_assoc]
    exact (List.perm_append_comm.append_left _).trans h.account
  cases hflush with
  | idle _ => exact ⟨h.account, h.unready⟩
  | raised _ _ => exact ⟨h.account, h.unready⟩
  | written _ _ => exact ⟨hpassed _, h.unready⟩
  | posted _ _ i _ text => exact ⟨hpassed _, h.unready⟩

theorem conserved_accounts : Accounts o Conserved where
  congr s s' hbuffer hgiven hsaid hrefusals h := by
    refine ⟨?_, hrefusals ▸ h.unready⟩
    unfold sent refused
    rw [hbuffer, hgiven, hsaid, hrefusals]
    exact h.account
  packet := conserved_packet
  flush := conserved_flush
  answered s h := by
    refine ⟨?_, h.unready⟩
    change (sent (.answered _ :: s.log) ++ (refused s.log ++ s.socket.buffer)).Perm (given s.log)
    rw [sent_answered]
    exact h.account

theorem conserved_after (o : Options) (is : List Input) : Conserved (run o created is) :=
  conserved_accounts.holds ⟨.refl _, fun _ h => absurd h List.not_mem_nil⟩ is

/-- **What becomes of the packets that the client is given**, in any run: each was passed to a transport, is in the buffer,
or was refused, and that once. It is refused by an exception, as the socket has no transport or a WebSocket that is not yet
open. -/
theorem conserved_run (o : Options) (is : List Input) :
    let s := run o created is
    (sent s.log ++ (refused s.log ++ s.socket.buffer)).Perm (given s.log) ∧
      ∀ r ∈ refusals s.log, ∀ t, r.2 = some t → Unready t :=
  have h := conserved_after o is
  ⟨h.account, h.unready⟩

/-- what was passed to a transport: the texts of some packets, or the answer to a heartbeat -/
def Utterance (o : Options) (e : List Packet × List JString) : Prop :=
  e = ([], [encodePacket o.wellFormed (plain .heartbeat)]) ∨ e.1 ≠ [] ∧ ∃ k, e.2 = textsOf o k e.1

def Encoded (o : Options) (s : St) : Prop := ∀ e ∈ said s.log, Utterance o e

theorem utterances_concat {es : List (List Packet × List JString)} {e : List Packet × List JString}
    (h : ∀ x ∈ es, Utterance o x) (he : Utterance o e) : ∀ x ∈ es ++ [e], Utterance o x :=
  List.forall_mem_append.2 ⟨h, List.forall_mem_singleton.2 he⟩

theorem utterance_sent {ps : List Packet} (hne : ps ≠ []) (k : Kind) : Utterance o (ps, textsOf o k ps) := .inr ⟨hne, k, rfl⟩

theorem encoded_accounts : Accounts o (Encoded o) where
  congr s s' _ _ hsaid _ h := by
    unfold Encoded
    rw [hsaid]
    exact h
  packet p s h := by
    have hgiven := packet_cases o p s
    generalize (packet o p s).2 = s' at hgiven
    cases hgiven with
    | buffered _ => exact h
    | raised _ _ => exact h
    | written _ _ => exact utterances_concat h (utterance_sent (List.cons_ne_nil p []) .websocket)
    | posted _ _ i _ text => exact utterances_concat h (utterance_sent (List.cons_ne_nil p []) .xhr)
  flush s h := by
    have hflush := setBuffer_cases o s
    generalize (setBuffer o false s).2 = s' at hflush
    cases hflush with
    | idle _ => exact h
    | raised _ _ => exact h
    | written _ hne => exact utterances_concat h (utterance_sent hne .websocket)
    | posted _ hne i _ text => exact utterances_concat h (utterance_sent hne .xhr)
  answered s h := utterances_concat (e := ([], [encodePacket o.wellFormed (plain .heartbeat)])) h (.inl rfl)

theorem encoded_run (o : Options) (is : List Input) : Encoded o (run o created is) :=
  encoded_accounts.holds (fun _ h => absurd h List.not_mem_nil) is

end

/-! ## The order -/

section

variable {o : Options} {s s' : St} {cb : Callback} {i : ℕ}

/-- the packets are sent in the order in which they were given, and a connected socket uses a transport that takes them -/
structure Ordered (s : St) : Prop where
  account : sent s.log ++ s.socket.buffer = given s.log
  flushed : s.socket.connected = true → s.socket.doBuffer = false → s.socket.buffer = []
  usable : s.socket.connected = true → ∃ i, Uses i s

theorem Uses.congr (h : Uses i s) (htransport : s'.socket.transport = s.socket.transport)
    (htransports : s'.socket.transports = s.socket.transports) : Uses i s' := by
  unfold Uses
  rw [htransport, htransports]
  exact h

theorem Uses.alter (h : Uses i s) {j : ℕ} {f : Transport → Transport}
    (hf : ∀ t, s.socket.transports[j]? = some t → Usable t → Usable (f t)) :
    Uses i { s with socket := s.socket.alter j f } := by
  obtain ⟨hi, t, ht, husable⟩ := h
  refine ⟨hi, ?_⟩
  change ∃ t, (s.socket.transports.modify j f)[i]? = some t ∧ Usable t
  rw [List.getElem?_modify]
  by_cases hj : j = i
  · subst hj
    exact ⟨f t, by simp [ht], hf t ht husable⟩
  · exact ⟨t, by simp [ht, hj], husable⟩

theorem uses_follows : Follows o (Preserves (Uses i)) where
  same _ _ hs h := h.congr hs.transport hs.transports
  packet p s h := by
    have hgiven := packet_cases o p s
    generalize (packet o p s).2 = s' at hgiven
    cases hgiven <;> exact h
  buffering _ h := h
  disconnected _ h := h
  altered _ _ _ hf _ h := h.alter hf

theorem ordered_packet (p : Packet) : Along (Preserves Ordered) (packet o p) := by
  intro s h
  have hgiven := packet_cases o p s
  generalize (packet o p s).2 = s' at hgiven
  have hdirect (texts : List JString) (hconnected : s.socket.connected = true) (hbuffer : s.socket.doBuffer = false) :
      sent (.sent [p] texts :: .given p :: s.log) ++ s.socket.buffer = given s.log ++ [p] := by
    rw [sent_push, sent_given, ← h.account, h.flushed hconnected hbuffer, List.append_nil, List.append_nil]
  cases hgiven with
  | buffered hbuffered =>
    refine ⟨?_, fun hconnected hbuffer => ?_, h.usable⟩
    · change sent s.log ++ (s.socket.buffer ++ [p]) = given s.log ++ [p]
      rw [← List.append_assoc, h.account]
    · cases (hbuffered hconnected).symm.trans hbuffer
  | raised hconnected _ hnone =>
    obtain ⟨i, hi⟩ := h.usable hconnected
    exact absurd hi (hnone i)
  | written hconnected hbuffer => exact ⟨hdirect _ hconnected hbuffer, h.flushed, h.usable⟩
  | posted hconnected hbuffer i _ text => exact ⟨hdirect _ hconnected hbuffer, fun _ => nofun, h.usable⟩

/-- the end of the buffering leaves no packet in the buffer of a connected socket -/
theorem flush_ordered (haccount : sent s.log ++ s.socket.buffer = given s.log)
    (husable : s.socket.connected = true → ∃ i, Uses i s) : Ordered (setBuffer o false s).2 := by
  have hflush := setBuffer_cases o s
  generalize (setBuffer o false s).2 = s' at hflush
  have hpassed (texts : List JString) : sent (.sent s.socket.buffer texts :: s.log) ++ [] = given s.log := by
    rw [List.append_nil, sent_push, haccount]
  cases hflush with
  | idle h => exact ⟨haccount, fun hconnected _ => h hconnected, husable⟩
  | raised hconnected h =>
    obtain ⟨i, hi⟩ := husable hconnected
    exact absurd hi (h i)
  | written _ _ => exact ⟨hpassed _, fun _ _ => rfl, husable⟩
  | posted _ _ i _ text => exact ⟨hpassed _, fun _ _ => rfl, husable⟩

theorem ordered_flush : Along (Preserves Ordered) (setBuffer o false) := fun _ h => flush_ordered h.account h.usable

theorem ordered_openBuffer : Along (Preserves Ordered) (openBuffer o) :=
  along_openBuffer (fun _ h => ⟨h.account, h.flushed, h.usable⟩) ordered_flush

theorem ordered_follows : Follows o (Preserves Ordered) where
  same s s' hs h := by
    refine ⟨?_, fun hconnected hbuffer => ?_, fun hconnected => ?_⟩
    · unfold sent; rw [hs.buffer, hs.given, hs.said]; exact h.account
    · rw [hs.buffer]; exact h.flushed (hs.connected ▸ hconnected) (hs.doBuffer ▸ hbuffer)
    · exact (h.usable (hs.connected ▸ hconnected)).imp fun _ hi => hi.congr hs.transport hs.transports
  packet := ordered_packet
  buffering _ h := ⟨h.account, fun _ => nofun, h.usable⟩
  disconnected _ h := ⟨h.account, nofun, nofun⟩
  altered _ _ _ hf _ h := ⟨h.account, h.flushed, fun hconnected => (h.usable hconnected).imp fun _ hi => hi.alter hf⟩

theorem ordered_chooses : Chooses (Preserves Ordered) := fun _ _ hconnected h =>
  ⟨h.account, h.flushed, fun hc => nomatch hconnected.symm.trans hc⟩

theorem uses_flush (h : Uses i s) : Uses i (setBuffer o false s).2 := by
  have hflush := setBuffer_cases o s
  generalize (setBuffer o false s).2 = s' at hflush
  cases hflush <;> exact h

/-- the properties on which the order of packets rests while the transport `i` receives a text -/
def OrderedOn (i : ℕ) (s : St) : Prop := Ordered s ∧ Uses i s

theorem orderedOn_follows : Follows o (Preserves (OrderedOn i)) := ordered_follows.and uses_follows

theorem orderedOn_onConnect (hcb : ∀ h, Along (Preserves (OrderedOn i)) (cb h)) :
    Along (Preserves (OrderedOn i)) (onConnect o cb) := by
  refine along_get_bind fun s => ?_
  by_cases hnew : (!s.socket.connected) = true
  · rw [if_pos hnew, modify_bind]
    refine bind_related_ok (fun h => ?_) fun _ s' hs' => ?_
    · by_cases hbuffer : s.socket.doBuffer = false
      · unfold whenever
        rw [if_pos hbuffer]
        exact ⟨flush_ordered h.1.account fun _ => ⟨i, h.2⟩, uses_flush h.2⟩
      · unfold whenever
        rw [if_neg hbuffer]
        exact ⟨⟨h.1.account, fun _ hb => absurd hb hbuffer, fun _ => ⟨i, h.2⟩⟩, h.2⟩
    · refine orderedOn_follows.maybeReconnect_connected hcb ?_ none
      unfold whenever at hs'
      split_ifs at hs'
      · have hconnected := connected_flush (o := o) { s with socket.connected := true, socket.connecting := false }
        rwa [hs'] at hconnected
      · cases hs'; rfl
  · rw [if_neg hnew]; exact fun h => h

theorem orderedOn_onData (text : JString) (n m : ℕ) :
    Along (Preserves (OrderedOn i)) (onData o (handling (behave o m)) i text n) := by
  have k := orderedOn_follows (o := o) (i := i)
  have hcb := k.along_handling m
  refine along_whenever fun _ => along_forEach fun p _ => ?_
  have hreceived (s : St) (h : OrderedOn i s) : OrderedOn i (s.push (.received p)) :=
    ⟨⟨h.1.account, h.1.flushed, h.1.usable⟩, h.2⟩
  refine k.along_transportOnPacket hcb i p hreceived (orderedOn_onConnect hcb) fun _ => along_answer (fun s h => ?_) (fun text s _ h => ?_) ?_
  · exact ⟨⟨h.1.account, h.1.flushed, h.1.usable⟩, h.2⟩
  · exact ⟨⟨h.1.account, fun _ => nofun, h.1.usable⟩, h.2⟩
  · refine fun s h => ⟨⟨?_, h.1.flushed, h.1.usable⟩, h.2⟩
    change sent (.answered _ :: s.log) ++ s.socket.buffer = given s.log
    rw [sent_answered]
    exact h.1.account

/-- the client uses one transport at a time: a handshake ends before the socket is connected, and texts come on the
transport that it uses -/
def Steady (s : St) : Event → Prop
  | .handshake _ => s.socket.connected = false
  | .data i _ _ => s.socket.transport = some i
  | _ => True

theorem steady_of_local {e : ClientSocket.Event} (he : Conducts.Local e) (s : ClientSocket.St) : Steady s e := by
  cases e <;> trivial

theorem ordered_perform (n : ℕ) {e : Event} (he : Steady s e) (h : Ordered s) :
    Ordered (perform o (behave o n) (handling (behave o n)) e s).2 := by
  have k := ordered_follows (o := o)
  have hcb := k.along_handling n
  by_cases hplain : Conducts.Plain e
  · exact (k.conducts hcb).along_plain (k.along_behave n) hplain s h
  cases e with
  | connectTimeout next =>
    exact (k.conducts hcb).along_connectTimeout (k.along_connectFailed hcb) (fun found _ => ordered_chooses found) s h
  | retry found => exact k.along_maybeReconnect hcb ordered_chooses found s h
  | handshake found => exact choose_related (k.along_connectFailed hcb) (ordered_chooses found s he) h
  | ready => exact (k.conducts hcb).along_ready ordered_openBuffer s h
  | socketOpen i => exact k.along_socketOpen ordered_openBuffer i s h
  | posted j ok =>
    exact (k.conducts hcb).along_posted ordered_flush (fun _ _ h => ⟨h.account, h.flushed, h.usable⟩) j ok s h
  | data i text m =>
    change Ordered ((Program.get >>= _) s).2
    rw [get_bind]
    split_ifs with hopen
    · obtain ⟨t, ht, hready⟩ := (Option.any_eq_true _ _).1 hopen
      have huses : Uses i s := ⟨he, t, ht, .inr (of_decide_eq_true hready)⟩
      exact (orderedOn_onData text m n s ⟨h, huses⟩).1
    · exact h
  | _ => exact absurd trivial hplain

theorem ordered_after {is : List Input} (h : Runs.Each (step o) (fun s i => Steady s i.event) created is) :
    Ordered (run o created is) := by
  have hstart : Ordered created := ⟨rfl, fun _ _ => rfl, nofun⟩
  refine Runs.Each.inv (fun s i hs hi => ?_) hstart h
  have hacts : Ordered { s with acts := i.acts } := ⟨hs.account, hs.flushed, hs.usable⟩
  refine ordered_perform (s := { s with acts := i.acts }) _ ?_ hacts
  cases hevent : i.event <;> rw [hevent] at hi <;> exact hi

/-- **The packets are sent in the order in which they were given**, in any run in which the client uses one transport at a
time: what was sent and what waits in the buffer is what was given, and no packet is refused. -/
theorem ordered_run (o : Options) (is : List Input) (h : Runs.Each (step o) (fun s i => Steady s i.event) created is) :
    sent (run o created is).log ++ (run o created is).socket.buffer = given (run o created is).log ∧
      refused (run o created is).log = [] := by
  have haccount := (ordered_after h).account
  refine ⟨haccount, List.eq_nil_of_length_eq_zero ?_⟩
  have hall := (conserved_after o is).account.length_eq
  rw [← haccount] at hall
  simp only [List.length_append] at hall
  omega

def tenAttempts : Options := ⟨numbersOnly, true, true, 10, id⟩

/-- a page sends two messages before its socket is connected; the third has to wait until their POST is answered -/
def threeMessages : List Input :=
  [⟨.handshake (some .xhr), []⟩, ⟨.ready, []⟩,
    ⟨.script, [.call (.of []), .call (.send [] (.string (str "a")) false), .call (.send [] (.string (str "b")) false)]⟩,
    ⟨.data 0 (str "1::") 10, []⟩, ⟨.script, [.call (.send [] (.string (str "c")) false)]⟩, ⟨.posted 0 true, []⟩]

theorem ordered_run_threeMessages :
    let s := run tenAttempts created threeMessages
    (given s.log).map (fun p => encodePacket true p) = [str "3:::a", str "3:::b", str "3:::c"] ∧
      sent s.log ++ s.socket.buffer = given s.log ∧ refused s.log = [] :=
  ⟨by decide +kernel, ordered_run tenAttempts threeMessages
    ⟨rfl, trivial, trivial, by unfold Steady; decide +kernel, trivial, trivial, trivial⟩⟩

end

/-! ## One POST at a time -/

section

variable {o : Options} {s s' : St} {cb : Callback} {i : ℕ}

/-- at most one POST waits for its response, and while one does the socket buffers -/
structure AtMostOne (s : St) : Prop where
  single : s.socket.posts.length ≤ 1
  waits : s.socket.posts ≠ [] → s.socket.doBuffer = true

/-- a POST that is made while none waits -/
theorem atMostOne_posting (hposts : s.socket.posts = []) (i : ℕ) (text : JString) : AtMostOne (posting i text s) := by
  refine ⟨?_, fun _ => rfl⟩
  change (s.socket.posts ++ [(⟨i, text⟩ : Post)]).length ≤ 1
  rw [hposts]
  exact le_rfl

theorem AtMostOne.idle (h : AtMostOne s) (hbuffer : s.socket.doBuffer = false) : s.socket.posts = [] := by
  by_contra hne
  cases hbuffer.symm.trans (h.waits hne)

/-- as long as no transport is opened and no heartbeat answered by a POST while one waits -/
def OneByOne (s : St) : Prop := crossings s.log = 0 → AtMostOne s

/-- a step that marks nothing -/
theorem oneByOne_of (hcount : crossings s'.log = crossings s.log) (h : AtMostOne s → AtMostOne s') :
    Preserves OneByOne s s' := fun hs hnone => h (hs (hcount.symm.trans hnone))

theorem oneByOne_crossed (s : St) : Preserves OneByOne s (s.push .crossed) := fun _ hnone =>
  absurd ((List.countP_cons_of_pos rfl).symm.trans hnone) (Nat.succ_ne_zero _)

theorem oneByOne_packet (p : Packet) : Along (Preserves OneByOne) (packet o p) := by
  intro s
  have hgiven := packet_cases o p s
  generalize (packet o p s).2 = s' at hgiven
  cases hgiven with
  | buffered _ => exact oneByOne_of rfl fun h => ⟨h.single, h.waits⟩
  | raised _ _ _ => exact oneByOne_of rfl fun h => ⟨h.single, h.waits⟩
  | written _ _ => exact oneByOne_of rfl fun h => ⟨h.single, h.waits⟩
  | posted _ hbuffer i _ text =>
    refine oneByOne_of rfl fun h => ?_
    have hpost := atMostOne_posting (s := s.push (.given p)) (h.idle hbuffer) i text
    exact ⟨hpost.single, hpost.waits⟩

theorem crossings_flush (s : St) : crossings (setBuffer o false s).2.log = crossings s.log := by
  have hflush := setBuffer_cases o s
  generalize (setBuffer o false s).2 = s' at hflush
  cases hflush <;> rfl

/-- the buffering ends while no POST waits -/
theorem flush_atMostOne (hposts : s.socket.posts = []) : AtMostOne (setBuffer o false s).2 := by
  have hflush := setBuffer_cases o s
  generalize (setBuffer o false s).2 = s' at hflush
  have hidle : AtMostOne (unbuffered s) := by
    refine ⟨?_, fun hne => absurd hposts hne⟩
    change s.socket.posts.length ≤ 1
    rw [hposts]
    exact Nat.zero_le 1
  cases hflush with
  | idle _ => exact hidle
  | raised _ _ => exact hidle
  | written _ _ => exact ⟨hidle.single, hidle.waits⟩
  | posted _ _ i _ text =>
    have hpost := atMostOne_posting (s := unbuffered s) hposts i text
    exact ⟨hpost.single, hpost.waits⟩

theorem flush_oneByOne (hposts : crossings s.log = 0 → s.socket.posts = []) : OneByOne (setBuffer o false s).2 :=
  fun hnone => flush_atMostOne (hposts ((crossings_flush s).symm.trans hnone))

/-- either no POST waits, or there is a mark -/
theorem crossing_cases (s : St) :
    s.socket.posts = [] ∧ crossing s = s ∨ crossings (crossing s).log ≠ 0 ∧ crossing s = s.push .crossed := by
  by_cases hposts : s.socket.posts.isEmpty = true
  · exact .inl ⟨List.isEmpty_iff.1 hposts, if_pos hposts⟩
  · have hmark : crossing s = s.push .crossed := if_neg hposts
    refine .inr ⟨?_, hmark⟩
    rw [hmark]
    exact (List.countP_cons_of_pos rfl).trans_ne (Nat.succ_ne_zero _)

theorem idle_of_crossing (s : St) : crossings (crossing s).log = 0 → (crossing s).socket.posts = [] := by
  intro hnone
  rcases crossing_cases s with ⟨hposts, hsame⟩ | ⟨hmark, -⟩
  · rw [hsame]
    exact hposts
  · exact absurd hnone hmark

/-- a transport that opens ends the buffering, with a mark if a POST waits -/
theorem oneByOne_openBuffer : Along (Preserves OneByOne) (openBuffer o) := fun s _ => flush_oneByOne (idle_of_crossing s)

theorem oneByOne_follows : Follows o (Preserves OneByOne) where
  same _ _ hs := oneByOne_of hs.crossings fun h =>
    ⟨hs.posts ▸ h.single, fun hne => hs.doBuffer.trans (h.waits (hs.posts ▸ hne))⟩
  packet := oneByOne_packet
  buffering _ := oneByOne_of rfl fun h => ⟨h.single, fun _ => rfl⟩
  disconnected _ := oneByOne_of rfl fun h => ⟨h.single, h.waits⟩
  altered _ _ _ _ _ := oneByOne_of rfl fun h => ⟨h.single, h.waits⟩

theorem oneByOne_chooses : Chooses (Preserves OneByOne) := fun _ _ _ => oneByOne_of rfl fun h => ⟨h.single, h.waits⟩

theorem oneByOne_onConnect (hcb : ∀ h, Along (Preserves OneByOne) (cb h)) : Along (Preserves OneByOne) (onConnect o cb) := by
  refine along_get_bind fun s => ?_
  by_cases hnew : (!s.socket.connected) = true
  · rw [if_pos hnew, modify_bind]
    refine bind_related (fun h => ?_) fun _ => oneByOne_follows.along_maybeReconnect hcb oneByOne_chooses none
    by_cases hbuffer : s.socket.doBuffer = false
    · unfold whenever
      rw [if_pos hbuffer]
      exact flush_oneByOne (s := { s with socket.connected := true, socket.connecting := false }) fun hnone =>
        (h hnone).idle hbuffer
    · unfold whenever
      rw [if_neg hbuffer]
      exact fun hnone => ⟨(h hnone).single, (h hnone).waits⟩
  · rw [if_neg hnew]; exact fun h => h

/-- the answer to a heartbeat, with a mark if it is a POST and another one waits -/
theorem oneByOne_onHeartbeat (i : ℕ) : Along (Preserves OneByOne) (onHeartbeat o i) := by
  intro s h
  unfold onHeartbeat
  rw [modify_bind]
  let s₁ : St := if s.socket.transports[i]?.any (·.kind = .xhr) then crossing s else s
  have hmarked : OneByOne s₁ ∧ (kindAt s₁ i = some .xhr → crossings s₁.log = 0 → s₁.socket.posts = []) := by
    by_cases hxhr : (s.socket.transports[i]?.any (·.kind = .xhr)) = true
    · have hs₁ : s₁ = crossing s := if_pos hxhr
      rw [hs₁]
      exact ⟨crossing_related oneByOne_crossed s h, fun _ => idle_of_crossing s⟩
    · have hs₁ : s₁ = s := if_neg hxhr
      rw [hs₁]
      refine ⟨h, fun hkind => absurd ?_ hxhr⟩
      obtain ⟨t, ht, hk⟩ := Option.map_eq_some_iff.1 hkind
      rw [ht]
      exact decide_eq_true hk
  have hsend := transportSend_cases i (encodePacket o.wellFormed (plain .heartbeat)) s₁
  have hsent : OneByOne (transportSend i (encodePacket o.wellFormed (plain .heartbeat)) s₁).2 := by
    generalize transportSend i _ s₁ = r at hsend
    cases hsend with
    | raised e _ => exact hmarked.1
    | written _ => exact hmarked.1
    | posted hkind => exact fun hnone => atMostOne_posting (hmarked.2 hkind hnone) i _
  have hrest : Along (Preserves OneByOne)
      (modify (·.push (.answered (encodePacket o.wellFormed (plain .heartbeat)))) : M Unit) :=
    along_modify fun s => oneByOne_of rfl fun h => ⟨h.single, h.waits⟩
  exact bind_related (fun _ => hsent) (fun _ => hrest) hmarked.1

theorem oneByOne_posted (hcb : ∀ h, Along (Preserves OneByOne) (cb h)) (j : ℕ) (ok : Bool) :
    Along (Preserves OneByOne) (posted o cb j ok) := by
  refine along_get_bind fun s => ?_
  cases hpost : s.socket.posts[j]? with
  | none => exact fun h => h
  | some post =>
    intro h
    -- the only POST is the one whose response came
    have hlast : crossings s.log = 0 → s.socket.posts.eraseIdx j = [] := by
      intro hnone
      obtain ⟨hj, -⟩ := List.getElem?_eq_some_iff.1 hpost
      rw [← List.length_eq_zero_iff, List.length_eraseIdx_of_lt hj]
      have := (h hnone).single
      omega
    have hidle : OneByOne { s with socket.posts := s.socket.posts.eraseIdx j } := by
      refine fun hnone => ⟨?_, fun hne => absurd (hlast hnone) hne⟩
      change (s.socket.posts.eraseIdx j).length ≤ 1
      rw [hlast hnone]
      exact Nat.zero_le 1
    cases ok with
    | true => exact flush_oneByOne (s := { s with socket.posts := s.socket.posts.eraseIdx j }) hlast
    | false => exact (oneByOne_follows.conducts hcb).along_transportOnClose post.transport _ hidle

theorem oneByOne_perform (n : ℕ) (e : Event) :
    Along (Preserves OneByOne) (perform o (behave o n) (handling (behave o n)) e) := by
  have k := oneByOne_follows (o := o)
  have hcb := k.along_handling n
  by_cases hplain : Conducts.Plain e
  · exact (k.conducts hcb).along_plain (k.along_behave n) hplain
  cases e with
  | connectTimeout next =>
    exact (k.conducts hcb).along_connectTimeout (k.along_connectFailed hcb) fun found _ => oneByOne_chooses found
  | retry found => exact k.along_maybeReconnect hcb oneByOne_chooses found
  | handshake found =>
    exact fun s => choose_related (k.along_connectFailed hcb) (oneByOne_of rfl fun h => ⟨h.single, h.waits⟩)
  | ready => exact (k.conducts hcb).along_ready oneByOne_openBuffer
  | socketOpen i => exact k.along_socketOpen oneByOne_openBuffer i
  | posted j ok => exact oneByOne_posted hcb j ok
  | data i text m =>
    refine along_get.bind fun s => .ite (fun _ => along_whenever fun _ => along_forEach fun p _ => ?_) fun _ => along_pure _
    refine k.along_transportOnPacket hcb i p (fun s => oneByOne_of rfl fun h => ⟨h.single, h.waits⟩) (oneByOne_onConnect hcb) ?_
    exact fun _ => oneByOne_onHeartbeat i
  | _ => exact absurd trivial hplain

/-- **A client that posts has one POST in flight at most**, and meanwhile its socket buffers, in any run in which no
transport is opened and no heartbeat is answered by a POST while one is. -/
theorem one_post_run (o : Options) (is : List Input) (h : crossings (run o created is).log = 0) :
    (run o created is).socket.posts.length ≤ 1 ∧
      ((run o created is).socket.posts ≠ [] → (run o created is).socket.doBuffer = true) := by
  have hstep : ∀ s i, OneByOne s → OneByOne (step o s i) := fun s i hs =>
    oneByOne_perform _ i.event { s with acts := i.acts } fun hnone => ⟨(hs hnone).single, (hs hnone).waits⟩
  have hstart : OneByOne created := fun _ => ⟨Nat.zero_le 1, fun hne => absurd rfl hne⟩
  have hrun : OneByOne (run o created is) := List.foldlRecOn is (step o) hstart fun s hs i _ => hstep s i hs
  exact ⟨(hrun h).single, (hrun h).waits⟩

theorem one_post_run_threeMessages :
    (run tenAttempts created (threeMessages.take 5)).socket.posts.length ≤ 1 ∧
      ((run tenAttempts created (threeMessages.take 5)).socket.posts ≠ [] →
        (run tenAttempts created (threeMessages.take 5)).socket.doBuffer = true) :=
  one_post_run tenAttempts (threeMessages.take 5) (by decide +kernel)

end

end SocketIOJava.ClientDelivery
