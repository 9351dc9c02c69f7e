/-
What the client makes of the server's frames, and the server of the client's packets.

- `decodePacket_encode_iff`: the client finds the type, the endpoint and the data of a frame in its text, whatever the data
  are, exactly when it is a heartbeat or its endpoint is free of colons.
- `upstream_run`: in every run of the client in which it uses one transport at a time (`Steady`), and for packets that the
  server reads correctly (`Legible`), what the server reads from the texts is what was given to the client, in order, up to
  the packets that still wait in the buffer.
-/
import SocketIOJava.Namespace
import SocketIOJava.PollingPayload
import SocketIOJava.ClientDelivery

namespace SocketIOJava.ClientFrames

open Program SocketIOJava.Text SocketIOJava.Frame SocketIOJava.FrameCursor SocketIOJava.ClientParser

/-! ## One frame at the client -/

/-- the type of the packet for a frame -/
def packetType : FrameType → Option PacketType
  | .unknown => none
  | .close => some .disconnect
  | .connect => some .connect
  | .heartbeat => some .heartbeat
  | .message => some .message
  | .jsonMessage => some .json
  | .event => some .event
  | .ack => some .ack
  | .error => some .error
  | .noop => some .noop

/-- the packet that a frame stands for -/
def packetOf (js : Js) (type : FrameType) (endpoint data : JString) : Packet :=
  ⟨content js (packetType type) data, [], FrameCodec.sentEndpoint type endpoint, .none⟩

theorem typeText (t : FrameType) :
    lookup packets (toHexString t.value) = packetType t ∧ toHexString t.value ≠ [] ∧ SEPERATOR_CHAR ∉ toHexString t.value := by
  cases t <;> decide

theorem encode_joined (t : FrameType) (endpoint data : JString) :
    encode t endpoint data = joined (toHexString t.value) [] false (FrameCodec.sentEndpoint t endpoint) (some data) := by
  have hif : (if t.value ≠ 2 then endpoint else []) = FrameCodec.sentEndpoint t endpoint := by
    cases t <;> rfl
  unfold encode
  rw [hif]
  simp [joined]

theorem decodePacket_encode (js : Js) (t : FrameType) {endpoint : JString} (data : JString)
    (h : t = .heartbeat ∨ SEPERATOR_CHAR ∉ endpoint) :
    decodePacket js (encode t endpoint data) = packetOf js t endpoint data := by
  obtain ⟨hlookup, hne, hfree⟩ := typeText t
  have hendpoint : SEPERATOR_CHAR ∉ FrameCodec.sentEndpoint t endpoint := by
    unfold FrameCodec.sentEndpoint
    split_ifs with ht
    · exact List.not_mem_nil
    · exact h.resolve_left ht
  rw [encode_joined, decodePacket_joined js ⟨hne, hfree, fun _ h => absurd h List.not_mem_nil, hendpoint⟩, hlookup]
  rfl

/-- **The client understands a frame's text** exactly when the endpoint that it contains is free of colons. -/
theorem decodePacket_encode_iff (js : Js) (t : FrameType) (endpoint data : JString) :
    decodePacket js (encode t endpoint data) = packetOf js t endpoint data ↔ t = .heartbeat ∨ SEPERATOR_CHAR ∉ endpoint := by
  refine ⟨fun h => ?_, decodePacket_encode js t data⟩
  obtain ⟨-, hne, hfree⟩ := typeText t
  by_contra hcon
  obtain ⟨ht, hcolon⟩ := not_or.1 hcon
  obtain ⟨a, b, hsplit, ha⟩ := List.eq_append_cons_of_mem (not_not.1 hcolon)
  have hsent : FrameCodec.sentEndpoint t endpoint = endpoint := if_neg ht
  -- the expression ends the endpoint at its first colon
  have htext : encode t endpoint data = joined (toHexString t.value) [] false a (some (b ++ SEPERATOR_CHAR :: data)) := by
    rw [encode_joined, hsent, hsplit]
    simp [joined]
  rw [htext, decodePacket_joined js ⟨hne, hfree, fun _ h => absurd h List.not_mem_nil, ha⟩] at h
  have hendpoint : a = endpoint := (congrArg Packet.endpoint h).trans hsent
  have hlength := congrArg List.length (hendpoint.trans hsplit)
  simp only [List.length_append, List.length_cons] at hlength
  omega

/-- an encoded frame does not begin like a batch -/
theorem encode_head (t : FrameType) (endpoint data : JString) :
    encode t endpoint data ≠ [] ∧ (encode t endpoint data).head? ≠ some MESSAGE_SEPARATOR := by
  obtain ⟨c, cs, htext, hc⟩ : ∃ c cs, encode t endpoint data = c :: cs ∧ c ≠ MESSAGE_SEPARATOR := by
    cases t <;> exact ⟨_, _, rfl, by decide⟩
  rw [htext]
  exact ⟨List.cons_ne_nil c cs, fun h => hc (Option.some.inj h)⟩

/-! ## The client's packets at the server -/

/-- the type of the frame for a packet -/
def frameType : PacketType → FrameType
  | .disconnect => .close
  | .connect => .connect
  | .heartbeat => .heartbeat
  | .message => .message
  | .json => .jsonMessage
  | .event => .event
  | .ack => .ack
  | .error => .error
  | .noop => .noop

/-- the packets that the server reads as one frame, in a text of their own: with at most nine digits of an id, without a
function that waits for the data of an acknowledgement, and to an endpoint that is not of one char -/
structure Audible (p : Packet) : Prop where
  type : p.content.type.isSome = true
  not_beat : p.content.type ≠ some .heartbeat
  id_digits : FrameCodec.Digits p.id
  id_length : p.id.length ≤ 9
  endpoint_free : FrameCodec.NoSeparators p.endpoint
  endpoint_length : p.endpoint.length ≠ 1
  mark : p.ack = .data → p.id = []

/-- the packets that the server reads correctly, also in a batch -/
structure Legible (wellFormed : Bool) (p : Packet) : Prop extends Audible p where
  data : (dataField wellFormed p.content).isSome = true

/-- the frame of a packet -/
structure Delivered (wellFormed : Bool) (p : Packet) (f : SocketIOFrame) : Prop where
  type : some f.frameType = p.content.type.map frameType
  endpoint : f.endpoint = p.endpoint
  data : some f.data = dataField wellFormed p.content

variable {wellFormed : Bool}

/-- a type's place among the types is the number of its frame -/
theorem frameType_number (t : PacketType) :
    ∃ d : Fin 9, FrameType.fromInt d = frameType t ∧ typeField (some t) = [UInt16.ofNat (0x30 + d)] := by
  cases t with
  | disconnect => exact ⟨0, rfl, by decide⟩
  | connect => exact ⟨1, rfl, by decide⟩
  | heartbeat => exact ⟨2, rfl, by decide⟩
  | message => exact ⟨3, rfl, by decide⟩
  | json => exact ⟨4, rfl, by decide⟩
  | event => exact ⟨5, rfl, by decide⟩
  | ack => exact ⟨6, rfl, by decide⟩
  | error => exact ⟨7, rfl, by decide⟩
  | noop => exact ⟨8, rfl, by decide⟩

/-- the packet in the terms of the client's format -/
theorem Audible.packet (wellFormed : Bool) {p : Packet} (h : Audible p) :
    ∃ c : FrameCodec.ClientPacket, (c.ack = true → c.id = []) ∧ c.endpoint = p.endpoint ∧
      c.data = dataField wellFormed p.content ∧
      c.text = encodePacket wellFormed p ∧ p.content.type.map frameType = some (FrameType.fromInt c.type) := by
  obtain ⟨t, ht⟩ := Option.isSome_iff_exists.1 h.type
  obtain ⟨n, hn, hfield⟩ := frameType_number t
  refine ⟨⟨n, p.id, decide (p.ack = .data), p.endpoint, dataField wellFormed p.content, h.id_digits, h.id_length,
    h.endpoint_free⟩,
    fun hack => h.mark (of_decide_eq_true hack), rfl, rfl, ?_, ?_⟩
  · rw [encodePacket_joined, ht, hfield]
    cases dataField wellFormed p.content with
    | none => simp [FrameCodec.ClientPacket.text, FrameCodec.ClientPacket.typeChar, FrameCodec.ClientPacket.idField, joined, PLUS]
    | some d =>
      simp [FrameCodec.ClientPacket.text, FrameCodec.ClientPacket.typeChar, FrameCodec.ClientPacket.idField, joined, PLUS]
  · rw [ht]
    exact congrArg some hn.symm

theorem Legible.packet {p : Packet} (h : Legible wellFormed p) :
    ∃ c : FrameCodec.ClientPacket, c.Plain ∧ c.text = encodePacket wellFormed p ∧
      ∀ f, c.Decoded f → Delivered wellFormed p f := by
  obtain ⟨c, hmark, hendpoint, hdata, htext, htype⟩ := h.toAudible.packet wellFormed
  obtain ⟨d, hd⟩ := Option.isSome_iff_exists.1 h.data
  have hsome : c.data = some d := hdata.trans hd
  refine ⟨c, ⟨by rw [hsome]; rfl, by rw [hendpoint]; exact h.endpoint_length, hmark⟩, htext, fun f hf => ⟨?_, ?_, ?_⟩⟩
  · rw [hf.type, htype]
  · rw [hf.endpoint, hendpoint]
  · rw [hf.data, hd, hsome]
    rfl

theorem legible_packets {ps : List Packet} (h : ∀ p ∈ ps, Legible wellFormed p) :
    ∃ fs, List.Forall₂ FrameCodec.Reads (ps.map (encodePacket wellFormed)) fs ∧ List.Forall₂ (Delivered wellFormed) ps fs := by
  induction ps with
  | nil => exact ⟨[], .nil, .nil⟩
  | cons p ps ih =>
    obtain ⟨hp, hps⟩ := List.forall_mem_cons.1 h
    obtain ⟨c, hplain, htext, hdelivered⟩ := hp.packet
    obtain ⟨f, hread, hdecoded⟩ := FrameCodec.reads_plain hplain
    obtain ⟨fs, hreads, hall⟩ := ih hps
    rw [htext] at hread
    exact ⟨f :: fs, .cons hread hreads, .cons (hdelivered f hdecoded) hall⟩

/-- a packet alone is read as its frame -/
theorem parse_single {p : Packet} (h : Legible wellFormed p) :
    ∃ f, parse (encodePacket wellFormed p) = some (.ok [f]) ∧ Delivered wellFormed p f := by
  obtain ⟨c, hplain, htext, hdelivered⟩ := h.packet
  obtain ⟨f, hread, hdecoded⟩ := FrameCodec.reads_plain hplain
  refine ⟨f, ?_, hdelivered f hdecoded⟩
  rw [← htext]
  exact FrameCodec.parse_text (.cons hread .nil)

/-- a packet without data, alone in its text: no colon ends its endpoint, so there is none, and the data is the whole text -/
theorem parse_bare {c : FrameCodec.ClientPacket} (hdata : c.data = none) (hid : c.ack = true → c.id = []) :
    ∃ f, parse c.text = some (.ok [f]) ∧ f.frameType = FrameType.fromInt c.type ∧ f.endpoint = [] ∧ f.data = c.text := by
  have htext : c.text = [c.typeChar, SEPERATOR_CHAR] ++ c.idField ++ SEPERATOR_CHAR :: c.endpoint := by
    simp [FrameCodec.ClientPacket.text, hdata]
  have hidEnd : idEnd c.text 0 = 2 + c.idField.length := indexOf_eq _ c.endpoint htext rfl (FrameCodec.idField_free c)
  have hend : endpointEnd c.text 0 = -1 := by
    have hdrop : c.text.drop (2 + (c.idField.length : ℤ) + 1).toNat = c.endpoint := by
      rw [show (2 + (c.idField.length : ℤ) + 1).toNat = ([c.typeChar, SEPERATOR_CHAR] ++ c.idField ++ [SEPERATOR_CHAR]).length by
        simp only [List.length_append, List.length_cons, List.length_nil]; omega]
      rw [htext, show [c.typeChar, SEPERATOR_CHAR] ++ c.idField ++ SEPERATOR_CHAR :: c.endpoint =
        [c.typeChar, SEPERATOR_CHAR] ++ c.idField ++ [SEPERATOR_CHAR] ++ c.endpoint by simp]
      exact List.drop_left
    unfold endpointEnd Text.indexOf
    rw [hidEnd, hdrop, Namespace.findIdx?_none (FrameCodec.endpoint_colon_free c)]
  have hstart : dataStart c.text 0 = 0 := by rw [dataStart, hend]; rfl
  have hread : IdReadable c.text 0 := by
    unfold IdReadable
    rw [hidEnd]
    rcases (FrameCodec.idField_readable_iff c).2 hid with hle | ⟨k, hk⟩
    · left; omega
    · cases hfield : c.idField with
      | nil => left; simp
      | cons y ys =>
        rw [hfield] at hk htext
        refine .inr ⟨ys, k, ?_, hk⟩
        refine substring_eq [c.typeChar, SEPERATOR_CHAR, y] (SEPERATOR_CHAR :: c.endpoint) (by simp [htext]) rfl ?_
        simp only [List.length_cons]
        push_cast
        omega
  have htype : TypeDigit c.text 0 c.type :=
    ⟨c.typeChar, charAt_eq [] (c.text.drop 1) (by simp [htext]) rfl, FrameCodec.typeChar_digit c⟩
  have hbounds : Bounds c.text 0 0 c.text.length := by simpa using FrameCodec.text_bounds c
  have hturn : parseTurn c.text 0 = .ok (some (frameAt c.text 0 c.type c.text.length, (c.text.length : ℤ))) :=
    parseTurn_frame_iff.2 ⟨0, c.type, hbounds, htype, Nat.le_of_lt_succ c.type.isLt, hread, ⟨by rw [hstart]; omega, le_rfl⟩, rfl⟩
  refine ⟨frameAt c.text 0 c.type c.text.length, parse_eq_of_parseLoop (n := 2) ?_, rfl, ?_, ?_⟩
  · rw [parseLoop_turn hturn, List.nil_append]
    simp only [parseLoop, gt_iff_lt, lt_self_iff_false, if_false]
  · change endpointText c.text 0 = []
    unfold endpointText
    rw [hidEnd, hend, if_neg (by omega)]
  · change (c.text.drop (dataStart c.text 0).toNat).take (c.text.length - dataStart c.text 0).toNat = c.text
    rw [hstart]
    simp

/-- what the server makes of a packet that has a text of its own: where there is no data, the frame's data is the text -/
structure Understood (wellFormed : Bool) (p : Packet) (f : SocketIOFrame) : Prop where
  type : some f.frameType = p.content.type.map frameType
  fields : f.endpoint = p.endpoint ∧ some f.data = dataField wellFormed p.content ∨
    dataField wellFormed p.content = none ∧ f.endpoint = [] ∧ f.data = encodePacket wellFormed p

/-- **A packet alone is read as one frame**, whether it has data or not. -/
theorem Audible.parse (wellFormed : Bool) {p : Packet} (h : Audible p) :
    ∃ f, Frame.parse (encodePacket wellFormed p) = some (.ok [f]) ∧ Understood wellFormed p f := by
  obtain ⟨c, hmark, hendpoint, hdata, htext, htype⟩ := h.packet wellFormed
  cases hfield : dataField wellFormed p.content with
  | none =>
    obtain ⟨f, hparse, hf, hno, hall⟩ := parse_bare (hdata.trans hfield) hmark
    rw [htext] at hparse hall
    exact ⟨f, hparse, by rw [hf, htype], .inr ⟨hfield, hno, hall⟩⟩
  | some d =>
    have hlegible : Legible wellFormed p := ⟨h, by rw [hfield]; rfl⟩
    obtain ⟨f, hparse, hdelivered⟩ := parse_single hlegible
    exact ⟨f, hparse, hdelivered.type, .inl ⟨hdelivered.endpoint, hdelivered.data⟩⟩

theorem Understood.not_heartbeat {p : Packet} {f : SocketIOFrame} (h : Understood wellFormed p f) (hp : Audible p) :
    f.frameType ≠ .heartbeat := by
  intro hf
  obtain ⟨t, ht⟩ := Option.isSome_iff_exists.1 hp.type
  have htype := h.type
  rw [hf, ht] at htype
  have hbeat : t = .heartbeat := by
    cases t <;> first | rfl | cases htype
  exact hp.not_beat (by rw [ht, hbeat])

/-- the server reads a text as these frames -/
def ReadAs (text : JString) (frames : List SocketIOFrame) : Prop := parse text = some (.ok frames)

/-- the frames that the server reads in a text -/
def framesOf (text : JString) : List SocketIOFrame :=
  match parse text with
  | some (.ok frames) => frames
  | _ => []

theorem ReadAs.framesOf_eq {text : JString} {frames : List SocketIOFrame} (h : ReadAs text frames) : framesOf text = frames := by
  unfold framesOf
  rw [h]

open ClientSocket ClientDelivery

variable {o : Options}

/-- the texts of some packets are read as their frames, on either kind of transport -/
theorem readAs_texts (k : Kind) {ps : List Packet} (hne : ps ≠ []) (h : ∀ p ∈ ps, Legible o.wellFormed p)
    (hfits : ∀ text ∈ textsOf o k ps, Fits text) :
    ∃ fss, List.Forall₂ ReadAs (textsOf o k ps) fss ∧ List.Forall₂ (Delivered o.wellFormed) ps fss.flatten := by
  cases k with
  | websocket =>
    clear hne hfits
    induction ps with
    | nil => exact ⟨[], .nil, .nil⟩
    | cons p ps ih =>
      obtain ⟨hp, hps⟩ := List.forall_mem_cons.1 h
      obtain ⟨f, hparse, hdelivered⟩ := parse_single hp
      obtain ⟨fss, hread, hall⟩ := ih hps
      exact ⟨[f] :: fss, .cons hparse hread, .cons hdelivered hall⟩
  | xhr =>
    obtain ⟨fs, hreads, hall⟩ := legible_packets h
    refine ⟨[fs], .cons ?_ .nil, by simpa using hall⟩
    rcases ps with _ | ⟨p, _ | ⟨q, ps⟩⟩
    · exact absurd rfl hne
    · obtain ⟨c, hplain, htext, -⟩ := (h p List.mem_cons_self).packet
      have hread : List.Forall₂ FrameCodec.Reads [c.text] fs := by rw [htext]; exact hreads
      change parse (encodePacket o.wellFormed p) = some (.ok fs)
      rw [← htext]
      exact FrameCodec.parse_text hread
    · exact FrameCodec.parse_batch hreads (hfits _ List.mem_cons_self)

/-- frames that are no heartbeats -/
def messages (frames : List SocketIOFrame) : List SocketIOFrame := frames.filter (·.frameType ≠ .heartbeat)

theorem Delivered.not_heartbeat {p : Packet} {f : SocketIOFrame} (h : Delivered wellFormed p f) : f.frameType ≠ .heartbeat := by
  intro hf
  have htype := h.type
  have hdata := h.data
  rw [hf] at htype
  cases hcontent : p.content <;> rw [hcontent] at htype hdata <;> cases htype
  cases hdata

theorem messages_delivered {ps : List Packet} {fs : List SocketIOFrame} (h : List.Forall₂ (Delivered wellFormed) ps fs) :
    messages fs = fs := by
  refine List.filter_eq_self.2 fun f hf => decide_eq_true ?_
  induction h with
  | nil => exact absurd hf List.not_mem_nil
  | cons h _ ih =>
    rcases List.mem_cons.1 hf with rfl | hf
    · exact h.not_heartbeat
    · exact ih hf

/-- the answer to a heartbeat is read as a heartbeat -/
theorem readAs_beat (wellFormed : Bool) :
    ∃ f, ReadAs (encodePacket wellFormed (plain .heartbeat)) [f] ∧ f.frameType = .heartbeat := by
  have hread (w : Bool) : ReadAs (encodePacket w (plain .heartbeat)) [⟨.heartbeat, JSON_MESSAGE_TYPE, [], str "2::"⟩] := by
    unfold ReadAs
    cases w <;> decide
  exact ⟨_, hread wellFormed, rfl⟩

/-- what was passed to a transport is read as the frames of its packets, heartbeats apart -/
theorem readAs_utterance {e : List Packet × List JString} (he : Utterance o e) (h : ∀ p ∈ e.1, Legible o.wellFormed p)
    (hfits : ∀ text ∈ e.2, Fits text) :
    ∃ fss, List.Forall₂ ReadAs e.2 fss ∧ List.Forall₂ (Delivered o.wellFormed) e.1 (messages fss.flatten) := by
  rcases he with rfl | ⟨hne, k, htexts⟩
  · obtain ⟨f, hread, hbeat⟩ := readAs_beat o.wellFormed
    refine ⟨[[f]], .cons hread .nil, ?_⟩
    have hnone : messages [[f]].flatten = [] := List.filter_cons_of_neg (by simp [hbeat])
    rw [hnone]
    exact .nil
  · rw [htexts] at hfits ⊢
    obtain ⟨fss, hread, hall⟩ := readAs_texts k hne h hfits
    exact ⟨fss, hread, (messages_delivered hall).symm ▸ hall⟩

theorem readAs_said {es : List (List Packet × List JString)} (hencoded : ∀ e ∈ es, Utterance o e)
    (h : ∀ p ∈ es.flatMap Prod.fst, Legible o.wellFormed p) (hfits : ∀ text ∈ es.flatMap Prod.snd, Fits text) :
    ∃ fss, List.Forall₂ ReadAs (es.flatMap Prod.snd) fss ∧
      List.Forall₂ (Delivered o.wellFormed) (es.flatMap Prod.fst) (messages fss.flatten) := by
  induction es with
  | nil => exact ⟨[], .nil, .nil⟩
  | cons e es ih =>
    obtain ⟨he, hes⟩ := List.forall_mem_cons.1 hencoded
    rw [List.flatMap_cons] at h hfits
    obtain ⟨hfirst, hrest⟩ := List.forall_mem_append.1 h
    obtain ⟨hfitsFirst, hfitsRest⟩ := List.forall_mem_append.1 hfits
    obtain ⟨first, hreadFirst, hdeliveredFirst⟩ := readAs_utterance he hfirst hfitsFirst
    obtain ⟨fss, hread, hdelivered⟩ := ih hes hrest hfitsRest
    refine ⟨first ++ fss, ?_, ?_⟩
    · rw [List.flatMap_cons]
      exact List.rel_append hreadFirst hread
    · rw [List.flatMap_cons, List.flatten_append, messages, List.filter_append]
      exact List.rel_append hdeliveredFirst hdelivered

/-- the texts that the client passed to the browser -/
def wire (log : List Entry) : List JString := (said log).flatMap Prod.snd

/-- **From the script to the server's parser.** The client uses one transport at a time, and it is given packets that the
server reads correctly. Then the server reads every text that the client sends, and the frames that it reads are, apart from
heartbeats and one by one, those of the packets that were given, up to those in the buffer. -/
theorem upstream_run (o : Options) (is : List Input) (hsteady : Runs.Each (step o) (fun s i => Steady s i.event) created is)
    (hlegible : ∀ p ∈ given (run o created is).log, Legible o.wellFormed p)
    (hfits : ∀ text ∈ wire (run o created is).log, Fits text) :
    ∃ fss past, List.Forall₂ ReadAs (wire (run o created is).log) fss ∧
      List.Forall₂ (Delivered o.wellFormed) past (messages fss.flatten) ∧
      given (run o created is).log = past ++ (run o created is).socket.buffer := by
  have haccount := (ordered_after hsteady).account
  have hlegibleSent : ∀ p ∈ sent (run o created is).log, Legible o.wellFormed p := fun p hp =>
    hlegible p (haccount ▸ List.mem_append_left _ hp)
  obtain ⟨fss, hread, hdelivered⟩ := readAs_said (encoded_run o is) hlegibleSent hfits
  exact ⟨fss, sent (run o created is).log, hread, hdelivered, haccount.symm⟩

/-- the packet of a message that the page sends -/
def messagePacket (data : JString) : Packet := ⟨.message (.string data), [], [], .none⟩

theorem messagePacket_legible {data : JString} (hne : data ≠ []) : Legible true (messagePacket data) where
  type := rfl
  not_beat := nofun
  id_digits _ h := absurd h List.not_mem_nil
  id_length := Nat.zero_le 9
  endpoint_free _ h := absurd h List.not_mem_nil
  endpoint_length := Nat.zero_ne_one
  data := by
    obtain ⟨c, cs, rfl⟩ := List.exists_cons_of_ne_nil hne
    rfl
  mark _ := rfl

theorem upstream_run_threeMessages :
    let log := (run tenAttempts created threeMessages).log
    wire log = [encodePayload [str "3:::a", str "3:::b"], str "3:::c"] ∧
      ∃ fss past, List.Forall₂ ReadAs (wire log) fss ∧ List.Forall₂ (Delivered true) past (messages fss.flatten) ∧
        given log = past ++ (run tenAttempts created threeMessages).socket.buffer := by
  have hgiven : given (run tenAttempts created threeMessages).log = [str "a", str "b", str "c"].map messagePacket := by rfl
  refine ⟨by decide +kernel, upstream_run tenAttempts threeMessages
    ⟨rfl, trivial, trivial, by unfold Steady; decide +kernel, trivial, trivial, trivial⟩ ?_ ?_⟩
  · rw [hgiven]
    refine List.forall_mem_map.2 fun data hdata => messagePacket_legible ?_
    rintro rfl
    revert hdata
    decide
  · unfold Fits
    decide +kernel

end SocketIOJava.ClientFrames
