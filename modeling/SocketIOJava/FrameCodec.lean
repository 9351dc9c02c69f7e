/-
What the decoder makes of the texts that encoders write: the server's own `encode` and the packets of the Socket.IO
client, alone or announced by U+FFFD length U+FFFD in a batch.

`Reads e f`: wherever the text `e` is found between the bounds of a part, the turn there reads the frame `f`, whatever
stands before and after it. `parseLoop_announced` lifts this to a whole batch.

- `parse_encode_iff`: decoding undoes encoding for one frame, except that the decoder drops an endpoint of one char.
- `parse_announced_encode`: announced encodings come back one by one, in order, with type and data.
- `parse_payload_iff`: a client's payload is decoded packet by packet exactly when every packet is `Plain`: it has a
  data field, its endpoint is not one char long, and it does not have both an id and an acknowledgement mark.
- `parse_leading_iff`: on any text on which its loop ends, `parse` returns a list that starts with the frames of the
  leading well-formed packets exactly when the text is readable and these packets are plain.
-/
import SocketIOJava.FrameCursor

namespace SocketIOJava.FrameCodec

open SocketIOJava.Text SocketIOJava.Frame SocketIOJava.FrameCursor

/-! ## Texts that are read wherever they stand -/

/-- `e` as a part of a batch: a separator, its length, a separator, and `e` itself -/
def announce (e : JString) : JString := [MESSAGE_SEPARATOR] ++ intToString e.length ++ [MESSAGE_SEPARATOR] ++ e

/-- the text `e`, found between the bounds of a part, is read as the frame `f` -/
def Reads (e : JString) (f : SocketIOFrame) : Prop :=
  ∀ data pre post i, data = pre ++ e ++ post → Bounds data i pre.length (pre.length + e.length) →
    parseTurn data i = .ok (some (f, pre.length + e.length))

/-- a packet with all its fields: type, one char, id, colon, endpoint, colon, data -/
def fields (c x : JChar) (id endpoint body : JString) : JString :=
  c :: x :: id ++ SEPERATOR_CHAR :: endpoint ++ SEPERATOR_CHAR :: body

theorem announce_length (e : JString) : (announce e).length = (intToString e.length).length + e.length + 2 := by
  simp only [announce, List.length_append, List.length_singleton]; omega

theorem fields_length (c x : JChar) (id endpoint body : JString) :
    (fields c x id endpoint body).length = id.length + endpoint.length + body.length + 4 := by
  simp only [fields, List.length_append, List.length_cons]; omega

/-- the bounds of an announced part that begins after `pre` -/
theorem announced_bounds {data pre e post : JString} (hdata : data = pre ++ announce e ++ post) (hfits : Fits data) :
    Bounds data pre.length ((pre ++ announce e).length - e.length) (pre ++ announce e).length := by
  have hann := announce_length e
  have htotal : data.length = pre.length + (announce e).length + post.length := by
    rw [hdata]; simp only [List.length_append]
  simp only [Fits, intMax] at hfits
  simp only [List.length_append, hann]
  refine .announced (pre.length + 1 + (intToString e.length).length) e.length (intToString e.length) ?_ ?_ ?_ ?_ ?_ ?_
  · exact charAt_eq pre (intToString e.length ++ [MESSAGE_SEPARATOR] ++ e ++ post)
      (by simp [hdata, announce]) rfl
  · exact indexOf_eq (pre ++ [MESSAGE_SEPARATOR]) (e ++ post) (by simp [hdata, announce]) (by simp)
      (sep_not_mem_intToString _)
  · exact substring_eq (pre ++ [MESSAGE_SEPARATOR]) ([MESSAGE_SEPARATOR] ++ e ++ post)
      (by simp [hdata, announce]) (by simp) rfl
  · exact parseInt_intToString (by simp only [intMax]; omega)
  · omega
  · rw [wrapInt_of_mem (by simp only [intMin, intMax]; omega)]; omega

/-- the indexes of the fields of a packet that begins after `pre` -/
theorem fields_indexes {data pre post id endpoint body : JString} {c x : JChar}
    (hdata : data = pre ++ fields c x id endpoint body ++ post) (hid : SEPERATOR_CHAR ∉ id)
    (hep : SEPERATOR_CHAR ∉ endpoint) :
    idEnd data pre.length = pre.length + 2 + id.length ∧
      endpointEnd data pre.length = pre.length + 2 + id.length + 1 + endpoint.length := by
  have h1 : idEnd data pre.length = pre.length + 2 + id.length :=
    indexOf_eq (pre ++ [c, x]) (endpoint ++ SEPERATOR_CHAR :: body ++ post)
      (by simp [hdata, fields]) (by simp) hid
  refine ⟨h1, ?_⟩
  rw [endpointEnd, h1]
  exact indexOf_eq (pre ++ c :: x :: id ++ [SEPERATOR_CHAR]) (body ++ post)
    (by simp [hdata, fields]) (by simp; omega) hep

/-- **A packet with all its fields is read wherever it stands**; of its endpoint only if that has two chars or more. -/
theorem reads_fields {c x : JChar} {id endpoint body : JString} {d : ℕ} (hc : digit c = some d) (hd : d ≤ 8)
    (hid : SEPERATOR_CHAR ∉ id) (hep : SEPERATOR_CHAR ∉ endpoint)
    (hnum : id.length ≤ 1 ∨ ∃ k, parseInt (id.drop 1) = .ok k) :
    Reads (fields c x id endpoint body)
      ⟨.fromInt d, if FrameType.fromInt d = .message then TEXT_MESSAGE_TYPE else JSON_MESSAGE_TYPE,
        if endpoint.length > 1 then endpoint else [], body⟩ := by
  intro data pre post i hdata hb
  obtain ⟨h1, h2⟩ := fields_indexes hdata hid hep
  have hlen := fields_length c x id endpoint body
  have htotal : data.length = pre.length + (fields c x id endpoint body).length + post.length := by
    rw [hdata]; simp only [List.length_append]
  have hstart : dataStart data pre.length = pre.length + 2 + id.length + 1 + endpoint.length + 1 := by
    rw [dataStart, h2]
  have htype : TypeDigit data pre.length d :=
    ⟨c, charAt_eq pre (x :: id ++ SEPERATOR_CHAR :: endpoint ++ SEPERATOR_CHAR :: body ++ post)
      (by simp [hdata, fields]) rfl, hc⟩
  have hread : IdReadable data pre.length := by
    unfold IdReadable
    rw [h1]
    rcases hnum with hle | ⟨k, hk⟩
    · left; omega
    · cases id with
      | nil => left; simp
      | cons y ys =>
        refine Or.inr ⟨ys, k, ?_, hk⟩
        exact substring_eq (pre ++ [c, x, y]) (SEPERATOR_CHAR :: endpoint ++ SEPERATOR_CHAR :: body ++ post)
          (by simp [hdata, fields]) (by simp) (by simp only [List.length_cons]; push_cast; omega)
  have hendpoint : endpointText data pre.length = if endpoint.length > 1 then endpoint else [] := by
    unfold endpointText
    rw [h1, h2]
    by_cases hl : endpoint.length > 1
    · rw [if_pos hl, if_pos (by omega)]
      exact drop_take_eq (pre ++ c :: x :: id ++ [SEPERATOR_CHAR]) (SEPERATOR_CHAR :: body ++ post)
        (by simp [hdata, fields]) (by simp; omega) (by omega)
    · rw [if_neg hl, if_neg (by omega)]
  have hbody : (data.drop (dataStart data pre.length).toNat).take
      (pre.length + (fields c x id endpoint body).length - dataStart data pre.length).toNat = body :=
    drop_take_eq (pre ++ c :: x :: id ++ SEPERATOR_CHAR :: endpoint ++ [SEPERATOR_CHAR]) post
      (by simp [hdata, fields]) (by simp [hstart]; omega) (by omega)
  refine parseTurn_frame_iff.2 ⟨pre.length, d, hb, htype, hd, hread, ⟨by omega, by omega⟩, ?_⟩
  rw [frameAt, hendpoint, hbody]

/-- the turn at an announced part -/
theorem announced_turn {data pre e post : JString} {f : SocketIOFrame} (h : Reads e f)
    (hdata : data = pre ++ announce e ++ post) (hfits : Fits data) :
    parseTurn data pre.length = .ok (some (f, (pre ++ announce e).length)) := by
  have hann := announce_length e
  have hb := announced_bounds hdata hfits
  have hpre : ((pre ++ announce e).length : ℤ) - e.length
      = (pre ++ [MESSAGE_SEPARATOR] ++ intToString e.length ++ [MESSAGE_SEPARATOR]).length := by
    simp only [List.length_append, List.length_singleton, hann]; omega
  rw [show ((pre ++ announce e).length : ℤ)
      = (pre ++ [MESSAGE_SEPARATOR] ++ intToString e.length ++ [MESSAGE_SEPARATOR]).length + e.length by omega]
  refine h data _ post _ (by simp [hdata, announce]) ?_
  rwa [← hpre, show ((pre ++ announce e).length : ℤ) - e.length + e.length = (pre ++ announce e).length by omega]

/-! ## Whole texts -/

/-- a text that is one packet -/
theorem parse_of_reads {c : JChar} {cs : JString} {f : SocketIOFrame} (h : Reads (c :: cs) f)
    (hc : c ≠ MESSAGE_SEPARATOR) : parse (c :: cs) = some (.ok [f]) := by
  have hb : Bounds (c :: cs) 0 ([] : JString).length (([] : JString).length + (c :: cs).length) :=
    .rest c (charAt_eq [] cs rfl rfl) hc rfl (by simp)
  have hturn := h (c :: cs) [] [] 0 (by simp) hb
  apply parse_eq_of_parseLoop (n := 2)
  rw [parseLoop_turn hturn]
  simp [parseLoop]

/-- **A batch is read part by part**, whatever stands before and after it. -/
theorem parseLoop_announced {es : List JString} {fs : List SocketIOFrame} (h : List.Forall₂ Reads es fs)
    {data : JString} (pre post : JString) (hdata : data = pre ++ es.flatMap announce ++ post) (hfits : Fits data) (n : ℕ)
    (messages : List SocketIOFrame) :
    parseLoop data (es.length + n) pre.length messages =
      parseLoop data n (pre ++ es.flatMap announce).length (messages ++ fs) := by
  induction h generalizing pre messages with
  | nil => simp
  | @cons e f es fs hread _ ih =>
    have hdata' : data = (pre ++ announce e) ++ es.flatMap announce ++ post := by simp [hdata]
    have hturn := announced_turn hread (by simpa using hdata') hfits
    rw [show (e :: es).length + n = (es.length + n) + 1 by simp only [List.length_cons]; omega, parseLoop_turn hturn,
      ih (pre ++ announce e) hdata' (messages ++ [f])]
    simp [List.append_assoc]

/-- a text that is a batch -/
theorem parse_batch {es : List JString} {fs : List SocketIOFrame} (h : List.Forall₂ Reads es fs)
    (hfits : Fits (es.flatMap announce)) : parse (es.flatMap announce) = some (.ok fs) := by
  have hloop := parseLoop_announced h [] [] (by simp) hfits 1 []
  refine parse_eq_of_parseLoop (hloop.trans ?_)
  simp [parseLoop]

/-! ## The server's own encoding -/

/-- the encoding of a frame type's packet, field by field -/
theorem encode_eq {t : FrameType} (ht : t ≠ .unknown) (endpoint data : JString) :
    ∃ c d, digit c = some d ∧ (d : ℤ) = t.value ∧
      encode t endpoint data = fields c SEPERATOR_CHAR [] (if t = .heartbeat then [] else endpoint) data := by
  obtain ⟨c, d, hhex, hc, hd⟩ := toHexString_value ht
  refine ⟨c, d, hc, hd, ?_⟩
  have hif : (if t.value ≠ 2 then endpoint else []) = if t = .heartbeat then [] else endpoint := by
    cases t <;> rfl
  unfold encode
  rw [hhex, hif]
  simp [fields]

/-- **An encoded frame is read wherever it stands**; of its endpoint only if that has two chars or more. -/
theorem reads_encode {t : FrameType} (ht : t ≠ .unknown) {endpoint : JString} (hep : SEPERATOR_CHAR ∉ endpoint)
    (data : JString) :
    ∃ f, Reads (encode t endpoint data) f ∧ f.frameType = t ∧ f.data = data ∧
      f.endpoint = if t ≠ .heartbeat ∧ endpoint.length > 1 then endpoint else [] := by
  obtain ⟨c, d, hc, hd, henc⟩ := encode_eq ht endpoint data
  have hd8 : d ≤ 8 := by cases t <;> simp only [FrameType.value] at hd <;> omega
  have hep' : SEPERATOR_CHAR ∉ (if t = .heartbeat then [] else endpoint) := by
    split_ifs
    · exact List.not_mem_nil
    · exact hep
  rw [henc]
  refine ⟨_, reads_fields hc hd8 List.not_mem_nil hep' (Or.inl (by simp)), ?_, rfl, ?_⟩
  · rw [hd]; exact fromInt_value t
  · by_cases hb : t = .heartbeat <;> simp [hb]

/-- an encoded frame does not begin with the separator of a batch -/
theorem encode_cons {t : FrameType} (ht : t ≠ .unknown) (endpoint data : JString) :
    ∃ c cs, encode t endpoint data = c :: cs ∧ c ≠ MESSAGE_SEPARATOR := by
  obtain ⟨c, d, hc, -, henc⟩ := encode_eq ht endpoint data
  exact ⟨c, _, henc, (digit_isSome_ne (by simp [hc])).2.2.2⟩

/-- a text that is one encoded frame is read as one frame -/
theorem parse_encode {t : FrameType} (ht : t ≠ .unknown) {endpoint : JString} (hep : SEPERATOR_CHAR ∉ endpoint)
    (data : JString) :
    ∃ f, parse (encode t endpoint data) = some (.ok [f]) ∧ f.frameType = t ∧ f.data = data ∧
      f.endpoint = if t ≠ .heartbeat ∧ endpoint.length > 1 then endpoint else [] := by
  obtain ⟨f, hread, hf⟩ := reads_encode ht hep data
  obtain ⟨c, cs, henc, hc⟩ := encode_cons ht endpoint data
  rw [henc] at hread ⊢
  exact ⟨f, parse_of_reads hread hc, hf⟩

/-- the endpoint that a decoder should give back: `encode` drops a heartbeat's -/
def sentEndpoint (t : FrameType) (endpoint : JString) : JString := if t = .heartbeat then [] else endpoint

/-- **Decoding one encoded frame.** The decoder gives back one frame with the type and the data, whatever the data is;
it gives back the endpoint as well exactly when the frame is a heartbeat or the endpoint is not one char long. -/
theorem parse_encode_iff {t : FrameType} (ht : t ≠ .unknown) {endpoint : JString} (hep : SEPERATOR_CHAR ∉ endpoint)
    (data : JString) :
    (∃ f, parse (encode t endpoint data) = some (.ok [f]) ∧ f.frameType = t ∧ f.data = data ∧
      f.endpoint = sentEndpoint t endpoint) ↔ t = .heartbeat ∨ endpoint.length ≠ 1 := by
  obtain ⟨f, hparse, htype, hdata, hendpoint⟩ := parse_encode ht hep data
  unfold sentEndpoint
  constructor
  · rintro ⟨g, hg, -, -, hge⟩
    rw [hparse] at hg
    simp only [Option.some.injEq, Except.ok.injEq, List.cons.injEq, and_true] at hg
    subst hg
    by_contra hcon
    simp only [not_or, not_not] at hcon
    obtain ⟨x, hx⟩ := List.length_eq_one_iff.1 hcon.2
    rw [hendpoint, hx] at hge
    simp [hcon.1] at hge
  · intro h
    refine ⟨f, hparse, htype, hdata, ?_⟩
    rw [hendpoint]
    rcases h with rfl | h
    · simp
    · by_cases hb : t = .heartbeat
      · simp [hb]
      · by_cases hl : endpoint.length > 1
        · simp [hb, hl]
        · have : endpoint = [] := List.length_eq_zero_iff.1 (by omega)
          simp [this]

theorem parse_encode_event :
    ∃ f, parse (encode .event (str "/chat") (str "a:b")) = some (.ok [f]) ∧ f.frameType = .event ∧
      f.data = str "a:b" ∧ f.endpoint = sentEndpoint .event (str "/chat") :=
  (parse_encode_iff (by decide) (by decide) (str "a:b")).2 (Or.inr (by decide))

/-- **The decoder drops a one-char endpoint**: a MESSAGE for endpoint "a" comes back with no endpoint. -/
theorem encode_loses_endpoint :
    ¬ ∃ f, parse (encode .message (str "a") (str "hi")) = some (.ok [f]) ∧ f.frameType = .message ∧
      f.data = str "hi" ∧ f.endpoint = sentEndpoint .message (str "a") := by
  have h : parse (encode .message (str "a") (str "hi")) = some (.ok [⟨.message, TEXT_MESSAGE_TYPE, [], str "hi"⟩]) := by
    decide
  rintro ⟨f, hf, -, -, he⟩
  rw [h] at hf
  cases hf
  revert he; decide

/-- what goes into one encoding -/
structure Outgoing where
  type : FrameType
  endpoint : JString
  data : JString
  known : type ≠ .unknown
  plain : SEPERATOR_CHAR ∉ endpoint

def Outgoing.text (o : Outgoing) : JString := encode o.type o.endpoint o.data

/-- **Announced encodings come back one by one**: as many frames, in the same order, each with its type and its data,
whatever the data contain. The whole text is a Java string. -/
theorem parse_announced_encode (os : List Outgoing) (hfits : Fits ((os.map Outgoing.text).flatMap announce)) :
    ∃ frames, parse ((os.map Outgoing.text).flatMap announce) = some (.ok frames) ∧
      List.Forall₂ (fun o f => SocketIOFrame.frameType f = Outgoing.type o ∧ f.data = o.data) os frames := by
  obtain ⟨frames, hread, hframes⟩ : ∃ frames, List.Forall₂ Reads (os.map Outgoing.text) frames ∧
      List.Forall₂ (fun o f => SocketIOFrame.frameType f = Outgoing.type o ∧ f.data = o.data) os frames := by
    clear hfits
    induction os with
    | nil => exact ⟨[], .nil, .nil⟩
    | cons o os ih =>
      obtain ⟨frames, h1, h2⟩ := ih
      obtain ⟨f, hread, htype, hdata, -⟩ := reads_encode o.known o.plain o.data
      exact ⟨f :: frames, .cons hread h1, .cons ⟨htype, hdata⟩ h2⟩
  exact ⟨frames, parse_batch hread hfits, hframes⟩

/-- two frames whose data hold separators and a complete look-alike frame -/
def trickyFrames : List Outgoing :=
  [⟨.message, str "/a", [MESSAGE_SEPARATOR] ++ str "3" ++ [MESSAGE_SEPARATOR] ++ str "3:::x", by decide, by decide⟩,
    ⟨.event, [], str "12:", by decide, by decide⟩]

theorem parse_announced_tricky :
    ∃ frames, parse ((trickyFrames.map Outgoing.text).flatMap announce) = some (.ok frames) ∧
      List.Forall₂ (fun o f => SocketIOFrame.frameType f = Outgoing.type o ∧ f.data = o.data) trickyFrames frames :=
  parse_announced_encode trickyFrames (by unfold Fits; decide)

/-! ## The client's packets -/

def Digits (id : JString) : Prop := ∀ c ∈ id, 0x30 ≤ c ∧ c ≤ 0x39

instance (id : JString) : Decidable (Digits id) := List.decidableBAll _ id

def NoSeparators (endpoint : JString) : Prop := ∀ c ∈ endpoint, c ≠ SEPERATOR_CHAR ∧ c ≠ MESSAGE_SEPARATOR

instance (endpoint : JString) : Decidable (NoSeparators endpoint) := List.decidableBAll _ endpoint

/-- a packet of the client's format: `type ':' id? '+'? ':' endpoint (':' data)?` -/
structure ClientPacket where
  type : Fin 9
  id : JString
  ack : Bool
  endpoint : JString
  data : Option JString
  id_digits : Digits id
  id_length : id.length ≤ 9
  endpoint_free : NoSeparators endpoint

namespace ClientPacket

def typeChar (p : ClientPacket) : JChar := UInt16.ofNat (0x30 + p.type)

/-- the id field: the id and the acknowledgement mark -/
def idField (p : ClientPacket) : JString := p.id ++ if p.ack then [0x2B] else []

/-- `parser.encodePacket` of the client: the fragments joined by colons -/
def text (p : ClientPacket) : JString :=
  p.typeChar :: SEPERATOR_CHAR :: p.idField ++ SEPERATOR_CHAR :: p.endpoint ++
    match p.data with
    | some d => SEPERATOR_CHAR :: d
    | none => []

/-- the frame that the packet stands for -/
structure Decoded (p : ClientPacket) (f : SocketIOFrame) : Prop where
  type : f.frameType = .fromInt p.type
  endpoint : f.endpoint = p.endpoint
  data : f.data = p.data.getD []

/-- the packets that the decoder reads correctly -/
structure Plain (p : ClientPacket) : Prop where
  data : p.data.isSome
  endpoint : p.endpoint.length ≠ 1
  id : p.ack = true → p.id = []

end ClientPacket

open ClientPacket

/-- `parser.encodePayload` of the client -/
def encodePayload (ps : List ClientPacket) : JString :=
  match ps with
  | [p] => p.text
  | ps => (ps.map ClientPacket.text).flatMap announce

theorem digit_ascii {c : JChar} (h : 0x30 ≤ c ∧ c ≤ 0x39) : digit c = some (c.toNat - 0x30) ∧ c.toNat - 0x30 < 10 := by
  obtain ⟨d, hd, rfl⟩ : ∃ d : ℕ, d < 10 ∧ c = UInt16.ofNat (0x30 + d) := by
    have h1 : 0x30 ≤ c.toNat := h.1
    have h2 : c.toNat ≤ 0x39 := h.2
    refine ⟨c.toNat - 0x30, by omega, ?_⟩
    rw [show 0x30 + (c.toNat - 0x30) = c.toNat by omega, UInt16.ofNat_toNat]
  interval_cases d <;> decide

theorem typeChar_digit (p : ClientPacket) : digit p.typeChar = some (p.type : ℕ) := by
  unfold typeChar
  have := p.type.isLt
  generalize (p.type : ℕ) = n at *
  interval_cases n <;> decide

/-- a run of at most nine ASCII digits is a number below 10^9 -/
theorem decimal_ascii {s : JString} (h : ∀ c ∈ s, 0x30 ≤ c ∧ c ≤ 0x39) (acc : ℕ) :
    ∃ n, decimal acc s = some n ∧ n < (acc + 1) * 10 ^ s.length := by
  induction s generalizing acc with
  | nil => exact ⟨acc, rfl, by simp⟩
  | cons c cs ih =>
    obtain ⟨hc, hlt⟩ := digit_ascii (h c List.mem_cons_self)
    obtain ⟨n, hn, hb⟩ := ih (fun x hx => h x (List.mem_cons_of_mem c hx)) (acc * 10 + (c.toNat - 0x30))
    refine ⟨n, by simp only [decimal, hc]; exact hn, lt_of_lt_of_le hb ?_⟩
    rw [List.length_cons, pow_succ, Nat.mul_comm (10 ^ cs.length) 10, ← Nat.mul_assoc]
    exact Nat.mul_le_mul_right _ (by omega)

theorem idField_free (p : ClientPacket) : SEPERATOR_CHAR ∉ p.idField := by
  intro h
  rcases List.mem_append.1 h with h | h
  · exact absurd (p.id_digits _ h).2 (by decide)
  · split_ifs at h
    · exact absurd (List.mem_singleton.1 h) (by decide)
    · exact List.not_mem_nil h

theorem endpoint_colon_free (p : ClientPacket) : SEPERATOR_CHAR ∉ p.endpoint := fun h => (p.endpoint_free _ h).1 rfl

/-- what `parseInt` accepts ends in a digit -/
theorem getLast_of_parseInt {s : JString} {k : ℤ} (h : parseInt s = .ok k) {c : JChar} (hc : s.getLast? = some c) :
    (digit c).isSome := by
  have key : ∀ (t : JString) (g : ℕ → ℤ), (do toInt (g (← magnitude t))) = Except.ok k →
      ∀ c ∈ t, (digit c).isSome := by
    intro t g ht
    cases hm : magnitude t with
    | error e => rw [hm] at ht; cases ht
    | ok n =>
      unfold magnitude at hm
      split at hm
      · rename_i hdec; exact digit_of_decimal hdec
      · cases hm
  unfold parseInt at h
  split at h
  · rename_i rest
    cases rest with
    | nil => cases h
    | cons x xs => rw [List.getLast?_cons_cons] at hc; exact key _ (fun n => -(n : ℤ)) h c (List.mem_of_getLast? hc)
  · rename_i rest
    cases rest with
    | nil => cases h
    | cons x xs => rw [List.getLast?_cons_cons] at hc; exact key _ (fun n => (n : ℤ)) h c (List.mem_of_getLast? hc)
  · exact key _ (fun n => (n : ℤ)) h c (List.mem_of_getLast? hc)

/-- the id field is readable unless it has both an id and the mark -/
theorem idField_readable_iff (p : ClientPacket) :
    (p.idField.length ≤ 1 ∨ ∃ k, parseInt (p.idField.drop 1) = .ok k) ↔ (p.ack = true → p.id = []) := by
  unfold idField
  cases hack : p.ack
  · simp only [Bool.false_eq_true, if_false, List.append_nil, false_imp_iff, iff_true]
    by_cases hl : p.id.length ≤ 1
    · exact Or.inl hl
    · right
      have hdigits : ∀ c ∈ p.id.drop 1, 0x30 ≤ c ∧ c ≤ 0x39 := fun c hc => p.id_digits c (List.mem_of_mem_drop hc)
      obtain ⟨n, hn, hb⟩ := decimal_ascii hdigits 0
      have hlen : (p.id.drop 1).length ≤ 8 := by have := p.id_length; rw [List.length_drop]; omega
      have hne : p.id.drop 1 ≠ [] := by
        intro he; have := congrArg List.length he; rw [List.length_drop, List.length_nil] at this; omega
      have hmax : n < 10 ^ 8 := by
        have := Nat.pow_le_pow_right (show 0 < 10 by decide) hlen
        omega
      exact ⟨n, parseInt_of_decimal hne hn (by simp only [intMax]; omega)⟩
  · simp only [if_true, true_imp_iff]
    constructor
    · rintro (hl | ⟨k, hk⟩)
      · rw [List.length_append, List.length_singleton] at hl
        exact List.length_eq_zero_iff.1 (by omega)
      · by_contra hne
        obtain ⟨x, xs, hx⟩ := List.exists_cons_of_ne_nil hne
        rw [hx] at hk
        have hlast : (xs ++ [(0x2B : JChar)]).getLast? = some 0x2B := by simp
        exact absurd (getLast_of_parseInt hk hlast) (by decide)
    · intro h; left; simp [h]

theorem text_of_data {p : ClientPacket} {d : JString} (h : p.data = some d) :
    p.text = fields p.typeChar SEPERATOR_CHAR p.idField p.endpoint d := by
  simp [text, fields, h]

/-- **A plain packet is read as its frame wherever it stands.** -/
theorem reads_plain {p : ClientPacket} (h : p.Plain) : ∃ f, Reads p.text f ∧ p.Decoded f := by
  obtain ⟨d, hd⟩ := Option.isSome_iff_exists.1 h.data
  rw [text_of_data hd]
  have h8 : (p.type : ℕ) ≤ 8 := Nat.le_of_lt_succ p.type.isLt
  refine ⟨_, reads_fields (typeChar_digit p) h8 (idField_free p) (endpoint_colon_free p)
    ((idField_readable_iff p).2 h.id), rfl, ?_, by simp [hd]⟩
  by_cases hl : p.endpoint.length > 1
  · simp [hl]
  · have : p.endpoint = [] := List.length_eq_zero_iff.1 (by have := h.endpoint; omega)
    simp [this]

/-- the bounds of a part are determined by its first char -/
theorem bounds_unique {data : JString} {i s m s' m' : ℤ} (h : Bounds data i s m) (h' : Bounds data i s' m') :
    s = s' ∧ m = m' := by
  rw [← packetBounds_ok_iff] at h h'
  rw [h] at h'
  exact Prod.mk.inj (Except.ok.inj h')

/-- without a data field, the search for the colon after the endpoint leaves the packet -/
theorem no_packet_of_no_data {p : ClientPacket} {data pre post : JString} (hdata : data = pre ++ p.text ++ post)
    (hnone : p.data = none) :
    dataStart data pre.length = 0 ∨ (pre.length + p.text.length : ℤ) < dataStart data pre.length := by
  have htext : p.text = p.typeChar :: SEPERATOR_CHAR :: p.idField ++ SEPERATOR_CHAR :: p.endpoint := by
    simp [text, hnone]
  have hlen : p.text.length = p.idField.length + p.endpoint.length + 3 := by
    rw [htext]; simp only [List.length_append, List.length_cons]; omega
  have hid : idEnd data pre.length = pre.length + 2 + p.idField.length :=
    indexOf_eq (pre ++ [p.typeChar, SEPERATOR_CHAR]) (p.endpoint ++ post) (by simp [hdata, htext]) (by simp)
      (idField_free p)
  have hskip := indexOf_skip (s := data) (i := idEnd data pre.length + 1)
    (pre ++ p.typeChar :: SEPERATOR_CHAR :: p.idField ++ [SEPERATOR_CHAR]) post (by simp [hdata, htext])
    (by rw [hid]; simp; omega) (endpoint_colon_free p)
  unfold dataStart endpointEnd
  rcases hskip with h | h
  · left; rw [h]; rfl
  · right; omega

/-- **A packet that is read as its frame is plain**, wherever it stands. -/
theorem plain_of_decoded {p : ClientPacket} {data pre post : JString} {i : ℤ} (hdata : data = pre ++ p.text ++ post)
    (hb : Bounds data i pre.length (pre.length + p.text.length)) {f : SocketIOFrame} {m : ℤ}
    (hturn : parseTurn data i = .ok (some (f, m))) (hdec : p.Decoded f) : p.Plain := by
  obtain ⟨s, d, hb', -, -, hread, hm, rfl⟩ := parseTurn_frame_iff.1 hturn
  obtain ⟨rfl, rfl⟩ := bounds_unique hb' hb
  have hsome : p.data.isSome := by
    by_contra hnone
    rw [Option.not_isSome_iff_eq_none] at hnone
    rcases no_packet_of_no_data hdata hnone with h0 | hlt
    · have hempty : (data.drop (0 : ℤ).toNat).take (pre.length + p.text.length - 0 : ℤ).toNat = [] := by
        have := hdec.data
        rw [hnone] at this
        simpa only [frameAt, h0, Option.getD_none] using this
      have hlen : 0 < p.text.length := by simp [text]
      have := congrArg List.length hempty
      simp only [List.length_take, List.length_drop, List.length_nil] at this
      omega
    · omega
  obtain ⟨d', hd'⟩ := Option.isSome_iff_exists.1 hsome
  rw [text_of_data hd'] at hdata
  obtain ⟨h1, h2⟩ := fields_indexes hdata (idField_free p) (endpoint_colon_free p)
  refine ⟨hsome, fun hone => ?_, (idField_readable_iff p).1 ?_⟩
  · have hempty : endpointText data pre.length = p.endpoint := hdec.endpoint
    unfold endpointText at hempty
    rw [if_neg (by omega)] at hempty
    rw [← hempty] at hone
    cases hone
  · by_cases hshort : p.idField.length ≤ 1
    · exact Or.inl hshort
    · rcases hread with hle | ⟨t, k, ht, hk⟩
      · omega
      · obtain ⟨x, xs, hx⟩ := List.exists_cons_of_ne_nil (l := p.idField) (by rintro h; simp [h] at hshort)
        have hsub : substring data (pre.length + 3) (idEnd data pre.length) = .ok xs :=
          substring_eq (pre ++ [p.typeChar, SEPERATOR_CHAR, x])
            (SEPERATOR_CHAR :: p.endpoint ++ SEPERATOR_CHAR :: d' ++ post) (by simp [hdata, fields, hx]) (by simp)
            (by rw [h1, hx]; simp only [List.length_cons]; push_cast; omega)
        rw [hsub] at ht
        cases ht
        exact Or.inr ⟨k, by rw [hx]; exact hk⟩

/-! ## The client's payloads -/

/-- a run of the loop that gives a packet's frame next: the packet is plain, and the run goes on after it -/
theorem parseLoop_decoded {p : ClientPacket} {data pre post : JString} {i : ℤ} (hdata : data = pre ++ p.text ++ post)
    (hb : Bounds data i pre.length (pre.length + p.text.length)) {n : ℕ} {messages fs total : List SocketIOFrame}
    {f : SocketIOFrame} (hrun : parseLoop data n i messages = some (.ok total)) (hpre : messages ++ f :: fs <+: total)
    (hdec : p.Decoded f) :
    p.Plain ∧ ∃ k, parseLoop data k (pre.length + p.text.length) (messages ++ [f]) = some (.ok total) := by
  cases n with
  | zero => cases hrun
  | succ n =>
    have hlong : messages.length + (fs.length + 1) ≤ total.length := by simpa using hpre.length_le
    simp only [parseLoop, if_pos (show (data.length : ℤ) > i from hb.lt_length.2)] at hrun
    split at hrun
    · cases hrun
    · cases hrun; omega
    · rename_i g next hturn
      have hfirst : messages ++ [f] <+: total := List.IsPrefix.trans ⟨fs, by simp⟩ hpre
      have heq : messages ++ [g] = messages ++ [f] :=
        (List.prefix_of_prefix_length_le (parseLoop_extends hrun) hfirst (by simp)).eq_of_length (by simp)
      obtain rfl : g = f := by simpa using heq
      obtain ⟨s, d, hb', -⟩ := parseTurn_frame_iff.1 hturn
      obtain ⟨-, rfl⟩ := bounds_unique hb' hb
      exact ⟨plain_of_decoded hdata hb hturn hdec, n, hrun⟩

/-- a run of the loop that gives the frames of a batch next: all its packets are plain -/
theorem plain_of_parseLoop {ps : List ClientPacket} {fs : List SocketIOFrame}
    (hdec : List.Forall₂ ClientPacket.Decoded ps fs) {data : JString} (pre post : JString)
    (hdata : data = pre ++ (ps.map ClientPacket.text).flatMap announce ++ post) (hfits : Fits data) {n : ℕ}
    {messages total : List SocketIOFrame} (hrun : parseLoop data n pre.length messages = some (.ok total))
    (hpre : messages ++ fs <+: total) : ∀ p ∈ ps, p.Plain := by
  induction hdec generalizing pre messages n with
  | nil => simp
  | @cons p f ps fs hp _ ih =>
    have hdata' : data = (pre ++ announce p.text) ++ (ps.map ClientPacket.text).flatMap announce ++ post := by
      simp [hdata]
    have hann := announced_bounds (by simpa using hdata') hfits
    have hlen : ((pre ++ announce p.text).length : ℤ) - p.text.length
        = (pre ++ [MESSAGE_SEPARATOR] ++ intToString p.text.length ++ [MESSAGE_SEPARATOR]).length := by
      simp only [List.length_append, List.length_singleton, announce_length]; omega
    rw [hlen, show ((pre ++ announce p.text).length : ℤ)
      = (pre ++ [MESSAGE_SEPARATOR] ++ intToString p.text.length ++ [MESSAGE_SEPARATOR]).length + p.text.length
        by omega] at hann
    obtain ⟨hplain, k, hk⟩ := parseLoop_decoded (by simp [hdata', announce]; rfl) hann hrun hpre hp
    rw [← hlen, show ((pre ++ announce p.text).length : ℤ) - p.text.length + p.text.length
      = (pre ++ announce p.text).length by omega] at hk
    exact List.forall_mem_cons.2 ⟨hplain, ih (pre ++ announce p.text) hdata' hk (by simpa using hpre)⟩

/-- a text that is one packet is one part -/
theorem text_bounds (p : ClientPacket) : Bounds p.text 0 ([] : JString).length (([] : JString).length + p.text.length) := by
  have hne : p.typeChar ≠ MESSAGE_SEPARATOR := (digit_isSome_ne (by simp [typeChar_digit])).2.2.2
  refine .rest p.typeChar (charAt_eq [] (p.text.drop 1) ?_ rfl) hne rfl (by simp)
  simp [text]

/-- the plain packets of a batch are read as their frames -/
theorem reads_all {ps : List ClientPacket} (h : ∀ p ∈ ps, p.Plain) :
    ∃ fs, List.Forall₂ Reads (ps.map ClientPacket.text) fs ∧ List.Forall₂ ClientPacket.Decoded ps fs := by
  induction ps with
  | nil => exact ⟨[], .nil, .nil⟩
  | cons p ps ih =>
    obtain ⟨hp, hps⟩ := List.forall_mem_cons.1 h
    obtain ⟨f, hread, hdec⟩ := reads_plain hp
    obtain ⟨fs, hreads, hdecs⟩ := ih hps
    exact ⟨f :: fs, .cons hread hreads, .cons hdec hdecs⟩

/-- the packets that lead a text: a batch of them at its start, or one that is the whole text -/
def Leads (ps : List ClientPacket) (data : JString) : Prop :=
  (∃ rest, data = (ps.map ClientPacket.text).flatMap announce ++ rest) ∨ ∃ p, ps = [p] ∧ data = p.text

theorem encodePayload_cases {ps : List ClientPacket} (hne : ps ≠ []) :
    (∃ p, ps = [p] ∧ encodePayload ps = p.text) ∨ encodePayload ps = (ps.map ClientPacket.text).flatMap announce := by
  unfold encodePayload
  split
  · exact Or.inl ⟨_, rfl, rfl⟩
  · exact Or.inr rfl

theorem leads_payload {ps : List ClientPacket} : Leads ps (encodePayload ps) := by
  unfold encodePayload
  split
  · exact Or.inr ⟨_, rfl, rfl⟩
  · exact Or.inl ⟨[], by simp⟩

/-- leading packets whose frames `parse` returns first are plain -/
theorem plain_of_leads {ps : List ClientPacket} {data : JString} (hlead : Leads ps data) (hfits : Fits data)
    {fs total : List SocketIOFrame} (hparse : parse data = some (.ok total)) (hpre : fs <+: total)
    (hdec : List.Forall₂ ClientPacket.Decoded ps fs) : ∀ p ∈ ps, p.Plain := by
  rcases hlead with ⟨rest, hdata⟩ | ⟨p, rfl, rfl⟩
  · exact plain_of_parseLoop hdec [] rest (by simpa using hdata) hfits hparse (by simpa using hpre)
  · cases hdec with
    | cons hp hnil =>
      cases hnil
      have hplain := (parseLoop_decoded (show p.text = [] ++ p.text ++ [] by simp) (text_bounds p) hparse
        (by simpa using hpre) hp).1
      simpa using hplain

/-- a text that is one packet is read as one frame -/
theorem parse_text {p : ClientPacket} {fs : List SocketIOFrame} (h : List.Forall₂ Reads [p.text] fs) :
    parse p.text = some (.ok fs) := by
  cases h with
  | cons hread hnil =>
    cases hnil
    exact parse_of_reads hread (digit_isSome_ne (by simp [typeChar_digit])).2.2.2

/-- the frames of leading packets that are plain come first -/
theorem prefix_of_leads {ps : List ClientPacket} {data : JString} (hlead : Leads ps data) (hfits : Fits data)
    {total : List SocketIOFrame} (hparse : parse data = some (.ok total)) (h : ∀ p ∈ ps, p.Plain) :
    ∃ fs, List.Forall₂ ClientPacket.Decoded ps fs ∧ fs <+: total := by
  obtain ⟨fs, hreads, hdecs⟩ := reads_all h
  refine ⟨fs, hdecs, ?_⟩
  rcases hlead with ⟨rest, hdata⟩ | ⟨p, rfl, rfl⟩
  · have hloop := parseLoop_announced hreads [] rest (by simpa using hdata) hfits (data.length + 1) []
    have hmore := parseLoop_mono hparse (Nat.le_add_left _ (ps.map ClientPacket.text).length)
    rw [List.length_nil, Nat.cast_zero, hmore] at hloop
    exact parseLoop_extends hloop.symm
  · obtain rfl : total = fs := by
      rw [parse_text hreads] at hparse
      exact (Except.ok.inj (Option.some.inj hparse)).symm
    exact List.prefix_refl _

/-- **Decoding the client's payload.** The decoder returns exactly one frame per packet, in order, each with the packet's
type, endpoint and data, exactly when every packet of the payload is plain. -/
theorem parse_payload_iff {ps : List ClientPacket} (hne : ps ≠ []) (hfits : Fits (encodePayload ps)) :
    (∃ fs, parse (encodePayload ps) = some (.ok fs) ∧ List.Forall₂ ClientPacket.Decoded ps fs) ↔
      ∀ p ∈ ps, p.Plain := by
  constructor
  · rintro ⟨fs, hparse, hdec⟩
    exact plain_of_leads leads_payload hfits hparse (List.prefix_refl fs) hdec
  · intro h
    obtain ⟨fs, hreads, hdecs⟩ := reads_all h
    refine ⟨fs, ?_, hdecs⟩
    rcases encodePayload_cases hne with ⟨p, rfl, hp⟩ | hbatch
    · rw [hp]; exact parse_text hreads
    · rw [hbatch] at hfits ⊢; exact parse_batch hreads hfits

def clientPackets : List ClientPacket :=
  [⟨5, str "12", false, str "/chat", some (str "\x7b\x7d"), by decide, by decide, by decide⟩,
    ⟨3, [], true, [], some (str "a:b"), by decide, by decide, by decide⟩]

theorem parse_payload_packets :
    ∃ fs, parse (encodePayload clientPackets) = some (.ok fs) ∧ List.Forall₂ ClientPacket.Decoded clientPackets fs :=
  (parse_payload_iff (by decide) (by unfold Fits; decide)).2 <| List.forall_mem_cons.2
    ⟨⟨by decide, by decide, by decide⟩, List.forall_mem_singleton.2 ⟨by decide, by decide, by decide⟩⟩

/-- **A packet without data**: the connect packet "1::" comes back with the data "1::". -/
theorem connect_packet_misread :
    ¬ ∃ fs, parse (encodePayload [⟨1, [], false, [], none, by decide, by decide, by decide⟩]) = some (.ok fs) ∧
      List.Forall₂ ClientPacket.Decoded [⟨1, [], false, [], none, by decide, by decide, by decide⟩] fs := by
  rintro ⟨fs, hparse, hdec⟩
  exact absurd ((plain_of_leads leads_payload (by unfold Fits; decide) hparse (List.prefix_refl fs) hdec) _
    List.mem_cons_self).data (by decide)

/-- **When `parse` returns the leading well-formed packets.** Its loop ends and it returns a list that starts with the
frames of the packets that lead the text, exactly when every part of the text up to its end or to a part with type digit
nine is readable, and the leading packets are plain. -/
theorem parse_leading_iff {data : JString} (hfits : Fits data) :
    (∃ fs, parse data = some (.ok fs) ∧
        ∀ ps, Leads ps data → ∃ gs, List.Forall₂ ClientPacket.Decoded ps gs ∧ gs <+: fs) ↔
      Readable data 0 ∧ ∀ ps, Leads ps data → ∀ p ∈ ps, p.Plain := by
  constructor
  · rintro ⟨fs, hparse, hlead⟩
    refine ⟨(parse_returns_iff data).1 ⟨fs, hparse⟩, fun ps hps => ?_⟩
    obtain ⟨gs, hdec, hpre⟩ := hlead ps hps
    exact plain_of_leads hps hfits hparse hpre hdec
  · rintro ⟨hread, hplain⟩
    obtain ⟨fs, hparse⟩ := (parse_returns_iff data).2 hread
    exact ⟨fs, hparse, fun ps hps => prefix_of_leads hps hfits hparse (hplain ps hps)⟩

/-- the only packet that reads "3:::hi" is plain -/
theorem plain_of_text {p : ClientPacket} (h : str "3:::hi" = p.text) : p.Plain := by
  have hlit : str "3:::hi" = 0x33 :: SEPERATOR_CHAR :: SEPERATOR_CHAR :: SEPERATOR_CHAR :: str "hi" := by decide
  rw [hlit] at h
  simp only [text, List.cons_append, List.cons.injEq, true_and] at h
  have hid : p.idField = [] := by
    by_contra hne
    obtain ⟨x, xs, hx⟩ := List.exists_cons_of_ne_nil hne
    rw [hx, List.cons_append, List.cons_append, List.cons.injEq] at h
    exact idField_free p (by rw [hx, ← h.2.1]; exact List.mem_cons_self)
  have hep : p.endpoint = [] := by
    by_contra hne
    obtain ⟨x, xs, hx⟩ := List.exists_cons_of_ne_nil hne
    rw [hid, hx, List.nil_append, List.cons_append, List.cons.injEq, List.cons_append, List.cons.injEq] at h
    exact endpoint_colon_free p (by rw [hx, ← h.2.2.1]; exact List.mem_cons_self)
  refine ⟨?_, by simp [hep], fun _ => (List.append_eq_nil_iff.1 hid).1⟩
  cases hd : p.data with
  | none => simp [hid, hep, hd] at h
  | some d => rfl

theorem parse_leading_message :
    ∃ fs, parse (str "3:::hi") = some (.ok fs) ∧
      ∀ ps, Leads ps (str "3:::hi") → ∃ gs, List.Forall₂ ClientPacket.Decoded ps gs ∧ gs <+: fs :=
  (parse_leading_iff (by unfold Fits; decide)).2
    ⟨(parse_returns_iff _).1 ⟨[⟨.message, TEXT_MESSAGE_TYPE, [], str "hi"⟩], by decide⟩, fun ps hps p hp => by
      rcases hps with ⟨rest, h⟩ | ⟨q, rfl, h⟩
      · obtain ⟨q, qs, rfl⟩ := List.exists_cons_of_ne_nil (List.ne_nil_of_mem hp)
        exact absurd (congrArg List.head? h) (by simp [announce, str, MESSAGE_SEPARATOR])
      · rw [List.mem_singleton.1 hp]; exact plain_of_text h⟩

/-- a batch whose first packet is plain, with one stray char after it -/
def strayEnd : JString := announce (str "3:::hi") ++ str "x"

/-- **An exception loses the frames already read**: a well-formed packet leads the text, and `parse` raises a
`NumberFormatException` at the stray char after it. -/
theorem stray_char_raises :
    Terminates strayEnd ∧ parse strayEnd = some (.error .numberFormat) ∧
      ¬ ∃ fs, parse strayEnd = some (.ok fs) ∧
        ∀ ps, Leads ps strayEnd → ∃ gs, List.Forall₂ ClientPacket.Decoded ps gs ∧ gs <+: fs := by
  have h : parse strayEnd = some (.error .numberFormat) := by decide
  refine ⟨⟨3, by decide⟩, h, ?_⟩
  rintro ⟨fs, hfs, -⟩
  rw [h] at hfs
  cases hfs

end SocketIOJava.FrameCodec
