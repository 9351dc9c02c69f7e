/-
The frames of the application's calls on its outbound.

`emitMessage` puts an event's text together from the key and the message as they are, `sendMessage(messageType, message)`
tells an event from another JSON message by its first chars.

- `encoded_iff`: the frame of a call has the kind and the payload of the call exactly if a JSON message does not begin
  like an event, and the key and the message of an event need no escape, or the message is an object or an array from its
  first char on.
-/
import SocketIOJava.JsonText

namespace SocketIOJava.OutboundFrames

open Program SocketIOJava.Text SocketIOJava.Frame SocketIOJava.Session SocketIOJava.Run SocketIOJava.EventText
open SocketIOJava.JsonText

/-! ## The text of an event -/

/-- the object that an event with this key and this argument is -/
def eventOf (key : JString) (argument : Json) : Json := .object [(str "name", .string key), (str "args", .array [argument])]

theorem eventHead_eq : eventHead = LBRACE :: QUOTE :: (str "name" ++ [QUOTE, COLON, QUOTE]) := by decide

theorem eventMiddle_eq : eventMiddle = QUOTE :: COMMA :: QUOTE :: (str "args" ++ [QUOTE, COLON, LBRACKET]) := by decide

theorem eventEnd_eq : eventEnd = [RBRACKET, RBRACE] := by decide

theorem clean_name : Clean (str "name") := by decide

theorem clean_args : Clean (str "args") := by decide

/-- a key that needs no escape, and an argument -/
theorem denotes_event {key a text b : JString} {v : Json} (hkey : Clean key) (ha : White a) (hv : Value v text)
    (hb : White b) :
    Denotes (eventHead ++ (key ++ (eventMiddle ++ (a ++ text ++ b ++ eventEnd)))) (eventOf key v) := by
  have hargs : Members [(str "args", .array [v])]
      ([] ++ QUOTE :: (str "args" ++ QUOTE :: ([] ++ COLON :: ([] ++ (LBRACKET :: (a ++ text ++ b ++ [RBRACKET])) ++ [])))) :=
    .last white_nil (chars_of_clean clean_args) white_nil white_nil (.array (.last ha hv hb)) white_nil
  have hmembers : Members [(str "name", .string key), (str "args", .array [v])] _ :=
    .more white_nil (chars_of_clean clean_name) white_nil white_nil (.string (chars_of_clean hkey)) white_nil hargs
  refine ⟨[], _, [], white_nil, .object hmembers, white_nil, ?_⟩
  rw [eventHead_eq, eventMiddle_eq, eventEnd_eq]
  simp only [List.append_assoc, List.cons_append, List.nil_append, List.append_nil]

/-- **What can be read as an event** was put together from a key that needs no escape, and ends with the argument. -/
theorem event_denoted {key tail : JString} {v : Json}
    (h : Denotes (eventHead ++ (key ++ (eventMiddle ++ tail))) (eventOf key v)) :
    Clean key ∧ ∃ a text after, White a ∧ Value v text ∧ tail = a ++ (text ++ after) := by
  obtain ⟨a, value, b, ha, hvalue, -, htext⟩ := h
  rw [eventHead_eq, eventMiddle_eq] at htext
  simp only [List.append_assoc, List.cons_append, List.nil_append] at htext
  replace htext := ha.align htext.symm (by decide)
  cases hvalue with
  | object hmembers =>
    cases hmembers with
    | more ha₁ hname hb₁ hc₁ hkey hd₁ hrest =>
      cases hrest with
      | more _ _ _ _ _ _ hnone => cases hnone
      | last ha₂ hargs hb₂ hc₂ harray hd₂ =>
        simp only [List.append_assoc, List.cons_append, List.nil_append, List.cons.injEq, true_and] at htext
        -- the first member's key, and the string that is its value
        have hfirst := (List.cons.inj (ha₁.align htext (by decide))).2
        obtain ⟨-, hcolon⟩ := token_clean hname clean_name hfirst
        have hvalue := hc₁.align (List.cons.inj (hb₁.align hcolon (by decide))).2 (by decide)
        obtain ⟨raw, hraw, rfl⟩ := hkey.head_string
        simp only [List.append_assoc, List.cons_append, List.nil_append, List.cons.injEq, true_and] at hvalue
        have hclean := token_key hraw hvalue
        obtain ⟨-, hcomma⟩ := token_clean hraw hclean hvalue
        -- the second one, an array
        have hsecond := (List.cons.inj (hd₁.align hcomma (by decide))).2
        obtain ⟨-, hcolon₂⟩ := token_clean hargs clean_args (List.cons.inj (ha₂.align hsecond (by decide))).2
        have htail := hc₂.align (List.cons.inj (hb₂.align hcolon₂ (by decide))).2 (by decide)
        cases harray with
        | array helements =>
          cases helements with
          | more _ _ _ hnone => cases hnone
          | last ha₃ hv hb₃ =>
            simp only [List.append_assoc, List.cons_append, List.nil_append, List.cons.injEq, true_and] at htail
            exact ⟨hclean, _, _, _, ha₃, hv, htail.symm⟩

/-- the message of `emitMessage` begins like an object or an array -/
def Braced (m : JString) : Prop := str "\x7b" <+: m ∨ str "[" <+: m

instance : DecidablePred Braced := fun m => inferInstanceAs (Decidable (str "\x7b" <+: m ∨ str "[" <+: m))

/-- the message is the JSON text of an object or an array -/
def IsContainer (m : JString) : Prop := ∃ v, Container v ∧ Denotes m v

/-- what the text of an event has to be: its argument is the value of the message if that is the text of an object or an
array, and the message as a string otherwise -/
def EventData (key m data : JString) : Prop :=
  (∀ v, Container v → Denotes m v → Denotes data (eventOf key v)) ∧
    (¬ IsContainer m → Denotes data (eventOf key (.string m)))

/-- the key and the message can be put into the text as they are -/
def Insertable (key m : JString) : Prop :=
  Clean key ∧ if Braced m then IsContainer m else Clean m ∧ ¬ IsContainer m

theorem emitText_braced {key m : JString} (h : Braced m) :
    emitText key m = eventHead ++ (key ++ (eventMiddle ++ (m ++ eventEnd))) := by
  have hprefix : (str "\x7b").isPrefixOf m = true ∨ (str "[").isPrefixOf m = true :=
    h.imp List.isPrefixOf_iff_prefix.2 List.isPrefixOf_iff_prefix.2
  unfold emitText
  rw [if_pos hprefix]
  simp only [List.append_assoc]

theorem emitText_quoted {key m : JString} (h : ¬ Braced m) :
    emitText key m = eventHead ++ (key ++ (eventMiddle ++ (QUOTE :: (m ++ QUOTE :: eventEnd)))) := by
  have hprefix : ¬ ((str "\x7b").isPrefixOf m = true ∨ (str "[").isPrefixOf m = true) := fun hp =>
    h (hp.imp List.isPrefixOf_iff_prefix.1 List.isPrefixOf_iff_prefix.1)
  unfold emitText
  rw [if_neg hprefix]
  simp only [List.append_assoc, List.cons_append, List.nil_append]

theorem Braced.head {m : JString} (h : Braced m) : ∃ c rest, m = c :: rest ∧ (c = LBRACE ∨ c = LBRACKET) := by
  rcases h with ⟨rest, rfl⟩ | ⟨rest, rfl⟩
  · exact ⟨LBRACE, rest, rfl, .inl rfl⟩
  · exact ⟨LBRACKET, rest, rfl, .inr rfl⟩

/-- a message that begins with a brace or a bracket is put in as it is -/
theorem eventData_braced_iff {key m : JString} (h : Braced m) :
    EventData key m (emitText key m) ↔ Clean key ∧ IsContainer m := by
  rw [emitText_braced h]
  constructor
  · rintro ⟨hcontainer, hstring⟩
    by_cases hm : IsContainer m
    · obtain ⟨v, hv, hdenotes⟩ := hm
      exact ⟨(event_denoted (hcontainer v hv hdenotes)).1, v, hv, hdenotes⟩
    · -- the argument would begin with a quote
      obtain ⟨-, a, text, after, ha, hv, htail⟩ := event_denoted (hstring hm)
      obtain ⟨c, rest, rfl, hc⟩ := h.head
      obtain ⟨raw, -, rfl⟩ := hv.head_string
      have hwhite : ¬ IsWhite c := by rcases hc with rfl | rfl <;> decide
      have hquote : c = QUOTE := (List.cons.inj (ha.align htail.symm hwhite)).1.symm
      rcases hc with rfl | rfl
      · exact absurd hquote (by decide)
      · exact absurd hquote (by decide)
  · rintro ⟨hkey, hm⟩
    refine ⟨fun v _ hdenotes => ?_, fun hnot => absurd hm hnot⟩
    obtain ⟨a, text, b, ha, hv, hb, rfl⟩ := hdenotes
    exact denotes_event hkey ha hv hb

/-- any other message is put in between quotes -/
theorem eventData_quoted_iff {key m : JString} (h : ¬ Braced m) :
    EventData key m (emitText key m) ↔ Clean key ∧ Clean m ∧ ¬ IsContainer m := by
  rw [emitText_quoted h]
  constructor
  · rintro ⟨hcontainer, hstring⟩
    have hm : ¬ IsContainer m := by
      rintro ⟨v, hv, hdenotes⟩
      -- the argument would begin with a brace or a bracket
      obtain ⟨-, a, text, after, ha, htext, htail⟩ := event_denoted (hcontainer v hv hdenotes)
      have hquote := ha.align htail.symm (by decide)
      obtain ⟨rest, rfl | rfl⟩ := htext.head_container hv
      · exact absurd (List.cons.inj hquote).1 (by decide)
      · exact absurd (List.cons.inj hquote).1 (by decide)
    obtain ⟨hkey, a, text, after, ha, hv, htail⟩ := event_denoted (hstring hm)
    obtain ⟨raw, hraw, rfl⟩ := hv.head_string
    have hquoted := ha.align htail.symm (by decide)
    simp only [List.append_assoc, List.cons_append, List.nil_append, List.cons.injEq, true_and] at hquoted
    exact ⟨hkey, token_end hraw (by decide) hquoted, hm⟩
  · rintro ⟨hkey, hclean, hm⟩
    refine ⟨fun v hv hdenotes => absurd ⟨v, hv, hdenotes⟩ hm, fun _ => ?_⟩
    have hevent := denotes_event hkey white_nil (.string (chars_of_clean hclean)) white_nil
    simpa only [List.append_assoc, List.cons_append, List.nil_append, List.append_nil] using hevent

theorem eventData_iff (key m : JString) : EventData key m (emitText key m) ↔ Insertable key m := by
  unfold Insertable
  by_cases h : Braced m
  · rw [if_pos h]
    exact eventData_braced_iff h
  · rw [if_neg h]
    exact eventData_quoted_iff h

/-! ## The frames -/

/-- the frame of `sendMessage(messageType, message)` -/
def typedFrame (messageType : ℤ) (message : JString) : SocketIOFrame :=
  if messageType = TEXT_MESSAGE_TYPE then .new .message messageType message
  else if (str "\x7b\"name\":").isPrefixOf message then .new .event messageType message
  else .new .jsonMessage messageType message

/-- the frame of a call that sends a message -/
def frameOf : OutboundCall → Option SocketIOFrame
  | .sendMessage message => some (typedFrame TEXT_MESSAGE_TYPE message)
  | .sendTyped messageType message => some (typedFrame messageType message)
  | .emitMessage key message => some (typedFrame JSON_MESSAGE_TYPE (emitText key message))
  | .disconnect | .close => none

/-- the frame has the kind and the payload of the call -/
def Encodes (f : SocketIOFrame) : OutboundCall → Prop
  | .sendMessage message => f.frameType = .message ∧ f.data = message
  | .sendTyped messageType message => messageType = JSON_MESSAGE_TYPE → f.frameType = .jsonMessage ∧ f.data = message
  | .emitMessage key message => f.frameType = .event ∧ EventData key message f.data
  | .disconnect | .close => True

/-- the calls whose frames have it -/
def Encodable : OutboundCall → Prop
  | .sendTyped messageType message => messageType = JSON_MESSAGE_TYPE → ¬ str "\x7b\"name\":" <+: message
  | .emitMessage key message => Insertable key message
  | .sendMessage _ | .disconnect | .close => True

/-- a text that `emitMessage` puts together is an event -/
theorem typedFrame_emitText (key m : JString) :
    typedFrame JSON_MESSAGE_TYPE (emitText key m) = .new .event JSON_MESSAGE_TYPE (emitText key m) := by
  have hhead : eventHead = str "\x7b\"name\":" ++ [QUOTE] := by decide
  have hprefix : (str "\x7b\"name\":").isPrefixOf (emitText key m) = true := by
    rw [List.isPrefixOf_iff_prefix]
    by_cases h : Braced m
    · rw [emitText_braced h, hhead, List.append_assoc]
      exact List.prefix_append _ _
    · rw [emitText_quoted h, hhead, List.append_assoc]
      exact List.prefix_append _ _
  unfold typedFrame
  rw [if_neg (by decide), if_pos hprefix]

theorem encodes_iff {c : OutboundCall} {f : SocketIOFrame} (hf : frameOf c = some f) : Encodes f c ↔ Encodable c := by
  cases c with
  | disconnect | close => cases hf
  | sendMessage m =>
    cases hf
    exact iff_of_true ⟨rfl, rfl⟩ trivial
  | sendTyped messageType m =>
    cases hf
    refine imp_congr_right fun htype => ?_
    subst htype
    unfold typedFrame
    rw [if_neg (by decide)]
    by_cases hprefix : str "\x7b\"name\":" <+: m
    · rw [if_pos (List.isPrefixOf_iff_prefix.2 hprefix)]
      exact iff_of_false (fun h => nomatch h.1) fun h => h hprefix
    · rw [if_neg fun h => hprefix (List.isPrefixOf_iff_prefix.1 h)]
      exact iff_of_true ⟨rfl, rfl⟩ hprefix
  | emitMessage key m =>
    cases hf
    rw [typedFrame_emitText]
    have hinsertable := eventData_iff key m
    exact ⟨fun h => hinsertable.1 h.2, fun h => ⟨rfl, hinsertable.2 h⟩⟩

section

variable {η : Type} [TransportHandler η] {cb : Callback η} {s : St η}

theorem sendTyped_open (hopen : (TransportHandler.isOpen : M η Bool) s = (.ok true, s)) (hstate : s.session.state = .connected)
    (messageType : ℤ) (message : JString) :
    sendTyped cb messageType message s = TransportHandler.sendMessage cb (typedFrame messageType message) s := by
  unfold sendTyped
  rw [bind_of_ok hopen, get_bind, if_pos ⟨rfl, hstate⟩]
  rfl

theorem outboundMethod_open (hopen : (TransportHandler.isOpen : M η Bool) s = (.ok true, s))
    (hstate : s.session.state = .connected) {c : OutboundCall} {f : SocketIOFrame} (hf : frameOf c = some f) :
    outboundMethod cb c s = TransportHandler.sendMessage cb f s := by
  cases c with
  | disconnect | close => cases hf
  | sendMessage m => cases hf; exact sendTyped_open hopen hstate _ _
  | sendTyped messageType m => cases hf; exact sendTyped_open hopen hstate _ _
  | emitMessage key m => cases hf; exact sendTyped_open hopen hstate _ _

/-- **The frame of a call** on a CONNECTED session with an open handler reaches `sendMessage(SocketIOFrame)`, and has the
kind and the payload of the call exactly if the call is encodable. -/
theorem encoded_iff (hopen : (TransportHandler.isOpen : M η Bool) s = (.ok true, s)) (hstate : s.session.state = .connected)
    {c : OutboundCall} {f : SocketIOFrame} (hf : frameOf c = some f) :
    outboundMethod cb c s = TransportHandler.sendMessage cb f s ∧ (Encodes f c ↔ Encodable c) :=
  ⟨outboundMethod_open hopen hstate hf, encodes_iff hf⟩

end

/-- an array, on a polling and on a WebSocket session that a request has connected -/
theorem encoded_if_connected :
    let http := run serveHttp (JettyContinuation.created ⟨none, none, none, none⟩ false) [⟨.container .connect, [], []⟩]
    let socket := run serveSocket (JettyWebSocket.created ⟨none, none⟩) [⟨.container .connect, [], []⟩]
    let call := .emitMessage (str "chat") (str "[1, 2]")
    let frame := typedFrame JSON_MESSAGE_TYPE (emitText (str "chat") (str "[1, 2]"))
    (outboundMethod (app 1) call http = TransportHandler.sendMessage (app 1) frame http ∧
        (Encodes frame call ↔ Encodable call)) ∧
      outboundMethod (app 1) call socket = TransportHandler.sendMessage (app 1) frame socket ∧
        (Encodes frame call ↔ Encodable call) := by
  intro http socket call frame
  have hpolling : http.handler.is_open = true := by decide +kernel
  have hconnection : socket.handler.outbound = some ⟨true⟩ := by decide +kernel
  constructor
  · exact encoded_iff ((JettyContinuation.isOpen_eq http).trans (by rw [hpolling])) (by decide +kernel) rfl
  · exact encoded_iff (JettyWebSocket.isOpen_some hconnection) (by decide +kernel) rfl

/-- a message with a quote leaves the string that it is put into, and an object with a first member `name` goes out as an
event -/
theorem quoted_message_misencoded :
    let s := run serveSocket (JettyWebSocket.created ⟨none, none⟩) [⟨.container .connect, [], []⟩]
    let quoted := .emitMessage (str "chat") (str "say \"hi\"")
    let named := .sendTyped JSON_MESSAGE_TYPE (str "\x7b\"name\":1\x7d")
    s.session.state = .connected ∧
      (∃ f, frameOf quoted = some f ∧ outboundMethod (app 1) quoted s = TransportHandler.sendMessage (app 1) f s ∧
        ¬ Encodes f quoted) ∧
      ∃ f, frameOf named = some f ∧ outboundMethod (app 1) named s = TransportHandler.sendMessage (app 1) f s ∧
        ¬ Encodes f named := by
  intro s quoted named
  have hstate : s.session.state = .connected := by decide +kernel
  have hconnection : s.handler.outbound = some ⟨true⟩ := by decide +kernel
  have hopen := JettyWebSocket.isOpen_some hconnection
  refine ⟨hstate, ⟨_, rfl, outboundMethod_open hopen hstate rfl, fun h => ?_⟩,
    _, rfl, outboundMethod_open hopen hstate rfl, fun h => ?_⟩
  · have hclean : Insertable (str "chat") (str "say \"hi\"") := (encodes_iff rfl).1 h
    unfold Insertable at hclean
    rw [if_neg (by decide)] at hclean
    exact absurd hclean.2.1 (by decide)
  · exact (encodes_iff rfl).1 h rfl (by decide)

end SocketIOJava.OutboundFrames
