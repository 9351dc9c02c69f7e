/-
The namespace that a CONNECT packet asks for.

A client that wants the namespace `e` sends `1::e`, or `1::e:q` with a query string. `SocketIOFrame.parse` leaves the
whole packet in the frame's data where there is no data field, and only the data field otherwise; `onMessage` takes what
stands after the last colon of that.

- `joined_iff`: a session takes exactly the text after the last colon of the frame's data as its namespace: it is the
  handler's, the inbound gets it, and the answer is sent under it.
- `connect_joins_iff`: so a packet without a query string gives the namespace that it asks for, and one with a query
  string only where the query string repeats it at its end.
-/
import SocketIOJava.FrameCodec
import SocketIOJava.Receiving

namespace SocketIOJava.Namespace

open Program SocketIOJava.Text SocketIOJava.Frame SocketIOJava.FrameCursor SocketIOJava.Session SocketIOJava.Run
open SocketIOJava.Traversal SocketIOJava.Receiving
open SocketIOJava.JettyTraversal (Adds Outward Unseen)

variable {η : Type} {s : St η} {n : ℕ} {f : SocketIOFrame}

/-! ## The last colon -/

/-- a text without the char, or with a last occurrence of it -/
theorem split_last (c : JChar) (s : JString) : c ∉ s ∨ ∃ p t, s = p ++ c :: t ∧ c ∉ t := by
  induction s with
  | nil => exact .inl List.not_mem_nil
  | cons d s ih =>
    rcases ih with h | ⟨p, t, rfl, ht⟩
    · by_cases hd : d = c
      · exact .inr ⟨[], s, by rw [hd]; rfl, h⟩
      · exact .inl fun hmem => (List.mem_cons.1 hmem).elim (fun heq => hd heq.symm) h
    · exact .inr ⟨d :: p, t, rfl, ht⟩

theorem findIdx?_none {c : JChar} {s : JString} (h : c ∉ s) : s.findIdx? (· == c) = none := by
  refine List.findIdx?_eq_none_iff.2 fun x hx => ?_
  simpa using fun heq : x = c => h (heq ▸ hx)

theorem lastIndexOf_free {c : JChar} {s : JString} (h : c ∉ s) : lastIndexOf s c = -1 := by
  unfold lastIndexOf
  rw [findIdx?_none fun hmem => h (List.mem_reverse.1 hmem)]

theorem lastIndexOf_append {c : JChar} (p : JString) {t : JString} (h : c ∉ t) : lastIndexOf (p ++ c :: t) c = p.length := by
  have hreverse : (p ++ c :: t).reverse = t.reverse ++ c :: p.reverse := by simp
  have hfind : (t.reverse ++ c :: p.reverse).findIdx? (· == c) = some t.length := by
    rw [List.findIdx?_append, findIdx?_none fun hmem => h (List.mem_reverse.1 hmem)]
    simp [List.findIdx?_cons]
  unfold lastIndexOf
  rw [hreverse, hfind]
  simp only [List.length_append, List.length_cons]
  omega

theorem namespaceOf_free {d : JString} (h : SEPERATOR_CHAR ∉ d) : namespaceOf d = d := by
  unfold namespaceOf
  rw [lastIndexOf_free h]
  rfl

theorem namespaceOf_append (p : JString) {t : JString} (h : SEPERATOR_CHAR ∉ t) : namespaceOf (p ++ SEPERATOR_CHAR :: t) = t := by
  unfold namespaceOf
  rw [lastIndexOf_append p h, show ((p.length : ℤ) + 1).toNat = p.length + 1 by omega, List.drop_append]
  simp

/-- **The text after the last colon** is a given one without colons -/
theorem namespaceOf_eq_iff {e d : JString} (he : SEPERATOR_CHAR ∉ e) :
    namespaceOf d = e ↔ d = e ∨ SEPERATOR_CHAR :: e <:+ d := by
  rcases split_last SEPERATOR_CHAR d with h | ⟨p, t, rfl, ht⟩
  · rw [namespaceOf_free h]
    refine ⟨.inl, fun hor => hor.resolve_right fun hsuffix => ?_⟩
    exact h (hsuffix.subset List.mem_cons_self)
  · rw [namespaceOf_append p ht]
    constructor
    · rintro rfl
      exact .inr ⟨p, rfl⟩
    · rintro (rfl | ⟨p', hp'⟩)
      · exact absurd (List.mem_append_right p List.mem_cons_self) he
      · have hlast := congrArg namespaceOf hp'
        rw [namespaceOf_append p' he, namespaceOf_append p ht] at hlast
        exact hlast.symm

/-! ## The packet -/

/-- `1::e`, or `1::e:q` with a query string -/
def connectText (e : JString) (q : Option JString) : JString :=
  str "1::" ++ e ++ match q with
    | none => []
    | some q => SEPERATOR_CHAR :: q

/-- the data that `parse` leaves in the frame -/
def connectData (e : JString) (q : Option JString) : JString := q.getD (connectText e none)

/-- without a query string there is no data field, and the frame's data is the whole packet -/
theorem parse_connect_plain {e : JString} (he : SEPERATOR_CHAR ∉ e) :
    parse (connectText e none) = some (.ok [⟨.connect, JSON_MESSAGE_TYPE, [], connectText e none⟩]) := by
  have htext : connectText e none = 0x31 :: 0x3A :: 0x3A :: e := by
    unfold connectText
    rw [List.append_nil]
    rfl
  rw [htext]
  let data : JString := 0x31 :: 0x3A :: 0x3A :: e
  have hid : idEnd data 0 = 2 := indexOf_eq [0x31, 0x3A] e rfl rfl List.not_mem_nil
  have hend : endpointEnd data 0 = -1 := by
    unfold endpointEnd
    rw [hid]
    unfold indexOf
    rw [show data.drop ((2 : ℤ) + 1).toNat = e from rfl, findIdx?_none he]
  have hturn : parseTurn data 0 = .ok (some (⟨.connect, JSON_MESSAGE_TYPE, [], data⟩, data.length)) := by
    refine parseTurn_frame_iff.2 ⟨0, 1, .rest 0x31 rfl (by decide) rfl rfl, ⟨0x31, rfl, by decide⟩, by decide, ?_, ?_, ?_⟩
    · exact .inl (by rw [hid]; decide)
    · rw [dataStart, hend]
      exact ⟨by omega, le_refl _⟩
    · unfold frameAt endpointText
      rw [dataStart, hend, hid]
      simp only [SocketIOFrame.mk.injEq]
      refine ⟨rfl, rfl, rfl, ?_⟩
      simp
  apply parse_eq_of_parseLoop (n := 2)
  rw [parseLoop_turn hturn]
  simp only [parseLoop, gt_iff_lt, lt_self_iff_false, if_false, List.nil_append]
  rfl

/-- with a query string the frame's data is the query string -/
theorem parse_connect_query {e : JString} (he : SEPERATOR_CHAR ∉ e) (q : JString) :
    ∃ endpoint, parse (connectText e (some q)) = some (.ok [⟨.connect, JSON_MESSAGE_TYPE, endpoint, q⟩]) := by
  have hfields : connectText e (some q) = FrameCodec.fields 0x31 0x3A [] e q := by
    simp only [connectText, FrameCodec.fields, List.append_assoc]
    rfl
  have hdigit : digit 0x31 = some 1 := by decide
  have hreads : FrameCodec.Reads (FrameCodec.fields 0x31 0x3A [] e q) _ :=
    FrameCodec.reads_fields hdigit (by decide) List.not_mem_nil he (.inl (by decide))
  rw [hfields]
  exact ⟨_, FrameCodec.parse_of_reads hreads (by decide)⟩

/-- **A CONNECT packet is read as one CONNECT frame.** -/
theorem parse_connect {e : JString} (he : SEPERATOR_CHAR ∉ e) (q : Option JString) :
    ∃ f, parse (connectText e q) = some (.ok [f]) ∧ f.frameType = .connect ∧ f.data = connectData e q := by
  cases q with
  | none => exact ⟨_, parse_connect_plain he, rfl, rfl⟩
  | some q =>
    obtain ⟨endpoint, hparse⟩ := parse_connect_query he q
    exact ⟨_, hparse, rfl, rfl⟩

/-- the query string is absent, or has the namespace as its end -/
def Repeats (e : JString) (q : Option JString) : Prop := ∀ x, q = some x → x = e ∨ SEPERATOR_CHAR :: e <:+ x

theorem namespaceOf_connectData {e : JString} (he : SEPERATOR_CHAR ∉ e) (q : Option JString) :
    namespaceOf (connectData e q) = e ↔ Repeats e q := by
  cases q with
  | none =>
    refine iff_of_true ?_ nofun
    have htext : connectData e none = [0x31, SEPERATOR_CHAR] ++ SEPERATOR_CHAR :: e := by
      change str "1::" ++ e ++ [] = _
      rw [List.append_nil]
      rfl
    rw [htext]
    exact namespaceOf_append _ he
  | some q =>
    rw [show connectData e (some q) = q from rfl, namespaceOf_eq_iff he]
    constructor
    · rintro h x ⟨⟩
      exact h
    · intro h
      exact h q rfl

/-! ## The session takes a namespace -/

/-- the namespaces that the inbound was given, latest first -/
def seesNamespace : Entry → Option JString
  | .called (.setNamespace a) => some a
  | _ => none

def namespaces (log : List Entry) : List JString := log.filterMap seesNamespace

theorem not_seesNamespace {e : Entry} (he : Outward e) : seesNamespace e = none := by
  cases e with
  | called c =>
    cases c with
    | setNamespace _ => exact he.elim
    | _ => rfl
  | _ => rfl

/-- a handler's field for the namespace: `setNamespace` assigns it and nothing else does -/
structure Named (η : Type) [TransportHandler η] (endpoint : η → JString) : Prop where
  setNamespace : ∀ a (s : St η), ∃ h, TransportHandler.setNamespace a s = (.ok (), { s with handler := h }) ∧ endpoint h = a
  calls : ∀ n, Calls (fun s s' : St η => endpoint s'.handler = endpoint s.handler) (app n)
  adds : ∀ n, Calls (Adds Outward) (app n : Callback η)

instance {endpoint : η → JString} : Std.Refl fun s s' : St η => endpoint s'.handler = endpoint s.handler := ⟨fun _ => rfl⟩

instance {endpoint : η → JString} : IsTrans (St η) fun s s' => endpoint s'.handler = endpoint s.handler :=
  ⟨fun _ _ _ h h' => h'.trans h⟩

theorem endpoint_of_aside {endpoint : η → JString} (s s' : St η) (h : Aside s s') :
    endpoint s'.handler = endpoint s.handler := congrArg endpoint h.fields

theorem named_http : Named JettyContinuation.Handler JettyContinuation.JettyContinuationTransportHandler.endpoint where
  setNamespace _ _ := ⟨_, rfl, rfl⟩
  adds := JettyTraversal.Http.adds_calls
  calls n := by
    induction n using Nat.strong_induction_on with
    | _ n ih =>
      refine JettyTraversal.Http.Wire.calls { moves_aside endpoint_of_aside ih with
        expired := along_onDisconnect_aside endpoint_of_aside ih _, update := fun _ _ _ h => h, release := fun _ => rfl
        startHeartbeat := fun s => ?_, frame := fun _ _ _ => rfl, wrote := fun _ _ _ => rfl, completed := fun _ => rfl }
      obtain ⟨e, t, heq⟩ := startHeartbeatTimer_eq s
      rw [heq]

theorem named_socket : Named JettyWebSocket.Handler JettyWebSocket.JettyWebSocketTransportHandler.endpoint where
  setNamespace _ _ := ⟨_, rfl, rfl⟩
  adds := JettyTraversal.Socket.adds_calls
  calls n := by
    induction n using Nat.strong_induction_on with
    | _ n ih =>
      refine JettyTraversal.Socket.Wire.calls { moves_aside endpoint_of_aside ih with
        frame := fun _ _ _ => rfl, wrote := fun _ _ _ => rfl, setOutbound := fun _ _ => rfl }

/-- after `onMessage(f)` the namespace is `e`: it is the handler's, the inbound was given it, and the CONNECT frame that
answers is passed to a handler that encodes with it -/
structure Joined [TransportHandler η] (endpoint : η → JString) (n : ℕ) (e : JString) (f : SocketIOFrame) (s : St η) : Prop where
  handler : endpoint (Session.onMessage (app n) f s).2.handler = e
  inbound : namespaces (Session.onMessage (app n) f s).2.log = (if e = [] then str "/" else e) :: namespaces s.log
  answer : ∃ t, replyOf (app n) f s = some (.new .connect 0 [], t) ∧ endpoint t.handler = e

section

variable [TransportHandler η] {endpoint : η → JString} (named : Named η endpoint)
include named

/-- **A session's namespace** is what stands after the last colon of the frame's data. -/
theorem joined_iff {e : JString} (hf : f.frameType = .connect) (hh : s.session.handler = true)
    (hi : s.session.inbound = true) : Joined endpoint n e f s ↔ namespaceOf f.data = e := by
  obtain ⟨h, hset, hname⟩ := named.setNamespace (namespaceOf f.data) (s.push (.received f))
  let s₁ : St η := { s.push (.received f) with handler := h }
  let given := inboundNamespace f.data
  have hrun : Session.onMessage (app n) f s = (do let _ ← app n (.setNamespace given); onConnectData (app n) [] : M η Unit) s₁ :=
    (onMessage_connect_eq (app n) hf hh hset).trans (derefInbound_bind (s := s₁) hi _)
  have hreply := replyOf_connect (app n) hf hi hset
  -- neither the callback nor the answer changes the handler's namespace
  have hcalled := along_app_aside endpoint_of_aside (fun m _ => named.calls m) (n := n) (.setNamespace given)
  have hanswered : Along (fun s s' : St η => endpoint s'.handler = endpoint s.handler) (onConnectData (app n) []) :=
    fun _ => sendOrAbort_related (fun _ => (named.calls n).send _ _ (sendable_connect 0 [])) (named.calls n).abort
  have hfinal : endpoint (Session.onMessage (app n) f s).2.handler = namespaceOf f.data := by
    rw [hrun]
    exact (hcalled.bind (fun _ => hanswered) s₁).trans hname
  have hanswer : endpoint (app n (.setNamespace given) s₁).2.handler = namespaceOf f.data := (hcalled s₁).trans hname
  -- of the callback, only its own call gives the inbound a namespace
  have hnamespaces : namespaces (Session.onMessage (app n) f s).2.log = given :: namespaces s.log := by
    have hbehave : Along (Unseen seesNamespace) (behave n : M η (List JString)) :=
      (along_behave fun m _ => named.adds m).mono fun _ _ hadds => hadds.unseen fun _ => not_seesNamespace
    have hunseen : Along (Unseen seesNamespace) (onConnectData (app n) [] : M η Unit) := by
      have hadds : Along (Adds Outward) (onConnectData (app n) [] : M η Unit) := fun _ =>
        sendOrAbort_related (fun _ => (named.adds n).send _ _ (sendable_connect 0 [])) (named.adds n).abort
      exact hadds.mono fun _ _ hadds => hadds.unseen fun _ => not_seesNamespace
    have hgiven : namespaces (app n (.setNamespace given) s₁).2.log = given :: namespaces s.log :=
      JettyTraversal.filterMap_app hbehave rfl s₁
    rw [hrun]
    rcases hr : app n (.setNamespace given) s₁ with ⟨r, t⟩
    rw [hr] at hgiven
    cases r with
    | ok names => rw [bind_of_ok hr]; exact (hunseen t).trans hgiven
    | error e => rw [bind_of_error hr]; exact hgiven
  constructor
  · intro hjoined
    exact hfinal.symm.trans hjoined.handler
  · rintro rfl
    refine ⟨hfinal, ?_, _, hreply, hanswer⟩
    rw [hnamespaces]
    unfold given inboundNamespace
    by_cases hempty : namespaceOf f.data = []
    · rw [if_pos hempty, if_pos (by rw [hempty]; rfl)]
    · rw [if_neg hempty, if_neg fun hlength => hempty (List.eq_nil_of_length_eq_zero hlength)]

/-- a CONNECT packet, parsed and handled -/
theorem packet_joined_iff {e : JString} (he : SEPERATOR_CHAR ∉ e) (q : Option JString) (hh : s.session.handler = true)
    (hi : s.session.inbound = true) :
    (∃ f, parse (connectText e q) = some (.ok [f]) ∧ Joined endpoint n e f s) ↔ Repeats e q := by
  obtain ⟨f, hparse, hf, hdata⟩ := parse_connect he q
  rw [← namespaceOf_connectData he, ← hdata, ← joined_iff named (n := n) hf hh hi]
  constructor
  · rintro ⟨g, hg, hjoined⟩
    cases hparse.symm.trans hg
    exact hjoined
  · intro hjoined
    exact ⟨f, hparse, hjoined⟩

end

/-- **A namespace CONNECT**, with either handler: the session takes the namespace that the packet asks for exactly if the
packet has no query string, or one that ends with the namespace (after a colon, or as a whole). -/
theorem connect_joins_iff (n : ℕ) (e : JString) (q : Option JString) (he : SEPERATOR_CHAR ∉ e ∧ MESSAGE_SEPARATOR ∉ e) :
    (∀ s : St JettyWebSocket.Handler, s.session.handler = true → s.session.inbound = true →
      ((∃ f, parse (connectText e q) = some (.ok [f]) ∧
        Joined JettyWebSocket.JettyWebSocketTransportHandler.endpoint n e f s) ↔ Repeats e q)) ∧
    ∀ s : St JettyContinuation.Handler, s.session.handler = true → s.session.inbound = true →
      ((∃ f, parse (connectText e q) = some (.ok [f]) ∧
        Joined JettyContinuation.JettyContinuationTransportHandler.endpoint n e f s) ↔ Repeats e q) :=
  ⟨fun _ => packet_joined_iff named_socket he.1 q, fun _ => packet_joined_iff named_http he.1 q⟩

/-- a client that asks for `/chat` without a query string gets it -/
theorem joins_chat :
    ∃ f, parse (str "1::/chat") = some (.ok [f]) ∧
      Joined JettyContinuation.JettyContinuationTransportHandler.endpoint 1 (str "/chat") f polled :=
  ((connect_joins_iff 1 (str "/chat") none (by decide)).2 polled rfl rfl).2 nofun

/-- a client that asks for `/chat` with a query string is put into the namespace `?x=1` -/
theorem query_taken_as_namespace :
    parse (str "1::/chat:?x=1") = some (.ok [⟨.connect, 1, str "/chat", str "?x=1"⟩]) ∧
      ¬ Joined JettyContinuation.JettyContinuationTransportHandler.endpoint 1 (str "/chat")
        ⟨.connect, 1, str "/chat", str "?x=1"⟩ polled ∧
      (Session.onMessage (app 1) ⟨.connect, 1, str "/chat", str "?x=1"⟩ polled).2.handler.endpoint = str "?x=1" := by
  have hendpoint : (Session.onMessage (app 1) ⟨.connect, 1, str "/chat", str "?x=1"⟩ polled).2.handler.endpoint =
      str "?x=1" := by decide +kernel
  refine ⟨by decide +kernel, fun hjoined => ?_, hendpoint⟩
  exact absurd (hendpoint.symm.trans hjoined.handler) (by decide)

end SocketIOJava.Namespace
