/-
What a polling session hands over, compared with what was sent.

A frame goes straight to the response of the connect request, to a parked poll, or into the buffer and out with a later
GET. Read off the history: `acceptedText`, the encodings of the frames that `sendMessage` took, in call order, and
`writtenText`, the texts given to `onWriteData`. Before the session is opened `sendMessage` takes nothing. Only `abort`
puts a listener into the buffer, and nothing takes it out again (`Aborted`, `Delivers.aborted`).

- `delivered_in_order`: while no write fails and `abort` has not run, what was written and what is in the buffer make up
  what was sent, and the buffer of a session with a poll is empty.
- `sendMessage_good`: one message, from any state in between; it returns normally exactly if the session was opened.
-/
import SocketIOJava.JettyTraversal

namespace SocketIOJava.PollingDelivery

open Program SocketIOJava.Text SocketIOJava.Frame SocketIOJava.Session SocketIOJava.Buffer SocketIOJava.Run
  SocketIOJava.Traversal JettyContinuation
open SocketIOJava.JettyTraversal.Http (Wire Host Requests)

/-! ## The history -/

def isOpening : Entry → Bool
  | .opened _ => true
  | _ => false

/-- the session was opened -/
def wasOpened (log : List Entry) : Bool := log.any isOpening

/-- the namespace of the last CONNECT frame that an open session received -/
def endpointOf : List Entry → JString
  | [] => []
  | .received f :: past => if f.frameType = .connect ∧ wasOpened past = true then namespaceOf f.data else endpointOf past
  | _ :: past => endpointOf past

/-- the texts given to `onWriteData`, in order -/
def writtenText : List Entry → JString
  | [] => []
  | .wrote data _ :: past => writtenText past ++ data
  | _ :: past => writtenText past

/-- the encodings of the frames passed to `sendMessage` since the session was opened, in order -/
def acceptedText : List Entry → JString
  | [] => []
  | .frame f :: past => if wasOpened past = true then acceptedText past ++ f.encode (endpointOf past) else acceptedText past
  | _ :: past => acceptedText past

/-- all that the delivery of messages reads off the history -/
def views (log : List Entry) : Bool × JString × JString × JString :=
  (wasOpened log, endpointOf log, writtenText log, acceptedText log)

theorem views_received {f : SocketIOFrame} (hf : f.frameType ≠ .connect) (log : List Entry) :
    views (.received f :: log) = views log := by
  have hendpoint : endpointOf (.received f :: log) = endpointOf log := if_neg fun h => hf h.1
  change (wasOpened log, endpointOf (.received f :: log), writtenText log, acceptedText log) = _
  rw [hendpoint]
  rfl

/-- before the session is opened, neither frames nor CONNECTs count -/
theorem views_unopened {log : List Entry} (h : wasOpened log = false) (f : SocketIOFrame) :
    views (.frame f :: log) = views log ∧ views (.received f :: log) = views log := by
  have hno : ¬ wasOpened log = true := by rw [h]; exact Bool.false_ne_true
  have haccepted : acceptedText (.frame f :: log) = acceptedText log := if_neg hno
  have hendpoint : endpointOf (.received f :: log) = endpointOf log := if_neg fun h => hno h.2
  constructor
  · change (wasOpened log, endpointOf log, writtenText log, acceptedText (.frame f :: log)) = _
    rw [haccepted]
    rfl
  · change (wasOpened log, endpointOf (.received f :: log), writtenText log, acceptedText log) = _
    rw [hendpoint]
    rfl

theorem acceptedText_frame {log : List Entry} (h : wasOpened log = true) (f : SocketIOFrame) :
    acceptedText (.frame f :: log) = acceptedText log ++ f.encode (endpointOf log) := if_pos h

/-! ## The states in between -/

/-- `abort` has run -/
def Aborted (s : St Handler) : Prop := s.handler.buffer.listener.isSome = true

/-- the fields that decide what becomes of a message, apart from the continuation -/
def parts (s : St Handler) : Bool × Option BufferListener × List JString × Bool × JString × Bool :=
  (s.handler.persistent, s.handler.buffer.listener, s.handler.buffer.queue, s.handler.is_open, s.handler.endpoint,
    s.session.handler)

/-- Nothing is lost, doubled or out of order: what was written and what is in the buffer make up what was sent. A
continuation, with the property `p` of the moment, has no message waiting. -/
structure Good (p : Continuation → Prop) (s : St Handler) : Prop where
  polling : s.handler.persistent = false
  listener : s.handler.buffer.listener = none
  io : ∀ b ∈ s.io, b = false
  is_open : s.handler.is_open = wasOpened s.log
  attached : s.session.handler = wasOpened s.log
  endpoint : s.handler.endpoint = endpointOf s.log
  unopened : wasOpened s.log = false → s.handler.buffer.queue = []
  waiting : ∀ c, s.handler.continuation = some c → p c ∧ s.handler.buffer.queue = []
  texts : writtenText s.log ++ s.handler.buffer.queue.flatten = acceptedText s.log

variable {p q : Continuation → Prop} {s s' s'' : St Handler}

theorem Good.nextWriteFails (h : Good p s) : s.nextWriteFails = false := nextWriteFails_of_io h.io

theorem Good.congr (h : Good p s) (hparts : parts s' = parts s) (hviews : views s'.log = views s.log)
    (hio : ∀ b ∈ s'.io, b ∈ s.io)
    (hwaiting : ∀ c, s'.handler.continuation = some c → q c ∧ s'.handler.buffer.queue = []) : Good q s' := by
  obtain ⟨hpersistent, hlistener, hqueue, hopen, hendpoint, hattached⟩ := by simpa only [parts, Prod.mk.injEq] using hparts
  obtain ⟨hopened, hnamespace, hwritten, haccepted⟩ := by simpa only [views, Prod.mk.injEq] using hviews
  refine ⟨hpersistent.trans h.polling, hlistener.trans h.listener, fun b hb => h.io b (hio b hb), ?_, ?_, ?_, ?_, hwaiting, ?_⟩
  · rw [hopen, hopened]; exact h.is_open
  · rw [hattached, hopened]; exact h.attached
  · rw [hendpoint, hnamespace]; exact h.endpoint
  · rw [hqueue, hopened]; exact h.unopened
  · rw [hwritten, hqueue, haccepted]; exact h.texts

/-- nothing changes that the delivery of messages depends on -/
structure Same (s s' : St Handler) : Prop where
  parts : parts s' = parts s
  continuation : s'.handler.continuation = s.handler.continuation
  views : views s'.log = views s.log
  io : ∀ b ∈ s'.io, b ∈ s.io

/-- an update of the session, the environment or the timers -/
theorem same_of_handler (hh : s'.handler = s.handler) (ha : s'.session.handler = s.session.handler)
    (hviews : views s'.log = views s.log) (hio : s'.io = s.io) : Same s s' :=
  ⟨by unfold PollingDelivery.parts; rw [hh, ha], by rw [hh], hviews, fun _ hb => hio ▸ hb⟩

theorem same_push {e : Entry} (h : ∀ log, views (e :: log) = views log) (s : St Handler) : Same s (s.push e) :=
  same_of_handler rfl rfl (h s.log) rfl

theorem same_startTimeoutTimer (s : St Handler) : Same s (startTimeoutTimer s) := by
  obtain ⟨e, t, l, heq⟩ := startTimeoutTimer_eq s
  rw [heq]
  exact same_of_handler rfl rfl rfl rfl

theorem same_startHeartbeatTimer (s : St Handler) : Same s (startHeartbeatTimer s) := by
  obtain ⟨e, t, heq⟩ := startHeartbeatTimer_eq s
  rw [heq]
  exact same_of_handler rfl rfl rfl rfl

theorem Same.good (h : Same s s') (hs : Good p s) : Good p s' := by
  refine hs.congr h.parts h.views h.io fun c hc => ?_
  obtain ⟨hp, hqueue⟩ := hs.waiting c (h.continuation ▸ hc)
  exact ⟨hp, (congrArg (·.2.2.1) h.parts).trans hqueue⟩

/-- an abort is for good, and before it nothing is lost -/
structure Delivers (p : Continuation → Prop) (s s' : St Handler) : Prop where
  aborted : Aborted s → Aborted s'
  good : Good p s → Good p s' ∨ Aborted s'

instance : Std.Refl (Delivers p) := ⟨fun _ => ⟨id, .inl⟩⟩

instance : IsTrans (St Handler) (Delivers p) where
  trans _ _ _ := fun h h' =>
    ⟨h'.aborted ∘ h.aborted, fun hs => (h.good hs).elim h'.good fun ha => .inr (h'.aborted ha)⟩

theorem Same.delivers (h : Same s s') : Delivers p s s' := by
  refine ⟨fun ha => ?_, fun hs => .inl (h.good hs)⟩
  have hlistener : s'.handler.buffer.listener = s.handler.buffer.listener := congrArg (·.2.1) h.parts
  exact (congrArg Option.isSome hlistener).trans ha

theorem delivers_of_handler (hh : s'.handler = s.handler) (ha : s'.session.handler = s.session.handler)
    (hviews : views s'.log = views s.log) (hio : s'.io = s.io) : Delivers p s s' := (same_of_handler hh ha hviews hio).delivers

/-! ## An abort is for good -/

/-- whatever happens after an abort, it stays aborted -/
def Latched (s s' : St Handler) : Prop := Aborted s → Aborted s'

instance : Std.Refl Latched := ⟨fun _ => id⟩

instance : IsTrans (St Handler) Latched := ⟨fun _ _ _ h h' => h' ∘ h⟩

theorem latched_of_buffer (h : s'.handler.buffer.listener = s.handler.buffer.listener) : Latched s s' :=
  fun ha => (congrArg Option.isSome h).trans ha

theorem latched_startTimeoutTimer (s : St Handler) : Latched s (startTimeoutTimer s) :=
  ((same_startTimeoutTimer s).delivers (p := fun _ => True)).aborted

theorem latched_startHeartbeatTimer (s : St Handler) : Latched s (startHeartbeatTimer s) :=
  ((same_startHeartbeatTimer s).delivers (p := fun _ => True)).aborted

theorem latched_onDisconnect_app {n : ℕ} (k : ∀ m < n, Calls Latched (app m : Callback Handler)) (reason : DisconnectReason) :
    Along Latched (Session.onDisconnect (app n : Callback Handler) reason) := by
  have hcall : ∀ c, Along Latched (app n c : M Handler (List JString)) := fun _ => along_app k (fun _ => id) fun _ => id
  refine along_onDisconnect_of (fun _ => id) fun s _ => ?_
  exact notify_related (hcall _) (fun _ => id) (fun _ => id) s

theorem latched_wire_app {n : ℕ} (k : ∀ m < n, Calls Latched (app m : Callback Handler)) :
    Wire Latched (app n : Callback Handler) where
  acts _ _ _ := id
  io _ := id
  outbound _ _ := id
  startClose _ := id
  onDisconnect reason _ _ := latched_onDisconnect_app k reason
  removed _ _ := id
  expired := latched_onDisconnect_app k .timeout
  update _ _ h _ := latched_of_buffer h
  release _ _ := rfl
  startHeartbeat := latched_startHeartbeatTimer
  frame _ _ _ := id
  wrote _ _ _ := id
  completed _ := id

theorem latched_calls (n : ℕ) : Calls Latched (app n : Callback Handler) := by
  induction n using Nat.strong_induction_on with
  | _ n ih => exact (latched_wire_app ih).calls

theorem latched_shutdown (n : ℕ) : Along Latched (Session.onShutdown (app n : Callback Handler)) :=
  (latched_wire_app fun m _ => latched_calls m).along_onShutdown

theorem latched_host (n : ℕ) : Host Latched (app n : Callback Handler) where
  toLine := (latched_wire_app fun m _ => latched_calls m).line
  shutdown s _ := latched_shutdown n s
  closed := latched_onDisconnect_app (fun m _ => latched_calls m) .closed
  hosted _ _ _ := id
  startTimeout := latched_startTimeoutTimer
  clearTimeout _ := id

theorem latched_call (n : ℕ) (c : InboundCall) : Along Latched (app n c : M Handler (List JString)) :=
  along_app (fun m _ => latched_calls m) (fun _ => id) fun _ => id

theorem latched_closes (n : ℕ) : Closes Latched (app n : Callback Handler) where
  send := (latched_calls n).send
  abort := (latched_calls n).abort
  disconnectWhenEmpty := along_modify fun _ => id
  onDisconnect reason _ := latched_onDisconnect_app (fun m _ => latched_calls m) reason
  acknowledged _ _ _ := id
  closing _ _ _ := id
  closed _ := id

theorem latched_frames (n : ℕ) : Frames Latched (app n : Callback Handler) :=
  (latched_calls n).frames (latched_closes n).along_onClose (fun s c _ _ => latched_call n c s)
    (fun _ => along_modify fun _ => id)
    (fun _ _ _ => id) (fun _ _ => id) fun s f _ => latched_startHeartbeatTimer (onPong (s.push (.received f)))

theorem latched_serveHttp (n : ℕ) (e : HttpEvent) : Along Latched (serveHttp (app n) e) := by
  refine (latched_host n).along_events (latched_frames n) (fun _ => id) ?_ e
  exact Opens.along_onConnect ⟨fun _ _ _ => id, fun _ => id⟩ (fun _ => id) (fun s _ => latched_call n .onConnect s)
    (latched_calls n).abort

/-- whatever comes after it, the program aborts -/
def Ends (_ s' : St Handler) : Prop := Aborted s'

theorem ends_abort (n : ℕ) : Along Ends (abort (app n)) := fun s => latched_shutdown n (release s) rfl

theorem ends_terminate (n : ℕ) (reason : DisconnectReason) : Along Ends (terminate (app n) reason) := by
  intro s
  obtain ⟨s', hs'⟩ := onDisconnect_app n reason s
  unfold terminate
  rw [bind_of_ok hs']
  exact ends_abort n s'

/-- an abort, whatever comes after it -/
theorem ends_bind {α β : Type} {m : M Handler α} {k : α → M Handler β} (hm : Along Ends m) (hk : ∀ a, Along Latched (k a)) :
    Along Ends (m >>= k) := hm.comp hk (fun _ _ => id) fun _ _ _ ha hlatched => hlatched ha

theorem delivers_of_ends {α : Type} {m : M Handler α} (hl : Along Latched m) (h : Along Ends m) : Along (Delivers p) m :=
  fun s => ⟨hl s, fun _ => .inr (h s)⟩

theorem along_abort (n : ℕ) : Along (Delivers p) (abort (app n)) :=
  delivers_of_ends (latched_calls n).abort (ends_abort n)

theorem along_terminate (n : ℕ) {reason : DisconnectReason} (h : reason ≠ .closed) :
    Along (Delivers p) (terminate (app n) reason) :=
  delivers_of_ends ((latched_host n).along_terminate h) (ends_terminate n reason)

/-! ## A message -/

/-- the state after a frame was written to the continuation, with the buffer empty -/
theorem Good.sent (h : Good p s) {cont : Continuation} (hcont : s.handler.continuation = some cont) {f : SocketIOFrame}
    (hopen : wasOpened s.log = true) :
    Good p (written (joined s f) (setBuffer s.handler.buffer.drainMessages.2 (s.push (.frame f)))) := by
  obtain ⟨hp, hqueue⟩ := h.waiting cont hcont
  have hjoined : joined s f = f.encode s.handler.endpoint := by
    unfold joined TransportBuffer.drainMessages
    rw [hqueue]
    exact List.append_nil _
  have hwritten : writtenText s.log = acceptedText s.log := by
    have htexts := h.texts
    rwa [hqueue, List.flatten_nil, List.append_nil] at htexts
  refine ⟨h.polling, h.listener, fun b hb => h.io b (List.mem_of_mem_tail hb), h.is_open, h.attached, h.endpoint,
    fun _ => rfl, fun c hc => ⟨(h.waiting c hc).1, rfl⟩, ?_⟩
  calc (writtenText s.log ++ joined s f) ++ [] = acceptedText s.log ++ f.encode (endpointOf s.log) := by
        rw [List.append_nil, hwritten, hjoined, h.endpoint]
    _ = acceptedText (.frame f :: s.log) := (acceptedText_frame hopen f).symm

/-- the state after a frame was put into the buffer -/
theorem Good.queued (h : Good p s) (hcont : s.handler.continuation = none) {f : SocketIOFrame}
    (hopen : wasOpened s.log = true) (hfits : (s.handler.buffer.putMessage (f.encode s.handler.endpoint)).1 = true) :
    Good p (setBuffer (s.handler.buffer.putMessage (f.encode s.handler.endpoint)).2 (s.push (.frame f))) := by
  have hqueue : (s.handler.buffer.putMessage (f.encode s.handler.endpoint)).2.queue =
      s.handler.buffer.queue ++ [f.encode s.handler.endpoint] := by
    rw [TransportBuffer.putMessage_of_le h.listener ((TransportBuffer.putMessage_fits h.listener).1 hfits)]
  refine ⟨h.polling, (s.handler.buffer.putMessage_listener _).trans h.listener, h.io, h.is_open, h.attached, h.endpoint,
    fun hno => ?_, fun c hc => ?_, ?_⟩
  · cases hopen.symm.trans hno
  · cases hcont.symm.trans hc
  · calc writtenText s.log ++ (s.handler.buffer.putMessage (f.encode s.handler.endpoint)).2.queue.flatten
        = (writtenText s.log ++ s.handler.buffer.queue.flatten) ++ f.encode (endpointOf s.log) := by
          rw [hqueue, List.flatten_append, List.flatten_singleton, List.append_assoc, h.endpoint]
      _ = acceptedText (.frame f :: s.log) := by rw [h.texts, acceptedText_frame hopen f]

/-- without room in the buffer the session is aborted -/
theorem ends_full (n : ℕ) {data : JString} (h : ¬ (s.handler.buffer.putMessage data).1 = true) :
    Aborted (sendLater (app n) data s).2 := by
  have hfull : Along Ends (terminate (app n) .timeout >>= fun _ => raise .socketIOException : M Handler Unit) :=
    ends_bind (ends_terminate n .timeout) fun _ => along_stop _
  have hrun := hfull (setBuffer (s.handler.buffer.putMessage data).2 s)
  unfold terminate at hrun
  rw [Program.bind_assoc] at hrun
  unfold sendLater
  rw [get_bind, modify_bind, Bool.eq_false_iff.2 h]
  exact hrun

/-- **One message**: unless the session is aborted, `sendMessage` returns normally exactly if the session is open, and
the message is where it belongs. -/
theorem sendMessage_good (hp : ∀ c, p c → c.initial = true ∨ c.suspended = true) (h : Good p s) (n : ℕ) (f : SocketIOFrame) :
    ((sendMessage (app n) f s).1 = .ok () ↔ wasOpened s.log = true) ∧ Good p (sendMessage (app n) f s).2 ∨
      Aborted (sendMessage (app n) f s).2 := by
  cases hopen : s.handler.is_open with
  | false =>
    have hno : wasOpened s.log = false := h.is_open.symm.trans hopen
    rw [sendMessage_closed hopen]
    have hnoted : Same s (s.push (.frame f)) := same_of_handler rfl rfl (views_unopened hno f).1 rfl
    refine .inl ⟨iff_of_false nofun ?_, hnoted.good h⟩
    rw [hno]
    exact Bool.false_ne_true
  | true =>
    have hwas : wasOpened s.log = true := h.is_open.symm.trans hopen
    cases hcont : s.handler.continuation with
    | some cont =>
      let s₁ : St Handler := setBuffer s.handler.buffer.drainMessages.2 (s.push (.frame f))
      have hnow : sendMessage (app n) f s = sendNow cont (joined s f) s₁ :=
        (sendMessage_open hopen).trans (deliver_now (s := s.push (.frame f)) hcont)
      have hsent := h.sent hcont (f := f) hwas
      left
      rw [hnow, sendNow_ok (s := s₁) h.nextWriteFails]
      by_cases hpoll : (!s₁.handler.persistent && !cont.initial) = true
      · -- a parked poll, which is completed
        have hsuspended : cont.suspended = true := by
          refine (hp cont (h.waiting cont hcont).1).resolve_left fun hinitial => ?_
          rw [hinitial, Bool.not_true, Bool.and_false] at hpoll
          cases hpoll
        rw [if_pos hpoll]
        unfold complete
        rw [if_pos hsuspended]
        exact ⟨iff_of_true rfl hwas, hsent.congr rfl rfl (fun _ hb => hb) nofun⟩
      · -- the connect request, whose response stays open
        rw [if_neg hpoll]
        exact ⟨iff_of_true rfl hwas, (same_startHeartbeatTimer _).good hsent⟩
    | none =>
      have hlater : sendMessage (app n) f s = sendLater (app n) (f.encode s.handler.endpoint) (s.push (.frame f)) :=
        (sendMessage_open hopen).trans (deliver_later (s := s.push (.frame f)) hcont)
      rw [hlater]
      by_cases hput : (s.handler.buffer.putMessage (f.encode s.handler.endpoint)).1 = true
      · left
        rw [sendLater_ok (s := s.push (.frame f)) hput]
        exact ⟨iff_of_true rfl hwas, h.queued hcont hwas hput⟩
      · right
        exact ends_full n (s := s.push (.frame f)) hput

/-! ## The methods of the session -/

section

variable (hp : ∀ c, p c → c.initial = true ∨ c.suspended = true) (n : ℕ)
include hp

theorem delivers_sendMessage (f : SocketIOFrame) (hl : Latched s (sendMessage (app n) f s).2) :
    Delivers p s (sendMessage (app n) f s).2 :=
  ⟨hl, fun h => (sendMessage_good hp h n f).imp And.right id⟩

theorem calls : Calls (Delivers p) (app n : Callback Handler) where
  send s f hf := delivers_sendMessage hp n f ((latched_calls n).send s f hf)
  abort := along_abort n
  disconnect := along_terminate n (by decide)
  isOpen := along_get.bind fun _ => along_pure _
  startClose _ := delivers_of_handler rfl rfl rfl rfl
  outbound s _ := (same_push (fun _ => rfl) s).delivers
  acts _ _ _ := delivers_of_handler rfl rfl rfl rfl

theorem along_call (c : InboundCall) : Along (Delivers p) (app n c : M Handler (List JString)) :=
  along_app (fun m _ => calls hp m) (fun s => (same_push (fun _ => rfl) s).delivers) fun s =>
    (same_push (fun _ => rfl) s).delivers

theorem delivers_onDisconnect (reason : DisconnectReason) :
    Along (Delivers p) (Session.onDisconnect (app n : Callback Handler) reason) := by
  have hclear : ∀ s : St Handler, Delivers p s (clearHeartbeatTimer (clearTimeoutTimer s)) :=
    fun _ => delivers_of_handler rfl rfl rfl rfl
  refine along_onDisconnect_of hclear fun s _ => ?_
  exact notify_related (along_call hp n _) (fun _ => delivers_of_handler rfl rfl rfl rfl)
    (fun _ => delivers_of_handler rfl rfl rfl rfl) s

theorem moves : Moves (Delivers p) (app n : Callback Handler) where
  acts := (calls hp n).acts
  io _ := Same.delivers ⟨rfl, rfl, rfl, fun _ hb => List.mem_of_mem_tail hb⟩
  outbound := (calls hp n).outbound
  startClose := (calls hp n).startClose
  onDisconnect reason _ _ := delivers_onDisconnect hp n reason
  removed _ _ := delivers_of_handler rfl rfl rfl rfl

theorem closes : Closes (Delivers p) (app n : Callback Handler) where
  send := (calls hp n).send
  abort := along_abort n
  disconnectWhenEmpty := along_modify fun _ => Same.delivers ⟨rfl, rfl, rfl, fun _ hb => hb⟩
  onDisconnect reason _ := delivers_onDisconnect hp n reason
  acknowledged s _ _ := (same_push (fun _ => rfl) s).delivers
  closing _ _ _ := delivers_of_handler rfl rfl rfl rfl
  closed _ := delivers_of_handler rfl rfl rfl rfl

omit hp in
theorem delivers_received {f : SocketIOFrame} (hf : f.frameType ≠ .connect) (s : St Handler) :
    Delivers p s (s.push (.received f)) := (same_push (views_received hf) s).delivers

omit hp in
/-- the namespace of a CONNECT frame is the handler's from then on -/
theorem delivers_setNamespace {f : SocketIOFrame} (hf : f.frameType = .connect) (hh : s.session.handler = true) :
    Delivers p s { s.push (.received f) with handler.endpoint := namespaceOf f.data } := by
  refine ⟨id, fun h => .inl { h with endpoint := ?_ }⟩
  have hopened : wasOpened s.log = true := h.attached.symm.trans hh
  exact (if_pos ⟨hf, hopened⟩ : endpointOf (.received f :: s.log) = _).symm

/-- a CONNECT frame -/
theorem along_onMessage_connect {f : SocketIOFrame} (hf : f.frameType = .connect) :
    Along (Delivers p) (Session.onMessage (app n : Callback Handler) f) := by
  have hanswer : Along (Delivers p) (onConnectData (app n : Callback Handler) []) := fun _ =>
    sendOrAbort_related (fun _ => (calls hp n).send _ _ (sendable_connect _ _)) (along_abort n)
  intro s
  unfold Session.onMessage
  simp only [hf]
  rw [modify_bind]
  cases hh : s.session.handler with
  | false =>
    rw [derefHandler_null (s := s.push (.received f)) hh]
    refine ⟨id, fun h => .inl ?_⟩
    have hunopened : wasOpened s.log = false := h.attached.symm.trans hh
    have hnoted : Same s (s.push (.received f)) := same_of_handler rfl rfl (views_unopened hunopened f).2 rfl
    exact hnoted.good h
  | true =>
    rw [derefHandler_bind (s := s.push (.received f)) hh]
    refine IsTrans.trans _ _ _ (delivers_setNamespace hf hh) ?_
    refine derefInbound_related fun _ => bind_related (along_call hp n _ _) fun _ => hanswer

theorem frames : Frames (Delivers p) (app n : Callback Handler) where
  connect f hf := along_onMessage_connect hp n hf
  heartbeat s f hf := by
    have hreceived : Delivers p s (s.push (.received f)) := delivers_received (by simp [hf]) s
    have hpong : Delivers p (s.push (.received f)) (onPong (s.push (.received f))) := delivers_of_handler rfl rfl rfl rfl
    exact IsTrans.trans _ _ _ hreceived (IsTrans.trans _ _ _ hpong (same_startHeartbeatTimer _).delivers)
  close f hf :=
    (along_modify fun s => delivers_received (by simp [hf]) s).bind fun _ => (closes hp n).along_onClose f.data
  data f hf := by
    rw [onMessage_data hf]
    refine (along_modify fun s => delivers_received (fun hc => ?_) s).bind fun _ =>
      along_onMessageText (fun s c _ _ => along_call hp n c s) (fun s names => delivers_of_handler rfl rfl rfl rfl) _ _
    rcases hf with hf | hf | hf <;> cases hf.symm.trans hc
  ignored s f hf _ _ _ := delivers_received hf s

/-- the application is told of the connection; if it throws, the session is aborted -/
theorem announce_good (h : Good p s) :
    (∃ s', announce (app n) s = (.ok (), s') ∧ Good p s') ∨ Aborted (announce (app n) s).2 := by
  have hcall := (along_call hp n .onConnect s).good h
  unfold announce
  rcases hr : (app n .onConnect : M Handler (List JString)) s with ⟨r, s₁⟩
  rw [hr] at hcall
  cases r with
  | ok names =>
    have hbody : (do let _ ← app n .onConnect : M Handler Unit) s = (.ok (), s₁) := bind_of_ok hr _
    rw [catching_of_ok hbody]
    exact hcall.imp (fun h₁ => ⟨s₁, rfl, h₁⟩) id
  | error e =>
    have hthrown : e.isThrowable = true := behave_error (congrArg Prod.fst hr)
    have hbody : (do let _ ← app n .onConnect : M Handler Unit) s = (.error e, s₁) := bind_of_error hr _
    rw [catching_of_error hbody, if_pos hthrown, modify_bind]
    exact .inr (ends_abort n _)

end

/-! ## The requests of the container -/

theorem delivers_of_latched (hl : Latched s s') (h : Good p s → Delivers p s s') : Delivers p s s' :=
  ⟨hl, fun hs => (h hs).good hs⟩

/-- a GET that finds messages: they are handed over at once, and in order -/
theorem Good.handedOver (h : Good Parked s) (hbuffer : s.handler.buffer.isEmpty = false) : Good Parked (handedOver s) := by
  have hnone : s.handler.continuation = none := by
    cases hc : s.handler.continuation with
    | none => rfl
    | some c =>
      unfold TransportBuffer.isEmpty at hbuffer
      rw [(h.waiting c hc).2] at hbuffer
      cases hbuffer
  refine ⟨h.polling, h.listener, fun b hb => h.io b (List.mem_of_mem_tail (List.mem_of_mem_tail hb)), h.is_open,
    h.attached, h.endpoint, fun _ => rfl, fun c hc => ?_, ?_⟩
  · cases hnone.symm.trans hc
  · exact (List.append_nil _).trans h.texts

theorem along_answered (n : ℕ) : Along (Delivers Parked) (answered (app n)) := by
  refine (moves parked_or n).along_write.bind fun _ => along_get.bind fun s => ?_
  refine Along.ite (fun _ => along_modify fun s => ?_) fun _ => along_abort n
  exact IsTrans.trans _ _ _ (same_push (e := .answered) (fun _ => rfl) s).delivers (same_startTimeoutTimer _).delivers

theorem delivers_answer (n : ℕ) (hbuffer : s.handler.buffer.isEmpty = false) : Delivers Parked s (answer (app n) s).2 := by
  refine ⟨(latched_host n).along_answer s, fun h => ?_⟩
  rw [answer_ok (app n) h.io]
  exact (along_answered n _).good (h.handedOver hbuffer)

theorem delivers_park (n : ℕ) (hbuffer : s.handler.buffer.isEmpty = true) : Delivers Parked s (park s).2 := by
  let s₁ := suspend (getContinuation (clearTimeoutTimer (s.push .parked)))
  have hparked : Delivers Parked s s₁ := by
    refine ⟨id, fun h => .inl (h.congr rfl rfl (fun _ hb => hb) fun c hc => ?_)⟩
    cases hc
    exact ⟨rfl, List.isEmpty_iff.1 hbuffer⟩
  exact IsTrans.trans _ _ _ hparked ((moves parked_or n).along_write s₁)

theorem delivers_endDispatch (s : St Handler) : Delivers Parked s (endDispatch s) := by
  refine ⟨id, fun h => .inl (h.congr rfl rfl (fun _ hb => hb) fun c hc => ?_)⟩
  change s.handler.continuation.map (fun c => { c with initial := false }) = some c at hc
  obtain ⟨c', hc', rfl⟩ := Option.map_eq_some_iff.1 hc
  exact h.waiting c' hc'

/-- a continuation that is gone -/
theorem delivers_dropContinuation (s : St Handler) : Delivers p s (setContinuation none s) :=
  ⟨id, fun h => .inl (h.congr rfl rfl (fun _ hb => hb) nofun)⟩

theorem along_closeCheck (n : ℕ) : Along (Delivers Parked) (closeCheck (app n)) := by
  refine along_get.bind fun s => Along.ite (fun _ => ?_) fun _ => along_pure _
  refine (along_whenever fun _ => delivers_onDisconnect parked_or n .closed).bind fun _ => along_abort n

/-- the poll is gone, which the history notes -/
theorem delivers_released (s : St Handler) : Delivers Parked s (setContinuation none (s.push .released)) := by
  have hpushed : Delivers Parked s (s.push .released) := (same_push (e := .released) (fun _ => rfl) s).delivers
  exact IsTrans.trans _ _ _ hpushed (delivers_dropContinuation _)

theorem along_onComplete (n cont : ℕ) : Along (Delivers Parked) (onComplete (app n) cont) := by
  refine fun s => delivers_of_latched ((latched_host n).along_onComplete cont s) fun h => ?_
  rcases onComplete_cases (app n) cont s with ⟨-, heq⟩ | ⟨-, ⟨hp, -⟩ | ⟨-, ⟨-, heq⟩ | ⟨-, ⟨-, heq⟩ | ⟨-, heq⟩⟩⟩⟩
  · rw [heq]; exact Std.Refl.refl s
  · cases h.polling.symm.trans hp
  · rw [heq]; exact IsTrans.trans _ _ _ (delivers_dropContinuation s) (along_abort n _)
  · rw [heq]; exact IsTrans.trans _ _ _ (delivers_dropContinuation s) (along_terminate n (by decide) _)
  · rw [heq]; exact IsTrans.trans _ _ _ (delivers_released s) (same_startTimeoutTimer _).delivers

theorem along_onTimeoutContinuation (n cont : ℕ) : Along (Delivers Parked) (onTimeoutContinuation (app n) cont) := by
  refine fun s => delivers_of_latched ((latched_host n).along_onTimeoutContinuation cont s) fun h => ?_
  have hexpire : Along (Delivers Parked) (do expirePoll (app n); modify startTimeoutTimer : M Handler Unit) :=
    (JettyTraversal.Http.along_expirePoll_of (moves parked_or n).io (along_terminate n (by decide))).bind fun _ =>
      along_modify fun s => (same_startTimeoutTimer s).delivers
  rcases onTimeoutContinuation_cases (app n) cont s with ⟨-, heq⟩ | ⟨-, ⟨hp, -⟩ | ⟨-, heq⟩⟩
  · rw [heq]; exact Std.Refl.refl s
  · cases h.polling.symm.trans hp
  · rw [heq]; exact IsTrans.trans _ _ _ (delivers_released s) (hexpire _)

theorem requests (n : ℕ) : Requests (Delivers Parked) (app n : Callback Handler) where
  frames := frames parked_or n
  responded s _ := (same_push (fun _ => rfl) s).delivers
  answer _ _ hbuffer := delivers_answer n hbuffer
  park _ _ _ hbuffer := delivers_park n hbuffer
  endDispatch := delivers_endDispatch
  closeCheck := along_closeCheck n
  onComplete := along_onComplete n
  shutdown s _ := (moves parked_or n).along_onShutdown s

/-! ### The connect request -/

theorem finish_good (h : Good Initial s) : Good Parked (finish s).2 := by
  rw [finish_ok h.nextWriteFails h.polling]
  exact h.congr rfl rfl (fun _ hb => List.mem_of_mem_tail hb) nofun

/-- the session is opened: no message has come yet -/
theorem Good.connecting (h : Good Parked s) (hunopened : wasOpened s.log = false) : Good Initial (connecting s) where
  polling := h.polling
  listener := h.listener
  io b hb := h.io b (List.mem_of_mem_tail hb)
  is_open := rfl
  attached := rfl
  endpoint := h.endpoint
  unopened _ := h.unopened hunopened
  waiting c hc := by
    cases hc
    exact ⟨rfl, h.unopened hunopened⟩
  texts := h.texts

theorem along_connect (n : ℕ) : Along (Delivers Parked) (connect (app n)) := by
  refine fun s => ⟨latched_serveHttp n .connect s, fun h => ?_⟩
  let s₁ := attaching s
  let rest : M Handler Unit := do
    Session.onConnect (app n) true
    finish
  have hrest : Good Parked (rest s₁).2 ∨ Aborted (rest s₁).2 := by
    have habort : Aborted (Session.onConnect (app n) true s₁).2 → Aborted (rest s₁).2 := fun ha =>
      bind_related (R := Latched) id (fun _ => (latched_host n).along_finish) ha
    cases hh : s.session.handler with
    | true =>
      right
      apply habort
      rw [onConnect_again (app n) (s := s₁) hh]
      exact ends_abort n s₁
    | false =>
      cases hi : s.session.inbound with
      | false =>
        right
        apply habort
        rw [onConnect_dropped (app n) (s := s₁) hh hi]
        exact ends_abort n _
      | true =>
        have hfirst := onConnect_first (app n) (s := s₁) hh hi
        rcases announce_good initial_or n (h.connecting (h.attached.symm.trans hh)) with ⟨s', hs', hgood⟩ | ha
        · left
          have hrun : rest s₁ = finish s' := bind_of_ok (hfirst.trans hs') _
          rw [hrun]
          exact finish_good hgood
        · right
          apply habort
          rw [hfirst]
          exact ha
  rw [connect_ok (app n) h.nextWriteFails]
  exact hrest.elim (delivers_endDispatch _).good .inr

/-! ## Runs -/

/-- the requests and callbacks of the container, and single frames for `sendMessage` -/
def serveOrSend (cb : Callback Handler) : HttpEvent ⊕ SocketIOFrame → M Handler Unit
  | .inl e => serveHttp cb e
  | .inr f => sendMessage cb f

theorem along_serveOrSend (n : ℕ) (e : HttpEvent ⊕ SocketIOFrame) : Along (Delivers Parked) (serveOrSend (app n) e) := by
  cases e with
  | inr f => exact fun s => delivers_sendMessage parked_or n f ((latched_host n).sendMessage_related id)
  | inl e =>
    by_cases he : e = .connect
    · rw [he]; exact along_connect n
    · exact fun s => (requests n).later_related he fun cont _ => along_onTimeoutContinuation n cont s

theorem along_runTask (n : ℕ) (kind : TaskKind) : Along (Delivers Parked) (runTask (app n) kind : M Handler Unit) := by
  have hnext : ∀ s : St Handler, Delivers Parked s (incrementMessageId s) := fun _ => delivers_of_handler rfl rfl rfl rfl
  cases kind with
  | sendPing => exact along_sendPing_of hnext (calls parked_or n).toSends fun s => (same_startTimeoutTimer s).delivers
  | onTimeout =>
    refine along_onTimeout_of (fun s => delivers_of_handler rfl rfl rfl rfl) ?_ (along_abort n)
    exact delivers_onDisconnect parked_or n .timeout

theorem delivers_step (s : St Handler) (i : Input (HttpEvent ⊕ SocketIOFrame)) (hio : ∀ b ∈ i.io, b = false) :
    Delivers Parked s (step serveOrSend s i) := by
  have hinput : Delivers Parked s { s with acts := i.acts, io := i.io } := ⟨id, fun h => .inl { h with io := hio }⟩
  refine IsTrans.trans _ _ _ hinput ?_
  refine along_perform_of (along_serveOrSend _) (calls parked_or _).along_outbound (fun _ _ => ?_) (along_runTask _)
    (fun _ _ => ?_) i.event _
  · exact delivers_of_handler rfl rfl rfl rfl
  · exact delivers_of_handler rfl rfl rfl rfl

theorem delivers_run (s : St Handler) (is : List (Input (HttpEvent ⊕ SocketIOFrame))) (hio : ∀ i ∈ is, ∀ b ∈ i.io, b = false) :
    Delivers Parked s (run serveOrSend s is) := run_of_steps (fun s i hi => delivers_step s i (hio i hi)) s

theorem good_created (config : SocketIOConfig) : Good Parked (created config false) :=
  ⟨rfl, rfl, fun _ hb => absurd hb List.not_mem_nil, rfl, rfl, rfl, fun _ => rfl, nofun, rfl⟩

/-- a session that was run without a failing write and without an abort -/
theorem good_run (config : SocketIOConfig) (is : List (Input (HttpEvent ⊕ SocketIOFrame)))
    (hio : ∀ i ∈ is, ∀ b ∈ i.io, b = false) (habort : ¬ Aborted (run serveOrSend (created config false) is)) :
    Good Parked (run serveOrSend (created config false) is) :=
  ((delivers_run _ is hio).good (good_created config)).resolve_right habort

/-- whatever the application has done since, `sendMessage` returns normally exactly if the session is open, as long as it
does not abort -/
def SendsOnceOpen (s : St Handler) : Prop :=
  ∀ acts m n f, let s' := (behave m { s with acts := acts }).2
    ¬ Aborted (sendMessage (app n) f s').2 → ((sendMessage (app n) f s').1 = .ok () ↔ wasOpened s'.log = true)

theorem Good.sends (hp : ∀ c, p c → c.initial = true ∨ c.suspended = true) (h : Good p s) : SendsOnceOpen s := by
  intro acts m n f s' hf
  have hacts : Good p { s with acts := acts } := { h with }
  have hs' : Good p s' ∨ Aborted s' := (along_behave (fun m _ => calls hp m) { s with acts := acts }).good hacts
  have hgood : Good p s' := hs'.resolve_right fun ha => hf ((latched_host n).sendMessage_related id ha)
  exact ((sendMessage_good hp hgood n f).resolve_right hf).1

/-- **Polling delivery is in order, complete and without repetition**: in every run without a failing write, as long as
`abort` has not run, the texts given to `onWriteData` and then the messages in the buffer are the encodings of the frames
that `sendMessage` took, in call order, and while a poll is parked the buffer is empty. These are the frames whose
`sendMessage` returns normally, between the events as well as in the callback of the connect request. -/
theorem delivered_in_order (config : SocketIOConfig) (is : List (Input (HttpEvent ⊕ SocketIOFrame)))
    (hio : ∀ i ∈ is, ∀ b ∈ i.io, b = false) (habort : ¬ Aborted (run serveOrSend (created config false) is)) :
    let s := run serveOrSend (created config false) is
    writtenText s.log ++ s.handler.buffer.queue.flatten = acceptedText s.log ∧
      (s.handler.continuation ≠ none → s.handler.buffer.queue = []) ∧
      SendsOnceOpen s ∧ (wasOpened s.log = false → SendsOnceOpen (connecting s)) := by
  intro s
  have hgood : Good Parked s := good_run config is hio habort
  refine ⟨hgood.texts, fun hcont => ?_, hgood.sends parked_or, fun hno => (hgood.connecting hno).sends initial_or⟩
  obtain ⟨c, hc⟩ := Option.ne_none_iff_exists'.1 hcont
  exact (hgood.waiting c hc).2

/-- a client connects, and the application sends something at once; then two frames go into the buffer and out with a
GET, one goes to the poll after it, and one waits in the buffer -/
def polled : List (Input (HttpEvent ⊕ SocketIOFrame)) :=
  [⟨.container (.inl .connect), [.call (.sendMessage (str "a"))], []⟩,
    ⟨.container (.inr (.new .message 0 (str "b"))), [], []⟩, ⟨.container (.inr (.new .message 0 (str "c"))), [], []⟩,
    ⟨.container (.inl .get), [], []⟩, ⟨.container (.inl .get), [], []⟩,
    ⟨.container (.inr (.new .message 0 (str "d"))), [], []⟩, ⟨.container (.inr (.new .message 0 (str "e"))), [], []⟩]

theorem delivered_in_order_polled :
    let s := run serveOrSend (created ⟨none, none, none, none⟩ false) polled
    writtenText s.log = str "3:::a3:::b3:::c3:::d" ∧ s.handler.buffer.queue = [str "3:::e"] ∧
      writtenText s.log ++ s.handler.buffer.queue.flatten = acceptedText s.log :=
  ⟨by decide +kernel, by decide +kernel, (delivered_in_order _ polled (by decide) (by unfold Aborted; decide +kernel)).1⟩

end SocketIOJava.PollingDelivery
