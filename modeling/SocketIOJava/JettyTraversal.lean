/-
The traversal for the two Jetty handlers: a relation on the core of the state that the session's own updates keep is kept
by the calls that reach either handler (`Http.calls`, `Socket.calls`), by every method of the session (`Http.steps`,
`Socket.steps`) and by every event of a run (`Http.along_serve`, `Socket.along_serve`).
-/
import SocketIOJava.Traversal

namespace SocketIOJava.JettyTraversal

open Program SocketIOJava.Text SocketIOJava.Frame SocketIOJava.Session SocketIOJava.Run SocketIOJava.Traversal

/-! ## The HTTP transports -/

namespace Http

open JettyContinuation

variable {R : St Handler → St Handler → Prop} [Std.Refl R] [IsTrans (St Handler) R] {cb : Callback Handler}

/-- what an open handler does with a frame, short of ending the session -/
structure Writes (R : St Handler → St Handler → Prop) : Prop where
  buffer : ∀ s b, b.listener = s.handler.buffer.listener → R s (setBuffer b s)
  wrote : ∀ s data, R s (written data s)
  completed : ∀ s, R s (setContinuation none (s.push .completed))
  startHeartbeat : ∀ s, R s (startHeartbeatTimer s)

namespace Writes

variable (w : Writes R)
include w

omit [Std.Refl R] [IsTrans (St Handler) R] in
theorem along_onWriteData (data : JString) : Along R (onWriteData data) := by
  intro s
  cases h : s.nextWriteFails with
  | false => rw [onWriteData_ok h]; exact w.wrote s data
  | true =>
    have hfails : onWriteData data s = (.error (.thrown .ioException), written data s) :=
      write_fails (s := s.push (.wrote data s.nextWriteFails)) h
    rw [hfails]
    exact w.wrote s data

theorem along_sendNow (cont : Continuation) (data : JString) : Along R (sendNow cont data) := by
  refine (Along.catching _ (w.along_onWriteData data) (along_stop _)).bind fun _ => along_get.bind fun s => ?_
  refine Along.ite (fun _ => ?_) fun _ => along_modify w.startHeartbeat
  exact (along_modify w.completed).bind fun _ => Along.ite (fun _ => along_pure _) fun _ => along_stop _

/-- a frame that is not refused is written at once or put into the buffer -/
theorem sendMessage_accepted {f : SocketIOFrame} {s : St Handler} (h : refuses s f = false) :
    R (s.push (.frame f)) (sendMessage cb f s).2 := by
  rcases JettyContinuation.sendMessage_accepted cb h with hlater | ⟨cont, -, hnow⟩
  · rw [hlater]; exact w.buffer _ _ (s.handler.buffer.putMessage_listener _)
  · have hdrained : R (s.push (.frame f)) (setBuffer s.handler.buffer.drainMessages.2 (s.push (.frame f))) :=
      w.buffer _ _ rfl
    rw [hnow]; exact IsTrans.trans _ _ _ hdrained (w.along_sendNow cont _ _)

end Writes

omit [Std.Refl R] [IsTrans (St Handler) R] in
/-- what can still go wrong is the continuation's completion -/
theorem sendMessage_accepted_error {f : SocketIOFrame} {s : St Handler} (h : refuses s f = false) :
    ∀ e, (sendMessage cb f s).1 = .error e → e.isSocketIOException = false := by
  rcases JettyContinuation.sendMessage_accepted cb h with hlater | ⟨cont, hwrite, hnow⟩
  · rw [hlater]; nofun
  · intro e he
    rw [hnow, sendNow_ok (s := setBuffer s.handler.buffer.drainMessages.2 (s.push (.frame f))) hwrite] at he
    unfold complete at he
    split_ifs at he
    cases he
    rfl

/-- what the handler's methods ask of a relation, with `abort` as a whole; only `abort` puts another listener into the
buffer, only `setNamespace` changes the endpoint and only `connect` opens the handler -/
structure Line (R : St Handler → St Handler → Prop) (cb : Callback Handler) : Prop where
  acts : ∀ s acts, acts <:+ s.acts → R s { s with acts := acts }
  io : ∀ s, R s { s with io := s.io.tail }
  outbound : ∀ s c, R s (s.push (.outbound c (TransportHandler.refuses s closeFrame)))
  startClose : ∀ s, R s (initiateClose s)
  onDisconnect : ∀ reason, reason ≠ .closed → Along R (Session.onDisconnect cb reason)
  abort : Along R (abort cb)
  update : ∀ s h, h.buffer.listener = s.handler.buffer.listener → h.endpoint = s.handler.endpoint →
    (h.is_open = true → s.handler.is_open = true) → R s { s with handler := h }
  startHeartbeat : ∀ s, R s (startHeartbeatTimer s)
  frame : ∀ s f, Sendable s f → R s (s.push (.frame f))
  wrote : ∀ s data failed, R s (s.push (.wrote data failed))
  completed : ∀ s, R s (s.push .completed)

/-- what the handler adds to the moves of the session -/
structure Wire (R : St Handler → St Handler → Prop) (cb : Callback Handler) : Prop extends Moves R cb where
  expired : Along R (Session.onDisconnect cb .timeout)
  update : ∀ s h, h.buffer.listener = s.handler.buffer.listener → h.endpoint = s.handler.endpoint → R s { s with handler := h }
  release : ∀ s, R s (release s)
  startHeartbeat : ∀ s, R s (startHeartbeatTimer s)
  frame : ∀ s f, Sendable s f → R s (s.push (.frame f))
  wrote : ∀ s data failed, R s (s.push (.wrote data failed))
  completed : ∀ s, R s (s.push .completed)

omit [Std.Refl R] [IsTrans (St Handler) R] in
theorem wire [Std.Refl R] [IsTrans (St Handler) R] (c : Outgoing R cb) : Wire R cb where
  toMoves := c.moves
  expired := c.along_onDisconnect .timeout
  update _ _ _ _ := c.same _ _ rfl
  release _ := c.same _ _ rfl
  startHeartbeat s := c.same _ _ (core_startHeartbeatTimer s)
  frame := c.frame
  wrote := c.wrote
  completed := c.completed

namespace Wire

variable (w : Wire R cb)
include w

omit [Std.Refl R] in
theorem along_abort : Along R (abort cb) := (along_modify w.release).bind fun _ => w.along_onShutdown

omit [Std.Refl R] in
theorem line : Line R cb where
  acts := w.acts
  io := w.io
  outbound := w.outbound
  startClose := w.startClose
  onDisconnect reason h := by
    by_cases ht : reason = .timeout
    · rw [ht]; exact w.expired
    · exact w.onDisconnect reason ht h
  abort := w.along_abort
  update s h hl he _ := w.update s h hl he
  startHeartbeat := w.startHeartbeat
  frame := w.frame
  wrote := w.wrote
  completed := w.completed

end Wire

namespace Line

variable (w : Line R cb)
include w

omit [Std.Refl R] in
theorem along_terminate {reason : DisconnectReason} (h : reason ≠ .closed) : Along R (terminate cb reason) :=
  (w.onDisconnect reason h).bind fun _ => w.abort

omit [Std.Refl R] in
theorem writes : Writes R where
  buffer s b hl := w.update s (setBuffer b s).handler hl rfl id
  wrote s data :=
    IsTrans.trans s (s.push (.wrote data s.nextWriteFails)) _ (w.wrote s data s.nextWriteFails) (w.io _)
  completed s := IsTrans.trans s (s.push .completed) _ (w.completed s) (w.update _ _ rfl rfl id)
  startHeartbeat := w.startHeartbeat

theorem along_write : Along R (write : M Handler Unit) := along_write_of w.io

theorem along_sendLater (data : JString) : Along R (sendLater cb data) := by
  refine along_get_bind fun s => ?_
  have hput : R s (setBuffer (s.handler.buffer.putMessage data).2 s) :=
    w.update s (setBuffer _ s).handler (s.handler.buffer.putMessage_listener data) rfl id
  refine bind_related hput fun _ => ?_
  refine Along.ite (fun _ => ?_) fun _ => along_pure _
  exact (w.onDisconnect .timeout (by decide)).bind fun _ => w.abort.bind fun _ => along_stop _

theorem along_deliver (f : SocketIOFrame) : Along R (deliver cb f) := by
  refine along_get_bind fun s => ?_
  cases s.handler.continuation with
  | none => exact w.along_sendLater _ s
  | some cont => exact bind_related (w.update s (setBuffer _ s).handler rfl rfl id) fun _ => w.writes.along_sendNow _ _

theorem sendMessage_related {s : St Handler} {f : SocketIOFrame} (hf : R s (s.push (.frame f))) :
    R s (sendMessage cb f s).2 := by
  have hrest : Along R (do if (← get).handler.is_open then deliver cb f else raise .socketIOClosedException) :=
    along_get.bind fun s => Along.ite (fun _ => w.along_deliver f) fun _ => along_stop _
  exact IsTrans.trans _ _ _ hf (hrest _)

theorem calls : Calls R cb where
  send s f h := w.sendMessage_related (w.frame s f h)
  abort := w.abort
  disconnect := w.along_terminate (by decide)
  isOpen := along_get.bind fun _ => along_pure _
  startClose := w.startClose
  outbound := w.outbound
  acts := w.acts

end Line

theorem Wire.calls (w : Wire R cb) : Calls R cb := w.line.calls

theorem calls (c : Outgoing R cb) : Calls R cb := (wire c).calls

theorem steps (c : Incoming R cb) : Steps R cb :=
  c.steps (calls c.toOutgoing) (c.along_same fun _ => rfl) fun _ => c.along_same fun _ => rfl

/-- a poll that expires writes or ends the session -/
theorem along_expirePoll_of (io : ∀ s, R s { s with io := s.io.tail }) (ends : Along R (terminate cb .disconnect)) :
    Along R (expirePoll cb) := by
  intro s
  rcases expirePoll_cases cb s with ⟨-, heq⟩ | ⟨-, heq⟩
  · rw [heq]; exact ends s
  · rw [heq]; exact Along.catching _ (along_write_of io) ends s

/-! ### The requests after the one that connects -/

/-- what they ask of a relation, the container's timeouts apart -/
structure Requests (R : St Handler → St Handler → Prop) (cb : Callback Handler) : Prop where
  frames : Frames R cb
  responded : ∀ s status, R s (sendError status s)
  answer : ∀ s, s.handler.persistent = false → s.handler.buffer.isEmpty = false → R s (answer cb s).2
  park : ∀ s, s.handler.persistent = false → s.handler.is_open = true → s.handler.buffer.isEmpty = true → R s (park s).2
  endDispatch : ∀ s, R s (endDispatch s)
  closeCheck : Along R (closeCheck cb)
  onComplete : ∀ cont, Along R (onComplete cb cont)
  shutdown : ∀ s, s.session.handler = false → R s (Session.onShutdown cb s).2

namespace Requests

variable (r : Requests R cb)
include r

omit [Std.Refl R] [IsTrans (St Handler) R] in
theorem along_handleGet : Along R (handleGet cb) := by
  refine along_get_bind fun s => ?_
  by_cases hgone : (!s.handler.is_open && s.handler.buffer.isEmpty) = true
  · rw [if_pos hgone]
    exact r.responded s 404
  · rw [if_neg hgone]
    by_cases hp : s.handler.persistent = true
    · rw [if_pos hp]
      exact r.responded s 404
    · rw [if_neg hp]
      by_cases hbuffer : s.handler.buffer.isEmpty = true
      · rw [if_neg (by rw [hbuffer]; decide)]
        refine r.park s (Bool.eq_false_iff.2 hp) ?_ hbuffer
        rw [hbuffer, Bool.and_true, Bool.not_eq_true, Bool.not_eq_false'] at hgone
        exact hgone
      · rw [if_pos (by rw [Bool.eq_false_iff.2 hbuffer]; decide)]
        exact r.answer s (Bool.eq_false_iff.2 hp) (Bool.eq_false_iff.2 hbuffer)

theorem along_receive (data : JString) : Along R (receive cb data) := by
  unfold receive
  cases parse data with
  | none => exact along_stop _
  | some frames => exact (along_lift frames).bind fun frames => r.frames.along_frames frames

theorem along_handlePost (decoded : Option (Except JavaException JString)) : Along R (handlePost cb decoded) := by
  refine along_get.bind fun s => Along.ite (fun _ => ?_) fun _ => along_pure _
  cases decoded with
  | none => exact along_modify fun s => r.responded s 400
  | some decoded =>
    refine (along_lift decoded).bind fun data => ?_
    exact (along_whenever fun _ => r.along_receive data).bind fun _ => r.closeCheck

theorem later_related {s : St Handler} {e : HttpEvent} (he : e ≠ .connect)
    (timeout : ∀ cont, e = .onTimeout cont → R s (onTimeoutContinuation cb cont s).2) : R s (serveHttp cb e s).2 := by
  cases e with
  | connect => exact absurd rfl he
  | get =>
    rw [serveHttp_get]
    by_cases hh : s.session.handler = true
    · rw [if_pos hh]; exact r.along_handleGet.ending r.endDispatch s
    · rw [if_neg hh]; exact r.shutdown s (Bool.eq_false_iff.2 hh)
  | post decoded =>
    rw [serveHttp_post]
    by_cases hh : s.session.handler = true
    · rw [if_pos hh]; exact r.along_handlePost decoded s
    · rw [if_neg hh]; exact r.shutdown s (Bool.eq_false_iff.2 hh)
  | onComplete cont => exact r.onComplete cont s
  | onTimeout cont => exact timeout cont rfl

end Requests

/-! ### The container's events -/

/-- what they add to it -/
structure Host (R : St Handler → St Handler → Prop) (cb : Callback Handler) : Prop extends Line R cb where
  closed : Along R (Session.onDisconnect cb .closed)
  hosted : ∀ s e, Hosted e → R s (s.push e)
  startTimeout : ∀ s, R s (startTimeoutTimer s)
  clearTimeout : ∀ s, R s (clearTimeoutTimer s)
  shutdown : ∀ s, s.session.handler = false → R s (Session.onShutdown cb s).2

theorem host (c : Serving R cb) : Host R cb where
  toLine := (wire c.toOutgoing).line
  closed := c.along_onDisconnect .closed
  shutdown s _ := c.along_onShutdown s
  hosted := c.hosted
  startTimeout s := c.same _ _ (core_startTimeoutTimer s)
  clearTimeout _ := c.same _ _ rfl

namespace Host

variable (w : Host R cb)
include w

theorem along_answered : Along R (answered cb) := by
  refine w.along_write.bind fun _ => along_get.bind fun s => ?_
  refine Along.ite (fun _ => along_modify fun s => ?_) fun _ => w.abort
  exact IsTrans.trans s (s.push .answered) _ (w.hosted s _ trivial) (w.startTimeout _)

theorem along_answer : Along R (answer cb) := by
  refine along_get_bind fun s => bind_related (w.update s _ rfl rfl id) fun _ => ?_
  exact w.along_write.bind fun _ => (w.writes.along_onWriteData _).bind fun _ => w.along_answered

theorem along_park : Along R (park : M Handler Unit) := by
  refine Along.bind (along_modify fun s => ?_) fun _ => w.along_write
  have hpushed : R s (s.push .parked) := w.hosted s .parked trivial
  exact IsTrans.trans _ _ _ hpushed (IsTrans.trans _ _ _ (w.clearTimeout _) (w.update _ _ rfl rfl id))

theorem along_closeCheck : Along R (closeCheck cb) := by
  refine along_get.bind fun s => Along.ite (fun _ => ?_) fun _ => along_pure _
  exact (along_whenever fun _ => w.closed).bind fun _ => w.abort

theorem along_onComplete (cont : ℕ) : Along R (onComplete cb cont) := by
  intro s
  have hdrop : R s (setContinuation none s) := w.update s _ rfl rfl id
  rcases onComplete_cases cb cont s with ⟨-, heq⟩ | ⟨-, ⟨-, heq⟩ | ⟨-, ⟨-, heq⟩ | ⟨-, ⟨-, heq⟩ | ⟨-, heq⟩⟩⟩⟩
  · rw [heq]; exact Std.Refl.refl s
  · have hend : Along R (do
        whenever (!s.handler.disconnectWhenEmpty) (Session.onDisconnect cb .disconnect)
        abort cb : M Handler Unit) :=
      (along_whenever fun _ => w.onDisconnect .disconnect (by decide)).bind fun _ => w.abort
    rw [heq]; exact IsTrans.trans _ _ _ (w.update s (dropConnection s).handler rfl rfl nofun) (hend _)
  · rw [heq]; exact IsTrans.trans _ _ _ hdrop (w.abort _)
  · rw [heq]; exact IsTrans.trans _ _ _ hdrop (w.along_terminate (by decide) _)
  · have hpushed : R s (s.push .released) := w.hosted s .released trivial
    have hdropped : R (s.push .released) (setContinuation none (s.push .released)) :=
      w.update _ (setContinuation none s).handler rfl rfl id
    rw [heq]; exact IsTrans.trans _ _ _ hpushed (IsTrans.trans _ _ _ hdropped (w.startTimeout _))

theorem along_expirePoll : Along R (expirePoll cb) := along_expirePoll_of w.io (w.along_terminate (by decide))

theorem along_onTimeoutContinuation (cont : ℕ) : Along R (onTimeoutContinuation cb cont) := by
  intro s
  rcases onTimeoutContinuation_cases cb cont s with ⟨-, heq⟩ | ⟨-, ⟨-, heq⟩ | ⟨-, heq⟩⟩
  · rw [heq]; exact Std.Refl.refl s
  · rw [heq]; exact IsTrans.trans _ _ _ (w.update s (dropConnection s).handler rfl rfl nofun) (w.along_terminate (by decide) _)
  · have hpushed : R s (s.push .released) := w.hosted s .released trivial
    have hdropped : R (s.push .released) (setContinuation none (s.push .released)) :=
      w.update _ (setContinuation none s).handler rfl rfl id
    have hexpire : Along R (do expirePoll cb; modify startTimeoutTimer : M Handler Unit) :=
      w.along_expirePoll.bind fun _ => along_modify w.startTimeout
    rw [heq]; exact IsTrans.trans _ _ _ hpushed (IsTrans.trans _ _ _ hdropped (hexpire _))

theorem along_finish : Along R finish := by
  refine along_get.bind fun s => Along.bind (along_modify fun s' => w.hosted s' (.finished s.nextWriteFails) trivial) fun _ => ?_
  refine w.along_write.bind fun _ => along_get.bind fun s => Along.ite (fun _ => ?_) fun _ => ?_
  · exact along_modify fun s => w.update s _ rfl rfl id
  · exact along_modify fun s => w.update s _ rfl rfl id

theorem along_connect (opens : ∀ s, R s (opened s)) (onConnect : Along R (Session.onConnect cb true)) :
    Along R (connect cb) := by
  refine Along.ending ?_ fun s => w.update s _ rfl rfl id
  refine Along.bind (along_modify fun s => w.update s (getContinuation s).handler rfl rfl id) fun _ => ?_
  refine w.along_write.bind fun _ => ?_
  refine Along.bind (along_modify opens) fun _ => ?_
  exact onConnect.bind fun _ => w.along_finish

theorem requests (frames : Frames R cb) : Requests R cb where
  frames := frames
  responded s status := w.hosted s (.responded status) trivial
  answer s _ _ := w.along_answer s
  park s _ _ _ := w.along_park s
  endDispatch s := w.update s _ rfl rfl id
  closeCheck := w.along_closeCheck
  onComplete := w.along_onComplete
  shutdown := w.shutdown

/-- **The container's events**, with received frames and the session's `onConnect` -/
theorem along_events (frames : Frames R cb) (opens : ∀ s, R s (opened s)) (onConnect : Along R (Session.onConnect cb true))
    (e : HttpEvent) : Along R (serveHttp cb e) := by
  by_cases he : e = .connect
  · rw [he]; exact w.along_connect opens onConnect
  · exact fun s => (w.requests frames).later_related he fun cont _ => w.along_onTimeoutContinuation cont s

end Host

theorem along_serve (c : Serving R cb) (k : Steps R cb) (opens : Opens R) (e : HttpEvent) : Along R (serveHttp cb e) :=
  (host c).along_events k.frames (fun _ => c.same _ _ rfl) (c.along_onConnect k opens) e

end Http

/-! ## The WebSocket transports -/

namespace Socket

open JettyWebSocket

/-- what the connection does with a frame -/
structure Writes (R : St Handler → St Handler → Prop) : Prop where
  io : ∀ s, R s { s with io := s.io.tail }
  wrote : ∀ s data failed, R s (s.push (.wrote data failed))
  disconnected : ∀ s, s.handler.outbound ≠ none → R s (setOutbound (some ⟨false⟩) s)

/-- what the handler's methods add to the moves of the session -/
structure Line (R : St Handler → St Handler → Prop) (cb : Callback Handler) : Prop extends Moves R cb where
  frame : ∀ s f, Sendable s f → R s (s.push (.frame f))
  wrote : ∀ s data failed, R s (s.push (.wrote data failed))
  disconnected : ∀ s, s.handler.outbound ≠ none → R s (setOutbound (some ⟨false⟩) s)
  aborted : ∀ s, R s (setOutbound none s)

/-- and the container's events -/
structure Wire (R : St Handler → St Handler → Prop) (cb : Callback Handler) : Prop extends Moves R cb where
  frame : ∀ s f, Sendable s f → R s (s.push (.frame f))
  wrote : ∀ s data failed, R s (s.push (.wrote data failed))
  setOutbound : ∀ s c, R s (setOutbound c s)

variable {R : St Handler → St Handler → Prop} [Std.Refl R] [IsTrans (St Handler) R] {cb : Callback Handler}

theorem wire (c : Outgoing R cb) : Wire R cb where
  toMoves := c.moves
  frame := c.frame
  wrote := c.wrote
  setOutbound _ _ := c.same _ _ rfl

omit [Std.Refl R] [IsTrans (St Handler) R] in
theorem Line.writes (w : Line R cb) : Writes R where
  io := w.io
  wrote := w.wrote
  disconnected := w.disconnected

omit [Std.Refl R] [IsTrans (St Handler) R] in
theorem Wire.line (w : Wire R cb) : Line R cb where
  toMoves := w.toMoves
  frame := w.frame
  wrote := w.wrote
  disconnected s _ := w.setOutbound s _
  aborted s := w.setOutbound s none

omit [IsTrans (St Handler) R] in
theorem along_isOpen : Along R (isOpen : M Handler Bool) :=
  along_get_bind fun s => by
    cases h : s.handler.outbound with
    | none => exact Std.Refl.refl s
    | some _ => exact Std.Refl.refl s

namespace Writes

variable (w : Writes R)
include w

omit [IsTrans (St Handler) R] in
theorem along_disconnectOutbound (cb : Callback Handler) : Along R (disconnectOutbound cb) := by
  intro s
  cases hc : s.handler.outbound with
  | none => rw [disconnectOutbound_none cb hc]; exact Std.Refl.refl s
  | some _ => rw [disconnectOutbound_some cb hc]; exact w.disconnected s (by rw [hc]; exact nofun)

theorem along_deliver (cb : Callback Handler) (f : SocketIOFrame) : Along R (deliver cb f) := by
  refine along_get.bind fun s => .catching _ ?_ ?_
  · refine (along_modify fun s' => ?_).bind fun _ => along_write_of w.io
    exact w.wrote s' (f.encode s.handler.endpoint) s'.nextWriteFails
  · exact (w.along_disconnectOutbound cb).bind fun _ => along_stop _

/-- the frame is noted, and then handled along the relation -/
theorem sendMessage_pushed (cb : Callback Handler) (s : St Handler) (f : SocketIOFrame) :
    R (s.push (.frame f)) (sendMessage cb f s).2 := by
  have hrest : Along R (do if ← isOpen then deliver cb f else raise .socketIOClosedException) :=
    along_isOpen.bind fun b => Along.ite (fun _ => w.along_deliver cb f) fun _ => along_stop _
  exact hrest _

theorem sendMessage_related (cb : Callback Handler) {s : St Handler} {f : SocketIOFrame} (hf : R s (s.push (.frame f))) :
    R s (sendMessage cb f s).2 := IsTrans.trans _ _ _ hf (w.sendMessage_pushed cb s f)

/-- `onOpen`, and the first frame -/
theorem along_upgrade (cb : Callback Handler) (opened : ∀ s, R s (setOutbound (some ⟨true⟩) s))
    (frame : ∀ s, R s (s.push (.frame (.new .connect TEXT_MESSAGE_TYPE [])))) : Along R (upgrade cb) :=
  (along_modify opened).bind fun _ s => w.sendMessage_related cb (frame s)

end Writes

namespace Line

variable (w : Line R cb)
include w

omit [Std.Refl R] in
theorem along_abort : Along R (abort cb) := by
  intro s
  rw [abort_eq]
  exact IsTrans.trans _ _ _ (w.aborted s) (w.along_onShutdown _)

theorem calls : Calls R cb where
  send s f h := w.writes.sendMessage_related cb (w.frame s f h)
  abort := w.along_abort
  disconnect := (w.onDisconnect .disconnect (by decide) (by decide)).bind fun _ => w.writes.along_disconnectOutbound cb
  isOpen := along_isOpen
  startClose := w.startClose
  outbound := w.outbound
  acts := w.acts

end Line

namespace Wire

variable (w : Wire R cb)
include w

theorem calls : Calls R cb := w.line.calls

theorem along_upgrade : Along R (upgrade cb) :=
  w.line.writes.along_upgrade cb (fun s => w.setOutbound s _) fun s => w.frame s _ (sendable_connect _ _)

/-- **The container's events**, with received frames and the session's `onConnect` -/
theorem along_events (frames : Frames R cb) (text : ∀ s message, R s (startHeartbeatTimer (s.push (.text message))))
    (onConnect : Along R (Session.onConnect cb true)) (e : SocketEvent) : Along R (serveSocket cb e) := by
  cases e with
  | connect => exact w.along_upgrade.bind fun _ => onConnect
  | reconnect => exact along_derefHandler.bind fun _ => w.along_upgrade
  | text message =>
    refine (along_modify fun s => text s message).bind fun _ => ?_
    cases parse message with
    | none => exact along_stop _
    | some received => exact (along_lift received).bind fun received => frames.along_frames received
  | lose => exact along_modify fun s => w.setOutbound s _
  | onClose => exact w.along_onShutdown

end Wire

theorem calls (c : Outgoing R cb) : Calls R cb := (wire c).calls

theorem steps (c : Incoming R cb) : Steps R cb :=
  c.steps (calls c.toOutgoing) (along_pure _) fun _ => c.along_same fun _ => rfl

theorem along_serve (c : Serving R cb) (k : Steps R cb) (opens : Opens R) (e : SocketEvent) :
    Along R (serveSocket cb e) := by
  refine (wire c.toOutgoing).along_events k.frames (fun s message => ?_) (c.along_onConnect k opens) e
  exact IsTrans.trans s (s.push (.text message)) _ (c.hosted s _ trivial) (c.same _ _ (core_startHeartbeatTimer _))

end Socket

/-! ## Entries that the application's calls add -/

section

variable {η α : Type} {sees : Entry → Option α} {P : Entry → Prop}

/-- an entry that a call of the application can add to the log -/
def Outward : Entry → Prop
  | .frame _ | .wrote _ _ | .completed | .outbound _ _ | .startClose _ | .state _ | .removed => True
  | .called (.onDisconnect _) | .returned (.onDisconnect _) => True
  | _ => False

/-- only entries of a kind were added -/
def Adds (P : Entry → Prop) (s s' : St η) : Prop := ∃ added, s'.log = added ++ s.log ∧ ∀ e ∈ added, P e

instance : Std.Refl (Adds (η := η) P) := ⟨fun _ => ⟨[], rfl, fun _ h => absurd h List.not_mem_nil⟩⟩

instance : IsTrans (St η) (Adds P) where
  trans _ _ _ := fun ⟨added, hlog, hadded⟩ ⟨added', hlog', hadded'⟩ =>
    ⟨added' ++ added, by rw [hlog', hlog, List.append_assoc], fun e he => (List.mem_append.1 he).elim (hadded' e) (hadded e)⟩

theorem adds_of_log {s s' : St η} (h : s'.log = s.log) : Adds P s s' := ⟨[], h, fun _ h => absurd h List.not_mem_nil⟩

theorem adds_cons {s s' : St η} {e : Entry} (he : P e) (h : s'.log = e :: s.log) : Adds P s s' :=
  ⟨[e], h, fun _ hx => List.mem_singleton.1 hx ▸ he⟩

variable [TransportHandler η]

theorem adds_outgoing {n : ℕ} (k : ∀ m < n, Calls (Adds Outward) (app m : Callback η)) :
    Outgoing (Adds Outward) (app n : Callback η) where
  same _ _ hs := adds_of_log (Prod.ext_iff.1 (Prod.ext_iff.1 (Prod.ext_iff.1 hs).2).2).2
  frame _ f _ := adds_cons (e := .frame f) trivial rfl
  wrote _ data failed := adds_cons (e := .wrote data failed) trivial rfl
  completed _ := adds_cons (e := .completed) trivial rfl
  outbound s c := adds_cons (e := .outbound c (TransportHandler.refuses s closeFrame)) trivial rfl
  startClose s := by
    have hpushed : Adds Outward s (s.push (.startClose s.session.state)) :=
      adds_cons (e := .startClose s.session.state) trivial rfl
    exact IsTrans.trans _ _ _ hpushed (adds_cons (e := .state .closing) trivial rfl)
  removed _ _ := adds_cons (e := .removed) trivial rfl
  notify s reason _ := by
    have hcall : Along (Adds Outward) (app n (.onDisconnect reason) : M η (List JString)) :=
      along_app k (fun _ => adds_cons (e := .called (.onDisconnect reason)) trivial rfl) fun _ =>
        adds_cons (e := .returned (.onDisconnect reason)) trivial rfl
    exact notify_related hcall (fun _ => adds_cons (e := .state .closed) trivial rfl) (fun _ => adds_of_log rfl) s

end

theorem Http.adds_calls (n : ℕ) : Calls (Adds Outward) (app n : Callback JettyContinuation.Handler) := by
  induction n using Nat.strong_induction_on with
  | _ n ih => exact Http.calls (adds_outgoing ih)

theorem Socket.adds_calls (n : ℕ) : Calls (Adds Outward) (app n : Callback JettyWebSocket.Handler) := by
  induction n using Nat.strong_induction_on with
  | _ n ih => exact Socket.calls (adds_outgoing ih)

/-- **What the application does in a callback adds only such entries**, with either handler. -/
theorem adds_behave (n : ℕ) :
    Along (Adds Outward) (behave n : M JettyContinuation.Handler (List JString)) ∧
      Along (Adds Outward) (behave n : M JettyWebSocket.Handler (List JString)) :=
  ⟨along_behave fun m _ => Http.adds_calls m, along_behave fun m _ => Socket.adds_calls m⟩

section

variable {η α : Type} {sees : Entry → Option α}

/-- nothing that `sees` looks for was added -/
def Unseen (sees : Entry → Option α) (s s' : St η) : Prop := s'.log.filterMap sees = s.log.filterMap sees

instance : Std.Refl (Unseen (η := η) sees) := ⟨fun _ => rfl⟩

instance : IsTrans (St η) (Unseen sees) := ⟨fun _ _ _ h h' => Eq.trans h' h⟩

theorem Adds.unseen {P : Entry → Prop} {s s' : St η} (h : Adds P s s') (hP : ∀ e, P e → sees e = none) : Unseen sees s s' := by
  obtain ⟨added, hlog, hadded⟩ := h
  rw [Unseen, hlog, List.filterMap_append, List.filterMap_eq_nil_iff.2 fun e he => hP e (hadded e he), List.nil_append]

end

/-- of a callback, only its call is seen -/
theorem filterMap_app {η α : Type} [TransportHandler η] {sees : Entry → Option α} {n : ℕ}
    (hunseen : Along (Unseen sees) (behave n : M η (List JString))) {c : InboundCall} (hreturned : sees (.returned c) = none)
    (s : St η) : (app n c s).2.log.filterMap sees = (sees (.called c)).toList ++ s.log.filterMap sees := by
  have hbehave : (behave n (s.push (.called c))).2.log.filterMap sees = (s.push (.called c)).log.filterMap sees :=
    hunseen (s.push (.called c))
  have hdropped : (app n c s).2.log.filterMap sees = (behave n (s.push (.called c))).2.log.filterMap sees :=
    List.filterMap_cons_none hreturned
  rw [hdropped, hbehave]
  cases h : sees (.called c) with
  | none => exact List.filterMap_cons_none h
  | some a => exact List.filterMap_cons_some h

theorem unseen_behave {α : Type} {sees : Entry → Option α} (h : ∀ e, Outward e → sees e = none) (n : ℕ) :
    Along (Unseen sees) (behave n : M JettyContinuation.Handler (List JString)) ∧
      Along (Unseen sees) (behave n : M JettyWebSocket.Handler (List JString)) :=
  ⟨(adds_behave n).1.mono fun _ _ hadds => hadds.unseen h, (adds_behave n).2.mono fun _ _ hadds => hadds.unseen h⟩

end SocketIOJava.JettyTraversal
