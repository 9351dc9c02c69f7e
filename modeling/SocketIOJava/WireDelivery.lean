/-
What a session writes.

Read off the history: `told`, the frames that `sendMessage` was given, each with the namespace of the last CONNECT frame
before it; `writes`, the texts that the connection took; and `spoken`, the frames that these are of, for a handler that
writes each frame at once and with nothing else in the text.

- `Keeps`: what a property of the session asks of its handler, so that the session keeps it, whatever it receives and whatever
  the application does (`Keeps.calls`, `Keeps.frames`).
- `Writer.keeps`: a handler that writes a frame at once, or not at all, keeps that what was written is, text by text, the
  encoding of what was spoken.
- `told_colon_free`, `spoken_colon_free`: no namespace has a colon, so each text is read as the frame that it begins with.
-/
import SocketIOJava.PollingDelivery
import SocketIOJava.Namespace

namespace SocketIOJava.WireDelivery

open Program SocketIOJava.Text SocketIOJava.Frame SocketIOJava.Session SocketIOJava.Run SocketIOJava.Traversal
open SocketIOJava.PollingDelivery (isOpening wasOpened endpointOf)

/-! ## The history -/

/-- the texts that the connection took, in order -/
def writes : List Entry → List JString
  | [] => []
  | .wrote text false :: past => writes past ++ [text]
  | _ :: past => writes past

/-- the frame that is written next, with the namespace at the time -/
def announced : List Entry → List (SocketIOFrame × JString)
  | .frame f :: past => [(f, endpointOf past)]
  | _ => []

/-- the frames of these texts -/
def spoken : List Entry → List (SocketIOFrame × JString)
  | [] => []
  | .wrote _ false :: past => spoken past ++ announced past
  | _ :: past => spoken past

/-- the frames that `sendMessage` was given, each with the namespace at the time -/
def told : List Entry → List (SocketIOFrame × JString)
  | [] => []
  | .frame f :: past => told past ++ [(f, endpointOf past)]
  | _ :: past => told past

/-- a text that the connection took -/
def Taken (e : Entry) : Prop := ∃ text, e = .wrote text false

theorem writes_cons {e : Entry} (he : ¬ Taken e) (log : List Entry) : writes (e :: log) = writes log := by
  cases e with
  | wrote text failed =>
    cases failed with
    | true => rfl
    | false => exact absurd ⟨text, rfl⟩ he
  | _ => rfl

theorem spoken_cons {e : Entry} (he : ¬ Taken e) (log : List Entry) : spoken (e :: log) = spoken log := by
  cases e with
  | wrote text failed =>
    cases failed with
    | true => rfl
    | false => exact absurd ⟨text, rfl⟩ he
  | _ => rfl

/-- a namespace has no colon -/
theorem namespaceOf_colon_free (data : JString) : SEPERATOR_CHAR ∉ namespaceOf data := by
  rcases Namespace.split_last SEPERATOR_CHAR data with h | ⟨p, t, rfl, ht⟩
  · rwa [Namespace.namespaceOf_free h]
  · rwa [Namespace.namespaceOf_append p ht]

theorem endpointOf_colon_free (log : List Entry) : SEPERATOR_CHAR ∉ endpointOf log := by
  induction log with
  | nil => exact List.not_mem_nil
  | cons e log ih =>
    cases e with
    | received f =>
      unfold endpointOf
      split_ifs
      · exact namespaceOf_colon_free _
      · exact ih
    | _ => exact ih

theorem told_colon_free (log : List Entry) : ∀ x ∈ told log, SEPERATOR_CHAR ∉ x.2 := by
  induction log with
  | nil => exact fun _ h => absurd h List.not_mem_nil
  | cons e log ih =>
    cases e with
    | frame f => exact List.forall_mem_append.2 ⟨ih, List.forall_mem_singleton.2 (endpointOf_colon_free log)⟩
    | _ => exact ih

theorem announced_colon_free (log : List Entry) : ∀ x ∈ announced log, SEPERATOR_CHAR ∉ x.2 := by
  unfold announced
  split
  · exact List.forall_mem_singleton.2 (endpointOf_colon_free _)
  · exact fun _ h => absurd h List.not_mem_nil

theorem spoken_colon_free (log : List Entry) : ∀ x ∈ spoken log, SEPERATOR_CHAR ∉ x.2 := by
  induction log with
  | nil => exact fun _ h => absurd h List.not_mem_nil
  | cons e log ih =>
    by_cases he : Taken e
    · obtain ⟨text, rfl⟩ := he
      exact List.forall_mem_append.2 ⟨ih, announced_colon_free log⟩
    · rw [spoken_cons he]; exact ih

/-- what was spoken is of what was told -/
theorem spoken_told (log : List Entry) : ∀ x ∈ spoken log, x ∈ told log := by
  induction log with
  | nil => exact fun _ h => h
  | cons e log ih =>
    have hkept : ∀ x ∈ told log, x ∈ told (e :: log) := fun x hx => by
      cases e with
      | frame f => exact List.mem_append_left _ hx
      | _ => exact hx
    by_cases he : Taken e
    · obtain ⟨text, rfl⟩ := he
      refine List.forall_mem_append.2 ⟨ih, fun x hx => ?_⟩
      unfold announced at hx
      split at hx
      · exact List.mem_append_right _ hx
      · exact absurd hx List.not_mem_nil
    · rw [spoken_cons he]
      exact fun x hx => hkept x (ih x hx)

/-! ## What the session keeps -/

/-- what is read off the history, the frames of `sendMessage` apart -/
def views (log : List Entry) : Bool × JString × List JString × List (SocketIOFrame × JString) :=
  (wasOpened log, endpointOf log, writes log, spoken log)

/-- a frame that is no CONNECT frame, or comes before the session is opened -/
theorem views_received {f : SocketIOFrame} {log : List Entry} (h : f.frameType = .connect → wasOpened log = false) :
    views (.received f :: log) = views log := by
  change (wasOpened log, endpointOf (.received f :: log), writes log, spoken log) = views log
  rw [endpointOf, if_neg fun hc => by cases (h hc.1).symm.trans hc.2]
  rfl

/-- the session's timer is nothing to a property of the handler and of the history -/
theorem startHeartbeatTimer_kept {η : Type} {I : St η → Prop} {s : St η}
    (hsame : ∀ {s' : St η}, s'.handler = s.handler → s'.session.handler = s.session.handler → views s'.log = views s.log →
      told s'.log = told s.log → Preserves I s s') : Preserves I s (startHeartbeatTimer s) := by
  obtain ⟨e, t, heq⟩ := startHeartbeatTimer_eq s
  rw [heq]
  exact hsame rfl rfl rfl rfl

/-- a property of states that the methods of the handler keep, and that depends on the handler and on the history -/
structure Keeps {η : Type} [TransportHandler η] (I : St η → Prop) : Prop where
  same : ∀ {s s' : St η}, s'.handler = s.handler → s'.session.handler = s.session.handler → views s'.log = views s.log →
    told s'.log = told s.log → Preserves I s s'
  attached : ∀ {s : St η}, I s → s.session.handler = wasOpened s.log
  /-- a CONNECT frame -/
  joined : ∀ {s : St η} {f : SocketIOFrame}, f.frameType = .connect → s.session.handler = true →
    ∃ h, TransportHandler.setNamespace (namespaceOf f.data) (s.push (.received f)) =
        (.ok (), { s.push (.received f) with handler := h }) ∧
      Preserves I s { s.push (.received f) with handler := h }
  sendMessage : ∀ cb f, Along (Preserves I) (Session.onDisconnect cb .timeout : M η Unit) →
    Along (Preserves I) (TransportHandler.abort cb : M η Unit) → Along (Preserves I) (TransportHandler.sendMessage cb f : M η Unit)
  abort : ∀ cb, Along (Preserves I) (Session.onShutdown cb : M η Unit) →
    Along (Preserves I) (TransportHandler.abort cb : M η Unit)
  disconnect : ∀ cb, Along (Preserves I) (Session.onDisconnect cb .disconnect : M η Unit) →
    Along (Preserves I) (TransportHandler.abort cb : M η Unit) →
    Along (Preserves I) (TransportHandler.disconnect cb : M η Unit)
  disconnectWhenEmpty : Along (Preserves I) (TransportHandler.disconnectWhenEmpty : M η Unit)
  isOpen : Along (Preserves I) (TransportHandler.isOpen : M η Bool)

namespace Keeps

variable {η : Type} [TransportHandler η] {I : St η → Prop} (w : Keeps I)
include w

theorem startTimeoutTimer (s : St η) : Preserves I s (startTimeoutTimer s) := by
  obtain ⟨e, t, l, heq⟩ := startTimeoutTimer_eq s
  rw [heq]
  exact w.same rfl rfl rfl rfl

theorem startHeartbeatTimer (s : St η) : Preserves I s (startHeartbeatTimer s) := startHeartbeatTimer_kept w.same

theorem received {f : SocketIOFrame} {s : St η} (h : f.frameType = .connect → s.session.handler = false) :
    Preserves I s (s.push (.received f)) := fun hs =>
  w.same (s := s) rfl rfl (views_received fun hf => (w.attached hs).symm.trans (h hf)) rfl hs

variable {n : ℕ}

section

variable (k : ∀ m < n, Calls (Preserves I) (app m : Callback η))
include k

theorem along_call_of (c : InboundCall) : Along (Preserves I) (app n c : M η (List JString)) :=
  along_app k (fun _ => w.same rfl rfl rfl rfl) fun _ => w.same rfl rfl rfl rfl

theorem along_onDisconnect_of (reason : DisconnectReason) :
    Along (Preserves I) (Session.onDisconnect (app n : Callback η) reason) := by
  have hclear (s : St η) : Preserves I s (clearHeartbeatTimer (clearTimeoutTimer s)) := w.same rfl rfl rfl rfl
  refine Traversal.along_onDisconnect_of hclear fun s _ => ?_
  exact notify_related (w.along_call_of k _) (fun _ => w.same rfl rfl rfl rfl) (fun _ => w.same rfl rfl rfl rfl) s

theorem moves_of : Moves (Preserves I) (app n : Callback η) where
  acts _ _ _ := w.same rfl rfl rfl rfl
  io _ := w.same rfl rfl rfl rfl
  outbound _ _ := w.same rfl rfl rfl rfl
  startClose _ := w.same rfl rfl rfl rfl
  onDisconnect reason _ _ := w.along_onDisconnect_of k reason
  removed _ _ := w.same rfl rfl rfl rfl

theorem calls_of : Calls (Preserves I) (app n : Callback η) where
  send _ f _ := w.sendMessage _ f (w.along_onDisconnect_of k .timeout) (w.abort _ (w.moves_of k).along_onShutdown) _
  abort := w.abort _ (w.moves_of k).along_onShutdown
  disconnect := w.disconnect _ (w.along_onDisconnect_of k .disconnect) (w.abort _ (w.moves_of k).along_onShutdown)
  isOpen := w.isOpen
  startClose := (w.moves_of k).startClose
  outbound := (w.moves_of k).outbound
  acts := (w.moves_of k).acts

end

variable (n)

/-- **Whatever the application calls**, the property is kept. -/
theorem calls : Calls (Preserves I) (app n : Callback η) := by
  induction n using Nat.strong_induction_on with
  | _ n ih => exact w.calls_of ih

theorem along_call (c : InboundCall) : Along (Preserves I) (app n c : M η (List JString)) :=
  w.along_call_of (fun m _ => w.calls m) c

theorem moves : Moves (Preserves I) (app n : Callback η) := w.moves_of fun m _ => w.calls m

theorem along_onDisconnect (reason : DisconnectReason) :
    Along (Preserves I) (Session.onDisconnect (app n : Callback η) reason) :=
  w.along_onDisconnect_of (fun m _ => w.calls m) reason

theorem closes : Closes (Preserves I) (app n : Callback η) where
  send := (w.calls n).send
  abort := (w.calls n).abort
  disconnectWhenEmpty := w.disconnectWhenEmpty
  onDisconnect reason _ := w.along_onDisconnect n reason
  acknowledged _ _ _ := w.same rfl rfl rfl rfl
  closing _ _ _ := w.same rfl rfl rfl rfl
  closed _ := w.same rfl rfl rfl rfl

/-- a CONNECT frame: its namespace is the handler's from then on -/
theorem along_connect {f : SocketIOFrame} (hf : f.frameType = .connect) :
    Along (Preserves I) (Session.onMessage (app n : Callback η) f) := by
  have hanswer : Along (Preserves I) (onConnectData (app n : Callback η) []) := fun _ =>
    sendOrAbort_related (fun _ => (w.calls n).send _ _ (sendable_connect _ _)) (w.calls n).abort
  intro s
  unfold Session.onMessage
  simp only [hf]
  rw [modify_bind]
  cases hh : s.session.handler with
  | false =>
    rw [derefHandler_null (s := s.push (.received f)) hh]
    exact w.received fun _ => hh
  | true =>
    rw [derefHandler_bind (s := s.push (.received f)) hh]
    obtain ⟨h', hset, hjoined⟩ := w.joined hf hh
    rw [bind_of_ok hset]
    refine IsTrans.trans _ _ _ hjoined ?_
    exact derefInbound_related fun _ => bind_related (w.along_call n _ _) fun _ => hanswer

/-- **Whatever it receives.** -/
theorem frames : Frames (Preserves I) (app n : Callback η) where
  connect _ hf := w.along_connect n hf
  heartbeat s f hf := by
    have hreceived : Preserves I s (s.push (.received f)) := w.received (by simp [hf])
    have hpong : Preserves I (s.push (.received f)) (onPong (s.push (.received f))) := w.same rfl rfl rfl rfl
    exact IsTrans.trans _ _ _ hreceived (IsTrans.trans _ _ _ hpong (w.startHeartbeatTimer _))
  close f hf :=
    (along_modify fun s => w.received (by simp [hf])).bind fun _ => (w.closes n).along_onClose f.data
  data f hf := by
    rw [onMessage_data hf]
    refine (along_modify fun s => w.received (fun hc => ?_)).bind fun _ =>
      along_onMessageText (fun s c _ _ => w.along_call n c s) (fun _ _ => w.same rfl rfl rfl rfl) _ _
    rcases hf with hf | hf | hf <;> cases hf.symm.trans hc
  ignored s f hf _ _ _ := w.received fun hc => absurd hc hf

theorem along_task (kind : TaskKind) : Along (Preserves I) (runTask (app n) kind : M η Unit) := by
  have hnext (s : St η) : Preserves I s (incrementMessageId s) := w.same rfl rfl rfl rfl
  cases kind with
  | sendPing => exact along_sendPing_of hnext (w.calls n).toSends w.startTimeoutTimer
  | onTimeout =>
    exact along_onTimeout_of (fun s => w.same rfl rfl rfl rfl) (w.along_onDisconnect n .timeout) (w.calls n).abort

theorem along_perform {κ : Type} {serve : Callback η → κ → M η Unit} {e : Event κ}
    (hserve : ∀ c, e = .container c → Along (Preserves I) (serve (app n) c)) : Along (Preserves I) (perform serve (app n) e) := by
  cases e with
  | container c => exact hserve c rfl
  | outbound call => exact (w.calls n).along_outbound call
  | tick _ => exact along_modify fun _ => w.same rfl rfl rfl rfl
  | fire t =>
    refine along_get_bind fun s => Along.ite (fun _ => ?_) (fun _ => along_pure _) s
    refine Along.bind (along_modify fun s => ?_) fun _ => w.along_task n t.kind
    exact w.same rfl rfl rfl rfl

/-- the application is told of the connection; if it throws, the session is aborted -/
theorem along_announce : Along (Preserves I) (announce (app n : Callback η)) := by
  refine Along.catching _ ((w.along_call n .onConnect).bind fun _ => along_pure _) ?_
  refine Along.bind (along_modify fun s => ?_) fun _ => (w.calls n).abort
  exact w.same rfl rfl rfl rfl

end Keeps

/-! ## The namespace -/

section

variable {η : Type} {endpoint : η → JString} {s s' : St η}

/-- the handler is attached and has the namespace of the history -/
structure Placed (endpoint : η → JString) (s : St η) : Prop where
  attached : s.session.handler = wasOpened s.log
  endpoint : endpoint s.handler = endpointOf s.log

theorem Placed.congr (h : Placed endpoint s) (hendpoint : endpoint s'.handler = endpoint s.handler)
    (hattached : s'.session.handler = s.session.handler) (hviews : views s'.log = views s.log) : Placed endpoint s' := by
  obtain ⟨hopened, hnamespace, -, -⟩ := by simpa only [views, Prod.mk.injEq] using hviews
  refine ⟨?_, ?_⟩
  · rw [hattached, hopened]; exact h.attached
  · rw [hendpoint, hnamespace]; exact h.endpoint

theorem Placed.joined (h : Placed endpoint s) {f : SocketIOFrame} (hf : f.frameType = .connect) (hh : s.session.handler = true)
    {h' : η} (hnamespace : endpoint h' = namespaceOf f.data) :
    Placed endpoint { s.push (.received f) with handler := h' } := by
  refine ⟨h.attached, hnamespace.trans ?_⟩
  exact (if_pos ⟨hf, h.attached.symm.trans hh⟩ : endpointOf (.received f :: s.log) = _).symm

end

/-! ## A handler that writes each frame at once -/

/-- what was written is what was spoken -/
structure Faithful {η : Type} (endpoint : η → JString) (Ready : η → Prop) (s : St η) : Prop extends Placed endpoint s where
  ready : Ready s.handler
  texts : writes s.log = (spoken s.log).map fun x => x.1.encode x.2

variable {η : Type} {endpoint : η → JString} {Ready : η → Prop} {s s' : St η}

theorem Faithful.congr (h : Faithful endpoint Ready s) (hready : Ready s.handler → Ready s'.handler)
    (hendpoint : endpoint s'.handler = endpoint s.handler) (hattached : s'.session.handler = s.session.handler)
    (hviews : views s'.log = views s.log) : Faithful endpoint Ready s' := by
  refine ⟨h.toPlaced.congr hendpoint hattached hviews, hready h.ready, ?_⟩
  obtain ⟨-, -, hwritten, hspoken⟩ := by simpa only [views, Prod.mk.injEq] using hviews
  rw [hwritten, hspoken]
  exact h.texts

/-- an update of what the delivery of messages does not depend on -/
theorem faithful_of (hready : Ready s.handler → Ready s'.handler) (hendpoint : endpoint s'.handler = endpoint s.handler)
    (hattached : s'.session.handler = s.session.handler) (hviews : views s'.log = views s.log) :
    Preserves (Faithful endpoint Ready) s s' := fun h => h.congr hready hendpoint hattached hviews

/-- the same, where the handler is what it was -/
theorem faithful_same (hhandler : s'.handler = s.handler) (hattached : s'.session.handler = s.session.handler)
    (hviews : views s'.log = views s.log) : Preserves (Faithful endpoint Ready) s s' :=
  faithful_of (fun h => hhandler ▸ h) (congrArg endpoint hhandler) hattached hviews

/-- the frame right below it in the history is written -/
theorem Faithful.wrote (h : Faithful endpoint Ready s) {f : SocketIOFrame} (hready : Ready s'.handler)
    (hendpoint : endpoint s'.handler = endpoint s.handler) (hattached : s'.session.handler = s.session.handler)
    (hlog : s'.log = .wrote (f.encode (endpoint s.handler)) false :: .frame f :: s.log) : Faithful endpoint Ready s' := by
  refine ⟨⟨?_, ?_⟩, hready, ?_⟩
  · rw [hattached, hlog]; exact h.attached
  · rw [hendpoint, hlog]; exact h.endpoint
  · rw [hlog]
    change writes s.log ++ [f.encode (endpoint s.handler)] = (spoken s.log ++ [(f, endpointOf s.log)]).map fun x => x.1.encode x.2
    rw [List.map_append, ← h.texts, h.endpoint]
    rfl

/-- what the methods of such a handler do -/
structure Writer [TransportHandler η] (endpoint : η → JString) (Ready : η → Prop) : Prop where
  sendMessage : ∀ cb f, Along (Preserves (Faithful endpoint Ready)) (TransportHandler.sendMessage cb f : M η Unit)
  abort : ∀ cb, Along (Preserves (Faithful endpoint Ready)) (Session.onShutdown cb : M η Unit) →
    Along (Preserves (Faithful endpoint Ready)) (TransportHandler.abort cb : M η Unit)
  disconnect : ∀ cb, Along (Preserves (Faithful endpoint Ready)) (Session.onDisconnect cb .disconnect : M η Unit) →
    Along (Preserves (Faithful endpoint Ready)) (TransportHandler.abort cb : M η Unit) →
    Along (Preserves (Faithful endpoint Ready)) (TransportHandler.disconnect cb : M η Unit)
  disconnectWhenEmpty : Along (Preserves (Faithful endpoint Ready)) (TransportHandler.disconnectWhenEmpty : M η Unit)
  isOpen : Along (Preserves (Faithful endpoint Ready)) (TransportHandler.isOpen : M η Bool)
  setNamespace : ∀ a (s : St η), ∃ h, TransportHandler.setNamespace a s = (.ok (), { s with handler := h }) ∧ endpoint h = a ∧
    (Ready s.handler → Ready h)

theorem Writer.keeps [TransportHandler η] (w : Writer endpoint Ready) : Keeps (Faithful endpoint Ready) where
  same hhandler hattached hviews _ := faithful_same hhandler hattached hviews
  attached h := h.attached
  joined hf hh := by
    obtain ⟨h', hset, hnamespace, hready⟩ := w.setNamespace _ _
    exact ⟨h', hset, fun h => ⟨h.toPlaced.joined hf hh hnamespace, hready h.ready, h.texts⟩⟩
  sendMessage cb f _ _ := w.sendMessage cb f
  abort := w.abort
  disconnect := w.disconnect
  disconnectWhenEmpty := w.disconnectWhenEmpty
  isOpen := w.isOpen

/-- a longer history has more writes -/
theorem writes_prefix {past log : List Entry} (h : past <:+ log) : writes past <+: writes log := by
  obtain ⟨added, rfl⟩ := h
  induction added with
  | nil => exact List.prefix_refl _
  | cons e added ih =>
    refine ih.trans ?_
    change writes (added ++ past) <+: writes (e :: (added ++ past))
    by_cases he : Taken e
    · obtain ⟨text, rfl⟩ := he
      exact List.prefix_append _ _
    · rw [writes_cons he]

end SocketIOJava.WireDelivery
