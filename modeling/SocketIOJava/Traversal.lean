/-
One traversal of the session's methods, for every property of runs.

`Calls R cb`, `Closes R cb`, `Frames R cb`: what a relation between states has to satisfy for the application's calls,
`onClose(data)` and received frames to be along it: the transport handler's methods are, and so is each update that the
session makes in between. Everything else is composed (`Calls.along_outbound`, `Frames.along_onMessage`, ...). A frame is
passed to the handler only where `Sendable` says so; `Kept R cb` is the simple case of a relation that holds of every
method in every state.

`along_behave`: with a relation that the calls keep at each smaller depth of callbacks, the application is along it.
-/
import SocketIOJava.Run

namespace SocketIOJava.Traversal

open Program SocketIOJava.Text SocketIOJava.Frame SocketIOJava.Session SocketIOJava.Run

variable {η : Type}

/-- a callback other than `onDisconnect` -/
def Ordinary (c : InboundCall) : Prop := ∀ reason, c ≠ .onDisconnect reason

theorem ordinary_onConnect : Ordinary .onConnect := fun _ => nofun

theorem ordinary_onMessage (key message : JString) : Ordinary (.onMessage key message) := fun _ => nofun

theorem ordinary_setEventnames : Ordinary .setEventnames := fun _ => nofun

theorem ordinary_setNamespace (a : JString) : Ordinary (.setNamespace a) := fun _ => nofun

section

variable [TransportHandler η]

/-- a frame with a message of the application -/
def IsData (f : SocketIOFrame) : Prop := f.frameType = .message ∨ f.frameType = .jsonMessage ∨ f.frameType = .event

/-- the key and the text with which a frame's message is passed to the application -/
def messageOf (f : SocketIOFrame) : Option (JString × JString) :=
  match f.frameType with
  | .message | .jsonMessage => some (str "message", f.data)
  | .event =>
    match findEvent f.data with
    | some (key, args) =>
      match unquote args with
      | .ok message => some (key, message)
      | .error _ => none
    | none => none
  | _ => none

/-- what the session makes sure of before a frame is passed to its handler -/
structure Sendable (s : St η) (f : SocketIOFrame) : Prop where
  close : f.frameType = .close → s.session.handler = true ∧ s.session.state = .closing
  data : IsData f → s.session.state = .connected

structure Kept (R : St η → St η → Prop) (cb : Callback η) : Prop where
  send : ∀ f, Along R (TransportHandler.sendMessage cb f)
  abort : Along R (TransportHandler.abort cb)
  disconnect : Along R (TransportHandler.disconnect cb)
  disconnectWhenEmpty : Along R (TransportHandler.disconnectWhenEmpty : M η Unit)
  setNamespace : ∀ a, Along R (TransportHandler.setNamespace a : M η Unit)
  isOpen : Along R (TransportHandler.isOpen : M η Bool)
  onDisconnect : ∀ reason, Along R (Session.onDisconnect cb reason)
  call : ∀ c, Ordinary c → Along R (cb c)
  startClose : ∀ s, R s (initiateClose s)
  acknowledged : ∀ s data, s.session.state = .closing → R s (s.push (.onClose .closing data))
  closing : ∀ s data, s.session.state ≠ .closing → R s (setState .closing (s.push (.onClose s.session.state data)))
  closed : ∀ s, R s (setState .closed s)
  received : ∀ s f, f.frameType ≠ .heartbeat → R s (s.push (.received f))
  listed : ∀ s names, R s (s.push (.listed names))
  heartbeat : ∀ s f, f.frameType = .heartbeat → R s (startHeartbeatTimer (onPong (s.push (.received f))))
  outbound : ∀ s c, R s (s.push (.outbound c (TransportHandler.refuses s closeFrame)))
  acts : ∀ s acts, acts <:+ s.acts → R s { s with acts := acts }

/-- what the sending of frames asks of a relation -/
structure Sends (R : St η → St η → Prop) (cb : Callback η) : Prop where
  send : ∀ s f, Sendable s f → R s (TransportHandler.sendMessage cb f s).2
  abort : Along R (TransportHandler.abort cb)
  isOpen : Along R (TransportHandler.isOpen : M η Bool)
  startClose : ∀ s, R s (initiateClose s)

/-- what all of the application's calls ask of it -/
structure Calls (R : St η → St η → Prop) (cb : Callback η) : Prop extends Sends R cb where
  disconnect : Along R (TransportHandler.disconnect cb)
  outbound : ∀ s c, R s (s.push (.outbound c (TransportHandler.refuses s closeFrame)))
  acts : ∀ s acts, acts <:+ s.acts → R s { s with acts := acts }

/-- what `onClose(data)` asks of it -/
structure Closes (R : St η → St η → Prop) (cb : Callback η) : Prop where
  send : ∀ s f, Sendable s f → R s (TransportHandler.sendMessage cb f s).2
  abort : Along R (TransportHandler.abort cb)
  disconnectWhenEmpty : Along R (TransportHandler.disconnectWhenEmpty : M η Unit)
  onDisconnect : ∀ reason, reason ≠ .timeout → Along R (Session.onDisconnect cb reason)
  acknowledged : ∀ s data, s.session.state = .closing → R s (s.push (.onClose .closing data))
  closing : ∀ s data, s.session.state ≠ .closing → R s (setState .closing (s.push (.onClose s.session.state data)))
  closed : ∀ s, R s (setState .closed s)

/-- what received frames ask of it; a frame that the session ignores is only noted -/
structure Frames (R : St η → St η → Prop) (cb : Callback η) : Prop where
  connect : ∀ f, f.frameType = .connect → Along R (Session.onMessage cb f)
  heartbeat : ∀ s f, f.frameType = .heartbeat → R s (startHeartbeatTimer (onPong (s.push (.received f))))
  close : ∀ f, f.frameType = .close →
    Along R (do
      modify fun s => s.push (.received f)
      Session.onClose cb f.data : M η Unit)
  data : ∀ f, IsData f → Along R (Session.onMessage cb f)
  ignored : ∀ s f, f.frameType ≠ .connect → f.frameType ≠ .heartbeat → f.frameType ≠ .close → ¬ IsData f →
    R s (s.push (.received f))

variable {s : St η} {f : SocketIOFrame}

omit [TransportHandler η] in
theorem sendable_of_connected (hf : f.frameType ≠ .close) (h : s.session.state = .connected) : Sendable s f :=
  ⟨fun h => absurd h hf, fun _ => h⟩

omit [TransportHandler η] in
theorem sendable_close (hf : f.frameType = .close) (hh : s.session.handler = true) (h : s.session.state = .closing) :
    Sendable s f :=
  ⟨fun _ => ⟨hh, h⟩, fun hd => by rcases hd with h | h | h <;> cases hf.symm.trans h⟩

omit [TransportHandler η] in
theorem sendable_heartbeat (data : JString) : Sendable s (.new .heartbeat FrameType.message.value data) :=
  ⟨nofun, fun hd => by rcases hd with h | h | h <;> cases h⟩

omit [TransportHandler η] in
theorem sendable_connect (messageType : ℤ) (data : JString) : Sendable s (.new .connect messageType data) :=
  ⟨nofun, fun hd => by rcases hd with h | h | h <;> cases h⟩

end

section

variable {R : St η → St η → Prop} [Std.Refl R]

/-- a use of the handler is followed where there is one -/
theorem derefHandler_related {α : Type} {s : St η} {k : Unit → M η α} (h : s.session.handler = true → R s (k () s).2) :
    R s ((derefHandler >>= k) s).2 := by
  cases hh : s.session.handler with
  | true => rw [derefHandler_bind hh]; exact h hh
  | false => rw [derefHandler_null hh]; exact Std.Refl.refl s

/-- a use of the inbound is followed where there is one -/
theorem derefInbound_related {α : Type} {s : St η} {k : Unit → M η α} (h : s.session.inbound = true → R s (k () s).2) :
    R s ((derefInbound >>= k) s).2 := by
  cases hi : s.session.inbound with
  | true => rw [derefInbound_bind hi]; exact h hi
  | false => rw [derefInbound_null hi]; exact Std.Refl.refl s

theorem along_derefHandler : Along R (derefHandler : M η Unit) :=
  along_get_bind fun s => by
    by_cases h : (!s.session.handler) = true
    · rw [if_pos h]; exact Std.Refl.refl s
    · rw [if_neg h]; exact Std.Refl.refl s

theorem along_lift {α : Type} (r : Except JavaException α) : Along R (lift r : M η α) := by
  cases r with
  | ok a => exact along_pure a
  | error e => exact along_stop _

/-- a text or event frame only calls the application back -/
theorem along_onMessageText [IsTrans (St η) R] {cb : Callback η}
    (call : ∀ s c, Ordinary c → s.session.inbound = true → R s (cb c s).2)
    (listed : ∀ s names, R s (s.push (.listed names))) (frameType : ℤ) (message : JString) :
    Along R (onMessageText cb frameType message) := by
  have hmessage : ∀ key m s, s.session.inbound = true → R s ((do let _ ← cb (.onMessage key m) : M η Unit) s).2 :=
    fun key m s hi => bind_related (call s _ (ordinary_onMessage key m) hi) fun _ => along_pure _
  refine along_get_bind fun s => ?_
  by_cases hi : s.session.inbound = true
  · rw [if_pos hi]
    by_cases htext : frameType = 1 ∨ frameType = 3 ∨ frameType = 4
    · rw [if_pos htext]; exact hmessage _ _ s hi
    · rw [if_neg htext]
      refine Along.ite (fun _ => .catching _ ?_ (along_pure _)) (fun _ => along_pure _) s
      cases findEvent message with
      | none => exact along_pure _
      | some event =>
        refine (along_lift _).bind fun args s => derefInbound_related fun hi => ?_
        refine bind_related (call s _ ordinary_setEventnames hi) fun names => ?_
        refine (along_modify fun s => listed s names).bind fun _ => along_forEach fun b _ => ?_
        exact Along.ite (fun _ s => derefInbound_related fun hi => hmessage _ _ s hi) fun _ => along_pure _
  · rw [if_neg hi]
    exact Std.Refl.refl s

end

section

variable [TransportHandler η] {R : St η → St η → Prop} [Std.Refl R] [IsTrans (St η) R] {cb : Callback η}

theorem sendOrAbort_related {s : St η} {f : SocketIOFrame}
    (hsend : s.session.handler = true → R s (TransportHandler.sendMessage cb f s).2)
    (habort : Along R (TransportHandler.abort cb)) : R s (sendOrAbort cb f s).2 :=
  catching_related (derefHandler_related hsend) (along_derefHandler.bind fun _ => habort)

/-- a frame that is not refused is sent, or the session has no handler -/
theorem sendOrAbort_accepted {f : SocketIOFrame} {s : St η}
    (h : ∀ e, (TransportHandler.sendMessage cb f s).1 = .error e → e.isSocketIOException = false) :
    (sendOrAbort cb f s).2 = s ∨ (sendOrAbort cb f s).2 = (TransportHandler.sendMessage cb f s).2 := by
  unfold sendOrAbort
  by_cases hh : s.session.handler = true
  · right
    have hsend : (do derefHandler; TransportHandler.sendMessage cb f : M η Unit) s =
        TransportHandler.sendMessage cb f s := derefHandler_bind hh _
    rcases hr : TransportHandler.sendMessage cb f s with ⟨r, s'⟩
    rw [hr] at hsend h
    cases r with
    | ok a => rw [catching_of_ok hsend]
    | error e => rw [catching_of_error hsend, if_neg (by rw [h e rfl]; exact Bool.false_ne_true)]
  · left
    have hderef := derefHandler_null (Bool.eq_false_iff.2 hh) fun _ => TransportHandler.sendMessage cb f
    rw [catching_of_error hderef, if_neg (by decide)]

namespace Sends

variable (k : Sends R cb)
include k

theorem along_startClose : Along R (Session.startClose cb) := by
  intro s
  change R s (sendOrAbort cb closeFrame (initiateClose s)).2
  refine IsTrans.trans _ _ _ (k.startClose s) (sendOrAbort_related (fun hh => ?_) k.abort)
  exact k.send _ _ (sendable_close rfl hh rfl)

theorem along_sendTyped (messageType : ℤ) (message : JString) : Along R (sendTyped cb messageType message) := by
  refine k.isOpen.bind fun b => along_get_bind fun s => ?_
  by_cases hc : b = true ∧ s.session.state = .connected
  · rw [if_pos hc]
    refine k.send _ _ (sendable_of_connected ?_ hc.2)
    split_ifs <;> exact nofun
  · rw [if_neg hc]
    exact Std.Refl.refl s

/-- a heartbeat frame, the session's ping or its answer to one -/
theorem along_heartbeat (data : JString) : Along R (sendOrAbort cb (.new .heartbeat FrameType.message.value data)) :=
  fun _ => sendOrAbort_related (fun _ => k.send _ _ (sendable_heartbeat data)) k.abort

end Sends

namespace Calls

variable (k : Calls R cb)
include k

theorem along_outboundMethod (c : OutboundCall) : Along R (outboundMethod cb c) := by
  cases c with
  | disconnect => exact k.disconnect
  | close => exact k.along_startClose
  | sendMessage message => exact k.along_sendTyped _ _
  | sendTyped messageType message => exact k.along_sendTyped _ _
  | emitMessage key message => exact k.along_sendTyped _ _

theorem along_outbound (c : OutboundCall) : Along R (Session.outbound cb c) := by
  refine along_derefHandler.bind fun _ => (along_modify fun s => k.outbound s c).bind fun _ => ?_
  exact k.along_outboundMethod c

end Calls

/-- **`onClose(data)` is along what its parts keep**: both branches answer in state CLOSING. -/
theorem Closes.along_onClose (k : Closes R cb) (data : JString) : Along R (Session.onClose cb data) := by
  refine along_get_bind fun s => ?_
  by_cases h : s.session.state = .closing
  · rw [if_pos h, modify_bind]
    refine IsTrans.trans _ _ _ (k.acknowledged s data h) ?_
    by_cases hid : s.session.closeId = some data
    · rw [if_pos hid]
      have hrest : Along R (do
          modify (setState .closed)
          Session.onDisconnect cb .closed
          derefHandler
          TransportHandler.abort cb : M η Unit) :=
        (along_modify k.closed).bind fun _ => (k.onDisconnect .closed (by decide)).bind fun _ =>
          along_derefHandler.bind fun _ => k.abort
      exact hrest _
    · rw [if_neg hid]
      exact sendOrAbort_related (fun hh => k.send _ _ (sendable_close rfl hh h)) k.abort
  · rw [if_neg h, modify_bind]
    refine IsTrans.trans _ _ _ (k.closing s data h) ?_
    refine catching_related (derefHandler_related fun hh => ?_) (along_derefHandler.bind fun _ => k.abort)
    refine bind_related (k.send _ _ (sendable_close rfl hh rfl)) fun _ => ?_
    refine along_derefHandler.bind fun _ => k.disconnectWhenEmpty.bind fun _ => ?_
    exact Along.ite (fun _ => k.onDisconnect .closedRemotely (by decide)) fun _ => along_pure _

omit [Std.Refl R] [IsTrans (St η) R] in
/-- a frame with a message of the application -/
theorem onMessage_data {f : SocketIOFrame} (hf : IsData f) :
    Session.onMessage cb f = (do
      modify fun s => s.push (.received f)
      onMessageText cb f.frameType.value f.data : M η Unit) := by
  unfold Session.onMessage
  rcases hf with hf | hf | hf <;> simp only [hf]

/-- the frames are followed where the calls and `onClose` are -/
theorem Sends.frames (k : Sends R cb) (onClose : ∀ data, Along R (Session.onClose cb data))
    (call : ∀ s c, Ordinary c → s.session.inbound = true → R s (cb c s).2)
    (setNamespace : ∀ a, Along R (TransportHandler.setNamespace a : M η Unit))
    (received : ∀ s f, f.frameType ≠ .heartbeat → R s (s.push (.received f)))
    (listed : ∀ s names, R s (s.push (.listed names)))
    (heartbeat : ∀ s f, f.frameType = .heartbeat → R s (startHeartbeatTimer (onPong (s.push (.received f))))) :
    Frames R cb where
  connect f hf := by
    have hanswer : Along R (onConnectData cb []) := fun _ =>
      sendOrAbort_related (fun _ => k.send _ _ (sendable_connect _ _)) k.abort
    unfold Session.onMessage
    simp only [hf]
    refine (along_modify fun s => received s f (by simp [hf])).bind fun _ => along_derefHandler.bind fun _ => ?_
    refine (setNamespace _).bind fun _ s => derefInbound_related fun hi => ?_
    exact bind_related (call s _ (ordinary_setNamespace _) hi) fun _ => hanswer
  heartbeat := heartbeat
  close f hf := (along_modify fun s => received s f (by simp [hf])).bind fun _ => onClose f.data
  data f hf := by
    rw [onMessage_data hf]
    refine (along_modify fun s => received s f fun h => ?_).bind fun _ => along_onMessageText call listed _ _
    rcases hf with hf | hf | hf <;> cases hf.symm.trans h
  ignored s f _ hf _ _ := received s f hf

namespace Frames

variable (k : Frames R cb)
include k

omit [Std.Refl R] [IsTrans (St η) R] in
theorem along_onMessage (f : SocketIOFrame) : Along R (Session.onMessage cb f) := by
  have hignored : f.frameType ≠ .connect → f.frameType ≠ .heartbeat → f.frameType ≠ .close → ¬ IsData f →
      Along R (modify fun s => s.push (.received f) : M η Unit) :=
    fun hc hh hl hd => along_modify fun s => k.ignored s f hc hh hl hd
  cases hf : f.frameType with
  | connect => exact k.connect f hf
  | message => exact k.data f (.inl hf)
  | jsonMessage => exact k.data f (.inr (.inl hf))
  | event => exact k.data f (.inr (.inr hf))
  | heartbeat => unfold Session.onMessage; simp only [hf]; exact along_modify fun s => k.heartbeat s f hf
  | close => unfold Session.onMessage; simp only [hf]; exact k.close f hf
  | unknown | ack | error | noop =>
    unfold Session.onMessage
    simp only [hf]
    exact hignored (by simp [hf]) (by simp [hf]) (by simp [hf]) (by simp [IsData, hf])

theorem along_frames (frames : List SocketIOFrame) : Along R (forEach frames (Session.onMessage cb)) :=
  along_forEach fun f _ => k.along_onMessage f

end Frames

/-! ## A relation kept by every method, in any state -/

namespace Kept

variable (k : Kept R cb)
include k

omit [Std.Refl R] [IsTrans (St η) R] in
theorem calls : Calls R cb where
  send s f _ := k.send f s
  abort := k.abort
  disconnect := k.disconnect
  isOpen := k.isOpen
  startClose := k.startClose
  outbound := k.outbound
  acts := k.acts

omit [Std.Refl R] [IsTrans (St η) R] in
theorem closes : Closes R cb where
  send s f _ := k.send f s
  abort := k.abort
  disconnectWhenEmpty := k.disconnectWhenEmpty
  onDisconnect reason _ := k.onDisconnect reason
  acknowledged := k.acknowledged
  closing := k.closing
  closed := k.closed

theorem frames : Frames R cb :=
  k.calls.frames k.closes.along_onClose (fun s c hc _ => k.call c hc s) k.setNamespace k.received k.listed k.heartbeat

theorem along_sendOrAbort (f : SocketIOFrame) : Along R (sendOrAbort cb f) :=
  fun _ => sendOrAbort_related (fun _ => k.send f _) k.abort

end Kept

/-- **The application is along what its calls keep**, at every depth of callbacks. -/
theorem along_behave_of {n : ℕ} (acts : ∀ s acts, acts <:+ s.acts → R s { s with acts := acts })
    (outbound : ∀ m < n, ∀ c, Along R (Session.outbound (app m : Callback η) c)) : Along R (behave n : M η (List JString)) := by
  induction n with
  | zero => exact along_pure _
  | succ n ih =>
    refine along_get_bind fun s => ?_
    cases hacts : s.acts with
    | nil => exact Std.Refl.refl s
    | cons a rest =>
      refine bind_related (acts s rest (hacts ▸ List.suffix_cons a rest)) fun _ => ?_
      cases a with
      | ret names => exact along_pure _
      | raise e => exact along_stop _
      | call c =>
        refine (Along.catching _ (outbound n (Nat.lt_succ_self n) c) (along_pure _)).bind fun _ => ?_
        exact ih fun m hm => outbound m (Nat.lt_succ_of_lt hm)

theorem along_behave {n : ℕ} (k : ∀ m < n, Calls R (app m : Callback η)) : Along R (behave n : M η (List JString)) := by
  cases n with
  | zero => exact along_pure _
  | succ n => exact along_behave_of (k n (Nat.lt_succ_self n)).acts fun m hm => (k m hm).along_outbound

end

/-! ## Relations that do not look at the handler and the timers -/

/-- the part of a state that says how far the session has come -/
def core (s : St η) : ConnectionState × Bool × Bool × List Entry :=
  (s.session.state, s.session.inbound, s.session.handler, s.log)

/-- entries of the log that concern the transport -/
def Silent : Entry → Prop
  | .frame _ | .wrote _ _ | .received _ | .listed _ | .text _ | .parked | .answered | .released | .completed | .finished _
  | .responded _ => True
  | .called c | .returned c => Ordinary c
  | _ => False

theorem core_startTimeoutTimer (s : St η) : core (startTimeoutTimer s) = core s := by
  obtain ⟨e, t, l, hs⟩ := startTimeoutTimer_eq s
  rw [hs]
  rfl

theorem core_startHeartbeatTimer (s : St η) : core (startHeartbeatTimer s) = core s := by
  obtain ⟨e, t, hs⟩ := startHeartbeatTimer_eq s
  rw [hs]
  rfl

/-- `notify` that completes leaves the session without an inbound -/
theorem notify_ok {cb : Callback η} {reason : DisconnectReason} {s s' : St η}
    (h : Session.notify cb reason s = (.ok (), s')) : s'.session.inbound = false := by
  unfold Session.notify at h
  rw [modify_bind] at h
  rcases hc : catching Abrupt.isThrowable (do let _ ← cb (.onDisconnect reason)) (pure ()) (setState .closed s)
    with ⟨r, s1⟩
  cases r with
  | ok a =>
    rw [bind_of_ok hc] at h
    cases h; rfl
  | error e => rw [bind_of_error hc] at h; cases h

/-- a callback, with the application -/
theorem app_snd [TransportHandler η] (n : ℕ) (c : InboundCall) (s : St η) :
    (app n c s).2 = (behave n (s.push (.called c))).2.push (.returned c) := rfl

/-- a callback of the application never hangs -/
theorem behave_error [TransportHandler η] {n : ℕ} {s : St η} {e : Abrupt} (h : (behave n s).1 = .error e) :
    e.isThrowable = true := by
  induction n generalizing s with
  | zero => cases h
  | succ n ih =>
    simp only [behave, get_bind] at h
    cases hacts : s.acts with
    | nil => rw [hacts] at h; cases h
    | cons a acts =>
      simp only [hacts, modify_bind] at h
      cases a with
      | ret names => cases h
      | raise e => cases h; rfl
      | call c =>
        obtain ⟨b, s₁, hr⟩ := catching_all (outbound (inboundCall (behave n)) c) () { s with acts := acts }
        dsimp only at h
        rw [bind_of_ok hr] at h
        exact ih h

/-- what an exception of a callback leaves is caught -/
theorem catching_app [TransportHandler η] (n : ℕ) (c : InboundCall) (s : St η) :
    catching Abrupt.isThrowable (do let _ ← app n c : M η Unit) (pure ()) s = (.ok (), (app n c s).2) := by
  rcases hr : (app n c : M η (List JString)) s with ⟨r, s₁⟩
  cases r with
  | ok names =>
    have hcall : (do let _ ← app n c : M η Unit) s = (.ok (), s₁) := bind_of_ok hr _
    exact catching_of_ok hcall _ _
  | error e =>
    have hthrown : e.isThrowable = true := behave_error (congrArg Prod.fst hr)
    have hcall : (do let _ ← app n c : M η Unit) s = (.error e, s₁) := bind_of_error hr _
    exact (catching_of_error hcall _ _).trans (if_pos hthrown)

/-- with the application, `notify` always completes and drops the inbound -/
theorem notify_eq [TransportHandler η] (n : ℕ) (reason : DisconnectReason) (s : St η) :
    Session.notify (app n) reason s =
      (.ok (), { (app n (.onDisconnect reason) (setState .closed s)).2 with session.inbound := false }) := by
  unfold Session.notify
  rw [modify_bind, bind_of_ok (catching_app n (.onDisconnect reason) (setState .closed s))]
  rfl

theorem notify_app [TransportHandler η] (n : ℕ) (reason : DisconnectReason) (s : St η) :
    (Session.notify (app n) reason s).2 =
      { (app n (.onDisconnect reason) (setState .closed s)).2 with session.inbound := false } := by
  rw [notify_eq]

/-- of a session that has an inbound -/
theorem onDisconnect_notify (cb : Callback η) (reason : DisconnectReason) {s : St η} (hi : s.session.inbound = true) :
    Session.onDisconnect cb reason s = Session.notify cb reason (clearHeartbeatTimer (clearTimeoutTimer s)) := by
  have hinbound : (clearHeartbeatTimer (clearTimeoutTimer s)).session.inbound = true := hi
  unfold Session.onDisconnect
  rw [modify_bind, modify_bind, get_bind, if_pos hinbound]

/-- a session that has no inbound calls nobody when it is disconnected -/
theorem onDisconnect_null (cb : Callback η) (reason : DisconnectReason) {s : St η} (hi : s.session.inbound = false) :
    Session.onDisconnect cb reason s = (.ok (), clearHeartbeatTimer (clearTimeoutTimer s)) := by
  have hnull : ¬ (clearHeartbeatTimer (clearTimeoutTimer s)).session.inbound = true := Bool.eq_false_iff.1 hi
  unfold Session.onDisconnect
  rw [modify_bind, modify_bind, get_bind, if_neg hnull]
  rfl

/-- and so does `onDisconnect` -/
theorem onDisconnect_app [TransportHandler η] (n : ℕ) (reason : DisconnectReason) (s : St η) :
    ∃ s', Session.onDisconnect (app n) reason s = (.ok (), s') := by
  cases hi : s.session.inbound with
  | true => exact ⟨_, (onDisconnect_notify _ reason hi).trans (notify_eq n reason _)⟩
  | false => exact ⟨_, onDisconnect_null _ reason hi⟩

section

variable [TransportHandler η] {R : St η → St η → Prop} [Std.Refl R] [IsTrans (St η) R] {n : ℕ}

/-- a callback is along what the application's calls keep, with its start and its end in the log -/
theorem along_app (k : ∀ m < n, Calls R (app m : Callback η)) {c : InboundCall} (called : ∀ s, R s (s.push (.called c)))
    (returned : ∀ s, R s (s.push (.returned c))) : Along R (app n c : M η (List JString)) :=
  (along_modify called).bind fun _ => (along_behave k).ending returned

omit [Std.Refl R] in
/-- `notify` around a callback that is -/
theorem notify_related {reason : DisconnectReason} (call : Along R (app n (.onDisconnect reason) : M η (List JString)))
    (closed : ∀ s, R s (setState .closed s)) (drop : ∀ s, R s { s with session.inbound := false }) :
    Along R (Session.notify (app n : Callback η) reason) := by
  intro s
  rw [notify_app]
  exact IsTrans.trans _ _ _ (closed s) (IsTrans.trans _ _ _ (call _) (drop _))

end

theorem onShutdown_app [TransportHandler η] (n : ℕ) (s : St η) : ∃ s', Session.onShutdown (app n) s = (.ok (), s') := by
  rcases onShutdown_cases (app n) s with ⟨-, reason, -, heq⟩ | ⟨-, heq⟩
  · obtain ⟨s', hs'⟩ := onDisconnect_app n reason s
    exact ⟨removeSession s', heq.trans (bind_of_ok hs' _)⟩
  · exact ⟨_, heq⟩

theorem onDisconnect_ok {cb : Callback η} {reason : DisconnectReason} {s s' : St η}
    (h : Session.onDisconnect cb reason s = (.ok (), s')) : s'.session.inbound = false := by
  unfold Session.onDisconnect at h
  rw [modify_bind, modify_bind, get_bind] at h
  by_cases hi : (clearHeartbeatTimer (clearTimeoutTimer s)).session.inbound = true
  · rw [if_pos hi] at h; exact notify_ok h
  · rw [if_neg hi] at h
    cases h
    exact Bool.eq_false_iff.2 hi

/-- nor does `onShutdown` leave an inbound -/
theorem onShutdown_inbound [TransportHandler η] (n : ℕ) (s : St η) :
    (Session.onShutdown (app n) s).2.session.inbound = false := by
  rcases onShutdown_cases (app n) s with ⟨-, reason, -, heq⟩ | ⟨hi, heq⟩
  · obtain ⟨s', hs'⟩ := onDisconnect_app n reason s
    have hgone : s'.session.inbound = false := onDisconnect_ok hs'
    rw [heq, bind_of_ok hs']
    exact hgone
  · rw [heq]
    exact hi

section

variable [TransportHandler η]

/-- what a relation on the core has to satisfy at each update that the session makes -/
structure Updates (R : St η → St η → Prop) : Prop where
  same : ∀ s s', core s' = core s → R s s'
  silent : ∀ s e, Silent e → R s (s.push e)
  outbound : ∀ s c, R s (s.push (.outbound c (TransportHandler.refuses s closeFrame)))
  startClose : ∀ s, R s (initiateClose s)
  acknowledged : ∀ s data, s.session.state = .closing → R s (s.push (.onClose .closing data))
  closing : ∀ s data, s.session.state ≠ .closing → R s (setState .closing (s.push (.onClose s.session.state data)))
  closed : ∀ s, R s (setState .closed s)
  removed : ∀ s, s.session.inbound = false → R s (removeSession s)

/-- what it has to satisfy in addition for the request that connects -/
structure Opens (R : St η → St η → Prop) : Prop where
  opened : ∀ s, s.session.handler = false → s.session.inbound = true →
    R s (setState .connected ((attach s).push (.opened s.session.state)))
  attached : ∀ s, R s (attach s)

/-- the same, with the application -/
structure Core (R : St η → St η → Prop) (cb : Callback η) : Prop extends Updates R where
  notify : ∀ s reason, s.session.inbound = true → R s (Session.notify cb reason s).2
  call : ∀ c, Ordinary c → Along R (cb c)

/-- what the session does on the application's calls, apart from its use of the handler; neither TIMEOUT nor CLOSED is
its reason -/
structure Moves (R : St η → St η → Prop) (cb : Callback η) : Prop where
  acts : ∀ s acts, acts <:+ s.acts → R s { s with acts := acts }
  io : ∀ s, R s { s with io := s.io.tail }
  outbound : ∀ s c, R s (s.push (.outbound c (TransportHandler.refuses s closeFrame)))
  startClose : ∀ s, R s (initiateClose s)
  onDisconnect : ∀ reason, reason ≠ .timeout → reason ≠ .closed → Along R (Session.onDisconnect cb reason)
  removed : ∀ s, s.session.inbound = false → R s (removeSession s)

/-- what the application's calls do to the core, with no more frames than the session passes on -/
structure Outgoing (R : St η → St η → Prop) (cb : Callback η) : Prop where
  same : ∀ s s', core s' = core s → R s s'
  frame : ∀ s f, Sendable s f → R s (s.push (.frame f))
  wrote : ∀ s data failed, R s (s.push (.wrote data failed))
  completed : ∀ s, R s (s.push .completed)
  outbound : ∀ s c, R s (s.push (.outbound c (TransportHandler.refuses s closeFrame)))
  startClose : ∀ s, R s (initiateClose s)
  removed : ∀ s, s.session.inbound = false → R s (removeSession s)
  notify : ∀ s reason, s.session.inbound = true → R s (Session.notify cb reason s).2

/-- entries that only the container's events add -/
def Hosted : Entry → Prop
  | .text _ | .parked | .answered | .released | .finished _ | .responded _ => True
  | _ => False

/-- and what the container's events and the executor's tasks do to it, received frames apart -/
structure Serving (R : St η → St η → Prop) (cb : Callback η) : Prop extends Outgoing R cb where
  hosted : ∀ s e, Hosted e → R s (s.push e)
  closed : ∀ s, R s (setState .closed s)
  onConnect : ∀ s, s.session.inbound = true → R s (cb .onConnect s).2

/-- the same with received frames, for a relation that follows each of their updates -/
structure Incoming (R : St η → St η → Prop) (cb : Callback η) : Prop extends Outgoing R cb where
  silent : ∀ s e, Silent e → (∀ f, e ≠ .frame f) → R s (s.push e)
  acknowledged : ∀ s data, s.session.state = .closing → R s (s.push (.onClose .closing data))
  closing : ∀ s data, s.session.state ≠ .closing → R s (setState .closing (s.push (.onClose s.session.state data)))
  closed : ∀ s, R s (setState .closed s)
  call : ∀ s c, Ordinary c → s.session.inbound = true → R s (cb c s).2

/-- the methods of the session -/
structure Steps (R : St η → St η → Prop) (cb : Callback η) : Prop where
  calls : Calls R cb
  closes : Closes R cb
  frames : Frames R cb

variable {R : St η → St η → Prop} {cb : Callback η}

namespace Core

variable (c : Core R cb)
include c

theorem incoming : Incoming R cb where
  same := c.same
  frame s f _ := c.silent s (.frame f) trivial
  wrote s data failed := c.silent s (.wrote data failed) trivial
  completed s := c.silent s .completed trivial
  outbound := c.outbound
  startClose := c.startClose
  removed := c.removed
  notify := c.notify
  silent s e he _ := c.silent s e he
  acknowledged := c.acknowledged
  closing := c.closing
  closed := c.closed
  call s call hc _ := c.call call hc s

end Core

/-- `onConnect(handler)` for a handler -/
theorem Opens.along_onConnect [Std.Refl R] [IsTrans (St η) R] (opens : Opens R) (closed : ∀ s, R s (setState .closed s))
    (call : ∀ s, s.session.inbound = true → R s (cb .onConnect s).2) (abort : Along R (TransportHandler.abort cb)) :
    Along R (Session.onConnect cb true) := by
  intro s
  cases hh : s.session.handler with
  | true =>
    rw [onConnect_again cb hh]
    exact abort s
  | false =>
    cases hi : s.session.inbound with
    | true =>
      rw [onConnect_first cb hh hi]
      refine IsTrans.trans _ _ _ (opens.opened s hh hi) ?_
      refine catching_related (bind_related (call _ hi) fun _ => along_pure _) ?_
      exact (along_modify closed).bind fun _ => abort
    | false =>
      rw [onConnect_dropped cb hh hi]
      have hclosed : R s (setState .closed (attach s)) := IsTrans.trans _ _ _ (opens.attached s) (closed _)
      exact IsTrans.trans _ _ _ hclosed (abort _)

omit [TransportHandler η] in
/-- `onDisconnect` is the end of the timers and, where there is an inbound, `notify` -/
theorem along_onDisconnect_of [Std.Refl R] [IsTrans (St η) R] (clear : ∀ s, R s (clearHeartbeatTimer (clearTimeoutTimer s)))
    {reason : DisconnectReason} (notify : ∀ s, s.session.inbound = true → R s (Session.notify cb reason s).2) :
    Along R (Session.onDisconnect cb reason) := by
  intro s
  unfold Session.onDisconnect
  rw [modify_bind, modify_bind, get_bind]
  refine IsTrans.trans _ _ _ (clear s) ?_
  by_cases h : (clearHeartbeatTimer (clearTimeoutTimer s)).session.inbound = true
  · rw [if_pos h]; exact notify _ h
  · rw [if_neg h]; exact Std.Refl.refl _

omit [TransportHandler η] in
/-- a write takes its outcome from the environment -/
theorem along_write_of [Std.Refl R] [IsTrans (St η) R] (io : ∀ s : St η, R s { s with io := s.io.tail }) :
    Along R (write : M η Unit) := by
  refine along_get_bind fun s => bind_related (io s) fun _ => ?_
  exact Along.ite (fun _ => along_stop _) fun _ => along_pure _

/-- an update of the session that leaves the handler and its fields alone, and gives the application no new act -/
structure Aside (s s' : St η) : Prop where
  fields : s'.handler = s.handler
  attached : s'.session.handler = s.session.handler
  acts : s'.acts <:+ s.acts

omit [TransportHandler η] in
theorem aside_rfl {s s' : St η} (hfields : s'.handler = s.handler) (hattached : s'.session.handler = s.session.handler)
    (hacts : s'.acts = s.acts) : Aside s s' := ⟨hfields, hattached, hacts ▸ List.suffix_refl _⟩

section Aside

variable [Std.Refl R] [IsTrans (St η) R] {n : ℕ} (aside : ∀ s s', Aside s s' → R s s')
  (k : ∀ m < n, Calls R (app m : Callback η))
include aside k

/-- a relation that such updates keep is kept by callbacks, where the application's calls keep it -/
theorem along_app_aside (c : InboundCall) : Along R (app n c : M η (List JString)) :=
  along_app k (fun _ => aside _ _ (aside_rfl rfl rfl rfl)) fun _ => aside _ _ (aside_rfl rfl rfl rfl)

theorem along_onDisconnect_aside (reason : DisconnectReason) :
    Along R (Session.onDisconnect (app n : Callback η) reason) := by
  have hclear : ∀ s : St η, R s (clearHeartbeatTimer (clearTimeoutTimer s)) := fun _ => aside _ _ (aside_rfl rfl rfl rfl)
  refine along_onDisconnect_of hclear fun s _ => ?_
  refine notify_related (along_app_aside aside k _) (fun _ => ?_) (fun _ => ?_) s
  · exact aside _ _ (aside_rfl rfl rfl rfl)
  · exact aside _ _ (aside_rfl rfl rfl rfl)

theorem moves_aside : Moves R (app n : Callback η) where
  acts _ _ hacts := aside _ _ ⟨rfl, rfl, hacts⟩
  io _ := aside _ _ (aside_rfl rfl rfl rfl)
  outbound _ _ := aside _ _ (aside_rfl rfl rfl rfl)
  startClose _ := aside _ _ (aside_rfl rfl rfl rfl)
  onDisconnect reason _ _ := along_onDisconnect_aside aside k reason
  removed _ _ := aside _ _ (aside_rfl rfl rfl rfl)

end Aside

namespace Moves

variable (m : Moves R cb) [Std.Refl R] [IsTrans (St η) R]
include m

theorem along_write : Along R (write : M η Unit) := along_write_of m.io

omit [Std.Refl R] in
theorem along_onShutdown : Along R (Session.onShutdown cb) := by
  intro s
  rcases onShutdown_cases cb s with ⟨-, reason, ⟨htimeout, hclosed⟩, heq⟩ | ⟨h, heq⟩
  · rw [heq]
    exact bind_related_ok (m.onDisconnect reason htimeout hclosed s) fun _ s' hs => m.removed s' (onDisconnect_ok hs)
  · rw [heq]
    exact m.removed s h

end Moves

theorem Calls.mono {S : St η → St η → Prop} (k : Calls R cb) (h : ∀ s s', R s s' → S s s') : Calls S cb where
  send s f hf := h _ _ (k.send s f hf)
  abort := k.abort.mono h
  disconnect := k.disconnect.mono h
  isOpen := k.isOpen.mono h
  startClose s := h _ _ (k.startClose s)
  outbound s c := h _ _ (k.outbound s c)
  acts s acts hacts := h _ _ (k.acts s acts hacts)

namespace Outgoing

variable (c : Outgoing R cb)
include c

theorem mono {S : St η → St η → Prop} (h : ∀ s s', R s s' → S s s') : Outgoing S cb where
  same s s' hs := h _ _ (c.same s s' hs)
  frame s f hf := h _ _ (c.frame s f hf)
  wrote s data failed := h _ _ (c.wrote s data failed)
  completed s := h _ _ (c.completed s)
  outbound s call := h _ _ (c.outbound s call)
  startClose s := h _ _ (c.startClose s)
  removed s hs := h _ _ (c.removed s hs)
  notify s reason hs := h _ _ (c.notify s reason hs)

theorem along_same {f : St η → St η} (h : ∀ s, core (f s) = core s) : Along R (modify f : M η Unit) :=
  along_modify fun s => c.same _ _ (h s)

variable [Std.Refl R] [IsTrans (St η) R]

theorem along_onDisconnect (reason : DisconnectReason) : Along R (Session.onDisconnect cb reason) :=
  along_onDisconnect_of (fun s => c.same s _ rfl) fun s => c.notify s reason

theorem moves : Moves R cb where
  acts _ _ _ := c.same _ _ rfl
  io _ := c.same _ _ rfl
  outbound := c.outbound
  startClose := c.startClose
  onDisconnect reason _ _ := c.along_onDisconnect reason
  removed := c.removed

theorem along_write : Along R (write : M η Unit) := c.moves.along_write

theorem along_onShutdown : Along R (Session.onShutdown cb) := c.moves.along_onShutdown

end Outgoing

namespace Incoming

variable (c : Incoming R cb)
include c

theorem serving : Serving R cb where
  toOutgoing := c.toOutgoing
  hosted s e he := by
    refine c.silent s e ?_ fun f hf => ?_
    · cases e <;> trivial
    · rw [hf] at he; exact he
  closed := c.closed
  onConnect s hi := c.call s .onConnect ordinary_onConnect hi

/-- the heartbeat answer touches only the timers -/
theorem heartbeat [IsTrans (St η) R] (s : St η) (f : SocketIOFrame) :
    R s (startHeartbeatTimer (onPong (s.push (.received f)))) :=
  IsTrans.trans _ _ _ (c.silent s (.received f) trivial nofun) (c.same _ _ (core_startHeartbeatTimer _))

variable [Std.Refl R] [IsTrans (St η) R]

/-- a handler's calls give all methods of the session -/
theorem steps (calls : Calls R cb) (disconnectWhenEmpty : Along R (TransportHandler.disconnectWhenEmpty : M η Unit))
    (setNamespace : ∀ a, Along R (TransportHandler.setNamespace a : M η Unit)) : Steps R cb := by
  have closes : Closes R cb :=
    { send := calls.send, abort := calls.abort, disconnectWhenEmpty := disconnectWhenEmpty
      onDisconnect := fun reason _ => c.along_onDisconnect reason, acknowledged := c.acknowledged, closing := c.closing
      closed := c.closed }
  refine ⟨calls, closes, calls.frames closes.along_onClose c.call setNamespace (fun s f _ => ?_) (fun s names => ?_)
    fun s f _ => c.heartbeat s f⟩
  · exact c.silent s (.received f) trivial nofun
  · exact c.silent s (.listed names) trivial nofun

end Incoming

/-- a timeout is an end of the session and an abort -/
theorem along_onTimeout_of [Std.Refl R] [IsTrans (St η) R]
    (expire : ∀ s, R s (setState .closed { s with session.timedout := true }))
    (onDisconnect : Along R (Session.onDisconnect cb .timeout)) (abort : Along R (TransportHandler.abort cb)) :
    Along R (Session.onTimeout cb) := by
  refine along_get_bind fun s => Along.ite (fun _ => ?_) (fun _ => along_pure _) s
  exact (along_modify expire).bind fun _ => onDisconnect.bind fun _ => along_derefHandler.bind fun _ => abort

/-- a ping is a frame and a start of the timeout timer -/
theorem along_sendPing_of [Std.Refl R] [IsTrans (St η) R] (next : ∀ s, R s (incrementMessageId s)) (sends : Sends R cb)
    (startTimeout : ∀ s, R s (startTimeoutTimer s)) : Along R (Session.sendPing cb) := by
  refine (along_modify next).bind fun _ => along_get.bind fun s => ?_
  exact (sends.along_heartbeat _).bind fun _ => along_modify startTimeout

/-- **Every event is along the relation** when the container's are, the application's calls and the executor's tasks. -/
theorem along_perform_of [Std.Refl R] [IsTrans (St η) R] {κ : Type} {serve : Callback η → κ → M η Unit}
    (serves : ∀ e, Along R (serve cb e)) (outbound : ∀ c, Along R (Session.outbound cb c)) (start : ∀ t s, R s (startTask t s))
    (tasks : ∀ kind, Along R (runTask cb kind)) (ticks : ∀ d s, R s (tick d s)) (e : Event κ) :
    Along R (perform serve cb e) := by
  cases e with
  | container e => exact serves e
  | outbound call => exact outbound call
  | tick d => exact along_modify (ticks d)
  | fire t =>
    refine along_get_bind fun s => Along.ite (fun _ => ?_) (fun _ => along_pure _) s
    exact (along_modify (start t)).bind fun _ => tasks t.kind

/-- **Every method of the session, called directly, is along the relation** when the parts are that the methods share. -/
theorem along_sessionCall_of [Std.Refl R] [IsTrans (St η) R] (k : Steps R cb) (opens : Opens R)
    (call : ∀ s, s.session.inbound = true → R s (cb .onConnect s).2) (refused : ∀ s, R s (Session.onConnect cb false s).2)
    (pong : ∀ s, R s (onPong s)) (onDisconnect : ∀ reason, Along R (Session.onDisconnect cb reason))
    (onTimeout : Along R (Session.onTimeout cb)) (onShutdown : Along R (Session.onShutdown cb)) (method : SessionCall) :
    Along R (sessionCall cb method) := by
  cases method with
  | startClose => exact k.calls.along_startClose
  | onMessage f => exact k.frames.along_onMessage f
  | onPing data => exact k.calls.along_heartbeat data
  | onPong => exact along_modify pong
  | onClose data => exact k.closes.along_onClose data
  | onDisconnect reason => exact onDisconnect reason
  | onTimeout => exact onTimeout
  | onShutdown => exact onShutdown
  | onConnect handler =>
    cases handler with
    | true => exact opens.along_onConnect k.closes.closed call k.calls.abort
    | false => exact refused

namespace Serving

variable (c : Serving R cb)
include c

variable [Std.Refl R] [IsTrans (St η) R] (k : Steps R cb)
include k

theorem along_onTimeout : Along R (Session.onTimeout cb) := by
  refine along_onTimeout_of (fun s => ?_) (c.along_onDisconnect _) k.calls.abort
  exact IsTrans.trans s { s with session.timedout := true } _ (c.same _ _ rfl) (c.closed _)

theorem along_runTask (kind : TaskKind) : Along R (runTask cb kind) := by
  cases kind with
  | onTimeout => exact c.along_onTimeout k
  | sendPing =>
    exact along_sendPing_of (fun s => c.same s _ rfl) k.calls.toSends fun s => c.same s _ (core_startTimeoutTimer s)

theorem along_perform {κ : Type} {serve : Callback η → κ → M η Unit} (h : ∀ e, Along R (serve cb e)) (e : Event κ) :
    Along R (perform serve cb e) :=
  along_perform_of h k.calls.along_outbound (fun _ s => c.same s _ rfl) (c.along_runTask k) (fun _ s => c.same s _ rfl) e

/-- `onConnect(handler)` for a handler -/
theorem along_onConnect (opens : Opens R) : Along R (Session.onConnect cb true) :=
  opens.along_onConnect c.closed c.onConnect k.calls.abort

/-- every direct call of the session is along the relation, if dropping the inbound of a closed session is -/
theorem along_sessionCall (opens : Opens R)
    (drop : ∀ s : St η, s.session.state = .closed → R s { s with session.inbound := false })
    (call : SessionCall) : Along R (sessionCall cb call) := by
  refine along_sessionCall_of k opens c.onConnect (fun s => ?_) (fun s => c.same s _ rfl) c.along_onDisconnect
    (c.along_onTimeout k) c.along_onShutdown call
  refine IsTrans.trans _ _ _ (c.closed s) (IsTrans.trans _ _ _ (drop (setState .closed s) rfl) ?_)
  exact c.removed _ rfl

end Serving

/-- **A relation that the updates and `notify` keep is kept at every depth of callbacks**, if the handler keeps it. -/
theorem Updates.core_app [Std.Refl R] [IsTrans (St η) R] (u : Updates R)
    (hsteps : ∀ n, Incoming R (app n : Callback η) → Steps R (app n : Callback η))
    (hnotify : ∀ n, (∀ m < n, Calls R (app m : Callback η)) →
      ∀ s reason, s.session.inbound = true → R s (Session.notify (app n) reason s).2) (n : ℕ) :
    Core R (app n : Callback η) := by
  induction n using Nat.strong_induction_on with
  | _ n ih =>
    have hsmaller : ∀ m < n, Calls R (app m : Callback η) := fun m hm => (hsteps m (ih m hm).incoming).calls
    refine { u with notify := hnotify n hsmaller, call := fun c hc => ?_ }
    refine (along_modify fun s => u.silent s (.called c) hc).bind fun _ => ?_
    exact (along_behave hsmaller).ending fun s => u.silent s (.returned c) hc

/-- a relation kept by each step of a run holds between its first and its last state -/
theorem run_of_steps {κ : Type} [Std.Refl R] [IsTrans (St η) R] {serve : Callback η → κ → M η Unit} {is : List (Input κ)}
    (h : ∀ s, ∀ i ∈ is, R s (step serve s i)) (s : St η) : R s (run serve s is) := by
  induction is generalizing s with
  | nil => exact Std.Refl.refl s
  | cons i is ih =>
    have hrest := ih (fun s j hj => h s j (List.mem_cons_of_mem i hj)) (step serve s i)
    exact IsTrans.trans _ _ _ (h s i List.mem_cons_self) hrest

/-- **A relation kept by every event holds between the first and the last state of a run.** -/
theorem run_related {κ : Type} [Std.Refl R] [IsTrans (St η) R] {serve : Callback η → κ → M η Unit}
    (hcore : ∀ n, Serving R (app n : Callback η)) (hsteps : ∀ n, Steps R (app n : Callback η))
    (hserve : ∀ n e, Along R (serve (app n) e)) (s : St η) (is : List (Input κ)) : R s (run serve s is) := by
  refine run_of_steps (fun s i _ => ?_) s
  have hinput : R s { s with acts := i.acts, io := i.io } := (hcore 0).same _ _ rfl
  exact IsTrans.trans _ _ _ hinput ((hcore _).along_perform (hsteps _) (hserve _) i.event _)

end

end SocketIOJava.Traversal
