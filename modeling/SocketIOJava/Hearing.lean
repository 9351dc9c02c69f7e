/-
The frames that a session receives, with either handler.

`heard` are the frames that `onMessage` was given, read off the history. The entries of the session's own calls and of the
application's are none of them (`Local`), so a session receives nothing but what the container hands it.

- `along_reaction`: what a frame makes the session do adds no frame to those received.
- `heard_frames`: of the frames of a payload the session receives the first ones, and all if it handles them to their end.
-/
import SocketIOJava.JettyTraversal

namespace SocketIOJava.Hearing

open Program SocketIOJava.Text SocketIOJava.Frame SocketIOJava.Session SocketIOJava.Run SocketIOJava.Traversal
  SocketIOJava.JettyTraversal

def seesReceived : Entry → Option SocketIOFrame
  | .received f => some f
  | _ => none

/-- the frames received, in order -/
def heard (log : List Entry) : List SocketIOFrame := (log.filterMap seesReceived).reverse

/-- an entry that is no frame of the client -/
def Local (e : Entry) : Prop := seesReceived e = none

theorem local_of_outward {e : Entry} (he : Outward e) : Local e := by
  cases e with
  | received f => exact he.elim
  | _ => rfl

variable {η : Type} {s s' : St η}

theorem heard_of_adds (h : Adds Local s s') : heard s'.log = heard s.log := congrArg List.reverse (Adds.unseen h fun _ he => he)

theorem suffix_of_adds {P : Entry → Prop} (h : Adds P s s') : s.log <:+ s'.log := by
  obtain ⟨added, hlog, -⟩ := h
  exact ⟨added, hlog.symm⟩

theorem adds_local (h : Adds Outward s s') : Adds Local s s' := by
  obtain ⟨added, hlog, hadded⟩ := h
  exact ⟨added, hlog, fun e he => local_of_outward (hadded e he)⟩

theorem along_local {α : Type} {m : M η α} (h : Along (Adds Outward) m) : Along (Adds Local) m :=
  h.mono fun _ _ => adds_local

theorem local_closed (s : St η) : Adds Local s (setState .closed s) := adds_cons (e := .state .closed) rfl rfl

theorem local_opens : Opens (Adds (η := η) Local) where
  opened s _ _ := by
    have hnoted : Adds Local s ((attach s).push (.opened s.session.state)) := adds_cons (e := .opened s.session.state) rfl rfl
    exact IsTrans.trans _ _ _ hnoted (adds_cons (e := .state .connected) rfl rfl)
  attached _ := adds_of_log rfl

variable [TransportHandler η]

/-- a handler that receives no frame by itself -/
structure Deaf (η : Type) [TransportHandler η] : Prop where
  calls : ∀ n, Calls (Adds Outward) (app n : Callback η)
  setNamespace : ∀ a, Along (Adds Local) (TransportHandler.setNamespace a : M η Unit)
  disconnectWhenEmpty : Along (Adds Local) (TransportHandler.disconnectWhenEmpty : M η Unit)

theorem deaf_http : Deaf JettyContinuation.Handler where
  calls := Http.adds_calls
  setNamespace _ := along_modify fun _ => adds_of_log rfl
  disconnectWhenEmpty := along_modify fun _ => adds_of_log rfl

theorem deaf_socket : Deaf JettyWebSocket.Handler where
  calls := Socket.adds_calls
  setNamespace _ := along_modify fun _ => adds_of_log rfl
  disconnectWhenEmpty := along_pure _

/-- what `onMessage(frame)` does after it has noted the frame -/
def reaction (cb : Callback η) (f : SocketIOFrame) : M η Unit :=
  match f.frameType with
  | .connect => do
    derefHandler
    TransportHandler.setNamespace (namespaceOf f.data)
    derefInbound
    let _ ← cb (.setNamespace (if (namespaceOf f.data).length = 0 then str "/" else namespaceOf f.data))
    onConnectData cb []
  | .heartbeat => modify fun s => startHeartbeatTimer (onPong s)
  | .close => Session.onClose cb f.data
  | .message | .jsonMessage | .event => onMessageText cb f.frameType.value f.data
  | _ => pure ()

theorem onMessage_eq (cb : Callback η) (f : SocketIOFrame) :
    Session.onMessage cb f = (do
      modify fun s => s.push (.received f)
      reaction cb f : M η Unit) := by
  unfold Session.onMessage reaction
  cases f.frameType <;> rfl

namespace Deaf

variable (d : Deaf η) (n : ℕ)
include d

theorem outgoing : Outgoing (Adds Outward) (app n : Callback η) := adds_outgoing fun m _ => d.calls m

theorem calls_local : Calls (Adds Local) (app n : Callback η) := (d.calls n).mono fun _ _ => adds_local

theorem along_call (c : InboundCall) : Along (Adds Local) (app n c : M η (List JString)) :=
  along_app (fun m _ => d.calls_local m) (fun _ => adds_cons (e := .called c) rfl rfl)
    fun _ => adds_cons (e := .returned c) rfl rfl

theorem closes : Closes (Adds Local) (app n : Callback η) where
  send := (d.calls_local n).send
  abort := (d.calls_local n).abort
  disconnectWhenEmpty := d.disconnectWhenEmpty
  onDisconnect reason _ := along_local ((d.outgoing n).along_onDisconnect reason)
  acknowledged _ data _ := adds_cons (e := .onClose .closing data) rfl rfl
  closing s data _ := by
    have hnoted : Adds Local s (s.push (.onClose s.session.state data)) :=
      adds_cons (e := .onClose s.session.state data) rfl rfl
    exact IsTrans.trans _ _ _ hnoted (adds_cons (e := .state .closing) rfl rfl)
  closed := local_closed

/-- what the container's events do, received frames apart -/
theorem serving : Serving (Adds Local) (app n : Callback η) where
  toOutgoing := (d.outgoing n).mono fun _ _ => adds_local
  hosted s e he := by
    refine adds_cons (e := e) ?_ rfl
    cases e with
    | received f => exact he.elim
    | _ => rfl
  closed := local_closed
  onConnect s _ := d.along_call n .onConnect s

/-- the application's calls and the executor's tasks bring no frame -/
theorem along_task (kind : TaskKind) : Along (Adds Local) (runTask (app n) kind : M η Unit) := by
  refine along_local ?_
  cases kind with
  | sendPing =>
    exact along_sendPing_of (fun s => adds_of_log rfl) (d.calls n).toSends fun s => adds_of_log (startTimeoutTimer_log s)
  | onTimeout =>
    refine along_onTimeout_of (fun s => ?_) ((d.outgoing n).along_onDisconnect .timeout) (d.calls n).abort
    exact adds_cons (e := .state .closed) trivial rfl

/-- an event brings no frame if it is no event of the container, or one that brings none -/
theorem along_perform {κ : Type} {serve : Callback η → κ → M η Unit} {e : Event κ}
    (hserve : ∀ c, e = .container c → Along (Adds Local) (serve (app n) c)) : Along (Adds Local) (perform serve (app n) e) := by
  cases e with
  | container c => exact hserve c rfl
  | outbound call => exact along_local ((d.calls n).along_outbound call)
  | tick _ => exact along_modify fun s => adds_of_log rfl
  | fire t =>
    refine along_get_bind fun s => Along.ite (fun _ => ?_) (fun _ => along_pure _) s
    refine Along.bind (along_modify fun s => ?_) fun _ => d.along_task n t.kind
    exact adds_of_log rfl

/-- **What a frame makes the session do adds no frame to those received.** -/
theorem along_reaction (f : SocketIOFrame) : Along (Adds Local) (reaction (app n) f : M η Unit) := by
  unfold reaction
  cases hf : f.frameType with
  | connect =>
    have hanswer : Along (Adds Local) (onConnectData (app n : Callback η) []) := fun _ =>
      sendOrAbort_related (fun _ => (d.calls_local n).send _ _ (sendable_connect _ _)) (d.calls_local n).abort
    refine along_derefHandler.bind fun _ => (d.setNamespace _).bind fun _ s => ?_
    exact derefInbound_related fun _ => bind_related (d.along_call n _ _) fun _ => hanswer
  | heartbeat => exact along_modify fun s => adds_of_log (startHeartbeatTimer_log (onPong s))
  | close => exact (d.closes n).along_onClose f.data
  | message | jsonMessage | event =>
    exact along_onMessageText (fun s c _ _ => d.along_call n c s) (fun _ names => adds_cons (e := .listed names) rfl rfl) _ _
  | unknown | ack | error | noop => exact along_pure _

/-- a frame that is handled, to its end or not, is one frame received -/
theorem heard_onMessage (f : SocketIOFrame) (s : St η) :
    heard (Session.onMessage (app n) f s).2.log = heard s.log ++ [f] := by
  rw [onMessage_eq, modify_bind, heard_of_adds (d.along_reaction n f _)]
  exact List.reverse_cons

/-- **Of the frames of a payload the session receives the first ones, and all if it handles them to their end.** -/
theorem heard_frames (frames : List SocketIOFrame) (s : St η) :
    ∃ first, heard (forEach frames (Session.onMessage (app n)) s).2.log = heard s.log ++ first ∧ first <+: frames ∧
      ((forEach frames (Session.onMessage (app n)) s).1 = .ok () → first = frames) := by
  induction frames generalizing s with
  | nil => exact ⟨[], (List.append_nil _).symm, List.prefix_refl _, fun _ => rfl⟩
  | cons f frames ih =>
    have hone := d.heard_onMessage n f s
    unfold forEach
    rcases hr : Session.onMessage (app n) f s with ⟨_ | u, t⟩
    · rw [hr] at hone
      rw [bind_of_error hr]
      exact ⟨[f], hone, ⟨frames, rfl⟩, fun h => by cases h⟩
    · rw [hr] at hone
      obtain ⟨first, hheard, hprefix, hall⟩ := ih t
      rw [bind_of_ok hr]
      refine ⟨f :: first, ?_, (List.prefix_cons_inj f).2 hprefix, fun hok => congrArg (f :: ·) (hall hok)⟩
      rw [hheard, hone, List.append_assoc]
      rfl

end Deaf

end SocketIOJava.Hearing
