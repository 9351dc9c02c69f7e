/-
`Intercepter.broadcast`: an event for the clients in the queue of a namespace.

The loop goes over the outbounds in the queue of the Intercepter's namespace. It disconnects a client whose `emitMessage`
throws; the client's session tells its own Intercepter, which takes the outbound out of its queue, often this very one. The
queue's iterator is weakly consistent: what is in the queue all the time it returns once. The clients whose turn is still to
come stay in the queue whatever happens at a turn (`unvisited_suffix`), so the loop is one over the clients that are there
when it begins.

A client's turn has its own environment: the acts of its application, its writes, and which of its target's methods raise.

- `broadcast_complete_iff`: the event reaches every other client once and the loop ends, exactly when none of them is there
  twice, and each takes the event or still has its connection after its `onDisconnect`.
- `null_connection_ends_broadcast`: a client whose connection is null, left behind in a queue, ends the loop.
-/
import SocketIOJava.Lib.Outcomes
import SocketIOJava.OutboundFrames
import SocketIOJava.Proxy
import Mathlib.Data.List.Nodup

namespace SocketIOJava.Broadcast

open Program SocketIOJava.Text SocketIOJava.Frame SocketIOJava.Session SocketIOJava.Run SocketIOJava.Traversal
open SocketIOJava.Proxy SocketIOJava.JettyWebSocket
open SocketIOJava.JettyTraversal (Outward Adds)
open SocketIOJava.OutboundFrames (typedFrame sendTyped_open)

/-! ## Model -/

/-- what the environment does at a client's turn -/
structure Turn where
  acts : List Act
  io : List Bool
  raised : List Bool

/-- the Intercepters with their sessions; `emitted` are the clients whose turn came, latest first -/
structure Hub (τ : Type) where
  world : World τ
  sessions : ℕ → St Handler
  emitted : List ℕ

abbrev B (τ : Type) := Prog (Hub τ) Abrupt

variable {τ : Type}

/-- a call of a session on its Intercepter; the target's method that it is in then ends -/
def pass (i : ℕ) (raised : Bool) (c : InboundCall) (w : World τ) : World τ :=
  let entered := w.step (i, .invoke c)
  if (w.clients i).running.length < (entered.clients i).running.length then entered.step (i, .finish raised) else entered

def passAll (i : ℕ) : List Bool → List InboundCall → World τ → World τ
  | _, [], w => w
  | raised, c :: cs, w => passAll i raised.tail cs (pass i (raised.headD false) c w)

/-- the calls that a session made since, in order -/
def newCalls (s s' : St Handler) : List InboundCall := (issued (s'.log.take (s'.log.length - s.log.length))).reverse

/-- a call on the handler, with the application -/
def method (t : Turn) (c : OutboundCall) : M Handler Unit := do
  modify fun s => s.push (.outbound c (TransportHandler.refuses s closeFrame))
  outboundMethod (app (t.acts.length + 1)) c

/-- a call on the outbound of a client; what its session makes of it reaches the client's Intercepter -/
def onOutbound (t : Turn) (i : ℕ) (c : OutboundCall) : B τ Unit := fun v =>
  let s := v.sessions i
  ((method t c s).1,
    { v with
      world := passAll i t.raised (newCalls s (method t c s).2) v.world
      sessions := Function.update v.sessions i (method t c s).2 })

def Turn.begin (t : Turn) (s : St Handler) : St Handler := { s with acts := t.acts, io := t.io }

/-- a client's turn comes -/
def Hub.turn (t : Turn) (i : ℕ) (v : Hub τ) : Hub τ :=
  { v with sessions := Function.update v.sessions i (t.begin (v.sessions i)), emitted := i :: v.emitted }

/-- `emit`, which the loop does for each of the other clients -/
def emit (t : Turn) (i : ℕ) (key message : JString) : B τ Unit := do
  modify (·.turn t i)
  catching Abrupt.isThrowable (onOutbound t i (.emitMessage key message)) (onOutbound t i .disconnect)

/-- the body of the loop -/
def visit (turns : ℕ → Turn) (outbound : ℕ) (key message : JString) (i : ℕ) : B τ Unit :=
  whenever (i ≠ outbound) (emit (turns i) i key message)

/-- `broadcast`, of the Intercepter `self` -/
def broadcast (turns : ℕ → Turn) (self outbound : ℕ) (key message : JString) : B τ Unit := do
  let v ← get
  match v.world.connections (v.world.clients self).strNamespace with
  | none => stop (.thrown .nullPointer)
  | some clients => forEach clients (visit turns outbound key message)

/-! ## The queue while the loop runs -/

/-- the queue without the Intercepter's outbound -/
def leave (x : Intercepter τ) (q : List ℕ) : List ℕ :=
  match x.objOutboundTmp with
  | none => q
  | some outbound => q.erase outbound

theorem leave_congr {x y : Intercepter τ} (h : x.objOutboundTmp = y.objOutboundTmp) : leave x = leave y := by
  unfold leave
  rw [h]

/-- the Intercepter's outbound has left the queue of the namespace once, or nothing has changed in the map -/
structure Leaves (s s' : View τ) : Prop where
  strNamespace : s'.self.strNamespace = s.self.strNamespace
  held : s'.self.objOutboundTmp = s.self.objOutboundTmp
  queue : s'.connections = s.connections ∧ s'.self.setClient = s.self.setClient ∨
    s.self.setClient = true ∧ s'.self.setClient = false ∧
      ∃ q, s.connections s.self.strNamespace = some q ∧ s'.connections = (s.put (leave s.self q)).connections

theorem leaves_of {s s' : View τ} (hmap : s'.connections = s.connections) (hns : s'.self.strNamespace = s.self.strNamespace)
    (hheld : s'.self.objOutboundTmp = s.self.objOutboundTmp) (hclient : s'.self.setClient = s.self.setClient) :
    Leaves s s' := ⟨hns, hheld, .inl ⟨hmap, hclient⟩⟩

instance : Std.Refl (Leaves (τ := τ)) := ⟨fun _ => leaves_of rfl rfl rfl rfl⟩

/-- an outbound that has left is not registered any more, and does not leave again -/
instance : IsTrans (View τ) Leaves where
  trans s₁ s₂ s₃ h h' := by
    refine ⟨h'.strNamespace.trans h.strNamespace, h'.held.trans h.held, ?_⟩
    rcases h.queue with ⟨hmap, hclient⟩ | ⟨hclient, hleft, hq⟩
    · have hput : ∀ q, (s₂.put q).connections = (s₁.put q).connections := fun q => by
        unfold View.put
        rw [hmap, h.strNamespace]
      have hqueue := h'.queue
      rw [hmap, hclient, h.strNamespace, leave_congr h.held] at hqueue
      simpa only [hput] using hqueue
    · rcases h'.queue with ⟨hmap, hclient'⟩ | ⟨hclient', -, -⟩
      · exact .inr ⟨hclient, hclient'.trans hleft, hmap ▸ hq⟩
      · exact absurd (hleft.symm.trans hclient') nofun

section Registry

variable {s : View τ} {i : ℕ}

theorem leaves_conclude (c : InboundCall) (depth : ℕ) (s : View τ) : Leaves s (conclude c depth s) := by
  unfold conclude
  split_ifs
  · exact leaves_of rfl rfl rfl rfl
  · exact Std.Refl.refl s

theorem leaves_unregister (s : View τ) : Leaves s (unregister s).2 := by
  cases hset : s.self.setClient with
  | false =>
    rw [unregister_none hset]
    exact Std.Refl.refl s
  | true =>
    obtain ⟨b, hself⟩ := unregister_self s
    refine ⟨by rw [hself], by rw [hself], ?_⟩
    cases hq : s.connections s.self.strNamespace with
    | none =>
      left
      simp only [unregister, get_bind, whenever, hset, if_true, hq]
      exact ⟨rfl, hset⟩
    | some q =>
      have hrun : (unregister s).2 = (s.put (leave s.self q)).setSetClient false := by
        simp only [unregister, get_bind, whenever, hset, if_true, modify_bind, hq]
        rfl
      rw [hrun]
      exact .inr ⟨hset, rfl, q, rfl, rfl⟩

/-- the beginning of `onDisconnect`, which takes nobody out of a queue -/
theorem leaves_invoke (i : ℕ) (s : View τ) (reason : DisconnectReason) :
    Leaves s (Proxy.step i s (.invoke (.onDisconnect reason))) := by
  have hbegin : Leaves s (begin i (.onDisconnect reason) s).2 := by
    change Leaves s (enter (s.self.targets.get s.self.strNamespace) ⟨.onDisconnect reason, []⟩ s).2
    cases s.self.targets.get s.self.strNamespace with
    | none => exact Std.Refl.refl s
    | some t => exact leaves_of rfl rfl rfl rfl
  rw [step_invoke]
  exact IsTrans.trans _ _ _ hbegin (leaves_conclude _ _ _)

/-- what it is in when it has begun -/
theorem running_invoke (i : ℕ) (s : View τ) (reason : DisconnectReason) :
    (Proxy.step i s (.invoke (.onDisconnect reason))).self.running = s.self.running ∨
      (Proxy.step i s (.invoke (.onDisconnect reason))).self.running = ⟨.onDisconnect reason, []⟩ :: s.self.running := by
  have hbegin : begin i (.onDisconnect reason) s =
      enter (s.self.targets.get s.self.strNamespace) ⟨.onDisconnect reason, []⟩ s := rfl
  rw [step_invoke, hbegin]
  cases s.self.targets.get s.self.strNamespace with
  | none =>
    rw [conclude_outside (by rfl)]
    exact .inl rfl
  | some t =>
    rw [conclude_inside (by rfl)]
    exact .inr rfl

/-- the end of the target's method -/
theorem leaves_finish {r : Invocation τ} {below : List (Invocation τ)} {reason : DisconnectReason}
    (hrunning : s.self.running = r :: below) (hcall : r.call = .onDisconnect reason) (raised : Bool) :
    Leaves s (Proxy.step i s (.finish raised)) := by
  have hpop : Leaves s s.pop := leaves_of rfl rfl rfl rfl
  have hresume : resume i r = unregister := by
    unfold resume
    rw [hcall]
  unfold Proxy.step
  rw [hrunning]
  dsimp only
  refine IsTrans.trans _ _ _ ?_ (leaves_conclude _ _ _)
  rw [hresume]
  split_ifs
  · exact hpop
  · exact IsTrans.trans _ _ _ hpop (leaves_unregister s.pop)

end Registry

/-- all that happens in the registry is that one client may leave a queue -/
structure Departs (i : ℕ) (w w' : World τ) : Prop where
  others : ∀ j, j ≠ i → w'.clients j = w.clients j
  leaves : Leaves (w.view i) (w'.view i)

instance (i : ℕ) : Std.Refl (Departs (τ := τ) i) := ⟨fun _ => ⟨fun _ _ => rfl, Std.Refl.refl _⟩⟩

instance (i : ℕ) : IsTrans (World τ) (Departs i) where
  trans _ _ _ h h' := ⟨fun j hj => (h'.others j hj).trans (h.others j hj), IsTrans.trans _ _ _ h.leaves h'.leaves⟩

theorem departs_step {i : ℕ} {w : World τ} {e : Proxy.Event} (h : Leaves (w.view i) (Proxy.step i (w.view i) e)) :
    Departs i w (w.step (i, e)) :=
  ⟨fun _ hj => Function.update_of_ne hj _ _, by rw [World.view_step_self]; exact h⟩

theorem departs_pass (i : ℕ) (raised : Bool) (reason : DisconnectReason) (w : World τ) :
    Departs i w (pass i raised (.onDisconnect reason) w) := by
  have hentered : Departs i w (w.step (i, .invoke (.onDisconnect reason))) := departs_step (leaves_invoke i _ reason)
  unfold pass
  dsimp only
  split_ifs with hinside
  · refine IsTrans.trans _ _ _ hentered (departs_step ?_)
    have hself := congrArg View.self (World.view_step_self w i (.invoke (.onDisconnect reason)))
    rcases running_invoke i (w.view i) reason with hrunning | hrunning
    · rw [← hself] at hrunning
      have hsame : ((w.step (i, .invoke (.onDisconnect reason))).clients i).running = (w.clients i).running := hrunning
      exact absurd hinside (by rw [hsame]; exact Nat.lt_irrefl _)
    · rw [← hself] at hrunning
      exact leaves_finish hrunning rfl raised
  · exact hentered

theorem departs_passAll (i : ℕ) (raised : List Bool) {cs : List InboundCall} (hcs : ∀ c ∈ cs, ∃ reason, c = .onDisconnect reason)
    (w : World τ) : Departs i w (passAll i raised cs w) := by
  induction cs generalizing raised w with
  | nil => exact Std.Refl.refl w
  | cons c cs ih =>
    obtain ⟨reason, rfl⟩ := hcs c List.mem_cons_self
    exact IsTrans.trans _ _ _ (departs_pass i _ reason w) (ih _ (fun c hc => hcs c (List.mem_cons_of_mem _ hc)) _)

/-- a client that leaves the queue at its turn leaves the clients behind it where they are -/
theorem Departs.queue {i : ℕ} {w w' : World τ} (h : Departs i w w') (hown : ∀ o, (w.clients i).objOutboundTmp = some o → o = i)
    {ns : JString} {before rest : List ℕ} (hq : w.connections ns = some (before ++ i :: rest)) :
    ∃ before', w'.connections ns = some (before' ++ rest) := by
  rcases h.leaves.queue with ⟨hmap, -⟩ | ⟨-, -, q, hqueue, hmap⟩
  · refine ⟨before ++ [i], ?_⟩
    rw [show w'.connections = w.connections from hmap, hq, List.append_assoc]
    rfl
  · by_cases hns : ns = (w.clients i).strNamespace
    · have hput : w'.connections ns = some (leave (w.clients i) q) := by
        rw [show w'.connections = ((w.view i).put _).connections from hmap, hns]
        exact Function.update_self _ _ _
      have hsame : q = before ++ i :: rest := Option.some.inj (hqueue.symm.trans (hns ▸ hq))
      rw [hput, hsame]
      unfold leave
      cases hheld : (w.clients i).objOutboundTmp with
      | none => exact ⟨before ++ [i], by rw [List.append_assoc]; rfl⟩
      | some o =>
        obtain rfl := hown o hheld
        dsimp only
        by_cases hmem : o ∈ before
        · refine ⟨before.erase o ++ [o], ?_⟩
          rw [List.erase_append_left _ hmem, List.append_assoc]
          rfl
        · refine ⟨before, ?_⟩
          rw [List.erase_append_right _ hmem, List.erase_cons_head]
    · refine ⟨before ++ [i], ?_⟩
      have hother : w'.connections ns = w.connections ns := by
        rw [show w'.connections = ((w.view i).put _).connections from hmap]
        exact Function.update_of_ne hns _ _
      rw [hother, hq, List.append_assoc]
      rfl

/-! ## Whose outbound an Intercepter keeps -/

/-- every Intercepter keeps its own client's outbound, once it has one -/
def Own (w : World τ) : Prop := ∀ i o, (w.clients i).objOutboundTmp = some o → o = i

theorem held_connectTargets (i : ℕ) (targets : List τ) (s : View τ) :
    (connectTargets i targets s).2.self.objOutboundTmp = s.self.objOutboundTmp ∨
      (connectTargets i targets s).2.self.objOutboundTmp = some i := by
  cases targets with
  | nil => exact .inr rfl
  | cons t rest => exact .inl rfl

theorem held_begin (i : ℕ) (c : InboundCall) (s : View τ) :
    (begin i c s).2.self.objOutboundTmp = s.self.objOutboundTmp ∨ (begin i c s).2.self.objOutboundTmp = some i := by
  have henter : ∀ t r, (enter (τ := τ) t r s).2.self.objOutboundTmp = s.self.objOutboundTmp := fun t r => by
    cases t <;> rfl
  cases c with
  | onConnect => exact held_connectTargets i s.self.targets.values s
  | setNamespace a =>
    obtain ⟨b, hself⟩ := register_self (s.setNamespace a)
    have hbegin : (begin i (.setNamespace a) s).2.self = { (s.setNamespace a).self with setClient := b } := hself
    rw [hbegin]
    exact .inl rfl
  | onDisconnect reason => exact .inl (henter _ _)
  | onMessage key message => exact .inl (henter _ _)
  | setEventnames => exact .inl (henter _ _)

theorem held_resume (i : ℕ) (r : Invocation τ) (s : View τ) :
    (resume i r s).2.self.objOutboundTmp = s.self.objOutboundTmp ∨ (resume i r s).2.self.objOutboundTmp = some i := by
  obtain ⟨call, rest⟩ := r
  cases call with
  | onConnect => exact held_connectTargets i rest s
  | onDisconnect reason => exact .inl (leaves_unregister s).held
  | setEventnames =>
    obtain ⟨b, hself⟩ := register_self s
    have hresume : (resume i (⟨.setEventnames, rest⟩ : Invocation τ) s).2.self = { s.self with setClient := b } := hself
    rw [hresume]
    exact .inl rfl
  | onMessage key message => exact .inl rfl
  | setNamespace a => exact .inl rfl

theorem held_step (i : ℕ) (e : Proxy.Event) (s : View τ) :
    (Proxy.step i s e).self.objOutboundTmp = s.self.objOutboundTmp ∨ (Proxy.step i s e).self.objOutboundTmp = some i := by
  cases e with
  | invoke c =>
    rw [step_invoke, (leaves_conclude _ _ _).held]
    exact held_begin i c s
  | finish raised =>
    unfold Proxy.step
    cases s.self.running with
    | nil => exact .inl rfl
    | cons r below =>
      dsimp only
      rw [(leaves_conclude _ _ _).held]
      split_ifs
      · exact .inl rfl
      · exact held_resume i r s.pop

theorem Own.step {w : World τ} (h : Own w) (e : ℕ × Proxy.Event) : Own (w.step e) := by
  obtain ⟨i, e⟩ := e
  intro j o ho
  by_cases hj : j = i
  · subst hj
    have hself := congrArg View.self (World.view_step_self w j e)
    have hheld := held_step j e (w.view j)
    rw [← hself] at hheld
    rcases hheld with heq | heq
    · exact h j o (heq.symm.trans ho)
    · exact (Option.some.inj (heq.symm.trans ho)).symm
  · have hself := World.self_step_of_ne w hj e
    exact h j o (congrArg Intercepter.objOutboundTmp hself ▸ ho)

/-- **in every state of the registry** -/
theorem own_run (targets : ℕ → Targets τ) (es : List (ℕ × Proxy.Event)) : Own ((World.start targets).run es) := by
  unfold World.run
  induction es using List.reverseRecOn with
  | nil => exact fun _ _ ho => nomatch ho
  | append_singleton es e ih =>
    rw [List.foldl_append]
    exact ih.step e

theorem Own.departs {i : ℕ} {w w' : World τ} (h : Own w) (hd : Departs i w w') : Own w' := by
  intro j o ho
  by_cases hj : j = i
  · subst hj
    exact h j o (hd.leaves.held.symm.trans ho)
  · exact h j o (hd.others j hj ▸ ho)

/-! ## A call on a client's handler -/

section Session

variable {t : Turn} {key message : JString} {s : St Handler} {n : ℕ}

/-- the handler takes an event -/
def Takes (s : St Handler) : Prop :=
  s.handler.outbound = some ⟨true⟩ ∧ s.session.state = .connected ∧ s.nextWriteFails = false

/-- **A call of `emitMessage`** completes if the handler takes the event. Otherwise it is an exception, and the connection
is null afterwards if it was before. -/
theorem emitMessage_cases (t : Turn) (key message : JString) (s : St Handler) :
    (Takes s ∧ ∃ s', method t (.emitMessage key message) s = (.ok (), s')) ∨
      ¬ Takes s ∧ ∃ e s', method t (.emitMessage key message) s = (.error (.thrown e), s') ∧ s'.session = s.session ∧
        (s'.handler.outbound = none ↔ s.handler.outbound = none) := by
  let called := s.push (.outbound (.emitMessage key message) (TransportHandler.refuses s closeFrame))
  have hrun : method t (.emitMessage key message) s =
      sendTyped (app (t.acts.length + 1)) JSON_MESSAGE_TYPE (emitText key message) called := rfl
  rw [hrun]
  cases hc : s.handler.outbound with
  | none =>
    have hnull := sendTyped_null (s := called) (app (t.acts.length + 1)) JSON_MESSAGE_TYPE (emitText key message) hc
    exact .inr ⟨fun h => (nomatch hc.symm.trans h.1), _, called, hnull, rfl, iff_of_true hc rfl⟩
  | some c =>
    have hsome : called.handler.outbound ≠ none := fun h => nomatch hc.symm.trans h
    have hopened := isOpen_some (s := called) hc
    by_cases hready : c.isOpen = true ∧ s.session.state = .connected
    · obtain ⟨hopen, hstate⟩ := hready
      have hconnection : s.handler.outbound = some ⟨true⟩ := hc.trans (congrArg (fun b => some (Connection.mk b)) hopen)
      let f := typedFrame JSON_MESSAGE_TYPE (emitText key message)
      have hsend : sendTyped (app (t.acts.length + 1)) JSON_MESSAGE_TYPE (emitText key message) called =
          deliver (app (t.acts.length + 1)) f (called.push (.frame f)) := by
        rw [sendTyped_open (s := called) (hopen ▸ hopened) hstate]
        exact (sendMessage_some (s := called) hc).trans (by rw [if_pos hopen])
      rw [hsend]
      cases hwrite : s.nextWriteFails with
      | false => exact .inl ⟨⟨hconnection, hstate, hwrite⟩, _, deliver_ok _ (s := called.push (.frame f)) hwrite f⟩
      | true =>
        have hfails := deliver_fails (app (t.acts.length + 1)) (s := called.push (.frame f)) hc hwrite f
        refine .inr ⟨fun h => (nomatch hwrite.symm.trans h.2.2), _, _, hfails, rfl, iff_of_false ?_ ?_⟩
        · exact nofun
        · exact nofun
    · have hclosed : sendTyped (app (t.acts.length + 1)) JSON_MESSAGE_TYPE (emitText key message) called =
          (.error (.thrown .socketIOClosedException), called) := by
        unfold sendTyped
        rw [bind_of_ok hopened, get_bind]
        exact congrFun (if_neg hready) called
      refine .inr ⟨fun h => hready ⟨?_, h.2.1⟩, _, called, hclosed, rfl, iff_of_false hsome nofun⟩
      rw [Option.some.inj (hc.symm.trans h.1)]

/-- a session whose connection is null stays without one -/
def Lost (s s' : St Handler) : Prop := s.handler.outbound = none → s'.handler.outbound = none

instance : Std.Refl Lost := ⟨fun _ => id⟩

instance : IsTrans (St Handler) Lost := ⟨fun _ _ _ h h' => h' ∘ h⟩

theorem lost_calls (n : ℕ) : Calls Lost (app n : Callback Handler) := by
  induction n using Nat.strong_induction_on with
  | _ n ih =>
    have haside : ∀ s s' : St Handler, Aside s s' → Lost s s' := fun s s' h hs => by rw [h.fields]; exact hs
    exact JettyTraversal.Socket.Line.calls { moves_aside haside ih with
      frame := fun _ _ _ => id, wrote := fun _ _ _ => id, disconnected := fun _ hc hs => absurd hs hc, aborted := fun _ _ => rfl }

/-- the session when its application is told of the disconnect, after an `emitMessage` that failed -/
def told (t : Turn) (key message : JString) (s : St Handler) : St Handler :=
  let s' := (method t (.emitMessage key message) s).2
  setState .closed (clearHeartbeatTimer (clearTimeoutTimer
    (s'.push (.outbound .disconnect (TransportHandler.refuses s' closeFrame)))))

/-- the client has a connection, and its application's `onDisconnect` does not lose it -/
structure Retains (t : Turn) (key message : JString) (s : St Handler) : Prop where
  connected : s.handler.outbound ≠ none
  kept : s.session.inbound = true →
    (app (t.acts.length + 1) (.onDisconnect .disconnect) (told t key message s)).2.handler.outbound ≠ none

/-- `disconnect` completes exactly if it finds a connection when the session's `onDisconnect` is over -/
theorem disconnect_returns_iff (t : Turn) (s : St Handler) :
    Returns (method t .disconnect) s ↔
      (Session.onDisconnect (app (t.acts.length + 1)) .disconnect
        (s.push (.outbound .disconnect (TransportHandler.refuses s closeFrame)))).2.handler.outbound ≠ none := by
  obtain ⟨s', hs'⟩ := onDisconnect_app (t.acts.length + 1) .disconnect
    (s.push (.outbound .disconnect (TransportHandler.refuses s closeFrame)))
  have hrun : method t .disconnect s = disconnectOutbound (app (t.acts.length + 1)) s' := bind_of_ok hs' _
  rw [hs']
  cases hc : s'.handler.outbound with
  | none =>
    exact iff_of_false (not_returns_of_error (hrun.trans (disconnectOutbound_none _ hc))) fun h => h rfl
  | some c => exact iff_of_true (returns_of_ok (hrun.trans (disconnectOutbound_some _ hc))) (Option.some_ne_none c)

/-- a failed `emitMessage`, and the `disconnect` after it -/
theorem disconnect_after_refused (t : Turn) (key message : JString) (h : ¬ Takes s) :
    Returns (method t .disconnect) (method t (.emitMessage key message) s).2 ↔ Retains t key message s := by
  obtain ⟨htakes, -⟩ | ⟨-, e, s', hs', hsession, hnull⟩ := emitMessage_cases t key message s
  · exact absurd htakes h
  have htold : told t key message s = setState .closed (clearHeartbeatTimer (clearTimeoutTimer
      (s'.push (.outbound .disconnect (TransportHandler.refuses s' closeFrame))))) := by
    unfold told
    rw [hs']
  rw [disconnect_returns_iff, hs']
  dsimp only
  cases hi : s.session.inbound with
  | false =>
    have hinbound : s'.session.inbound = false := (congrArg DefaultSession.inbound hsession).trans hi
    rw [onDisconnect_null (s := s'.push (.outbound .disconnect (TransportHandler.refuses s' closeFrame))) _ _ hinbound]
    exact ⟨fun hc => ⟨fun hs => hc (hnull.2 hs), fun hi' => (nomatch hi.symm.trans hi')⟩, fun hr hc => hr.connected (hnull.1 hc)⟩
  | true =>
    have hinbound : s'.session.inbound = true := (congrArg DefaultSession.inbound hsession).trans hi
    rw [onDisconnect_notify (s := s'.push (.outbound .disconnect (TransportHandler.refuses s' closeFrame))) _ _ hinbound,
      notify_app]
    constructor
    · intro hc
      refine ⟨fun hs => hc ?_, fun _ => htold ▸ hc⟩
      have hlost : Along Lost (app (t.acts.length + 1) (.onDisconnect .disconnect) : M Handler (List JString)) :=
        along_app (fun m _ => lost_calls m) (fun _ => id) fun _ => id
      exact hlost _ (hnull.2 hs)
    · intro hr
      rw [← htold]
      exact hr.kept hi

end Session

/-! ## A client's turn -/

/-- in the turn of a client its session may change, and it may leave a queue -/
structure Stays (i : ℕ) (v v' : Hub τ) : Prop where
  sessions : ∀ j, j ≠ i → v'.sessions j = v.sessions j
  departs : Departs i v.world v'.world
  emitted : v'.emitted = v.emitted

instance (i : ℕ) : Std.Refl (Stays (τ := τ) i) := ⟨fun _ => ⟨fun _ _ => rfl, Std.Refl.refl _, rfl⟩⟩

instance (i : ℕ) : IsTrans (Hub τ) (Stays i) where
  trans _ _ _ h h' := ⟨fun j hj => (h'.sessions j hj).trans (h.sessions j hj), IsTrans.trans _ _ _ h.departs h'.departs,
    h'.emitted.trans h.emitted⟩

/-- a call on the handler tells the Intercepter of disconnects, and of nothing else -/
theorem newCalls_method (t : Turn) (c : OutboundCall) (s : St Handler) :
    ∀ c' ∈ newCalls s (method t c s).2, ∃ reason, c' = .onDisconnect reason := by
  have k := JettyTraversal.Socket.adds_calls (t.acts.length + 1)
  have hadds : Along (Adds Outward) (method t c) := (along_modify fun s => k.outbound s c).bind fun _ => k.along_outboundMethod c
  obtain ⟨added, hlog, hadded⟩ := hadds s
  have hnew : newCalls s (method t c s).2 = (issued added).reverse := by
    unfold newCalls
    rw [hlog, List.length_append, Nat.add_sub_cancel, List.take_left]
  intro c' hc'
  rw [hnew, List.mem_reverse] at hc'
  obtain ⟨e, he, hissued⟩ := List.mem_filterMap.1 hc'
  cases e with
  | called c =>
    obtain rfl := Option.some.inj hissued
    cases c with
    | onDisconnect reason => exact ⟨reason, rfl⟩
    | _ => exact (hadded _ he).elim
  | _ => cases hissued

theorem along_onOutbound (t : Turn) (i : ℕ) (c : OutboundCall) : Along (Stays i) (onOutbound t i c : B τ Unit) := fun v =>
  ⟨fun _ hj => Function.update_of_ne hj _ _, departs_passAll i t.raised (newCalls_method t c (v.sessions i)) v.world, rfl⟩

section

variable {t : Turn} {i : ℕ} {key message : JString} {v : Hub τ}

theorem emit_stays (t : Turn) (i : ℕ) (key message : JString) (v : Hub τ) :
    Stays i (v.turn t i) (emit t i key message v).2 := by
  have hcalls : Along (Stays i)
      (catching Abrupt.isThrowable (onOutbound t i (.emitMessage key message)) (onOutbound t i .disconnect) : B τ Unit) :=
    .catching _ (along_onOutbound t i _) (along_onOutbound t i _)
  exact hcalls (v.turn t i)

/-- the client takes the event, or has a connection that is not lost when it is disconnected -/
def Attended (t : Turn) (key message : JString) (s : St Handler) : Prop :=
  Takes (t.begin s) ∨ Retains t key message (t.begin s)

theorem onOutbound_returns_iff (t : Turn) (i : ℕ) (c : OutboundCall) (v : Hub τ) :
    Returns (onOutbound t i c) v ↔ Returns (method t c) (v.sessions i) := by
  rw [returns_iff, returns_iff]
  rfl

/-- **A client's turn completes** exactly if it is attended. -/
theorem emit_returns_iff (t : Turn) (i : ℕ) (key message : JString) (v : Hub τ) :
    Returns (emit t i key message) v ↔ Attended t key message (v.sessions i) := by
  have hbegun : (v.turn t i).sessions i = t.begin (v.sessions i) := Function.update_self _ _ _
  have hrun : emit t i key message v =
      catching Abrupt.isThrowable (onOutbound t i (.emitMessage key message)) (onOutbound t i .disconnect) (v.turn t i) := rfl
  rcases hcall : (onOutbound t i (.emitMessage key message) : B τ Unit) (v.turn t i) with ⟨r, v'⟩
  have hr : r = (method t (.emitMessage key message) (t.begin (v.sessions i))).1 := by
    rw [← hbegun]
    exact (congrArg Prod.fst hcall).symm
  have hv' : v'.sessions i = (method t (.emitMessage key message) (t.begin (v.sessions i))).2 := by
    have hsessions := congrArg (fun u : Except Abrupt Unit × Hub τ => u.2.sessions i) hcall
    rw [← hbegun]
    exact hsessions.symm.trans (Function.update_self _ _ _)
  rcases emitMessage_cases t key message (t.begin (v.sessions i)) with ⟨htakes, s', hs'⟩ | ⟨hrefused, e, s', hs', -, -⟩
  · rw [hs'] at hr
    subst hr
    exact iff_of_true ⟨(), v', hrun.trans (catching_of_ok hcall _ _)⟩ (.inl htakes)
  · rw [hs'] at hr
    subst hr
    have hhandled : emit t i key message v = onOutbound t i .disconnect v' :=
      hrun.trans ((catching_of_error hcall _ _).trans (if_pos rfl))
    rw [returns_iff, hhandled, ← returns_iff, onOutbound_returns_iff, hv', disconnect_after_refused t key message hrefused]
    exact (or_iff_right hrefused).symm

end

/-! ## The loop -/

section Loop

variable {turns : ℕ → Turn} {outbound : ℕ} {key message : JString} {v v' : Hub τ} {clients before rest : List ℕ}

theorem visit_self (turns : ℕ → Turn) (outbound : ℕ) (key message : JString) (v : Hub τ) :
    visit turns outbound key message outbound v = (.ok (), v) := by
  unfold visit whenever
  rw [if_neg (fun h => h rfl)]
  rfl

theorem visit_other {i : ℕ} (h : i ≠ outbound) : visit turns outbound key message i = (emit (turns i) i key message : B τ Unit) :=
  if_pos h

/-- a turn leaves the other sessions alone -/
theorem sessions_visit (turns : ℕ → Turn) (outbound : ℕ) (key message : JString) {i j : ℕ} (hj : j ≠ i) (v : Hub τ) :
    (visit turns outbound key message i v).2.sessions j = v.sessions j := by
  by_cases hi : i = outbound
  · subst hi
    rw [visit_self]
  · rw [visit_other hi, (emit_stays (turns i) i key message v).sessions j hj]
    exact Function.update_of_ne hj _ _

theorem emitted_visit (turns : ℕ → Turn) (outbound : ℕ) (key message : JString) (i : ℕ) (v : Hub τ) :
    (visit turns outbound key message i v).2.emitted = (if i = outbound then [] else [i]) ++ v.emitted := by
  by_cases hi : i = outbound
  · subst hi
    rw [visit_self, if_pos rfl]
    rfl
  · rw [visit_other hi, (emit_stays (turns i) i key message v).emitted, if_neg hi]
    rfl

/-- a loop that completes has called every other client, in the order of the queue -/
theorem emitted_forEach (h : forEach clients (visit turns outbound key message) v = (.ok (), v')) :
    v'.emitted = (clients.filter (· ≠ outbound)).reverse ++ v.emitted := by
  induction clients generalizing v with
  | nil =>
    cases h
    rfl
  | cons i clients ih =>
    obtain ⟨u, hu⟩ : ∃ u, visit turns outbound key message i v = (.ok (), u) := by
      obtain ⟨a, u, hu⟩ := Returns.first (returns_of_ok h)
      exact ⟨u, hu⟩
    have hrest := ih ((bind_of_ok hu _).symm.trans h)
    have hturn := emitted_visit turns outbound key message i v
    rw [hu] at hturn
    rw [hrest, hturn, List.filter_cons]
    by_cases hi : i = outbound
    · simp [hi]
    · simp [hi]

/-- without a client that is there twice, each turn finds the client's session as it was when the loop began -/
theorem completes_iff (hnodup : (clients.filter (· ≠ outbound)).Nodup) (v : Hub τ) :
    Returns (forEach clients (visit turns outbound key message)) v ↔
      ∀ i ∈ clients, i ≠ outbound → Attended (turns i) key message (v.sessions i) := by
  induction clients generalizing v with
  | nil => exact iff_of_true (returns_of_ok rfl) fun _ hi => absurd hi List.not_mem_nil
  | cons i clients ih =>
    rw [forEach_cons_returns_iff, List.forall_mem_cons]
    by_cases hi : i = outbound
    · subst hi
      rw [List.filter_cons_of_neg (by simp)] at hnodup
      rw [visit_self]
      constructor
      · rintro ⟨-, hrest⟩
        exact ⟨fun hne => absurd rfl hne, (ih hnodup v).1 (hrest v rfl)⟩
      · rintro ⟨-, hrest⟩
        refine ⟨returns_of_ok (visit_self turns i key message v), fun u hu => ?_⟩
        cases hu
        exact (ih hnodup v).2 hrest
    · rw [List.filter_cons_of_pos (by simpa using hi)] at hnodup
      obtain ⟨hfirst, hothers⟩ := List.nodup_cons.1 hnodup
      have hlater : ∀ u, visit turns outbound key message i v = (.ok (), u) → ∀ j ∈ clients, j ≠ outbound →
          u.sessions j = v.sessions j := by
        intro u hu j hj hother
        have hji : j ≠ i := fun heq => hfirst (List.mem_filter.2 ⟨heq ▸ hj, by simpa using hi⟩)
        have hsession := sessions_visit turns outbound key message hji v
        rw [hu] at hsession
        exact hsession
      have hturn : Returns (visit turns outbound key message i) v ↔ Attended (turns i) key message (v.sessions i) := by
        rw [visit_other hi]
        exact emit_returns_iff (turns i) i key message v
      rw [hturn]
      constructor
      · rintro ⟨hattended, hrest⟩
        obtain ⟨a, u, hu⟩ := hturn.2 hattended
        refine ⟨fun _ => hattended, fun j hj hother => ?_⟩
        rw [← hlater u hu j hj hother]
        exact (ih hothers u).1 (hrest u hu) j hj hother
      · rintro ⟨hattended, hrest⟩
        refine ⟨hattended hi, fun u hu => (ih hothers u).2 fun j hj hother => ?_⟩
        rw [hlater u hu j hj hother]
        exact hrest j hj hother

/-- the clients whose turn is still to come stay at the end of the queue -/
theorem suffix_forEach (hown : Own v.world) {ns : JString} {passed : List ℕ}
    (hq : v.world.connections ns = some (passed ++ (before ++ rest)))
    (h : forEach before (visit turns outbound key message) v = (.ok (), v')) :
    ∃ passed', v'.world.connections ns = some (passed' ++ rest) := by
  induction before generalizing v passed with
  | nil =>
    cases h
    exact ⟨passed, hq⟩
  | cons i before ih =>
    obtain ⟨a, u, hu⟩ := Returns.first (returns_of_ok h)
    have hrest : forEach before (visit turns outbound key message) u = (.ok (), v') := (bind_of_ok hu _).symm.trans h
    by_cases hi : i = outbound
    · subst hi
      obtain rfl : v = u := congrArg Prod.snd ((visit_self turns i key message v).symm.trans hu)
      have hpassed : v.world.connections ns = some ((passed ++ [i]) ++ (before ++ rest)) := by
        rw [hq, List.append_assoc]
        rfl
      exact ih hown hpassed hrest
    · have hdeparts := (emit_stays (turns i) i key message v).departs
      rw [visit_other hi] at hu
      rw [hu] at hdeparts
      obtain ⟨passed', hpassed⟩ := hdeparts.queue (hown i) hq
      exact ih (hown.departs hdeparts) hpassed hrest

end Loop

/-! ## The broadcast -/

/-- **The clients whose turn is still to come are in the queue**, at its end, as long as the loop goes on. -/
theorem unvisited_suffix (targets : ℕ → Targets τ) (es : List (ℕ × Proxy.Event)) (sessions : ℕ → St Handler)
    (turns : ℕ → Turn) (self outbound : ℕ) (key message : JString) {before rest : List ℕ} {v : Hub τ}
    (hqueue : ((World.start targets).run es).connections (((World.start targets).run es).clients self).strNamespace =
      some (before ++ rest))
    (h : forEach before (visit turns outbound key message) ⟨(World.start targets).run es, sessions, []⟩ = (.ok (), v)) :
    ∃ passed, v.world.connections (((World.start targets).run es).clients self).strNamespace = some (passed ++ rest) := by
  have hnone : ((World.start targets).run es).connections (((World.start targets).run es).clients self).strNamespace =
      some ([] ++ (before ++ rest)) := hqueue
  exact suffix_forEach (own_run targets es) hnone h

/-- the event was handed to each other client once and not to the sender, and the loop came to its end -/
structure Complete (clients : List ℕ) (outbound : ℕ) (out : Except Abrupt Unit × Hub τ) : Prop where
  returns : out.1 = .ok ()
  once : ∀ i ∈ clients, i ≠ outbound → out.2.emitted.count i = 1
  never : outbound ∉ out.2.emitted

/-- **When a broadcast reaches everyone else.** In every state of the registry, with sessions in any states, and for any
environment of each client's turn: `broadcast` calls `emitMessage` once on each other client of the queue, never on the
sender, and completes, if and only if no other client is in the queue twice, and each of them takes the event or has a
connection that its application's `onDisconnect` does not lose. -/
theorem broadcast_complete_iff (targets : ℕ → Targets τ) (es : List (ℕ × Proxy.Event)) (sessions : ℕ → St Handler)
    (turns : ℕ → Turn) (self outbound : ℕ) (key message : JString) {clients : List ℕ}
    (hqueue : ((World.start targets).run es).connections (((World.start targets).run es).clients self).strNamespace =
      some clients) :
    Complete clients outbound
        (broadcast turns self outbound key message ⟨(World.start targets).run es, sessions, []⟩) ↔
      (clients.filter (· ≠ outbound)).Nodup ∧
        ∀ i ∈ clients, i ≠ outbound → Attended (turns i) key message (sessions i) := by
  let v : Hub τ := ⟨(World.start targets).run es, sessions, []⟩
  have hrun : broadcast turns self outbound key message v = forEach clients (visit turns outbound key message) v := by
    unfold broadcast
    rw [get_bind]
    rw [show v.world.connections (v.world.clients self).strNamespace = some clients from hqueue]
  change Complete clients outbound (broadcast turns self outbound key message v) ↔ _
  rw [hrun]
  constructor
  · intro h
    obtain ⟨a, v', hloop⟩ := returns_iff.2 ⟨(), h.returns⟩
    have hnodup : (clients.filter (· ≠ outbound)).Nodup := by
      rw [List.nodup_iff_count_eq_one]
      intro i hi
      obtain ⟨hmem, hother⟩ := List.mem_filter.1 hi
      have hcount := h.once i hmem (by simpa using hother)
      rw [hloop, emitted_forEach hloop, List.append_nil, List.count_reverse] at hcount
      exact hcount
    exact ⟨hnodup, (completes_iff hnodup v).1 (returns_of_ok hloop)⟩
  · rintro ⟨hnodup, hattended⟩
    obtain ⟨a, v', hloop⟩ := (completes_iff hnodup v).2 hattended
    have hemitted : v'.emitted = (clients.filter (· ≠ outbound)).reverse := (emitted_forEach hloop).trans (List.append_nil _)
    rw [hloop]
    refine ⟨rfl, fun i hi hother => ?_, ?_⟩
    · rw [hemitted, List.count_reverse]
      exact List.nodup_iff_count_eq_one.1 hnodup i (List.mem_filter.2 ⟨hi, by simpa using hother⟩)
    · rw [hemitted, List.mem_reverse, List.mem_filter]
      exact fun h => absurd h.2 (by simp)

/-! ## Three clients -/

/-- the calls on one Intercepter, latest first -/
def callsOn (i : ℕ) (es : List (ℕ × Proxy.Event)) : List InboundCall :=
  (es.filterMap fun e => match e with | (j, .invoke c) => if j = i then some c else none | _ => none).reverse

/-- a client connects to the first of two namespaces; both targets return from `onConnect` -/
def joins (i : ℕ) : List (ℕ × Proxy.Event) :=
  [(i, .invoke .onConnect), (i, .finish false), (i, .finish false), (i, .invoke (.setNamespace (str "/a")))]

def threeClients : List (ℕ × Proxy.Event) := joins 0 ++ joins 1 ++ joins 2

def joined : St Handler := run serveSocket (JettyWebSocket.created ⟨none, none⟩) (bothNamespaces.take 2)

/-- the writes to the first client fail -/
def firstFails : ℕ → Turn
  | 0 => ⟨[], [true], []⟩
  | _ => ⟨[], [], []⟩

/-- **A client that is gone is disconnected, and the others get the event.** -/
theorem failing_client_skipped :
    Complete [0, 1, 2] 1 (broadcast firstFails 1 1 (str "chat") (str "hi")
      ⟨(World.start fun _ => chats).run threeClients, fun _ => joined, []⟩) := by
  let w := (World.start fun _ => chats).run threeClients
  have hqueue : w.connections (w.clients 1).strNamespace = some [0, 1, 2] := by decide +kernel
  refine (broadcast_complete_iff (fun _ => chats) threeClients (fun _ => joined) firstFails 1 1 (str "chat") (str "hi")
    hqueue).2 ⟨by decide, fun i hi hother => ?_⟩
  have hcases : i = 0 ∨ i = 2 := by
    simp only [List.mem_cons, List.not_mem_nil, or_false] at hi
    omega
  rcases hcases with rfl | rfl
  · exact .inr ⟨by decide +kernel, fun _ => by decide +kernel⟩
  · exact .inl ⟨by decide +kernel, by decide +kernel, by decide +kernel⟩

/-- the first client also connects to the other namespace, and its CLOSE frame cannot be written -/
def leftBehind : ℕ → St Handler
  | 0 => run serveSocket (JettyWebSocket.created ⟨none, none⟩) (bothNamespaces ++ [⟨.outbound .close, [], [true]⟩])
  | _ => joined

def leftBehindEvents : List (ℕ × Proxy.Event) :=
  threeClients ++ [(0, .invoke (.setNamespace (str "/b"))), (0, .invoke (.onDisconnect .closeFailed)), (0, .finish false)]

/-- **A client that was left behind in the queue ends the loop**: its connection is null, and so is `outbound` in its
`disconnect`. The third client gets nothing. -/
theorem null_connection_ends_broadcast :
    let w := (World.start fun _ => chats).run leftBehindEvents
    let out := broadcast (fun _ => ⟨[], [], []⟩) 1 1 (str "chat") (str "hi") ⟨w, leftBehind, []⟩
    (∀ i < 3, callsOn i leftBehindEvents = issued (leftBehind i).log) ∧
      w.connections (w.clients 1).strNamespace = some [0, 1, 2] ∧ out.1 = .error (.thrown .nullPointer) ∧
        out.2.emitted = [0] ∧ ¬ Complete [0, 1, 2] 1 out := by
  intro w out
  have hraised : out.1 = .error (.thrown .nullPointer) := by rfl
  refine ⟨by decide +kernel, by decide +kernel, hraised, by decide +kernel, fun h => ?_⟩
  exact absurd (hraised.symm.trans h.returns) nofun

end SocketIOJava.Broadcast
