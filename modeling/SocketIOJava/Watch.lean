/-
Who notices that the client of a connected session is gone: invariants that tie the pending tasks of a session to its
history.

A `Guard` is what one kind of session keeps: `clocks`, about its timers and its handler at every time, and `live`, about
the state while the session is connected. `Guard.Keeps` is the relation of an update that keeps both and never connects
the session; `Guard.Ends` the relation of whatever ends a connected session, from any state with sound clocks.

- `Guard.kept_app`: the session's methods and the application keep a guard that the transport handler keeps.
- `Guard.run_inv`: so does every run without a further connect request.
-/
import SocketIOJava.Traversal

namespace SocketIOJava.Watch

open Program SocketIOJava.Text SocketIOJava.Frame SocketIOJava.Session SocketIOJava.Run SocketIOJava.Traversal

/-! ## What a guard looks at -/

/-- the entries of the log that say when a watch begins or ends -/
def heeded : Entry → Bool
  | .text _ | .wrote _ _ | .parked | .answered | .released | .completed | .finished _ => true
  | .received f => f.frameType = .heartbeat
  | _ => false

structure View (η : Type) where
  session : DefaultSession
  pending : List Task
  handler : η
  heard : List Entry

variable {η : Type}

def view (s : St η) : View η := ⟨s.session, s.executor.pending, s.handler, s.log.filter heeded⟩

/-- the timers of a session with their settings, and the handler -/
def clock (s : St η) : List Task × ℤ × ℤ × Option Task × Option Task × ℕ × η :=
  (s.executor.pending, s.session.hbDelay, s.session.timeout, s.session.hbDelayTask, s.session.timeoutTask,
    s.session.lStartTime, s.handler)

theorem clock_of_view {s s' : St η} (h : view s' = view s) : clock s' = clock s := by
  have hsession : s'.session = s.session := congrArg View.session h
  have hpending : s'.executor.pending = s.executor.pending := congrArg View.pending h
  have hhandler : s'.handler = s.handler := congrArg View.handler h
  unfold clock
  rw [hsession, hpending, hhandler]

theorem view_push {e : Entry} (he : heeded e = false) (s : St η) : view (s.push e) = view s := by
  simp only [view, St.push, List.filter_cons, he, Bool.false_eq_true, if_false]

structure Guard (η : Type) where
  clocks : St η → Prop
  live : View η → Prop
  same : ∀ s s', clock s' = clock s → clocks s → clocks s'
  fired : ∀ s t, clocks s → clocks (startTask t s)
  clearTimeout : ∀ s, clocks s → clocks (clearTimeoutTimer s)
  clearHeartbeat : ∀ s, clocks s → clocks (clearHeartbeatTimer s)
  startTimeout : ∀ s, clocks s → clocks (startTimeoutTimer s)
  inbound : ∀ v, live v → v.session.inbound = true
  timedout : ∀ v, live v → v.session.timedout = false

namespace Guard

variable (g : Guard η)

structure Inv (s : St η) : Prop where
  clocks : g.clocks s
  live : s.session.state = .connected → g.live (view s)

/-- the guard is kept, and a session that is not connected stays so -/
def Keeps (s s' : St η) : Prop :=
  g.Inv s → g.Inv s' ∧ (s.session.state ≠ .connected → s'.session.state ≠ .connected)

/-- a session with sound clocks is not connected afterwards -/
def Ends (s s' : St η) : Prop :=
  g.clocks s → (s.session.state = .connected → s.session.inbound = true) → g.clocks s' ∧ s'.session.state ≠ .connected

instance : Std.Refl g.Keeps := ⟨fun _ h => ⟨h, id⟩⟩

instance : IsTrans (St η) g.Keeps := ⟨fun _ _ _ h h' hi =>
  have hm := h hi
  have hl := h' hm.1
  ⟨hl.1, hl.2 ∘ hm.2⟩⟩

variable {g} {s s' s'' : St η}

theorem Inv.of_not_connected (h : g.clocks s) (hs : s.session.state ≠ .connected) : g.Inv s :=
  ⟨h, fun hc => absurd hc hs⟩

theorem Inv.of_view (h : g.Inv s) (hview : view s' = view s) : g.Inv s' := by
  have hsession : s'.session = s.session := congrArg View.session hview
  refine ⟨g.same _ _ (clock_of_view hview) h.clocks, fun hc => ?_⟩
  rw [hview]
  exact h.live (hsession ▸ hc)

theorem keeps_of_view (hview : view s' = view s) : g.Keeps s s' := by
  have hsession : s'.session = s.session := congrArg View.session hview
  exact fun h => ⟨h.of_view hview, fun hs => hsession ▸ hs⟩

theorem keeps_push {e : Entry} (he : heeded e = false) (s : St η) : g.Keeps s (s.push e) :=
  keeps_of_view (view_push he s)

theorem Ends.keeps (h : g.Ends s s') : g.Keeps s s' := by
  intro hi
  obtain ⟨hclocks, hstate⟩ := h hi.clocks fun hc => g.inbound _ (hi.live hc)
  exact ⟨.of_not_connected hclocks hstate, fun _ => hstate⟩

theorem Ends.trans_keeps (h : g.Ends s s') (h' : g.Keeps s' s'') : g.Ends s s'' := by
  intro hclocks hinbound
  obtain ⟨hclocks', hstate⟩ := h hclocks hinbound
  obtain ⟨hi, honward⟩ := h' (.of_not_connected hclocks' hstate)
  exact ⟨hi.clocks, honward hstate⟩

/-- an update that takes the session to another state than CONNECTED -/
theorem ends_of_state (hclock : clock s' = clock s) (hs : s'.session.state ≠ .connected) : g.Ends s s' :=
  fun hclocks _ => ⟨g.same _ _ hclock hclocks, hs⟩

theorem Ends.drop (h : g.Ends s s') : g.Ends s { s' with session.inbound := false } := by
  intro hclocks hinbound
  obtain ⟨hclocks', hstate⟩ := h hclocks hinbound
  exact ⟨g.same s' _ rfl hclocks', hstate⟩

/-- before the end, the transport may be changed, and the timers may be cleared -/
theorem Ends.after (h : g.Ends s' s'') (hclocks : g.clocks s → g.clocks s')
    (hstate : s'.session.state = s.session.state) (hinbound : s'.session.inbound = s.session.inbound) : g.Ends s s'' :=
  fun hc hi => h (hclocks hc) fun hs => hinbound.trans (hi (hstate ▸ hs))

theorem along_keeps_of_ends {α : Type} {m : M η α} (h : Along g.Ends m) : Along g.Keeps m := h.mono fun _ _ => Ends.keeps

theorem along_ends_bind {α β : Type} {m : M η α} {k : α → M η β} (hm : Along g.Ends m) (hk : ∀ a, Along g.Keeps (k a)) :
    Along g.Ends (m >>= k) := hm.comp hk (fun _ _ => id) fun _ _ _ => Ends.trans_keeps

/-- after the end, a timeout timer may be started -/
theorem Ends.start {α : Type} {m : M η α} (h : g.Ends s (m s').2) :
    g.Ends s ((do let _ ← m; modify startTimeoutTimer : M η Unit) s').2 := by
  rcases hr : m s' with ⟨r, s₁⟩
  rw [hr] at h
  cases r with
  | error e => rw [bind_of_error hr]; exact h
  | ok a =>
    rw [bind_of_ok hr]
    intro hclocks hinbound
    obtain ⟨hclocks', hstate⟩ := h hclocks hinbound
    refine ⟨g.startTimeout _ hclocks', fun hc => hstate ?_⟩
    exact (congrArg Prod.fst (core_startTimeoutTimer s₁)).symm.trans hc

theorem Inv.bind {α β : Type} {m : M η α} {k : α → M η β} (h : g.Inv (m s).2) (hk : ∀ a, Along g.Keeps (k a)) :
    g.Inv ((m >>= k) s).2 := by
  rcases hr : m s with ⟨r, s'⟩
  rw [hr] at h
  cases r with
  | ok a => rw [bind_of_ok hr]; exact (hk a s' h).1
  | error e => rw [bind_of_error hr]; exact h

theorem along_view {f : St η → St η} (h : ∀ s, view (f s) = view s) : Along g.Keeps (modify f : M η Unit) :=
  along_modify fun s => keeps_of_view (h s)

theorem along_write : Along g.Keeps (write : M η Unit) := along_write_of fun _ => keeps_of_view rfl

/-! ## The end of a session -/

section

variable [TransportHandler η] {n : ℕ} (hcall : ∀ c, Along g.Keeps (app n c : M η (List JString)))
include hcall

theorem along_onDisconnect (reason : DisconnectReason) : Along g.Ends (Session.onDisconnect (app n) reason) := by
  intro s
  unfold Session.onDisconnect
  rw [modify_bind, modify_bind, get_bind]
  have hcleared : g.clocks s → g.clocks (clearHeartbeatTimer (clearTimeoutTimer s)) :=
    fun h => g.clearHeartbeat _ (g.clearTimeout _ h)
  by_cases hi : (clearHeartbeatTimer (clearTimeoutTimer s)).session.inbound = true
  · rw [if_pos hi, notify_app]
    -- the callback starts in a closed session, which it cannot connect
    have hclosed : g.Ends (clearHeartbeatTimer (clearTimeoutTimer s))
        (setState .closed (clearHeartbeatTimer (clearTimeoutTimer s))) := ends_of_state rfl (by rintro ⟨⟩)
    exact (hclosed.trans_keeps (hcall (.onDisconnect reason) _)).drop.after hcleared rfl rfl
  · rw [if_neg hi]
    exact fun hclocks hinbound => ⟨hcleared hclocks, fun hs => hi (hinbound hs)⟩

theorem along_onShutdown : Along g.Ends (Session.onShutdown (app n)) := by
  have hremove : Along g.Keeps (modify removeSession : M η Unit) := along_view fun s => view_push rfl s
  intro s
  rcases onShutdown_cases (app n) s with ⟨-, reason, -, heq⟩ | ⟨h, heq⟩
  · rw [heq]
    exact along_ends_bind (along_onDisconnect hcall reason) (fun _ => hremove) s
  · rw [heq]
    intro hclocks hinbound
    exact ⟨g.same s _ rfl hclocks, fun hs => absurd (hinbound hs) (by rw [h]; exact Bool.false_ne_true)⟩

theorem along_onTimeout (habort : Along g.Keeps (TransportHandler.abort (app n : Callback η)))
    (hs : s.session.state = .connected → s.session.timedout = false) (hclocks : g.clocks s)
    (hinbound : s.session.state = .connected → s.session.inbound = true) :
    g.clocks (Session.onTimeout (app n) s).2 ∧ (Session.onTimeout (app n) s).2.session.state ≠ .connected := by
  unfold Session.onTimeout
  rw [get_bind]
  by_cases h : s.session.timedout = true
  · simp only [h, Bool.not_true, Bool.false_eq_true, if_false]
    exact ⟨hclocks, fun hc => absurd h (by rw [hs hc]; exact Bool.false_ne_true)⟩
  · simp only [h, Bool.not_false, if_true, modify_bind]
    have hclosed : g.Ends s (setState .closed { s with session.timedout := true }) := ends_of_state rfl (by rintro ⟨⟩)
    have hrest : Along g.Keeps (do
        Session.onDisconnect (app n) .timeout; derefHandler; TransportHandler.abort (app n) : M η Unit) :=
      (along_keeps_of_ends (along_onDisconnect hcall _)).bind fun _ => along_derefHandler.bind fun _ => habort
    exact hclosed.trans_keeps (hrest _) hclocks hinbound

end

/-! ## The session's methods -/

section

variable [TransportHandler η]

/-- what the transport handler has to keep -/
structure Handles (g : Guard η) (cb : Callback η) : Prop where
  send : ∀ f, Along g.Keeps (TransportHandler.sendMessage cb f)
  abort : Along g.Ends (TransportHandler.abort cb)
  disconnect : Along g.Ends (TransportHandler.disconnect cb)
  disconnectWhenEmpty : Along g.Keeps (TransportHandler.disconnectWhenEmpty : M η Unit)
  setNamespace : ∀ a, Along g.Keeps (TransportHandler.setNamespace a : M η Unit)
  isOpen : Along g.Keeps (TransportHandler.isOpen : M η Bool)
  heartbeat : ∀ s f, f.frameType = .heartbeat → g.Keeps s (startHeartbeatTimer (onPong (s.push (.received f))))

theorem Handles.kept {n : ℕ} (h : Handles g (app n)) (hcall : ∀ c, Along g.Keeps (app n c : M η (List JString))) :
    Kept g.Keeps (app n : Callback η) where
  send := h.send
  abort := along_keeps_of_ends h.abort
  disconnect := along_keeps_of_ends h.disconnect
  disconnectWhenEmpty := h.disconnectWhenEmpty
  setNamespace := h.setNamespace
  isOpen := h.isOpen
  onDisconnect reason := along_keeps_of_ends (along_onDisconnect hcall reason)
  call c _ := hcall c
  startClose _ := Ends.keeps (ends_of_state rfl (by rintro ⟨⟩))
  acknowledged s _ _ := keeps_push rfl s
  closing _ _ _ := Ends.keeps (ends_of_state rfl (by rintro ⟨⟩))
  closed _ := Ends.keeps (ends_of_state rfl (by rintro ⟨⟩))
  received s f hf := keeps_push (e := .received f) (decide_eq_false hf) s
  listed s names := keeps_push (e := .listed names) rfl s
  heartbeat := h.heartbeat
  outbound s _ := keeps_push rfl s
  acts _ _ _ := keeps_of_view rfl

/-- with the guard kept at each smaller depth of callbacks, every callback keeps it -/
theorem along_call {n : ℕ} (k : ∀ m < n, Kept g.Keeps (app m : Callback η)) (c : InboundCall) :
    Along g.Keeps (app n c : M η (List JString)) :=
  (along_modify fun s => keeps_push rfl s).bind fun _ =>
    (along_behave fun m hm => (k m hm).calls).ending fun s => keeps_push rfl s

/-- **The session and the application keep a guard that the handler keeps**, at every depth of callbacks. -/
theorem kept_app (handles : ∀ n, (∀ c, Along g.Keeps (app n c : M η (List JString))) → Handles g (app n)) (n : ℕ) :
    Kept g.Keeps (app n : Callback η) := by
  induction n using Nat.strong_induction_on with
  | _ n ih =>
    have hcall := along_call (g := g) ih
    exact (handles n hcall).kept hcall

/-- a ping of a session that is not connected -/
theorem sendPing_not_connected {cb : Callback η} (k : Kept g.Keeps cb) (hclocks : g.clocks s)
    (hs : s.session.state ≠ .connected) :
    g.clocks (sendPing cb s).2 ∧ (sendPing cb s).2.session.state ≠ .connected := by
  have hinc : g.Ends s (incrementMessageId s) := ends_of_state rfl hs
  have hsend : ∀ f, g.Ends s (sendOrAbort cb f (incrementMessageId s)).2 :=
    fun f => hinc.trans_keeps (k.along_sendOrAbort f _)
  exact (hsend _).start hclocks fun hc => absurd hc hs

/-! ## Runs -/

/-- `onConnect(handler)`, if the guard holds once the session is connected -/
theorem onConnect_inv {cb : Callback η} (k : Kept g.Keeps cb) (hclocks : g.clocks s) (hs : s.session.state ≠ .connected)
    (hopen : s.session.handler = false → s.session.inbound = true →
      g.live (view (setState .connected ((attach s).push (.opened s.session.state))))) :
    g.Inv (Session.onConnect cb true s).2 := by
  have hannounce : Along g.Keeps (announce cb) :=
    .catching _ ((k.call .onConnect ordinary_onConnect).bind fun _ => along_pure _)
      ((along_modify (f := setState .closed) k.closed).bind fun _ => k.abort)
  cases hh : s.session.handler with
  | true =>
    rw [onConnect_again cb hh]
    exact (k.abort s (.of_not_connected hclocks hs)).1
  | false =>
    cases hi : s.session.inbound with
    | true =>
      have hopened : g.clocks (setState .connected ((attach s).push (.opened s.session.state))) := g.same s _ rfl hclocks
      rw [onConnect_first cb hh hi]
      exact (hannounce _ ⟨hopened, fun _ => hopen hh hi⟩).1
    | false =>
      have hclosed : g.clocks (setState .closed (attach s)) := g.same s _ rfl hclocks
      rw [onConnect_dropped cb hh hi]
      exact (k.abort _ (.of_not_connected hclosed (by rintro ⟨⟩))).1

/-- a task that fires; the ping of a connected session is the handler's matter -/
theorem fire_keeps {n : ℕ} (hcall : ∀ c, Along g.Keeps (app n c : M η (List JString))) (h : Handles g (app n)) {t : Task}
    (hping : g.Inv s → t ∈ s.executor.pending → t.kind = .sendPing → s.session.state = .connected →
      g.Inv (sendPing (app n) (startTask t s)).2) (ht : t ∈ s.executor.pending) :
    g.Keeps s (runTask (app n) t.kind (startTask t s)).2 := by
  intro hi
  have hinbound : s.session.state = .connected → s.session.inbound = true := fun hc => g.inbound _ (hi.live hc)
  have htimedout : s.session.state = .connected → s.session.timedout = false := fun hc => g.timedout _ (hi.live hc)
  have hclocks := g.fired s t hi.clocks
  cases hk : t.kind with
  | onTimeout =>
    obtain ⟨hclocks', hstate⟩ := along_onTimeout hcall (along_keeps_of_ends h.abort) (s := startTask t s) htimedout
      hclocks hinbound
    exact ⟨.of_not_connected hclocks' hstate, fun _ => hstate⟩
  | sendPing =>
    by_cases hs : s.session.state = .connected
    · exact ⟨hping hi ht hk hs, fun hn => absurd hs hn⟩
    · obtain ⟨hclocks', hstate⟩ := sendPing_not_connected (h.kept hcall) (s := startTask t s) hclocks hs
      exact ⟨.of_not_connected hclocks' hstate, fun _ => hstate⟩

variable {κ : Type} {serve : Callback η → κ → M η Unit}

theorem perform_keeps {n : ℕ} (hcall : ∀ c, Along g.Keeps (app n c : M η (List JString))) (h : Handles g (app n))
    (hping : ∀ s t, g.Inv s → t ∈ s.executor.pending → t.kind = .sendPing → s.session.state = .connected →
      g.Inv (sendPing (app n) (startTask t s)).2)
    {e : Event κ} (hserve : ∀ x, e = .container x → Along g.Keeps (serve (app n) x)) :
    Along g.Keeps (perform serve (app n) e) := by
  cases e with
  | container x => exact hserve x rfl
  | fire t =>
    refine along_get_bind fun s => ?_
    by_cases ht : t ∈ s.executor.pending ∧ t.due ≤ s.executor.ticks
    · rw [if_pos ht]
      exact fire_keeps hcall h (hping s t) ht.1
    · rw [if_neg ht]
      exact Std.Refl.refl s
  | outbound c => exact (h.kept hcall).calls.along_outbound c
  | tick d => exact along_view fun s => rfl

/-- **A guard that the handler keeps holds along every run** whose container events keep it. -/
theorem run_inv (handles : ∀ n, (∀ c, Along g.Keeps (app n c : M η (List JString))) → Handles g (app n))
    (hping : ∀ n s t, g.Inv s → t ∈ s.executor.pending → t.kind = .sendPing → s.session.state = .connected →
      g.Inv (sendPing (app n) (startTask t s)).2)
    {is : List (Input κ)} (hserve : ∀ n, ∀ i ∈ is, ∀ x, i.event = .container x → Along g.Keeps (serve (app n) x))
    (h : g.Inv s) : g.Inv (run serve s is) := by
  induction is generalizing s with
  | nil => exact h
  | cons i is ih =>
    have hcall := along_call (g := g) fun m (_ : m < i.acts.length + 1) => kept_app handles m
    have hstep := perform_keeps hcall (handles _ hcall) (hping _) (hserve _ i List.mem_cons_self)
      { s with acts := i.acts, io := i.io } (h.of_view rfl)
    exact ih (fun n j hj => hserve n j (List.mem_cons_of_mem i hj)) hstep.1

end

end Guard

end SocketIOJava.Watch
