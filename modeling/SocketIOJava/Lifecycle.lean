/-
The connection state along runs, under any order of events and of direct calls of the session's methods.

The state is assigned in eight places. `Forward log`: no assignment in the history took the state back. Three calls can do
that, each in a state where the code does not expect it (`Late`): `startClose` and `onClose` set CLOSING also when the
session is CLOSED, and the first `onConnect(handler)` sets CONNECTED also when the session is CLOSING.

- `state_forward_iff`: in every run the state only moved forward, and was CLOSED from the end of `onShutdown` on, exactly
  when no late call was made.
- `late_close_reopens`: a `startClose` after the end of the session takes it from CLOSED back to CLOSING.
-/
import SocketIOJava.JettyTraversal

namespace SocketIOJava.Lifecycle

open Program SocketIOJava.Text SocketIOJava.Frame SocketIOJava.Session SocketIOJava.Run SocketIOJava.Traversal

/-! ## The state in the history -/

/-- the state after a history -/
def stateOf : List Entry → ConnectionState
  | [] => .connecting
  | .state c :: _ => c
  | _ :: past => stateOf past

/-- no assignment took the state back -/
def Forward : List Entry → Prop
  | [] => True
  | .state c :: past => (stateOf past).value ≤ c.value ∧ Forward past
  | _ :: past => Forward past

/-- a call that sets the state without a look at it, in a state that lies beyond -/
def Late : Entry → Prop
  | .startClose old | .onClose old _ => old = .closed
  | .opened old => old = .closing ∨ old = .closed
  | _ => False

/-- no late call was made -/
def Timely (log : List Entry) : Prop := ∀ e ∈ log, ¬ Late e

/-- whenever the session had been removed from its manager, its state was CLOSED -/
def ClosedOnceRemoved (log : List Entry) : Prop := ∀ past, past <:+ log → .removed ∈ past → stateOf past = .closed

/-- an entry that is neither an assignment of the state nor the removal -/
def Plain : Entry → Prop
  | .state _ | .removed => False
  | _ => True

theorem stateOf_plain {e : Entry} (he : Plain e) (log : List Entry) : stateOf (e :: log) = stateOf log := by
  cases e <;> first | rfl | exact absurd he id

theorem forward_plain {e : Entry} (he : Plain e) (log : List Entry) : Forward (e :: log) ↔ Forward log := by
  cases e <;> first | exact Iff.rfl | exact absurd he id

theorem plain_of_silent {e : Entry} (he : Silent e) : Plain e := by
  cases e <;> trivial

theorem not_late_of_silent {e : Entry} (he : Silent e) : ¬ Late e := by
  cases e <;> first | exact id | exact he.elim

theorem timely_cons {e : Entry} {log : List Entry} : Timely (e :: log) ↔ ¬ Late e ∧ Timely log := List.forall_mem_cons

theorem value_le_closed (c : ConnectionState) : c.value ≤ ConnectionState.closed.value := by cases c <;> decide

theorem eq_closed_of_le {c : ConnectionState} (h : ConnectionState.closed.value ≤ c.value) : c = .closed := by
  cases c <;> first | rfl | exact absurd h (by decide)

/-- along a forward history the state never was beyond the last one -/
theorem Forward.le {past log : List Entry} (h : Forward log) (hp : past <:+ log) :
    (stateOf past).value ≤ (stateOf log).value := by
  induction log with
  | nil => rw [List.suffix_nil.1 hp]
  | cons e log ih =>
    rcases List.suffix_cons_iff.1 hp with rfl | hpast
    · exact le_refl _
    · cases e with
      | state c => exact (ih h.2 hpast).trans h.1
      | _ => exact ih h hpast

theorem closedOnceRemoved_cons {e : Entry} {log : List Entry} (h : ClosedOnceRemoved log)
    (he : .removed ∈ e :: log → stateOf (e :: log) = .closed) : ClosedOnceRemoved (e :: log) := by
  intro past hp hmem
  rcases List.suffix_cons_iff.1 hp with rfl | hp
  · exact he hmem
  · exact h past hp hmem

/-! ## The invariant -/

section

variable {η : Type}

structure Inv (s : St η) : Prop where
  current : stateOf s.log = s.session.state
  forward : Forward s.log ↔ Timely s.log
  dropped : Timely s.log → s.session.inbound = false → s.session.state = .closed
  removed : Timely s.log → ClosedOnceRemoved s.log

/-- the history grows and the invariant is kept -/
def Keeps (s s' : St η) : Prop := s.log <:+ s'.log ∧ (Inv s → Inv s')

instance : Std.Refl (Keeps (η := η)) := ⟨fun _ => ⟨List.suffix_refl _, id⟩⟩

instance : IsTrans (St η) Keeps := ⟨fun _ _ _ h h' => ⟨h.1.trans h'.1, h'.2 ∘ h.2⟩⟩

theorem Inv.of_core {s s' : St η} (h : Inv s) (hs : core s' = core s) : Inv s' := by
  obtain ⟨hstate, hinbound, -, hlog⟩ : s'.session.state = s.session.state ∧ s'.session.inbound = s.session.inbound ∧
      s'.session.handler = s.session.handler ∧ s'.log = s.log := by
    simpa [core] using hs
  refine ⟨?_, ?_, ?_, ?_⟩
  · rw [hlog, hstate]; exact h.current
  · rw [hlog]; exact h.forward
  · rw [hlog, hstate, hinbound]; exact h.dropped
  · rw [hlog]; exact h.removed

/-- an entry that says nothing about the state -/
theorem Inv.push {s : St η} (h : Inv s) {e : Entry} (hp : Plain e) (hl : ¬ Late e) : Inv (s.push e) := by
  have htimely : Timely (e :: s.log) → Timely s.log := fun ht => (timely_cons.1 ht).2
  refine ⟨(stateOf_plain hp _).trans h.current, ?_, fun ht => h.dropped (htimely ht), fun ht => ?_⟩
  · change Forward (e :: s.log) ↔ Timely (e :: s.log)
    rw [forward_plain hp, timely_cons, h.forward]
    exact ⟨fun ht => ⟨hl, ht⟩, fun ht => ht.2⟩
  · refine closedOnceRemoved_cons (h.removed (htimely ht)) fun hmem => ?_
    have hmem' : .removed ∈ s.log := (List.mem_cons.1 hmem).resolve_left (by rintro rfl; exact hp)
    rw [stateOf_plain hp]
    exact h.removed (htimely ht) _ (List.suffix_refl _) hmem'

/-- **An assignment of the state**, after an entry that is late exactly when the state goes back. -/
theorem Inv.assign {s s' : St η} (h : Inv s) {e : Entry} {c : ConnectionState} (hp : Plain e)
    (hlate : s.session.state.value ≤ c.value ↔ ¬ Late e) (hlog : s'.log = .state c :: e :: s.log)
    (hstate : s'.session.state = c) (hinbound : s'.session.inbound = s.session.inbound) : Inv s' := by
  have htimely : Timely (.state c :: e :: s.log) ↔ ¬ Late e ∧ Timely s.log := by
    rw [timely_cons, timely_cons]
    exact ⟨fun ht => ht.2, fun ht => ⟨id, ht⟩⟩
  have hpast : stateOf (e :: s.log) = s.session.state := (stateOf_plain hp _).trans h.current
  have hreached : Timely s'.log → s.session.state = .closed → c = .closed := by
    intro ht hc
    rw [hlog] at ht
    have hle := hlate.2 (htimely.1 ht).1
    rw [hc] at hle
    exact eq_closed_of_le hle
  refine ⟨?_, ?_, fun ht hi => ?_, fun ht => ?_⟩
  · rw [hlog, hstate]; rfl
  · rw [hlog, htimely, ← hlate, ← h.forward, ← hpast, ← forward_plain hp s.log]; rfl
  · rw [hstate]
    refine hreached ht (h.dropped ?_ (hinbound ▸ hi))
    rw [hlog] at ht
    exact (htimely.1 ht).2
  · have hpastTimely : Timely s.log := by rw [hlog] at ht; exact (htimely.1 ht).2
    have hclosed : .removed ∈ s.log → c = .closed := by
      intro hmem
      refine hreached ht ?_
      rw [← h.current]
      exact h.removed hpastTimely _ (List.suffix_refl _) hmem
    rw [hlog]
    refine closedOnceRemoved_cons (closedOnceRemoved_cons (h.removed hpastTimely) ?_) ?_
    · intro hmem
      have hmem' : .removed ∈ s.log := (List.mem_cons.1 hmem).resolve_left (by rintro rfl; exact hp)
      rw [stateOf_plain hp]
      exact h.removed hpastTimely _ (List.suffix_refl _) hmem'
    · intro hmem
      have hmem' : .removed ∈ e :: s.log := (List.mem_cons.1 hmem).resolve_left (by rintro ⟨⟩)
      exact hclosed ((List.mem_cons.1 hmem').resolve_left (by rintro rfl; exact hp))

theorem Inv.closed {s : St η} (h : Inv s) : Inv (setState .closed s) := by
  have hpast : stateOf s.log = s.session.state := h.current
  have htimely : Timely (.state .closed :: s.log) ↔ Timely s.log := by
    rw [timely_cons]; exact ⟨fun ht => ht.2, fun ht => ⟨id, ht⟩⟩
  refine ⟨rfl, ?_, fun _ _ => rfl, fun ht => ?_⟩
  · change ((stateOf s.log).value ≤ _ ∧ Forward s.log) ↔ Timely (.state .closed :: s.log)
    rw [htimely, ← h.forward]
    exact ⟨fun hf => hf.2, fun hf => ⟨value_le_closed _, hf⟩⟩
  · exact closedOnceRemoved_cons (h.removed (htimely.1 ht)) fun _ => rfl

theorem Inv.removeSession {s : St η} (h : Inv s) (hi : s.session.inbound = false) : Inv (removeSession s) := by
  have htimely : Timely (.removed :: s.log) ↔ Timely s.log := by
    rw [timely_cons]; exact ⟨fun ht => ht.2, fun ht => ⟨id, ht⟩⟩
  refine ⟨h.current, ?_, fun ht => h.dropped (htimely.1 ht), fun ht => ?_⟩
  · exact h.forward.trans htimely.symm
  · refine closedOnceRemoved_cons (h.removed (htimely.1 ht)) fun _ => ?_
    exact h.current.trans (h.dropped (htimely.1 ht) hi)

theorem Inv.drop {s : St η} (h : Inv s) (hs : Timely s.log → s.session.state = .closed) :
    Inv { s with session.inbound := false } :=
  ⟨h.current, h.forward, fun ht _ => hs ht, h.removed⟩

theorem keeps_push {s : St η} {e : Entry} (hp : Plain e) (hl : ¬ Late e) : Keeps s (s.push e) :=
  ⟨List.suffix_cons _ _, fun h => h.push hp hl⟩

theorem keeps_drop (s : St η) (h : s.session.state = .closed) : Keeps s { s with session.inbound := false } :=
  ⟨List.suffix_refl _, fun hs => hs.drop fun _ => h⟩

variable [TransportHandler η]

theorem updates : Updates (Keeps (η := η)) where
  same s s' hs := ⟨by have hlog : s'.log = s.log := (Prod.ext_iff.1 (Prod.ext_iff.1 (Prod.ext_iff.1 hs).2).2).2
                      rw [hlog], fun h => h.of_core hs⟩
  silent _ _ he := keeps_push (plain_of_silent he) (not_late_of_silent he)
  outbound _ _ := keeps_push trivial id
  acknowledged _ _ _ := keeps_push trivial (by rintro ⟨⟩)
  startClose s := ⟨⟨[_, _], rfl⟩, fun h => h.assign (e := .startClose s.session.state) trivial
    (by cases s.session.state <;> simp [Late, ConnectionState.value]) rfl rfl rfl⟩
  closing s data _ := ⟨⟨[_, _], rfl⟩, fun h => h.assign (e := .onClose s.session.state data) trivial
    (by cases s.session.state <;> simp [Late, ConnectionState.value]) rfl rfl rfl⟩
  closed _ := ⟨List.suffix_cons _ _, Inv.closed⟩
  removed _ hi := ⟨List.suffix_cons _ _, fun h => h.removeSession hi⟩

omit [TransportHandler η] in
theorem opens : Opens (Keeps (η := η)) where
  opened s _ _ := ⟨⟨[_, _], rfl⟩, fun h => h.assign (e := .opened s.session.state) trivial
    (by cases s.session.state <;> simp [Late, ConnectionState.value]) rfl rfl rfl⟩
  attached _ := ⟨List.suffix_refl _, fun h => ⟨h.current, h.forward, h.dropped, h.removed⟩⟩

/-- `notify` leaves the state CLOSED if the callback makes no late call -/
theorem keeps_notify {n : ℕ} {reason : DisconnectReason} (happ : Along Keeps (app n (.onDisconnect reason) : M η (List JString)))
    (s : St η) : Keeps s (Session.notify (app n) reason s).2 := by
  have hclosed : Keeps s (setState .closed s) := updates.closed s
  have hbody := happ (setState .closed s)
  rw [notify_app]
  refine ⟨hclosed.1.trans hbody.1, fun hs => ?_⟩
  have hinv := hbody.2 (hclosed.2 hs)
  refine hinv.drop fun ht => ?_
  have hle := (hinv.forward.2 ht).le hbody.1
  rw [hinv.current] at hle
  exact eq_closed_of_le hle

/-- the application keeps the invariant, at every depth of callbacks -/
theorem core_app (hsteps : ∀ n, Incoming Keeps (app n : Callback η) → Steps Keeps (app n : Callback η)) (n : ℕ) :
    Core Keeps (app n : Callback η) := by
  refine updates.core_app hsteps (fun n hn s reason _ => keeps_notify ?_ s) n
  refine (along_modify fun s => keeps_push (e := .called (.onDisconnect reason)) trivial id).bind fun _ => ?_
  exact (along_behave hn).ending fun s => keeps_push (e := .returned (.onDisconnect reason)) trivial id

end

/-! ## Runs -/

theorem inv_initial {η : Type} {s : St η} (hlog : s.log = []) (hstate : s.session.state = .connecting)
    (hinbound : s.session.inbound = true) : Inv s := by
  have htimely : Timely s.log := by rw [hlog]; exact fun _ h => absurd h List.not_mem_nil
  refine ⟨?_, ⟨fun _ => htimely, fun _ => ?_⟩, fun _ h => ?_, fun _ past hp hm => ?_⟩
  · rw [hlog, hstate]; rfl
  · rw [hlog]; trivial
  · rw [hinbound] at h; cases h
  · rw [hlog, List.suffix_nil] at hp
    rw [hp] at hm
    exact absurd hm List.not_mem_nil

theorem http_keeps (s : St JettyContinuation.Handler) (is : List (Input (HttpEvent ⊕ SessionCall))) :
    Keeps s (run (anyCall serveHttp) s is) := by
  have hcore := fun n => (core_app (fun n c => JettyTraversal.Http.steps c) n).incoming
  have hsteps := fun n => JettyTraversal.Http.steps (hcore n)
  refine run_related (fun n => (hcore n).serving) hsteps (fun n e => ?_) s is
  cases e with
  | inl e => exact JettyTraversal.Http.along_serve (hcore n).serving (hsteps n) opens e
  | inr call => exact (hcore n).serving.along_sessionCall (hsteps n) opens keeps_drop call

theorem http_inv (config : JettyContinuation.SocketIOConfig) (persistent : Bool)
    (is : List (Input (HttpEvent ⊕ SessionCall))) :
    Inv (run (anyCall serveHttp) (JettyContinuation.created config persistent) is) :=
  (http_keeps _ is).2 (inv_initial rfl rfl rfl)

theorem socket_keeps (s : St JettyWebSocket.Handler) (is : List (Input (SocketEvent ⊕ SessionCall))) :
    Keeps s (run (anyCall serveSocket) s is) := by
  have hcore := fun n => (core_app (fun n c => JettyTraversal.Socket.steps c) n).incoming
  have hsteps := fun n => JettyTraversal.Socket.steps (hcore n)
  refine run_related (fun n => (hcore n).serving) hsteps (fun n e => ?_) s is
  cases e with
  | inl e => exact JettyTraversal.Socket.along_serve (hcore n).serving (hsteps n) opens e
  | inr call => exact (hcore n).serving.along_sessionCall (hsteps n) opens keeps_drop call

theorem socket_inv (config : JettyWebSocket.SocketIOConfig) (is : List (Input (SocketEvent ⊕ SessionCall))) :
    Inv (run (anyCall serveSocket) (JettyWebSocket.created config) is) :=
  (socket_keeps _ is).2 (inv_initial rfl rfl rfl)

/-- the state of the session only moved forward, and was CLOSED whenever `onShutdown` had ended -/
def MovedForward {η : Type} (s : St η) : Prop :=
  stateOf s.log = s.session.state ∧ Forward s.log ∧ ClosedOnceRemoved s.log

theorem Inv.movedForward_iff {η : Type} {s : St η} (h : Inv s) : MovedForward s ↔ Timely s.log :=
  ⟨fun hm => h.forward.1 hm.2.1, fun ht => ⟨h.current, h.forward.2 ht, h.removed ht⟩⟩

/-- **When the connection state only moves forward.** In every run of a session with either handler, under any order of
events and of direct calls of the session's methods: the state never went back, and was CLOSED from the end of
`onShutdown` on, exactly when no `startClose` or `onClose` was called in state CLOSED and the first `onConnect(handler)`
of a session with an inbound not in state CLOSING or CLOSED. -/
theorem state_forward_iff (config : JettyContinuation.SocketIOConfig) (persistent : Bool)
    (is : List (Input (HttpEvent ⊕ SessionCall))) (wsConfig : JettyWebSocket.SocketIOConfig)
    (js : List (Input (SocketEvent ⊕ SessionCall))) :
    let s := run (anyCall serveHttp) (JettyContinuation.created config persistent) is
    let t := run (anyCall serveSocket) (JettyWebSocket.created wsConfig) js
    (MovedForward s ↔ Timely s.log) ∧ (MovedForward t ↔ Timely t.log) :=
  ⟨(http_inv config persistent is).movedForward_iff, (socket_inv wsConfig js).movedForward_iff⟩

/-- a WebSocket session connects, the connection closes, and the application then closes its outbound -/
def lateClose : List (Input (SocketEvent ⊕ SessionCall)) :=
  [⟨.container (.inl .connect), [], []⟩, ⟨.container (.inl .onClose), [], []⟩, ⟨.outbound .close, [], []⟩]

/-- **A late `close()` reopens the session**: after the end of `onShutdown` the state goes from CLOSED to CLOSING. -/
theorem late_close_reopens :
    let s := run (anyCall serveSocket) (JettyWebSocket.created ⟨none, none⟩) lateClose
    s.session.state = .closing ∧ s.registered = false ∧ ¬ MovedForward s := by
  refine ⟨by decide, by decide, fun h => ?_⟩
  have hlate := (socket_inv ⟨none, none⟩ lateClose).movedForward_iff.1 h
  exact hlate (.startClose .closed) (by decide) rfl

end SocketIOJava.Lifecycle
