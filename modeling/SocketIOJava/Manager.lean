/-
`SocketIOSessionManager` with its sessions: which session a client's id leads to.

A `Fleet` is one manager with all sessions that it created, in order, each with its transport handler and its own events.
A session that is shut down tells the manager to forget its id (`removeSession`), each time it is shut down, and the manager
removes whatever session it holds under that id.

- `getSession_latest_iff`: along a run, `getSession(id)` is the latest session created for `id` as long as that was not shut
  down, exactly when no session is shut down while the manager holds another one under its id.
- `late_onClose_forgets_successor`: a WebSocket session is aborted, a client connects again with its id, and the container
  reports the close of the first connection: the manager forgets the second session.
-/
import SocketIOJava.Lifecycle
import SocketIOJava.Handshake
import SocketIOJava.Lib.Runs

namespace SocketIOJava.Manager

open Program SocketIOJava.Text SocketIOJava.Frame SocketIOJava.Session SocketIOJava.Run
open SocketIOJava.Handshake (Registry getElem?_append_some getElem?_concat_cases)

/-! ## Sessions with their handlers -/

/-- a session, by the handler of its transport -/
inductive SessionState where
  | http (s : St JettyContinuation.Handler)
  | socket (s : St JettyWebSocket.Handler)

/-- what `createSession` and `newHandler` make -/
inductive Kind where
  | http (config : JettyContinuation.SocketIOConfig) (persistent : Bool)
  | socket (config : JettyWebSocket.SocketIOConfig)

inductive SessionInput where
  | http (i : Input HttpEvent)
  | socket (i : Input SocketEvent)

def Kind.created : Kind → SessionState
  | .http config persistent => .http (JettyContinuation.created config persistent)
  | .socket config => .socket (JettyWebSocket.created config)

namespace SessionState

def log : SessionState → List Entry
  | .http s => s.log
  | .socket s => s.log

/-- an event of the session; there are no requests of another transport -/
def step : SessionState → SessionInput → SessionState
  | .http s, .http i => .http (Run.step serveHttp s i)
  | .socket s, .socket i => .socket (Run.step serveSocket s i)
  | x, _ => x

/-- how often the session has been shut down -/
def shutdowns (x : SessionState) : ℕ := x.log.count .removed

end SessionState

/-! ## The manager -/

structure Fleet where
  registry : Registry
  states : List SessionState

inductive Action where
  | createSession (inbound : ℕ) (sessionId : JString) (kind : Kind)
  | event (session : ℕ) (input : SessionInput)

namespace Fleet

def empty : Fleet := ⟨⟨[], [], fun _ => none⟩, []⟩

def step (v : Fleet) : Action → Fleet
  | .createSession inbound sessionId kind => ⟨v.registry.createSession inbound sessionId, v.states ++ [kind.created]⟩
  | .event session input =>
    match v.states[session]?, v.registry.sessions[session]? with
    | some st, some x =>
      let registry := if st.shutdowns < (st.step input).shutdowns then v.registry.removeSession x.sessionId else v.registry
      ⟨registry, v.states.set session (st.step input)⟩
    | _, _ => v

def run (v : Fleet) (as : List Action) : Fleet := as.foldl step v

variable (v : Fleet)

/-- the session is the last one that was created for the id -/
def Latest (id : JString) (i : ℕ) : Prop :=
  (∃ x, v.registry.sessions[i]? = some x ∧ x.sessionId = id) ∧
    ∀ j y, i < j → v.registry.sessions[j]? = some y → y.sessionId ≠ id

/-- the session has been shut down -/
def ShutDown (i : ℕ) : Prop := ∃ st, v.states[i]? = some st ∧ .removed ∈ st.log

/-- `getSession(id)` is the latest session for the id, as long as it is not shut down -/
def Faithful : Prop := ∀ id i, v.registry.getSession id = some i ↔ v.Latest id i ∧ ¬ v.ShutDown i

/-- the event shuts its session down -/
def ShutsDown (i : ℕ) (input : SessionInput) : Prop :=
  ∃ st, v.states[i]? = some st ∧ st.shutdowns < (st.step input).shutdowns

/-- a session is shut down while the manager holds another one under its id -/
def Stray (a : Action) : Prop :=
  ∃ i input x j, a = .event i input ∧ v.registry.sessions[i]? = some x ∧ v.ShutsDown i input ∧
    v.registry.getSession x.sessionId = some j ∧ j ≠ i

end Fleet

/-! ## What an event does to the history of its session -/

theorem step_inl {η κ : Type} [TransportHandler η] (serve : Callback η → κ → M η Unit) (s : St η) (i : Input κ) :
    ∃ j : Input (κ ⊕ SessionCall), Run.step serve s i = Run.run (anyCall serve) s [j] := by
  obtain ⟨e, acts, io⟩ := i
  cases e with
  | container e => exact ⟨⟨.container (.inl e), acts, io⟩, rfl⟩
  | fire t => exact ⟨⟨.fire t, acts, io⟩, rfl⟩
  | outbound c => exact ⟨⟨.outbound c, acts, io⟩, rfl⟩
  | tick d => exact ⟨⟨.tick d, acts, io⟩, rfl⟩

theorem log_step (x : SessionState) (input : SessionInput) : x.log <:+ (x.step input).log := by
  cases x with
  | http s =>
    cases input with
    | http i =>
      obtain ⟨j, hj⟩ := step_inl serveHttp s i
      have hgrows := (Lifecycle.http_keeps s [j]).1
      rw [← hj] at hgrows
      exact hgrows
    | socket i => exact List.suffix_refl _
  | socket s =>
    cases input with
    | http i => exact List.suffix_refl _
    | socket i =>
      obtain ⟨j, hj⟩ := step_inl serveSocket s i
      have hgrows := (Lifecycle.socket_keeps s [j]).1
      rw [← hj] at hgrows
      exact hgrows

/-- after the event the session is shut down if it was, or if the event did it -/
theorem removed_step_iff (x : SessionState) (input : SessionInput) :
    .removed ∈ (x.step input).log ↔ .removed ∈ x.log ∨ x.shutdowns < (x.step input).shutdowns := by
  have hle : x.shutdowns ≤ (x.step input).shutdowns := (log_step x input).sublist.count_le _
  unfold SessionState.shutdowns at hle ⊢
  rw [← List.count_pos_iff, ← List.count_pos_iff]
  omega

theorem not_removed_created (kind : Kind) : .removed ∉ kind.created.log := by
  cases kind <;> exact List.not_mem_nil

namespace Fleet

variable {v : Fleet}

/-- every session that the manager created is there with its handler -/
def Sound (v : Fleet) : Prop := v.states.length = v.registry.sessions.length

theorem Sound.session (h : v.Sound) {i : ℕ} {st : SessionState} (hi : v.states[i]? = some st) :
    ∃ x, v.registry.sessions[i]? = some x := by
  obtain ⟨hlt, -⟩ := List.getElem?_eq_some_iff.1 hi
  exact ⟨_, List.getElem?_eq_getElem (h ▸ hlt)⟩

theorem step_event {i : ℕ} {input : SessionInput} {st : SessionState} {x : Handshake.Session}
    (hst : v.states[i]? = some st) (hx : v.registry.sessions[i]? = some x) :
    v.step (.event i input) =
      ⟨if st.shutdowns < (st.step input).shutdowns then v.registry.removeSession x.sessionId else v.registry,
        v.states.set i (st.step input)⟩ := by
  simp only [step, hst, hx]

theorem step_nobody {i : ℕ} {input : SessionInput} (hst : v.states[i]? = none) : v.step (.event i input) = v := by
  simp only [step, hst]

theorem Sound.step (h : v.Sound) (a : Action) : (v.step a).Sound := by
  cases a with
  | createSession inbound sessionId kind =>
    change (v.states ++ [_]).length = (v.registry.sessions ++ [_]).length
    rw [List.length_append, List.length_append, h]
    rfl
  | event i input =>
    cases hst : v.states[i]? with
    | none => rw [step_nobody hst]; exact h
    | some st =>
      obtain ⟨x, hx⟩ := h.session hst
      rw [step_event hst hx]
      unfold Sound
      dsimp only
      rw [List.length_set]
      split_ifs <;> exact h

/-! ## The invariant -/

theorem shutDown_createSession (inbound : ℕ) (sessionId : JString) (kind : Kind) (i : ℕ) :
    (v.step (.createSession inbound sessionId kind)).ShutDown i ↔ v.ShutDown i := by
  have hstates : (v.step (.createSession inbound sessionId kind)).states = v.states ++ [kind.created] := rfl
  unfold ShutDown
  rw [hstates]
  constructor
  · intro ⟨st, hst, hmem⟩
    rcases getElem?_concat_cases hst with hold | ⟨-, rfl⟩
    · exact ⟨st, hold, hmem⟩
    · exact absurd hmem (not_removed_created kind)
  · intro ⟨st, hst, hmem⟩
    exact ⟨st, getElem?_append_some hst _, hmem⟩

/-- a new session is the latest one for its id -/
theorem latest_createSession (inbound : ℕ) (sessionId : JString) (kind : Kind) (id : JString) (i : ℕ) :
    (v.step (.createSession inbound sessionId kind)).Latest id i ↔
      if id = sessionId then i = v.registry.sessions.length else v.Latest id i := by
  have hsessions : (v.step (.createSession inbound sessionId kind)).registry.sessions =
      v.registry.sessions ++ [⟨sessionId, inbound, none⟩] := rfl
  unfold Latest
  rw [hsessions]
  split_ifs with hid
  · subst hid
    constructor
    · intro ⟨⟨x, hx, _⟩, hlast⟩
      obtain ⟨hlt, -⟩ := List.getElem?_eq_some_iff.1 hx
      rw [List.length_append, List.length_singleton] at hlt
      by_contra hne
      exact hlast _ _ (by omega) List.getElem?_concat_length rfl
    · intro hi
      subst hi
      refine ⟨⟨_, List.getElem?_concat_length, rfl⟩, fun j y hj hy => ?_⟩
      obtain ⟨hlt, -⟩ := List.getElem?_eq_some_iff.1 hy
      rw [List.length_append, List.length_singleton] at hlt
      omega
  · constructor
    · intro ⟨⟨x, hx, hxid⟩, hlast⟩
      rcases getElem?_concat_cases hx with hold | ⟨-, rfl⟩
      · exact ⟨⟨x, hold, hxid⟩, fun j y hj hy => hlast j y hj (getElem?_append_some hy _)⟩
      · exact absurd hxid.symm hid
    · intro ⟨⟨x, hx, hxid⟩, hlast⟩
      refine ⟨⟨x, getElem?_append_some hx _, hxid⟩, fun j y hj hy => ?_⟩
      rcases getElem?_concat_cases hy with hold | ⟨-, rfl⟩
      · exact hlast j y hj hold
      · exact fun h => hid h.symm

theorem Faithful.createSession (h : v.Faithful) (hs : v.Sound) (inbound : ℕ) (sessionId : JString) (kind : Kind) :
    (v.step (.createSession inbound sessionId kind)).Faithful := by
  intro id i
  have hget : (v.step (.createSession inbound sessionId kind)).registry.getSession id =
      if id = sessionId then some v.registry.sessions.length else v.registry.getSession id := Function.update_apply ..
  rw [hget, latest_createSession, shutDown_createSession]
  split_ifs with hid
  · constructor
    · intro hi
      obtain rfl := Option.some.inj hi
      refine ⟨rfl, fun ⟨st, hst, _⟩ => ?_⟩
      obtain ⟨hlt, -⟩ := List.getElem?_eq_some_iff.1 hst
      exact absurd hs (by unfold Sound; omega)
    · intro hi
      rw [hi.1]
  · exact h id i

section Event

variable {i : ℕ} {input : SessionInput} {st : SessionState} {x : Handshake.Session} (hst : v.states[i]? = some st)
  (hx : v.registry.sessions[i]? = some x)
include hst

theorem shutsDown_iff : v.ShutsDown i input ↔ st.shutdowns < (st.step input).shutdowns := by
  constructor
  · intro ⟨st', hst', hlt⟩
    obtain rfl := Option.some.inj (hst.symm.trans hst')
    exact hlt
  · exact fun hlt => ⟨st, hst, hlt⟩

include hx

theorem sessions_event : (v.step (.event i input)).registry.sessions = v.registry.sessions := by
  rw [step_event hst hx]
  dsimp only
  split_ifs <;> rfl

theorem latest_event (id : JString) (k : ℕ) : (v.step (.event i input)).Latest id k ↔ v.Latest id k := by
  unfold Latest
  rw [sessions_event hst hx]

theorem shutDown_event (k : ℕ) :
    (v.step (.event i input)).ShutDown k ↔ v.ShutDown k ∨ k = i ∧ v.ShutsDown i input := by
  rw [step_event hst hx, shutsDown_iff hst]
  unfold ShutDown
  by_cases hk : k = i
  · subst hk
    obtain ⟨hlt, -⟩ := List.getElem?_eq_some_iff.1 hst
    simp only [List.getElem?_set_self hlt, hst, Option.some.injEq, exists_eq_left', true_and]
    exact removed_step_iff st input
  · simp only [List.getElem?_set_ne (Ne.symm hk), hk, false_and, or_false]

theorem getSession_event (id : JString) :
    (v.ShutsDown i input ∧ id = x.sessionId → (v.step (.event i input)).registry.getSession id = none) ∧
      (¬ (v.ShutsDown i input ∧ id = x.sessionId) →
        (v.step (.event i input)).registry.getSession id = v.registry.getSession id) := by
  have hupdate : (v.registry.removeSession x.sessionId).getSession id =
      if id = x.sessionId then none else v.registry.getSession id := Function.update_apply ..
  rw [step_event hst hx, shutsDown_iff hst]
  by_cases hlt : st.shutdowns < (st.step input).shutdowns
  · rw [if_pos hlt, hupdate]
    exact ⟨fun h => if_pos h.2, fun h => if_neg fun hid => h ⟨hlt, hid⟩⟩
  · rw [if_neg hlt]
    exact ⟨fun h => absurd h.1 hlt, fun _ => rfl⟩

end Event

/-- a session of the manager's id is the only latest one -/
theorem Latest.unique {id : JString} {i j : ℕ} (hi : v.Latest id i) (hj : v.Latest id j) : i = j := by
  obtain ⟨⟨x, hx, hxid⟩, hlasti⟩ := hi
  obtain ⟨⟨y, hy, hyid⟩, hlastj⟩ := hj
  rcases Nat.lt_trichotomy i j with h | h | h
  · exact absurd hyid (hlasti j y h hy)
  · exact h
  · exact absurd hxid (hlastj i x h hx)

/-- **One action**: the manager keeps to the latest sessions exactly when the action is not a stray shutdown. -/
theorem Faithful.step_iff (h : v.Faithful) (hs : v.Sound) (a : Action) : (v.step a).Faithful ↔ ¬ v.Stray a := by
  cases a with
  | createSession inbound sessionId kind =>
    refine ⟨fun _ ⟨_, _, _, _, heq, _⟩ => ?_, fun _ => h.createSession hs inbound sessionId kind⟩
    cases heq
  | event i input =>
    cases hst : v.states[i]? with
    | none =>
      rw [step_nobody hst]
      refine ⟨fun _ ⟨_, _, _, _, heq, _, ⟨st, hst', _⟩, _⟩ => ?_, fun _ => h⟩
      cases heq
      rw [hst] at hst'
      cases hst'
    | some st =>
      obtain ⟨x, hx⟩ := hs.session hst
      constructor
      · intro hafter ⟨i', input', x', j, heq, hx', hshut, hget, hj⟩
        cases heq
        obtain rfl := Option.some.inj (hx.symm.trans hx')
        -- the other session is still the latest one and not shut down
        obtain ⟨hlatest, hlive⟩ := (h x.sessionId j).1 hget
        have hnone := (getSession_event hst hx x.sessionId).1 ⟨hshut, rfl⟩
        have hsome := (hafter x.sessionId j).2
          ⟨(latest_event hst hx _ j).2 hlatest, fun hd => hlive (((shutDown_event hst hx j).1 hd).resolve_right
            fun hi => hj hi.1)⟩
        rw [hnone] at hsome
        cases hsome
      · intro hstray id k
        rw [latest_event hst hx, shutDown_event hst hx]
        by_cases hshut : v.ShutsDown i input ∧ id = x.sessionId
        · obtain ⟨hshut, rfl⟩ := hshut
          rw [(getSession_event hst hx _).1 ⟨hshut, rfl⟩]
          refine ⟨nofun, fun ⟨hlatest, hlive⟩ => ?_⟩
          rw [not_or] at hlive
          have hget := (h x.sessionId k).2 ⟨hlatest, hlive.1⟩
          exact absurd ⟨i, input, x, k, rfl, hx, hshut, hget, fun hk => hlive.2 ⟨hk, hshut⟩⟩ hstray
        · rw [(getSession_event hst hx _).2 hshut, h id k]
          refine and_congr_right fun ⟨⟨y, hy, hyid⟩, _⟩ => not_congr ⟨.inl, fun hd => hd.resolve_right ?_⟩
          intro ⟨hk, hdown⟩
          subst hk
          obtain rfl := Option.some.inj (hx.symm.trans hy)
          exact hshut ⟨hdown, hyid.symm⟩

theorem faithful_empty : empty.Faithful := by
  intro id i
  refine ⟨nofun, fun ⟨⟨⟨x, hx, _⟩, _⟩, _⟩ => ?_⟩
  cases hx

theorem decides : Runs.Decides step Faithful Stray fun v => v.Faithful ∧ v.Sound where
  holds _ h := h.1
  keeps _ a h hs := ⟨(h.1.step_iff h.2 a).2 hs, h.2.step a⟩
  breaks _ a h hs hf := (h.1.step_iff h.2 a).1 hf hs

end Fleet

open Fleet in
/-- **What `getSession` returns along a run.** For one manager, any number of sessions with either handler, any ids, and
any order of their creations and events: after each action, `getSession(id)` is the session last created for `id` exactly
as long as that session was not shut down, if and only if no action shuts a session down while the manager holds another
one under its id. -/
theorem getSession_latest_iff (as : List Action) :
    (∀ past, past <+: as → (empty.run past).Faithful) ↔
      ∀ past a, past ++ [a] <+: as → ¬ (empty.run past).Stray a :=
  decides.holds_iff_no_bad ⟨faithful_empty, rfl⟩ as

/-- a WebSocket session ends because a write of its CLOSE frame fails; its id is used again; then the container reports
that the first connection is closed -/
def reusedId : List Action :=
  [.createSession 0 (str "1") (.socket ⟨none, none⟩), .event 0 (.socket ⟨.container .connect, [], []⟩),
    .event 0 (.socket ⟨.outbound .close, [], [true]⟩),
    .createSession 1 (str "1") (.socket ⟨none, none⟩), .event 1 (.socket ⟨.container .connect, [], []⟩),
    .event 0 (.socket ⟨.container .onClose, [], []⟩)]

open Fleet in
/-- **The close of an ended session unregisters its successor.** -/
theorem late_onClose_forgets_successor :
    (empty.run (reusedId.take 5)).registry.getSession (str "1") = some 1 ∧
      (empty.run reusedId).registry.getSession (str "1") = none ∧ ¬ (empty.run reusedId).Faithful := by
  refine ⟨by decide, by decide, fun h => ?_⟩
  have hlatest : (empty.run reusedId).Latest (str "1") 1 := by
    refine ⟨⟨⟨str "1", 1, none⟩, by decide, rfl⟩, fun j y hj hy => ?_⟩
    obtain ⟨hlt, -⟩ := List.getElem?_eq_some_iff.1 hy
    have hlength : (empty.run reusedId).registry.sessions.length = 2 := by decide
    omega
  have hlive : ¬ (empty.run reusedId).ShutDown 1 := by
    intro ⟨st, hst, hmem⟩
    have hlog : ((empty.run reusedId).states[1]?.map fun st => decide (.removed ∈ st.log)) = some false := by decide
    rw [hst] at hlog
    exact of_decide_eq_false (Option.some.inj hlog) hmem
  have hheld := (h (str "1") 1).2 ⟨hlatest, hlive⟩
  revert hheld
  decide

end SocketIOJava.Manager
