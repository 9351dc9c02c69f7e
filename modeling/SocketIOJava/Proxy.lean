/-
`Intercepter`: the proxy that stands for a session's inbound and passes its calls on to target objects.

Every session has an Intercepter of its own, with a current namespace and a map of targets. All of them share the map
`connections`, which has a queue of outbounds for each namespace. A target's method may take its time and call back, into
this session or another one, so an invocation is its beginning (`begin`) and, once the target's method ends, its rest
(`resume`), with any events of any session in between.

`World`: the Intercepters of all sessions, outbounds and clients with one number each, and their events in any order.

- `registry_exact_iff`: along every run, each client is in no queue but the one of its current namespace, there once, and
  nowhere after its `onDisconnect`, exactly when no step is `Stray`.
- `second_namespace_leaves_queue`: a client connects to two namespaces; its outbound stays behind in the first one's queue.

Left out: `dumpClients` and `getClientsSize`, which read the map for the application.
-/
import SocketIOJava.Traversal
import SocketIOJava.Lib.Runs
import Mathlib.Data.List.Count

namespace SocketIOJava.Proxy

open Program SocketIOJava.Text SocketIOJava.Session SocketIOJava.Run SocketIOJava.Traversal

/-! ## Model -/

/-- a `HashMap` of targets, in its iteration order -/
structure Targets (τ : Type) where
  entries : List (JString × τ)
  nodup : (entries.map Prod.fst).Nodup

variable {τ : Type}

def Targets.get (ts : Targets τ) (ns : JString) : Option τ := ts.entries.lookup ns

def Targets.values (ts : Targets τ) : List τ := ts.entries.map Prod.snd

/-- a call of the proxy that is in a method of a target; `rest`: the targets that `onConnect` has still to reach -/
structure Invocation (τ : Type) where
  call : InboundCall
  rest : List τ

/-- what an Intercepter did -/
inductive Mark (τ : Type) where
  /-- it called the method of a target -/
  | invoked (target : τ) (c : InboundCall)
  /-- a call of the proxy is over, with a result or an exception -/
  | over (c : InboundCall)

/-- `running` are the calls that have not ended, innermost first; no method reads `log` -/
structure Intercepter (τ : Type) where
  strNamespace : JString
  targets : Targets τ
  setClient : Bool
  objOutboundTmp : Option ℕ
  running : List (Invocation τ)
  log : List (Mark τ)

def Intercepter.new (targets : Targets τ) : Intercepter τ := ⟨str "/", targets, false, none, [], []⟩

abbrev Connections := JString → Option (List ℕ)

/-- one Intercepter, and the map that all of them share -/
structure View (τ : Type) where
  connections : Connections
  self : Intercepter τ

abbrev P (τ : Type) := Prog (View τ) JavaException

namespace View

def mark (m : Mark τ) (s : View τ) : View τ := { s with self.log := m :: s.self.log }

def setNamespace (a : JString) (s : View τ) : View τ := { s with self.strNamespace := a }

def setSetClient (b : Bool) (s : View τ) : View τ := { s with self.setClient := b }

def hold (outbound : ℕ) (s : View τ) : View τ := { s with self.objOutboundTmp := some outbound }

/-- the queue of the current namespace, once it is there -/
def queue (s : View τ) : List ℕ := (s.connections s.self.strNamespace).getD []

/-- `connections.put(strNamespace, queue)` -/
def put (q : List ℕ) (s : View τ) : View τ :=
  { s with connections := Function.update s.connections s.self.strNamespace (some q) }

def push (r : Invocation τ) (s : View τ) : View τ := { s with self.running := r :: s.self.running }

def pop (s : View τ) : View τ := { s with self.running := s.self.running.tail }

end View

/-- `method.invoke(target, args)`, up to the start of the target's method; the target may be null -/
def enter (target : Option τ) (r : Invocation τ) : P τ Unit :=
  match target with
  | none => stop .nullPointer
  | some t => modify fun s => (s.push r).mark (.invoked t r.call)

/-- the loop of `onConnect`, from a target on -/
def connectTargets (outbound : ℕ) : List τ → P τ Unit
  | [] => modify (·.hold outbound)
  | t :: rest => enter (some t) ⟨.onConnect, rest⟩

/-- the outbound goes into the queue of the namespace, which is made where there is none -/
def register : P τ Unit := do
  let s ← get
  whenever (s.self.setClient = false) do
    modify (·.put s.queue)
    match s.self.objOutboundTmp with
    | none => stop .nullPointer
    | some outbound => modify (·.put (s.queue ++ [outbound]))
    modify (·.setSetClient true)

/-- the outbound leaves the queue of the namespace -/
def unregister : P τ Unit := do
  let s ← get
  whenever (s.self.setClient = true) do
    match s.connections s.self.strNamespace with
    | none => stop .nullPointer
    | some q => modify (·.put (match s.self.objOutboundTmp with | none => q | some outbound => q.erase outbound))
    modify (·.setSetClient false)

/-- `invoke`, up to the start of a target's method or to its own end -/
def begin (outbound : ℕ) (c : InboundCall) : P τ Unit := do
  let s ← get
  match c with
  | .onConnect => connectTargets outbound s.self.targets.values
  | .setNamespace a => do
    modify (·.setNamespace a)
    register
  | _ => enter (s.self.targets.get s.self.strNamespace) ⟨c, []⟩

/-- the rest of `invoke`, after the target's method returned -/
def resume (outbound : ℕ) (r : Invocation τ) : P τ Unit :=
  match r.call with
  | .onConnect => connectTargets outbound r.rest
  | .onDisconnect _ => unregister
  | .setEventnames => register
  | .onMessage _ _ | .setNamespace _ => pure ()

/-- a call that is not in a target's method any more is over -/
def conclude (c : InboundCall) (depth : ℕ) (s : View τ) : View τ :=
  if s.self.running.length = depth then s.mark (.over c) else s

inductive Event where
  /-- the session calls the proxy -/
  | invoke (c : InboundCall)
  /-- the target's method that the Intercepter is in ends -/
  | finish (raised : Bool)
deriving DecidableEq

def step (outbound : ℕ) (s : View τ) : Event → View τ
  | .invoke c => conclude c s.self.running.length (begin outbound c s).2
  | .finish raised =>
    match s.self.running with
    | [] => s
    | r :: below => conclude r.call below.length (if raised then s.pop else (resume outbound r s.pop).2)

/-- the Intercepters of all sessions -/
structure World (τ : Type) where
  connections : Connections
  clients : ℕ → Intercepter τ

namespace World

def view (w : World τ) (i : ℕ) : View τ := ⟨w.connections, w.clients i⟩

def start (targets : ℕ → Targets τ) : World τ := ⟨fun _ => none, fun i => .new (targets i)⟩

/-- an event of a client's session -/
def step (w : World τ) (e : ℕ × Event) : World τ :=
  let s := Proxy.step e.1 (w.view e.1) e.2
  ⟨s.connections, Function.update w.clients e.1 s.self⟩

def run (w : World τ) (es : List (ℕ × Event)) : World τ := es.foldl step w

end World

/-! ## Registrations -/

namespace View

/-- how often a client is in the queue of a namespace -/
def occurrences (s : View τ) (i : ℕ) (ns : JString) : ℕ := ((s.connections ns).getD []).count i

/-- the session's `onDisconnect` has been processed -/
def Disconnected (s : View τ) : Prop := ∃ reason, .over (.onDisconnect reason) ∈ s.self.log

/-- a client is in no queue but that of its current namespace, there once, and nowhere once it is disconnected -/
def Exact (s : View τ) (i : ℕ) : Prop :=
  ∀ ns, 0 < s.occurrences i ns → s.occurrences i ns = 1 ∧ ns = s.self.strNamespace ∧ ¬ s.Disconnected

/-- the next registration would be that of a client whose `onDisconnect` is over -/
def Latecomer (s : View τ) : Prop := s.self.setClient = false ∧ s.self.objOutboundTmp ≠ none ∧ s.Disconnected

/-- The steps that spoil the registry: another namespace for a registered client, an `onDisconnect` of a registered client
that finds no target or ends with an exception of it, and a registration after the disconnect. -/
def Stray (s : View τ) : Event → Prop
  | .invoke (.setNamespace a) => s.self.setClient = true ∧ a ≠ s.self.strNamespace ∨ s.Latecomer
  | .invoke (.onDisconnect _) => s.self.setClient = true ∧ s.self.targets.get s.self.strNamespace = none
  | .invoke _ => False
  | .finish raised => ∃ r below, s.self.running = r :: below ∧
      ((∃ reason, r.call = .onDisconnect reason) ∧ raised = true ∧ s.self.setClient = true ∨
        r.call = .setEventnames ∧ raised = false ∧ s.Latecomer)

/-- `setClient` says whether the client is registered, and the outbound kept for the queues is the client's own -/
structure Sound (s : View τ) (i : ℕ) : Prop where
  exact : s.Exact i
  registered : s.self.setClient = true ↔ 0 < s.occurrences i s.self.strNamespace
  held : s.self.setClient = true → s.self.objOutboundTmp = some i
  own : ∀ o, s.self.objOutboundTmp = some o → o = i

variable {s s' : View τ} {i : ℕ}

@[simp] theorem occurrences_put (s : View τ) (q : List ℕ) (i : ℕ) (ns : JString) :
    (s.put q).occurrences i ns = if ns = s.self.strNamespace then q.count i else s.occurrences i ns := by
  unfold occurrences put
  by_cases h : ns = s.self.strNamespace
  · subst h
    simp
  · simp [h]

theorem count_queue (s : View τ) (i : ℕ) : s.queue.count i = s.occurrences i s.self.strNamespace := rfl

theorem disconnected_mark {m : Mark τ} :
    (s.mark m).Disconnected ↔ (∃ reason, m = .over (.onDisconnect reason)) ∨ s.Disconnected := by
  unfold Disconnected
  simp only [mark, List.mem_cons, exists_or]
  exact or_congr (exists_congr fun _ => eq_comm) Iff.rfl

theorem Sound.occurrences_eq_zero (h : s.Sound i) (hclient : s.self.setClient = false) (ns : JString) :
    s.occurrences i ns = 0 := by
  by_contra hne
  have hns := (h.exact ns (Nat.pos_of_ne_zero hne)).2.1
  have hset := h.registered.2 (hns ▸ Nat.pos_of_ne_zero hne)
  rw [hclient] at hset
  cases hset

/-- where nothing about the registration changes -/
theorem Sound.congr (h : s.Sound i) (hocc : ∀ ns, s'.occurrences i ns = s.occurrences i ns)
    (hns : s'.self.strNamespace = s.self.strNamespace) (hclient : s'.self.setClient = s.self.setClient)
    (hheld : s'.self.objOutboundTmp = s.self.objOutboundTmp) (hlog : s'.Disconnected → s.Disconnected) : s'.Sound i where
  exact ns hpos := by
    rw [hocc] at hpos ⊢
    rw [hns]
    obtain ⟨hone, hcurrent, hlive⟩ := h.exact ns hpos
    exact ⟨hone, hcurrent, fun hd => hlive (hlog hd)⟩
  registered := by rw [hclient, hns, hocc]; exact h.registered
  held := by rw [hclient, hheld]; exact h.held
  own := by rw [hheld]; exact h.own

/-- the disconnect of a client that is not registered -/
theorem Sound.mark (h : s.Sound i) {m : Mark τ}
    (hm : (∀ reason, m ≠ .over (.onDisconnect reason)) ∨ s.self.setClient = false) : (s.mark m).Sound i := by
  rcases hm with hm | hclient
  · refine h.congr (fun _ => rfl) rfl rfl rfl fun hd => ?_
    exact (disconnected_mark.1 hd).resolve_left fun ⟨reason, hr⟩ => hm reason hr
  · refine ⟨fun ns hpos => ?_, h.registered, h.held, h.own⟩
    exact absurd (h.occurrences_eq_zero hclient ns) (Nat.pos_iff_ne_zero.1 hpos)

theorem Sound.push (h : s.Sound i) (r : Invocation τ) : (s.push r).Sound i := h.congr (fun _ => rfl) rfl rfl rfl id

theorem Sound.pop (h : s.Sound i) : s.pop.Sound i := h.congr (fun _ => rfl) rfl rfl rfl id

theorem Sound.hold (h : s.Sound i) : (s.hold i).Sound i :=
  ⟨h.exact, h.registered, fun _ => rfl, fun _ ho => (Option.some.inj ho).symm⟩

theorem Sound.setNamespace (h : s.Sound i) {a : JString} (ha : s.self.setClient = true → a = s.self.strNamespace) :
    (s.setNamespace a).Sound i := by
  cases hclient : s.self.setClient with
  | true =>
    obtain rfl := ha hclient
    exact h
  | false =>
    have hnone : ∀ ns, (s.setNamespace a).occurrences i ns = 0 := h.occurrences_eq_zero hclient
    refine ⟨fun ns hpos => absurd (hnone ns) (Nat.pos_iff_ne_zero.1 hpos), ?_, h.held, h.own⟩
    rw [hnone]
    exact ⟨fun hset => absurd (hclient.symm.trans hset) nofun, fun hpos => absurd hpos (Nat.lt_irrefl 0)⟩

end View

open View

variable {s : View τ} {i : ℕ}

/-! ## What the methods do -/

theorem register_client (h : s.self.setClient = true) : (register s).2 = s := by
  simp [register, whenever, h]

/-- `offer(null)` raises, after the queue is made -/
theorem register_null (h : s.self.setClient = false) (ho : s.self.objOutboundTmp = none) :
    (register s).2 = s.put s.queue := by
  have hput : (s.put s.queue).self.objOutboundTmp = none := ho
  simp only [register, get_bind, whenever, h, if_true, modify_bind, ho]
  rfl

theorem put_put (q q' : List ℕ) (s : View τ) : (s.put q).put q' = s.put q' := by
  unfold put
  rw [Function.update_idem]

theorem register_new {outbound : ℕ} (h : s.self.setClient = false) (ho : s.self.objOutboundTmp = some outbound) :
    (register s).2 = (s.put (s.queue ++ [outbound])).setSetClient true := by
  simp only [register, get_bind, whenever, h, if_true, modify_bind, ho, modify_apply, put_put]

theorem unregister_none (h : s.self.setClient = false) : (unregister s).2 = s := by
  simp [unregister, whenever, h]

theorem unregister_client {outbound : ℕ} {q : List ℕ} (h : s.self.setClient = true)
    (hq : s.connections s.self.strNamespace = some q) (ho : s.self.objOutboundTmp = some outbound) :
    (unregister s).2 = (s.put (q.erase outbound)).setSetClient false := by
  simp only [unregister, get_bind, whenever, h, if_true, modify_bind, hq, ho, modify_apply]

/-- registering changes nothing of the Intercepter but the flag -/
theorem register_self (s : View τ) : ∃ b, (register s).2.self = { s.self with setClient := b } := by
  cases hclient : s.self.setClient with
  | true => exact ⟨true, by rw [register_client hclient, ← hclient]⟩
  | false =>
    cases ho : s.self.objOutboundTmp with
    | none => exact ⟨false, by rw [register_null hclient ho, ← hclient]; rfl⟩
    | some o => exact ⟨true, by rw [register_new hclient ho]; rfl⟩

theorem unregister_self (s : View τ) : ∃ b, (unregister s).2.self = { s.self with setClient := b } := by
  cases hclient : s.self.setClient with
  | false => exact ⟨false, by rw [unregister_none hclient, ← hclient]⟩
  | true =>
    cases hq : s.connections s.self.strNamespace with
    | none =>
      refine ⟨true, ?_⟩
      simp only [unregister, get_bind, whenever, hclient, if_true, hq]
      rw [← hclient]
      rfl
    | some q => exact ⟨false, by simp only [unregister, get_bind, whenever, hclient, if_true, modify_bind, hq]; rfl⟩

/-- **Registering keeps the registry exact unless the client is disconnected.** -/
theorem View.Sound.register_iff (h : s.Sound i) :
    (s.Latecomer → ¬ (register s).2.Exact i) ∧ (¬ s.Latecomer → (register s).2.Sound i) := by
  cases hclient : s.self.setClient with
  | true =>
    rw [register_client hclient]
    exact ⟨fun hl => absurd (hclient.symm.trans hl.1) nofun, fun _ => h⟩
  | false =>
    cases ho : s.self.objOutboundTmp with
    | none =>
      rw [register_null hclient ho]
      refine ⟨fun hl => absurd ho hl.2.1, fun _ => h.congr (fun ns => ?_) rfl rfl rfl id⟩
      rw [occurrences_put]
      split_ifs with hns
      · rw [hns, count_queue]
      · rfl
    | some o =>
      obtain rfl := h.own o ho
      have hnone := h.occurrences_eq_zero hclient
      rw [register_new hclient ho]
      have hocc : ∀ ns, ((s.put (s.queue ++ [o])).setSetClient true).occurrences o ns =
          if ns = s.self.strNamespace then 1 else 0 := by
        intro ns
        change (s.put (s.queue ++ [o])).occurrences o ns = _
        rw [occurrences_put, hnone, List.count_append, count_queue, hnone, List.count_singleton_self, Nat.zero_add]
      constructor
      · intro hl hexact
        refine (hexact s.self.strNamespace ?_).2.2 hl.2.2
        rw [hocc, if_pos rfl]
        exact Nat.zero_lt_one
      · intro hl
        refine ⟨fun ns hpos => ?_, ?_, fun _ => ho, h.own⟩
        · rw [hocc] at hpos ⊢
          by_cases hns : ns = s.self.strNamespace
          · rw [if_pos hns]
            exact ⟨rfl, hns, fun hd => hl ⟨hclient, by rw [ho]; exact nofun, hd⟩⟩
          · rw [if_neg hns] at hpos
            exact absurd hpos (Nat.lt_irrefl 0)
        · rw [hocc]
          exact iff_of_true rfl (Nat.lt_of_lt_of_eq Nat.zero_lt_one (if_pos rfl).symm)

/-- a registered client that leaves its queue is in no queue -/
theorem View.Sound.unregistered (h : s.Sound i) : (unregister s).2.Sound i ∧ (unregister s).2.self.setClient = false := by
  cases hclient : s.self.setClient with
  | false =>
    rw [unregister_none hclient]
    exact ⟨h, hclient⟩
  | true =>
    have hpos := h.registered.1 hclient
    obtain ⟨q, hq⟩ : ∃ q, s.connections s.self.strNamespace = some q := by
      cases hq : s.connections s.self.strNamespace with
      | none => simp [occurrences, hq] at hpos
      | some q => exact ⟨q, rfl⟩
    have hcount : q.count i = 1 := by
      have hone := (h.exact _ hpos).1
      simpa [occurrences, hq] using hone
    rw [unregister_client hclient hq (h.held hclient)]
    refine ⟨?_, rfl⟩
    have hocc : ∀ ns, ((s.put (q.erase i)).setSetClient false).occurrences i ns = 0 := by
      intro ns
      change (s.put (q.erase i)).occurrences i ns = 0
      rw [occurrences_put]
      split_ifs with hns
      · rw [List.count_erase_self, hcount]
      · by_contra hne
        exact hns (h.exact ns (Nat.pos_of_ne_zero hne)).2.1
    refine ⟨fun ns hpos => ?_, ?_, nofun, h.own⟩
    · exact absurd (hocc ns) (Nat.pos_iff_ne_zero.1 hpos)
    · rw [hocc]
      exact iff_of_false nofun (Nat.lt_irrefl 0)

theorem View.Sound.entered (h : s.Sound i) (t : Option τ) (r : Invocation τ) : (enter t r s).2.Sound i := by
  cases t with
  | none => exact h
  | some t => exact (h.push r).mark (.inl fun _ => nofun)

theorem View.Sound.announced (h : s.Sound i) (targets : List τ) : (connectTargets i targets s).2.Sound i := by
  cases targets with
  | nil => exact h.hold
  | cons t rest => exact h.entered _ _

/-! ## Steps -/

section Conclude

variable {c : InboundCall} (hc : Ordinary c) (depth : ℕ)
include hc

theorem exact_conclude : (conclude c depth s).Exact i ↔ s.Exact i := by
  have hover : ∀ reason, (.over c : Mark τ) ≠ .over (.onDisconnect reason) := fun reason heq => hc reason (Mark.over.inj heq)
  have hd : (s.mark (.over c)).Disconnected ↔ s.Disconnected :=
    disconnected_mark.trans (or_iff_right fun ⟨reason, heq⟩ => hover reason heq)
  unfold conclude
  split_ifs
  · unfold View.Exact
    rw [hd]
    rfl
  · rfl

theorem View.Sound.concluded (h : s.Sound i) : (conclude c depth s).Sound i := by
  unfold conclude
  split_ifs
  · exact h.mark (.inl fun reason heq => hc reason (Mark.over.inj heq))
  · exact h

end Conclude

theorem conclude_over (c : InboundCall) {depth : ℕ} (hdepth : s.self.running.length = depth) :
    conclude c depth s = s.mark (.over c) := if_pos hdepth

/-- a call that entered no target is over -/
theorem conclude_outside {s' : View τ} (h : s'.self.running = s.self.running) (c : InboundCall) :
    conclude c s.self.running.length s' = s'.mark (.over c) := conclude_over c (congrArg List.length h)

theorem conclude_inside {s' : View τ} {r : Invocation τ} (h : s'.self.running = r :: s.self.running) (c : InboundCall) :
    conclude c s.self.running.length s' = s' := if_neg (by rw [h]; exact Nat.succ_ne_self _)

theorem step_invoke (outbound : ℕ) (s : View τ) (c : InboundCall) :
    step outbound s (.invoke c) = conclude c s.self.running.length (begin outbound c s).2 := rfl

/-- a disconnect that is over while the client stays registered -/
theorem View.Sound.not_exact_over (h : s.Sound i) (hclient : s.self.setClient = true) (reason : DisconnectReason) :
    ¬ (s.mark (.over (.onDisconnect reason))).Exact i := by
  intro hexact
  exact (hexact _ (h.registered.1 hclient)).2.2 (disconnected_mark.2 (.inl ⟨reason, rfl⟩))

/-- **A call of the proxy** keeps the registry exact unless it is stray. -/
theorem View.Sound.invoke_iff (h : s.Sound i) (c : InboundCall) :
    (s.Stray (.invoke c) → ¬ (step i s (.invoke c)).Exact i) ∧
      (¬ s.Stray (.invoke c) → (step i s (.invoke c)).Sound i) := by
  cases c with
  | onConnect => exact ⟨False.elim, fun _ => (h.announced _).concluded ordinary_onConnect _⟩
  | onMessage key message =>
    refine ⟨False.elim, fun _ => ?_⟩
    exact (h.entered _ ⟨.onMessage key message, []⟩).concluded (ordinary_onMessage key message) _
  | setEventnames => exact ⟨False.elim, fun _ => (h.entered _ ⟨.setEventnames, []⟩).concluded ordinary_setEventnames _⟩
  | onDisconnect reason =>
    cases ht : s.self.targets.get s.self.strNamespace with
    | none =>
      -- the target is null, and the call is over with an exception
      have hstep : step i s (.invoke (.onDisconnect reason)) = s.mark (.over (.onDisconnect reason)) := by
        simp only [step_invoke, begin, get_bind, ht]
        exact conclude_outside rfl _
      rw [hstep]
      refine ⟨fun hs => h.not_exact_over hs.1 reason, fun hs => h.mark (.inr ?_)⟩
      exact Bool.eq_false_iff.2 fun hclient => hs ⟨hclient, ht⟩
    | some t =>
      have hstep : step i s (.invoke (.onDisconnect reason)) =
          (s.push ⟨.onDisconnect reason, []⟩).mark (.invoked t (.onDisconnect reason)) := by
        simp only [step_invoke, begin, get_bind, ht]
        exact conclude_inside rfl _
      rw [hstep]
      refine ⟨fun hs => absurd (ht.symm.trans hs.2) nofun, fun _ => (h.push _).mark (.inl fun _ => nofun)⟩
  | setNamespace a =>
    have hstep : step i s (.invoke (.setNamespace a)) =
        conclude (.setNamespace a) s.self.running.length (register (s.setNamespace a)).2 := rfl
    rw [hstep, exact_conclude (ordinary_setNamespace a)]
    by_cases hmove : s.self.setClient = true ∧ a ≠ s.self.strNamespace
    · -- the outbound stays in the queue of the old namespace
      rw [register_client (s := s.setNamespace a) hmove.1]
      refine ⟨fun _ hexact => ?_, fun hs => absurd (.inl hmove) hs⟩
      exact hmove.2 (hexact s.self.strNamespace (h.registered.1 hmove.1)).2.1.symm
    · have hmoved : (s.setNamespace a).Sound i := by
        refine h.setNamespace fun hclient => ?_
        by_contra ha
        exact hmove ⟨hclient, ha⟩
      refine ⟨fun hs => hmoved.register_iff.1 (hs.resolve_left hmove), fun hs => ?_⟩
      exact (hmoved.register_iff.2 fun hl => hs (.inr hl)).concluded (ordinary_setNamespace a) _

theorem step_finish {r : Invocation τ} {below : List (Invocation τ)} (h : s.self.running = r :: below) (raised : Bool) :
    step i s (.finish raised) = conclude r.call below.length (if raised then s.pop else (resume i r s.pop).2) := by
  simp only [step, h]

/-- the end of the method that is running -/
theorem View.stray_finish_iff {r : Invocation τ} {below : List (Invocation τ)} (h : s.self.running = r :: below)
    (raised : Bool) : s.Stray (.finish raised) ↔
      (∃ reason, r.call = .onDisconnect reason) ∧ raised = true ∧ s.self.setClient = true ∨
        r.call = .setEventnames ∧ raised = false ∧ s.Latecomer := by
  constructor
  · intro ⟨r', below', hr, hcase⟩
    cases h.symm.trans hr
    exact hcase
  · exact fun hcase => ⟨r, below, h, hcase⟩

/-- **The end of a target's method** keeps the registry exact unless it is stray. -/
theorem View.Sound.finish_iff (h : s.Sound i) (raised : Bool) :
    (s.Stray (.finish raised) → ¬ (step i s (.finish raised)).Exact i) ∧
      (¬ s.Stray (.finish raised) → (step i s (.finish raised)).Sound i) := by
  cases hrunning : s.self.running with
  | nil =>
    have hstep : step i s (.finish raised) = s := by simp only [step, hrunning]
    rw [hstep]
    refine ⟨fun ⟨r, below, hr, _⟩ => ?_, fun _ => h⟩
    cases hrunning.symm.trans hr
  | cons r below =>
    have hdepth : s.pop.self.running.length = below.length := congrArg (fun l => l.tail.length) hrunning
    rw [step_finish hrunning, View.stray_finish_iff hrunning]
    obtain ⟨call, rest⟩ := r
    cases call with
    | onConnect =>
      refine ⟨fun hs => ?_, fun _ => View.Sound.concluded ordinary_onConnect _ ?_⟩
      · rcases hs with ⟨⟨_, hr⟩, _⟩ | ⟨hr, _⟩ <;> cases hr
      · split_ifs
        · exact h.pop
        · exact h.pop.announced rest
    | onMessage key message =>
      refine ⟨fun hs => ?_, fun _ => View.Sound.concluded (ordinary_onMessage key message) _ ?_⟩
      · rcases hs with ⟨⟨_, hr⟩, _⟩ | ⟨hr, _⟩ <;> cases hr
      · split_ifs <;> exact h.pop
    | setNamespace a =>
      refine ⟨fun hs => ?_, fun _ => View.Sound.concluded (ordinary_setNamespace a) _ ?_⟩
      · rcases hs with ⟨⟨_, hr⟩, _⟩ | ⟨hr, _⟩ <;> cases hr
      · split_ifs <;> exact h.pop
    | setEventnames =>
      rw [exact_conclude ordinary_setEventnames]
      cases raised with
      | true =>
        refine ⟨fun hs => ?_, fun _ => h.pop.concluded ordinary_setEventnames _⟩
        rcases hs with ⟨⟨_, hr⟩, _⟩ | ⟨-, hr, _⟩ <;> cases hr
      | false =>
        refine ⟨fun hs => h.pop.register_iff.1 ?_,
          fun hs => (h.pop.register_iff.2 fun hl => hs ?_).concluded ordinary_setEventnames _⟩
        · rcases hs with ⟨-, hr, _⟩ | ⟨-, -, hl⟩
          · cases hr
          · exact hl
        · exact .inr ⟨rfl, rfl, hl⟩
    | onDisconnect reason =>
      cases raised with
      | true =>
        rw [if_pos rfl, conclude_over _ hdepth]
        refine ⟨fun hs => h.pop.not_exact_over ?_ reason, fun hs => h.pop.mark (.inr ?_)⟩
        · rcases hs with ⟨-, -, hclient⟩ | ⟨hr, _⟩
          · exact hclient
          · cases hr
        · exact Bool.eq_false_iff.2 fun hclient => hs (.inl ⟨⟨reason, rfl⟩, rfl, hclient⟩)
      | false =>
        have hleft : (unregister s.pop).2.self.running.length = below.length := by
          obtain ⟨b, hself⟩ := unregister_self s.pop
          rw [hself]
          exact hdepth
        refine ⟨fun hs => ?_, fun _ => ?_⟩
        · rcases hs with ⟨-, hr, _⟩ | ⟨hr, _⟩ <;> cases hr
        · change (conclude _ _ (unregister s.pop).2).Sound i
          rw [conclude_over _ hleft]
          exact h.pop.unregistered.1.mark (.inr h.pop.unregistered.2)

theorem View.Sound.step_iff (h : s.Sound i) (e : Event) :
    (s.Stray e → ¬ (step i s e).Exact i) ∧ (¬ s.Stray e → (step i s e).Sound i) := by
  cases e with
  | invoke c => exact h.invoke_iff c
  | finish raised => exact h.finish_iff raised

/-! ## All sessions -/

/-- the queues hold the other clients as before -/
def Others (i : ℕ) (s s' : View τ) : Prop := ∀ j, j ≠ i → ∀ ns, s'.occurrences j ns = s.occurrences j ns

theorem others_of_connections {s' : View τ} (h : s'.connections = s.connections) : Others i s s' := by
  intro j _ ns
  unfold occurrences
  rw [h]

theorem others_put {q : List ℕ} (hq : ∀ j, j ≠ i → q.count j = s.queue.count j) : Others i s (s.put q) := by
  intro j hj ns
  rw [occurrences_put]
  split_ifs with hns
  · rw [hq j hj, hns, count_queue]
  · rfl

theorem others_register (own : ∀ o, s.self.objOutboundTmp = some o → o = i) : Others i s (register s).2 := by
  cases hclient : s.self.setClient with
  | true => rw [register_client hclient]; exact fun _ _ _ => rfl
  | false =>
    cases ho : s.self.objOutboundTmp with
    | none => rw [register_null hclient ho]; exact others_put fun _ _ => rfl
    | some o =>
      obtain rfl := own o ho
      rw [register_new hclient ho]
      refine others_put (s := s) fun j hj => ?_
      rw [List.count_append, List.count_singleton, if_neg (by simpa using hj.symm), Nat.add_zero]

theorem others_unregister (h : s.Sound i) : Others i s (unregister s).2 := by
  cases hclient : s.self.setClient with
  | false => rw [unregister_none hclient]; exact fun _ _ _ => rfl
  | true =>
    cases hq : s.connections s.self.strNamespace with
    | none =>
      refine others_of_connections ?_
      simp [unregister, whenever, hclient, hq]
      rfl
    | some q =>
      rw [unregister_client hclient hq (h.held hclient)]
      refine others_put (s := s) fun j hj => ?_
      rw [List.count_erase_of_ne hj]
      unfold queue
      rw [hq]
      rfl

theorem connections_enter (t : Option τ) (r : Invocation τ) : (enter t r s).2.connections = s.connections := by
  cases t <;> rfl

theorem connections_connectTargets (outbound : ℕ) (targets : List τ) :
    (connectTargets outbound targets s).2.connections = s.connections := by
  cases targets <;> rfl

theorem others_conclude {s' : View τ} (h : Others i s s') (c : InboundCall) (depth : ℕ) :
    Others i s (conclude c depth s') := by
  unfold conclude
  split_ifs <;> exact h

/-- **A step leaves the other clients where they are.** -/
theorem others_step (h : s.Sound i) (e : Event) : Others i s (step i s e) := by
  cases e with
  | invoke c =>
    refine others_conclude ?_ c _
    cases c with
    | onConnect => exact others_of_connections (connections_connectTargets i _)
    | setNamespace a => exact others_register (s := s.setNamespace a) h.own
    | onDisconnect reason => exact others_of_connections (connections_enter _ _)
    | onMessage key message => exact others_of_connections (connections_enter _ _)
    | setEventnames => exact others_of_connections (connections_enter _ _)
  | finish raised =>
    unfold step
    cases s.self.running with
    | nil => exact fun _ _ _ => rfl
    | cons r below =>
      refine others_conclude ?_ _ _
      split_ifs
      · exact fun _ _ _ => rfl
      · obtain ⟨call, rest⟩ := r
        cases call with
        | onConnect => exact others_of_connections (connections_connectTargets (s := s.pop) i rest)
        | onDisconnect reason => exact others_unregister h.pop
        | setEventnames => exact others_register h.pop.own
        | onMessage key message => exact fun _ _ _ => rfl
        | setNamespace a => exact fun _ _ _ => rfl

namespace World

/-- every client is in no queue but that of its current namespace, there once, and nowhere once it is disconnected -/
def Exact (w : World τ) : Prop := ∀ i, (w.view i).Exact i

def Sound (w : World τ) : Prop := ∀ i, (w.view i).Sound i

/-- the step spoils the registration of its client -/
def Stray (w : World τ) (e : ℕ × Event) : Prop := (w.view e.1).Stray e.2

variable {w : World τ}

theorem view_step_self (w : World τ) (i : ℕ) (e : Event) : (w.step (i, e)).view i = Proxy.step i (w.view i) e := by
  simp [view, step]

theorem self_step_of_ne (w : World τ) {i j : ℕ} (hj : j ≠ i) (e : Event) :
    ((w.step (i, e)).view j).self = (w.view j).self := by
  simp [view, step, hj]

theorem sound_start (targets : ℕ → Targets τ) : (start targets).Sound := by
  intro i
  refine ⟨fun ns hpos => absurd hpos (Nat.lt_irrefl 0), ?_, nofun, nofun⟩
  exact iff_of_false nofun (Nat.lt_irrefl 0)

/-- **One event of one session**: the registry stays exact if and only if the event is not stray. -/
theorem decides : Runs.Decides (step (τ := τ)) Exact Stray Sound where
  holds _ h i := (h i).exact
  keeps w e h hs j := by
    obtain ⟨i, e⟩ := e
    by_cases hj : j = i
    · subst hj
      rw [view_step_self]
      exact ((h j).step_iff e).2 hs
    · have hself := self_step_of_ne w hj e
      refine (h j).congr (others_step (h i) e j hj) ?_ ?_ ?_ ?_
      · rw [hself]
      · rw [hself]
      · rw [hself]
      · unfold Disconnected
        rw [hself]
        exact id
  breaks w e h hs hexact := by
    obtain ⟨i, e⟩ := e
    have hi := hexact i
    rw [view_step_self] at hi
    exact ((h i).step_iff e).1 hs hi

end World

open World in
/-- **The registry of clients along a run.** For any number of sessions, each with an Intercepter with any targets, and any
order of the events of all their Intercepters: in every state each outbound is in no queue but the one of its Intercepter's
current namespace, at most once there, and in none after its session's `onDisconnect`, if and only if no step is stray. -/
theorem registry_exact_iff (targets : ℕ → Targets τ) (es : List (ℕ × Event)) :
    (∀ past, past <+: es → ((start targets).run past).Exact) ↔
      ∀ past e, past ++ [e] <+: es → ¬ ((start targets).run past).Stray e :=
  decides.holds_iff_no_bad (sound_start targets) es

/-! ## Two namespaces -/

/-- the calls that a session made on its inbound, latest first -/
def issued (log : List Entry) : List InboundCall := log.filterMap fun e => match e with | .called c => some c | _ => none

/-- targets for two namespaces -/
def chats : Targets ℕ := ⟨[(str "/a", 0), (str "/b", 1)], by decide⟩

/-- a client connects to both namespaces -/
def bothNamespaces : List (Input SocketEvent) :=
  [⟨.container .connect, [], []⟩, ⟨.container (.text (str "1::/a")), [], []⟩, ⟨.container (.text (str "1::/b")), [], []⟩]

/-- its Intercepter calls both targets for `onConnect`, and takes over one namespace and then the other -/
def bothNamespacesEvents : List (ℕ × Event) :=
  [(0, .invoke .onConnect), (0, .finish false), (0, .finish false), (0, .invoke (.setNamespace (str "/a"))),
    (0, .invoke (.setNamespace (str "/b")))]

/-- **The second namespace leaves the outbound in the queue of the first.** -/
theorem second_namespace_leaves_queue :
    issued (Run.run serveSocket (JettyWebSocket.created ⟨none, none⟩) bothNamespaces).log =
        [.setNamespace (str "/b"), .setNamespace (str "/a"), .onConnect] ∧
      ((World.start fun _ => chats).run bothNamespacesEvents).connections (str "/a") = some [0] ∧
      (((World.start fun _ => chats).run bothNamespacesEvents).clients 0).strNamespace = str "/b" ∧
      ¬ ((World.start fun _ => chats).run bothNamespacesEvents).Exact := by
  refine ⟨by decide, by decide, by decide, fun h => ?_⟩
  have hcurrent := (h 0 (str "/a") (by decide)).2.1
  revert hcurrent
  decide

end SocketIOJava.Proxy
