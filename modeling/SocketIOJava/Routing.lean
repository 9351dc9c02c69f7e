/-
Sessions whose inbound is an `Intercepter`: which target gets which call.

The Intercepter passes a call on to the target of its current namespace, the one of the last `setNamespace`; only
`onConnect` goes to all targets. An Intercepter's history is the list of its events, latest first, with the shared map as
the other sessions left it at each of them (`after`); it belongs to a run of a session when its calls are those that the
session made (`issued`).

- `routed_iff`: in every run of a session with either handler, every data frame of a namespace that the client is connected
  to is dispatched, with its own key and text, to that namespace's target and to no other, exactly when each of these frames
  is for the target of the current namespace and, as an EVENT, has a text that the session takes for one, with a key that
  the inbound names when it is asked. The namespaces that a client is connected to are those that it wrote in its CONNECT
  packets (`endpointSent`).
- `paired_iff`: each target whose `onConnect` was called has exactly one call of its `onDisconnect`, exactly when each of
  them is the target of the current namespace and the session made one call of `onDisconnect`.
-/
import SocketIOJava.Proxy
import SocketIOJava.Disconnect

namespace SocketIOJava.Routing

open Program SocketIOJava.Text SocketIOJava.Frame SocketIOJava.Session SocketIOJava.Run SocketIOJava.Traversal
open SocketIOJava.Proxy
open SocketIOJava.Disconnect (disconnects)
open SocketIOJava.JettyTraversal (Adds Outward adds_cons adds_of_log)

/-! ## Histories of an Intercepter -/

variable {τ : Type}

/-- an Intercepter after some events, latest first -/
def after (outbound : ℕ) (targets : Targets τ) : List (Connections × Event) → Intercepter τ
  | [] => .new targets
  | (connections, e) :: es => (Proxy.step outbound ⟨connections, after outbound targets es⟩ e).self

/-- the calls of the proxy among them -/
def calls (es : List (Connections × Event)) : List InboundCall :=
  es.filterMap fun e => match e.2 with | .invoke c => some c | .finish _ => none

/-- the namespace that the last `setNamespace` left, calls latest first -/
def current : List InboundCall → JString
  | [] => str "/"
  | .setNamespace a :: _ => a
  | _ :: cs => current cs

def isDisconnect : InboundCall → Bool
  | .onDisconnect _ => true
  | _ => false

/-- no namespace is set after a disconnect -/
def Final (cs : List InboundCall) : Prop := ∀ a past, .setNamespace a :: past <:+ cs → past.countP isDisconnect = 0

def isDisconnectOf [DecidableEq τ] (t : τ) : Mark τ → Bool
  | .invoked target (.onDisconnect _) => target = t
  | _ => false

/-- how often `onDisconnect` of a target was called -/
def notified [DecidableEq τ] (t : τ) (x : Intercepter τ) : ℕ := x.log.countP (isDisconnectOf t)

/-- every target whose `onConnect` was called had its `onDisconnect` called exactly once -/
def Paired [DecidableEq τ] (x : Intercepter τ) : Prop := ∀ t, .invoked t .onConnect ∈ x.log → notified t x = 1

/-- a call that the Intercepter passes on to the target of its namespace -/
def Forwarded (c : InboundCall) : Prop :=
  isDisconnect c = true ∨ c = .setEventnames ∨ ∃ key message, c = .onMessage key message

section Histories

variable {outbound : ℕ} {targets : Targets τ} {s : View τ} {c : InboundCall}

/-- a mark that the rest of a call can leave -/
def Trailing (m : Mark τ) : Prop := (∃ t, m = .invoked t .onConnect) ∨ ∃ c, m = .over c

theorem conclude_self (c : InboundCall) (depth : ℕ) (s : View τ) :
    (conclude c depth s).self = s.self ∨ (conclude c depth s).self = { s.self with log := .over c :: s.self.log } := by
  unfold conclude
  split_ifs
  · exact .inr rfl
  · exact .inl rfl

/-- **The end of a target's method**: the Intercepter keeps its namespace, and only `onConnect` calls more targets. -/
theorem finish_self (outbound : ℕ) (s : View τ) (raised : Bool) :
    let x := (Proxy.step outbound s (.finish raised)).self
    x.strNamespace = s.self.strNamespace ∧ x.targets = s.self.targets ∧
      ∃ added, x.log = added ++ s.self.log ∧ ∀ m ∈ added, Trailing m := by
  -- what the rest of the call does, up to the mark of its end
  have hrest : ∀ r below, s.self.running = r :: below → ∃ added running setClient held,
      (if raised then s.pop else (resume outbound r s.pop).2).self =
        { s.self with running := running, setClient := setClient, objOutboundTmp := held, log := added ++ s.self.log } ∧
          ∀ m ∈ added, Trailing m := by
    intro r below hr
    by_cases hraised : raised = true
    · exact ⟨[], _, _, _, by rw [if_pos hraised]; rfl, fun _ h => absurd h List.not_mem_nil⟩
    rw [if_neg hraised]
    obtain ⟨call, rest⟩ := r
    cases call with
    | onConnect =>
      cases rest with
      | nil => exact ⟨[], _, _, _, rfl, fun _ h => absurd h List.not_mem_nil⟩
      | cons t rest =>
        exact ⟨[.invoked t .onConnect], _, _, _, rfl, fun m hm => .inl ⟨t, List.mem_singleton.1 hm⟩⟩
    | onDisconnect reason =>
      obtain ⟨b, hself⟩ := unregister_self s.pop
      exact ⟨[], _, b, _, hself, fun _ h => absurd h List.not_mem_nil⟩
    | setEventnames =>
      obtain ⟨b, hself⟩ := register_self s.pop
      exact ⟨[], _, b, _, hself, fun _ h => absurd h List.not_mem_nil⟩
    | onMessage key message => exact ⟨[], _, _, _, rfl, fun _ h => absurd h List.not_mem_nil⟩
    | setNamespace a => exact ⟨[], _, _, _, rfl, fun _ h => absurd h List.not_mem_nil⟩
  unfold Proxy.step
  cases hrunning : s.self.running with
  | nil => exact ⟨rfl, rfl, [], rfl, fun _ h => absurd h List.not_mem_nil⟩
  | cons r below =>
    obtain ⟨added, running, setClient, held, hself, hadded⟩ := hrest r below hrunning
    dsimp only
    rcases conclude_self r.call below.length (if raised then s.pop else (resume outbound r s.pop).2) with h | h
    · rw [h, hself]
      exact ⟨rfl, rfl, added, rfl, hadded⟩
    · rw [h, hself]
      refine ⟨rfl, rfl, .over r.call :: added, rfl, fun m hm => ?_⟩
      rcases List.mem_cons.1 hm with rfl | hm
      · exact .inr ⟨_, rfl⟩
      · exact hadded m hm

/-- **A forwarded call** goes to the target of the current namespace, if there is one. -/
theorem invoke_forwarded (hc : Forwarded c) (outbound : ℕ) (s : View τ) :
    let x := (Proxy.step outbound s (.invoke c)).self
    x.strNamespace = s.self.strNamespace ∧ x.targets = s.self.targets ∧
      x.log = (match s.self.targets.get s.self.strNamespace with | some t => .invoked t c | none => .over c) :: s.self.log := by
  have hbegin : begin outbound c s = enter (s.self.targets.get s.self.strNamespace) ⟨c, []⟩ s := by
    rcases hc with hc | rfl | ⟨key, message, rfl⟩
    · cases c <;> first | rfl | cases hc
    · rfl
    · rfl
  rw [step_invoke, hbegin]
  cases s.self.targets.get s.self.strNamespace with
  | none =>
    rw [conclude_outside (by rfl)]
    exact ⟨rfl, rfl, rfl⟩
  | some t =>
    rw [conclude_inside (by rfl)]
    exact ⟨rfl, rfl, rfl⟩

theorem invoke_onConnect (outbound : ℕ) (s : View τ) :
    let x := (Proxy.step outbound s (.invoke .onConnect)).self
    x.strNamespace = s.self.strNamespace ∧ x.targets = s.self.targets ∧
      ∃ added, x.log = added ++ s.self.log ∧ ∀ m ∈ added, Trailing m := by
  have hbegin : begin outbound .onConnect s = connectTargets outbound s.self.targets.values s := rfl
  rw [step_invoke, hbegin]
  cases s.self.targets.values with
  | nil =>
    rw [conclude_outside (by rfl)]
    exact ⟨rfl, rfl, [.over .onConnect], rfl, fun m hm => .inr ⟨_, List.mem_singleton.1 hm⟩⟩
  | cons t rest =>
    rw [conclude_inside (by rfl)]
    exact ⟨rfl, rfl, [.invoked t .onConnect], rfl, fun m hm => .inl ⟨t, List.mem_singleton.1 hm⟩⟩

theorem invoke_setNamespace (outbound : ℕ) (s : View τ) (a : JString) :
    let x := (Proxy.step outbound s (.invoke (.setNamespace a))).self
    x.strNamespace = a ∧ x.targets = s.self.targets ∧ x.log = .over (.setNamespace a) :: s.self.log := by
  have hbegin : begin outbound (.setNamespace a) s = register (s.setNamespace a) := rfl
  obtain ⟨b, hself⟩ := register_self (s.setNamespace a)
  rw [step_invoke, hbegin, conclude_outside (by rw [hself]; rfl)]
  unfold View.mark
  rw [hself]
  exact ⟨rfl, rfl, rfl⟩

variable (outbound targets)

theorem after_cons (connections : Connections) (e : Event) (es : List (Connections × Event)) :
    after outbound targets ((connections, e) :: es) = (Proxy.step outbound ⟨connections, after outbound targets es⟩ e).self :=
  rfl

/-- the current namespace is the one of the last `setNamespace`, and the targets stay -/
theorem after_current (es : List (Connections × Event)) :
    (after outbound targets es).strNamespace = current (calls es) ∧ (after outbound targets es).targets = targets := by
  induction es with
  | nil => exact ⟨rfl, rfl⟩
  | cons e es ih =>
    obtain ⟨connections, e⟩ := e
    have hself : (⟨connections, after outbound targets es⟩ : View τ).self = after outbound targets es := rfl
    cases e with
    | finish raised =>
      obtain ⟨hns, htargets, -⟩ := finish_self outbound ⟨connections, after outbound targets es⟩ raised
      exact ⟨hns.trans ih.1, htargets.trans ih.2⟩
    | invoke c =>
      have hforwarded : Forwarded c → current (c :: calls es) = current (calls es) →
          (after outbound targets ((connections, .invoke c) :: es)).strNamespace = current (c :: calls es) ∧
            (after outbound targets ((connections, .invoke c) :: es)).targets = targets := by
        intro hc hcurrent
        obtain ⟨hns, htargets, -⟩ := invoke_forwarded hc outbound ⟨connections, after outbound targets es⟩
        exact ⟨(hns.trans ih.1).trans hcurrent.symm, htargets.trans ih.2⟩
      cases c with
      | onConnect =>
        obtain ⟨hns, htargets, -⟩ := invoke_onConnect outbound ⟨connections, after outbound targets es⟩
        exact ⟨hns.trans ih.1, htargets.trans ih.2⟩
      | setNamespace a =>
        obtain ⟨hns, htargets, -⟩ := invoke_setNamespace outbound ⟨connections, after outbound targets es⟩ a
        exact ⟨hns, htargets.trans ih.2⟩
      | onDisconnect reason => exact hforwarded (.inl rfl) rfl
      | onMessage key message => exact hforwarded (.inr (.inr ⟨key, message, rfl⟩)) rfl
      | setEventnames => exact hforwarded (.inr (.inl rfl)) rfl

/-- a call that is passed on reaches the target of the current namespace -/
theorem forwarded_log (hc : Forwarded c) (connections : Connections) (es : List (Connections × Event)) :
    (after outbound targets ((connections, .invoke c) :: es)).log =
      (match targets.get (current (calls es)) with | some t => .invoked t c | none => .over c) ::
        (after outbound targets es).log := by
  have hlog := (invoke_forwarded hc outbound ⟨connections, after outbound targets es⟩).2.2
  obtain ⟨hns, htargets⟩ := after_current outbound targets es
  dsimp only at hlog
  rw [hns, htargets] at hlog
  exact hlog

section Notified

variable [DecidableEq τ] (t : τ)

theorem notified_trailing {x x' : Intercepter τ} {added : List (Mark τ)} (hlog : x'.log = added ++ x.log)
    (h : ∀ m ∈ added, Trailing m) : notified t x' = notified t x := by
  have hnone : added.countP (isDisconnectOf t) = 0 := by
    rw [List.countP_eq_zero]
    intro m hm
    rcases h m hm with ⟨t', rfl⟩ | ⟨c, rfl⟩ <;> exact nofun
  unfold notified
  rw [hlog, List.countP_append, hnone, Nat.zero_add]

/-- a call that is passed on notifies that target, if it is a disconnect -/
theorem notified_forwarded (hc : Forwarded c) (connections : Connections)
    (es : List (Connections × Event)) :
    notified t (after outbound targets ((connections, .invoke c) :: es)) = notified t (after outbound targets es) +
      if isDisconnect c = true ∧ targets.get (current (calls es)) = some t then 1 else 0 := by
  unfold notified
  rw [forwarded_log outbound targets hc, List.countP_cons]
  cases targets.get (current (calls es)) with
  | none => rw [if_neg nofun, if_neg fun h => nomatch h.2]
  | some t' => cases c <;> simp [isDisconnectOf, isDisconnect]

theorem Final.tail {c : InboundCall} {cs : List InboundCall} (h : Final (c :: cs)) : Final cs :=
  fun a past hp => h a past (hp.trans (List.suffix_cons c cs))

/-- **A target's `onDisconnect` is called as often as the proxy's**, if it is the target of the current namespace, and
otherwise never. -/
theorem notified_after (es : List (Connections × Event)) (h : Final (calls es)) :
    notified t (after outbound targets es) =
      if targets.get (current (calls es)) = some t then (calls es).countP isDisconnect else 0 := by
  induction es with
  | nil => split_ifs <;> rfl
  | cons e es ih =>
    obtain ⟨connections, e⟩ := e
    cases e with
    | finish raised =>
      obtain ⟨-, -, added, hlog, hadded⟩ := finish_self outbound ⟨connections, after outbound targets es⟩ raised
      exact (notified_trailing t hlog hadded).trans (ih h)
    | invoke c =>
      have hpast := ih (Final.tail h)
      cases c with
      | onConnect =>
        obtain ⟨-, -, added, hlog, hadded⟩ := invoke_onConnect outbound ⟨connections, after outbound targets es⟩
        exact (notified_trailing t hlog hadded).trans hpast
      | setNamespace a =>
        obtain ⟨-, -, hlog⟩ := invoke_setNamespace outbound ⟨connections, after outbound targets es⟩ a
        have hnone : (calls es).countP isDisconnect = 0 := h a _ (List.suffix_refl _)
        have hcalls : (calls ((connections, .invoke (.setNamespace a)) :: es)).countP isDisconnect = 0 := hnone
        rw [hnone, ite_self] at hpast
        rw [hcalls, ite_self, ← hpast]
        unfold notified
        rw [after_cons, hlog]
        rfl
      | onMessage key message =>
        rw [notified_forwarded outbound targets t (.inr (.inr ⟨key, message, rfl⟩)), if_neg fun hd => nomatch hd.1]
        exact hpast
      | setEventnames =>
        rw [notified_forwarded outbound targets t (.inr (.inl rfl)), if_neg fun hd => nomatch hd.1]
        exact hpast
      | onDisconnect reason =>
        have hcalls : (calls ((connections, .invoke (.onDisconnect reason)) :: es)).countP isDisconnect =
            (calls es).countP isDisconnect + 1 := List.countP_cons_of_pos rfl
        have hcurrent : current (calls ((connections, .invoke (.onDisconnect reason)) :: es)) = current (calls es) := rfl
        rw [hcalls, hcurrent, notified_forwarded outbound targets t (.inl rfl), hpast]
        by_cases ht : targets.get (current (calls es)) = some t
        · rw [if_pos ht, if_pos ⟨rfl, ht⟩, if_pos ht]
        · rw [if_neg ht, if_neg fun hd => ht hd.2, if_neg ht]

/-- the pairing of connects and disconnects, by what the session called -/
theorem paired_after_iff (es : List (Connections × Event)) (h : Final (calls es)) :
    Paired (after outbound targets es) ↔
      ∀ t, .invoked t .onConnect ∈ (after outbound targets es).log →
        targets.get (current (calls es)) = some t ∧ (calls es).countP isDisconnect = 1 := by
  refine forall_congr' fun t => imp_congr_right fun _ => ?_
  rw [notified_after outbound targets t es h]
  by_cases ht : targets.get (current (calls es)) = some t
  · rw [if_pos ht]
    exact ⟨fun hone => ⟨ht, hone⟩, fun hone => hone.2⟩
  · rw [if_neg ht]
    exact ⟨fun hzero => absurd hzero Nat.zero_ne_one, fun hget => absurd hget.1 ht⟩

end Notified

end Histories

/-! ## The calls of a session -/

/-- the frame that was received last -/
def latest : List Entry → Option SocketIOFrame
  | [] => none
  | .received f :: _ => some f
  | _ :: log => latest log

/-- the event names that the inbound gave last for the frame that was received last, and the history before it did -/
def listing : List Entry → Option (List JString × List Entry)
  | [] => none
  | .received _ :: _ => none
  | .listed names :: log => some (names, log)
  | _ :: log => listing log

/-- asked for its event names, the inbound named the event, and the session was live then -/
def Named (log : List Entry) (key : JString) : Prop :=
  ∃ names past, listing log = some (names, past) ∧ key ∈ names ∧ disconnects past = 0

/-- a live session has still to pass on a message: the frame came last, or the names that an EVENT waits for -/
inductive Due : List Entry → Prop where
  | text {f : SocketIOFrame} {past : List Entry} (hf : IsData f) (htype : f.frameType ≠ .event)
      (hlive : disconnects past = 0) : Due (.received f :: past)
  | event {f : SocketIOFrame} {names : List JString} {key message : JString} {past : List Entry}
      (hlatest : latest past = some f) (htype : f.frameType = .event) (hmessage : messageOf f = some (key, message))
      (hkey : key ∈ names) (hlive : disconnects past = 0) : Due (.listed names :: past)

/-- what may come next: a namespace is set for a CONNECT frame, a message is passed on for its frame and at once -/
def Next (log : List Entry) : Entry → Prop
  | .called (.setNamespace _) => disconnects log = 0 ∧ ∃ f past, log = .received f :: past ∧ f.frameType = .connect
  | .called (.onMessage key message) =>
    ∃ f, latest log = some f ∧ messageOf f = some (key, message) ∧ (f.frameType = .event → Named log key)
  | _ => ¬ Due log

def Orderly : List Entry → Prop
  | [] => True
  | e :: log => Next log e ∧ Orderly log

theorem Orderly.of_suffix {past log : List Entry} (h : Orderly log) (hp : past <:+ log) : Orderly past := by
  induction log with
  | nil => rw [List.suffix_nil.1 hp]; trivial
  | cons e log ih =>
    rcases List.suffix_cons_iff.1 hp with rfl | hp
    · exact h
    · exact ih h.2 hp

/-- an entry that says nothing about received frames and what is made of them -/
def Neutral : Entry → Prop
  | .received _ | .listed _ => False
  | .called .onConnect => True
  | .called _ => False
  | _ => True

theorem next_of_neutral {e : Entry} (he : Neutral e) {log : List Entry} (h : ¬ Due log) : Next log e := by
  cases e with
  | called c => cases c <;> first | exact h | exact he.elim
  | _ => exact h

theorem next_of_outward {e : Entry} (he : Outward e) {log : List Entry} (h : ¬ Due log) : Next log e := by
  cases e with
  | called c => cases c <;> first | exact h | exact he.elim
  | _ => exact h

/-- an entry that is neither a frame nor a list of names -/
def Aside : Entry → Prop
  | .received _ | .listed _ => False
  | _ => True

theorem aside_of_neutral {e : Entry} (he : Neutral e) : Aside e := by
  cases e <;> trivial

theorem aside_of_outward {e : Entry} (he : Outward e) : Aside e := by
  cases e <;> trivial

theorem not_due_cons {e : Entry} (he : Aside e) (log : List Entry) : ¬ Due (e :: log) := by
  intro h
  cases h with
  | text => exact he
  | event => exact he

theorem latest_cons {e : Entry} (he : Aside e) (log : List Entry) : latest (e :: log) = latest log := by
  cases e <;> first | rfl | exact he.elim

theorem listing_cons {e : Entry} (he : Aside e) (log : List Entry) : listing (e :: log) = listing log := by
  cases e <;> first | rfl | exact he.elim

theorem orderly_outward {added log : List Entry} (hadded : ∀ e ∈ added, Outward e) (h : Orderly log) (hd : ¬ Due log) :
    Orderly (added ++ log) ∧ ¬ Due (added ++ log) ∧ latest (added ++ log) = latest log ∧
      listing (added ++ log) = listing log := by
  induction added with
  | nil => exact ⟨h, hd, rfl, rfl⟩
  | cons e added ih =>
    obtain ⟨horderly, hdue, hlatest, hlisting⟩ := ih fun x hx => hadded x (List.mem_cons_of_mem e hx)
    have he := hadded e List.mem_cons_self
    have haside := aside_of_outward he
    refine ⟨⟨next_of_outward he hdue, horderly⟩, not_due_cons haside _, ?_, ?_⟩
    · rw [List.cons_append, latest_cons haside, hlatest]
    · rw [List.cons_append, listing_cons haside, hlisting]

section

variable {η : Type}

structure Inv (s : St η) : Prop where
  orderly : Orderly s.log
  settled : ¬ Due s.log
  inbound : s.session.inbound = true ↔ disconnects s.log = 0

/-- the invariant is kept, and neither a frame nor a list of names comes in -/
def Stays (s s' : St η) : Prop := Inv s → Inv s' ∧ latest s'.log = latest s.log ∧ listing s'.log = listing s.log

def Keeps (s s' : St η) : Prop := Inv s → Inv s'

instance : Std.Refl (Stays (η := η)) := ⟨fun _ h => ⟨h, rfl, rfl⟩⟩

instance : IsTrans (St η) Stays where
  trans _ _ _ h h' hs := by
    obtain ⟨hinv, hlatest, hlisting⟩ := h hs
    obtain ⟨hinv', hlatest', hlisting'⟩ := h' hinv
    exact ⟨hinv', hlatest'.trans hlatest, hlisting'.trans hlisting⟩

instance : Std.Refl (Keeps (η := η)) := ⟨fun _ => id⟩

instance : IsTrans (St η) Keeps := ⟨fun _ _ _ h h' => h' ∘ h⟩

theorem Stays.keeps {s s' : St η} (h : Stays s s') : Keeps s s' := fun hs => (h hs).1

theorem stays_of_same {s s' : St η} (hlog : s'.log = s.log) (hinbound : s'.session.inbound = s.session.inbound) :
    Stays s s' := by
  intro h
  refine ⟨⟨?_, ?_, ?_⟩, by rw [hlog], by rw [hlog]⟩
  · rw [hlog]; exact h.orderly
  · rw [hlog]; exact h.settled
  · rw [hlog, hinbound]; exact h.inbound

theorem disconnects_neutral {e : Entry} (he : Neutral e) (log : List Entry) : disconnects (e :: log) = disconnects log := by
  cases e with
  | called c => cases c <;> first | rfl | exact he.elim
  | _ => rfl

theorem stays_push {e : Entry} (he : Neutral e) (s : St η) : Stays s (s.push e) := by
  intro h
  have haside := aside_of_neutral he
  refine ⟨⟨⟨next_of_neutral he h.settled, h.orderly⟩, not_due_cons haside _, ?_⟩, latest_cons haside _, listing_cons haside _⟩
  exact h.inbound.trans (Eq.congr_left (disconnects_neutral he s.log).symm)

theorem stays_setState (c : ConnectionState) (s : St η) : Stays s (setState c s) :=
  IsTrans.trans _ (s.push (.state c)) _ (stays_push (e := .state c) trivial s) (stays_of_same rfl rfl)

variable [TransportHandler η] {n : ℕ} (hbehave : Along (Adds Outward) (behave n : M η (List JString)))
include hbehave

/-- what the application does in `onDisconnect` receives no frame, and leaves the session without an inbound -/
theorem stays_notify (s : St η) (reason : DisconnectReason) : Stays s (Session.notify (app n) reason s).2 := by
  intro h
  obtain ⟨inner, hlog, hinner⟩ := hbehave ((setState .closed s).push (.called (.onDisconnect reason)))
  have hall : (Session.notify (app n) reason s).2.log =
      (.returned (.onDisconnect reason) :: inner ++ [.called (.onDisconnect reason), .state .closed]) ++ s.log := by
    rw [notify_app, app_snd]
    change .returned (.onDisconnect reason) :: (behave n _).2.log = _
    rw [hlog]
    simp [St.push, setState]
  have houtward : ∀ e ∈ .returned (.onDisconnect reason) :: inner ++ [.called (.onDisconnect reason), .state .closed],
      Outward e := by
    intro e he
    simp only [List.cons_append, List.mem_cons, List.mem_append, List.not_mem_nil, or_false] at he
    rcases he with rfl | he | rfl | rfl
    · trivial
    · exact hinner e he
    · trivial
    · trivial
  obtain ⟨horderly, hdue, hlatest, hlisting⟩ := orderly_outward houtward h.orderly h.settled
  rw [← hall] at horderly hdue hlatest hlisting
  refine ⟨⟨horderly, hdue, ?_⟩, hlatest, hlisting⟩
  have hgone : (Session.notify (app n) reason s).2.session.inbound = false := by rw [notify_app]
  have hcalled : 0 < disconnects (Session.notify (app n) reason s).2.log := by
    rw [hall]
    exact List.countP_pos_iff.2 ⟨.called (.onDisconnect reason), by simp, rfl⟩
  rw [hgone]
  exact iff_of_false Bool.false_ne_true (Nat.pos_iff_ne_zero.1 hcalled)

theorem outgoing : Outgoing Stays (app n : Callback η) where
  same _ _ hs := by
    simp only [core, Prod.mk.injEq] at hs
    exact stays_of_same hs.2.2.2 hs.2.1
  frame s f _ := stays_push (e := .frame f) trivial s
  wrote s data failed := stays_push (e := .wrote data failed) trivial s
  completed s := stays_push (e := .completed) trivial s
  outbound s c := stays_push (e := .outbound c (TransportHandler.refuses s closeFrame)) trivial s
  startClose s := by
    have hpushed : Stays s (s.push (.startClose s.session.state)) := stays_push (e := .startClose s.session.state) trivial s
    have hstate := stays_setState .closing (s.push (.startClose s.session.state))
    exact IsTrans.trans _ _ _ (IsTrans.trans _ _ _ hpushed hstate) (stays_of_same rfl rfl)
  removed s _ := IsTrans.trans _ _ _ (stays_push (e := .removed) trivial s) (stays_of_same rfl rfl)
  notify s reason _ := stays_notify hbehave s reason

variable (hcalls : ∀ m, Calls Stays (app m : Callback η))

omit hbehave in
include hcalls in
theorem along_app_behave : Along Stays (behave n : M η (List JString)) := along_behave fun m _ => hcalls m

include hcalls

theorem serving : Serving Keeps (app n : Callback η) where
  toOutgoing := (outgoing hbehave).mono fun _ _ => Stays.keeps
  hosted s e he := by
    refine (stays_push (e := e) ?_ s).keeps
    cases e <;> trivial
  closed s := (stays_setState .closed s).keeps
  onConnect s _ := by
    have hcall : Along Stays (app n .onConnect : M η (List JString)) :=
      (along_modify fun s => stays_push (e := .called .onConnect) trivial s).bind fun _ =>
        (along_app_behave hcalls).ending fun s => stays_push (e := .returned .onConnect) trivial s
    exact (hcall s).keeps

omit hbehave in
/-- **A call of the application** that may come next -/
theorem call_keeps {c : InboundCall} (hc : Ordinary c) {s : St η} (horderly : Orderly s.log) (hnext : Next s.log (.called c))
    (hinbound : s.session.inbound = true ↔ disconnects s.log = 0) :
    Inv (app n c s).2 ∧ latest (app n c s).2.log = latest s.log ∧ listing (app n c s).2.log = listing s.log := by
  have hnone : disconnects (.called c :: s.log) = disconnects s.log := by
    cases c with
    | onDisconnect reason => exact absurd rfl (hc reason)
    | _ => rfl
  have hcalled : Inv (s.push (.called c)) :=
    ⟨⟨hnext, horderly⟩, not_due_cons (show Aside (.called c) from trivial) _, hinbound.trans (Eq.congr_left hnone.symm)⟩
  obtain ⟨hbody, hlatest, hlisting⟩ := along_app_behave hcalls (n := n) (s.push (.called c)) hcalled
  have hreturned : Stays (behave n (s.push (.called c))).2 ((behave n (s.push (.called c))).2.push (.returned c)) :=
    stays_push (e := .returned c) trivial _
  obtain ⟨hend, hlatest', hlisting'⟩ := hreturned hbody
  rw [app_snd]
  exact ⟨hend, hlatest'.trans hlatest, hlisting'.trans hlisting⟩

omit [TransportHandler η] hbehave hcalls in
theorem listing_suffix {log : List Entry} {names : List JString} {past : List Entry} (h : listing log = some (names, past)) :
    past <:+ log := by
  induction log with
  | nil => cases h
  | cons e log ih =>
    cases e with
    | received f => cases h
    | listed given => cases h; exact List.suffix_cons _ _
    | _ => exact (ih h).trans (List.suffix_cons _ _)

omit [TransportHandler η] hbehave hcalls in
theorem disconnects_of_suffix {past log : List Entry} (hp : past <:+ log) (h : disconnects log = 0) : disconnects past = 0 :=
  Nat.le_zero.1 (h ▸ hp.sublist.countP_le)

omit hbehave in
/-- **The names of an EVENT**, one after the other: the message is passed on for the event's own name, while there is an
inbound. -/
theorem names_keep {f : SocketIOFrame} {key message : JString} (hm : messageOf f = some (key, message))
    {names given : List JString} {past : List Entry} (hsub : names ⊆ given) {s : St η} (horderly : Orderly s.log)
    (hlatest : latest s.log = some f) (hlisting : listing s.log = some (given, past))
    (hinbound : s.session.inbound = true ↔ disconnects s.log = 0)
    (hdue : Due s.log → key ∈ names ∧ s.session.inbound = true) :
    Inv (forEach names (fun b =>
      if key = b then do
        derefInbound
        let _ ← app n (.onMessage key message)
      else pure () : JString → M η Unit) s).2 := by
  induction names generalizing s with
  | nil => exact ⟨horderly, fun h => List.not_mem_nil (hdue h).1, hinbound⟩
  | cons b names ih =>
    have hrest : names ⊆ given := List.Subset.trans (List.subset_cons_self b names) hsub
    unfold forEach
    by_cases hb : key = b
    · rw [if_pos hb]
      cases hi : s.session.inbound with
      | false =>
        -- the loop ends with an exception
        have hnull : (do derefInbound; let _ ← app n (.onMessage key message) : M η Unit) s =
            (.error (.thrown .nullPointer), s) := derefInbound_null hi _
        rw [bind_of_error hnull]
        refine ⟨horderly, fun h => ?_, hinbound⟩
        rw [hi] at hdue
        exact Bool.false_ne_true (hdue h).2
      | true =>
        have hlive : disconnects past = 0 := disconnects_of_suffix (listing_suffix hlisting) (hinbound.1 hi)
        have hnext : Next s.log (.called (.onMessage key message)) :=
          ⟨f, hlatest, hm, fun _ => ⟨given, past, hlisting, hsub (hb ▸ List.mem_cons_self), hlive⟩⟩
        obtain ⟨hinv, hlatest', hlisting'⟩ := call_keeps hcalls (n := n) (ordinary_onMessage key message) horderly hnext hinbound
        have hcall : (do derefInbound; let _ ← app n (.onMessage key message) : M η Unit) s =
            (do let _ ← app n (.onMessage key message) : M η Unit) s := derefInbound_bind hi _
        rcases hr : (app n (.onMessage key message) : M η (List JString)) s with ⟨r, t⟩
        rw [hr] at hinv hlatest' hlisting'
        cases r with
        | error e => rw [bind_of_error (hcall.trans (bind_of_error hr _))]; exact hinv
        | ok l =>
          rw [bind_of_ok (hcall.trans (bind_of_ok hr _))]
          exact ih hrest hinv.orderly (hlatest'.trans hlatest) (hlisting'.trans hlisting) hinv.inbound
            fun h => absurd h hinv.settled
    · rw [if_neg hb, Program.pure_bind]
      exact ih hrest horderly hlatest hlisting hinbound fun h =>
        ⟨(List.mem_cons.1 (hdue h).1).resolve_left hb, (hdue h).2⟩

omit hbehave in
/-- **An EVENT** that was received: its inbound gives the names, and is called for each that is the event's key. -/
theorem event_keeps {f : SocketIOFrame} {key message : JString} (hm : messageOf f = some (key, message)) {s : St η}
    (h : Inv s) (hlatest : latest s.log = some f) :
    Inv ((do
      let names ← app n .setEventnames
      modify (·.push (.listed names))
      forEach names fun b =>
        if key = b then do
          derefInbound
          let _ ← app n (.onMessage key message)
        else pure () : M η Unit) s).2 := by
  obtain ⟨hasked, hlatest', -⟩ := call_keeps hcalls (n := n) ordinary_setEventnames h.orderly h.settled h.inbound
  rcases hms : (app n .setEventnames : M η (List JString)) s with ⟨r, t⟩
  rw [hms] at hasked hlatest'
  replace hlatest' := hlatest'.trans hlatest
  cases r with
  | error e => rw [bind_of_error hms]; exact hasked
  | ok names =>
    rw [bind_of_ok hms, modify_bind]
    refine names_keep hcalls hm (List.Subset.refl names) ⟨hasked.settled, hasked.orderly⟩ hlatest' rfl hasked.inbound ?_
    intro hd
    cases hd with
    | event hlast _ hmessage hkey hlive =>
      obtain rfl := Option.some.inj (hlast.symm.trans hlatest')
      obtain ⟨rfl, -⟩ := Prod.mk.inj (Option.some.inj (hmessage.symm.trans hm))
      exact ⟨hkey, hasked.inbound.2 hlive⟩

omit hbehave in
/-- **A data frame** of a live session is passed on at once, or, as an EVENT, after its inbound has given the names. -/
theorem data_keeps {f : SocketIOFrame} (hf : IsData f) : Along Keeps (Session.onMessage (app n : Callback η) f) := by
  intro s h
  have horderly : Orderly (s.push (.received f)).log := ⟨h.settled, h.orderly⟩
  rw [onMessage_data hf, modify_bind]
  unfold onMessageText
  rw [get_bind]
  by_cases hi : (s.push (.received f)).session.inbound = true
  · rw [if_pos hi]
    have htext : messageOf f = some (str "message", f.data) → f.frameType ≠ .event →
        Inv ((do let _ ← app n (.onMessage (str "message") f.data) : M η Unit) (s.push (.received f))).2 := by
      intro hm hne
      rw [discard_snd]
      exact (call_keeps hcalls (ordinary_onMessage _ _) horderly ⟨f, rfl, hm, fun he => absurd he hne⟩ h.inbound).1
    rcases hf with ht | ht | ht
    · rw [ht, if_pos (by decide)]; exact htext (by simp only [messageOf, ht]) (by rw [ht]; decide)
    · rw [ht, if_pos (by decide)]; exact htext (by simp only [messageOf, ht]) (by rw [ht]; decide)
    · rw [ht, if_neg (by decide), if_pos (by decide), catching_pure_snd]
      have hnoted : Inv (s.push (.received f)) := by
        refine ⟨horderly, fun hd => ?_, h.inbound⟩
        cases hd with
        | text _ hne _ => exact hne ht
      cases hfind : findEvent f.data with
      | none => exact hnoted
      | some event =>
        obtain ⟨key, args⟩ := event
        dsimp only
        cases hargs : unquote args with
        | error e => exact hnoted
        | ok message =>
          rw [show (lift (.ok message) : M η JString) = pure message from rfl, Program.pure_bind, derefInbound_bind hi]
          exact event_keeps hcalls (by simp only [messageOf, ht, hfind, hargs]) hnoted rfl
  · rw [if_neg hi]
    refine ⟨horderly, fun hd => ?_, h.inbound⟩
    cases hd with
    | text _ _ hlive => exact hi (h.inbound.2 hlive)

omit [TransportHandler η] hbehave hcalls in
/-- a frame without a message of the application only has to be noted -/
theorem keeps_received {f : SocketIOFrame} (hf : ¬ IsData f) (s : St η) : Keeps s (s.push (.received f)) := by
  intro h
  refine ⟨⟨h.settled, h.orderly⟩, fun hd => ?_, h.inbound⟩
  cases hd with
  | text hdata _ _ => exact hf hdata

omit hbehave in
/-- **A CONNECT frame** sets the namespace of the inbound while the session is live. -/
theorem connect_keeps (hset : ∀ a s, core ((TransportHandler.setNamespace a : M η Unit) s).2 = core s) {f : SocketIOFrame}
    (hf : f.frameType = .connect) : Along Keeps (Session.onMessage (app n : Callback η) f) := by
  intro s h
  have hnoted : Inv (s.push (.received f)) := keeps_received (by simp [IsData, hf]) s h
  have hanswer : Along Keeps (onConnectData (app n : Callback η) []) := fun _ =>
    sendOrAbort_related (fun _ => ((hcalls n).send _ _ (sendable_connect _ _)).keeps)
      ((hcalls n).abort.mono fun _ _ => Stays.keeps)
  unfold Session.onMessage
  simp only [hf]
  rw [modify_bind]
  cases hh : (s.push (.received f)).session.handler with
  | false => rw [derefHandler_null hh]; exact hnoted
  | true =>
    rw [derefHandler_bind hh]
    have hcore := hset (namespaceOf f.data) (s.push (.received f))
    rcases hms : (TransportHandler.setNamespace (namespaceOf f.data) : M η Unit) (s.push (.received f)) with ⟨r, s₂⟩
    rw [hms] at hcore
    simp only [core, Prod.mk.injEq] at hcore
    obtain ⟨-, hinbound, -, hlog⟩ := hcore
    have hset₂ : Inv s₂ := (stays_of_same hlog hinbound hnoted).1
    cases r with
    | error e => rw [bind_of_error hms]; exact hset₂
    | ok u =>
      rw [bind_of_ok hms]
      cases hi : s₂.session.inbound with
      | false => rw [derefInbound_null hi]; exact hset₂
      | true =>
        rw [derefInbound_bind hi]
        refine bind_related (R := Keeps) (fun _ => ?_) (fun _ => hanswer) hset₂
        exact (call_keeps hcalls (ordinary_setNamespace _) hset₂.orderly ⟨hset₂.inbound.1 hi, f, s.log, hlog, hf⟩
          hset₂.inbound).1

/-- the methods of the session -/
theorem steps (hwhenEmpty : ∀ s, core ((TransportHandler.disconnectWhenEmpty : M η Unit) s).2 = core s)
    (hset : ∀ a s, core ((TransportHandler.setNamespace a : M η Unit) s).2 = core s) :
    Steps Keeps (app n : Callback η) := by
  have calls : Calls Keeps (app n : Callback η) := (hcalls n).mono fun _ _ => Stays.keeps
  have out : Outgoing Keeps (app n : Callback η) := (outgoing hbehave).mono fun _ _ => Stays.keeps
  have closes : Closes Keeps (app n : Callback η) :=
    { send := calls.send
      abort := calls.abort
      disconnectWhenEmpty := fun s => out.same _ _ (hwhenEmpty s)
      onDisconnect := fun reason _ => out.along_onDisconnect reason
      acknowledged := fun s data _ => (stays_push (e := .onClose .closing data) trivial s).keeps
      closing := fun s data _ => by
        have hpushed : Keeps s (s.push (.onClose s.session.state data)) :=
          (stays_push (e := .onClose s.session.state data) trivial s).keeps
        exact IsTrans.trans _ _ _ hpushed (stays_setState _ _).keeps
      closed := fun s => (stays_setState .closed s).keeps }
  refine ⟨calls, closes, ?_⟩
  have hheartbeat : ∀ (s : St η) (f : SocketIOFrame), f.frameType = .heartbeat →
      Keeps s (startHeartbeatTimer (onPong (s.push (.received f)))) := by
    intro s f hf
    have hnoted : Keeps s (s.push (.received f)) := keeps_received (by simp [IsData, hf]) s
    exact IsTrans.trans _ _ _ hnoted (out.same _ _ (core_startHeartbeatTimer _))
  exact
    { connect := fun f hf => connect_keeps hcalls hset hf
      heartbeat := hheartbeat
      close := fun f hf => by
        exact (along_modify fun s => keeps_received (by simp [IsData, hf]) s).bind fun _ => closes.along_onClose f.data
      data := fun f hf => data_keeps hcalls hf
      ignored := fun s f _ _ _ hf => keeps_received hf s }

end

theorem keeps_attach {η : Type} (s : St η) : Keeps s (attach s) := by
  have hsame : Stays s (attach s) := stays_of_same rfl rfl
  exact hsame.keeps

/-- the session is opened once -/
theorem opens {η : Type} : Opens (Keeps (η := η)) where
  opened s _ _ := by
    have hpushed : Keeps (attach s) ((attach s).push (.opened s.session.state)) :=
      (stays_push (e := .opened s.session.state) trivial _).keeps
    exact IsTrans.trans _ _ _ (IsTrans.trans _ _ _ (keeps_attach s) hpushed) (stays_setState _ _).keeps
  attached := keeps_attach

theorem inv_created {η : Type} {s : St η} (hlog : s.log = []) (hinbound : s.session.inbound = true) : Inv s := by
  refine ⟨?_, ?_, ?_⟩
  · rw [hlog]; trivial
  · rw [hlog]; exact fun h => by cases h
  · rw [hlog, hinbound]; exact iff_of_true rfl rfl

theorem http_inv (config : JettyContinuation.SocketIOConfig) (persistent : Bool) (is : List (Input HttpEvent)) :
    Inv (run serveHttp (JettyContinuation.created config persistent) is) := by
  have hbehave := fun n => (JettyTraversal.adds_behave n).1
  have hcalls := fun n => JettyTraversal.Http.calls (outgoing (hbehave n))
  have hserving := fun n => serving (hbehave n) hcalls
  have hsteps := fun n => steps (hbehave n) hcalls (fun _ => rfl) fun _ _ => rfl
  exact run_related hserving hsteps (fun n e => JettyTraversal.Http.along_serve (hserving n) (hsteps n) opens e) _ is
    (inv_created rfl rfl)

theorem socket_inv (config : JettyWebSocket.SocketIOConfig) (is : List (Input SocketEvent)) :
    Inv (run serveSocket (JettyWebSocket.created config) is) := by
  have hbehave := fun n => (JettyTraversal.adds_behave n).2
  have hcalls := fun n => JettyTraversal.Socket.calls (outgoing (hbehave n))
  have hserving := fun n => serving (hbehave n) hcalls
  have hsteps := fun n => steps (hbehave n) hcalls (fun _ => rfl) fun _ _ => rfl
  exact run_related hserving hsteps (fun n e => JettyTraversal.Socket.along_serve (hserving n) (hsteps n) opens e) _ is
    (inv_created rfl rfl)

/-! ## What the histories of a session's Intercepter are -/

theorem countP_issued (log : List Entry) : (issued log).countP isDisconnect = disconnects log := by
  unfold disconnects
  induction log with
  | nil => rfl
  | cons e log ih =>
    cases e with
    | called c =>
      change (c :: issued log).countP isDisconnect = _
      rw [List.countP_cons, List.countP_cons, ih]
      cases c <;> rfl
    | _ => exact ih

/-- the session sets no namespace after its disconnect -/
theorem Orderly.final {log : List Entry} (h : Orderly log) : Final (issued log) := by
  induction log with
  | nil =>
    intro a past hp
    cases List.suffix_nil.1 hp
  | cons e log ih =>
    have hpast := ih h.2
    cases e with
    | called c =>
      intro a past hp
      rcases List.suffix_cons_iff.1 hp with heq | hp
      · obtain ⟨rfl, rfl⟩ := List.cons.inj heq
        exact (countP_issued log).trans h.1.1
      · exact hpast a past hp
    | _ => exact hpast

/-- the namespace of a data frame; the empty endpoint stands for "/" -/
def endpointOf (f : SocketIOFrame) : JString := if f.endpoint.length = 0 then str "/" else f.endpoint

/-- the endpoint field of a packet's text, between its second colon and its third; nothing stands for "/" -/
def endpointSent (packet : JString) : JString :=
  let field := ((packet.splitOn SEPERATOR_CHAR)[2]?).getD []
  if field.length = 0 then str "/" else field

/-- the client is connected to the namespace; `wrote` is the text that it sent for the frame received after a history -/
def Connected (wrote : List Entry → JString) (log : List Entry) (ns : JString) : Prop :=
  ns = str "/" ∨ ∃ f past, .received f :: past <:+ log ∧ f.frameType = .connect ∧ endpointSent (wrote past) = ns

/-- a data frame that a live session received, after `before`, for a namespace that the client is connected to and for
which `t` is registered -/
structure Addressed (targets : Targets τ) (wrote : List Entry → JString) (log : List Entry) (f : SocketIOFrame)
    (before : List Entry) (t : τ) : Prop where
  received : .received f :: before <:+ log
  data : IsData f
  live : disconnects before = 0
  target : targets.get (endpointOf f) = some t
  connected : Connected wrote before (endpointOf f)

/-- the inbound is called with a message, after `past`, while the frame is handled -/
structure PassedOn (log : List Entry) (f : SocketIOFrame) (before : List Entry) (key message : JString)
    (past : List Entry) : Prop where
  called : .called (.onMessage key message) :: past <:+ log
  handling : ∃ mid, past = mid ++ .received f :: before ∧ ∀ g, .received g ∉ mid

/-- an Intercepter with these targets that the session called as in `past` calls the target for `c`, and no other one -/
def DispatchedTo (targets : Targets τ) (past : List Entry) (c : InboundCall) (t : τ) : Prop :=
  ∀ outbound connections es, calls es = issued past →
    (after outbound targets ((connections, .invoke c) :: es)).log = .invoked t c :: (after outbound targets es).log

/-- every data frame of a connected namespace is dispatched, with its own key and text, to the namespace's target, and to no
other one -/
def Routed (targets : Targets τ) (wrote : List Entry → JString) (log : List Entry) : Prop :=
  ∀ f before t, Addressed targets wrote log f before t →
    (∃ key message past, PassedOn log f before key message past) ∧
      ∀ key message past, PassedOn log f before key message past →
        messageOf f = some (key, message) ∧ DispatchedTo targets past (.onMessage key message) t

section

variable {η : Type} {s : St η} (h : Inv s) {f : SocketIOFrame} {before past : List Entry} {key message : JString}
include h

end

/-- every target whose `onConnect` was called is the one of the current namespace, and the session was disconnected once -/
def SingleTarget (x : Intercepter τ) (log : List Entry) : Prop :=
  ∀ t, .invoked t .onConnect ∈ x.log → x.targets.get x.strNamespace = some t ∧ disconnects log = 1

theorem Inv.paired_iff_singleTarget [DecidableEq τ] {η : Type} {s : St η} (h : Inv s) (targets : Targets τ) (outbound : ℕ)
    {es : List (Connections × Event)} (hes : calls es = issued s.log) :
    Paired (after outbound targets es) ↔ SingleTarget (after outbound targets es) s.log := by
  have hfinal : Final (calls es) := by rw [hes]; exact h.orderly.final
  obtain ⟨hns, htargets⟩ := after_current outbound targets es
  rw [paired_after_iff outbound targets es hfinal]
  unfold SingleTarget
  rw [hns, htargets, ← countP_issued s.log, hes]

/-- **When connects and disconnects are paired.** In every run of a session with either handler whose inbound is an
Intercepter with any targets, and for every history of that Intercepter with the session's calls: each target whose
`onConnect` was called has exactly one call of its `onDisconnect`, if and only if each of them is the target of the
namespace that was set last, and the session made exactly one call of `onDisconnect`. -/
theorem paired_iff [DecidableEq τ] (config : JettyContinuation.SocketIOConfig) (persistent : Bool)
    (is : List (Input HttpEvent)) (wsConfig : JettyWebSocket.SocketIOConfig) (js : List (Input SocketEvent))
    (targets : Targets τ) (outbound : ℕ) :
    let s := run serveHttp (JettyContinuation.created config persistent) is
    let t := run serveSocket (JettyWebSocket.created wsConfig) js
    (∀ es, calls es = issued s.log →
        (Paired (after outbound targets es) ↔ SingleTarget (after outbound targets es) s.log)) ∧
      ∀ es, calls es = issued t.log →
        (Paired (after outbound targets es) ↔ SingleTarget (after outbound targets es) t.log) :=
  ⟨fun _ hes => (http_inv config persistent is).paired_iff_singleTarget targets outbound hes,
    fun _ hes => (socket_inv wsConfig js).paired_iff_singleTarget targets outbound hes⟩

/-- a session connects, and its connection is closed -/
def connectAndClose : List (Input SocketEvent) := [⟨.container .connect, [], []⟩, ⟨.container .onClose, [], []⟩]

/-- a target returns from `onConnect` and from `onDisconnect` -/
def connectAndCloseHistory : List (Connections × Event) :=
  [(fun _ => none, .finish false), (fun _ => none, .invoke (.onDisconnect .error)), (fun _ => none, .finish false),
    (fun _ => none, .invoke .onConnect)]

/-- the only target of a session is notified of both -/
theorem paired_connectAndClose :
    Paired (after 0 (⟨[(str "/", 0)], by decide⟩ : Targets ℕ) connectAndCloseHistory) := by
  refine ((paired_iff ⟨none, none, none, none⟩ false [] ⟨none, none⟩ connectAndClose ⟨[(str "/", 0)], by decide⟩ 0).2
    connectAndCloseHistory (by decide)).2 fun t ht => ?_
  have hmarks : (.invoked t .onConnect : Mark ℕ) ∈
      [.over (.onDisconnect .error), .invoked 0 (.onDisconnect .error), .over .onConnect, .invoked 0 .onConnect] := ht
  have htarget : t = 0 := by simpa using hmarks
  subst htarget
  exact ⟨by decide, by decide⟩

/-- a client connects to one of two namespaces and closes the connection -/
def oneNamespace : List (Input SocketEvent) := bothNamespaces.take 2 ++ [⟨.container .onClose, [], []⟩]

/-- both targets return from `onConnect`, and the target of the client's namespace from `onDisconnect` -/
def oneNamespaceHistory : List (Connections × Event) :=
  [(fun _ => none, .finish false), (fun _ => none, .invoke (.onDisconnect .error)),
    (fun _ => none, .invoke (.setNamespace (str "/a"))), (fun _ => none, .finish false), (fun _ => none, .finish false),
    (fun _ => none, .invoke .onConnect)]

/-- **The other namespace's target is never told of the disconnect.** -/
theorem other_target_not_disconnected :
    calls oneNamespaceHistory = issued (run serveSocket (JettyWebSocket.created ⟨none, none⟩) oneNamespace).log ∧
      .invoked 1 .onConnect ∈ (after 0 chats oneNamespaceHistory).log ∧ notified 1 (after 0 chats oneNamespaceHistory) = 0 ∧
      ¬ Paired (after 0 chats oneNamespaceHistory) := by
  have hcalled : .invoked 1 .onConnect ∈ (after 0 chats oneNamespaceHistory).log := by
    change (.invoked 1 .onConnect : Mark ℕ) ∈ [.over (.onDisconnect .error), .invoked 0 (.onDisconnect .error),
      .over (.setNamespace (str "/a")), .over .onConnect, .invoked 1 .onConnect, .invoked 0 .onConnect]
    simp
  have hnever : notified 1 (after 0 chats oneNamespaceHistory) = 0 := by decide
  refine ⟨by decide, hcalled, hnever, fun h => ?_⟩
  exact absurd (hnever.symm.trans (h 1 hcalled)) Nat.zero_ne_one

end SocketIOJava.Routing
