/-
How many handshakes a client asks for.

A socket that loses its connection tries to get it back: `maybeReconnect` asks for `max reconnection attempts` handshakes,
each of which may fail, and for one more with all transports. The loss of the connection, the advice of an error packet, a
handler that calls `connect` while a reconnection lasts, and a timer that is left of an earlier one may come in any order.

- `handshakes_run`: in every run the handshakes are at most the one of the new socket, one for each call of `connect` by the
  page, and `max reconnection attempts` + 1 for each packet that connected the socket or told it to reconnect.

What a reconnection may still ask for is part of a potential, as is what a connected socket may ask for once it loses its
connection.
-/
import SocketIOJava.Lib.Potential
import SocketIOJava.ClientDelivery

namespace SocketIOJava.Reconnecting

open Program Potential SocketIOJava.Text SocketIOJava.ClientParser SocketIOJava.ClientSocket SocketIOJava.ClientDelivery

/-! ## What is counted -/

/-- the handshakes that were requested -/
def handshakes (log : List Entry) : ℕ := log.countP fun
  | .handshake => true
  | _ => false

/-- a packet that connects the socket, or tells it to reconnect -/
def admits (p : Packet) : Bool :=
  match p.content with
  | .connect _ => p.endpoint = []
  | .error _ advice => advice = str "reconnect"
  | _ => false

/-- the packets of this kind that came in -/
def admissions (log : List Entry) : ℕ := log.countP fun
  | .received p => admits p
  | _ => false

/-- the calls of `connect` that the script still makes -/
def connectCalls (acts : List Act) : ℕ := acts.countP fun
  | .call .connect => true
  | _ => false

/-- the handshakes that one loss of the connection is good for -/
def quota (o : Options) : ℤ := o.maxAttempts + 1

/-- the handshakes that a reconnection may still ask for -/
def spare (o : Options) (s : Socket) : ℕ :=
  if s.reconnecting then o.maxAttempts - s.attempts + (!s.redoTransports).toNat else 0

/-- the handshakes that were asked for and those to come, without those that the packets that came in are good for -/
def worth (o : Options) (handshakes spare : ℕ) (connected : Bool) (connectCalls admissions : ℕ) : ℤ :=
  handshakes + spare + (if connected then quota o else 0) + connectCalls - quota o * admissions

def potential (o : Options) (s : St) : ℤ :=
  worth o (handshakes s.log) (spare o s.socket) s.socket.connected (connectCalls s.acts) (admissions s.log)

theorem quota_pos (o : Options) : 0 ≤ quota o := by
  unfold quota
  omega

theorem spare_le (o : Options) (s : Socket) : (spare o s : ℤ) ≤ quota o := by
  have hlast := Bool.toNat_le (!s.redoTransports)
  unfold spare quota
  split_ifs <;> omega

/-- what the potential depends on, the reconnection apart -/
def view (s : St) : Bool × ℕ × ℕ × ℕ := (s.socket.connected, connectCalls s.acts, handshakes s.log, admissions s.log)

variable {o : Options} {cb : Callback} {s s' : St}

/-- an update of the reconnection -/
theorem rises_of_spare {n : ℤ} (h : view s' = view s) (hspare : (spare o s'.socket : ℤ) ≤ spare o s.socket + n) :
    Rises (potential o) n s s' := by
  obtain ⟨hconnected, hacts, hhandshakes, hadmissions⟩ := by simpa only [view, Prod.mk.injEq] using h
  unfold Rises potential worth
  rw [hconnected, hacts, hhandshakes, hadmissions]
  linarith

/-- an update of something else -/
theorem rises_of_view (h : view s' = view s) (hspare : spare o s'.socket = spare o s.socket) : Rises (potential o) 0 s s' :=
  rises_of_spare h (by rw [hspare, add_zero])

/-! ## What the client's methods cost -/

theorem carries : Carries o (Rises (potential o) 0) where
  packet p s := by
    have hgiven := packet_cases o p s
    generalize (packet o p s).2 = s' at hgiven
    cases hgiven <;> exact rises_of_view rfl rfl
  buffering s := rises_of_view rfl rfl
  named _ _ := rises_of_view rfl rfl
  flagged _ _ _ := rises_of_view rfl rfl
  altered _ _ _ _ _ := rises_of_view rfl rfl

theorem along_flush : Along (Rises (potential o) 0) (setBuffer o false) := by
  intro s
  have hflush := setBuffer_cases o s
  generalize (setBuffer o false s).2 = s' at hflush
  cases hflush <;> exact rises_of_view rfl rfl

/-- a handshake -/
theorem along_connect : Along (Rises (potential o) 1) ClientSocket.connect := by
  refine along_get_bind fun s => Along.ite (fun _ => along_modify fun s => ?_) (fun _ s => ?_) s
  · have hone : handshakes (.handshake :: s.log) = handshakes s.log + 1 := List.countP_cons_of_pos rfl
    change worth o (handshakes (.handshake :: s.log)) (spare o s.socket) s.socket.connected (connectCalls s.acts)
      (admissions s.log) ≤ potential o s + 1
    unfold potential worth
    rw [hone, Nat.cast_add, Nat.cast_one]
    linarith
  · exact (Std.Refl.refl (r := Rises (potential o) 0) s).mono (by omega)

/-- a reconnection begins -/
theorem rises_reconnect (s : St) : Rises (potential o) (quota o) s (reconnect s) :=
  rises_of_spare rfl ((spare_le o _).trans (le_add_of_nonneg_left (Nat.cast_nonneg _)))

/-- a packet that connects the socket or tells it to reconnect is good for what it may cost -/
theorem rises_received {p : Packet} (h : admits p = true) (s : St) : Rises (potential o) (-quota o) s (s.push (.received p)) := by
  have hone : admissions (.received p :: s.log) = admissions s.log + 1 := List.countP_cons_of_pos h
  change worth o (handshakes s.log) (spare o s.socket) s.socket.connected (connectCalls s.acts)
    (admissions (.received p :: s.log)) ≤ potential o s + -quota o
  unfold potential worth
  rw [hone, Nat.cast_add, Nat.cast_one]
  linarith

theorem rises_ignored {p : Packet} (h : admits p = false) (s : St) : Rises (potential o) 0 s (s.push (.received p)) := by
  refine rises_of_view ?_ rfl
  have hnone : admissions (.received p :: s.log) = admissions s.log := List.countP_cons_of_neg (by simp [h])
  exact congrArg (s.socket.connected, connectCalls s.acts, handshakes s.log, ·) hnone

section

variable (hcb : ∀ h, Along (Rises (potential o) 0) (cb h))
include hcb

/-- the end of a connection saves what the reconnection costs that it begins -/
theorem along_onDisconnect (booted : Bool) : Along (Rises (potential o) 0) (onDisconnect o cb booted) := by
  have k := carries (o := o)
  have hbegin : Along (Rises (potential o) (quota o)) (modify reconnect : M Unit) := along_modify rises_reconnect
  refine along_get_bind fun s => ?_
  rw [modify_bind]
  let s₁ : St := { s with socket.connected := false, socket.connecting := false, socket.isOpen := false }
  cases hconnected : s.socket.connected with
  | false =>
    have hended : Rises (potential o) 0 s s₁ := rises_of_view (congrArg (·, _) hconnected.symm) rfl
    refine IsTrans.trans _ _ _ hended ?_
    refine Along.ite (fun _ => ?_) (fun _ => along_pure _) s₁
    refine along_currentTransport.bind fun i => (k.along_transportClose i).bind fun _ => ?_
    exact .ite (fun h => absurd h Bool.false_ne_true) fun _ => along_pure _
  | true =>
    have hended : Rises (potential o) (-quota o) s s₁ := by
      change worth o (handshakes s.log) (spare o s.socket) false (connectCalls s.acts) (admissions s.log) ≤
        potential o s + -quota o
      unfold potential worth
      rw [hconnected, if_pos rfl, if_neg Bool.false_ne_true]
      linarith
    have hrest : Along (Rises (potential o) (quota o)) (do
        let i ← currentTransport
        transportClose i
        if true then do
          publish o cb (str "disconnect")
          let s ← get
          if !booted && o.reconnect && !s.socket.reconnecting then modify ClientSocket.reconnect : M Unit) := by
      refine along_rises_bind along_currentTransport (fun i => ?_) (quota_pos o)
      refine along_rises_bind (k.along_transportClose i) (fun _ => ?_) (quota_pos o)
      refine .ite (fun _ => ?_) fun _ => along_skip _ (quota_pos o)
      refine along_rises_bind (along_publish hcb _) (fun _ => along_get_bind fun s => ?_) (quota_pos o)
      exact Along.ite (fun _ => hbegin) (fun _ => along_skip _ (quota_pos o)) s
    have hall := hended.trans (hrest s₁)
    rwa [neg_add_cancel] at hall

theorem conducts : Conducts o cb (Rises (potential o) 0) where
  toCarries := carries
  handler := hcb
  onDisconnect := along_onDisconnect hcb

/-- an error may begin a reconnection -/
theorem along_onError (advice : JString) : Along (Rises (potential o) (quota o)) (onError o cb advice) := by
  have k := conducts hcb
  refine along_get_bind fun s => ?_
  have hbegin : Along (Rises (potential o) (quota o)) (do
      disconnect o cb
      if o.reconnect then modify ClientSocket.reconnect : M Unit) := by
    refine along_rises_bind k.along_disconnect (fun _ => ?_) (quota_pos o)
    exact .ite (fun _ => along_modify rises_reconnect) fun _ => along_skip _ (quota_pos o)
  have hfirst : Along (Rises (potential o) (quota o)) (whenever
      (advice = str "reconnect" ∧ (s.socket.connected || s.socket.connecting)) (do
        disconnect o cb
        if o.reconnect then modify ClientSocket.reconnect) : M Unit) :=
    .ite (fun _ => hbegin) fun _ => along_skip _ (quota_pos o)
  have hpublish : Along (Rises (potential o) 0) (publish o cb (str "error")) := along_publish hcb _
  have hall := rises_bind (hfirst s) (fun _ => hpublish) le_rfl
  rwa [add_zero] at hall

theorem along_reset : Along (Rises (potential o) 0) (reset o cb) := by
  have k := carries (o := o)
  refine along_get.bind fun s => (along_whenever fun _ => ?_).bind fun _ => along_modify fun s => ?_
  · refine (along_forEach fun n _ => along_whenever fun _ => ?_).bind fun _ => along_publish hcb _
    exact k.along_namespacePacket n.name _
  · exact rises_of_spare rfl (by rw [add_zero]; exact Nat.cast_nonneg _)

/-- what `maybeReconnect` asks for, it takes from what the reconnection may ask for -/
theorem along_maybeReconnect (found : Option Kind) : Along (Rises (potential o) 0) (maybeReconnect o cb found) := by
  intro s
  unfold maybeReconnect
  rw [get_bind]
  by_cases hidle : (!s.socket.reconnecting) = true
  · rw [if_pos hidle]; exact along_pure _ s
  have hreconnecting : s.socket.reconnecting = true := by simpa using hidle
  rw [if_neg hidle]
  by_cases hconnected : s.socket.connected = true
  · rw [if_pos hconnected]; exact along_reset hcb s
  rw [if_neg hconnected]
  by_cases hconnecting : s.socket.connecting = true
  · rw [if_pos hconnecting]; exact along_pure _ s
  rw [if_neg hconnecting, modify_bind]
  let s₁ : St := { s with socket.attempts := s.socket.attempts + 1 }
  have hspare : spare o s.socket = o.maxAttempts - s.socket.attempts + (!s.socket.redoTransports).toNat := if_pos hreconnecting
  have hspare₁ : spare o s₁.socket = o.maxAttempts - (s.socket.attempts + 1) + (!s.socket.redoTransports).toNat :=
    if_pos hreconnecting
  by_cases hattempts : s.socket.attempts ≥ o.maxAttempts
  · rw [if_pos hattempts]
    by_cases hredo : (!s.socket.redoTransports) = true
    · -- the last attempt is paid for by `redoTransports`
      let s₂ : St := { setTransport found s₁ with socket.redoTransports := true }
      have hspare₂ : spare o s₂.socket = o.maxAttempts - (s.socket.attempts + 1) := if_pos hreconnecting
      have hunset : s.socket.redoTransports = false := by simpa using hredo
      have hset : Rises (potential o) (-1) s s₂ := by
        refine rises_of_spare rfl ?_
        rw [hspare, hspare₂, hunset, Bool.not_false, Bool.toNat_true]
        omega
      rw [if_pos hredo, modify_bind]
      exact hset.trans (along_connect s₂)
    · have hset : s.socket.redoTransports = true := by simpa using hredo
      have hcount : Rises (potential o) 0 s s₁ := by
        refine rises_of_spare rfl ?_
        rw [hspare, hspare₁, hset]
        omega
      rw [if_neg hredo]
      exact IsTrans.trans _ _ _ hcount (((along_publish hcb _).bind fun _ => along_reset hcb) s₁)
  · rw [if_neg hattempts]
    have hcount : Rises (potential o) (-1) s s₁ := by
      refine rises_of_spare rfl ?_
      rw [hspare, hspare₁]
      omega
    exact hcount.trans (rises_bind (along_connect s₁) (fun _ => along_publish hcb (str "reconnecting")) le_rfl)

theorem along_failed : Along (Rises (potential o) 0) (connectFailed o cb) :=
  along_connectFailed hcb fun s _ => along_maybeReconnect hcb none s

/-- a socket that gets connected may lose its connection later -/
theorem along_onConnect : Along (Rises (potential o) (quota o)) (onConnect o cb) := by
  intro s
  unfold onConnect
  rw [get_bind]
  by_cases hconnected : (!s.socket.connected) = true
  · rw [if_pos hconnected, modify_bind]
    let s₁ : St := { s with socket.connected := true, socket.connecting := false }
    have hrest : Along (Rises (potential o) 0) (do
        whenever (s.socket.doBuffer = false) (setBuffer o false)
        maybeReconnect o cb none : M Unit) :=
      (along_whenever fun _ => along_flush).bind fun _ => along_maybeReconnect hcb none
    have hopened : Rises (potential o) (quota o) s s₁ := by
      change worth o (handshakes s.log) (spare o s.socket) true (connectCalls s.acts) (admissions s.log) ≤ potential o s + quota o
      unfold potential worth
      rw [if_pos rfl, if_neg (by simpa using hconnected)]
      linarith
    have hall := hopened.trans (hrest s₁)
    rwa [add_zero] at hall
  · rw [if_neg hconnected]
    exact along_skip () (quota_pos o) s

/-- **A packet of the server** costs no more than it is good for. -/
theorem along_transportOnPacket (i : ℕ) (p : Packet) : Along (Rises (potential o) 0) (transportOnPacket o cb i p) := by
  have k := conducts hcb
  intro s
  cases hadmits : admits p with
  | false =>
    refine k.transportOnPacket_related (rises_ignored hadmits s) (fun qs hcontent hendpoint => ?_) (fun _ => ?_)
      fun reason advice hcontent => k.along_onError fun hadvice => ?_
    · simp [admits, hcontent, hendpoint] at hadmits
    · exact along_answer (fun _ => rises_of_view rfl rfl) (fun _ _ _ => rises_of_view rfl rfl) fun _ => rises_of_view rfl rfl
    · simp [admits, hcontent, hadvice] at hadmits
  | true =>
    have hpaid : Along (Rises (potential o) (quota o)) (dispatch o cb i p) := by
      unfold dispatch
      cases hcontent : p.content with
      | connect qs =>
        have hconnect : Along (Rises (potential o) (quota o)) (whenever (p.endpoint = []) (onConnect o cb)) :=
          .ite (fun _ => along_onConnect hcb) fun _ => along_skip _ (quota_pos o)
        have hpacket : Along (Rises (potential o) 0) (onPacket o cb p) :=
          k.along_onPacket fun _ _ herror => by cases hcontent.symm.trans herror
        intro s
        have hall := rises_bind (hconnect s) (fun _ => hpacket) le_rfl
        rwa [add_zero] at hall
      | error reason advice =>
        have hclosed : Along (Rises (potential o) 0) (whenever (advice = str "reconnect") <|
            modify fun s => { s with socket := s.socket.alter i ({ · with isOpen := some false }) } : M Unit) :=
          along_whenever fun _ => along_modify fun _ => rises_of_view rfl rfl
        have herror : Along (Rises (potential o) (quota o)) (namespaceOnPacket o cb (namespaceKey p) p) := by
          unfold namespaceOnPacket
          rw [hcontent]
          exact .ite (fun _ => along_onError hcb advice) fun _ s => (hcb _ s).mono (quota_pos o)
        have hpacket : Along (Rises (potential o) (quota o)) (onPacket o cb p) :=
          along_rises_bind (k.along_of_ _ _)
            (fun _ => along_rises_bind (along_whenever fun _ => along_stop _) (fun _ => herror) (quota_pos o)) (quota_pos o)
        exact along_rises_bind hclosed (fun _ => hpacket) (quota_pos o)
      | disconnect | heartbeat | message _ | json _ | event _ _ | ack _ _ | noop | unknown | empty =>
        simp [admits, hcontent] at hadmits
    have hall := (rises_received hadmits s).trans (hpaid (s.push (.received p)))
    rwa [neg_add_cancel] at hall

end

/-! ## Runs -/

/-- a call of `connect` pays for the handshake that it asks for -/
theorem rises_taken {a : Act} {acts : List Act} (hacts : s.acts = a :: acts) :
    Rises (potential o) (-connectCalls [a]) s { s with acts := acts } := by
  have hsplit : connectCalls ([a] ++ acts) = connectCalls [a] + connectCalls acts := List.countP_append
  change worth o (handshakes s.log) (spare o s.socket) s.socket.connected (connectCalls acts) (admissions s.log) ≤
    potential o s + -connectCalls [a]
  unfold potential worth
  rw [hacts, ← List.singleton_append, hsplit, Nat.cast_add]
  linarith

theorem along_called (h : Handler) : Along (Rises (potential o) 0) (modify (·.push (.called h)) : M Unit) :=
  along_modify fun _ => rises_of_view rfl rfl

/-- **The script**, at every depth of handlers. -/
theorem along_behave (n : ℕ) : Along (Rises (potential o) 0) (behave o n) := by
  induction n with
  | zero => exact along_pure _
  | succ n ih =>
    have hhandling (h : Handler) : Along (Rises (potential o) 0) (handling (behave o n) h) :=
      (along_called h).bind fun _ => ih
    have hcall (c : Call) : Along (Rises (potential o) (connectCalls [.call c])) (call o (handling (behave o n)) c) := by
      cases c with
      | connect => exact along_get_bind fun s => along_connect s
      | of _ | send _ _ _ | jsonSend _ _ _ | emit _ _ _ _ | ack _ _ _ | disconnect _ =>
        exact (conducts hhandling).along_call fun h => by cases h
    have hact (a : Act) : Along (Rises (potential o) (connectCalls [a])) (take o (behave o n) a) := by
      cases a with
      | ret => exact along_skip _ (Nat.cast_nonneg _)
      | raise => exact along_rises_mono (along_stop _) (Nat.cast_nonneg _)
      | call c =>
        intro s
        have hcaught : Rises (potential o) (connectCalls [.call c]) s
            (catching (fun _ => true) (call o (handling (behave o n)) c) (pure ()) s).2 := by
          rw [catching_pure_snd]
          exact hcall c s
        have hall := rises_bind hcaught (fun _ => ih) le_rfl
        rwa [add_zero] at hall
    refine along_get_bind fun s => ?_
    cases hacts : s.acts with
    | nil => exact along_pure _ s
    | cons a acts =>
      have hall := (rises_taken hacts).trans (hact a { s with acts := acts })
      rwa [neg_add_cancel] at hall

theorem along_handling (n : ℕ) (h : Handler) : Along (Rises (potential o) 0) (handling (behave o n) h) :=
  (along_called h).bind fun _ => along_behave n

/-- **An event costs nothing** but the handshakes that its packets and the calls of the page are good for. -/
theorem along_perform (n : ℕ) (e : Event) : Along (Rises (potential o) 0) (perform o (behave o n) (handling (behave o n)) e) := by
  have hcb := along_handling (o := o) n
  have k := conducts hcb
  by_cases hlocal : Conducts.Local e
  · exact k.along_local (along_behave n) (along_failed hcb) (along_openBuffer (fun _ => rises_of_view rfl rfl) along_flush)
      along_flush (fun _ _ => rises_of_view rfl rfl) hlocal
  have hchoose (found : Option Kind) (s : St) : Rises (potential o) 0 s (setTransport found s) := rises_of_view rfl rfl
  cases e with
  | handshake found => exact fun s => choose_related (along_failed hcb) (hchoose found s)
  | connectTimeout next => exact k.along_connectTimeout (along_failed hcb) fun found _ s _ => hchoose found s
  | retry found => exact along_maybeReconnect hcb found
  | data i text m =>
    refine along_get.bind fun s => .ite (fun _ => ?_) fun _ => along_pure _
    exact along_whenever fun _ => along_forEach fun p _ => along_transportOnPacket hcb i p
  | _ => exact absurd trivial hlocal

theorem rises_step (s : St) (i : Input) : Rises (potential o) (connectCalls i.acts) s (step o s i) := by
  have hacts : Rises (potential o) (connectCalls i.acts) s { s with acts := i.acts } := by
    change worth o (handshakes s.log) (spare o s.socket) s.socket.connected (connectCalls i.acts) (admissions s.log) ≤
      potential o s + connectCalls i.acts
    unfold potential worth
    have hnonneg : (0 : ℤ) ≤ connectCalls s.acts := Nat.cast_nonneg _
    linarith
  have hall := hacts.trans (along_perform (i.acts.length + 1) i.event { s with acts := i.acts })
  rwa [add_zero] at hall

/-- **A client does not ask for handshakes without end.** In every run, and whatever the order of the events: the client has
asked for one handshake when it was created, at most one for each call of `connect` by the page, and at most
`maxAttempts + 1` for each packet that connected it or told it to reconnect. -/
theorem handshakes_run (o : Options) (is : List Input) :
    handshakes (run o created is).log ≤
      1 + (is.map fun i => connectCalls i.acts).sum + (o.maxAttempts + 1) * admissions (run o created is).log := by
  have hrun : Rises (potential o) _ created (run o created is) := rises_run rises_step created is
  have hcreated : potential o created = 1 := by
    change worth o 1 0 false 0 0 = 1
    simp [worth]
  have hspare : (0 : ℤ) ≤ spare o (run o created is).socket := Nat.cast_nonneg _
  have hcalls : (0 : ℤ) ≤ connectCalls (run o created is).acts := Nat.cast_nonneg _
  have hconnected : 0 ≤ if (run o created is).socket.connected then quota o else 0 := by
    split_ifs
    · exact quota_pos o
    · exact le_rfl
  unfold Rises at hrun
  rw [hcreated] at hrun
  unfold potential worth quota at hrun
  unfold quota at hconnected
  generalize (is.map fun i => connectCalls i.acts).sum = calls at hrun ⊢
  zify
  linarith

/-- a socket that loses its connection once: each of two attempts fails, and so does the last one -/
def lostOnce : List Input :=
  [⟨.handshake (some .websocket), []⟩, ⟨.ready, []⟩, ⟨.socketOpen 0, []⟩, ⟨.data 0 (str "1::") 4, []⟩, ⟨.socketClose 0, []⟩,
    ⟨.retry none, []⟩, ⟨.handshakeFailed, []⟩, ⟨.retry none, []⟩, ⟨.handshakeFailed, []⟩, ⟨.retry (some .xhr), []⟩,
    ⟨.handshakeFailed, []⟩, ⟨.retry none, []⟩]

/-- the bound is reached -/
example : handshakes (run ⟨numbersOnly, true, true, 2, id⟩ created lostOnce).log = 1 + 0 + (2 + 1) * 1 := by decide +kernel

end SocketIOJava.Reconnecting
