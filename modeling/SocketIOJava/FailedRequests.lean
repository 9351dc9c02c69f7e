/-
What a request leaves behind that ends with an exception.

- `failed_poll_loses`: a GET takes the messages out of the buffer before the three writes of its answer. Whichever of them
  raises, the messages are gone and their permits are free.
- `failed_connect_iff`: a request that connects registers the session first. An exception in one of the steps after that
  leaves it registered. On an HTTP transport the exception is that of the last step, `onFinishSend`, and the session is
  gone, where the application ends it in `inbound.onConnect` (`Http.Ends`). On a WebSocket it is gone where the CONNECT
  frame cannot be written and the container's `Connection.disconnect()` reports the close before it returns.
-/
import SocketIOJava.Receiving

namespace SocketIOJava.FailedRequests

open Program SocketIOJava.Text SocketIOJava.Frame SocketIOJava.Session SocketIOJava.Buffer SocketIOJava.Run
open SocketIOJava.Traversal SocketIOJava.Receiving

/-! ## A poll -/

section

open JettyContinuation

variable {s : St Handler}

/-- one of the three writes of an answer raises: `onStartSend`, `onWriteData` or `onFinishSend` -/
def AnswerFails (s : St Handler) : Prop := true ∈ s.io.take 3

instance : DecidablePred AnswerFails := fun s => inferInstanceAs (Decidable (true ∈ s.io.take 3))

theorem nextWriteFails_cons {η : Type} {s : St η} {b : Bool} {io : List Bool} (h : s.io = b :: io) : s.nextWriteFails = b := by
  unfold St.nextWriteFails
  rw [h]
  rfl

/-- **The messages leave the buffer before the answer is written.** -/
theorem answer_fails (cb : Callback Handler) (h : AnswerFails s) :
    ∃ t, answer cb s = (.error (.thrown .ioException), t) ∧ t.handler.buffer = s.handler.buffer.clear := by
  let s₁ : St Handler := setBuffer s.handler.buffer.drainMessages.2 s
  let s₂ : St Handler := { s₁ with io := s.io.tail }
  let data := s.handler.buffer.queue.flatten
  have hanswer : answer cb s = (do write; onWriteData data; answered cb : M Handler Unit) s₁ := rfl
  unfold AnswerFails at h
  rcases hio : s.io with _ | ⟨first, io⟩
  · rw [hio] at h; cases h
  rw [hio] at h
  cases first with
  | true =>
    have hfirst : s₁.nextWriteFails = true := nextWriteFails_cons (s := s₁) hio
    exact ⟨_, hanswer.trans (bind_of_error (write_fails hfirst) _), rfl⟩
  | false =>
    have hfirst : s₁.nextWriteFails = false := nextWriteFails_cons (s := s₁) hio
    have hstarted : answer cb s = (do onWriteData data; answered cb : M Handler Unit) s₂ :=
      hanswer.trans (bind_of_ok (write_ok hfirst) _)
    rcases io with _ | ⟨second, io⟩
    · simp at h
    have hio₂ : s₂.io = second :: io := congrArg List.tail hio
    cases second with
    | true =>
      have hsecond : s₂.nextWriteFails = true := nextWriteFails_cons (s := s₂) hio₂
      have hwrite : onWriteData data s₂ = (.error (.thrown .ioException), written data s₂) :=
        write_fails (s := s₂.push (.wrote data s₂.nextWriteFails)) hsecond
      exact ⟨_, hstarted.trans (bind_of_error hwrite _), rfl⟩
    | false =>
      have hsecond : s₂.nextWriteFails = false := nextWriteFails_cons (s := s₂) hio₂
      have hwritten : answer cb s = answered cb (written data s₂) :=
        hstarted.trans (bind_of_ok (onWriteData_ok (s := s₂) hsecond data) _)
      rcases io with _ | ⟨third, io⟩
      · simp at h
      have hthird : (written data s₂).nextWriteFails = true := by
        have htrue : third = true := by simpa using h
        have hio₃ : (written data s₂).io = third :: io := congrArg List.tail hio₂
        rw [nextWriteFails_cons hio₃, htrue]
      exact ⟨_, hwritten.trans (bind_of_error (write_fails hthird) _), rfl⟩

theorem handleGet_answers (cb : Callback Handler) (hp : s.handler.persistent = false)
    (hbuffer : s.handler.buffer.isEmpty = false) : handleGet cb s = answer cb s := by
  unfold handleGet
  rw [get_bind, if_neg (by rw [hbuffer, Bool.and_false]; decide), if_neg (by rw [hp]; decide), if_pos (by rw [hbuffer]; rfl)]

/-- **A failed poll loses everything**: a GET that finds messages and whose answer fails leaves the buffer empty, so never
as it was before. -/
theorem failed_poll_loses (cb : Callback Handler) (hp : s.handler.persistent = false)
    (hbuffer : s.handler.buffer.isEmpty = false) (h : AnswerFails s) :
    (handleGet cb s).1 = .error (.thrown .ioException) ∧ (handleGet cb s).2.handler.buffer.queue = [] ∧
      ¬ ((handleGet cb s).2.handler.buffer.queue = s.handler.buffer.queue ∧
        (handleGet cb s).2.handler.buffer.getFreeBytes = s.handler.buffer.getFreeBytes) := by
  obtain ⟨t, ht, hcleared⟩ := answer_fails cb h
  rw [handleGet_answers cb hp hbuffer, ht]
  have hempty : t.handler.buffer.queue = [] := by
    rw [hcleared]
    rfl
  refine ⟨rfl, hempty, fun hkept => ?_⟩
  have hqueue : s.handler.buffer.queue = [] := hkept.1.symm.trans hempty
  unfold TransportBuffer.isEmpty at hbuffer
  rw [hqueue] at hbuffer
  cases hbuffer

/-- a connected polling session with one message in its buffer, at a GET whose `onWriteData` raises -/
def failingPoll : St Handler :=
  { run serveHttp (created ⟨none, none, none, none⟩ false)
      [⟨.container .connect, [], []⟩, ⟨.outbound (.sendMessage (str "hello")), [], []⟩] with io := [false, true] }

theorem failed_poll_loses_hello :
    (handleGet (app 1) failingPoll).1 = .error (.thrown .ioException) ∧
      (handleGet (app 1) failingPoll).2.handler.buffer.queue = [] ∧
      ¬ ((handleGet (app 1) failingPoll).2.handler.buffer.queue = failingPoll.handler.buffer.queue ∧
        (handleGet (app 1) failingPoll).2.handler.buffer.getFreeBytes = failingPoll.handler.buffer.getFreeBytes) :=
  failed_poll_loses (app 1) rfl rfl (by decide)

/-- before the GET the message is there, after it it is gone and its permits are free -/
theorem hello_is_lost :
    failingPoll.handler.buffer.queue = [str "3:::hello"] ∧ failingPoll.handler.buffer.getFreeBytes = 8183 ∧
      (handleGet (app 1) failingPoll).2.handler.buffer.queue = [] ∧
      (handleGet (app 1) failingPoll).2.handler.buffer.getFreeBytes = 8192 := by
  decide +kernel

end

/-! ## A request that connects -/

/-- the steps between `createSession` and `connect`, each with its outcome: the data handler and the handler are created
and initialised -/
abbrev Setup := List (Except JavaException Unit)

def prepare {η : Type} (setup : Setup) : M η Unit := forEach setup lift

section

variable {η : Type} [TransportHandler η]

/-- once the session is out of the registry, it stays out -/
def Gone {η : Type} (s s' : St η) : Prop := s.registered = false → s'.registered = false

instance {η : Type} : Std.Refl (Gone (η := η)) := ⟨fun _ => id⟩

instance {η : Type} : IsTrans (St η) Gone := ⟨fun _ _ _ h h' => h' ∘ h⟩

theorem gone_startHeartbeatTimer {η : Type} (s : St η) : Gone s (startHeartbeatTimer s) := by
  obtain ⟨e, t, heq⟩ := startHeartbeatTimer_eq s
  rw [heq]
  exact id

theorem onShutdown_registered (n : ℕ) (s : St η) : (Session.onShutdown (app n) s).2.registered = false := by
  rcases onShutdown_cases (app n) s with ⟨-, reason, -, heq⟩ | ⟨-, heq⟩
  · obtain ⟨t, ht⟩ := onDisconnect_app n reason s
    rw [heq, bind_of_ok ht]
    rfl
  · rw [heq]
    rfl

omit [TransportHandler η] in
/-- the steps of the setup that complete touch nothing -/
theorem prepare_cases (setup : Setup) (s : St η) :
    (∀ r ∈ setup, r = .ok ()) ∧ prepare setup s = (.ok (), s) ∨
      (¬ ∀ r ∈ setup, r = .ok ()) ∧ ∃ e, prepare setup s = (.error e, s) := by
  induction setup with
  | nil => exact .inl ⟨fun _ h => absurd h List.not_mem_nil, rfl⟩
  | cons r setup ih =>
    cases r with
    | error e => exact .inr ⟨fun h => absurd (h _ List.mem_cons_self) nofun, .thrown e, rfl⟩
    | ok u =>
      have hrest : prepare (.ok u :: setup) s = (prepare setup s : _ × St η) := rfl
      rw [hrest]
      rcases ih with ⟨hall, hok⟩ | ⟨hnot, hstop⟩
      · refine .inl ⟨fun x hx => ?_, hok⟩
        rcases List.mem_cons.1 hx with rfl | hx
        · rfl
        · exact hall x hx
      · exact .inr ⟨fun h => hnot fun x hx => h x (List.mem_cons_of_mem _ hx), hstop⟩

end

namespace Http

open JettyContinuation

/-- `createSession`, for a session and its handler that are still to be initialised -/
def createSession (config : SocketIOConfig) (persistent : Bool) (s : St Handler) : St Handler :=
  { created config persistent with acts := s.acts, io := s.io }

/-- the data handler's `onConnect`; the JSONP handler first splits the request's query string, which may be null -/
def dataHandlerOnConnect (jsonp : Bool) (query : Option JString) : M Handler Unit := do
  if jsonp && query.isNone then raise .nullPointer
  write

/-- `connect(request, response)` of the handler, up to its call of `onFinishSend` -/
def connectStart (onConnect : M Handler Unit) (cb : Callback Handler) : M Handler Unit := do
  modify getContinuation
  onConnect
  modify opened
  Session.onConnect cb true

/-- `AbstractHttpTransport.connect` -/
def connectRequest (config : SocketIOConfig) (persistent jsonp : Bool) (setup : Setup) (query : Option JString)
    (cb : Callback Handler) : M Handler Unit := do
  modify (createSession config persistent)
  prepare setup
  ending (do connectStart (dataHandlerOnConnect jsonp query) cb; finish) endDispatch

/-- Whether the application, with at most `n` acts, ends the session in `inbound.onConnect`: it throws or disconnects, or its
CLOSE frame finds a response that cannot be written to. A message is written while the session is `connected`; `io` says
which writes fail. -/
def Ends : ℕ → Bool → List Act → List Bool → Bool
  | 0, _, _, _ => false
  | _ + 1, _, [], _ => false
  | n + 1, connected, a :: acts, io =>
    match a with
    | .ret _ => false
    | .raise _ => true
    | .call .disconnect => true
    | .call .close => io.headD false || Ends n false acts io.tail
    | .call _ => if connected then Ends n true acts io.tail else Ends n false acts io

/-! ### What the application does in `onConnect` -/

variable {n : ℕ} {connected : Bool} {s t : St Handler}

/-- the session is in the registry, and its handler has an open response; `connected` until the application closes it -/
structure Held (connected : Bool) (s : St Handler) : Prop where
  registered : s.registered = true
  inbound : s.session.inbound = true
  attached : s.session.handler = true
  state : s.session.state = if connected then .connected else .closing
  isOpen : s.handler.is_open = true
  waiting : ∃ cont, s.handler.continuation = some cont ∧ cont.initial = true

/-- the session is held, with these acts and writes to come -/
structure Left (connected : Bool) (acts : List Act) (io : List Bool) (s : St Handler) : Prop where
  held : Held connected s
  acts : s.acts = acts
  io : s.io = io

theorem Held.push (h : Held connected s) (e : Entry) : Held connected (s.push e) :=
  ⟨h.registered, h.inbound, h.attached, h.state, h.isOpen, h.waiting⟩

/-- **A frame** is written to the response, or the write fails. -/
theorem Held.sendMessage (h : Held connected s) (cb : Callback Handler) (f : SocketIOFrame) :
    ∃ t, TransportHandler.sendMessage cb f s = (if s.nextWriteFails then .error (.thrown .socketIOException) else .ok (), t) ∧
      Left connected s.acts s.io.tail t := by
  obtain ⟨cont, hcont, hinitial⟩ := h.waiting
  let drained := setBuffer s.handler.buffer.drainMessages.2 (s.push (.frame f))
  have hsend : TransportHandler.sendMessage cb f s = sendNow cont (joined s f) drained :=
    (sendMessage_open h.isOpen).trans (deliver_now (s := s.push (.frame f)) hcont)
  have hwritten : Held connected (written (joined s f) drained) :=
    ⟨h.registered, h.inbound, h.attached, h.state, h.isOpen, cont, hcont, hinitial⟩
  rw [hsend]
  cases hw : s.nextWriteFails with
  | true => exact ⟨_, sendNow_fails (s := drained) hw cont _, hwritten, rfl, rfl⟩
  | false =>
    obtain ⟨e, task, heq⟩ := startHeartbeatTimer_eq (written (joined s f) drained)
    refine ⟨startHeartbeatTimer (written (joined s f) drained), ?_, ?_⟩
    · rw [sendNow_ok (s := drained) hw, hinitial, Bool.not_true, Bool.and_false]
      rfl
    · rw [heq]
      exact ⟨⟨h.registered, h.inbound, h.attached, h.state, h.isOpen, cont, hcont, hinitial⟩, rfl, rfl⟩

/-- **Disconnecting** takes the session out of the registry. -/
theorem Held.disconnect (h : Held connected s) : (Session.outbound (app n) .disconnect s).2.registered = false := by
  let called := s.push (.outbound .disconnect (TransportHandler.refuses s closeFrame))
  obtain ⟨t, ht⟩ := onDisconnect_app (η := Handler) n .disconnect called
  have hrun : Session.outbound (app n) .disconnect s = abort (app n) t := (derefHandler_bind h.attached _).trans (bind_of_ok ht _)
  rw [hrun]
  exact onShutdown_registered n (release t)

/-- **Closing** takes it out if the CLOSE frame cannot be written. -/
theorem Held.close (h : Held connected s) :
    if s.nextWriteFails then (Session.outbound (app n) .close s).2.registered = false
    else Left false s.acts s.io.tail (Session.outbound (app n) .close s).2 := by
  let called := initiateClose (s.push (.outbound .close (TransportHandler.refuses s closeFrame)))
  have hcalled : Held false called := ⟨h.registered, h.inbound, h.attached, rfl, h.isOpen, h.waiting⟩
  have hrun : Session.outbound (app n) .close s = sendOrAbort (app n) closeFrame called := derefHandler_bind h.attached _
  obtain ⟨t, hsend, hleft⟩ := hcalled.sendMessage (app n) closeFrame
  have hbody : (do derefHandler; TransportHandler.sendMessage (app n) closeFrame : M Handler Unit) called =
      (if s.nextWriteFails then .error (.thrown .socketIOException) else .ok (), t) :=
    (derefHandler_bind (s := called) h.attached _).trans hsend
  rw [hrun]
  unfold sendOrAbort
  cases hw : s.nextWriteFails with
  | true =>
    rw [hw, if_pos rfl] at hbody
    have hcaught : catching Abrupt.isSocketIOException (do derefHandler; TransportHandler.sendMessage (app n) closeFrame)
        (do derefHandler; TransportHandler.abort (app n)) called = abort (app n) t :=
      (catching_of_error hbody _ _).trans (derefHandler_bind hleft.held.attached _)
    rw [if_pos rfl, hcaught]
    exact onShutdown_registered n (release t)
  | false =>
    rw [hw, if_neg Bool.false_ne_true] at hbody
    rw [if_neg Bool.false_ne_true, catching_of_ok hbody]
    exact hleft

/-- a message takes a write, while the session is connected -/
theorem Held.sendTyped (h : Held connected s) (cb : Callback Handler) (messageType : ℤ) (message : JString) :
    Left connected s.acts (if connected then s.io.tail else s.io) (Session.sendTyped cb messageType message s).2 := by
  unfold Session.sendTyped
  rw [bind_of_ok (isOpen_eq s), get_bind]
  cases connected with
  | true =>
    have hready : s.handler.is_open = true ∧ s.session.state = .connected := ⟨h.isOpen, h.state⟩
    rw [if_pos hready]
    obtain ⟨t, hsend, hleft⟩ := h.sendMessage cb _
    rw [hsend]
    exact hleft
  | false =>
    have hclosing : s.session.state = .closing := h.state
    have hnot : ¬ (s.handler.is_open = true ∧ s.session.state = .connected) := fun hc => by
      rw [hclosing] at hc
      cases hc.2
    rw [if_neg hnot]
    exact ⟨h, rfl, rfl⟩

theorem Held.message (h : Held connected s) {c : OutboundCall} (hd : c ≠ .disconnect) (hc : c ≠ .close) :
    Left connected s.acts (if connected then s.io.tail else s.io) (Session.outbound (app n) c s).2 := by
  let called := s.push (.outbound c (TransportHandler.refuses s closeFrame))
  have hrun : Session.outbound (app n) c s = outboundMethod (app n) c called := derefHandler_bind h.attached _
  rw [hrun]
  cases c with
  | disconnect => exact absurd rfl hd
  | close => exact absurd rfl hc
  | sendMessage m => exact (h.push _).sendTyped _ _ _
  | sendTyped messageType m => exact (h.push _).sendTyped _ _ _
  | emitMessage key m => exact (h.push _).sendTyped _ _ _

theorem gone_calls (n : ℕ) : Calls Gone (app n : Callback Handler) := by
  induction n using Nat.strong_induction_on with
  | _ n ih =>
    have hcall : ∀ c, Along Gone (app n c : M Handler (List JString)) := fun c => along_app ih (fun _ => id) fun _ => id
    have hdisconnect : ∀ reason, Along Gone (Session.onDisconnect (app n) reason : M Handler Unit) := fun reason =>
      along_onDisconnect_of (fun _ => id) fun s _ => notify_related (hcall _) (fun _ => id) (fun _ => id) s
    exact JettyTraversal.Http.Wire.calls
      { acts := fun _ _ _ => id, io := fun _ => id, outbound := fun _ _ => id, startClose := fun _ => id
        onDisconnect := fun reason _ _ => hdisconnect reason, removed := fun _ _ _ => rfl, expired := hdisconnect .timeout
        update := fun _ _ _ _ => id, release := fun _ => id, startHeartbeat := gone_startHeartbeatTimer
        frame := fun _ _ _ => id, wrote := fun _ _ _ => id, completed := fun _ => id }

theorem gone_behave (n : ℕ) : Along Gone (behave n : M Handler (List JString)) := along_behave fun m _ => gone_calls m

/-- a message costs a write, while the session is connected -/
theorem ends_message {acts : List Act} {io : List Bool} {c : OutboundCall} (hd : c ≠ .disconnect) (hc : c ≠ .close) :
    Ends (n + 1) connected (.call c :: acts) io = Ends n connected acts (if connected then io.tail else io) := by
  cases c with
  | disconnect => exact absurd rfl hd
  | close => exact absurd rfl hc
  | _ => cases connected <;> rfl

/-- whatever a call does, the application goes on after it -/
theorem behave_call {c : OutboundCall} {acts : List Act} (hacts : s.acts = .call c :: acts) :
    behave (n + 1) s = behave n (Session.outbound (app n) c { s with acts := acts }).2 := by
  let taken : St Handler := { s with acts := acts }
  obtain ⟨u, t, ht⟩ := catching_all (Session.outbound (app n) c : M Handler Unit) () taken
  have hstate := catching_pure_snd (fun _ => true) (Session.outbound (app n) c : M Handler Unit) () taken
  rw [ht] at hstate
  have hcall : behave (n + 1) s = (do
      catching (fun _ => true) (Session.outbound (app n) c) (pure ())
      behave n : M Handler (List JString)) taken := by simp only [behave, get_bind, hacts, modify_bind]; rfl
  rw [hcall, bind_of_ok ht, ← hstate]

/-- what a callback comes to: it has ended the session or thrown, or it returns and the session is still there -/
def ComesTo (ends : Bool) (r : Except Abrupt (List JString) × St Handler) : Prop :=
  if ends then r.2.registered = false ∨ ∃ e, r.1 = .error (.thrown e)
  else (∃ names, r.1 = .ok names) ∧ r.2.registered = true

theorem ComesTo.registered {ends : Bool} {names : List JString} (h : ComesTo ends (.ok names, t)) : t.registered = !ends := by
  cases ends with
  | true =>
    rcases h with hgone | ⟨e, herror⟩
    · exact hgone
    · cases herror
  | false => exact h.2

theorem ComesTo.thrown {ends : Bool} {e : Abrupt} (h : ComesTo ends (.error e, t)) : ends = true := by
  cases ends with
  | true => rfl
  | false =>
    obtain ⟨⟨names, hok⟩, -⟩ := h
    cases hok

/-- **A call in the callback**: `n` acts can follow it. -/
theorem call_ends {c : OutboundCall} {acts : List Act} (h : Held connected s)
    (ih : ∀ {connected' : Bool} {t : St Handler}, Held connected' t → ComesTo (Ends n connected' t.acts t.io) (behave n t)) :
    ComesTo (Ends (n + 1) connected (.call c :: acts) s.io) (behave n (Session.outbound (app n) c { s with acts := acts }).2) := by
  let taken : St Handler := { s with acts := acts }
  have htaken : Held connected taken := ⟨h.registered, h.inbound, h.attached, h.state, h.isOpen, h.waiting⟩
  have hgone : (Session.outbound (app n) c taken).2.registered = false →
      (behave n (Session.outbound (app n) c taken).2).2.registered = false := gone_behave n _
  have hgoes {connected' : Bool} {io : List Bool} (hleft : Left connected' acts io (Session.outbound (app n) c taken).2) :
      ComesTo (Ends n connected' acts io) (behave n (Session.outbound (app n) c taken).2) := by
    rw [← hleft.acts, ← hleft.io]
    exact ih hleft.held
  by_cases hd : c = .disconnect
  · subst hd
    exact .inl (hgone htaken.disconnect)
  by_cases hc : c = .close
  · subst hc
    have hclose := htaken.close (n := n)
    cases hw : s.io.headD false with
    | true =>
      rw [if_pos (show taken.nextWriteFails = true from hw)] at hclose
      simp only [Ends, hw, Bool.true_or]
      exact .inl (hgone hclose)
    | false =>
      rw [if_neg (show ¬ taken.nextWriteFails = true from Bool.eq_false_iff.1 hw)] at hclose
      simp only [Ends, hw, Bool.false_or]
      exact hgoes hclose
  · rw [ends_message hd hc]
    exact hgoes (htaken.message hd hc)

/-- **What the application does in its callback**: it ends the session, throws, or leaves the session held. -/
theorem behave_ends (h : Held connected s) : ComesTo (Ends n connected s.acts s.io) (behave n s) := by
  induction n generalizing connected s with
  | zero => exact ⟨⟨[], rfl⟩, h.registered⟩
  | succ n ih =>
    cases hacts : s.acts with
    | nil =>
      have hrun : behave (n + 1) s = (.ok [], s) := by simp only [behave, get_bind, hacts]; rfl
      rw [hrun]
      exact ⟨⟨[], rfl⟩, h.registered⟩
    | cons a acts =>
      let taken : St Handler := { s with acts := acts }
      cases a with
      | ret names =>
        have hrun : behave (n + 1) s = (.ok names, taken) := by simp only [behave, get_bind, hacts, modify_bind]; rfl
        rw [hrun]
        exact ⟨⟨names, rfl⟩, h.registered⟩
      | raise e =>
        have hrun : behave (n + 1) s = (.error (.thrown e), taken) := by simp only [behave, get_bind, hacts, modify_bind]; rfl
        rw [hrun]
        exact .inr ⟨e, rfl⟩
      | call c =>
        rw [behave_call hacts]
        exact call_ends h ih

/-- **`session.onConnect(handler)`** completes, and leaves the session out of the registry if the application ends it. -/
theorem onConnect_registered (h : Held true s) {s₀ : St Handler} (hh : s₀.session.handler = false)
    (hi : s₀.session.inbound = true) (hs : s = setState .connected ((attach s₀).push (.opened s₀.session.state))) :
    ∃ t, Session.onConnect (app n) true s₀ = (.ok (), t) ∧ t.registered = !Ends n true s.acts s.io := by
  have hends := behave_ends (n := n) (h.push (.called .onConnect))
  rw [onConnect_first (app n) hh hi, ← hs]
  unfold announce
  rcases hb : behave n (s.push (.called .onConnect)) with ⟨r, t⟩
  rw [hb] at hends
  have hcall : (app n .onConnect : M Handler (List JString)) s = (r, t.push (.returned .onConnect)) := by
    change ((behave n (s.push (.called .onConnect))).1, (behave n (s.push (.called .onConnect))).2.push _) = _
    rw [hb]
  cases r with
  | ok names =>
    have hbody : (do let _ ← app n .onConnect : M Handler Unit) s = (.ok (), t.push (.returned .onConnect)) :=
      bind_of_ok hcall _
    exact ⟨_, catching_of_ok hbody _ _, hends.registered⟩
  | error e =>
    have hthrown : e.isThrowable = true := behave_error (n := n) (congrArg Prod.fst hb)
    have hbody : (do let _ ← app n .onConnect : M Handler Unit) s = (.error e, t.push (.returned .onConnect)) :=
      bind_of_error hcall _
    obtain ⟨u, t', ht'⟩ := onShutdown_returns n (release (setState .closed (t.push (.returned .onConnect))))
    have hgone := onShutdown_registered n (release (setState .closed (t.push (.returned .onConnect))))
    refine ⟨t', (catching_of_error hbody _ _).trans ((if_pos hthrown).trans ht'), ?_⟩
    rw [ht'] at hgone
    rw [show Ends n true s.acts s.io = true from hends.thrown]
    exact hgone

/-- every step up to `inbound.onConnect` completes, and there the application ends the session -/
structure EndedByApplication (n : ℕ) (jsonp : Bool) (setup : Setup) (query : Option JString) (acts : List Act)
    (io : List Bool) : Prop where
  setup : ∀ r ∈ setup, r = .ok ()
  query : jsonp = true → query ≠ none
  firstWrite : io.headD false = false
  ends : Ends n true acts io.tail = true

variable {config : SocketIOConfig} {persistent jsonp : Bool} {setup : Setup} {query : Option JString}

/-- the last step registers and removes nothing -/
theorem finish_registered (s : St Handler) : (finish s).2.registered = s.registered := by
  unfold finish
  rw [get_bind, modify_bind]
  let s₁ : St Handler := s.push (.finished s.nextWriteFails)
  cases hw : s₁.nextWriteFails with
  | true =>
    rw [bind_of_error (write_fails (s := s₁) hw)]
    rfl
  | false =>
    rw [bind_of_ok (write_ok (s := s₁) hw), get_bind]
    split_ifs <;> rfl

/-- **The handler's `connect`** for a session that was just created -/
theorem connect_registered :
    ((do connectStart (dataHandlerOnConnect jsonp query) (app n); finish : M Handler Unit)
        (createSession config persistent s)).2.registered = false ↔
      (jsonp = true → query ≠ none) ∧ s.io.headD false = false ∧ Ends n true s.acts s.io.tail = true := by
  let s₂ := getContinuation (createSession config persistent s)
  let rest : M Handler Unit := do modify opened; Session.onConnect (app n) true; finish
  have hrun : (do connectStart (dataHandlerOnConnect jsonp query) (app n); finish : M Handler Unit)
      (createSession config persistent s) = (do dataHandlerOnConnect jsonp query; rest : M Handler Unit) s₂ := by
    unfold connectStart
    simp only [Program.bind_assoc, modify_bind]
    rfl
  rw [hrun]
  by_cases hquery : (jsonp && query.isNone) = true
  · have hstop : dataHandlerOnConnect jsonp query s₂ = (.error (.thrown .nullPointer), s₂) := by
      unfold dataHandlerOnConnect
      rw [if_pos hquery]
      rfl
    rw [bind_of_error hstop]
    obtain ⟨hjsonp, hnone⟩ := Bool.and_eq_true_iff.1 hquery
    exact iff_of_false (Ne.symm Bool.false_ne_true) fun h => h.1 hjsonp (Option.isNone_iff_eq_none.1 hnone)
  have hgiven : jsonp = true → query ≠ none := fun hjsonp hnone => hquery (by rw [hjsonp, hnone]; rfl)
  have hdata : dataHandlerOnConnect jsonp query = write := by
    unfold dataHandlerOnConnect
    rw [if_neg hquery]
  rw [hdata]
  cases hw : s.io.headD false with
  | true =>
    rw [bind_of_error (write_fails (s := s₂) hw)]
    exact iff_of_false (Ne.symm Bool.false_ne_true) fun h => (Ne.symm Bool.false_ne_true) h.2.1
  | false =>
    let s₃ : St Handler := opened { s₂ with io := s.io.tail }
    let s₄ : St Handler := setState .connected ((attach s₃).push (.opened s₃.session.state))
    have hheld : Held true s₄ := ⟨rfl, rfl, rfl, rfl, rfl, _, rfl, rfl⟩
    obtain ⟨t, ht, hregistered⟩ := onConnect_registered (n := n) hheld rfl rfl
      (show s₄ = setState .connected ((attach s₃).push (.opened s₃.session.state)) from rfl)
    have hrest : (do write; rest : M Handler Unit) s₂ = finish t :=
      (bind_of_ok (write_ok (s := s₂) hw) _).trans (bind_of_ok ht _)
    rw [hrest, finish_registered, hregistered]
    change (!Ends n true s.acts s.io.tail) = false ↔ _
    rw [Bool.not_eq_eq_eq_not, Bool.not_false]
    exact ⟨fun h => ⟨hgiven, rfl, h⟩, fun h => h.2.2⟩

/-- **A connect request that fails** leaves no session exactly if the application has ended it. -/
theorem connect_fails {e : Abrupt} (h : connectRequest config persistent jsonp setup query (app n) s = (.error e, t)) :
    t.registered = false ↔ EndedByApplication n jsonp setup query s.acts s.io := by
  let s₁ := createSession config persistent s
  let connecting : M Handler Unit := do connectStart (dataHandlerOnConnect jsonp query) (app n); finish
  have hrequest : connectRequest config persistent jsonp setup query (app n) s =
      (do prepare setup; ending connecting endDispatch : M Handler Unit) s₁ := rfl
  rw [hrequest] at h
  rcases prepare_cases setup s₁ with ⟨hall, hok⟩ | ⟨hnot, e', hstop⟩
  · rw [bind_of_ok hok] at h
    have hend : t.registered = (connecting s₁).2.registered := (congrArg (fun r => r.2.registered) h).symm
    rw [hend, connect_registered]
    exact ⟨fun ⟨hquery, hwrite, hends⟩ => ⟨hall, hquery, hwrite, hends⟩, fun h => ⟨h.query, h.firstWrite, h.ends⟩⟩
  · rw [bind_of_error hstop] at h
    have ht : t = s₁ := (congrArg Prod.snd h).symm
    rw [ht]
    exact iff_of_false (Ne.symm Bool.false_ne_true) fun h => hnot h.setup

end Http

/-- with the application, `session.onConnect(handler)` completes if `abort` does -/
theorem onConnect_returns {η : Type} [TransportHandler η] (n : ℕ)
    (habort : ∀ s : St η, Returns (TransportHandler.abort (app n)) s) (s : St η) : Returns (Session.onConnect (app n) true) s := by
  unfold Returns
  cases hh : s.session.handler with
  | true =>
    rw [onConnect_again (app n) hh]
    exact habort s
  | false =>
    cases hi : s.session.inbound with
    | false =>
      rw [onConnect_dropped (app n) hh hi]
      exact habort _
    | true =>
      rw [onConnect_first (app n) hh hi]
      refine Fails.returns (Fails.catching ?_ fun e t _ _ => ?_)
      · refine Fails.mono ((fails_app (n := n) .onConnect _).bind fun _ _ _ => fails_pure ()) fun e hthrown hno => ?_
        exact absurd hthrown (Bool.eq_false_iff.1 hno)
      · obtain ⟨v, t', ht'⟩ := habort (setState .closed t)
        exact Returns.fails ⟨v, t', ht'⟩

namespace Socket

open JettyWebSocket

variable {reports : Bool}

/-- `createSession`, for a session and its handler that are still to be initialised -/
def createSession (config : SocketIOConfig) (s : St (HandlerIn reports)) : St (HandlerIn reports) :=
  { createdIn reports config with acts := s.acts, io := s.io }

/-- `JettyWebSocketTransport.handle` for a new session; `upgraded` is the outcome of `wsFactory.upgrade` -/
def connectRequest (config : SocketIOConfig) (setup : Setup) (upgraded : Except JavaException Unit)
    (cb : Callback (HandlerIn reports)) : M (HandlerIn reports) Unit := do
  modify (createSession config)
  prepare setup
  lift upgraded
  JettyWebSocket.connect cb

variable {config : SocketIOConfig} {setup : Setup} {upgraded : Except JavaException Unit} {n : ℕ}
  {s t : St (HandlerIn reports)}

/-- `outbound.disconnect()` completes, whether it reports the close or not -/
theorem disconnectOutbound_returns {c : Connection} (hc : s.handler.outbound = some c) :
    ∃ t, disconnectOutbound (app n) s = (.ok (), t) ∧
      ((reports && c.isOpen) = true → t.registered = false) ∧ (reports = false → t.registered = s.registered) := by
  have hrun : disconnectOutbound (app n) s = whenever (reports && c.isOpen) (onShutdown (app n)) (setOutbound (some ⟨false⟩) s) := by
    unfold disconnectOutbound
    rw [get_bind, hc]
    rfl
  rw [hrun]
  by_cases hreported : (reports && c.isOpen) = true
  · obtain ⟨u, t, ht⟩ := onShutdown_returns n (setOutbound (some ⟨false⟩) s)
    have hgone := onShutdown_registered n (setOutbound (some ⟨false⟩) s)
    rw [ht] at hgone
    refine ⟨t, (congrFun (if_pos hreported) _).trans ht, fun _ => hgone, fun hr => ?_⟩
    rw [hr, Bool.false_and] at hreported
    exact absurd hreported Bool.false_ne_true
  · exact ⟨_, congrFun (if_neg hreported) _, fun h => absurd h hreported, fun _ => rfl⟩

theorem abort_returns (n : ℕ) (s : St (HandlerIn reports)) : Returns (TransportHandler.abort (app n)) s := by
  have hrun : TransportHandler.abort (app n) s = (do
      whenever s.handler.outbound.isSome (disconnectOutbound (app n))
      modify (setOutbound none)
      onShutdown (app n) : M (HandlerIn reports) Unit) s := rfl
  unfold Returns
  rw [hrun]
  cases hc : s.handler.outbound with
  | none => exact onShutdown_returns n (setOutbound none s)
  | some c =>
    obtain ⟨t, ht, -⟩ := disconnectOutbound_returns (n := n) hc
    have hfirst : whenever ((some c).isSome = true) (disconnectOutbound (app n)) s = (.ok (), t) := ht
    rw [bind_of_ok hfirst]
    exact onShutdown_returns n (setOutbound none t)

/-- the CONNECT frame cannot be written, and the container reports the close of the connection from inside -/
structure ReportedFailure (reports : Bool) (setup : Setup) (upgraded : Except JavaException Unit) (io : List Bool) : Prop where
  setup : ∀ r ∈ setup, r = .ok ()
  upgraded : upgraded = .ok ()
  write : io.headD false = true
  reports : reports = true

/-- **The upgrade** of a session that was just created: its CONNECT frame is written, or the connection is closed. -/
theorem upgrade_cases (s : St (HandlerIn reports)) :
    s.io.headD false = false ∧ (∃ t, upgrade (app n) s = (.ok (), t)) ∨
      s.io.headD false = true ∧ ∃ e t, upgrade (app n) s = (.error e, t) ∧ (reports = true → t.registered = false) ∧
        (reports = false → t.registered = s.registered) := by
  let f : SocketIOFrame := .new .connect TEXT_MESSAGE_TYPE []
  let opened : St (HandlerIn reports) := (setOutbound (some ⟨true⟩) s).push (.frame f)
  have hsend : upgrade (app n) s = deliver (app n) f opened :=
    sendMessage_some (f := f) (s := setOutbound (some ⟨true⟩) s) rfl
  rw [hsend]
  cases hw : s.io.headD false with
  | false => exact .inl ⟨rfl, _, deliver_ok (app n) (s := opened) hw f⟩
  | true =>
    let broken : St (HandlerIn reports) := written (f.encode opened.handler.endpoint) opened
    obtain ⟨t, ht, hreported, hsilent⟩ := disconnectOutbound_returns (n := n) (s := broken) (c := ⟨true⟩) rfl
    have hwrite : sendText (f.encode opened.handler.endpoint) opened = (.error (.thrown .ioException), broken) :=
      write_fails (s := opened.push (.wrote (f.encode opened.handler.endpoint) opened.nextWriteFails)) hw
    have hcaught := catching_of_error hwrite Abrupt.isIOException (do disconnectOutbound (app n); raise .socketIOException)
    refine .inr ⟨rfl, .thrown .socketIOException, t, ?_, fun hr => hreported (by rw [hr]; rfl), hsilent⟩
    unfold deliver
    rw [get_bind]
    exact hcaught.trans (bind_of_ok ht _)

/-- **A WebSocket request that fails** leaves its session, unless the close of the connection was reported. -/
theorem connect_fails {e : Abrupt} (h : connectRequest config setup upgraded (app n) s = (.error e, t)) :
    t.registered = false ↔ ReportedFailure reports setup upgraded s.io := by
  let s₁ : St (HandlerIn reports) := createSession config s
  have hrequest : connectRequest config setup upgraded (app n) s =
      (do prepare setup; lift upgraded; JettyWebSocket.connect (app n) : M (HandlerIn reports) Unit) s₁ := rfl
  rw [hrequest] at h
  rcases prepare_cases setup s₁ with ⟨hall, hok⟩ | ⟨hnot, e', hstop⟩
  · rw [bind_of_ok hok] at h
    cases hu : upgraded with
    | error e' =>
      rw [hu, bind_of_error (show (lift (.error e') : M (HandlerIn reports) Unit) s₁ = (.error (.thrown e'), s₁) from rfl)] at h
      have ht : t = s₁ := (congrArg Prod.snd h).symm
      rw [ht]
      exact iff_of_false (Ne.symm Bool.false_ne_true) fun h => nomatch h.upgraded
    | ok u =>
      rw [hu, bind_of_ok (show (lift (.ok u) : M (HandlerIn reports) Unit) s₁ = (.ok u, s₁) from rfl)] at h
      rcases upgrade_cases (n := n) s₁ with ⟨-, t', ht'⟩ | ⟨hw, e', t', ht', hreported, hsilent⟩
      · exact absurd (onConnect_returns n (abort_returns n) t') (not_returns_of_error ((bind_of_ok ht' _).symm.trans h))
      · have ht : t = t' := (congrArg Prod.snd ((bind_of_error ht' _).symm.trans h)).symm
        rw [ht]
        by_cases hr : reports = true
        · exact iff_of_true (hreported hr) ⟨hall, rfl, hw, hr⟩
        · have hstays : t'.registered = true := hsilent (Bool.eq_false_iff.2 hr)
          rw [hstays]
          exact iff_of_false (Ne.symm Bool.false_ne_true) fun h => hr h.reports
  · rw [bind_of_error hstop] at h
    have ht : t = s₁ := (congrArg Prod.snd h).symm
    rw [ht]
    exact iff_of_false (Ne.symm Bool.false_ne_true) fun h => hnot h.setup

end Socket

/-- **Failed connects.** A request on an HTTP transport that ends with an exception leaves no session exactly if all steps
up to `inbound.onConnect` complete and the application ends the session there. One on a WebSocket leaves none exactly if the
CONNECT frame cannot be written and the container reports the close of the connection from inside `disconnect`. -/
theorem failed_connect_iff (n : ℕ) (setup : Setup) :
    (∀ config persistent jsonp query s e t,
      Http.connectRequest config persistent jsonp setup query (app n) s = (.error e, t) →
      (t.registered = false ↔ Http.EndedByApplication n jsonp setup query s.acts s.io)) ∧
    ∀ (reports : Bool) config upgraded (s : St (JettyWebSocket.HandlerIn reports)) e t,
      Socket.connectRequest config setup upgraded (app n) s = (.error e, t) →
      (t.registered = false ↔ Socket.ReportedFailure reports setup upgraded s.io) :=
  ⟨fun _ _ _ _ _ _ _ => Http.connect_fails, fun _ _ _ _ _ _ => Socket.connect_fails⟩

/-- before a JSONP request with a session id that is not registered -/
def unregistered : St JettyContinuation.Handler :=
  { JettyContinuation.created ⟨none, none, none, none⟩ false with registered := false }

/-- a JSONP request without a query string raises in the data handler's `onConnect`, and the session stays -/
theorem jsonp_without_query :
    unregistered.registered = false ∧
    (Http.connectRequest ⟨none, none, none, none⟩ false true [.ok (), .ok (), .ok (), .ok ()] none (app 1) unregistered).1 =
        .error (.thrown .nullPointer) ∧
      (Http.connectRequest ⟨none, none, none, none⟩ false true [.ok (), .ok (), .ok (), .ok ()] none (app 1)
        unregistered).2.registered = true := ⟨rfl, rfl, rfl⟩

/-- an application that throws in `inbound.onConnect`, and an `onFinishSend` that raises -/
def doubleFault : St JettyContinuation.Handler := { unregistered with acts := [.raise .application], io := [false, true] }

/-- there the session is gone -/
theorem failed_connect_after_abort :
    (Http.connectRequest ⟨none, none, none, none⟩ false false [.ok ()] none (app 2) doubleFault).2.registered = false := by
  refine ((failed_connect_iff 2 [.ok ()]).1 ⟨none, none, none, none⟩ false false none doubleFault
    (.thrown .ioException) _ rfl).2 ⟨?_, nofun, rfl, rfl⟩
  intro r hr
  rw [List.mem_singleton.1 hr]

end SocketIOJava.FailedRequests
