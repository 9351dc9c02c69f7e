/-
What a polling client gets from a GET: `sendMessage` puts each frame's encoding into the buffer while no poll is
outstanding, and `handle` joins the messages into one text.

The joined encodings are not announced by U+FFFD length U+FFFD, so the decoder takes all that follows the first frame's
head for its data.

- `polled_frames_iff`: the text decodes to the frames that were sent exactly when they are none, or one of a known type.
- `two_frames_merge`: two messages come back as one.
-/
import SocketIOJava.FrameCodec
import SocketIOJava.Lifecycle

namespace SocketIOJava.PollingPayload

open Program SocketIOJava.Text SocketIOJava.Frame SocketIOJava.FrameCursor SocketIOJava.FrameCodec SocketIOJava.Session
  SocketIOJava.Buffer SocketIOJava.Run JettyContinuation

/-! ## Frames into the buffer -/

/-- an open polling session without an outstanding poll, and with nothing in its buffer -/
structure Idle (s : St Handler) : Prop where
  is_open : s.handler.is_open = true
  persistent : s.handler.persistent = false
  continuation : s.handler.continuation = none
  listener : s.handler.buffer.listener = none
  queue : s.handler.buffer.queue = []
  endpoint : SEPERATOR_CHAR ∉ s.handler.endpoint

/-- the encodings of some frames -/
def texts (s : St Handler) (fs : List SocketIOFrame) : List JString := fs.map fun f => f.encode s.handler.endpoint

/-- the state with some messages more in the buffer -/
def queued (s : St Handler) (messages : List JString) (log : List Entry) : St Handler :=
  { s with
    handler.buffer :=
      { s.handler.buffer with
        permits := s.handler.buffer.permits - TransportBuffer.size messages
        queue := s.handler.buffer.queue ++ messages }
    log := log }

theorem queued_queued (s : St Handler) (xs ys : List JString) (log log' : List Entry) :
    queued (queued s xs log) ys log' = queued s (xs ++ ys) log' := by
  simp only [queued, TransportBuffer.size_append, List.append_assoc, sub_sub]

/-- the sessions into whose buffer a frame goes -/
structure Buffers (s : St Handler) : Prop where
  is_open : s.handler.is_open = true
  continuation : s.handler.continuation = none
  listener : s.handler.buffer.listener = none

variable {cb : Callback Handler}

/-- a frame that fits goes to the end of the buffer -/
theorem sendMessage_queued {s : St Handler} (h : Buffers s) {f : SocketIOFrame}
    (hfits : ((f.encode s.handler.endpoint).length : ℤ) ≤ s.handler.buffer.permits) :
    sendMessage cb f s = (.ok (), queued s [f.encode s.handler.endpoint] (.frame f :: s.log)) := by
  have hput := TransportBuffer.putMessage_of_le h.listener hfits
  have hlater : sendLater cb (f.encode s.handler.endpoint) (s.push (.frame f)) = _ :=
    sendLater_ok (s := s.push (.frame f)) (congrArg Prod.fst hput)
  calc sendMessage cb f s = deliver cb f (s.push (.frame f)) := sendMessage_open h.is_open
    _ = sendLater cb (f.encode s.handler.endpoint) (s.push (.frame f)) := deliver_later h.continuation
    _ = _ := hlater
    _ = (.ok (), queued s [f.encode s.handler.endpoint] (.frame f :: s.log)) := by
      rw [show (s.push (.frame f)).handler.buffer = s.handler.buffer from rfl, hput]
      simp [setBuffer, queued, TransportBuffer.size, St.push]

/-- **Frames sent one after the other are in the buffer in this order.** -/
theorem sends_queued (cb : Callback Handler) {s : St Handler} (h : Buffers s) {fs : List SocketIOFrame}
    (hfits : TransportBuffer.size (texts s fs) ≤ s.handler.buffer.permits) :
    ∃ log, forEach fs (sendMessage cb) s = (.ok (), queued s (texts s fs) log) := by
  induction fs generalizing s with
  | nil => exact ⟨s.log, by simp [forEach, queued, texts, TransportBuffer.size]⟩
  | cons f fs ih =>
    let e := f.encode s.handler.endpoint
    let s₁ := queued s [e] (.frame f :: s.log)
    have hsize : (e.length : ℤ) + TransportBuffer.size (texts s fs) ≤ s.handler.buffer.permits := hfits
    have hrest := TransportBuffer.size_nonneg (texts s fs)
    have hle : (e.length : ℤ) ≤ s.handler.buffer.permits := by omega
    have hsend : sendMessage cb f s = (.ok (), s₁) := sendMessage_queued h hle
    have hpermits : s₁.handler.buffer.permits = s.handler.buffer.permits - e.length := by
      simp [s₁, queued, TransportBuffer.size]
    have hfits₁ : TransportBuffer.size (texts s₁ fs) ≤ s₁.handler.buffer.permits := by
      rw [hpermits, show texts s₁ fs = texts s fs from rfl]
      omega
    obtain ⟨log, hlog⟩ := ih (s := s₁) ⟨h.is_open, h.continuation, h.listener⟩ hfits₁
    refine ⟨log, (bind_of_ok hsend _).trans (hlog.trans ?_)⟩
    rw [queued_queued]
    rfl

/-! ## The GET -/

/-- the first text that was handed to `onWriteData` -/
def firstWritten (log : List Entry) : JString :=
  (log.reverse.findSome? fun e => match e with | .wrote data _ => some data | _ => none).getD []

/-- the text that a GET hands to `onWriteData`, empty if it hands none -/
def polled (n : ℕ) (s : St Handler) : JString := firstWritten (handleGet (app n) { s with log := [] }).2.log

theorem firstWritten_of_suffix {log : List Entry} {data : JString} {failed : Bool} (h : [.wrote data failed] <:+ log) :
    firstWritten log = data := by
  obtain ⟨added, rfl⟩ := h
  simp [firstWritten]

theorem write_log (s : St Handler) : ((write : M Handler Unit) s).2.log = s.log := by
  cases hio : s.nextWriteFails with
  | true => rw [write_fails hio]
  | false => rw [write_ok hio]

/-- a GET that finds nothing is parked -/
theorem park_log (s : St Handler) : (park s).2.log = .parked :: s.log := write_log _

/-- a GET that finds messages hands them over, whatever the application does after it -/
theorem answer_log {s : St Handler} (hio : s.nextWriteFails = false) (n : ℕ) :
    ∃ failed, .wrote s.handler.buffer.queue.flatten failed :: s.log <:+ (answer (app n) s).2.log := by
  let data := s.handler.buffer.queue.flatten
  let s₁ : St Handler := { setBuffer s.handler.buffer.drainMessages.2 s with io := s.io.tail }
  have hcore := (Lifecycle.core_app (fun _ c => JettyTraversal.Http.steps c) n).incoming
  have hrest : Along Lifecycle.Keeps (do write; answered (app n) : M Handler Unit) :=
    hcore.along_write.bind fun _ => (JettyTraversal.Http.host hcore.serving).along_answered
  refine ⟨s₁.nextWriteFails, ?_⟩
  have hstep : answer (app n) s = (do write; answered (app n) : M Handler Unit) (s₁.push (.wrote data s₁.nextWriteFails)) := by
    unfold answer
    rw [get_bind, modify_bind, bind_of_ok (write_ok (s := setBuffer s.handler.buffer.drainMessages.2 s) hio)]
    unfold onWriteData
    rw [Program.bind_assoc, modify_bind]
    rfl
  rw [hstep]
  exact (hrest (s₁.push (.wrote data s₁.nextWriteFails))).1

theorem handleGet_open (cb : Callback Handler) {s : St Handler} (hopen : s.handler.is_open = true)
    (hpersistent : s.handler.persistent = false) :
    handleGet cb s = (if !s.handler.buffer.isEmpty then answer cb else park) s := by
  have hgone : ¬ (!s.handler.is_open && s.handler.buffer.isEmpty) = true := by rw [hopen]; exact Bool.false_ne_true
  have hpolling : ¬ s.handler.persistent = true := by rw [hpersistent]; exact Bool.false_ne_true
  unfold handleGet
  rw [get_bind, if_neg hgone, if_neg hpolling]

/-- **A GET hands over the messages of the buffer, joined.** -/
theorem polled_eq {s : St Handler} (hopen : s.handler.is_open = true) (hpersistent : s.handler.persistent = false)
    (hio : s.nextWriteFails = false) (n : ℕ) : polled n s = s.handler.buffer.queue.flatten := by
  let s₀ : St Handler := { s with log := [] }
  have hget := handleGet_open (app n) (s := s₀) hopen hpersistent
  unfold polled
  cases hqueue : s.handler.buffer.queue with
  | nil =>
    have hempty : s₀.handler.buffer.isEmpty = true := by simp [s₀, TransportBuffer.isEmpty, hqueue]
    rw [hget, hempty]
    exact congrArg firstWritten (park_log s₀)
  | cons m ms =>
    have hfull : s₀.handler.buffer.isEmpty = false := by simp [s₀, TransportBuffer.isEmpty, hqueue]
    obtain ⟨failed, hlog⟩ := answer_log (s := s₀) hio n
    rw [hget, hfull, ← hqueue]
    exact firstWritten_of_suffix hlog

/-! ## The text of a poll -/

/-- the encodings of several frames, joined, are the encoding of one -/
theorem flatten_texts (s : St Handler) (f : SocketIOFrame) (fs : List SocketIOFrame) :
    (texts s (f :: fs)).flatten = Frame.encode f.frameType s.handler.endpoint (f.data ++ (texts s fs).flatten) := by
  simp [texts, SocketIOFrame.encode, Frame.encode]

/-- a text that begins with the encoding of an unknown type is not readable -/
theorem parse_unknown (endpoint data : JString) :
    ¬ ∃ frames, parse (Frame.encode .unknown endpoint data) = some (.ok frames) := by
  obtain ⟨cs, htext⟩ : ∃ cs, Frame.encode .unknown endpoint data = (0x66 : JChar) :: cs := ⟨_, rfl⟩
  have hchar : charAt ((0x66 : JChar) :: cs) 0 = .ok 0x66 := charAt_eq [] cs rfl rfl
  have hrest : Bounds ((0x66 : JChar) :: cs) 0 0 ((0x66 : JChar) :: cs).length := .rest _ hchar (by decide) rfl rfl
  -- the type is at the start of the text, and it is no decimal digit
  have hdigit : ∀ s m d, Bounds ((0x66 : JChar) :: cs) 0 s m → ¬ TypeDigit ((0x66 : JChar) :: cs) s d := by
    intro s m d hb ⟨c, hc, hd⟩
    rw [(bounds_unique hb hrest).1, hchar] at hc
    cases hc
    cases hd
  rw [htext, parse_returns_iff]
  intro hread
  cases hread with
  | done h => simp at h; omega
  | unknownType h =>
    obtain ⟨s, m, hb, hd⟩ := h
    exact hdigit s m 9 hb hd
  | packet h _ =>
    obtain ⟨s, d, hb, hd, -⟩ := h
    exact hdigit s _ d hb hd

/-- the decoder gives back the frames, with their types and their data -/
def Decodes (text : JString) (fs : List SocketIOFrame) : Prop :=
  ∃ frames, parse text = some (.ok frames) ∧
    List.Forall₂ (fun f g => SocketIOFrame.frameType g = SocketIOFrame.frameType f ∧ g.data = f.data) fs frames

theorem decodes_texts_iff {s : St Handler} (hep : SEPERATOR_CHAR ∉ s.handler.endpoint) (fs : List SocketIOFrame) :
    Decodes (texts s fs).flatten fs ↔ fs = [] ∨ ∃ f, fs = [f] ∧ f.frameType ≠ .unknown := by
  cases fs with
  | nil => exact iff_of_true ⟨[], rfl, .nil⟩ (.inl rfl)
  | cons f fs =>
    rw [flatten_texts]
    by_cases hf : f.frameType = .unknown
    · refine iff_of_false (fun h => ?_) ?_
      · obtain ⟨frames, hparse, -⟩ := h
        rw [hf] at hparse
        exact parse_unknown _ _ ⟨frames, hparse⟩
      · intro h
        rcases h with h | ⟨g, hg, hne⟩
        · cases h
        · cases hg
          exact hne hf
    · obtain ⟨g, hparse, htype, hdata, -⟩ := parse_encode hf hep (f.data ++ (texts s fs).flatten)
      constructor
      · rintro ⟨frames, hframes, hall⟩
        rw [hparse] at hframes
        cases hframes
        cases hall with
        | cons _ hrest =>
          cases hrest
          exact .inr ⟨f, rfl, hf⟩
      · intro h
        rcases h with h | ⟨f', hf', -⟩
        · cases h
        · cases hf'
          refine ⟨[g], hparse, .cons ⟨htype, ?_⟩ .nil⟩
          rw [hdata]
          exact List.append_nil _

/-- **When message boundaries survive polling.** Frames are sent to an open polling session with nothing in its buffer
and no poll outstanding, and they fit. All sends complete, and the text that the next GET hands to `onWriteData` decodes
to exactly these frames, in order, with their types and their data, exactly when they are none, or one of a known type. -/
theorem polled_frames_iff {n : ℕ} {s : St Handler} (h : Idle s) {fs : List SocketIOFrame}
    (hfits : TransportBuffer.size (texts s fs) ≤ s.handler.buffer.permits) (hio : s.nextWriteFails = false) :
    ∃ s', forEach fs (sendMessage (app n)) s = (.ok (), s') ∧
      (Decodes (polled n s') fs ↔ fs = [] ∨ ∃ f, fs = [f] ∧ f.frameType ≠ .unknown) := by
  obtain ⟨log, hsent⟩ := sends_queued (app n) ⟨h.is_open, h.continuation, h.listener⟩ hfits
  refine ⟨_, hsent, ?_⟩
  have hpolled : polled n (queued s (texts s fs) log) = (texts s fs).flatten := by
    have hqueue : (queued s (texts s fs) log).handler.buffer.queue = texts s fs := by
      rw [show (queued s (texts s fs) log).handler.buffer.queue = s.handler.buffer.queue ++ texts s fs from rfl, h.queue]
      rfl
    rw [polled_eq (s := queued s (texts s fs) log) h.is_open h.persistent hio, hqueue]
  rw [hpolled]
  exact decodes_texts_iff h.endpoint fs

/-- a polling session right after its connect request -/
def connectedSession : St Handler :=
  run serveHttp (created ⟨none, none, none, none⟩ false) [⟨.container .connect, [], []⟩]

theorem polled_frames_hello :
    ∃ s', forEach [.new .message 0 (str "a:b")] (sendMessage (app 0)) connectedSession = (.ok (), s') ∧
      Decodes (polled 0 s') [.new .message 0 (str "a:b")] := by
  have hidle : Idle connectedSession := ⟨by decide, by decide, by decide, rfl, by decide, by decide⟩
  obtain ⟨s', hsent, hiff⟩ :=
    @polled_frames_iff 0 connectedSession hidle [.new .message 0 (str "a:b")] (by decide) (by decide)
  exact ⟨s', hsent, hiff.2 (.inr ⟨_, rfl, by decide⟩)⟩

/-- **Two messages come back as one**: "hi" and "there", sent before a poll, arrive as the message "hi3:::there". -/
theorem two_frames_merge :
    let fs := [.new .message 0 (str "hi"), .new .message 0 (str "there")]
    let s := (forEach fs (sendMessage (app 0)) connectedSession).2
    parse (polled 0 s) = some (.ok [.new .message 0 (str "hi3:::there")]) ∧ ¬ Decodes (polled 0 s) fs := by
  intro fs s
  have hparse : parse (polled 0 s) = some (.ok [.new .message 0 (str "hi3:::there")]) := by decide
  refine ⟨hparse, ?_⟩
  rintro ⟨frames, hframes, hall⟩
  rw [hparse] at hframes
  cases hframes
  exact absurd hall.length_eq (by decide)

end SocketIOJava.PollingPayload
