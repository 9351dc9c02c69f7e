/-
What a session hands over with the responses of `xhr-polling`, and what the client reads there.

The response of the connect request begins with the greeting, and takes what the application sends in `onConnect`. Later a
response takes all that waits in the buffer, as one text with nothing between the frames. The data handler prints the texts,
and announces their bytes as UTF-8; what `responseText` makes of bytes is the browser's.

- `grouped_connected`, `grouped_step`: what was written are groups of frames, and those that wait come after them; no frame
  is in two groups, and none is before one that was sent earlier. Frames may be missing: a failing write or a full buffer
  loses them.
- `responseText_response`: texts in ASCII are read as they were printed.
- `polled_packets`: a client that is handed these responses receives one packet from each: that of its first frame, with the
  texts of the others at the end of its data.
-/
import SocketIOJava.PostData
import SocketIOJava.StreamDelivery

namespace SocketIOJava.PolledPackets

open Program SocketIOJava.Text SocketIOJava.Frame SocketIOJava.Session SocketIOJava.Buffer SocketIOJava.Run
  SocketIOJava.Traversal SocketIOJava.JettyTraversal SocketIOJava.JettyTraversal.Http SocketIOJava.WireDelivery
  JettyContinuation
open SocketIOJava.PollingDelivery (endpointOf)
open SocketIOJava.StreamDelivery (Later kept_ending kept_terminate kept_closeCheck kept_connect kept_later)

/-! ## Groups of frames -/

/-- a frame, with the namespace at the time -/
abbrev Sent := SocketIOFrame × JString

def encoded (x : Sent) : JString := x.1.encode x.2

/-- the text of some frames that are handed over together -/
def together (xs : List Sent) : JString := xs.flatMap encoded

/-- frames that are handed over together: the first one and the others -/
abbrev Group := Sent × List Sent

def Group.frames (g : Group) : List Sent := g.1 :: g.2

/-- the first frame, with the texts of the others at the end of its data -/
def Group.glued (g : Group) : Sent := ({ g.1.1 with data := g.1.1.data ++ together g.2 }, g.1.2)

/-- the text of a group is that of one frame -/
theorem encoded_glued (g : Group) : encoded g.glued = together g.frames := by
  simp only [encoded, Group.glued, together, Group.frames, SocketIOFrame.encode, Frame.encode, List.flatMap_cons,
    List.append_assoc]
  rfl

/-- What was written are groups of frames, and those that wait in the buffer come after them, all in the order in which they
were sent. -/
structure Grouped (s : St Handler) : Prop extends Placed JettyContinuationTransportHandler.endpoint s where
  groups : ∃ (groups : List Group) (waiting : List Sent), writes s.log = groups.map (together ·.frames) ∧
    s.handler.buffer.queue = waiting.map encoded ∧ (groups.flatMap Group.frames ++ waiting).Sublist (told s.log)

variable {s s' : St Handler}

/-- an update that writes nothing; the messages that wait may be lost -/
theorem Grouped.mono (h : Grouped s) (hendpoint : s'.handler.endpoint = s.handler.endpoint)
    (hattached : s'.session.handler = s.session.handler) (hviews : views s'.log = views s.log)
    (htold : (told s.log).Sublist (told s'.log))
    (hqueue : s'.handler.buffer.queue = s.handler.buffer.queue ∨ s'.handler.buffer.queue = []) : Grouped s' := by
  obtain ⟨-, -, hwritten, -⟩ := by simpa only [views, Prod.mk.injEq] using hviews
  obtain ⟨groups, waiting, hwrites, hwaiting, horder⟩ := h.groups
  refine ⟨h.toPlaced.congr hendpoint hattached hviews, ?_⟩
  rw [hwritten]
  rcases hqueue with hkept | hlost
  · exact ⟨groups, waiting, hwrites, hkept.trans hwaiting, horder.trans htold⟩
  · refine ⟨groups, [], hwrites, hlost, ?_⟩
    rw [List.append_nil]
    exact (List.sublist_append_left _ _).trans (horder.trans htold)

theorem grouped_of (hendpoint : s'.handler.endpoint = s.handler.endpoint) (hattached : s'.session.handler = s.session.handler)
    (hviews : views s'.log = views s.log) (htold : told s'.log = told s.log)
    (hqueue : s'.handler.buffer.queue = s.handler.buffer.queue) : Preserves Grouped s s' := fun h =>
  h.mono hendpoint hattached hviews (htold ▸ List.Sublist.refl _) (.inl hqueue)

/-- a frame goes to the end of the messages that wait -/
theorem Grouped.queued (h : Grouped s) {f : SocketIOFrame} (hendpoint : s'.handler.endpoint = s.handler.endpoint)
    (hattached : s'.session.handler = s.session.handler) (hlog : s'.log = .frame f :: s.log)
    (hqueue : s'.handler.buffer.queue = s.handler.buffer.queue ++ [f.encode s.handler.endpoint]) : Grouped s' := by
  obtain ⟨groups, waiting, hwrites, hwaiting, horder⟩ := h.groups
  refine ⟨h.toPlaced.congr hendpoint hattached (hlog ▸ rfl), groups, waiting ++ [(f, endpointOf s.log)], ?_, ?_, ?_⟩
  · rw [hlog]; exact hwrites
  · rw [hqueue, hwaiting, List.map_append, h.endpoint]
    rfl
  · rw [hlog, ← List.append_assoc]
    exact horder.append (List.Sublist.refl _)

/-- the messages that wait are written as one text -/
theorem Grouped.handed (h : Grouped s) (hne : s.handler.buffer.queue ≠ [])
    (hendpoint : s'.handler.endpoint = s.handler.endpoint) (hattached : s'.session.handler = s.session.handler)
    (hlog : s'.log = .wrote s.handler.buffer.queue.flatten false :: s.log) (hqueue : s'.handler.buffer.queue = []) :
    Grouped s' := by
  obtain ⟨groups, waiting, hwrites, hwaiting, horder⟩ := h.groups
  have hplaced : Placed JettyContinuationTransportHandler.endpoint s' := by
    refine ⟨?_, ?_⟩
    · rw [hattached, hlog]; exact h.attached
    · rw [hendpoint, hlog]; exact h.endpoint
  cases waiting with
  | nil => exact absurd hwaiting hne
  | cons x xs =>
    refine ⟨hplaced, groups ++ [(x, xs)], [], ?_, hqueue, ?_⟩
    · rw [hlog, List.map_append, ← hwrites]
      change writes s.log ++ [s.handler.buffer.queue.flatten] = writes s.log ++ [together (x :: xs)]
      rw [hwaiting, ← List.flatMap_def]
      rfl
    · rw [hlog, List.append_nil, List.flatMap_append, List.flatMap_singleton]
      exact horder

/-! ## The session -/

/-- a message into the buffer, which a listener may empty -/
theorem putMessage_queue (b : TransportBuffer) (m : JString) :
    (b.putMessage m).2.queue = b.queue ∨ (b.putMessage m).2.queue = [] ∨
      (b.putMessage m).1 = true ∧ (b.putMessage m).2.queue = b.queue ++ [m] := by
  unfold TransportBuffer.putMessage
  cases b.listener with
  | some listener =>
    by_cases hq : b.queue.length = 0
    · simp only [if_pos hq, true_or]
    · simp only [if_neg hq, true_or, or_true]
  | none =>
    unfold TransportBuffer.tryAcquire
    by_cases hp : (m.length : ℤ) ≤ b.permits
    · simp only [if_pos hp, true_and, or_true]
    · simp only [if_neg hp, true_or]

/-- a message for an open response is written after those that wait, or is lost with them -/
theorem grouped_sendNow (c : Continuation) (f : SocketIOFrame) {s : St Handler} (h : Grouped s) :
    let told₁ : St Handler := s.push (.frame f)
    Grouped (sendNow c (joined told₁ f) (setBuffer s.handler.buffer.drainMessages.2 told₁)).2 := by
  intro told₁
  let s₁ : St Handler := setBuffer s.handler.buffer.drainMessages.2 told₁
  change Grouped (sendNow c (joined told₁ f) s₁).2
  cases hfails : s.nextWriteFails with
  | true =>
    rw [sendNow_fails (s := s₁) hfails]
    refine h.mono rfl rfl ?_ (List.sublist_append_left _ _) (.inr rfl)
    change views (.wrote _ s.nextWriteFails :: .frame f :: s.log) = views s.log
    rw [hfails]
    rfl
  | false =>
    have hwrote : Grouped (written (joined told₁ f) s₁) := by
      -- as if it had been put into the buffer first
      let queued : St Handler :=
        { told₁ with handler.buffer.queue := s.handler.buffer.queue ++ [f.encode s.handler.endpoint] }
      have hqueued : Grouped queued := h.queued rfl rfl rfl rfl
      refine hqueued.handed (by simp [queued]) rfl rfl ?_ rfl
      rw [← hfails]
      rfl
    rw [sendNow_ok (s := s₁) hfails]
    split_ifs
    · have hcompleted : Grouped (setContinuation none ((written (joined told₁ f) s₁).push .completed)) :=
        grouped_of (s := written (joined told₁ f) s₁) rfl rfl rfl rfl rfl hwrote
      unfold complete
      split_ifs <;> exact hcompleted
    · refine startHeartbeatTimer_kept (fun hhandler hattached hviews htold => ?_) hwrote
      exact grouped_of (by rw [hhandler]) hattached hviews htold (by rw [hhandler])

/-- without a response it is put into the buffer, or is lost -/
theorem grouped_put (f : SocketIOFrame) {s : St Handler} (h : Grouped s) :
    Grouped (setBuffer (s.handler.buffer.putMessage (f.encode s.handler.endpoint)).2 (s.push (.frame f))) := by
  have hlost : (told s.log).Sublist (told (s.push (.frame f)).log) := List.sublist_append_left _ _
  rcases putMessage_queue s.handler.buffer (f.encode s.handler.endpoint) with hkept | hlistener | ⟨-, hqueued⟩
  · exact h.mono rfl rfl rfl hlost (.inl hkept)
  · exact h.mono rfl rfl rfl hlost (.inr hlistener)
  · exact h.queued rfl rfl rfl hqueued

/-- **One message**: it is written after those that wait, or it waits itself, or it is lost. -/
theorem grouped_sendMessage (cb : Callback Handler) (f : SocketIOFrame)
    (hdisconnect : Along (Preserves Grouped) (Session.onDisconnect cb .timeout)) (habort : Along (Preserves Grouped) (abort cb)) :
    Along (Preserves Grouped) (sendMessage cb f) := by
  intro s h
  cases hopen : s.handler.is_open with
  | false =>
    rw [sendMessage_closed hopen]
    exact h.mono rfl rfl rfl (List.sublist_append_left _ _) (.inl rfl)
  | true =>
    rw [sendMessage_open hopen]
    cases hc : s.handler.continuation with
    | some c =>
      rw [deliver_now (s := s.push (.frame f)) hc]
      exact grouped_sendNow c f h
    | none =>
      rw [deliver_later (s := s.push (.frame f)) hc]
      have hrest : Along (Preserves Grouped) (do
          if !(s.handler.buffer.putMessage (f.encode s.handler.endpoint)).1 then
            Session.onDisconnect cb .timeout
            abort cb
            raise .socketIOException : M Handler Unit) :=
        .ite (fun _ => hdisconnect.bind fun _ => habort.bind fun _ => along_stop _) fun _ => along_pure _
      exact hrest _ (grouped_put f h)

theorem keeps : Keeps Grouped where
  same hhandler hattached hviews htold := grouped_of (by rw [hhandler]) hattached hviews htold (by rw [hhandler])
  attached h := h.attached
  joined hf hh := ⟨_, rfl, fun h => ⟨h.toPlaced.joined hf hh rfl, h.groups⟩⟩
  sendMessage := grouped_sendMessage
  abort cb hshutdown := by
    refine Along.bind (along_modify fun s h => ?_) fun _ => hshutdown
    exact h.mono rfl rfl rfl (List.Sublist.refl _) (.inr rfl)
  disconnect cb hdisconnect habort := hdisconnect.bind fun _ => habort
  disconnectWhenEmpty := along_modify fun s => grouped_of rfl rfl rfl rfl rfl
  isOpen := along_get.bind fun _ => along_pure _

/-! ### Requests and callbacks -/

theorem grouped_write : Along (Preserves Grouped) (write : M Handler Unit) :=
  along_write_of fun _ => grouped_of rfl rfl rfl rfl rfl

theorem along_answered (n : ℕ) : Along (Preserves Grouped) (answered (app n)) := by
  refine grouped_write.bind fun _ => along_get.bind fun s => ?_
  refine Along.ite (fun _ => along_modify fun s => ?_) fun _ => (keeps.calls n).abort
  exact IsTrans.trans s (s.push .answered) _ (grouped_of rfl rfl rfl rfl rfl) (keeps.startTimeoutTimer _)

/-- **A GET that finds messages** takes them all, or loses them. -/
theorem grouped_answer (n : ℕ) (hbuffer : s.handler.buffer.isEmpty = false) : Preserves Grouped s (answer (app n) s).2 := by
  intro h
  have hne : s.handler.buffer.queue ≠ [] := fun hnil => by
    rw [TransportBuffer.isEmpty, hnil] at hbuffer
    cases hbuffer
  let s₁ : St Handler := setBuffer s.handler.buffer.drainMessages.2 s
  have hdrained : Grouped s₁ := h.mono rfl rfl rfl (List.Sublist.refl _) (.inr rfl)
  unfold answer
  rw [get_bind, modify_bind]
  cases hstart : s₁.nextWriteFails with
  | true =>
    rw [bind_of_error (write_fails hstart)]
    exact grouped_of (s := s₁) rfl rfl rfl rfl rfl hdrained
  | false =>
    let s₂ : St Handler := { s₁ with io := s₁.io.tail }
    rw [bind_of_ok (write_ok hstart)]
    cases hfails : s₂.nextWriteFails with
    | true =>
      have hwritten : onWriteData s.handler.buffer.drainMessages.1.flatten s₂ =
          (.error (.thrown .ioException), written s.handler.buffer.drainMessages.1.flatten s₂) :=
        write_fails (s := s₂.push (.wrote _ s₂.nextWriteFails)) hfails
      change Grouped ((onWriteData s.handler.buffer.drainMessages.1.flatten >>= fun _ => answered (app n)) s₂).2
      rw [bind_of_error hwritten]
      refine grouped_of (s := s₁) rfl rfl ?_ rfl rfl hdrained
      change views (.wrote _ s₂.nextWriteFails :: s.log) = views s.log
      rw [hfails]
      rfl
    | false =>
      change Grouped ((onWriteData s.handler.buffer.drainMessages.1.flatten >>= fun _ => answered (app n)) s₂).2
      rw [bind_of_ok (onWriteData_ok hfails _)]
      refine along_answered n _ (h.handed hne rfl rfl ?_ rfl)
      rw [← hfails]
      rfl

theorem grouped_park : Along (Preserves Grouped) (park : M Handler Unit) := by
  refine Along.bind (along_modify fun s => ?_) fun _ => grouped_write
  exact grouped_of rfl rfl rfl rfl rfl

theorem along_onComplete (n cont : ℕ) : Along (Preserves Grouped) (onComplete (app n) cont) := by
  intro s h
  have hdropped : Grouped (setContinuation none s) := grouped_of (s := s) rfl rfl rfl rfl rfl h
  rcases onComplete_cases (app n) cont s with ⟨-, heq⟩ | ⟨-, ⟨-, heq⟩ | ⟨-, ⟨-, heq⟩ | ⟨-, ⟨-, heq⟩ | ⟨-, heq⟩⟩⟩⟩
  · rwa [heq]
  · rw [heq]; exact kept_ending keeps n .disconnect _ (grouped_of (s := s) rfl rfl rfl rfl rfl h)
  · rw [heq]; exact (keeps.calls n).abort _ hdropped
  · rw [heq]; exact kept_terminate keeps n .disconnect _ hdropped
  · rw [heq]; exact keeps.startTimeoutTimer _ (grouped_of (s := s) rfl rfl rfl rfl rfl h)

theorem along_onTimeoutContinuation (n cont : ℕ) : Along (Preserves Grouped) (onTimeoutContinuation (app n) cont) := by
  intro s h
  rcases onTimeoutContinuation_cases (app n) cont s with ⟨-, heq⟩ | ⟨-, ⟨-, heq⟩ | ⟨-, heq⟩⟩
  · rwa [heq]
  · rw [heq]; exact kept_terminate keeps n .timeout _ (grouped_of (s := s) rfl rfl rfl rfl rfl h)
  · have hexpire : Along (Preserves Grouped) (do expirePoll (app n); modify startTimeoutTimer : M Handler Unit) :=
      (along_expirePoll_of (R := Preserves Grouped) (fun _ => grouped_of rfl rfl rfl rfl rfl)
        (kept_terminate keeps n .disconnect)).bind fun _ =>
        along_modify keeps.startTimeoutTimer
    rw [heq]
    exact hexpire _ (grouped_of (s := s) rfl rfl rfl rfl rfl h)

theorem requests (n : ℕ) : Requests (Preserves Grouped) (app n : Callback Handler) where
  frames := keeps.frames n
  responded _ _ := grouped_of rfl rfl rfl rfl rfl
  answer _ _ hbuffer := grouped_answer n hbuffer
  park s _ _ _ := grouped_park s
  endDispatch _ := grouped_of rfl rfl rfl rfl rfl
  closeCheck := kept_closeCheck keeps n
  onComplete := along_onComplete n
  shutdown s _ := (keeps.moves n).along_onShutdown s

/-! ### Runs -/

open StreamDelivery (SessionInput greeting greeting_colon_free suffix_step reader reader_law received_frames)

theorem grouped_step {i : Input HttpEvent} (hi : Later i.event) : Preserves Grouped s (step serveHttp s i) :=
  kept_later keeps requests along_onTimeoutContinuation hi

theorem along_finish : Along (Preserves Grouped) (finish : M Handler Unit) := by
  refine along_get.bind fun _ => Along.bind (along_modify fun _ => grouped_of rfl rfl rfl rfl rfl) fun _ => ?_
  refine grouped_write.bind fun _ => along_get.bind fun _ => Along.ite (fun _ => ?_) fun _ => ?_
  · exact along_modify fun _ => grouped_of rfl rfl rfl rfl rfl
  · exact along_modify fun _ => grouped_of rfl rfl rfl rfl rfl

theorem grouped_first (n : ℕ) (hh : s.session.handler = false) (hi : s.session.inbound = true) :
    Preserves Grouped s (connect (app n) s).2 := by
  refine kept_connect keeps n (fun _ => ?_) along_finish ?_ ?_ ?_ hh hi
  · exact grouped_of rfl rfl rfl rfl rfl
  · exact grouped_of rfl rfl rfl rfl rfl
  · exact grouped_of rfl rfl rfl rfl rfl
  · exact fun h => ⟨⟨rfl, h.endpoint⟩, h.groups⟩

theorem grouped_created (config : SocketIOConfig) : Grouped (created config false) :=
  ⟨⟨rfl, rfl⟩, [], [], rfl, rfl, List.Sublist.refl _⟩

/-- a session right after the request that created it -/
def connected (config : SocketIOConfig) (acts : List Act) (io : List Bool) : St Handler :=
  step serveHttp (created config false) ⟨.container .connect, acts, io⟩

theorem grouped_connected (config : SocketIOConfig) (acts : List Act) (io : List Bool) : Grouped (connected config acts io) := by
  have hinput : Grouped { created config false with acts := acts, io := io } :=
    grouped_of (s := created config false) rfl rfl rfl rfl rfl (grouped_created config)
  exact grouped_first _ rfl rfl hinput

/-! ## The responses -/

open SocketIOJava.DataHandlers
open PostData (ReadsUtf8 readsUtf8_utf8String utf8String)

/-- the bytes of a response to which these texts were written -/
def response (texts : List JString) : Except JavaException (List UInt8) :=
  sent (XhrPolling.onStartSend ++ texts.flatMap XhrPolling.onWriteData ++ XhrPolling.onFinishSend)

/-- `responseText`, where bytes that are announced as UTF-8 are read by `decode`; none if `print` has raised an exception -/
def responseText (decode : List UInt8 → JString) (bytes : Except JavaException (List UInt8)) : Option JString :=
  bytes.toOption.map decode

theorem print_append (s t : JString) : print (s ++ t) = (do return (← print s) ++ (← print t)) := by
  induction s with
  | nil =>
    change print t = (do return [] ++ (← print t))
    cases print t <;> rfl
  | cons c s ih =>
    rw [List.cons_append, print, print]
    by_cases hc : c ≤ 0xFF
    · rw [if_pos hc, if_pos hc, ih]
      cases print s with
      | error e => rfl
      | ok bytes => cases print t <;> rfl
    · rw [if_neg hc, if_neg hc]
      rfl

/-- the texts are printed one after the other -/
theorem response_eq (texts : List JString) : response texts = print texts.flatten := by
  have hprints : sent (texts.flatMap XhrPolling.onWriteData) = print texts.flatten := by
    induction texts with
    | nil => rfl
    | cons text texts ih =>
      rw [List.flatten_cons, print_append, ← ih]
      rfl
  have hcalls : XhrPolling.onStartSend ++ texts.flatMap XhrPolling.onWriteData ++ XhrPolling.onFinishSend =
      XhrPolling.onStartSend ++ texts.flatMap XhrPolling.onWriteData := List.append_nil _
  rw [response, hcalls, ← hprints]
  rfl

variable {decode : List UInt8 → JString}

/-- **Texts in ASCII are read as they were printed.** -/
theorem responseText_response (hutf8 : ReadsUtf8 decode) {texts : List JString} (h : ∀ c ∈ texts.flatten, c < 0x80) :
    responseText decode (response texts) = some texts.flatten := by
  obtain ⟨l, hbytes, hunits⟩ := ascii_encodings h
  have hprint : print texts.flatten = .ok (l.flatMap String.utf8EncodeChar) := by
    refine print_ok_iff.2 ⟨fun c hc => UInt16.le_of_lt (UInt16.lt_trans (h c hc) (by decide)), hbytes.symm⟩
  rw [response_eq, hprint, hunits]
  exact congrArg some (hutf8 l)

/-! ## The client -/

open Pipes (Party Law Net Move)
open SocketIOJava.Conversation (ClientInput)

/-- the texts of each response: of that to the connect request, to which `k` texts were written after the greeting, and of
one for each later text -/
def bodies (first : Option Sent) (k : ℕ) (log : List Entry) : List (List JString) :=
  (first.map fun x => encoded x :: (writes log).take k).toList ++ ((writes log).drop k).map fun text => [text]

/-- the session; what it is told comes with its own requests -/
def server (first : Option Sent) (k : ℕ) :
    Party (St Handler) SessionInput Unit (Except JavaException (List UInt8)) JString SocketIOFrame where
  act s i := step serveHttp s i
  hear s _ _ := s
  listens _ := false
  written s := (bodies first k s.log).map response
  heard _ := []

/-- a response that is finished stays what it was -/
theorem bodies_prefix {first : Option Sent} {k : ℕ} {log log' : List Entry} (h : writes log <+: writes log')
    (hk : k ≤ (writes log).length) : bodies first k log <+: bodies first k log' := by
  obtain ⟨rest, hrest⟩ := h
  unfold bodies
  rw [← hrest, List.take_append_of_le_length hk, List.drop_append_of_le_length hk, List.map_append]
  exact (List.prefix_append_right_inj _).2 (List.prefix_append _ _)

theorem server_law (first : Option Sent) (k : ℕ) :
    Law (server first k) (fun s => Grouped s ∧ k ≤ (writes s.log).length) (fun _ => True) fun _ => [] where
  act_inv s i h := ⟨grouped_step i.2 h.1, h.2.trans (List.IsPrefix.length_le <| writes_prefix <| suffix_step s i.1)⟩
  act_written s i h := by
    have hgrown := writes_prefix <| suffix_step s i.1
    exact List.IsPrefix.map response <| bodies_prefix hgrown h.2
  act_heard _ _ _ := rfl
  hear_inv _ _ _ h _ := h
  hear_written _ _ _ _ _ := List.prefix_refl _
  hear_heard _ _ _ _ hlistens _ := absurd hlistens Bool.false_ne_true

abbrev Moves := List (Move ClientInput (List ClientSocket.Act) SessionInput Unit)

/-- the client has made its handshake, and its first GET has created the session -/
def start (o : ClientSocket.Options) (config : SocketIOConfig) (acts : List Act) (io : List Bool) :
    Net ClientSocket.St (St Handler) :=
  ⟨ClientSocket.step o ClientSocket.created ⟨.handshake (some .xhr), []⟩, connected config acts io, 0, 0⟩

/-- the frames of some groups together -/
theorem together_frames (groups : List Group) :
    together (groups.flatMap Group.frames) = (groups.map (together ·.frames)).flatten := by
  unfold together
  rw [List.flatMap_assoc, List.flatMap_def]

/-- the first `k` groups were written to the response of the connect request -/
def responses (first : Option Sent) (k : ℕ) (groups : List Group) : List Group :=
  (first.map fun x => (x, (groups.take k).flatMap Group.frames)).toList ++ groups.drop k

theorem frames_responses (first : Option Sent) (k : ℕ) (groups : List Group) :
    ((responses first k groups).flatMap Group.frames).Sublist (first.toList ++ groups.flatMap Group.frames) := by
  cases first with
  | none => exact (List.drop_sublist k groups).flatMap Group.frames
  | some x =>
    change (x :: ((groups.take k).flatMap Group.frames ++ (groups.drop k).flatMap Group.frames)).Sublist _
    rw [← List.flatMap_append, List.take_append_drop]
    exact List.Sublist.refl _

theorem bodies_responses {first : Option Sent} {k : ℕ} {groups : List Group} {log : List Entry}
    (h : writes log = groups.map (together ·.frames)) :
    (bodies first k log).map List.flatten = (responses first k groups).map (together ·.frames) := by
  have hlater (ls : List Group) : ((ls.map (together ·.frames)).map fun text => [text]).map List.flatten =
      ls.map (together ·.frames) := by
    rw [List.map_map, List.map_map]
    exact List.map_congr_left fun g _ => List.flatten_singleton
  unfold bodies responses
  rw [h, ← List.map_take, ← List.map_drop, List.map_append, hlater, List.map_append]
  cases first with
  | none => rfl
  | some x =>
    change [encoded x ++ ((groups.take k).map (together ·.frames)).flatten] ++ _ = _
    rw [← together_frames]
    rfl

/-- **What is polled is received, a response at a time.** Whatever the requests, the callbacks, the failing writes and the calls
of the application, as long as the session is given texts in ASCII to send: each response has some of the frames that were
sent, in the order in which they were sent and no frame in two of them, and the client takes it for one packet, that of its
first frame with the texts of the others as more of its data. -/
theorem polled_packets (hutf8 : ReadsUtf8 decode) (o : ClientSocket.Options) (config : SocketIOConfig) (sessionId : JString)
    (acts : List Act) (io : List Bool) (ms : Moves)
    (hascii : ∀ x ∈ (greeting sessionId io).toList ++ told (Pipes.run (reader o (responseText decode))
      (server (greeting sessionId io) (writes (connected config acts io).log).length) (start o config acts io) ms).right.log,
      ∀ c ∈ encoded x, c < 0x80) :
    let first := greeting sessionId io
    let k := (writes (connected config acts io).log).length
    let n := Pipes.run (reader o (responseText decode)) (server first k) (start o config acts io) ms
    ∃ (groups : List Group) (waiting : List Sent),
      (bodies first k n.right.log).map List.flatten = groups.map (together ·.frames) ∧
      n.right.handler.buffer.queue = waiting.map encoded ∧
      (groups.flatMap Group.frames ++ waiting).Sublist (first.toList ++ told n.right.log) ∧
      n.down ≤ groups.length ∧
      ClientDelivery.received n.left.log =
        (groups.take n.down).map fun g =>
          ClientFrames.packetOf o.js g.1.1.frameType g.1.2 (g.1.1.data ++ together g.2) := by
  intro first k n
  have hstart : Grouped (connected config acts io) ∧ k ≤ (writes (connected config acts io).log).length :=
    ⟨grouped_connected config acts io, le_rfl⟩
  have hgrouped : Grouped n.right :=
    (Pipes.inv_run (reader_law o (responseText decode)) (server_law first k) ⟨trivial, hstart⟩ ms).2.1
  obtain ⟨groups, waiting, hwrites, hwaiting, horder⟩ := hgrouped.groups
  let rs := responses first k groups
  have hbodies : (bodies first k n.right.log).map List.flatten = rs.map (together ·.frames) := bodies_responses hwrites
  have hsent : (rs.flatMap Group.frames ++ waiting).Sublist (first.toList ++ told n.right.log) := by
    have hgreeted := (frames_responses first k groups).append_right waiting
    rw [List.append_assoc] at hgreeted
    exact hgreeted.trans (horder.append_left first.toList)
  have htold : ∀ g ∈ rs, ∀ x ∈ g.frames, x ∈ first.toList ++ told n.right.log := fun g hg x hx =>
    hsent.subset (List.mem_append_left _ (List.mem_flatMap.2 ⟨g, hg, hx⟩))
  have hfree : ∀ g ∈ rs, SEPERATOR_CHAR ∉ g.glued.2 := by
    intro g hg
    change SEPERATOR_CHAR ∉ g.1.2
    rcases List.mem_append.1 (htold g hg g.1 List.mem_cons_self) with hgreeting | hlater
    · exact greeting_colon_free hgreeting
    · exact told_colon_free _ _ hlater
  have hwritten : (server first k).written n.right = rs.map fun g => response [together g.frames] := by
    change (bodies first k n.right.log).map response = _
    have hprinted : response = print ∘ List.flatten := funext response_eq
    rw [hprinted, ← List.map_map, hbodies, List.map_map]
    exact List.map_congr_left fun g _ => by rw [Function.comp_apply, Function.comp_apply, List.flatten_singleton]
  have hread : ∀ g ∈ rs, responseText decode (response [together g.frames]) = some (g.glued.1.encode g.glued.2) := by
    intro g hg
    have hplain : ∀ c ∈ [together g.frames].flatten, c < 0x80 := by
      rw [List.flatten_singleton]
      intro c hc
      obtain ⟨x, hx, hmem⟩ := List.mem_flatMap.1 hc
      exact hascii x (htold g hg x hx) c hmem
    rw [responseText_response hutf8 hplain, List.flatten_singleton]
    exact congrArg some (encoded_glued g).symm
  obtain ⟨hdown, hreceived⟩ := received_frames (server_law first k) hstart rfl rfl ms hwritten hread hfree
  exact ⟨rs, waiting, hbodies, hwaiting, hsent, hdown, hreceived⟩

/-- two messages are sent while no poll waits, and one to a poll -/
def twoTogether : Moves :=
  [.left ⟨⟨.ready, []⟩, trivial⟩, .down [], .right ⟨⟨.outbound (.sendMessage (str "a")), [], []⟩, nofun⟩,
    .right ⟨⟨.outbound (.sendMessage (str "b")), [], []⟩, nofun⟩, .right ⟨⟨.container .get, [], []⟩, nofun⟩,
    .right ⟨⟨.container .get, [], []⟩, nofun⟩, .right ⟨⟨.outbound (.sendMessage (str "c")), [], []⟩, nofun⟩, .down [],
    .down []]

/-- the client receives the first two as one -/
theorem polled_packets_twoTogether :
    let first := greeting (str "id") []
    let k := (writes (connected ⟨none, none, none, none⟩ [] []).log).length
    let n := Pipes.run (reader ClientDelivery.tenAttempts (responseText utf8String)) (server first k)
      (start ClientDelivery.tenAttempts ⟨none, none, none, none⟩ [] []) twoTogether
    (ClientDelivery.received n.left.log).map (ClientParser.encodePacket true) =
        [str "1:::id", str "3:::a3:::b", str "3:::c"] ∧
      ∃ (groups : List Group) (waiting : List Sent),
        (bodies first k n.right.log).map List.flatten = groups.map (together ·.frames) ∧
        n.right.handler.buffer.queue = waiting.map encoded ∧
        (groups.flatMap Group.frames ++ waiting).Sublist (first.toList ++ told n.right.log) ∧
        n.down ≤ groups.length ∧
        ClientDelivery.received n.left.log = (groups.take n.down).map fun g =>
          ClientFrames.packetOf ClientDelivery.tenAttempts.js g.1.1.frameType g.1.2 (g.1.1.data ++ together g.2) := by
  have htold : told (Pipes.run (reader ClientDelivery.tenAttempts (responseText utf8String))
      (server (greeting (str "id") []) (writes (connected ⟨none, none, none, none⟩ [] []).log).length)
      (start ClientDelivery.tenAttempts ⟨none, none, none, none⟩ [] []) twoTogether).right.log =
      [str "a", str "b", str "c"].map fun data => (.new .message TEXT_MESSAGE_TYPE data, []) := by rfl
  refine ⟨by decide +kernel,
    polled_packets readsUtf8_utf8String ClientDelivery.tenAttempts ⟨none, none, none, none⟩ (str "id") [] [] twoTogether ?_⟩
  rw [htold]
  have hascii : ∀ x ∈ (greeting (str "id") []).toList ++
      [str "a", str "b", str "c"].map fun data => (.new .message TEXT_MESSAGE_TYPE data, []), (encoded x).all (· < 0x80) := by
    decide
  exact fun x hx c hc => of_decide_eq_true (List.all_eq_true.1 (hascii x hx) c hc)

end SocketIOJava.PolledPackets
