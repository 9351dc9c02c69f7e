/-
What a session writes to a response that stays open, and what the client reads there.

With `htmlfile` the response of the connect request is kept, and `sendMessage` writes each frame to it at once; the buffer
stays empty. The data handler makes a script element of each text, and `print` its bytes; the browser runs the elements as
they come, and their code passes the texts to the transport. The client has a POST for what it says, at any time; a GET is
answered with 404.

- `faithful_connected`, `faithful_step`: what was written is, text by text, the encoding of what was spoken, from the
  connection on and after every later request, callback, task and call.
- `passed_chunk`: a text in ASCII, with no `<` in it, is passed as it is.
- `streamed_prefix`: a client that is handed these elements, after that of `onConnect`, receives the packets of the frames, in
  order and each once.
-/
import SocketIOJava.Conversation
import SocketIOJava.DataHandlers

namespace SocketIOJava.StreamDelivery

open Program SocketIOJava.Text SocketIOJava.Frame SocketIOJava.Session SocketIOJava.Buffer SocketIOJava.Run
  SocketIOJava.Traversal SocketIOJava.JettyTraversal SocketIOJava.JettyTraversal.Http JettyContinuation
open SocketIOJava.WireDelivery hiding Faithful

/-! ## Requests -/

/-- an event other than the request that creates the session -/
def Later (e : Event HttpEvent) : Prop := e ≠ .container .connect

section

variable {I : St JettyContinuation.Handler → Prop} (w : Keeps I) {s : St JettyContinuation.Handler}
include w

/-- `onDisconnect` under a condition, then `abort` -/
theorem kept_ending (n : ℕ) {c : Prop} [Decidable c] (reason : DisconnectReason) :
    Along (Preserves I) (do whenever c (Session.onDisconnect (app n) reason); abort (app n) : M JettyContinuation.Handler Unit) :=
  (along_whenever fun _ => w.along_onDisconnect n reason).bind fun _ => (w.calls n).abort

theorem kept_terminate (n : ℕ) (reason : DisconnectReason) :
    Along (Preserves I) (terminate (app n : Callback JettyContinuation.Handler) reason) :=
  (w.along_onDisconnect n reason).bind fun _ => (w.calls n).abort

theorem kept_closeCheck (n : ℕ) : Along (Preserves I) (closeCheck (app n : Callback JettyContinuation.Handler)) := by
  refine along_get.bind fun _ => Along.ite (fun _ => ?_) fun _ => along_pure _
  exact kept_ending w n .closed

/-- **The request that creates the session**, whose response is marked first. The application may be told of the connection,
and may send, before the request returns. -/
theorem kept_connect (n : ℕ) (hended : ∀ t, Preserves I t (endDispatch t)) (hfinish : Along (Preserves I) finish)
    (hresponse : Preserves I s (getContinuation s)) (hattached : Preserves I s (attaching s))
    (hopening : Preserves I (attaching s) (connecting s)) (hh : s.session.handler = false) (hi : s.session.inbound = true) :
    Preserves I s (connect (app n) s).2 := by
  intro h
  cases hfails : s.nextWriteFails with
  | true =>
    unfold connect ending
    rw [modify_bind, bind_of_error (write_fails (s := getContinuation s) hfails)]
    exact hended _ (w.same (s := getContinuation s) rfl rfl rfl rfl (hresponse h))
  | false =>
    rw [connect_ok (app n) hfails]
    refine hended _ (bind_related (s := attaching s) ?_ (fun _ => hfinish) (hattached h))
    rw [onConnect_first (s := attaching s) (app n) hh hi]
    exact IsTrans.trans _ _ _ hopening (w.along_announce n _)

/-- **Every later event.** -/
theorem kept_later (hrequests : ∀ n, Requests (Preserves I) (app n : Callback JettyContinuation.Handler))
    (htimeout : ∀ n cont, Along (Preserves I) (onTimeoutContinuation (app n) cont)) {i : Input HttpEvent} (hi : Later i.event) :
    Preserves I s (step serveHttp s i) := by
  intro h
  have hinput : I { s with acts := i.acts, io := i.io } := w.same (s := s) rfl rfl rfl rfl h
  refine w.along_perform _ (fun e he s => ?_) { s with acts := i.acts, io := i.io } hinput
  exact (hrequests _).later_related (fun hconnect => hi (he.trans (congrArg Event.container hconnect))) fun cont _ =>
    htimeout _ cont s

end

/-! ## The session -/

/-- an open session has its response, and nothing waits for it -/
structure Streaming (h : JettyContinuation.Handler) : Prop where
  persistent : h.persistent = true
  queue : h.buffer.queue = []
  response : h.is_open = true → h.continuation ≠ none

/-- what was written is what was spoken -/
abbrev Faithful : St JettyContinuation.Handler → Prop :=
  WireDelivery.Faithful JettyContinuationTransportHandler.endpoint Streaming

variable {s : St JettyContinuation.Handler}

/-- the response is marked, as suspended or as left by its request -/
theorem faithful_altered (f : Continuation → Continuation) :
    Preserves Faithful s (setContinuation (s.handler.continuation.map f) s) := by
  refine faithful_of (fun h => ⟨h.persistent, h.queue, fun hopen hnone => h.response hopen ?_⟩) rfl rfl rfl
  exact Option.map_eq_none_iff.1 hnone

theorem faithful_write : Along (Preserves Faithful) (write : M JettyContinuation.Handler Unit) :=
  along_write_of fun _ => faithful_same rfl rfl rfl

/-- **One message**: it is written at once and alone, as nothing waits in the buffer, or it is not written. -/
theorem faithful_sendMessage (cb : Callback JettyContinuation.Handler) (f : SocketIOFrame) :
    Along (Preserves Faithful) (sendMessage cb f) := by
  intro s h
  cases hopen : s.handler.is_open with
  | false =>
    rw [sendMessage_closed hopen]
    exact h.congr id rfl rfl rfl
  | true =>
    obtain ⟨c, hc⟩ := Option.ne_none_iff_exists'.1 (h.ready.response hopen)
    let s₁ : St JettyContinuation.Handler := setBuffer s.handler.buffer.drainMessages.2 (s.push (.frame f))
    have halone : joined (s.push (.frame f)) f = f.encode s.handler.endpoint := by
      change (s.handler.buffer.queue ++ [f.encode s.handler.endpoint]).flatten = _
      rw [h.ready.queue, List.nil_append, List.flatten_singleton]
    have hdrained (r : JettyContinuation.Handler) (hr : r = { s.handler with buffer := s.handler.buffer.drainMessages.2 }) :
        Streaming r := by rw [hr]; exact ⟨h.ready.persistent, rfl, h.ready.response⟩
    rw [sendMessage_open hopen, deliver_now (s := s.push (.frame f)) hc, halone]
    change Faithful (sendNow c _ s₁).2
    cases hfails : s.nextWriteFails with
    | true =>
      rw [sendNow_fails (s := s₁) hfails]
      refine h.congr (fun _ => hdrained _ rfl) rfl rfl ?_
      change views (.wrote _ s.nextWriteFails :: .frame f :: s.log) = views s.log
      rw [hfails]
      rfl
    | false =>
      have hwrote : Faithful (written (f.encode s.handler.endpoint) s₁) := by
        refine h.wrote (f := f) (hdrained _ rfl) rfl rfl ?_
        rw [← hfails]
        rfl
      rw [sendNow_ok (s := s₁) hfails, if_neg (by simp [s₁, setBuffer, Session.St.push, h.ready.persistent])]
      refine startHeartbeatTimer_kept (fun hhandler hattached hviews _ => ?_) hwrote
      exact faithful_same hhandler hattached hviews

theorem writer : Writer JettyContinuationTransportHandler.endpoint Streaming where
  sendMessage := faithful_sendMessage
  abort cb hshutdown := by
    refine Along.bind (along_modify fun s => ?_) fun _ => hshutdown
    exact faithful_of (fun h => ⟨h.persistent, rfl, nofun⟩) rfl rfl rfl
  disconnect cb hdisconnect habort := hdisconnect.bind fun _ => habort
  disconnectWhenEmpty := along_modify fun s => faithful_of (fun h => ⟨h.persistent, h.queue, h.response⟩) rfl rfl rfl
  isOpen := along_get.bind fun _ => along_pure _
  setNamespace a s := ⟨_, rfl, rfl, fun h => ⟨h.persistent, h.queue, h.response⟩⟩

theorem keeps : Keeps Faithful := writer.keeps

/-! ### Requests and callbacks -/

theorem along_onComplete (n cont : ℕ) : Along (Preserves Faithful) (onComplete (app n) cont) := by
  intro s h
  rcases onComplete_cases (app n) cont s with ⟨-, heq⟩ | ⟨-, ⟨-, heq⟩ | ⟨hp, -⟩⟩
  · rwa [heq]
  · rw [heq]
    exact kept_ending keeps n .disconnect _ (h.congr (fun h => ⟨h.persistent, h.queue, nofun⟩) rfl rfl rfl)
  · cases h.ready.persistent.symm.trans hp

theorem along_onTimeoutContinuation (n cont : ℕ) : Along (Preserves Faithful) (onTimeoutContinuation (app n) cont) := by
  intro s h
  rcases onTimeoutContinuation_cases (app n) cont s with ⟨-, heq⟩ | ⟨-, ⟨-, heq⟩ | ⟨hp, -⟩⟩
  · rwa [heq]
  · rw [heq]
    exact kept_terminate keeps n .timeout _ (h.congr (fun h => ⟨h.persistent, h.queue, nofun⟩) rfl rfl rfl)
  · cases h.ready.persistent.symm.trans hp

theorem requests (n : ℕ) : Requests (Preserves Faithful) (app n : Callback JettyContinuation.Handler) where
  frames := keeps.frames n
  responded _ _ := faithful_same rfl rfl rfl
  answer _ hp _ h := by cases h.ready.persistent.symm.trans hp
  park _ hp _ _ h := by cases h.ready.persistent.symm.trans hp
  endDispatch _ := faithful_altered _
  closeCheck := kept_closeCheck keeps n
  onComplete := along_onComplete n
  shutdown s _ := (keeps.moves n).along_onShutdown s

/-! ### Runs -/

theorem faithful_step {i : Input HttpEvent} (hi : Later i.event) : Preserves Faithful s (step serveHttp s i) :=
  kept_later keeps requests along_onTimeoutContinuation hi

/-- the end of the connect request: the response is suspended, and stays -/
theorem along_finish : Along (Preserves Faithful) finish := by
  intro s h
  have hsaid : Faithful (s.push (.finished s.nextWriteFails)) := h.congr id rfl rfl rfl
  have hrest : Along (Preserves Faithful) (do
      write
      if (← get).handler.persistent then modify suspend
      else modify (setContinuation none) : M JettyContinuation.Handler Unit) := by
    refine faithful_write.bind fun _ => along_get_bind fun s h => ?_
    rw [if_pos h.ready.persistent]
    exact faithful_altered _ h
  unfold finish
  rw [get_bind, modify_bind]
  exact hrest _ hsaid

theorem faithful_first (n : ℕ) (hh : s.session.handler = false) (hi : s.session.inbound = true) :
    Preserves Faithful s (connect (app n) s).2 := by
  refine kept_connect keeps n (fun _ => faithful_altered _) along_finish ?_ ?_ ?_ hh hi
  · exact faithful_of (fun h => ⟨h.persistent, h.queue, fun _ => nofun⟩) rfl rfl rfl
  · exact faithful_of (fun h => ⟨h.persistent, h.queue, fun _ => nofun⟩) rfl rfl rfl
  · exact fun h => ⟨⟨rfl, h.endpoint⟩, h.ready, h.texts⟩

theorem faithful_created (config : JettyContinuation.SocketIOConfig) : Faithful (created config true) :=
  ⟨⟨rfl, rfl⟩, ⟨rfl, rfl, nofun⟩, rfl⟩

/-- a session right after the request that created it -/
def connected (config : JettyContinuation.SocketIOConfig) (acts : List Act) (io : List Bool) : St JettyContinuation.Handler :=
  step serveHttp (created config true) ⟨.container .connect, acts, io⟩

theorem faithful_connected (config : JettyContinuation.SocketIOConfig) (acts : List Act) (io : List Bool) :
    Faithful (connected config acts io) := by
  have hinput : Faithful { created config true with acts := acts, io := io } := (faithful_created config).congr id rfl rfl rfl
  exact faithful_first _ rfl rfl hinput

/-! ## The browser -/

open SocketIOJava.DataHandlers

/-- the code of a script element, where the bytes are no more than that; the document names no charset, and ASCII is the same
in all. What a `<` in the code may begin is not considered. -/
def code (bytes : List UInt8) : Option JString :=
  let html := bytes.map UInt8.toUInt16
  let content := html.drop (str "<script>").length
  if (str "<script>").isPrefixOf html ∧ content.dropWhile (· ≠ 0x3C) = str "</script>" then
    some (content.takeWhile (· ≠ 0x3C))
  else none

/-- the string in `parent.s._("...", document);` -/
def argument (separators : Bool) (code : JString) : Option JString :=
  if (str "parent.s._(\"").isPrefixOf code then
    match JsLiteral.scan 0x22 separators code.length (code.drop (str "parent.s._(\"").length) with
    | some (data, after) => if after = str ", document);" then some data else none
    | none => none
  else none

/-- what the bytes of a chunk make the browser pass to `s._`; none if `print` has raised an exception -/
def passed (separators : Bool) (chunk : Except JavaException (List UInt8)) : Option JString :=
  (chunk.toOption.bind code).bind (argument separators)

/-- a text in ASCII, with no `<` in it -/
def Tame (data : JString) : Prop := ∀ c ∈ data, c < 0x80 ∧ c ≠ 0x3C

theorem tame_append {s t : JString} (hs : Tame s) (ht : Tame t) : Tame (s ++ t) := List.forall_mem_append.2 ⟨hs, ht⟩

theorem tame_quoteChar {c : JChar} (h : c < 0x80 ∧ c ≠ 0x3C) : Tame (JsonAppend.quoteChar c) := by
  by_cases hplain : JsonAppend.Plain c
  · rw [JsonAppend.quoteChar_plain hplain]
    exact List.forall_mem_singleton.2 h
  by_cases hquote : c = 0x22
  · subst hquote
    exact List.all_iff_forall_prop.1 (by decide)
  by_cases hslash : c = 0x5C
  · subst hslash
    exact List.all_iff_forall_prop.1 (by decide)
  have hcontrol : c < 0x20 := UInt16.not_le.1 fun hle => hplain ⟨hquote, hslash, hle⟩
  obtain ⟨n, hn, rfl⟩ := JsonAppend.control_cases hcontrol
  interval_cases n <;> exact List.all_iff_forall_prop.1 (by decide)

theorem tame_escaped {data : JString} (h : Tame data) : Tame (escaped data) := by
  intro c hc
  obtain ⟨d, hd, hmem⟩ := List.mem_flatMap.1 hc
  exact tame_quoteChar (h d hd) c hmem

/-- bytes are printed and read as the same chars -/
theorem print_bytes {s : JString} (h : ∀ c ∈ s, c < 0x80) :
    print s = .ok (s.map UInt16.toUInt8) ∧ (s.map UInt16.toUInt8).map UInt8.toUInt16 = s := by
  refine ⟨print_ok_iff.2 ⟨fun c hc => UInt16.le_of_lt (UInt16.lt_trans (h c hc) (by decide)), rfl⟩, ?_⟩
  rw [List.map_map]
  refine (List.map_congr_left fun c hc => ?_).trans (List.map_id s)
  have hlt : c.toNat < 0x80 := UInt16.lt_iff_toNat_lt.1 (h c hc)
  refine UInt16.toNat_inj.1 ?_
  change c.toNat % 256 = c.toNat
  omega

theorem length_escaped (data : JString) : data.length ≤ (escaped data).length := by
  induction data with
  | nil => exact Nat.le_refl _
  | cons c data ih =>
    have hne : 1 ≤ (JsonAppend.quoteChar c).length := by
      by_cases hplain : JsonAppend.Plain c
      · rw [JsonAppend.quoteChar_plain hplain]
        exact Nat.le_refl 1
      · obtain ⟨d, rest, hquote, -⟩ := JsonAppend.quoteChar_escape hplain
        rw [hquote]
        exact Nat.le_add_left 1 _
    rw [escaped_cons, List.length_append, List.length_cons]
    omega

/-- the literal of a text, and what follows it -/
theorem scan_escaped (separators : Bool) {data : JString} (h : Tame data) (after : JString) {n : ℕ} (hn : data.length < n) :
    JsLiteral.scan 0x22 separators n (escaped data ++ 0x22 :: after) = some (data, after) := by
  induction data generalizing n with
  | nil =>
    obtain ⟨m, rfl⟩ := Nat.exists_eq_add_one_of_ne_zero (Nat.ne_of_gt hn)
    exact JsLiteral.scan_quote m after
  | cons c data ih =>
    obtain ⟨hc, hdata⟩ := List.forall_mem_cons.1 h
    obtain ⟨m, rfl⟩ := Nat.exists_eq_add_one_of_ne_zero (Nat.ne_of_gt ((Nat.zero_le _).trans_lt hn))
    have hseparates : ¬ Separates separators c := by
      rintro ⟨-, rfl | rfl⟩
      · exact absurd hc.1 (by decide)
      · exact absurd hc.1 (by decide)
    have helement := element_quoteChar hseparates (escaped data ++ 0x22 :: after)
    rw [escaped_cons, List.append_assoc]
    refine JsLiteral.scan_element ?_ helement (ih hdata (Nat.lt_of_succ_lt_succ hn))
    by_cases hplain : JsonAppend.Plain c
    · rw [JsonAppend.quoteChar_plain hplain]
      exact fun heq => hplain.1 (Option.some.inj heq)
    · obtain ⟨d, rest, hquote, -⟩ := JsonAppend.quoteChar_escape hplain
      rw [hquote]
      exact fun heq => absurd (Option.some.inj heq) (by decide)

/-- **A chunk passes its data**, if they are tame. -/
theorem passed_chunk (separators : Bool) {data : JString} (h : Tame data) :
    passed separators (sent (HtmlFile.onWriteData data)) = some data := by
  let call : JString := str "parent.s._(\"" ++ (escaped data ++ 0x22 :: str ", document);")
  have htame : Tame call := by
    refine tame_append (List.all_iff_forall_prop.1 (by decide)) (tame_append (tame_escaped h) ?_)
    exact List.all_iff_forall_prop.1 (by decide)
  have hchunk : chunk data = str "<script>" ++ (call ++ str "</script>") := by
    rw [chunk_eq]
    simp only [call, List.append_assoc, List.cons_append]
    rfl
  have hascii : ∀ c ∈ chunk data, c < 0x80 := by
    rw [hchunk]
    refine List.forall_mem_append.2 ⟨List.all_iff_forall_prop.1 (by decide), List.forall_mem_append.2 ⟨fun c hc => (htame c hc).1, ?_⟩⟩
    exact List.all_iff_forall_prop.1 (by decide)
  obtain ⟨hprint, hread⟩ := print_bytes hascii
  have hsent : sent (HtmlFile.onWriteData data) = .ok ((chunk data).map UInt16.toUInt8) := by
    change (do return (← print (str "<script>parent.s._(" ++ JsonAppend.toString (.string data) ++ str ", document);</script>")) ++
      (← Except.ok [])) = _
    rw [show str "<script>parent.s._(" ++ JsonAppend.toString (.string data) ++ str ", document);</script>" = chunk data from
      (List.append_nil _).symm, hprint]
    exact congrArg Except.ok (List.append_nil _)
  have hcode : code ((chunk data).map UInt16.toUInt8) = some call := by
    have hnot : ∀ c ∈ call, (c ≠ 0x3C : Bool) = true := fun c hc => decide_eq_true (htame c hc).2
    unfold code
    dsimp only
    rw [hread, hchunk, List.drop_left, List.dropWhile_append_of_pos hnot, List.takeWhile_append_of_pos hnot]
    rw [if_pos ⟨List.isPrefixOf_iff_prefix.2 (List.prefix_append _ _), rfl⟩]
    exact congrArg some (List.append_nil call)
  have hargument : argument separators call = some data := by
    have hlength : data.length < call.length := by
      have hlonger := length_escaped data
      simp only [call, List.length_append, List.length_cons]
      omega
    unfold argument
    rw [if_pos (List.isPrefixOf_iff_prefix.2 (List.prefix_append _ _)), List.drop_left, scan_escaped separators h _ hlength]
    exact if_pos rfl
  unfold passed
  rw [hsent]
  change (code _).bind _ = _
  rw [hcode]
  exact hargument

/-! ## The client -/

open Pipes (Party Law Net Move)
open SocketIOJava.Conversation (ClientInput client)

/-- requests, callbacks, tasks and the application, in any order -/
abbrev SessionInput := { i : Run.Input HttpEvent // Later i.event }

section

variable {β : Type}

/-- the event of what is handed over: the text that is read in it, or the failure of the poll -/
def incoming : Option JString → ClientSocket.Event
  | some text => .data 0 text (text.length + 1)
  | none => .pollFailed 0

/-- the client, whose transport reads a text in what it is handed, or none -/
def reader (o : ClientSocket.Options) (read : β → Option JString) :
    Party ClientSocket.St ClientInput (List ClientSocket.Act) JString β ClientParser.Packet where
  act := (client o).act
  hear s acts x := ClientSocket.step o s ⟨incoming (read x), acts⟩
  listens := (client o).listens
  written := (client o).written
  heard := (client o).heard

theorem reader_law (o : ClientSocket.Options) (read : β → Option JString) :
    Law (reader o read) (fun _ => True) (fun x => ∃ text, read x = some text ∧ Conversation.Single text)
      fun x => (read x).toList.map (ClientParser.decodePacket o.js) where
  act_inv _ _ h := h
  act_written s i _ := Conversation.wire_step s i
  act_heard s i _ := Conversation.received_local i.2 s
  hear_inv _ _ _ h _ := h
  hear_written s _ _ _ _ := Conversation.wire_step s _
  hear_heard s acts x _ hears h := by
    obtain ⟨text, hread, hsingle⟩ := h
    change ClientDelivery.received (ClientSocket.step o s ⟨incoming (read x), acts⟩).log = _
    rw [hread]
    exact Conversation.received_data hsingle.1 hsingle.2 _ acts hears

/-- **A client that reads the texts of some frames**, one by one, receives their packets. -/
theorem received_frames {o : ClientSocket.Options} {read : β → Option JString} {τ γ δ ρ : Type} {Q : Party τ γ δ β JString ρ}
    {InvQ : τ → Prop} {Fits : JString → Prop} {reads : JString → List ρ} (lawQ : Law Q InvQ Fits reads)
    {n : Net ClientSocket.St τ} (hinv : InvQ n.right) (hreceived : ClientDelivery.received n.left.log = []) (hdown : n.down = 0)
    (ms : List (Move ClientInput (List ClientSocket.Act) γ δ)) {ξ : Type} {xs : List ξ} {item : ξ → β}
    {frame : ξ → SocketIOFrame × JString}
    (hwritten : Q.written (Pipes.run (reader o read) Q n ms).right = xs.map item)
    (hread : ∀ x ∈ xs, read (item x) = some ((frame x).1.encode (frame x).2))
    (hfree : ∀ x ∈ xs, SEPERATOR_CHAR ∉ (frame x).2) :
    let n' := Pipes.run (reader o read) Q n ms
    n'.down ≤ xs.length ∧
      ClientDelivery.received n'.left.log =
        (xs.take n'.down).map fun x => ClientFrames.packetOf o.js (frame x).1.frameType (frame x).2 (frame x).1.data := by
  refine Pipes.heard_items_left (reader_law o read) lawQ ⟨trivial, hinv⟩ ⟨hdown.trans_le (Nat.zero_le _), ?_⟩ ms hwritten
    fun x hx => ?_
  · change ClientDelivery.received n.left.log = ((Q.written n.right).take n.down).flatMap _
    rw [hdown]
    exact hreceived
  · obtain ⟨hsingle, hpacket⟩ := Conversation.single_encode o.js (hfree x hx)
    refine ⟨⟨_, hread x hx, hsingle⟩, ?_⟩
    rw [hread x hx]
    exact hpacket

end

/-- the frame of the data handler's `onConnect`, whose write is the first of the request; none if it fails -/
def greeting (sessionId : JString) (io : List Bool) : Option (SocketIOFrame × JString) :=
  if io.headD false then none else some (.new .connect TEXT_MESSAGE_TYPE sessionId, [])

theorem greeting_colon_free {sessionId : JString} {io : List Bool} {x : SocketIOFrame × JString}
    (hx : x ∈ (greeting sessionId io).toList) : SEPERATOR_CHAR ∉ x.2 := by
  unfold greeting at hx
  split_ifs at hx
  · exact absurd hx List.not_mem_nil
  · rw [List.mem_singleton.1 hx]
    exact List.not_mem_nil

/-- the session, whose response begins with the greeting: a chunk for each text; what it is told comes with its own requests -/
def server (first : Option (SocketIOFrame × JString)) :
    Party (St JettyContinuation.Handler) SessionInput Unit (Except JavaException (List UInt8)) JString SocketIOFrame where
  act s i := step serveHttp s i
  hear s _ _ := s
  listens _ := false
  written s :=
    ((first.map fun x => x.1.encode x.2).toList ++ writes s.log).map fun data => sent (HtmlFile.onWriteData data)
  heard _ := []

/-- whatever the event, the history is only added to -/
theorem suffix_step (s : St JettyContinuation.Handler) (i : Input HttpEvent) : s.log <:+ (step serveHttp s i).log := by
  obtain ⟨event, acts, io⟩ := i
  cases event with
  | container e => exact (Lifecycle.http_keeps s [⟨.container (.inl e), acts, io⟩]).1
  | outbound call => exact (Lifecycle.http_keeps s [⟨.outbound call, acts, io⟩]).1
  | tick d => exact (Lifecycle.http_keeps s [⟨.tick d, acts, io⟩]).1
  | fire t => exact (Lifecycle.http_keeps s [⟨.fire t, acts, io⟩]).1

theorem server_law (first : Option (SocketIOFrame × JString)) :
    Law (server first) Faithful (fun _ => True) fun _ => [] where
  act_inv _ i h := faithful_step i.2 h
  act_written s i _ := ((List.prefix_append_right_inj _).2 <| writes_prefix <| suffix_step s i.1).map _
  act_heard _ _ _ := rfl
  hear_inv _ _ _ h _ := h
  hear_written _ _ _ _ _ := List.prefix_refl _
  hear_heard _ _ _ _ hlistens _ := nomatch hlistens

abbrev Moves := List (Move ClientInput (List ClientSocket.Act) SessionInput Unit)

/-- the client has made its handshake, and its GET for the stream has created the session -/
def start (o : ClientSocket.Options) (config : JettyContinuation.SocketIOConfig) (acts : List Act) (io : List Bool) :
    Net ClientSocket.St (St JettyContinuation.Handler) :=
  ⟨ClientSocket.step o ClientSocket.created ⟨.handshake (some .xhr), []⟩, connected config acts io, 0, 0⟩

/-- **What is streamed is received.** Whatever the requests, the callbacks, the failing writes and the calls of the
application, as long as the session is given tame texts to send: the packets that the client has received are, one by one,
those of the greeting and of the first frames that the session wrote. -/
theorem streamed_prefix (separators : Bool) (o : ClientSocket.Options) (config : JettyContinuation.SocketIOConfig)
    (sessionId : JString) (acts : List Act) (io : List Bool) (ms : Moves)
    (htame : ∀ x ∈ (greeting sessionId io).toList ++
      told (Pipes.run (reader o (passed separators)) (server (greeting sessionId io)) (start o config acts io) ms).right.log,
      Tame (x.1.encode x.2)) :
    let first := greeting sessionId io
    let n := Pipes.run (reader o (passed separators)) (server first) (start o config acts io) ms
    let frames := first.toList ++ spoken n.right.log
    n.down ≤ frames.length ∧
      ClientDelivery.received n.left.log =
        (frames.take n.down).map fun x => ClientFrames.packetOf o.js x.1.frameType x.2 x.1.data := by
  intro first n frames
  have hfaithful : Faithful n.right :=
    (Pipes.inv_run (reader_law o (passed separators)) (server_law first) ⟨trivial, faithful_connected config acts io⟩ ms).2
  have hwritten : (server first).written n.right = frames.map fun x => sent (HtmlFile.onWriteData (x.1.encode x.2)) := by
    change ((first.map fun x => x.1.encode x.2).toList ++ writes n.right.log).map _ = _
    rw [hfaithful.texts, Option.toList_map, ← List.map_append, List.map_map]
    rfl
  have hfree : ∀ x ∈ frames, SEPERATOR_CHAR ∉ x.2 :=
    List.forall_mem_append.2 ⟨fun _ => greeting_colon_free, spoken_colon_free _⟩
  have hread : ∀ x ∈ frames, passed separators (sent (HtmlFile.onWriteData (x.1.encode x.2))) = some (x.1.encode x.2) := by
    intro x hx
    refine passed_chunk separators (htame x ?_)
    rcases List.mem_append.1 hx with hfirst | hspoken
    · exact List.mem_append_left _ hfirst
    · exact List.mem_append_right _ (spoken_told _ x hspoken)
  exact received_frames (server_law first) (faithful_connected config acts io) rfl rfl ms hwritten hread hfree

/-- the application sends one message to the open stream -/
def oneMessage : Moves :=
  [.left ⟨⟨.ready, []⟩, trivial⟩, .down [], .right ⟨⟨.outbound (.sendMessage (str "it's \"me\"")), [], []⟩, nofun⟩, .down []]

theorem streamed_prefix_oneMessage :
    let first := greeting (str "id") []
    let n := Pipes.run (reader ClientDelivery.tenAttempts (passed true)) (server first)
      (start ClientDelivery.tenAttempts ⟨none, none, none, none⟩ [] []) oneMessage
    let frames := first.toList ++ spoken n.right.log
    (ClientDelivery.received n.left.log).map (ClientParser.encodePacket true) = [str "1:::id", str "3:::it's \"me\""] ∧
      n.down ≤ frames.length ∧
      ClientDelivery.received n.left.log = (frames.take n.down).map fun x =>
        ClientFrames.packetOf ClientDelivery.tenAttempts.js x.1.frameType x.2 x.1.data := by
  have htold : told (Pipes.run (reader ClientDelivery.tenAttempts (passed true)) (server (greeting (str "id") []))
      (start ClientDelivery.tenAttempts ⟨none, none, none, none⟩ [] []) oneMessage).right.log =
      [(.new .message TEXT_MESSAGE_TYPE (str "it's \"me\""), [])] := by rfl
  refine ⟨by decide +kernel,
    streamed_prefix true ClientDelivery.tenAttempts ⟨none, none, none, none⟩ (str "id") [] [] oneMessage ?_⟩
  rw [htold]
  exact List.forall_mem_cons.2 ⟨List.all_iff_forall_prop.1 (by decide), List.forall_mem_singleton.2 <|
    List.all_iff_forall_prop.1 (by decide)⟩

end SocketIOJava.StreamDelivery
