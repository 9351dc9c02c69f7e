/-
A client and a session that talk over HTTP: the messages that the client posts with `xhr-polling`.

The parties are `Socket` of `socket.io.js`, which uses its transport 0, one that posts, and `DefaultSession` with
`JettyContinuationTransportHandler`, from the end of the request that created it. A POST carries its text as it is, under
the content type of `XHR.request`; the session takes what `decodePostData` makes of it. It may fail at any time, before or
after the session has handled it, and with an `XDomainRequest` its failure looks like a success; what an exception of the
application leaves of it is lost. The client takes any texts without heartbeats for responses of its polls; a session that
polls sends no heartbeat, as its delay is 0. In between the page, the application and the timers come in any order. There is
no retry, no further handshake and no other transport: the run ends where one would come. Left out: the forms of
`jsonp-polling`.

- `client_law`: the client makes its POSTs one at a time, and posts what it said.
- `heard_post`: of a POST the session receives the first frames, and all if it handles them to their end.
- `posted_in_order`: the frames that the session has received are, in order and each at most once, those of packets that the
  client was given, and those of all of them as long as no POST was lost or cut short.
-/
import Mathlib.Data.List.InsertIdx
import SocketIOJava.Lib.Requests
import SocketIOJava.ClientFrames
import SocketIOJava.Hearing
import SocketIOJava.PostData

namespace SocketIOJava.PollingConversation

open Program SocketIOJava.Text SocketIOJava.Frame SocketIOJava.ClientParser SocketIOJava.ClientSocket
  SocketIOJava.ClientDelivery SocketIOJava.ClientFrames
open Requests (Client Server Net Move Adds Settled Waits)

/-! ## The client on a transport that posts -/

/-- what the client does on its own account, and the responses of its polls -/
def Own (o : Options) : ClientSocket.Event → Prop
  | .script | .handshakeFailed | .socketError | .pollFailed _ | .closeTimeout _ | .heartbeatTimeout | .connectTimeout .off
  | .connectTimeout .exhausted => True
  | .data i text n => i = 0 ∧ ∀ p ∈ (decodePayload o.js n text).getD [], p.content ≠ .heartbeat
  | _ => False

abbrev ClientInput (o : Options) := { i : ClientSocket.Input // Own o i.event }

/-- the texts of the POSTs that wait -/
def waiting (s : ClientSocket.St) : List JString := s.socket.posts.map Post.text

def client (o : Options) : Client ClientSocket.St (ClientInput o) (List ClientSocket.Act) JString where
  act s i := step o s i
  respond s acts j ok := step o s ⟨.posted j ok, acts⟩
  made s := wire s.log
  waiting := waiting

variable {o : Options} {s s' : ClientSocket.St}

/-- the socket uses transport 0, which posts like all others that it has, and what it said are packets in one text each -/
structure Posting (o : Options) (s : ClientSocket.St) : Prop where
  transport : s.socket.transport = some 0
  kinds : ∀ t ∈ s.socket.transports, t.kind = .xhr
  worded : ∀ e ∈ said s.log, e.1 ≠ [] ∧ e.2 = textsOf o .xhr e.1

theorem Posting.not_websocket (h : Posting o s) (i : ℕ) : kindAt s i ≠ some .websocket := by
  intro hsocket
  obtain ⟨t, ht, hkind⟩ := Option.map_eq_some_iff.1 hsocket
  cases (h.kinds t (List.mem_of_getElem? ht)).symm.trans hkind

theorem Posting.say (h : Posting o s) (hs : s'.socket.transport = s.socket.transport)
    (hts : s'.socket.transports = s.socket.transports) {ps : List Packet} {texts : List JString} (hne : ps ≠ [])
    (htexts : texts = textsOf o .xhr ps) (hsaid : said s'.log = said s.log ++ [(ps, texts)]) : Posting o s' := by
  refine ⟨hs.trans h.transport, hts ▸ h.kinds, ?_⟩
  rw [hsaid]
  exact List.forall_mem_append.2 ⟨h.worded, List.forall_mem_singleton.2 ⟨hne, htexts⟩⟩

/-- a client on such a transport stays there, and posts what it says -/
def Posts (o : Options) (s s' : ClientSocket.St) : Prop :=
  Posting o s → Posting o s' ∧ Adds (client o) s s' (waiting s)

instance : Std.Refl (Posts o) := ⟨fun _ h => ⟨h, [], (List.append_nil _).symm, (List.append_nil _).symm⟩⟩

instance : IsTrans ClientSocket.St (Posts o) where
  trans s t u hst htu h := by
    obtain ⟨hposting, new, hmade, hwaiting⟩ := hst h
    obtain ⟨hposting', new', hmade', hwaiting'⟩ := htu hposting
    refine ⟨hposting', new ++ new', ?_, ?_⟩
    · rw [hmade', hmade, List.append_assoc]
    · change waiting u = waiting s ++ (new ++ new')
      rw [show waiting u = waiting t ++ new' from hwaiting', show waiting t = waiting s ++ new from hwaiting, List.append_assoc]

/-- a change that neither says nor posts anything -/
theorem posts_of (hposting : Posting o s → Posting o s') (hsaid : said s'.log = said s.log)
    (hposts : s'.socket.posts = s.socket.posts) : Posts o s s' := by
  refine fun h => ⟨hposting h, [], ?_, ?_⟩
  · change wire s'.log = wire s.log ++ []
    rw [wire, hsaid, List.append_nil]
    rfl
  · change waiting s' = waiting s ++ []
    rw [waiting, hposts, List.append_nil]
    rfl

/-- what is said in one text is posted -/
theorem posts_posted {i : ℕ} {ps : List Packet} {text : JString} (hne : ps ≠ []) (htext : textsOf o .xhr ps = [text])
    (hs : s'.socket.transport = s.socket.transport) (hts : s'.socket.transports = s.socket.transports)
    (hsaid : said s'.log = said s.log ++ [(ps, textsOf o .xhr ps)]) (hposts : s'.socket.posts = s.socket.posts ++ [⟨i, text⟩]) :
    Posts o s s' := by
  refine fun h => ⟨h.say hs hts hne rfl hsaid, [text], ?_, ?_⟩
  · change wire s'.log = wire s.log ++ [text]
    rw [wire, hsaid, List.flatMap_append, List.flatMap_singleton, htext]
    rfl
  · change waiting s' = waiting s ++ [text]
    rw [waiting, hposts, List.map_append]
    rfl

theorem posts_packet (p : Packet) : Along (Posts o) (packet o p) := by
  intro s
  have hgiven := packet_cases o p s
  generalize (packet o p s).2 = s' at hgiven
  cases hgiven with
  | buffered _ => exact posts_of (fun h => ⟨h.transport, h.kinds, h.worded⟩) rfl rfl
  | raised _ _ _ => exact posts_of (fun h => ⟨h.transport, h.kinds, h.worded⟩) rfl rfl
  | written _ _ i hkind => exact fun h => absurd hkind (h.not_websocket i)
  | posted _ _ i _ text htext => exact posts_posted (List.cons_ne_nil p []) htext rfl rfl rfl rfl

theorem posts_flush : Along (Posts o) (setBuffer o false) := by
  intro s
  have hflush := setBuffer_cases o s
  generalize (setBuffer o false s).2 = s' at hflush
  cases hflush with
  | idle _ => exact posts_of (fun h => ⟨h.transport, h.kinds, h.worded⟩) rfl rfl
  | raised _ _ => exact posts_of (fun h => ⟨h.transport, h.kinds, h.worded⟩) rfl rfl
  | written _ _ i hkind => exact fun h => absurd hkind (h.not_websocket i)
  | posted _ hne i _ text htext => exact posts_posted hne htext rfl rfl rfl rfl

theorem posts_follows : Follows o (Posts o) where
  same _ _ hs :=
    posts_of (fun h => ⟨hs.transport.trans h.transport, hs.transports ▸ h.kinds, hs.said ▸ h.worded⟩) hs.said hs.posts
  packet := posts_packet
  buffering _ := posts_of (fun h => ⟨h.transport, h.kinds, h.worded⟩) rfl rfl
  disconnected _ := posts_of (fun h => ⟨h.transport, h.kinds, h.worded⟩) rfl rfl
  altered i _ _ _ hkind := posts_of (fun h => ⟨h.transport, kinds_alter hkind h.kinds i, h.worded⟩) rfl rfl

/-! ### One POST at a time -/

/-- no transport was opened, and no heartbeat answered, while a POST was in flight -/
def Unmarked (s : ClientSocket.St) : Prop := crossings s.log = 0

theorem unmarked_flush : Along (Preserves Unmarked) (setBuffer o false) := fun s h => (crossings_flush s).trans h

theorem unmarked_follows : Follows o (Preserves Unmarked) where
  same _ _ hs h := hs.crossings.trans h
  packet p s h := by
    have hgiven := packet_cases o p s
    generalize (packet o p s).2 = s' at hgiven
    cases hgiven <;> exact h
  buffering _ h := h
  disconnected _ h := h
  altered _ _ _ _ _ h := h

/-- what holds of the client as long as it stays on its transport -/
structure Calling (o : Options) (s : ClientSocket.St) : Prop where
  ordered : Ordered s
  single : OneByOne s
  unmarked : Unmarked s
  posting : Posting o s

theorem Calling.with_acts (h : Calling o s) (acts : List ClientSocket.Act) : Calling o { s with acts := acts } where
  ordered := ⟨h.ordered.account, h.ordered.flushed, h.ordered.usable⟩
  single hnone := ⟨(h.single hnone).single, (h.single hnone).waits⟩
  unmarked := h.unmarked
  posting := ⟨h.posting.transport, h.posting.kinds, h.posting.worded⟩

theorem Own.steady {e : ClientSocket.Event} (he : Own o e) (h : Posting o s) : Steady s e := by
  cases e with
  | data i text n => obtain ⟨rfl, -⟩ := he; exact h.transport
  | handshake _ => exact he.elim
  | _ => trivial

/-- what the client does on its own account is along what its methods are along -/
theorem Own.along {R : ClientSocket.St → ClientSocket.St → Prop} [Std.Refl R] [IsTrans ClientSocket.St R] (k : Follows o R)
    (hreceived : ∀ p s, R s (s.push (.received p)))
    (hconnected : ∀ s, R s { s with socket.connected := true, socket.connecting := false })
    (hflush : Along R (setBuffer o false)) {e : ClientSocket.Event} (he : Own o e) (n : ℕ) :
    Along R (perform o (behave o n) (handling (behave o n)) e) := by
  have hcb := k.along_handling n
  by_cases hplain : Conducts.Plain e
  · exact (k.conducts hcb).along_plain (k.along_behave n) hplain
  cases e with
  | connectTimeout next =>
    refine (k.conducts hcb).along_connectTimeout (k.along_connectFailed hcb) ?_
    rintro found rfl
    exact he.elim
  | data i text m =>
    refine along_get.bind fun s => .ite (fun _ => ?_) fun _ => along_pure _
    refine along_whenever fun _ => along_forEach fun p hp => ?_
    refine k.along_transportOnPacket hcb i p (hreceived p) (k.along_onConnect hcb hconnected hflush) fun hbeat => ?_
    exact absurd hbeat (he.2 p hp)
  | handshake _ | ready | socketOpen _ | posted _ _ | retry _ => exact he.elim
  | _ => exact absurd trivial hplain

/-- one step of the client's own -/
theorem calling_act (i : ClientInput o) (h : Calling o s) :
    Calling o (step o s i) ∧ Adds (client o) s (step o s i) (waiting s) := by
  have hacts := h.with_acts i.1.acts
  have hposts : Along (Posts o) (perform o (behave o (i.1.acts.length + 1)) (handling (behave o (i.1.acts.length + 1))) i.1.event) :=
    i.2.along posts_follows (fun _ _ => posts_of (fun h => ⟨h.transport, h.kinds, h.worded⟩) rfl rfl)
      (fun _ => posts_of (fun h => ⟨h.transport, h.kinds, h.worded⟩) rfl rfl) posts_flush _
  obtain ⟨hposting, hadds⟩ := hposts { s with acts := i.1.acts } hacts.posting
  refine ⟨⟨?_, ?_, ?_, hposting⟩, hadds⟩
  · exact ordered_perform _ (i.2.steady hacts.posting) hacts.ordered
  · exact oneByOne_perform _ i.1.event _ hacts.single
  · exact i.2.along unmarked_follows (fun _ _ h => h) (fun _ h => h) unmarked_flush _ _ hacts.unmarked

/-- a response takes its POST off, and new ones wait behind the others -/
theorem posted_adds {cb : Callback} (hcb : ∀ h, Along (Posts o) (cb h)) (j : ℕ) (ok : Bool) (h : Posting o s) :
    Posting o (posted o cb j ok s).2 ∧ Adds (client o) s (posted o cb j ok s).2 ((waiting s).eraseIdx j) := by
  unfold posted
  rw [get_bind]
  cases hpost : s.socket.posts[j]? with
  | none =>
    have hshort : (waiting s).length ≤ j := (List.length_map Post.text).trans_le (List.getElem?_eq_none_iff.1 hpost)
    rw [List.eraseIdx_of_length_le hshort]
    exact ⟨h, [], (List.append_nil _).symm, (List.append_nil _).symm⟩
  | some post =>
    let s₁ : ClientSocket.St := { s with socket.posts := s.socket.posts.eraseIdx j }
    have hrest : Along (Posts o) (if ok then setBuffer o false else transportOnClose o cb post.transport) :=
      .ite (fun _ => posts_flush) fun _ => (posts_follows.conducts hcb).along_transportOnClose post.transport
    obtain ⟨hposting, new, hmade, hwaiting⟩ := hrest s₁ ⟨h.transport, h.kinds, h.worded⟩
    refine ⟨hposting, new, hmade, ?_⟩
    rw [waiting, List.eraseIdx_map]
    exact hwaiting

/-- the client learns how its POST has ended -/
theorem calling_respond (j : ℕ) (ok : Bool) (acts : List ClientSocket.Act) (h : Calling o s) :
    Calling o (step o s ⟨.posted j ok, acts⟩) ∧ Adds (client o) s (step o s ⟨.posted j ok, acts⟩) ((waiting s).eraseIdx j) := by
  have hacts := h.with_acts acts
  obtain ⟨hposting, hadds⟩ := posted_adds (posts_follows.along_handling (acts.length + 1)) j ok hacts.posting
  refine ⟨⟨?_, ?_, ?_, hposting⟩, hadds⟩
  · exact ordered_perform (e := .posted j ok) (acts.length + 1) trivial hacts.ordered
  · exact oneByOne_perform (acts.length + 1) (.posted j ok) _ hacts.single
  · exact (unmarked_follows.conducts (unmarked_follows.along_handling (acts.length + 1))).along_posted unmarked_flush
      (fun _ _ h => h) j ok _ hacts.unmarked

theorem client_law (o : Options) : (client o).Law (Calling o) where
  act_inv _ i h := (calling_act i h).1
  respond_inv _ acts j ok h := (calling_respond j ok acts h).1
  single _ h := (List.length_map Post.text).trans_le (h.single h.unmarked).single
  act_adds _ i h := (calling_act i h).2
  respond_adds _ acts j ok h := (calling_respond j ok acts h).2

/-! ## The session -/

open Run (serveHttp app HttpEvent)
open PostData (decodePostData decodePostData_other utf8String)
open Traversal Hearing

abbrev PollingSession := Session.St JettyContinuation.Handler

/-- what happens to the session besides the POSTs: polls, callbacks of the container, timers and the application -/
def Aside : Run.Event HttpEvent → Prop
  | .container .connect | .container (.post _) => False
  | _ => True

abbrev SessionInput := { i : Run.Input HttpEvent // Aside i.event }

/-- the content type of `XHR.request('POST')` -/
def PLAIN : JString := str "text/plain;charset=UTF-8"

/-- the request with this text as its body -/
def post (newString : List UInt8 → JString) (text : JString) : HttpEvent :=
  .post (if text = [] then none else some (decodePostData newString (some PLAIN) text))

/-- the POST of this text is handled to its end by a session that is open -/
def handles (newString : List UInt8 → JString) (t : PollingSession) (d : List Session.Act × List Bool) (text : JString) : Bool :=
  t.session.handler && t.handler.is_open &&
    (serveHttp (app (d.1.length + 1)) (post newString text) { t with acts := d.1, io := d.2 }).1.isOk

def server (newString : List UInt8 → JString) :
    Server PollingSession SessionInput (List Session.Act × List Bool) JString SocketIOFrame where
  act t i := Run.step serveHttp t i
  serve t d text := Run.step serveHttp t ⟨.container (post newString text), d.1, d.2⟩
  whole := handles newString
  record t := heard t.log

variable {newString : List UInt8 → JString} {t : PollingSession}

theorem post_text (newString : List UInt8 → JString) {text : JString} (hne : text ≠ []) :
    post newString text = .post (some (.ok text)) := by
  unfold post
  rw [if_neg hne, decodePostData_other (by decide)]

/-- the requests and callbacks that bring no frame -/
theorem local_aside (n : ℕ) {e : HttpEvent} (he : Aside (.container e)) :
    Along (JettyTraversal.Adds Local) (serveHttp (app n) e) := by
  have w := JettyTraversal.Http.host (deaf_http.serving n)
  have hshutdown : Along (JettyTraversal.Adds Local) (Session.onShutdown (app n)) :=
    (deaf_http.serving n).toOutgoing.along_onShutdown
  cases e with
  | connect | post _ => exact he.elim
  | onComplete cont => exact w.along_onComplete cont
  | onTimeout cont => exact w.along_onTimeoutContinuation cont
  | get =>
    have hget : Along (JettyTraversal.Adds Local) (JettyContinuation.handleGet (app n)) := by
      refine along_get.bind fun s => .ite (fun _ => ?_) fun _ => .ite (fun _ => ?_) fun _ => .ite (fun _ => ?_) fun _ => ?_
      · exact along_modify fun s => w.hosted s (.responded 404) trivial
      · exact along_modify fun s => w.hosted s (.responded 404) trivial
      · exact w.along_answer
      · exact w.along_park
    exact along_get.bind fun s => .ite (fun _ => hget.ending fun s => w.update s _ rfl rfl id) fun _ => hshutdown

/-- of a text that an open session takes it receives the first frames, and all if it handles them to their end -/
theorem heard_taken (cb : Session.Callback JettyContinuation.Handler) (n : ℕ) (hcb : cb = app n) {text : JString}
    {frames : List SocketIOFrame} (h : ReadAs text frames) (hopen : t.handler.is_open = true) :
    ∃ first, heard (JettyContinuation.handlePost cb (some (.ok text)) t).2.log = heard t.log ++ first ∧ first <+: frames ∧
      ((JettyContinuation.handlePost cb (some (.ok text)) t).1.isOk = true → first = frames) := by
  subst hcb
  have w := JettyTraversal.Http.host (deaf_http.serving n)
  have hrun : JettyContinuation.handlePost (app n) (some (.ok text)) t = _ := Receiving.handlePost_eq h hopen
  obtain ⟨first, hheard, hprefix, hall⟩ := deaf_http.heard_frames n frames t
  have hafter (u : PollingSession) : heard (JettyContinuation.closeCheck (app n) u).2.log = heard u.log :=
    heard_of_adds (w.along_closeCheck u)
  rcases hframes : forEach frames (Session.onMessage (app n)) t with ⟨_ | _, u⟩
  · rw [hframes] at hheard
    rw [bind_of_error hframes] at hrun
    refine ⟨first, by rw [hrun]; exact hheard, hprefix, fun hok => ?_⟩
    rw [hrun] at hok
    cases hok
  · rw [hframes] at hheard hall
    rw [bind_of_ok hframes] at hrun
    exact ⟨first, by rw [hrun, hafter]; exact hheard, hprefix, fun _ => hall rfl⟩

/-- a POST to a session that is gone or closed brings nothing -/
theorem heard_refused (newString : List UInt8 → JString) (d : List Session.Act × List Bool) (text : JString)
    (t : PollingSession) (h : (t.session.handler && t.handler.is_open) = false) :
    heard ((server newString).serve t d text).log = heard t.log ∧ handles newString t d text = false := by
  refine ⟨?_, by unfold handles; rw [h, Bool.false_and]⟩
  let t₀ : PollingSession := { t with acts := d.1, io := d.2 }
  let cb : Session.Callback JettyContinuation.Handler := app (d.1.length + 1)
  change heard (serveHttp cb (post newString text) t₀).2.log = heard t.log
  unfold post
  rw [Run.serveHttp_post cb _ t₀]
  cases hh : t.session.handler with
  | false =>
    rw [if_neg Bool.false_ne_true]
    exact heard_of_adds ((deaf_http.serving _).toOutgoing.along_onShutdown t₀)
  | true =>
    rw [hh, Bool.true_and] at h
    have hskip (decoded : Option (Except JavaException JString)) :
        JettyContinuation.handlePost cb decoded t₀ = (.ok (), t₀) := by
      unfold JettyContinuation.handlePost
      rw [get_bind, if_neg (by rw [show t₀.handler.is_open = false from h]; exact Bool.false_ne_true)]
      rfl
    rw [if_pos rfl, hskip]

/-- of a POST the session receives the first frames, and all if it is open and handles them to their end -/
theorem heard_post (d : List Session.Act × List Bool) {text : JString} {frames : List SocketIOFrame} (h : ReadAs text frames)
    (t : PollingSession) :
    ∃ first, heard ((server newString).serve t d text).log = heard t.log ++ first ∧ first <+: frames ∧
      (handles newString t d text = true → first = frames) := by
  cases hlive : t.session.handler && t.handler.is_open with
  | false =>
    obtain ⟨hheard, hfails⟩ := heard_refused newString d text t hlive
    exact ⟨[], hheard.trans (List.append_nil _).symm, List.nil_prefix, fun h => absurd (hfails.symm.trans h) Bool.false_ne_true⟩
  | true =>
    obtain ⟨hh, hopen⟩ := Bool.and_eq_true_iff.1 hlive
    let t₀ : PollingSession := { t with acts := d.1, io := d.2 }
    let cb : Session.Callback JettyContinuation.Handler := app (d.1.length + 1)
    have hserve : (server newString).serve t d text = (serveHttp cb (post newString text) t₀).2 := rfl
    have hhandle (decoded : Option (Except JavaException JString)) :
        serveHttp cb (.post decoded) t₀ = JettyContinuation.handlePost cb decoded t₀ :=
      (Run.serveHttp_post cb decoded t₀).trans (if_pos hh)
    by_cases hempty : text = []
    · -- a body of length zero is answered with an error, and is no frame
      subst hempty
      have hframes : frames = [] := by
        have hread : parse [] = some (.ok []) := rfl
        cases hread.symm.trans h
        rfl
      have hrefused : JettyContinuation.handlePost cb none t₀ = (.ok (), JettyContinuation.sendError 400 t₀) := by
        unfold JettyContinuation.handlePost
        rw [get_bind, if_pos (show t₀.handler.is_open = true from hopen)]
        rfl
      refine ⟨[], ?_, List.nil_prefix, fun _ => hframes.symm⟩
      rw [hserve, post, if_pos rfl, hhandle, hrefused, List.append_nil]
      rfl
    · obtain ⟨first, hheard, hprefix, hall⟩ := heard_taken (t := t₀) cb _ rfl h hopen
      rw [← hhandle, ← post_text newString hempty] at hheard hall
      exact ⟨first, hheard, hprefix, fun hwhole => hall (Bool.and_eq_true_iff.1 hwhole).2⟩

theorem server_law (newString : List UInt8 → JString) : (server newString).Law (fun text => ∃ frames, ReadAs text frames) framesOf where
  act_record t i := by
    have hadds := deaf_http.along_perform (i.1.acts.length + 1) fun c hc => local_aside _ (hc ▸ i.2)
    exact heard_of_adds (hadds { t with acts := i.1.acts, io := i.1.io })
  serve_record t d text := by
    rintro ⟨frames, h⟩
    rw [h.framesOf_eq]
    exact heard_post d h t

/-! ## The start -/

/-- what the page and the timers do until the transport is open -/
abbrev PageInput := { i : ClientSocket.Input // Conducts.Local i.event }

/-- the client found a transport that posts, and has gone on with it -/
def opening (o : Options) (page : List PageInput) : ClientSocket.St :=
  page.foldl (fun s (i : PageInput) => step o s i.1) (step o created ⟨.handshake (some .xhr), []⟩)

/-- a session right after the request that created it -/
def connected (config : JettyContinuation.SocketIOConfig) (acts : List Session.Act) (io : List Bool) : PollingSession :=
  Run.step serveHttp (JettyContinuation.created config false) ⟨.container .connect, acts, io⟩

def start (o : Options) (page : List PageInput) (config : JettyContinuation.SocketIOConfig) (acts : List Session.Act)
    (io : List Bool) : Net ClientSocket.St PollingSession :=
  ⟨opening o page, connected config acts io, [], true⟩

/-- a socket that is not connected yet and has said nothing -/
structure Mute (s : ClientSocket.St) : Prop where
  connected : s.socket.connected = false
  posts : s.socket.posts = []
  said : said s.log = []
  unmarked : Unmarked s

theorem mute_follows : Follows o (Preserves Mute) where
  same _ _ hs h :=
    ⟨hs.connected.trans h.connected, hs.posts.trans h.posts, hs.said.trans h.said, hs.crossings.trans h.unmarked⟩
  packet p s h := by
    have hgiven := packet_cases o p s
    generalize (packet o p s).2 = s' at hgiven
    cases hgiven with
    | buffered _ => exact ⟨h.connected, h.posts, h.said, h.unmarked⟩
    | raised hconnected _ _ => cases h.connected.symm.trans hconnected
    | written hconnected _ => cases h.connected.symm.trans hconnected
    | posted hconnected _ i _ text => cases h.connected.symm.trans hconnected
  buffering _ h := ⟨h.connected, h.posts, h.said, h.unmarked⟩
  disconnected _ h := ⟨rfl, h.posts, h.said, h.unmarked⟩
  altered _ _ _ _ _ h := ⟨h.connected, h.posts, h.said, h.unmarked⟩

theorem mute_flush : Along (Preserves Mute) (setBuffer o false) := by
  intro s h
  have hflush := setBuffer_cases o s
  generalize (setBuffer o false s).2 = s' at hflush
  cases hflush with
  | idle _ => exact ⟨h.connected, h.posts, h.said, h.unmarked⟩
  | raised _ _ => exact ⟨h.connected, h.posts, h.said, h.unmarked⟩
  | written hconnected _ => cases h.connected.symm.trans hconnected
  | posted hconnected _ i _ text => cases h.connected.symm.trans hconnected

/-- a transport that opens finds no POST in flight -/
theorem mute_openBuffer : Along (Preserves Mute) (openBuffer o) := by
  intro s h
  have hsame : crossing s = s := if_pos (List.isEmpty_iff.2 h.posts)
  unfold openBuffer
  rw [modify_bind, hsame]
  exact mute_flush s h

theorem posting_follows : Follows o (Preserves (Posting o)) where
  same s s' hs h := (posts_follows.same s s' hs h).1
  packet p s h := (posts_packet p s h).1
  buffering s h := (posts_follows.buffering s h).1
  disconnected s h := (posts_follows.disconnected s h).1
  altered i f s hf hkind h := (posts_follows.altered i f s hf hkind h).1

theorem posting_flush : Along (Preserves (Posting o)) (setBuffer o false) := fun s h => (posts_flush s h).1

/-- what holds of the client before its transport is open -/
structure Opening (o : Options) (s : ClientSocket.St) : Prop where
  mute : Mute s
  ordered : Ordered s
  posting : Posting o s

theorem opening_step (i : PageInput) (h : Opening o s) : Opening o (step o s i) := by
  let s₀ : ClientSocket.St := { s with acts := i.1.acts }
  have kmute := mute_follows (o := o)
  have kposting := posting_follows (o := o)
  have hmute : Mute s₀ := ⟨h.mute.connected, h.mute.posts, h.mute.said, h.mute.unmarked⟩
  have hposting : Posting o s₀ := ⟨h.posting.transport, h.posting.kinds, h.posting.worded⟩
  have hcb := kmute.along_handling (i.1.acts.length + 1)
  have hcb' := kposting.along_handling (i.1.acts.length + 1)
  refine ⟨?_, ?_, ?_⟩
  · refine (kmute.conducts hcb).along_local (kmute.along_behave _) (kmute.along_connectFailed hcb) mute_openBuffer mute_flush
      (fun j s h => ⟨h.connected, ?_, h.said, h.unmarked⟩) i.2 s₀ hmute
    change s.socket.posts.eraseIdx j = []
    rw [h.posts]
    rfl
  · exact ordered_perform (s := s₀) _ (steady_of_local i.2 _) ⟨h.ordered.account, h.ordered.flushed, h.ordered.usable⟩
  · exact (kposting.conducts hcb').along_local (kposting.along_behave _) (kposting.along_connectFailed hcb')
      (along_openBuffer (fun _ h => ⟨h.transport, h.kinds, h.worded⟩) posting_flush) posting_flush
      (fun _ _ h => ⟨h.transport, h.kinds, h.worded⟩) i.2 s₀ hposting

/-- until the transport is open the client is on its transport, and says nothing -/
theorem opening_inv (o : Options) (page : List PageInput) : Mute (opening o page) ∧ Calling o (opening o page) := by
  have hfound : Opening o (step o created ⟨.handshake (some .xhr), []⟩) :=
    ⟨⟨rfl, rfl, rfl, rfl⟩, ⟨rfl, fun _ _ => rfl, nofun⟩, rfl, List.forall_mem_singleton.2 rfl,
      fun _ h => absurd h List.not_mem_nil⟩
  have hpage : Opening o (opening o page) :=
    List.foldlRecOn page _ hfound fun _ h i _ => opening_step i h
  have hsingle : OneByOne (opening o page) := fun _ =>
    ⟨(congrArg List.length hpage.mute.posts).trans_le (Nat.zero_le 1), fun hne => absurd hpage.mute.posts hne⟩
  exact ⟨hpage.mute, hpage.ordered, hsingle, hpage.mute.unmarked, hpage.posting⟩

theorem heard_connected (config : JettyContinuation.SocketIOConfig) (acts : List Session.Act) (io : List Bool) :
    heard (connected config acts io).log = [] := by
  have q := deaf_http
  have hconnect : Along (JettyTraversal.Adds Local) (JettyContinuation.connect (app (acts.length + 1))) := by
    refine (JettyTraversal.Http.host (q.serving _)).along_connect (fun _ => JettyTraversal.adds_of_log rfl) ?_
    exact local_opens.along_onConnect local_closed (fun s _ => q.along_call _ .onConnect s) (q.calls_local _).abort
  exact heard_of_adds (hconnect { JettyContinuation.created config false with acts := acts, io := io })

theorem start_settled (o : Options) (page : List PageInput) (config : JettyContinuation.SocketIOConfig) (acts : List Session.Act)
    (io : List Bool) : Settled (client o) (server newString) framesOf (start o page config acts io) [] [] := by
  obtain ⟨hmute, -⟩ := opening_inv o page
  have hwaiting : waiting (opening o page) = [] := congrArg (List.map Post.text) hmute.posts
  have hwire : wire (opening o page).log = [] := congrArg (List.flatMap Prod.snd) hmute.said
  have hheard := heard_connected config acts io
  refine ⟨?_, hwire, ?_, fun _ => hheard⟩
  · change Waits (waiting (opening o page)) [] []
    rw [hwaiting]
    exact .none
  · change (heard (connected config acts io).log).Sublist []
    rw [hheard]

/-! ## From the script to the session -/

/-- what was said in one text each is read as the frames of its packets -/
theorem readAs_posts {es : List (List Packet × List JString)} (hworded : ∀ e ∈ es, e.1 ≠ [] ∧ e.2 = textsOf o .xhr e.1)
    (h : ∀ p ∈ es.flatMap Prod.fst, Legible o.wellFormed p) (hfits : ∀ text ∈ es.flatMap Prod.snd, Fits text) :
    (∀ text ∈ es.flatMap Prod.snd, ∃ frames, ReadAs text frames) ∧
      List.Forall₂ (Delivered o.wellFormed) (es.flatMap Prod.fst) ((es.flatMap Prod.snd).flatMap framesOf) := by
  induction es with
  | nil => exact ⟨fun _ h => absurd h List.not_mem_nil, .nil⟩
  | cons e es ih =>
    obtain ⟨⟨hne, htexts⟩, hes⟩ := List.forall_mem_cons.1 hworded
    rw [List.flatMap_cons] at h hfits
    obtain ⟨hfirst, hrest⟩ := List.forall_mem_append.1 h
    obtain ⟨hfitsFirst, hfitsRest⟩ := List.forall_mem_append.1 hfits
    obtain ⟨hread, hdelivered⟩ := ih hes hrest hfitsRest
    obtain ⟨fss, hreads, hall⟩ := readAs_texts .xhr hne hfirst (htexts ▸ hfitsFirst)
    rw [← htexts] at hreads
    obtain ⟨frames, hframes, rfl⟩ : ∃ frames, (∀ text ∈ e.2, ReadAs text frames) ∧ fss = [frames] := by
      rw [htexts] at hreads ⊢
      cases hreads with
      | cons hone hnone => cases hnone; exact ⟨_, List.forall_mem_singleton.2 hone, rfl⟩
    have hone : e.2.flatMap framesOf = frames := by
      rw [htexts] at hframes ⊢
      exact (List.flatMap_singleton _ _).trans (hframes _ (List.mem_singleton_self _)).framesOf_eq
    refine ⟨?_, ?_⟩
    · rw [List.flatMap_cons]
      exact List.forall_mem_append.2 ⟨fun text ht => ⟨frames, hframes text ht⟩, hread⟩
    · rw [List.flatMap_cons, List.flatMap_cons, List.flatMap_append, hone]
      exact List.rel_append (by simpa using hall) hdelivered

/-- each thing that was said has a text of its own -/
theorem split_said {es : List (List Packet × List JString)} (h : ∀ e ∈ es, ∃ text, e.2 = [text]) {past left : List JString}
    (hsplit : es.flatMap Prod.snd = past ++ left) :
    ∃ es₁ es₂, es = es₁ ++ es₂ ∧ es₁.flatMap Prod.snd = past ∧ es₂.flatMap Prod.snd = left := by
  induction es generalizing past with
  | nil =>
    obtain ⟨rfl, rfl⟩ := List.append_eq_nil_iff.1 hsplit.symm
    exact ⟨[], [], rfl, rfl, rfl⟩
  | cons e es ih =>
    obtain ⟨⟨text, htext⟩, hes⟩ := List.forall_mem_cons.1 h
    cases past with
    | nil => exact ⟨[], e :: es, rfl, rfl, hsplit⟩
    | cons x past =>
      rw [List.flatMap_cons, htext] at hsplit
      obtain ⟨rfl, hrest⟩ := List.cons_eq_cons.1 hsplit
      obtain ⟨es₁, es₂, rfl, hpast, hleft⟩ := ih hes hrest
      exact ⟨e :: es₁, es₂, rfl, by rw [List.flatMap_cons, htext, hpast]; rfl, hleft⟩

/-- some of the frames of these packets, in order -/
theorem sublist_delivered {wellFormed : Bool} {ps : List Packet} {fs some_ : List SocketIOFrame}
    (h : List.Forall₂ (Delivered wellFormed) ps fs) (hsome : some_.Sublist fs) :
    List.SublistForall₂ (fun f p => Delivered wellFormed p f) some_ ps := by
  induction hsome generalizing ps with
  | slnil => exact .nil
  | cons f _ ih =>
    cases h with
    | cons _ h => exact .cons_right (ih h)
  | cons_cons f _ ih =>
    cases h with
    | cons hf h => exact .cons hf (ih h)

abbrev Moves (o : Options) :=
  List (Move (ClientInput o) (List ClientSocket.Act) SessionInput (List Session.Act × List Bool))

/-- **From the script to the session, over POSTs.** In every run of the two parties, and for packets that the session reads
correctly, the frames that the session has received are those of packets that the client was given, in their order and each
at most once. They are those of all packets, up to the POST that is not handled yet and the client's buffer, as long as every
POST was handled to its end. -/
theorem posted_in_order (newString : List UInt8 → JString) (o : Options) (page : List PageInput)
    (config : JettyContinuation.SocketIOConfig) (acts : List Session.Act) (io : List Bool) (ms : Moves o)
    (hlegible : ∀ p ∈ given (Requests.run (client o) (server newString) (start o page config acts io) ms).client.log,
      Legible o.wellFormed p)
    (hfits : ∀ text ∈ wire (Requests.run (client o) (server newString) (start o page config acts io) ms).client.log, Fits text) :
    let n := Requests.run (client o) (server newString) (start o page config acts io) ms
    ∃ past left, given n.client.log = past ++ left ++ n.client.socket.buffer ∧
      List.SublistForall₂ (fun f p => Delivered o.wellFormed p f) (heard n.server.log) past ∧
      (n.lossless = true → List.Forall₂ (Delivered o.wellFormed) past (heard n.server.log)) ∧
      (false ∉ n.handled → left = []) := by
  intro n
  have hstart := opening_inv o page
  have hcalling : Calling o n.client := Requests.inv_run (client_law o) hstart.2 ms
  have haccount : (said n.client.log).flatMap Prod.fst ++ n.client.socket.buffer = given n.client.log := hcalling.ordered.account
  have hlegibleSaid : ∀ p ∈ (said n.client.log).flatMap Prod.fst, Legible o.wellFormed p := fun p hp =>
    hlegible p (haccount ▸ List.mem_append_left _ hp)
  have hread := (readAs_posts hcalling.posting.worded hlegibleSaid hfits).1
  obtain ⟨past, left, hsettled⟩ :=
    Requests.settled_run (client_law o) (server_law newString) hstart.2 (start_settled o page config acts io) ms hread
  have hone : ∀ e ∈ said n.client.log, ∃ text, e.2 = [text] := fun e he => ⟨_, (hcalling.posting.worded e he).2⟩
  have hmade : (said n.client.log).flatMap Prod.snd = past ++ left := hsettled.made
  obtain ⟨es₁, es₂, hsaid, hpast, hleft⟩ := split_said hone hmade
  have hworded : ∀ e ∈ es₁, e.1 ≠ [] ∧ e.2 = textsOf o .xhr e.1 := fun e he =>
    hcalling.posting.worded e (hsaid ▸ List.mem_append_left _ he)
  have hdelivered : List.Forall₂ (Delivered o.wellFormed) (es₁.flatMap Prod.fst) (past.flatMap framesOf) := by
    rw [← hpast]
    refine (readAs_posts hworded (fun p hp => hlegibleSaid p ?_) fun text ht => hfits text ?_).2
    · rw [hsaid, List.flatMap_append]
      exact List.mem_append_left _ hp
    · change text ∈ (said n.client.log).flatMap Prod.snd
      rw [hsaid, List.flatMap_append]
      exact List.mem_append_left _ ht
  refine ⟨es₁.flatMap Prod.fst, es₂.flatMap Prod.fst, ?_, sublist_delivered hdelivered hsettled.record, fun hl => ?_,
    fun hall => ?_⟩
  · rw [← haccount, hsaid, List.flatMap_append]
  · rw [show heard n.server.log = past.flatMap framesOf from hsettled.whole hl]
    exact hdelivered
  · have hnone : left = [] := hsettled.waits.all_handled hall
    have hempty : es₂ = [] := by
      rw [hnone] at hleft
      refine List.eq_nil_iff_forall_not_mem.2 fun e he => ?_
      obtain ⟨text, htext⟩ := hone e (hsaid ▸ List.mem_append_right _ he)
      have hmem : text ∈ es₂.flatMap Prod.snd := List.mem_flatMap.2 ⟨e, he, htext ▸ List.mem_singleton_self text⟩
      rw [hleft] at hmem
      exact absurd hmem List.not_mem_nil
    rw [hempty]
    rfl

/-- a page sends two messages before its socket is connected, and their POST takes both -/
def twoMessages : List PageInput :=
  [⟨⟨.script, [.call (.of []), .call (.send [] (.string (str "a")) false), .call (.send [] (.string (str "b")) false)]⟩, trivial⟩,
    ⟨⟨.ready, []⟩, trivial⟩]

theorem own_connect : Own tenAttempts (.data 0 (str "1::") 4) := ⟨rfl, List.forall_mem_singleton.2 nofun⟩

/-- the application throws on the first of them: the second one is lost, and the third waits in the client's buffer -/
def cutShort : Moves tenAttempts :=
  [.client ⟨⟨.data 0 (str "1::") 4, []⟩, own_connect⟩, .server ⟨⟨.container .get, [], []⟩, trivial⟩,
    .client ⟨⟨.script, [.call (.send [] (.string (str "c")) false)]⟩, trivial⟩, .serve 0 ([.raise .application], []),
    .respond 0 false []]

theorem posted_in_order_cutShort :
    let n := Requests.run (client tenAttempts) (server utf8String)
      (start tenAttempts twoMessages ⟨none, none, none, none⟩ [] []) cutShort
    (heard n.server.log).map (·.data) = [str "a"] ∧ n.lossless = false ∧
      ∃ past left, given n.client.log = past ++ left ++ n.client.socket.buffer ∧
        List.SublistForall₂ (fun f p => Delivered true p f) (heard n.server.log) past ∧
        (n.lossless = true → List.Forall₂ (Delivered true) past (heard n.server.log)) ∧
        (false ∉ n.handled → left = []) := by
  have hgiven : given (Requests.run (client tenAttempts) (server utf8String)
      (start tenAttempts twoMessages ⟨none, none, none, none⟩ [] []) cutShort).client.log =
      [str "a", str "b", str "c"].map messagePacket := by rfl
  refine ⟨by decide +kernel, by decide +kernel,
    posted_in_order utf8String tenAttempts twoMessages ⟨none, none, none, none⟩ [] [] cutShort ?_ ?_⟩
  · rw [hgiven]
    refine List.forall_mem_map.2 fun data hdata => messagePacket_legible ?_
    rintro rfl
    revert hdata
    decide
  · unfold Fits
    decide +kernel

end SocketIOJava.PollingConversation
