/-
Requests by their paths: `SocketIOServlet.serve`, and the transports that it hands requests to.

The path is taken apart in four places: by the servlet, by `Web.extractSessionId` for the HTTP transports, and by the two
socket transports. What a transport then does with the session is not part of this module.

- `path_routed_iff`: a request gets an answer, from the transport that its second part names and about one session id whoever
  reads it, exactly if it is not a GET of a path of two or more slashes.
-/
import Mathlib.Data.List.TakeWhile
import SocketIOJava.Servlet

namespace SocketIOJava.Paths

open SocketIOJava.Text SocketIOJava.Servlet

/-! ## The source -/

structure Request where
  method : JString
  pathInfo : Option JString

/-- the transports that the servlet discovers -/
inductive Transport where
  | jettyWebSocket
  | flashSocket
  | htmlFile
  | xhrMultipart
  | xhrPolling
  | jsonpPolling
deriving DecidableEq, Repr

def Transport.getType : Transport → TransportType
  | .jettyWebSocket => .webSocket
  | .flashSocket => .flashSocket
  | .htmlFile => .htmlFile
  | .xhrMultipart => .xhrMultipart
  | .xhrPolling => .xhrPolling
  | .jsonpPolling => .jsonpPolling

def transportTypes : List TransportType :=
  [.webSocket, .flashSocket, .htmlFile, .jsonpPolling, .xhrMultipart, .xhrPolling, .unknown]

/-- `TransportType.from(name)` -/
def typeFrom (name : JString) : TransportType := (transportTypes.find? (·.toString = name)).getD .unknown

/-- `config.getTransport(type)` -/
def getTransport (transports : List Transport) (type : TransportType) : Option Transport :=
  transports.find? (·.getType = type)

/-- what is sent, or what a transport does, as far as the path decides it -/
inductive Response where
  | badRequest (message : JString)
  | resource (name : JString)
  | handshake (body : JString)
  | upgrade (sessionId : JString)
  | lookup (sessionId : Option JString)
deriving DecidableEq, Repr

/-- `parts[i]` -/
def part (parts : List JString) (i : ℕ) : Except JavaException JString :=
  match parts[i]? with
  | some p => .ok p
  | none => .error .arrayIndexOutOfBounds

/-- a path without its first slash -/
def strip (path : JString) : JString := if (str "/").isPrefixOf path then path.drop 1 else path

/-- `path == null || path.length() == 0 || "/".equals(path)` -/
def Missing (path : Option JString) : Prop := path = none ∨ path = some [] ∨ path = some (str "/")

instance : DecidablePred Missing := fun path =>
  inferInstanceAs (Decidable (path = none ∨ path = some [] ∨ path = some (str "/")))

/-- an empty part and the text `null` count as null -/
def nameOrNull (p : JString) : Option JString := if p = [] ∨ p = str "null" then none else some p

/-- `Web.extractSessionId(request)` -/
def extractSessionId (pathInfo : Option JString) : Option JString := pathInfo.bind Servlet.extractSessionId

/-- the transport's name and the session id, as `JettyWebSocketTransport.handle` takes them from the path -/
def socketNames (pathInfo : Option JString) : Except JavaException (Option JString × Option JString) :=
  if Missing pathInfo then .ok (none, none)
  else
    let parts := split (strip (pathInfo.getD []))
    if parts.length ≥ 3 then do
      let transport ← part parts 1
      let sessionId ← part parts 2
      return (nameOrNull transport, nameOrNull sessionId)
    else .ok (none, none)

/-- `JettyWebSocketTransport.handle`; `transport.equals(..)` is evaluated only for a GET with a session id -/
def handleSocket (r : Request) : Except JavaException Response := do
  let (transport, sessionId) ← socketNames r.pathInfo
  let invalid := Response.badRequest (str "websocket transport error: Invalid request")
  match sessionId with
  | none => .ok invalid
  | some sessionId =>
    if r.method = str "GET" then
      match transport with
      | none => .error .nullPointer
      | some transport =>
        if transport = str "websocket" ∨ transport = str "flashsocket" then .ok (.upgrade sessionId) else .ok invalid
    else .ok invalid

def FLASHFILE_NAME : JString := str "WebSocketMain.swf"

def FLASHFILE_PATH : JString := TransportType.flashSocket.toString ++ str "/" ++ FLASHFILE_NAME

/-- `FlashSocketTransport.handle`; its delegate is the WebSocket transport, without which it is not initialised -/
def handleFlash (r : Request) : Except JavaException Response :=
  let invalid := Response.badRequest (str "Invalid " ++ TransportType.flashSocket.toString ++ str " transport request")
  if Missing r.pathInfo then .ok invalid
  else
    let path := strip (r.pathInfo.getD [])
    let parts := split path
    if r.method = str "GET" then do
      if str "flashsocket" = (← part parts 1) then
        if FLASHFILE_PATH ≠ path then handleSocket r else .ok (.resource FLASHFILE_NAME)
      else .ok invalid
    else .ok invalid

/-- `transport.handle(request, ...)` -/
def Transport.handle (t : Transport) (r : Request) : Except JavaException Response :=
  match t with
  | .jettyWebSocket => handleSocket r
  | .flashSocket => handleFlash r
  | .htmlFile | .xhrMultipart | .xhrPolling | .jsonpPolling => .ok (.lookup (extractSessionId r.pathInfo))

/-- a response, and the transport that the request was delegated to -/
structure Served where
  delegate : Option Transport
  response : Response
deriving DecidableEq, Repr

/-- `serve`, for a request that is not for one of the two files: a handshake, or the work of a transport -/
def dispatch (transports : List Transport) (currentTimeMillis : ℕ) (r : Request) (parts : List JString) :
    Except JavaException Served :=
  if parts.length ≤ 2 then
    .ok ⟨none, .handshake (handshakeBody (transports.map Transport.getType) currentTimeMillis)⟩
  else do
    match getTransport transports (typeFrom (← part parts 1)) with
    | none => return ⟨none, .badRequest (str "Unknown SocketIO transport: " ++ (← part parts 0))⟩
    | some transport => return ⟨some transport, ← transport.handle r⟩

/-- `SocketIOServlet.serve`; the first part is looked at only for a GET -/
def serve (transports : List Transport) (currentTimeMillis : ℕ) (r : Request) : Except JavaException Served :=
  if Missing r.pathInfo then .ok ⟨none, .badRequest (str "Missing SocketIO transport")⟩
  else
    let parts := split (strip (r.pathInfo.getD []))
    if r.method = str "GET" then do
      let first ← part parts 0
      if str "socket.io.js" = first then return ⟨none, .resource (str "socket.io.js")⟩
      else if str "WebSocketMain.swf" = first then return ⟨none, .resource (str "WebSocketMain.swf")⟩
      else dispatch transports currentTimeMillis r parts
    else dispatch transports currentTimeMillis r parts

/-! ## Parts of a path -/

/-- the parts that the servlet sees -/
def segments (r : Request) : List JString := split (strip (r.pathInfo.getD []))

theorem part_of_lt {parts : List JString} {i : ℕ} (h : i < parts.length) : part parts i = .ok parts[i] := by
  unfold part
  rw [List.getElem?_eq_getElem h]

theorem part_nil (i : ℕ) : part [] i = .error .arrayIndexOutOfBounds := by
  unfold part
  rw [List.getElem?_nil]

/-- all parts between the slashes are empty if there is nothing but slashes -/
theorem parts_empty_iff (path : JString) :
    (∀ p ∈ path.splitOnP (· = SLASH), p = []) ↔ ∀ c ∈ path, c = SLASH := by
  induction path with
  | nil => simp [List.splitOnP_nil]
  | cons c path ih =>
    rw [List.splitOnP_cons_eq_if_modifyHead]
    by_cases hc : c = SLASH
    · rw [if_pos (decide_eq_true hc)]
      constructor
      · intro h d hd
        rcases List.mem_cons.1 hd with rfl | hd
        · exact hc
        · exact ih.1 (fun p hp => h p (List.mem_cons_of_mem _ hp)) d hd
      · intro h p hp
        rcases List.mem_cons.1 hp with rfl | hp
        · rfl
        · exact ih.2 (fun d hd => h d (List.mem_cons_of_mem _ hd)) p hp
    · rw [if_neg (by simpa using hc)]
      refine iff_of_false (fun h => ?_) fun h => hc (h c List.mem_cons_self)
      obtain ⟨first, rest, hsplit⟩ := List.exists_cons_of_ne_nil (List.splitOnP_ne_nil (· = SLASH) path)
      rw [hsplit] at h
      exact List.cons_ne_nil _ _ (h (c :: first) List.mem_cons_self)

theorem dropWhile_eq_nil {parts : List JString} :
    (parts.reverse.dropWhile List.isEmpty).reverse = [] ↔ ∀ p ∈ parts, p = [] := by
  rw [List.reverse_eq_nil_iff, List.dropWhile_eq_nil_iff]
  constructor
  · exact fun h p hp => List.isEmpty_iff.1 (h p (List.mem_reverse.2 hp))
  · exact fun h p hp => List.isEmpty_iff.2 (h p (List.mem_reverse.1 hp))

/-- no part is left of a path of slashes, and of no other path -/
theorem split_eq_nil_iff (path : JString) : split path = [] ↔ path ≠ [] ∧ ∀ c ∈ path, c = SLASH := by
  unfold split
  by_cases hslash : SLASH ∈ path
  · rw [if_pos hslash, dropWhile_eq_nil, parts_empty_iff]
    exact ⟨fun h => ⟨List.ne_nil_of_mem hslash, h⟩, fun h => h.2⟩
  · rw [if_neg hslash]
    refine iff_of_false (List.cons_ne_nil _ _) fun ⟨hne, h⟩ => hslash ?_
    obtain ⟨c, path, rfl⟩ := List.exists_cons_of_ne_nil hne
    rw [← h c List.mem_cons_self]
    exact List.mem_cons_self

/-- two or more chars, all of them slashes -/
def Slashes (pathInfo : Option JString) : Prop := ∃ path, pathInfo = some path ∧ 2 ≤ path.length ∧ ∀ c ∈ path, c = SLASH

theorem strip_cases (path : JString) : (∃ rest, path = SLASH :: rest ∧ strip path = rest) ∨
    (∀ rest, path ≠ SLASH :: rest) ∧ strip path = path := by
  have hslash : str "/" = [SLASH] := rfl
  unfold strip
  rw [hslash]
  cases path with
  | nil => exact .inr ⟨fun rest h => (nomatch h), rfl⟩
  | cons c rest =>
    by_cases hc : c = SLASH
    · subst hc
      exact .inl ⟨rest, rfl, by simp⟩
    · refine .inr ⟨fun rest' h => hc (List.cons.inj h).1, if_neg ?_⟩
      simpa using fun h : SLASH = c => hc h.symm

theorem segments_eq_nil_iff {r : Request} (h : ¬ Missing r.pathInfo) : segments r = [] ↔ Slashes r.pathInfo := by
  unfold segments Slashes
  cases hpath : r.pathInfo with
  | none => exact absurd (.inl hpath) h
  | some path =>
    have hne : path ≠ [] := fun he => h (.inr (.inl (by rw [hpath, he])))
    have hroot : path ≠ [SLASH] := fun he => h (.inr (.inr (by rw [hpath, he]; rfl)))
    have hsome : (∃ p, some path = some p ∧ 2 ≤ p.length ∧ ∀ c ∈ p, c = SLASH) ↔ 2 ≤ path.length ∧ ∀ c ∈ path, c = SLASH := by
      simp
    rw [split_eq_nil_iff, hsome, Option.getD_some]
    rcases strip_cases path with ⟨rest, rfl, hstrip⟩ | ⟨hno, hstrip⟩
    · have hrest : rest ≠ [] := fun he => hroot (by rw [he])
      have hlength : 0 < rest.length := List.length_pos_iff.2 hrest
      rw [hstrip]
      constructor
      · rintro ⟨-, hall⟩
        refine ⟨by rw [List.length_cons]; omega, fun c hc => ?_⟩
        rcases List.mem_cons.1 hc with rfl | hc
        · rfl
        · exact hall c hc
      · exact fun ⟨_, hall⟩ => ⟨hrest, fun c hc => hall c (List.mem_cons_of_mem _ hc)⟩
    · have hother : ¬ ∀ c ∈ path, c = SLASH := fun hall => by
        obtain ⟨c, rest, rfl⟩ := List.exists_cons_of_ne_nil hne
        exact hno rest (by rw [hall c List.mem_cons_self])
      rw [hstrip]
      exact iff_of_false (fun hp => hother hp.2) fun hp => hother hp.2

/-! ## What the transports do -/

theorem typeFrom_cases (name : JString) : typeFrom name = .unknown ∨ (typeFrom name).toString = name := by
  unfold typeFrom
  cases hfind : transportTypes.find? (·.toString = name) with
  | none => exact .inl rfl
  | some type =>
    have hname := List.find?_some hfind
    exact .inr (of_decide_eq_true hname)

/-- a transport is found under its own name only -/
theorem name_of_getTransport {transports : List Transport} {name : JString} {t : Transport}
    (h : getTransport transports (typeFrom name) = some t) : t.getType.toString = name := by
  unfold getTransport at h
  have hfound := List.find?_some h
  have htype : t.getType = typeFrom name := of_decide_eq_true hfound
  rcases typeFrom_cases name with hunknown | hname
  · rw [hunknown] at htype
    cases t <;> cases htype
  · rw [htype, hname]

theorem extractSessionId_eq {r : Request} (h : ¬ Missing r.pathInfo) :
    extractSessionId r.pathInfo = (segments r)[2]?.bind nameOrNull := by
  unfold extractSessionId segments Servlet.extractSessionId
  cases hpath : r.pathInfo with
  | none => exact absurd (.inl hpath) h
  | some path =>
    have hroot : ¬ (path = [] ∨ path = str "/") := by
      rintro (he | he)
      · exact h (.inr (.inl (by rw [hpath, he])))
      · exact h (.inr (.inr (by rw [hpath, he])))
    rw [Option.bind_some, Option.getD_some, if_neg hroot]
    change _ = (split (strip path))[2]?.bind nameOrNull
    unfold strip
    cases (split (if (str "/").isPrefixOf path then path.drop 1 else path))[2]? <;> rfl

/-- with three parts and more, the socket transport reads the second and the third -/
theorem socketNames_eq {r : Request} (h : ¬ Missing r.pathInfo) (hthree : 3 ≤ (segments r).length) :
    socketNames r.pathInfo = .ok (nameOrNull (segments r)[1], extractSessionId r.pathInfo) := by
  have hparts : socketNames r.pathInfo = do
      let transport ← part (segments r) 1
      let sessionId ← part (segments r) 2
      return (nameOrNull transport, nameOrNull sessionId) := by
    unfold socketNames
    rw [if_neg h]
    exact if_pos hthree
  rw [hparts, part_of_lt (by omega), ok_bind, part_of_lt (by omega), ok_bind, extractSessionId_eq h,
    List.getElem?_eq_getElem (by omega)]
  rfl

theorem handleSocket_ok {r : Request} (h : ¬ Missing r.pathInfo) (hthree : 3 ≤ (segments r).length)
    (hname : (segments r)[1] = str "websocket" ∨ (segments r)[1] = str "flashsocket") :
    ∃ response, handleSocket r = .ok response := by
  have hsome : nameOrNull (segments r)[1] = some (segments r)[1] := by
    rcases hname with hname | hname <;> rw [hname] <;> rfl
  unfold handleSocket
  rw [socketNames_eq h hthree, ok_bind, hsome]
  cases extractSessionId r.pathInfo with
  | none => exact ⟨_, rfl⟩
  | some sessionId =>
    by_cases hget : r.method = str "GET"
    · exact ⟨.upgrade sessionId, (if_pos hget).trans (if_pos hname)⟩
    · exact ⟨_, if_neg hget⟩

theorem handleFlash_ok {r : Request} (h : ¬ Missing r.pathInfo) (hthree : 3 ≤ (segments r).length) :
    ∃ response, handleFlash r = .ok response := by
  have hsecond : part (segments r) 1 = .ok (segments r)[1] := part_of_lt (by omega)
  have hpart : part (split (strip (r.pathInfo.getD []))) 1 = .ok (segments r)[1] := hsecond
  unfold handleFlash
  rw [if_neg h]
  by_cases hget : r.method = str "GET"
  · rw [if_pos hget, hpart, ok_bind]
    by_cases hflash : str "flashsocket" = (segments r)[1]
    · rw [if_pos hflash]
      split_ifs
      · exact handleSocket_ok h hthree (.inr hflash.symm)
      · exact ⟨_, rfl⟩
    · rw [if_neg hflash]
      exact ⟨_, rfl⟩
  · rw [if_neg hget]
    exact ⟨_, rfl⟩

theorem handle_ok {r : Request} (t : Transport) (h : ¬ Missing r.pathInfo) (hthree : 3 ≤ (segments r).length)
    (hname : t.getType.toString = (segments r)[1]) : ∃ response, t.handle r = .ok response := by
  cases t with
  | jettyWebSocket => exact handleSocket_ok h hthree (.inl hname.symm)
  | flashSocket => exact handleFlash_ok h hthree
  | htmlFile | xhrMultipart | xhrPolling | jsonpPolling => exact ⟨_, rfl⟩

/-! ## Routing -/

variable {transports : List Transport} {now : ℕ} {r : Request}

/-- what is delegated has three parts or more, and goes to the transport that the second part names -/
def Delegates (r : Request) (served : Served) : Prop :=
  ∀ t, served.delegate = some t → 3 ≤ (segments r).length ∧ (segments r)[1]? = some t.getType.toString ∧
    ∃ transport, socketNames r.pathInfo = .ok (transport, extractSessionId r.pathInfo)

theorem dispatch_ok (h : ¬ Missing r.pathInfo) :
    ∃ served, dispatch transports now r (segments r) = .ok served ∧ Delegates r served := by
  unfold dispatch
  by_cases htwo : (segments r).length ≤ 2
  · rw [if_pos htwo]
    exact ⟨_, rfl, fun t ht => (nomatch ht)⟩
  · have hthree : 3 ≤ (segments r).length := by omega
    rw [if_neg htwo, part_of_lt (by omega), ok_bind]
    cases htransport : getTransport transports (typeFrom (segments r)[1]) with
    | none =>
      simp only [part_of_lt (show 0 < (segments r).length by omega), ok_bind]
      exact ⟨_, rfl, fun t ht => (nomatch ht)⟩
    | some t =>
      have hname := name_of_getTransport htransport
      obtain ⟨response, hresponse⟩ := handle_ok t h hthree hname
      simp only [hresponse, ok_bind]
      refine ⟨_, rfl, fun t' ht' => ?_⟩
      cases ht'
      refine ⟨hthree, ?_, _, socketNames_eq h hthree⟩
      rw [List.getElem?_eq_getElem (by omega), hname]

/-- the servlet answers the request, and delegates it only as it should -/
def Routed (transports : List Transport) (now : ℕ) (r : Request) : Prop :=
  ∃ served, serve transports now r = .ok served ∧ Delegates r served

/-- **Routing**: a request is served exactly if it is not a GET of a path of two or more slashes. -/
theorem path_routed_iff (transports : List Transport) (now : ℕ) (r : Request) :
    Routed transports now r ↔ ¬ (r.method = str "GET" ∧ Slashes r.pathInfo) := by
  unfold Routed serve
  by_cases hmissing : Missing r.pathInfo
  · rw [if_pos hmissing]
    refine iff_of_true ⟨_, rfl, fun t ht => (nomatch ht)⟩ ?_
    rintro ⟨-, path, hpath, hlength, -⟩
    rcases hmissing with h | h | h
    · cases hpath.symm.trans h
    · cases hpath.symm.trans h
      exact absurd hlength (by decide)
    · cases hpath.symm.trans h
      exact absurd hlength (by decide)
  rw [if_neg hmissing]
  change (∃ served, (if r.method = str "GET" then _ else dispatch transports now r (segments r)) = .ok served ∧ _) ↔ _
  by_cases hget : r.method = str "GET"
  · rw [if_pos hget]
    cases hparts : segments r with
    | nil =>
      have hslashes := (segments_eq_nil_iff hmissing).1 hparts
      refine iff_of_false ?_ fun h => h ⟨hget, hslashes⟩
      rintro ⟨served, hserved, -⟩
      change (part (segments r) 0 >>= _) = _ at hserved
      rw [hparts, part_nil] at hserved
      cases hserved
    | cons first rest =>
      have hno : ¬ Slashes r.pathInfo := fun h => by
        have hnil := (segments_eq_nil_iff hmissing).2 h
        rw [hparts] at hnil
        cases hnil
      refine iff_of_true ?_ fun h => hno h.2
      have hfirst : part (segments r) 0 = .ok first := by
        rw [hparts]
        rfl
      change ∃ served, (part (segments r) 0 >>= _) = .ok served ∧ _
      rw [hfirst, ok_bind]
      split_ifs
      · exact ⟨_, rfl, fun t ht => (nomatch ht)⟩
      · exact ⟨_, rfl, fun t ht => (nomatch ht)⟩
      · exact dispatch_ok hmissing
  · rw [if_neg hget]
    exact iff_of_true (dispatch_ok hmissing) fun h => hget h.1

/-- a GET of two slashes looks at a part that is not there -/
theorem slashes_raise :
    serve [.jettyWebSocket, .xhrPolling] 0 ⟨str "GET", some (str "//")⟩ = .error .arrayIndexOutOfBounds ∧
      ¬ Routed [.jettyWebSocket, .xhrPolling] 0 ⟨str "GET", some (str "//")⟩ := by
  have hraises : serve [.jettyWebSocket, .xhrPolling] 0 ⟨str "GET", some (str "//")⟩ = .error .arrayIndexOutOfBounds := by
    decide
  refine ⟨hraises, ?_⟩
  rintro ⟨served, hserved, -⟩
  cases hraises.symm.trans hserved

end SocketIOJava.Paths
