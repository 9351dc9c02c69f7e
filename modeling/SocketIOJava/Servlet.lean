/-
`SocketIOServlet`'s handshake, and the paths in which clients send their session ids back.

The handshake's response is `sessionId ':' heartbeat ':' timeout ':' transports`, and the session id is the clock's reading
in decimal. The client takes it up to the first colon and puts it at the end of the path of every request:
`/1/transport/sessionId`. Both kinds of transport take it from there as the third part of the path.

- `sessid_handshakeBody`, `extractSessionId_prepareUrl`: the id that a transport sees is the one that the handshake gave.
- `intToString_injective`: two handshakes give one id only if they read the same clock value.
-/
import SocketIOJava.Frame

namespace SocketIOJava.Servlet

open SocketIOJava.Text SocketIOJava.Frame

/-! ## The handshake and the paths of requests -/

inductive TransportType where
  | webSocket
  | flashSocket
  | htmlFile
  | jsonpPolling
  | xhrMultipart
  | xhrPolling
  | unknown
deriving DecidableEq, Repr

def TransportType.toString : TransportType → JString
  | .webSocket => str "websocket"
  | .flashSocket => str "flashsocket"
  | .htmlFile => str "htmlfile"
  | .jsonpPolling => str "jsonp-polling"
  | .xhrMultipart => str "xhr-multipart"
  | .xhrPolling => str "xhr-polling"
  | .unknown => []

/-- the transports that `JettyWebSocketTransport` handles; the others are HTTP transports -/
def TransportType.isWebSocket : TransportType → Bool
  | .webSocket | .flashSocket => true
  | _ => false

def DEFAULT_HEARTBEAT_TIMEOUT : JString := str "15000"

def DEFAULT_TIMEOUT : JString := str "10000"

/-- the names of the configured transports, as the handshake lists them -/
def listTransports (transports : List TransportType) : JString :=
  transports.foldl (fun names transport => (if names = [] then names else names ++ str ",") ++ transport.toString) []

/-- the response to a handshake: session id, heartbeat, timeout, transports -/
def handshakeBody (transports : List TransportType) (currentTimeMillis : ℕ) : JString :=
  intToString currentTimeMillis ++
    (str ":" ++ DEFAULT_HEARTBEAT_TIMEOUT ++ str ":" ++ DEFAULT_TIMEOUT ++ str ":" ++ listTransports transports)

/-- the session id in a response: the client's `data.split(':')[0]` -/
def sessid (response : JString) : JString := response.takeWhile (· ≠ SEPERATOR_CHAR)

/-- the path of a client's requests -/
def prepareUrl (transport : TransportType) (sessid : JString) : JString :=
  str "/1/" ++ (transport.toString ++ str "/" ++ sessid)

def SLASH : JChar := 0x2F

/-- `path.split("/")`: the parts, without empty ones at the end; a path without a slash is its own only part -/
def split (path : JString) : List JString :=
  if SLASH ∈ path then ((path.splitOnP (· = SLASH)).reverse.dropWhile List.isEmpty).reverse else [path]

/-- the session id of a request, as both kinds of transport take it from the path -/
def extractSessionId (path : JString) : Option JString :=
  if path = [] ∨ path = str "/" then none
  else
    match (split (if (str "/").isPrefixOf path then path.drop 1 else path))[2]? with
    | none => none
    | some id => if id = [] ∨ id = str "null" then none else some id

/-! ## From the response to the path and back -/

theorem intToString_injective : Function.Injective intToString := by
  intro m n h
  have hm := decimal_intToString m
  rw [h, decimal_intToString n] at hm
  exact (Option.some.inj hm).symm

theorem sessid_handshakeBody (transports : List TransportType) (now : ℕ) :
    sessid (handshakeBody transports now) = intToString now := by
  have hdigits : ∀ c ∈ intToString now, decide (c ≠ SEPERATOR_CHAR) = true := fun c hc =>
    decide_eq_true (digit_isSome_ne (digit_of_decimal (decimal_intToString now) c hc)).2.2.1
  unfold sessid handshakeBody
  rw [List.takeWhile_append_of_pos hdigits]
  exact List.append_nil _

theorem split_three {a b c : JString} (ha : SLASH ∉ a) (hb : SLASH ∉ b) (hc : SLASH ∉ c) (hne : c ≠ []) :
    split (a ++ SLASH :: (b ++ SLASH :: c)) = [a, b, c] := by
  have hfree : ∀ {x : JString}, SLASH ∉ x → ∀ y ∈ x, decide (y = SLASH) = false :=
    fun hx y hy => decide_eq_false fun h => hx (h ▸ hy)
  have hslash : decide (SLASH = SLASH) = true := by decide
  unfold split
  rw [if_pos (List.mem_append_right _ List.mem_cons_self), List.splitOnP_append_cons_of_forall_mem (hfree ha) _ hslash,
    List.splitOnP_append_cons_of_forall_mem (hfree hb) _ hslash,
    List.splitOnP_eq_singleton (hfree hc)]
  simp [hne]

theorem slash_not_mem_intToString (n : ℕ) : SLASH ∉ intToString n := by
  intro h
  have hdigit := digit_of_decimal (decimal_intToString n) _ h
  cases hdigit

/-- **The path gives back the session id.** -/
theorem extractSessionId_prepareUrl (transport : TransportType) (now : ℕ) :
    extractSessionId (prepareUrl transport (intToString now)) = some (intToString now) := by
  have hpath : prepareUrl transport (intToString now) =
      SLASH :: (str "1" ++ SLASH :: (transport.toString ++ SLASH :: intToString now)) := by
    simp only [prepareUrl, List.append_assoc]
    rfl
  have hname : SLASH ∉ transport.toString := by cases transport <;> decide
  have hsplit := split_three (a := str "1") (by decide) hname (slash_not_mem_intToString now) (intToString_ne_nil now)
  have hnull : intToString now ≠ str "null" := by
    intro h
    have hdigit := digit_of_decimal (decimal_intToString now) 0x6E (h ▸ by decide)
    cases hdigit
  have hroot : ¬ (prepareUrl transport (intToString now) = [] ∨ prepareUrl transport (intToString now) = str "/") := by
    rw [hpath]
    rintro (h | h)
    · exact absurd h (List.cons_ne_nil _ _)
    · have hlength := congrArg List.length h
      simp [str] at hlength
  have hstripped : (if (str "/").isPrefixOf (prepareUrl transport (intToString now))
      then (prepareUrl transport (intToString now)).drop 1 else prepareUrl transport (intToString now)) =
      str "1" ++ SLASH :: (transport.toString ++ SLASH :: intToString now) := by
    rw [hpath, if_pos (by simp [str, SLASH])]
    rfl
  unfold extractSessionId
  rw [if_neg hroot, hstripped, hsplit]
  exact if_neg fun h => h.elim (intToString_ne_nil now) hnull

end SocketIOJava.Servlet
