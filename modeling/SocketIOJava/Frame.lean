/-
`SocketIOFrame`: one packet of the wire format, its encoder and its decoder.

The encoder writes `type ':' ':' endpoint ':' data`. The decoder reads one packet, or a run of packets each announced
by U+FFFD length U+FFFD, and keeps a cursor `start` that it rebuilds several times a turn from `indexOf` answers and
from the announced length.

`parse` has three outcomes: it returns a list of frames, it raises an exception, or its `while` loop never ends. The
loop is `parseLoop`, with a bound on its turns; `none` says that the bound ran out. `parse` bounds it by one turn more
than the text has chars: `FrameCursor.parse_eq_of_parseLoop` shows that no larger bound changes the outcome, so
`none` means that the Java loop does not end.
-/
import SocketIOJava.Text

namespace SocketIOJava.Frame

open SocketIOJava.Text

/-! ## Frames -/

def SEPERATOR_CHAR : JChar := 0x3A

def MESSAGE_SEPARATOR : JChar := 0xFFFD

inductive FrameType where
  | unknown
  | close
  | connect
  | heartbeat
  | message
  | jsonMessage
  | event
  | ack
  | error
  | noop
deriving DecidableEq, Repr

def FrameType.value : FrameType → ℤ
  | .unknown => -1
  | .close => 0
  | .connect => 1
  | .heartbeat => 2
  | .message => 3
  | .jsonMessage => 4
  | .event => 5
  | .ack => 6
  | .error => 7
  | .noop => 8

def FrameType.fromInt (val : ℤ) : FrameType :=
  if val = 0 then .close
  else if val = 1 then .connect
  else if val = 2 then .heartbeat
  else if val = 3 then .message
  else if val = 4 then .jsonMessage
  else if val = 5 then .event
  else if val = 6 then .ack
  else if val = 7 then .error
  else if val = 8 then .noop
  else .unknown

def TEXT_MESSAGE_TYPE : ℤ := 0

def JSON_MESSAGE_TYPE : ℤ := 1

structure SocketIOFrame where
  frameType : FrameType
  messageType : ℤ
  endpoint : JString
  data : JString
deriving DecidableEq, Repr

/-- the three-argument constructor: no endpoint -/
def SocketIOFrame.new (frameType : FrameType) (messageType : ℤ) (data : JString) : SocketIOFrame :=
  ⟨frameType, messageType, [], data⟩

/-! ## The encoder -/

/-- `encode(type, endpoint, data)`. A heartbeat drops its endpoint. -/
def encode (type : FrameType) (endpoint data : JString) : JString :=
  toHexString type.value ++ [SEPERATOR_CHAR] ++ [SEPERATOR_CHAR] ++ (if type.value ≠ 2 then endpoint else []) ++
    [SEPERATOR_CHAR] ++ data

/-- `frame.encode(endpoint)`: the frame's own endpoint is not used -/
def SocketIOFrame.encode (f : SocketIOFrame) (endpoint : JString) : JString :=
  Frame.encode f.frameType endpoint f.data

/-! ## The decoder -/

/-- the loop of `isHexDigit`, `n` chars left from index `i` -/
def isHexDigitFrom (s : JString) : ℕ → ℤ → Except JavaException Bool
  | 0, _ => pure true
  | n + 1, i => do
    let c ← charAt s i
    -- the source joins the four bounds by `&&`
    if !isDigit c && c < 0x41 && c > 0x46 && c < 0x61 && c > 0x66 then
      pure false
    else
      isHexDigitFrom s n (i + 1)

def isHexDigit (s : JString) (start end_ : ℤ) : Except JavaException Bool :=
  isHexDigitFrom s (end_ - start).toNat start

/-- the first branch of a turn: where the packet at the cursor begins and where it ends -/
def packetBounds (data : JString) (start : ℤ) : Except JavaException (ℤ × ℤ) := do
  if (← charAt data start) = MESSAGE_SEPARATOR then
    let start := start + 1
    let end_ := indexOf data MESSAGE_SEPARATOR start
    let messageEnd ← parseInt (← substring data start end_)
    let start := end_ + 1
    pure (start, wrapInt (messageEnd + start))
  else
    pure (start, data.length)

/-- the optional id field from `start` to `end_`; the value is dropped, and so is the field's first char -/
def messageId (data : JString) (start end_ : ℤ) : Except JavaException ℤ :=
  if end_ - start > 1 then do parseInt (← substring data (start + 1) end_) else pure 0

/-- the endpoint field from `start` to `end_` -/
def endpointField (data : JString) (start end_ : ℤ) : Except JavaException JString :=
  if end_ - start > 1 then substring data start end_ else pure []

/-- one turn of the `while` loop: a frame and the next cursor, or `none` where the loop is left by `break` -/
def parseTurn (data : JString) (start : ℤ) : Except JavaException (Option (SocketIOFrame × ℤ)) := do
  let (start, messageEnd) ← packetBounds data start
  let end_ := start + 1
  if !(← isHexDigit data start end_) then
    return none
  let ftype ← parseInt (← substring data start end_)
  let frameType := FrameType.fromInt ftype
  if frameType = .unknown then
    return none
  let start := end_ + 1
  let end_ := indexOf data SEPERATOR_CHAR start
  let _ ← messageId data start end_
  let start := end_ + 1
  let end_ := indexOf data SEPERATOR_CHAR start
  let endpoint ← endpointField data start end_
  let start := end_ + 1
  let end_ := messageEnd
  let text ← substring data start end_
  return some (⟨frameType, if frameType = .message then TEXT_MESSAGE_TYPE else JSON_MESSAGE_TYPE, endpoint, text⟩, end_)

/-- the `while` loop from cursor `start`, `none` when `n` turns are not enough -/
def parseLoop (data : JString) : ℕ → ℤ → List SocketIOFrame → Option (Except JavaException (List SocketIOFrame))
  | 0, _, _ => none
  | n + 1, start, messages =>
    if data.length > start then
      match parseTurn data start with
      | .error e => some (.error e)
      | .ok none => some (.ok messages)
      | .ok (some (f, next)) => parseLoop data n next (messages ++ [f])
    else some (.ok messages)

/-- `SocketIOFrame.parse(data)`; `none` where its loop does not end -/
def parse (data : JString) : Option (Except JavaException (List SocketIOFrame)) :=
  parseLoop data (data.length + 1) 0 []

/-! ## Facts about frames -/

theorem fromInt_value (t : FrameType) : FrameType.fromInt t.value = t := by cases t <;> rfl

theorem fromInt_ne_unknown {d : ℤ} : FrameType.fromInt d ≠ .unknown ↔ 0 ≤ d ∧ d ≤ 8 := by
  unfold FrameType.fromInt
  split_ifs <;> simp <;> omega

/-- a frame type other than `unknown` is written as one decimal digit -/
theorem toHexString_value {t : FrameType} (h : t ≠ .unknown) :
    ∃ c d, toHexString t.value = [c] ∧ digit c = some d ∧ (d : ℤ) = t.value := by
  cases t with
  | unknown => exact absurd rfl h
  | close => exact ⟨0x30, 0, by decide, by decide, rfl⟩
  | connect => exact ⟨0x31, 1, by decide, by decide, rfl⟩
  | heartbeat => exact ⟨0x32, 2, by decide, by decide, rfl⟩
  | message => exact ⟨0x33, 3, by decide, by decide, rfl⟩
  | jsonMessage => exact ⟨0x34, 4, by decide, by decide, rfl⟩
  | event => exact ⟨0x35, 5, by decide, by decide, rfl⟩
  | ack => exact ⟨0x36, 6, by decide, by decide, rfl⟩
  | error => exact ⟨0x37, 7, by decide, by decide, rfl⟩
  | noop => exact ⟨0x38, 8, by decide, by decide, rfl⟩

/-- **The guard before the type is no guard**: `isHexDigit` accepts every text that it can read. -/
theorem isHexDigit_one {s : JString} {i : ℤ} :
    isHexDigit s i (i + 1) = (charAt s i).map fun _ => true := by
  have h1 : (i + 1 - i).toNat = 1 := by omega
  unfold isHexDigit
  rw [h1]
  simp only [isHexDigitFrom]
  cases charAt s i with
  | error e => rfl
  | ok c =>
    have hc : ¬ (c < 0x41 ∧ c > 0x46) := fun h => absurd (UInt16.lt_trans h.2 h.1) (by decide)
    have hif : (!isDigit c && c < 0x41 && c > 0x46 && c < 0x61 && c > 0x66) = false := by
      simp only [Bool.and_eq_false_iff, decide_eq_false_iff_not]
      tauto
    change (if (!isDigit c && c < 0x41 && c > 0x46 && c < 0x61 && c > 0x66) = true then _ else _) = _
    rw [hif]; rfl

end SocketIOJava.Frame
