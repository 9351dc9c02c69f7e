/-
`parser` of `socket.io.js`: the packets of the client, their texts, and payloads of several texts.

A `Packet` is the object that the client passes around. The fields that a packet has besides its id, its endpoint and its
acknowledgement mark depend on its type, and `Content` has them; `unknown` is an object without one of the types, and
`empty` one without any fields. An undefined id is the empty text. `encodePacket` writes a packet, `decodePacket` takes a
text apart with a regular expression.

`Js` is what `parser` and its callers use of the language and what is not modelled: `JSON.parse`, `Number` of a length, and
what arrays and other objects inherit. What a result needs of it is one of its hypotheses.

- `decodePayload_encodePayload_iff`: exactly which packets of the client come back from their payload.
-/
import SocketIOJava.Lib.Regex
import SocketIOJava.Lib.JsLiteral
import SocketIOJava.PollingPayload
import SocketIOJava.EventText

namespace SocketIOJava.ClientParser

open SocketIOJava.Text SocketIOJava.Frame SocketIOJava.EventText Regex

/-! ## Packets -/

inductive PacketType where
  | disconnect
  | connect
  | heartbeat
  | message
  | json
  | event
  | ack
  | error
  | noop
deriving DecidableEq, Repr

def packets : List PacketType := [.disconnect, .connect, .heartbeat, .message, .json, .event, .ack, .error, .noop]

def reasons : List JString := [str "transport not supported", str "client not handshaken", str "unauthorized"]

def advice : List JString := [str "reconnect"]

/-- the field `ack`: undefined, `true` or `'data'` -/
inductive Ack where
  | none
  | true
  | data
deriving DecidableEq, Repr

/-- the type of a packet, with the fields that it has -/
inductive Content where
  /-- `{}` -/
  | empty
  | unknown
  | disconnect
  | connect (qs : JString)
  | heartbeat
  | message (data : Json)
  | json (data : Option Json)
  | event (name : Option Json) (args : Json)
  | ack (ackId : Option JString) (args : Json)
  | error (reason advice : JString)
  | noop

def Content.type : Content → Option PacketType
  | .empty | .unknown => none
  | .disconnect => some .disconnect
  | .connect _ => some .connect
  | .heartbeat => some .heartbeat
  | .message _ => some .message
  | .json _ => some .json
  | .event _ _ => some .event
  | .ack _ _ => some .ack
  | .error _ _ => some .error
  | .noop => some .noop

structure Packet where
  content : Content
  id : JString
  endpoint : JString
  ack : Ack

/-! ## The encoder -/

/-- `indexOf(arr, o)` -/
def indexOf {α : Type} [DecidableEq α] (arr : List α) (o : α) : ℤ := if o ∈ arr then arr.idxOf o else -1

/-- the type field -/
def typeField (type : Option PacketType) : JString := numberToString (type.elim (-1) (indexOf packets))

/-- the number of a reason or an advice, nothing for the empty text -/
def numberField (arr : List JString) (text : JString) : JString := if text = [] then [] else numberToString (indexOf arr text)

mutual

/-- `String(data)` -/
def toText : Json → JString
  | .null => str "null"
  | .bool b => if b then str "true" else str "false"
  | .number text => text
  | .string s => s
  | .array items => joinItems items
  | .object _ => str "[object Object]"

/-- the items of an array, with commas between them -/
def joinItems : List Json → JString
  | [] => []
  | [v] => itemText v
  | v :: w :: vs => itemText v ++ str "," ++ joinItems (w :: vs)

def itemText : Json → JString
  | .null => []
  | .bool b => if b then str "true" else str "false"
  | .number text => text
  | .string s => s
  | .array items => joinItems items
  | .object _ => str "[object Object]"

end

/-- what counts as true in a condition -/
def isTruthy : Json → Bool
  | .null => false
  | .bool b => b
  | .number text => text ≠ str "0"
  | .string s => s ≠ []
  | .array _ | .object _ => true

/-- `value.key` -/
def member (key : JString) : Json → Option Json
  | .object members => (members.reverse.find? fun m => m.1 = key).map Prod.snd
  | _ => none

/-- `args && args.length` -/
def hasItems : Json → Bool
  | .array vs => !vs.isEmpty
  | .string s => !s.isEmpty
  | .object members => (member (str "length") (.object members)).any isTruthy
  | .null | .bool _ | .number _ => false

def PLUS : JChar := 0x2B

/-- the data fragment, if there is one -/
def dataField (wellFormed : Bool) : Content → Option JString
  | .error reason advice =>
    let reason := numberField reasons reason
    let adv := numberField ClientParser.advice advice
    if reason ≠ [] ∨ adv ≠ [] then some (reason ++ if adv ≠ [] then PLUS :: adv else []) else none
  | .message .null | .message (.string []) => none
  | .message data => some (toText data)
  | .event name args =>
    let ev := (name.map fun v => (str "name", v)).toList ++ if hasItems args then [(str "args", args)] else []
    some (stringify wellFormed (.object ev))
  | .json data => data.map (stringify wellFormed)
  | .connect qs => if qs ≠ [] then some qs else none
  | .ack ackId args =>
    some (ackId.getD (str "undefined") ++ if hasItems args then PLUS :: stringify wellFormed args else [])
  | .empty | .unknown | .disconnect | .heartbeat | .noop => none

/-- `parser.encodePacket(packet)` -/
def encodePacket (wellFormed : Bool) (p : Packet) : JString :=
  [SEPERATOR_CHAR].intercalate
    ([typeField p.content.type, p.id ++ if p.ack = .data then [PLUS] else [], p.endpoint] ++
      (dataField wellFormed p.content).toList)

/-- `parser.encodePayload(packets)`, of packets that are encoded already -/
def encodePayload : List JString → JString
  | [p] => p
  | ps => ps.flatMap FrameCodec.announce

/-! ## The decoder -/

/-- `JSON.parse`, which may raise an exception; `Number`, which may be no number; and what every array and every other
object has under a name, as a text -/
structure Js where
  parse : JString → Option Json
  number : JString → Option ℤ
  arrayMember : JString → Option JString
  objectMember : JString → Option JString

def isColon (c : JChar) : Bool := c = SEPERATOR_CHAR

def isAsciiDigit (c : JChar) : Bool := 0x30 ≤ c ∧ c ≤ 0x39

def isPlus (c : JChar) : Bool := c = PLUS

/-- `/([^:]+):([0-9]+)?(\+)?:([^:]+)?:?([\s\S]*)?/` -/
def regexp : Pattern JChar :=
  .seq (.group 1 (.plus fun c => !isColon c)) <| .seq (.one isColon) <| .seq (.opt (.group 2 (.plus isAsciiDigit))) <|
    .seq (.opt (.group 3 (.one isPlus))) <| .seq (.one isColon) <| .seq (.opt (.group 4 (.plus fun c => !isColon c))) <|
      .seq (.opt (.one isColon)) (.opt (.group 5 (.many fun _ => true)))

/-- `/^([0-9]+)(\+)?(.*)/` -/
def ackRegexp : Pattern JChar :=
  .seq (.group 1 (.plus isAsciiDigit)) <| .seq (.opt (.group 2 (.one isPlus))) <|
    .group 3 (.many fun c => !decide (JsLiteral.IsLineTerminator c))

/-- the element of an array with this index, a text -/
def lookup {α : Type} (arr : List α) (key : JString) : Option α := (arr.zipIdx.find? fun p => intToString p.2 = key).map Prod.fst

/-- `arr[key] || ''`, for an array of texts: an element, its length, or what it inherits -/
def textAt (js : Js) (arr : List JString) (key : JString) : JString :=
  ((lookup arr key).or (if key = str "length" then some (numberToString arr.length) else js.arrayMember key)).getD []

/-- `value || []` -/
def orEmpty (value : Option Json) : Json := (value.filter isTruthy).getD (.array [])

/-- the fields that a packet of this type has -/
def content (js : Js) (type : Option PacketType) (data : JString) : Content :=
  match type with
  | some .error =>
    let pieces := data.splitOn PLUS
    .error (textAt js reasons (pieces[0]?.getD [])) (pieces[1]?.elim [] (textAt js advice))
  | some .message => .message (.string data)
  | some .event =>
    let opts := js.parse data
    .event (opts.bind (member (str "name"))) (orEmpty (opts.bind (member (str "args"))))
  | some .json => .json (js.parse data)
  | some .connect => .connect data
  | some .ack =>
    match matchAt ackRegexp found data .none with
    | none => .ack none .null
    | some pieces =>
      let args := (pieces 3).getD []
      .ack (pieces 1) (if args = [] then .array [] else (js.parse args).getD (.array []))
  | some .disconnect => .disconnect
  | some .heartbeat => .heartbeat
  | some .noop => .noop
  | none => .unknown

/-- `parser.decodePacket(data)` -/
def decodePacket (js : Js) (data : JString) : Packet :=
  match exec regexp data with
  | none => ⟨.empty, [], [], .none⟩
  | some pieces =>
    let id := (pieces 2).getD []
    { content := content js ((pieces 1).bind (lookup packets)) ((pieces 5).getD [])
      id := id
      endpoint := (pieces 4).getD []
      ack := if id = [] then .none else if (pieces 3).isSome then .data else .true }

/-- `data.charAt(i)`, nothing outside the text -/
def charAt? (data : JString) (i : ℤ) : Option JChar := if 0 ≤ i then data[i.toNat]? else none

/-- the loop of `decodePayload`, `none` when `n` turns are not enough -/
def payloadLoop (js : Js) (data : JString) : ℕ → ℤ → JString → List Packet → Option (List Packet)
  | 0, _, _, _ => none
  | n + 1, i, length, ret =>
    if i < data.length then
      if charAt? data i = some MESSAGE_SEPARATOR then
        let ret := ret ++ [decodePacket js ((data.drop (i + 1).toNat).take ((js.number length).getD 0).toNat)]
        match js.number length with
        | none => some ret
        | some l => payloadLoop js data n (i + (l + 1) + 1) [] ret
      else payloadLoop js data n (i + 1) (length ++ (charAt? data i).toList) ret
    else some ret

/-- `parser.decodePayload(data)`; `none` where its loop does not end within `n` turns -/
def decodePayload (js : Js) (n : ℕ) (data : JString) : Option (List Packet) :=
  if data.head? = some MESSAGE_SEPARATOR then payloadLoop js data n 1 [] [] else some [decodePacket js data]

/-! ## The pieces of a packet -/

/-- the text of a packet, from its fields: a type, an id, perhaps a mark, an endpoint and perhaps data -/
def joined (t id : JString) (mark : Bool) (endpoint : JString) (data : Option JString) : JString :=
  t ++ (SEPERATOR_CHAR :: (id ++ ((if mark then [PLUS] else []) ++ (SEPERATOR_CHAR :: (endpoint ++
    data.elim [] (SEPERATOR_CHAR :: ·))))))

/-- fields that the expression tells apart -/
structure Separable (t id endpoint : JString) : Prop where
  type_ne : t ≠ []
  type_free : SEPERATOR_CHAR ∉ t
  id_digits : ∀ c ∈ id, isAsciiDigit c = true
  endpoint_free : SEPERATOR_CHAR ∉ endpoint

theorem not_colon {s : JString} (h : SEPERATOR_CHAR ∉ s) : ∀ c ∈ s, (!isColon c) = true := by
  intro c hc
  have hne : c ≠ SEPERATOR_CHAR := fun heq => h (heq ▸ hc)
  simp [isColon, hne]

/-- the groups of a match, from the fields -/
def pieces (t id : JString) (mark : Bool) (endpoint : JString) (data : Option JString) : Groups JChar :=
  keep 5 (data.getD []) <| keep 4 endpoint <| keep 3 (if mark then [PLUS] else []) <| keep 2 id <|
    Function.update Groups.none 1 (some t)

/-- **The expression finds the fields of a packet.** -/
theorem exec_joined {t id endpoint : JString} (h : Separable t id endpoint) (mark : Bool) (data : Option JString) :
    exec regexp (joined t id mark endpoint data) = some (pieces t id mark endpoint data) := by
  let tail : JString := data.elim [] (SEPERATOR_CHAR :: ·)
  let sign : JString := if mark then [PLUS] else []
  have hcolon : isColon SEPERATOR_CHAR = true := rfl
  have hheadTail : ∀ c ∈ tail.head?, (!isColon c) = false := by
    cases data with
    | none => exact fun c hc => absurd hc (Option.not_mem_none c)
    | some d =>
      rintro c hc
      cases hc
      rfl
  -- from the last field to the first, each with what stands behind it
  have hdata : Takes (.seq (.opt (.one isColon)) (.opt (.group 5 (.many fun _ => true)))) tail [] (keep 5 (data.getD [])) := by
    cases data with
    | none =>
      have hstop : Stuck (.one isColon) [] := stuck_one fun _ hc => absurd hc (Option.not_mem_none _)
      exact hstop.opt.seq (takes_optional 5 (absurd rfl) fun _ => stuck_many)
    | some d =>
      have hrest : Takes (.opt (.group 5 (.many fun _ => true))) d [] (keep 5 d) :=
        takes_optional 5 (fun _ => takes_all) fun _ => stuck_many
      exact ((takes_one hcolon).opt (List.cons_ne_nil _ _)).seq hrest
  have hendpoint : Takes (.opt (.group 4 (.plus fun c => !isColon c))) endpoint (tail ++ []) (keep 4 endpoint) := by
    rw [List.append_nil]
    refine takes_optional 4 (fun hne => takes_plus hne (not_colon h.endpoint_free) hheadTail) fun _ => stuck_plus hheadTail
  have hsign : Takes (.opt (.group 3 (.one isPlus))) sign ([SEPERATOR_CHAR] ++ (endpoint ++ tail) ++ []) (keep 3 sign) := by
    refine takes_optional 3 (fun hne => ?_) fun _ => stuck_one ?_
    · cases mark with
      | true => exact takes_one rfl
      | false => exact absurd rfl hne
    · rintro c hc
      cases hc
      rfl
  have hid : Takes (.opt (.group 2 (.plus isAsciiDigit))) id (sign ++ ([SEPERATOR_CHAR] ++ (endpoint ++ tail)) ++ [])
      (keep 2 id) := by
    have hstop : ∀ c ∈ (sign ++ ([SEPERATOR_CHAR] ++ (endpoint ++ tail)) ++ []).head?, isAsciiDigit c = false := by
      cases mark with
      | true =>
        rintro c hc
        cases hc
        rfl
      | false =>
        rintro c hc
        cases hc
        rfl
    exact takes_optional 2 (fun hne => takes_plus hne h.id_digits hstop) fun _ => stuck_plus hstop
  have htype : Takes (.group 1 (.plus fun c => !isColon c)) t
      ([SEPERATOR_CHAR] ++ (id ++ (sign ++ ([SEPERATOR_CHAR] ++ (endpoint ++ tail)))) ++ [])
      fun g => Function.update g 1 (some t) := by
    refine (takes_plus h.type_ne (not_colon h.type_free) ?_).group 1
    rintro c hc
    cases hc
    rfl
  have hall := htype.seq ((takes_one hcolon).seq (hid.seq (hsign.seq ((takes_one hcolon).seq (hendpoint.seq hdata)))))
  exact hall.exec

theorem pieces_type (t id : JString) (mark : Bool) (endpoint : JString) (data : Option JString) :
    pieces t id mark endpoint data 1 = some t := by
  simp [pieces]

theorem pieces_id (t id : JString) (mark : Bool) (endpoint : JString) (data : Option JString) :
    (pieces t id mark endpoint data 2).getD [] = id := by
  simp [pieces, Groups.none]

theorem pieces_mark (t id : JString) (mark : Bool) (endpoint : JString) (data : Option JString) :
    (pieces t id mark endpoint data 3).isSome = mark := by
  rw [pieces, keep_of_ne (by decide), keep_of_ne (by decide)]
  cases mark with
  | true => rfl
  | false =>
    change (keep 2 id (Function.update Groups.none 1 (some t)) 3).isSome = false
    rw [keep_of_ne (by decide)]
    rfl

theorem pieces_endpoint (t id : JString) (mark : Bool) (endpoint : JString) (data : Option JString) :
    (pieces t id mark endpoint data 4).getD [] = endpoint := by
  have hfree : (keep 3 (if mark then [PLUS] else []) <| keep 2 id <| Function.update Groups.none 1 (some t)) 4 = none := by
    simp [Groups.none]
  rw [pieces, keep_of_ne (by decide), keep_same hfree]

theorem pieces_data (t id : JString) (mark : Bool) (endpoint : JString) (data : Option JString) :
    (pieces t id mark endpoint data 5).getD [] = data.getD [] := by
  refine keep_same ?_
  simp [Groups.none]

/-- the packet with these fields -/
theorem decodePacket_joined (js : Js) {t id endpoint : JString} (h : Separable t id endpoint) (mark : Bool)
    (data : Option JString) :
    decodePacket js (joined t id mark endpoint data) =
      { content := content js (lookup packets t) (data.getD [])
        id := id
        endpoint := endpoint
        ack := if id = [] then .none else if mark then .data else .true } := by
  unfold decodePacket
  rw [exec_joined h mark data]
  simp only [pieces_type, pieces_id, pieces_mark, pieces_endpoint, pieces_data, Option.bind_some]

/-! ## The client's own packets -/

theorem encodePacket_joined (wellFormed : Bool) (p : Packet) :
    encodePacket wellFormed p =
      joined (typeField p.content.type) p.id (decide (p.ack = .data)) p.endpoint (dataField wellFormed p.content) := by
  unfold encodePacket joined
  cases dataField wellFormed p.content with
  | none => by_cases h : p.ack = .data <;> simp [h, List.intercalate, List.intersperse]
  | some d => by_cases h : p.ack = .data <;> simp [h, List.intercalate, List.intersperse]

/-- a type is written as one digit and found under it -/
theorem typeField_known (t : PacketType) :
    lookup packets (typeField (some t)) = some t ∧ typeField (some t) ≠ [] ∧ SEPERATOR_CHAR ∉ typeField (some t) := by
  cases t <;> decide

/-- `JSON.parse` undoes `JSON.stringify` at this value -/
def Undone (js : Js) (wellFormed : Bool) (v : Json) : Prop := js.parse (stringify wellFormed v) = some v

/-- the object that an event is sent as -/
def eventObject (name : Json) (args : List Json) : Json :=
  .object ((str "name", name) :: if args = [] then [] else [(str "args", .array args)])

/-- and `JSON.parse` takes no part of its text for a value -/
def Uncut (js : Js) (wellFormed : Bool) (v : Json) : Prop :=
  ∀ text, text <+: stringify wellFormed v → text ≠ stringify wellFormed v → js.parse text = none

/-- the fields as the client's own methods fill them; the automatic acknowledgement has no arguments -/
def Filled (js : Js) (wellFormed : Bool) : Content → Prop
  | .json data => ∃ v, data = some v ∧ Undone js wellFormed v
  | .event name args => ∃ n vs, name = some n ∧ args = .array vs ∧ Undone js wellFormed (eventObject n vs)
  | .ack ackId args => ∃ i, ackId = some i ∧ (i ≠ [] ∧ ∀ c ∈ i, isAsciiDigit c = true) ∧
      (args = .null ∨ ∃ vs, args = .array vs ∧ Undone js wellFormed args ∧ Uncut js wellFormed args)
  | .disconnect | .connect _ | .heartbeat | .message _ => True
  | .empty | .unknown | .error _ _ | .noop => False

/-- what has to be so for the fields to come back -/
def Returning (wellFormed : Bool) : Content → Prop
  | .message data => ∃ s, data = .string s
  | .ack _ args => ∃ vs, args = .array vs ∧ ∀ c ∈ stringify wellFormed args, ¬ JsLiteral.IsLineTerminator c
  | _ => True

variable {js : Js} {wellFormed : Bool}

theorem event_sent {n : Json} {vs : List Json} (h : Undone js wellFormed (eventObject n vs)) :
    content js (some .event) ((dataField wellFormed (.event (some n) (.array vs))).getD []) = .event (some n) (.array vs) := by
  have hfield : dataField wellFormed (.event (some n) (.array vs)) = some (stringify wellFormed (eventObject n vs)) := by
    cases vs <;> rfl
  rw [hfield]
  unfold content
  simp only [Option.getD_some, show js.parse _ = _ from h, Option.bind_some]
  cases vs with
  | nil => rfl
  | cons v vs => rfl

/-- the pieces of an acknowledgement: the arguments end with the line -/
theorem match_ack {i args rest : JString} (mark : Bool) (hne : i ≠ []) (hdigits : ∀ c ∈ i, isAsciiDigit c = true)
    (hargs : ∀ c ∈ args, ¬ JsLiteral.IsLineTerminator c) (hrest : ∀ c ∈ rest.head?, JsLiteral.IsLineTerminator c)
    (hmark : mark = false → args = [] ∧ rest = []) :
    ∃ g, matchAt ackRegexp found (i ++ ((if mark then [PLUS] else []) ++ args) ++ rest) .none = some g ∧ g 1 = some i ∧
      g 3 = some args := by
  let sign : JString := if mark then [PLUS] else []
  have hlast : Takes (.group 3 (.many fun c => !decide (JsLiteral.IsLineTerminator c))) args rest
      fun g => Function.update g 3 (some args) :=
    (takes_many (fun c hc => by simp [hargs c hc]) fun c hc => by simp [hrest c hc]).group 3
  have hsign : Takes (.opt (.group 2 (.one isPlus))) sign (args ++ rest) (keep 2 sign) := by
    cases mark with
    | true => exact takes_optional 2 (fun _ => takes_one rfl) fun h => absurd h (List.cons_ne_nil _ _)
    | false =>
      obtain ⟨rfl, rfl⟩ := hmark rfl
      exact takes_optional 2 (absurd rfl) fun _ => stuck_one fun _ hc => absurd hc (Option.not_mem_none _)
  have hfirst : Takes (.group 1 (.plus isAsciiDigit)) i (sign ++ args ++ rest) fun g => Function.update g 1 (some i) := by
    refine (takes_plus hne hdigits ?_).group 1
    cases mark with
    | true =>
      rintro c hc
      cases hc
      rfl
    | false =>
      obtain ⟨rfl, rfl⟩ := hmark rfl
      exact fun _ hc => absurd hc (Option.not_mem_none _)
  have hall := (hfirst.seq (hsign.seq hlast)) found .none _ rfl
  refine ⟨_, hall, ?_, ?_⟩
  · change (Function.update (keep 2 sign (Function.update Groups.none 1 (some i))) 3 (some args)) 1 = some i
    rw [Function.update_of_ne (by decide), keep_of_ne (by decide), Function.update_self]
  · change (Function.update (keep 2 sign (Function.update Groups.none 1 (some i))) 3 (some args)) 3 = some args
    rw [Function.update_self]

theorem content_ack {data : JString} {g : Groups JChar} (h : matchAt ackRegexp found data .none = some g) :
    content js (some .ack) data =
      .ack (g 1) (if (g 3).getD [] = [] then .array [] else (js.parse ((g 3).getD [])).getD (.array [])) := by
  unfold content
  simp only [h]

/-- the arguments come back as far as they are on one line -/
theorem content_ack_args {i args rest : JString} (mark : Bool) (hne : i ≠ []) (hdigits : ∀ c ∈ i, isAsciiDigit c = true)
    (hargs : ∀ c ∈ args, ¬ JsLiteral.IsLineTerminator c) (hrest : ∀ c ∈ rest.head?, JsLiteral.IsLineTerminator c)
    (hmark : mark = false → args = [] ∧ rest = []) :
    content js (some .ack) (i ++ ((if mark then [PLUS] else []) ++ args) ++ rest) =
      .ack (some i) (if args = [] then .array [] else (js.parse args).getD (.array [])) := by
  obtain ⟨g, hmatch, hid, hgroup⟩ := match_ack mark hne hdigits hargs hrest hmark
  rw [content_ack hmatch, hid, hgroup, Option.getD_some]

theorem ack_returns_iff {i : JString} {args : Json} (hne : i ≠ []) (hdigits : ∀ c ∈ i, isAsciiDigit c = true)
    (hargs : args = .null ∨ ∃ vs, args = .array vs ∧ Undone js wellFormed args ∧ Uncut js wellFormed args) :
    content js (some .ack) ((dataField wellFormed (.ack (some i) args)).getD []) = .ack (some i) args ↔
      Returning wellFormed (.ack (some i) args) := by
  have hbare : content js (some .ack) (i ++ [] ++ []) = .ack (some i) (.array []) :=
    content_ack_args false hne hdigits (fun _ h => absurd h List.not_mem_nil) nofun fun _ => ⟨rfl, rfl⟩
  rw [List.append_nil] at hbare
  rcases hargs with rfl | ⟨vs, rfl, hundone, huncut⟩
  · refine iff_of_false (fun h => ?_) fun ⟨vs, h, _⟩ => nomatch h
    nomatch (Content.ack.inj (hbare.symm.trans h)).2
  cases vs with
  | nil => exact iff_of_true hbare ⟨[], rfl, List.forall_iff_forall_mem.1 (by cases wellFormed <;> decide)⟩
  | cons v vs =>
    let text := stringify wellFormed (.array (v :: vs))
    let line := text.takeWhile fun c => !decide (JsLiteral.IsLineTerminator c)
    let rest := text.dropWhile fun c => !decide (JsLiteral.IsLineTerminator c)
    have hsplit : line ++ rest = text := List.takeWhile_append_dropWhile
    have hline : ∀ c ∈ line, ¬ JsLiteral.IsLineTerminator c := fun c hc => by simpa using List.mem_takeWhile_imp hc
    have hrest : ∀ c ∈ rest.head?, JsLiteral.IsLineTerminator c := fun c hc => by
      have hstop := List.head?_dropWhile_not (fun c => !decide (JsLiteral.IsLineTerminator c)) text
      rw [show (text.dropWhile _).head? = some c from hc] at hstop
      simpa using hstop
    have hstart : line ≠ [] := List.cons_ne_nil _ _
    have hfield : (dataField wellFormed (.ack (some i) (.array (v :: vs)))).getD [] = i ++ ([PLUS] ++ line) ++ rest := by
      rw [List.append_assoc, List.append_assoc, hsplit]
      rfl
    have hcontent : content js (some .ack) (i ++ ([PLUS] ++ line) ++ rest) = _ :=
      content_ack_args true hne hdigits hline hrest nofun
    rw [hfield, hcontent, if_neg hstart]
    by_cases hone : rest = []
    · rw [hone, List.append_nil] at hsplit
      rw [hsplit, show js.parse text = _ from hundone]
      exact iff_of_true rfl ⟨v :: vs, rfl, fun c hc => hline c (hsplit ▸ hc)⟩
    · -- what is before the line's end is no value, and what comes back has no arguments
      have hcut : js.parse line = none := by
        refine huncut line ⟨rest, hsplit⟩ fun heq => hone ?_
        exact List.append_cancel_left (hsplit.trans (heq.symm.trans (List.append_nil line).symm))
      obtain ⟨c, cs, hcons⟩ := List.exists_cons_of_ne_nil hone
      refine iff_of_false (fun h => ?_) fun ⟨_, _, hall⟩ => ?_
      · rw [hcut] at h
        nomatch (Content.ack.inj h).2
      · have hmem : c ∈ text := by
          rw [← hsplit, hcons]
          exact List.mem_append_right _ List.mem_cons_self
        exact hall c hmem (hrest c (by rw [hcons]; rfl))

/-- the fields that the client's own methods fill come back from the data exactly under this condition -/
theorem content_returns_iff {c : Content} {t : PacketType} (ht : c.type = some t) (h : Filled js wellFormed c) :
    content js (some t) ((dataField wellFormed c).getD []) = c ↔ Returning wellFormed c := by
  cases c with
  | empty | unknown => cases ht
  | error reason adv => exact h.elim
  | noop => exact h.elim
  | disconnect | heartbeat =>
    cases ht
    exact iff_of_true rfl trivial
  | connect qs =>
    cases ht
    refine iff_of_true ?_ trivial
    by_cases hqs : qs = []
    · simp [content, dataField, hqs]
    · simp [content, dataField, hqs]
  | message data =>
    cases ht
    constructor
    · intro hback
      exact ⟨_, (Content.message.inj hback).symm⟩
    · rintro ⟨s, rfl⟩
      cases s <;> rfl
  | json data =>
    cases ht
    obtain ⟨v, rfl, hv⟩ := h
    exact iff_of_true (congrArg Content.json hv) trivial
  | event name args =>
    cases ht
    obtain ⟨n, vs, rfl, rfl, hobject⟩ := h
    exact iff_of_true (event_sent hobject) trivial
  | ack ackId args =>
    cases ht
    obtain ⟨i, rfl, ⟨hne, hdigits⟩, hargs⟩ := h
    exact ack_returns_iff hne hdigits hargs

/-- a packet as the client's own methods make it -/
structure Made (js : Js) (wellFormed : Bool) (p : Packet) : Prop where
  content : Filled js wellFormed p.content
  id_digits : ∀ c ∈ p.id, isAsciiDigit c = true
  ack : p.ack = .none ↔ p.id = []

/-- The endpoint has no colon; a message is a string; an acknowledgement has arguments, and on one line. -/
structure Returns (wellFormed : Bool) (p : Packet) : Prop where
  endpoint_free : SEPERATOR_CHAR ∉ p.endpoint
  content : Returning wellFormed p.content

theorem Made.type {p : Packet} (h : Made js wellFormed p) : ∃ t, p.content.type = some t := by
  have hcontent := h.content
  cases hc : p.content with
  | empty | unknown =>
    rw [hc] at hcontent
    exact hcontent.elim
  | disconnect | connect _ | heartbeat | message _ | json _ | event _ _ | ack _ _ | error _ _ | noop => exact ⟨_, rfl⟩

/-- an endpoint with a colon is cut off there -/
theorem joined_split (t id : JString) (mark : Bool) (a b : JString) (data : Option JString) :
    joined t id mark (a ++ SEPERATOR_CHAR :: b) data =
      joined t id mark a (some (b ++ data.elim [] (SEPERATOR_CHAR :: ·))) := by
  simp [joined]

/-- **What the client reads back of its own packets.** -/
theorem decodePacket_encodePacket_iff {p : Packet} (h : Made js wellFormed p) :
    decodePacket js (encodePacket wellFormed p) = p ↔ Returns wellFormed p := by
  obtain ⟨t, ht⟩ := h.type
  obtain ⟨c, id, endpoint, ack⟩ := p
  obtain ⟨hfilled, hdigits, hack⟩ := h
  obtain ⟨hlookup, hne, hcolon⟩ := typeField_known t
  rw [encodePacket_joined, ht]
  by_cases hfree : SEPERATOR_CHAR ∈ endpoint
  · refine iff_of_false (fun hback => ?_) fun h => h.endpoint_free hfree
    obtain ⟨a, b, hsplit, ha⟩ := List.eq_append_cons_of_mem hfree
    rw [hsplit, joined_split, decodePacket_joined js ⟨hne, hcolon, hdigits, ha⟩] at hback
    have hlength := congrArg List.length (congrArg Packet.endpoint hback)
    simp only [List.length_append, List.length_cons] at hlength
    omega
  · rw [decodePacket_joined js ⟨hne, hcolon, hdigits, hfree⟩, hlookup]
    have hmark : (if id = [] then Ack.none else if decide (ack = .data) then .data else .true) = ack := by
      by_cases hid : id = []
      · rw [if_pos hid]
        exact (hack.2 hid).symm
      · rw [if_neg hid]
        cases ack with
        | none => exact absurd (hack.1 rfl) hid
        | true => rfl
        | data => rfl
    rw [hmark, Packet.mk.injEq]
    simp only [and_true]
    rw [content_returns_iff ht hfilled]
    exact ⟨fun h => ⟨hfree, h⟩, Returns.content⟩

/-! ## Payloads -/
/-! ## Payloads -/

/-- `Number` of a nonnegative number's decimal text -/
def Counts (js : Js) : Prop := ∀ l : ℕ, js.number (intToString l) = some (l : ℤ)

variable {data pre post : JString} {n : ℕ} {ret : List Packet}

theorem charAt?_eq {c : JChar} (hdata : data = pre ++ c :: post) : charAt? data pre.length = some c := by
  rw [charAt?, if_pos (Int.natCast_nonneg _), Int.toNat_natCast, hdata]
  simp

/-- the turns over a length -/
theorem payloadLoop_length {ds : JString} (hds : MESSAGE_SEPARATOR ∉ ds) (hdata : data = pre ++ ds ++ post)
    (length : JString) :
    payloadLoop js data (ds.length + n) pre.length length ret = payloadLoop js data n (pre ++ ds).length (length ++ ds) ret := by
  induction ds generalizing pre length with
  | nil => simp
  | cons c ds ih =>
    rw [List.mem_cons, not_or] at hds
    have hparts : data = pre ++ c :: (ds ++ post) := by simp [hdata]
    have hchar : charAt? data pre.length = some c := charAt?_eq hparts
    have hlt : (pre.length : ℤ) < data.length := by
      rw [hparts]
      simp only [List.length_append, List.length_cons]
      omega
    have hne : ¬ charAt? data pre.length = some MESSAGE_SEPARATOR := by
      rw [hchar]
      exact fun h => hds.1 (Option.some.inj h).symm
    have htail : payloadLoop js data (ds.length + n) (pre ++ [c]).length (length ++ [c]) ret =
        payloadLoop js data n (pre ++ [c] ++ ds).length (length ++ [c] ++ ds) ret := ih hds.2 (by simp [hdata]) (length ++ [c])
    rw [show (c :: ds).length + n = (ds.length + n) + 1 by simp only [List.length_cons]; omega, payloadLoop, if_pos hlt,
      if_neg hne, hchar]
    rw [show (pre.length : ℤ) + 1 = (pre ++ [c]).length by simp, Option.toList_some, htail]
    simp

/-- the turns over one announced text -/
theorem payloadLoop_announced (hjs : Counts js) {e : JString} (hdata : data = pre ++ FrameCodec.announce e ++ post) :
    payloadLoop js data ((intToString e.length).length + 1 + n) (pre.length + 1) [] ret =
      payloadLoop js data n ((pre ++ FrameCodec.announce e).length + 1) [] (ret ++ [decodePacket js e]) := by
  have hparts : data = (pre ++ [MESSAGE_SEPARATOR] ++ intToString e.length) ++ MESSAGE_SEPARATOR :: (e ++ post) := by
    simp [hdata, FrameCodec.announce]
  have hannounce := FrameCodec.announce_length e
  let head := pre ++ [MESSAGE_SEPARATOR] ++ intToString e.length
  have hhead : head.length = pre.length + 1 + (intToString e.length).length := by simp [head]; omega
  have hchar : charAt? data head.length = some MESSAGE_SEPARATOR := charAt?_eq hparts
  have hlt : (head.length : ℤ) < data.length := by
    rw [hparts]
    simp only [List.length_append, List.length_cons, List.length_nil, head]
    omega
  have htaken : (data.drop ((head.length : ℤ) + 1).toNat).take (e.length : ℤ).toNat = e := by
    have hmid : (data.drop ((head.length : ℤ) + 1).toNat).take ((head.length : ℤ) + 1 + e.length - (head.length + 1)).toNat = e :=
      drop_take_eq (head ++ [MESSAGE_SEPARATOR]) post (by simp [hparts, head]) (by simp) rfl
    rwa [show (head.length : ℤ) + 1 + e.length - (head.length + 1) = e.length by omega] at hmid
  have hnext : (head.length : ℤ) + (e.length + 1) + 1 = (pre ++ FrameCodec.announce e).length + 1 := by
    have hall : (pre ++ FrameCodec.announce e).length = pre.length + (FrameCodec.announce e).length := List.length_append
    omega
  have hdigits : payloadLoop js data ((intToString e.length).length + (n + 1)) (pre ++ [MESSAGE_SEPARATOR]).length [] ret =
      payloadLoop js data (n + 1) head.length ([] ++ intToString e.length) ret :=
    payloadLoop_length (sep_not_mem_intToString e.length) hparts []
  rw [show (pre.length : ℤ) + 1 = (pre ++ [MESSAGE_SEPARATOR]).length by simp,
    show (intToString e.length).length + 1 + n = (intToString e.length).length + (n + 1) by omega, hdigits, payloadLoop,
    if_pos hlt, if_pos hchar]
  simp only [List.nil_append, hjs e.length, Option.getD_some]
  rw [htaken, hnext]

/-- **A payload of announced texts is taken apart text by text**, whatever they contain. -/
theorem payloadLoop_texts (hjs : Counts js) {es : List JString} (hdata : data = pre ++ es.flatMap FrameCodec.announce)
    (hn : (es.flatMap FrameCodec.announce).length < n) :
    payloadLoop js data n (pre.length + 1) [] ret = some (ret ++ es.map (decodePacket js)) := by
  induction es generalizing pre n ret with
  | nil =>
    obtain ⟨m, rfl⟩ : ∃ m, n = m + 1 := ⟨n - 1, by omega⟩
    have hend : ¬ ((pre.length : ℤ) + 1 < data.length) := by
      rw [hdata, List.flatMap_nil, List.append_nil]
      omega
    rw [payloadLoop, if_neg hend, List.map_nil, List.append_nil]
  | cons e es ih =>
    have hlength := FrameCodec.announce_length e
    rw [List.flatMap_cons, List.length_append] at hn
    obtain ⟨m, rfl⟩ : ∃ m, n = (intToString e.length).length + 1 + m := ⟨n - ((intToString e.length).length + 1), by omega⟩
    have hparts : data = pre ++ FrameCodec.announce e ++ es.flatMap FrameCodec.announce := by simp [hdata]
    rw [payloadLoop_announced hjs hparts, ih (by simp [hdata]) (by omega)]
    simp

theorem decodePayload_texts (hjs : Counts js) {es : List JString} (hne : es ≠ [])
    (hn : (es.flatMap FrameCodec.announce).length < n) :
    decodePayload js n (es.flatMap FrameCodec.announce) = some (es.map (decodePacket js)) := by
  obtain ⟨e, es, rfl⟩ := List.exists_cons_of_ne_nil hne
  have hhead : ((e :: es).flatMap FrameCodec.announce).head? = some MESSAGE_SEPARATOR := rfl
  rw [decodePayload, if_pos hhead]
  have hall : payloadLoop js ((e :: es).flatMap FrameCodec.announce) n (([] : JString).length + 1) [] [] =
      some ([] ++ (e :: es).map (decodePacket js)) := payloadLoop_texts hjs rfl hn
  exact hall

/-- an encoded packet does not begin like a batch -/
theorem encodePacket_head {p : Packet} {t : PacketType} (ht : p.content.type = some t) :
    (encodePacket wellFormed p).head? ≠ some MESSAGE_SEPARATOR := by
  obtain ⟨d, rest, hd, hne⟩ : ∃ d rest, typeField (some t) = d :: rest ∧ d ≠ MESSAGE_SEPARATOR := by
    cases t <;> exact ⟨_, _, rfl, by decide⟩
  rw [encodePacket_joined, ht, joined, hd]
  exact fun h => hne (Option.some.inj h)

/-- a text that is no batch -/
theorem decodePayload_single {e : JString} (h : e.head? ≠ some MESSAGE_SEPARATOR) (n : ℕ) :
    decodePayload js n e = some [decodePacket js e] := if_neg h

/-- **Which packets come back from a payload**: of those that the client's own methods make, all whose endpoint has no
colon, but messages that are no strings, automatic acknowledgements, and acknowledgements whose arguments break the line. -/
theorem decodePayload_encodePayload_iff (hjs : Counts js) {ps : List Packet} (hne : ps ≠ [])
    (hps : ∀ p ∈ ps, Made js wellFormed p) (hn : (encodePayload (ps.map (encodePacket wellFormed))).length < n) :
    decodePayload js n (encodePayload (ps.map (encodePacket wellFormed))) = some ps ↔ ∀ p ∈ ps, Returns wellFormed p := by
  have htexts : decodePayload js n (encodePayload (ps.map (encodePacket wellFormed))) =
      some (ps.map fun p => decodePacket js (encodePacket wellFormed p)) := by
    match ps, hne with
    | [p], _ =>
      obtain ⟨t, ht⟩ := (hps p List.mem_cons_self).type
      exact decodePayload_single (encodePacket_head ht) n
    | p :: q :: ps, _ =>
      have hbatch : decodePayload js n (((p :: q :: ps).map (encodePacket wellFormed)).flatMap FrameCodec.announce) =
          some (((p :: q :: ps).map (encodePacket wellFormed)).map (decodePacket js)) :=
        decodePayload_texts hjs (List.cons_ne_nil _ _) hn
      rw [List.map_map] at hbatch
      exact hbatch
  rw [htexts, Option.some_inj]
  have hback : ps.map (fun p => decodePacket js (encodePacket wellFormed p)) = ps ↔
      ∀ p ∈ ps, decodePacket js (encodePacket wellFormed p) = p := by
    conv_lhs => rhs; rw [← List.map_id ps]
    exact List.map_inj_left
  rw [hback]
  exact forall₂_congr fun p hp => decodePacket_encodePacket_iff (hps p hp)

/-- `JSON.parse` where it is only asked for the arguments `[1]`, `Number` of a decimal text, and no inherited members -/
def numbersOnly : Js where
  parse text := if text = str "[1]" then some (.array [.number (str "1")]) else none
  number text := (decimal 0 text).map fun n => (n : ℤ)
  arrayMember _ := none
  objectMember _ := none

theorem counts_numbersOnly : Counts numbersOnly := by
  intro l
  change (decimal 0 (intToString l)).map (fun n => (n : ℤ)) = some (l : ℤ)
  rw [decimal_intToString]
  rfl

/-- a message that looks like a batch, to a namespace, and an acknowledgement with an argument -/
def trickyPackets : List Packet :=
  [⟨.message (.string ([MESSAGE_SEPARATOR] ++ str "3" ++ [MESSAGE_SEPARATOR] ++ str "3::")), str "12", str "/chat", .data⟩,
    ⟨.ack (some (str "7")) (.array [.number (str "1")]), [], [], .none⟩]

theorem decodePayload_tricky :
    decodePayload numbersOnly 100 (encodePayload (trickyPackets.map (encodePacket true))) = some trickyPackets := by
  have hmade : ∀ p ∈ trickyPackets, Made numbersOnly true p := by
    refine List.forall_mem_cons.2 ⟨⟨trivial, List.forall_iff_forall_mem.1 (by decide), by decide⟩,
      List.forall_mem_singleton.2 ⟨⟨str "7", rfl, ⟨by decide, List.forall_iff_forall_mem.1 (by decide)⟩, .inr ⟨_, rfl, rfl, ?_⟩⟩,
        List.forall_iff_forall_mem.1 (by decide), by decide⟩⟩
    exact fun text _ hne => if_neg hne
  refine (decodePayload_encodePayload_iff counts_numbersOnly (List.cons_ne_nil _ _) hmade (by decide)).2 ?_
  exact List.forall_mem_cons.2 ⟨⟨by decide, _, rfl⟩,
    List.forall_mem_singleton.2 ⟨List.not_mem_nil, _, rfl, List.forall_iff_forall_mem.1 (by decide)⟩⟩

end SocketIOJava.ClientParser
