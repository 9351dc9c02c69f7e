/-
The data handlers of the HTTP transports: what they write into a response.

A handler's method is the list of its calls of the response and its stream. What `print` makes of the chars of a text is
the stream's: one byte for each char up to U+00FF, and a `CharConversionException` at any other.

- `only_closing_iff`, `embedded_iff`: htmlfile puts the data as a quoted string into a script element, of which it closes
  only its own.
- `carried_iff`: jsonp puts the data between single quotes, which stand for it if it needs no escape.
- `arrives_iff`: xhr prints the data, and announces it as UTF-8.
-/
import Mathlib.Data.Bool.AllAny
import SocketIOJava.JsonAppend
import SocketIOJava.Run
import SocketIOJava.Lib.JsLiteral
import SocketIOJava.Lib.Utf16

namespace SocketIOJava.DataHandlers

open SocketIOJava.Text SocketIOJava.Frame

/-! ## The source -/

/-- a call of the response, or of its stream -/
inductive Output where
  | setContentType (type : JString)
  | setHeader (name value : JString)
  | print (s : JString)
  | flushBuffer
deriving DecidableEq, Repr

namespace HtmlFile

def onStartSend : List Output :=
  [.setContentType (str "text/html"), .setHeader (str "Connection") (str "keep-alive"),
    .setHeader (str "Transfer-Encoding") (str "chunked"), .print (str "<html><body>" ++ List.replicate 244 0x20), .flushBuffer]

def onWriteData (data : JString) : List Output :=
  [.print (str "<script>parent.s._(" ++ JsonAppend.toString (.string data) ++ str ", document);</script>"), .flushBuffer]

def onFinishSend : List Output := []

def onConnect (sessionId : JString) : List Output := onStartSend ++ onWriteData (encode .connect [] sessionId)

end HtmlFile

namespace JsonpPolling

def onStartSend : List Output := [.setContentType (str "text/javascript; charset=UTF-8")]

/-- an attribute in a concatenation of strings -/
def attributeToString : Option ℤ → JString
  | some n => numberToString n
  | none => str "null"

/-- `frameId` is the session's attribute `FRAME_ID` -/
def onWriteData (frameId : Option ℤ) (data : JString) : List Output :=
  [.print (str "io.j[" ++ attributeToString frameId ++ str "]('"), .print data, .print (str "');")]

def onFinishSend : List Output := [.flushBuffer]

/-- the first parameter `i` that is an int, or 0 -/
def frameIdOf (query : JString) : ℤ :=
  let ids := (query.splitOnP (· = 0x26)).filterMap fun part =>
    if (str "i=").isPrefixOf part then (parseInt (part.drop 2)).toOption else none
  ids.head?.getD 0

def onConnect (query : Option JString) (sessionId : JString) : Except JavaException (ℤ × List Output) :=
  match query with
  | none => .error .nullPointer
  | some query =>
    let frameId := frameIdOf query
    .ok (frameId, onStartSend ++ onWriteData (some frameId) (encode .connect [] sessionId))

end JsonpPolling

namespace XhrPolling

def onStartSend : List Output := [.setContentType (str "text/plain; charset=UTF-8")]

def onWriteData (data : JString) : List Output := [.print data, .flushBuffer]

def onFinishSend : List Output := []

def onConnect (sessionId : JString) : List Output := onStartSend ++ onWriteData (encode .connect [] sessionId)

end XhrPolling

/-- the text that is printed -/
def written (calls : List Output) : JString :=
  calls.flatMap fun call => match call with | .print s => s | _ => []

/-! ## htmlfile -/

/-- a letter of ASCII in lower case, and any other char -/
def lower (c : JChar) : JChar := if 0x41 ≤ c ∧ c ≤ 0x5A then c + 0x20 else c

/-- the pattern stands in the text, ignoring case -/
def Occurs (pattern text : JString) : Prop := pattern <:+: text.map lower

/-- the pattern stands in the text from this index on, ignoring case -/
def OccursAt (pattern text : JString) (i : ℕ) : Prop := pattern <+: (text.drop i).map lower

instance (pattern text : JString) (i : ℕ) : Decidable (OccursAt pattern text i) :=
  inferInstanceAs (Decidable (pattern <+: (text.drop i).map lower))

def CLOSING : JString := str "</script"

/-- the text that `onWriteData` prints -/
def chunk (data : JString) : JString := written (HtmlFile.onWriteData data)

/-- the chunk closes the script element at its end and nowhere else -/
def ClosesOnce (data : JString) : Prop :=
  ∀ i, OccursAt CLOSING (chunk data) i ↔ i + (str "</script>").length = (chunk data).length

/-- the argument in the chunk is a string literal of the data -/
def Embedded (separators : Bool) (data : JString) : Prop :=
  ∃ literal, chunk data = str "<script>parent.s._(" ++ literal ++ str ", document);</script>" ∧
    JsLiteral.Literal 0x22 separators literal data

theorem prefix_append_cons_iff {pattern : JString} {q : JChar} (hq : q ∉ pattern) (u v : JString) :
    pattern <+: u ++ q :: v ↔ pattern <+: u := by
  constructor
  · intro h
    rcases List.prefix_or_prefix_of_prefix h (List.prefix_append u (q :: v)) with hu | ⟨w, rfl⟩
    · exact hu
    · rw [List.prefix_append_right_inj] at h
      cases w with
      | nil => simp
      | cons d w =>
        obtain ⟨rfl, -⟩ := List.cons_prefix_cons.1 h
        exact absurd (by simp) hq
  · intro h
    exact h.trans (List.prefix_append u (q :: v))

/-- an occurrence does not reach over a char that the pattern does not have -/
theorem infix_append_cons_iff {pattern : JString} {q : JChar} (hq : q ∉ pattern) (u v : JString) :
    pattern <:+: u ++ q :: v ↔ pattern <:+: u ∨ pattern <:+: v := by
  induction u with
  | nil =>
    rw [List.nil_append, List.infix_cons_iff, List.infix_nil]
    have hstarts := prefix_append_cons_iff hq [] v
    rw [List.nil_append, List.prefix_nil] at hstarts
    rw [hstarts]
  | cons c u ih =>
    have hstarts := prefix_append_cons_iff hq (c :: u) v
    rw [List.cons_append] at hstarts
    rw [List.cons_append, List.infix_cons_iff, List.infix_cons_iff, ih, hstarts, or_assoc]

/-- nor does it begin where the pattern's first char is not -/
theorem infix_append_iff_of_head {pattern : JString} {x : JChar} {u : JString} (hx : x ∉ u) (v : JString) :
    x :: pattern <:+: u ++ v ↔ x :: pattern <:+: v := by
  induction u with
  | nil => rfl
  | cons c u ih =>
    rw [List.mem_cons, not_or] at hx
    rw [List.cons_append, List.infix_cons_iff, ih hx.2, List.cons_prefix_cons]
    exact or_iff_right fun h => hx.1 h.1

theorem lower_eq {c : JChar} (h : ¬ JsonAppend.Plain c) : lower c = c := by
  refine if_neg fun hletter => h ⟨?_, ?_, ?_⟩
  · rintro rfl
    exact absurd hletter (by decide)
  · rintro rfl
    exact absurd hletter (by decide)
  · exact UInt16.le_trans (by decide) hletter.1

theorem lower_eq_less {c : JChar} (h : lower c = 0x3C) : c = 0x3C := by
  unfold lower at h
  split_ifs at h with hletter
  · have hsum := congrArg UInt16.toNat h
    have hlow := UInt16.le_iff_toNat_le.1 hletter.1
    have hhigh := UInt16.le_iff_toNat_le.1 hletter.2
    rw [UInt16.toNat_add] at hsum
    change 65 ≤ _ at hlow
    change _ ≤ 90 at hhigh
    change (_ + 32) % 65536 = 60 at hsum
    omega
  · exact h

/-- the data between the quotes -/
def escaped (data : JString) : JString := data.flatMap JsonAppend.quoteChar

theorem chunk_eq (data : JString) : chunk data =
    str "<script>parent.s._(" ++ 0x22 :: (escaped data ++ 0x22 :: str ", document);</script>") := by
  change str "<script>parent.s._(" ++ (str "\"" ++ escaped data ++ str "\"") ++ str ", document);</script>" ++ [] = _
  rw [List.append_nil, List.append_assoc, List.append_assoc, List.append_assoc]
  rfl

theorem escaped_cons (c : JChar) (data : JString) : escaped (c :: data) = JsonAppend.quoteChar c ++ escaped data :=
  List.flatMap_cons

/-- escapes have no char of a plain pattern at their beginning -/
theorem prefix_escaped_iff {pattern : JString} (hplain : ∀ c ∈ pattern, JsonAppend.Plain c) (data : JString) :
    pattern <+: (escaped data).map lower ↔ pattern <+: data.map lower := by
  induction data generalizing pattern with
  | nil => rfl
  | cons c data ih =>
    cases pattern with
    | nil => simp
    | cons x pattern =>
      rw [escaped_cons, List.map_cons, List.map_append]
      by_cases hc : JsonAppend.Plain c
      · rw [JsonAppend.quoteChar_plain hc, List.map_singleton, List.singleton_append, List.cons_prefix_cons,
          List.cons_prefix_cons, ih fun d hd => hplain d (List.mem_cons_of_mem x hd)]
      · obtain ⟨d, rest, hquote, -⟩ := JsonAppend.quoteChar_escape hc
        have hx := hplain x List.mem_cons_self
        rw [hquote, List.map_cons, List.cons_append, List.cons_prefix_cons, List.cons_prefix_cons, lower_eq hc]
        constructor
        · rintro ⟨rfl, -⟩
          exact absurd hx (by decide)
        · rintro ⟨rfl, -⟩
          exact absurd hx hc

/-- **Escaping does not break up an occurrence** of the closing tag, and makes none. -/
theorem occurs_escaped_iff (data : JString) : Occurs CLOSING (escaped data) ↔ Occurs CLOSING data := by
  unfold Occurs
  induction data with
  | nil => rfl
  | cons c data ih =>
    have hplain : ∀ c ∈ CLOSING, JsonAppend.Plain c := List.all_iff_forall_prop.1 rfl
    have hstarts := prefix_escaped_iff hplain (c :: data)
    rw [List.map_cons, List.infix_cons_iff, ← ih]
    rw [escaped_cons, List.map_append, List.map_cons] at hstarts
    rw [escaped_cons, List.map_append]
    by_cases hc : JsonAppend.Plain c
    · rw [JsonAppend.quoteChar_plain hc, List.map_singleton, List.singleton_append] at hstarts ⊢
      rw [List.infix_cons_iff, hstarts]
    · obtain ⟨d, rest, hquote, hrest⟩ := JsonAppend.quoteChar_escape hc
      have hhead : (0x3C : JChar) ∉ (JsonAppend.quoteChar c).map lower := by
        rw [hquote, List.mem_map]
        rintro ⟨e, he, hless⟩
        rcases List.mem_cons.1 he with rfl | he
        · exact absurd hless (by decide)
        · exact of_decide_eq_true (List.all_eq_true.1 hrest e he) (lower_eq_less hless)
      have hlower : 0x3C ≠ lower c := by
        rw [lower_eq hc]
        rintro rfl
        exact hc (by decide)
      rw [show CLOSING = 0x3C :: str "/script" from rfl, infix_append_iff_of_head hhead, List.cons_prefix_cons]
      exact (or_iff_right fun h => hlower h.1).symm

theorem occurs_iff_exists {pattern text : JString} : Occurs pattern text ↔ ∃ i, i ≤ text.length ∧ OccursAt pattern text i := by
  unfold Occurs OccursAt
  constructor
  · rintro ⟨u, v, h⟩
    have hlength := congrArg List.length h
    rw [List.length_append, List.length_append, List.length_map] at hlength
    refine ⟨u.length, by omega, ?_⟩
    rw [List.map_drop, ← h, List.append_assoc, List.drop_left]
    exact List.prefix_append pattern v
  · rintro ⟨i, -, h⟩
    rw [List.map_drop] at h
    exact h.isInfix.trans (List.drop_suffix i _).isInfix

/-- before the closing tag an occurrence is one of the text before it -/
theorem occursAt_front {front : JString} {i : ℕ} (hi : i < front.length) :
    OccursAt CLOSING (front ++ str "</script>") i ↔ OccursAt CLOSING front i := by
  unfold OccursAt
  rw [List.drop_append_of_le_length hi.le, List.map_append]
  have hne : front.drop i ≠ [] := by
    rw [Ne, List.drop_eq_nil_iff]
    omega
  obtain ⟨c, rest, hdrop⟩ := List.exists_cons_of_ne_nil hne
  rw [hdrop, List.map_cons, List.cons_append, show CLOSING = 0x3C :: str "/script" from rfl, List.cons_prefix_cons,
    List.cons_prefix_cons, show (str "</script>").map lower = 0x3C :: str "/script>" from rfl,
    prefix_append_cons_iff (by decide)]

/-- in the closing tag it is the tag itself -/
theorem occursAt_end {front : JString} {i : ℕ} (hi : front.length ≤ i) :
    OccursAt CLOSING (front ++ str "</script>") i ↔ i = front.length := by
  unfold OccursAt
  obtain ⟨k, rfl⟩ := Nat.exists_eq_add_of_le hi
  rw [List.drop_append, List.drop_eq_nil_of_le hi, List.nil_append, Nat.add_sub_cancel_left]
  constructor
  · intro h
    have hlength := h.length_le
    rw [List.length_map, List.length_drop] at hlength
    have hk : k ≤ 1 := by
      change 8 ≤ 9 - k at hlength
      omega
    interval_cases k
    · rfl
    · exact absurd h (by decide)
  · intro h
    obtain rfl : k = 0 := by omega
    decide

/-- the chunk without its closing tag -/
def front (data : JString) : JString :=
  str "<script>parent.s._(" ++ 0x22 :: (escaped data ++ 0x22 :: str ", document);")

theorem chunk_eq_front (data : JString) : chunk data = front data ++ str "</script>" := by
  rw [chunk_eq, front, List.append_assoc, List.cons_append, List.append_assoc, List.cons_append]
  rfl

/-- what the handler writes around the data has no closing tag before the last -/
theorem occurs_front_iff (data : JString) : Occurs CLOSING (front data) ↔ Occurs CLOSING data := by
  rw [← occurs_escaped_iff data, Occurs, front, List.map_append, List.map_cons, List.map_append, List.map_cons,
    infix_append_cons_iff (by decide), infix_append_cons_iff (by decide)]
  have hbefore : ¬ CLOSING <:+: (str "<script>parent.s._(").map lower := by decide
  have hafter : ¬ CLOSING <:+: (str ", document);").map lower := by decide
  rw [or_iff_right hbefore, or_iff_left hafter]
  rfl

/-- **The chunk closes only its own element** exactly if the data has no closing tag in it. -/
theorem only_closing_iff (data : JString) : ClosesOnce data ↔ ¬ Occurs CLOSING data := by
  rw [← occurs_front_iff, ClosesOnce, chunk_eq_front]
  have hlength : (front data ++ str "</script>").length = (front data).length + (str "</script>").length := List.length_append
  constructor
  · intro h hoccurs
    obtain ⟨i, hle, hi⟩ := occurs_iff_exists.1 hoccurs
    have hlt : i < (front data).length := by
      refine lt_of_le_of_ne hle ?_
      rintro rfl
      rw [OccursAt, List.drop_length] at hi
      exact absurd hi (by decide)
    have hend := (h i).1 ((occursAt_front hlt).2 hi)
    omega
  · intro h i
    rcases lt_or_ge i (front data).length with hlt | hge
    · refine iff_of_false (fun hi => h ?_) (by omega)
      exact occurs_iff_exists.2 ⟨i, hlt.le, (occursAt_front hlt).1 hi⟩
    · rw [occursAt_end hge]
      omega

/-- a char that ended the line of a script before 2019, and that `quote` does not escape -/
def Separates (separators : Bool) (c : JChar) : Prop := separators = false ∧ (c = 0x2028 ∨ c = 0x2029)

instance (separators : Bool) : DecidablePred (Separates separators) := fun c =>
  inferInstanceAs (Decidable (separators = false ∧ (c = 0x2028 ∨ c = 0x2029)))

theorem separates_plain {separators : Bool} {c : JChar} (h : Separates separators c) : JsonAppend.Plain c := by
  rcases h.2 with rfl | rfl <;> decide

theorem not_breaks {separators : Bool} {c : JChar} (hc : JsonAppend.Plain c) (h : ¬ Separates separators c) :
    ¬ JsLiteral.Breaks separators c := by
  rintro (rfl | rfl | hbreaks)
  · exact absurd hc (by decide)
  · exact absurd hc (by decide)
  · exact h hbreaks

/-- an escape is read back as its char -/
theorem element_quoteChar {separators : Bool} {c : JChar} (h : ¬ Separates separators c) (rest : JString) :
    JsLiteral.element 0x22 separators (JsonAppend.quoteChar c ++ rest) = some ([c], rest) := by
  by_cases hc : JsonAppend.Plain c
  · rw [JsonAppend.quoteChar_plain hc]
    exact JsLiteral.element_plain ⟨hc.2.1, hc.1, not_breaks hc h⟩ rest
  by_cases hquote : c = 0x22
  · subst hquote
    exact JsLiteral.element_escape 0x22 rest
  by_cases hslash : c = 0x5C
  · subst hslash
    exact JsLiteral.element_escape 0x5C rest
  have hcontrol : c < 0x20 := UInt16.not_le.1 fun hle => hc ⟨hquote, hslash, hle⟩
  obtain ⟨n, hn, rfl⟩ := JsonAppend.control_cases hcontrol
  interval_cases n <;> exact JsLiteral.element_escape _ _

/-- **The string between the quotes stands for the data** exactly if no char of it ends the line. -/
theorem body_escaped_iff {separators : Bool} {data : JString} :
    JsLiteral.Body 0x22 separators (escaped data) data ↔ ∀ c ∈ data, ¬ Separates separators c := by
  induction data with
  | nil => exact iff_of_true .nil fun c hc => absurd hc List.not_mem_nil
  | cons c data ih =>
    rw [escaped_cons, List.forall_mem_cons, ← ih]
    by_cases hseparates : Separates separators c
    · refine iff_of_false (fun h => ?_) fun h => h.1 hseparates
      have hplain := separates_plain hseparates
      rw [JsonAppend.quoteChar_plain hplain, List.singleton_append] at h
      exact JsLiteral.not_body (List.cons_ne_nil _ _) (JsLiteral.element_none hplain.2.1 (.inr (.inr (.inr hseparates))) _) h
    · have helement := element_quoteChar hseparates (escaped data)
      constructor
      · intro h
        obtain ⟨s, hs, hrest⟩ := h.of_cons helement
        obtain ⟨-, rfl⟩ := List.cons.inj hs
        exact ⟨hseparates, hrest⟩
      · rintro ⟨-, hrest⟩
        exact .cons helement hrest

theorem embedded_iff {separators : Bool} {data : JString} :
    Embedded separators data ↔ ∀ c ∈ data, ¬ Separates separators c := by
  have hchunk : chunk data = str "<script>parent.s._(" ++ (0x22 :: (escaped data ++ [0x22])) ++ str ", document);</script>" := by
    rw [chunk_eq, List.append_assoc, List.cons_append, List.append_assoc]
    rfl
  unfold Embedded
  rw [← body_escaped_iff, hchunk]
  exact JsLiteral.literal_between_iff _ _

/-- **A message stays in its script element, and arrives as it is,** exactly if it has no closing tag in it. Where a line
separator ends a string literal, it must have none of these either. -/
theorem contained_iff (separators : Bool) (data : JString) : ClosesOnce data ∧ Embedded separators data ↔
    ¬ Occurs CLOSING data ∧ ∀ c ∈ data, ¬ Separates separators c := and_congr (only_closing_iff data) embedded_iff

/-- a message that ends the script element, and goes on as HTML -/
theorem closing_escapes : ¬ ClosesOnce (str "3:::</script><img src=x>") ∧
    ∀ separators, Embedded separators (str "3:::</script><img src=x>") := by
  constructor
  · intro h
    have hend := (h 24).1 (by decide)
    exact absurd hend (by decide)
  · intro separators
    refine ⟨str "\"3:::</script><img src=x>\"", rfl, str "3:::</script><img src=x>", rfl, ?_⟩
    cases separators <;> exact JsLiteral.body_self_iff.2 (List.all_iff_forall_prop.1 rfl)

/-! ## jsonp -/

/-- what is written is one call, of a function of the frame id, and its argument is a string literal of the data -/
def Carried (separators : Bool) (frameId : Option ℤ) (data : JString) : Prop :=
  ∃ literal, written (JsonpPolling.onWriteData frameId data) =
      str "io.j[" ++ JsonpPolling.attributeToString frameId ++ str "](" ++ literal ++ str ");" ∧
    JsLiteral.Literal 0x27 separators literal data

theorem written_jsonp (frameId : Option ℤ) (data : JString) : written (JsonpPolling.onWriteData frameId data) =
    str "io.j[" ++ JsonpPolling.attributeToString frameId ++ str "](" ++ (0x27 :: (data ++ [0x27])) ++ str ");" := by
  change (str "io.j[" ++ JsonpPolling.attributeToString frameId ++ (str "](" ++ [0x27])) ++
    (data ++ ([0x27] ++ str ");" ++ [])) = _
  simp only [List.append_assoc, List.cons_append, List.nil_append, List.append_nil]

/-- **A message arrives as it is** exactly if it has none of the chars that a literal would have to escape: the quote, the
backslash and the ends of a line. -/
theorem carried_iff (separators : Bool) (frameId : Option ℤ) (data : JString) :
    Carried separators frameId data ↔ ∀ c ∈ data, JsLiteral.Plain 0x27 separators c := by
  unfold Carried
  rw [← JsLiteral.body_self_iff, written_jsonp]
  exact JsLiteral.literal_between_iff _ _

/-- an application greets a parked poll -/
def greeted : List (Run.Input Run.HttpEvent) :=
  [⟨.container .connect, [], []⟩, ⟨.container .get, [], []⟩, ⟨.outbound (.sendMessage (str "it's me")), [], []⟩]

/-- the apostrophe of a message ends the literal -/
theorem apostrophe_breaks :
    Session.Entry.wrote (str "3:::it's me") false ∈
        (Run.run Run.serveHttp (JettyContinuation.created ⟨none, none, none, none⟩ false) greeted).log ∧
      ∀ separators, ¬ Carried separators (some 0) (str "3:::it's me") := by
  constructor
  · decide +kernel
  · intro separators h
    have hplain := (carried_iff separators (some 0) _).1 h 0x27 (by decide)
    exact hplain.2.1 rfl

/-! ## xhr -/

/-- the bytes that `print` writes; a char that is not one byte is a `CharConversionException` -/
def print : JString → Except JavaException (List UInt8)
  | [] => .ok []
  | c :: s => if c ≤ 0xFF then do return c.toUInt8 :: (← print s) else .error .ioException

/-- the bytes that some calls send -/
def sent : List Output → Except JavaException (List UInt8)
  | [] => .ok []
  | .print s :: calls => do return (← print s) ++ (← sent calls)
  | _ :: calls => sent calls

/-- bytes read as UTF-8, if they are -/
def decodeUtf8 (bytes : List UInt8) : Option JString := bytes.toByteArray.utf8Decode?.map fun l => Utf16.encode l.toList

/-- a message is sent without an exception, and is what a client reads in the charset of the content type -/
def Arrives (data : JString) : Prop :=
  ∃ bytes, sent (XhrPolling.onStartSend ++ XhrPolling.onWriteData data) = .ok bytes ∧ decodeUtf8 bytes = some data

theorem print_ok_iff {s : JString} {bytes : List UInt8} :
    print s = .ok bytes ↔ (∀ c ∈ s, c ≤ 0xFF) ∧ bytes = s.map UInt16.toUInt8 := by
  induction s generalizing bytes with
  | nil =>
    constructor
    · intro h
      cases h
      exact ⟨fun c hc => absurd hc List.not_mem_nil, rfl⟩
    · rintro ⟨-, rfl⟩
      rfl
  | cons c s ih =>
    rw [List.forall_mem_cons, List.map_cons, print]
    by_cases hc : c ≤ 0xFF
    · rw [if_pos hc]
      cases hrest : print s with
      | error e =>
        refine iff_of_false nofun fun h => ?_
        have hok := ih.2 ⟨h.1.2, rfl⟩
        rw [hrest] at hok
        cases hok
      | ok later =>
        obtain ⟨hall, rfl⟩ := ih.1 hrest
        constructor
        · intro h
          cases h
          exact ⟨⟨hc, hall⟩, rfl⟩
        · rintro ⟨-, rfl⟩
          rfl
    · rw [if_neg hc]
      exact iff_of_false nofun fun h => hc h.1.1

theorem sent_xhr (data : JString) : sent (XhrPolling.onStartSend ++ XhrPolling.onWriteData data) = print data := by
  change (do return (← print data) ++ (← .ok [])) = print data
  cases print data with
  | error e => rfl
  | ok bytes => exact congrArg Except.ok (List.append_nil bytes)

theorem decodeUtf8_eq_some_iff {bytes : List UInt8} {s : JString} :
    decodeUtf8 bytes = some s ↔ ∃ l : List Char, bytes = l.flatMap String.utf8EncodeChar ∧ s = Utf16.encode l := by
  unfold decodeUtf8
  constructor
  · intro h
    obtain ⟨l, hl, rfl⟩ := Option.map_eq_some_iff.1 h
    exact ⟨l.toList, Utf16.eq_of_utf8Decode? hl, rfl⟩
  · rintro ⟨l, rfl, rfl⟩
    have hdecode : (l.flatMap String.utf8EncodeChar).toByteArray.utf8Decode? = some l.toArray := List.utf8Decode?_utf8Encode
    rw [hdecode]
    rfl

/-- ASCII is the same in both encodings -/
theorem ascii_encodings {s : JString} (h : ∀ c ∈ s, c < 0x80) :
    ∃ l : List Char, s.map UInt16.toUInt8 = l.flatMap String.utf8EncodeChar ∧ s = Utf16.encode l := by
  induction s with
  | nil => exact ⟨[], rfl, rfl⟩
  | cons c s ih =>
    obtain ⟨hc, hs⟩ := List.forall_mem_cons.1 h
    obtain ⟨l, hbytes, hunits⟩ := ih hs
    have hlt : c.toNat < 0x80 := UInt16.lt_iff_toNat_lt.1 hc
    have hnat : (Char.ofNat c.toNat).toNat = c.toNat := Utf16.toNat_ofNat (.inl (by omega))
    have hascii : (Char.ofNat c.toNat).toNat < 0x80 := by
      rw [hnat]
      exact hlt
    refine ⟨Char.ofNat c.toNat :: l, ?_, ?_⟩
    · rw [List.map_cons, List.flatMap_cons, Utf16.utf8EncodeChar_ascii hascii, hnat, ← hbytes]
      rfl
    · rw [Utf16.encode_cons, Utf16.encodeChar_ascii hascii, hnat, UInt16.ofNat_toNat, ← hunits]
      rfl

theorem ascii_of_encode {l : List Char} (h : ∀ c ∈ l, c.toNat < 0x80) : ∀ u ∈ Utf16.encode l, u < 0x80 := by
  intro u hu
  obtain ⟨c, hc, hmem⟩ := List.mem_flatMap.1 hu
  rw [Utf16.encodeChar_ascii (h c hc), List.mem_singleton] at hmem
  have hlt := h c hc
  rw [hmem, UInt16.lt_iff_toNat_lt, UInt16.toNat_ofNat_of_lt' (by change c.toNat < 65536; omega)]
  exact hlt

/-- **A message arrives** exactly if it is ASCII: other Latin-1 text is no UTF-8, and other text is not printed. -/
theorem arrives_iff (data : JString) : Arrives data ↔ ∀ c ∈ data, c < 0x80 := by
  unfold Arrives
  rw [sent_xhr]
  constructor
  · rintro ⟨bytes, hprint, hread⟩
    obtain ⟨-, rfl⟩ := print_ok_iff.1 hprint
    obtain ⟨l, hbytes, rfl⟩ := decodeUtf8_eq_some_iff.1 hread
    -- one byte for each unit is too few for any other character
    refine ascii_of_encode (Utf16.ascii_of_length_le ?_)
    rw [← hbytes, List.length_map]
  · intro h
    obtain ⟨l, hbytes, hunits⟩ := ascii_encodings h
    refine ⟨_, print_ok_iff.2 ⟨fun c hc => ?_, rfl⟩, decodeUtf8_eq_some_iff.2 ⟨l, hbytes, hunits⟩⟩
    exact UInt16.le_of_lt (UInt16.lt_trans (h c hc) (by decide))

/-- an umlaut is sent, but not as UTF-8, and an ideograph is not sent -/
theorem umlaut_garbled :
    sent (XhrPolling.onStartSend ++ XhrPolling.onWriteData (str "3:::\u00fc")) = .ok [0x33, 0x3A, 0x3A, 0x3A, 0xFC] ∧
      ¬ Arrives (str "3:::\u00fc") ∧ ¬ Arrives (str "3:::\u65e5") := by
  refine ⟨rfl, fun h => ?_, fun h => ?_⟩
  · exact absurd ((arrives_iff _).1 h 0xFC (by decide)) (by decide)
  · exact absurd ((arrives_iff _).1 h 0x65E5 (by decide)) (by decide)

end SocketIOJava.DataHandlers
