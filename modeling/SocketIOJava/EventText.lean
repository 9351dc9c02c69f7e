/-
Events as the client writes them, and what the session makes of them.

The client sends an event as `JSON.stringify({name: n, args: [v]})`. The session takes it apart with a regular expression
and strips a quoted argument of its first and last char; it never undoes an escape. `stringify` follows the language's
definition; `wellFormed` says whether unpaired surrogates are escaped, as newer engines do.

- `event_delivered_iff`: exactly when the event reaches the inbound once, with its name and its argument, if the name is
  listed, and does not reach it otherwise.
- `quoted_argument_escaped`: an argument with quotes arrives with a backslash before each.
-/
import Mathlib.Data.List.TakeWhile
import SocketIOJava.JettyTraversal

namespace SocketIOJava.EventText

open Program SocketIOJava.Text SocketIOJava.Frame SocketIOJava.Session SocketIOJava.Run SocketIOJava.Traversal
open SocketIOJava.JettyTraversal (Unseen)

/-! ## `JSON.stringify` -/

/-- a JSON value; a number comes with its text -/
inductive Json where
  | null
  | bool (b : Bool)
  | number (text : JString)
  | string (s : JString)
  | array (elements : List Json)
  | object (members : List (JString × Json))

def BACKSLASH : JChar := 0x5C

def isHighSurrogate (c : JChar) : Bool := 0xD800 ≤ c ∧ c ≤ 0xDBFF

def isLowSurrogate (c : JChar) : Bool := 0xDC00 ≤ c ∧ c ≤ 0xDFFF

def hexDigit (n : ℕ) : JChar := UInt16.ofNat n.digitChar.toNat

/-- a backslash, `u`, and four hexadecimal digits -/
def unicodeEscape (c : JChar) : JString :=
  [BACKSLASH, 0x75, hexDigit (c.toNat / 4096 % 16), hexDigit (c.toNat / 256 % 16), hexDigit (c.toNat / 16 % 16),
    hexDigit (c.toNat % 16)]

/-- a char inside a quoted string, unless it is half of a surrogate pair -/
def escapeChar (wellFormed : Bool) (c : JChar) : JString :=
  if c = 0x08 then [BACKSLASH, 0x62]
  else if c = 0x09 then [BACKSLASH, 0x74]
  else if c = 0x0A then [BACKSLASH, 0x6E]
  else if c = 0x0C then [BACKSLASH, 0x66]
  else if c = 0x0D then [BACKSLASH, 0x72]
  else if c = QUOTE then [BACKSLASH, QUOTE]
  else if c = BACKSLASH then [BACKSLASH, BACKSLASH]
  else if c < 0x20 ∨ wellFormed ∧ (isHighSurrogate c ∨ isLowSurrogate c) then unicodeEscape c
  else [c]

/-- the chars of a quoted string -/
def escape (wellFormed : Bool) : JString → JString
  | [] => []
  | [c] => escapeChar wellFormed c
  | c :: d :: cs =>
    if isHighSurrogate c ∧ isLowSurrogate d then c :: d :: escape wellFormed cs
    else escapeChar wellFormed c ++ escape wellFormed (d :: cs)

def quoteJSONString (wellFormed : Bool) (s : JString) : JString := [QUOTE] ++ escape wellFormed s ++ [QUOTE]

mutual

def stringify (wellFormed : Bool) : Json → JString
  | .null => str "null"
  | .bool b => if b then str "true" else str "false"
  | .number text => text
  | .string s => quoteJSONString wellFormed s
  | .array elements => str "[" ++ stringifyElements wellFormed elements ++ str "]"
  | .object members => str "\x7b" ++ stringifyMembers wellFormed members ++ str "\x7d"

def stringifyElements (wellFormed : Bool) : List Json → JString
  | [] => []
  | [v] => stringify wellFormed v
  | v :: vs => stringify wellFormed v ++ str "," ++ stringifyElements wellFormed vs

def stringifyMembers (wellFormed : Bool) : List (JString × Json) → JString
  | [] => []
  | [(key, v)] => quoteJSONString wellFormed key ++ str ":" ++ stringify wellFormed v
  | (key, v) :: vs => quoteJSONString wellFormed key ++ str ":" ++ stringify wellFormed v ++ str "," ++
      stringifyMembers wellFormed vs

end

/-- what the client sends for `emit(n, v)` -/
def eventData (wellFormed : Bool) (n : JString) (v : Json) : JString :=
  stringify wellFormed (.object [(str "name", .string n), (str "args", .array [v])])

theorem eventData_eq (wellFormed : Bool) (n : JString) (v : Json) :
    eventData wellFormed n v =
      eventHead ++ (escape wellFormed n ++ (eventMiddle ++ (stringify wellFormed v ++ eventEnd))) := by
  have hname : quoteJSONString wellFormed (str "name") = str "\"name\"" := by cases wellFormed <;> decide
  have hargs : quoteJSONString wellFormed (str "args") = str "\"args\"" := by cases wellFormed <;> decide
  have hn : quoteJSONString wellFormed n = [QUOTE] ++ (escape wellFormed n ++ [QUOTE]) := List.append_assoc _ _ _
  have hhead : eventHead = str "\x7b" ++ (str "\"name\"" ++ (str ":" ++ [QUOTE])) := by decide
  have hmiddle : eventMiddle = [QUOTE] ++ (str "," ++ (str "\"args\"" ++ (str ":" ++ str "["))) := by decide
  have hend : eventEnd = str "]" ++ str "\x7d" := by decide
  unfold eventData
  simp only [stringify, stringifyMembers, stringifyElements, hname, hargs, hn, hhead, hmiddle, hend, List.append_assoc]

/-! ## What escapes look like -/

/-- a name as the clients use them: no quotes, no backslashes, no control characters -/
def Clean (n : JString) : Prop := ∀ c ∈ n, c ≠ QUOTE ∧ c ≠ BACKSLASH ∧ 0x20 ≤ c

/-- a text on one line -/
def OneLine (s : JString) : Prop := ∀ c ∈ s, isLineTerminator c = false

instance : DecidablePred Clean := fun n =>
  decidable_of_iff (n.all fun c => c ≠ QUOTE ∧ c ≠ BACKSLASH ∧ 0x20 ≤ c) (by simp only [List.all_eq_true, decide_eq_true_eq]; rfl)

instance : DecidablePred OneLine := fun s =>
  decidable_of_iff (s.all fun c => !isLineTerminator c) (by simp only [List.all_eq_true, Bool.not_eq_true']; rfl)

theorem hexDigit_plain (n : ℕ) : hexDigit (n % 16) ≠ QUOTE ∧ isLineTerminator (hexDigit (n % 16)) = false := by
  have h : n % 16 < 16 := Nat.mod_lt _ (by decide)
  generalize n % 16 = k at h
  interval_cases k <;> decide

theorem unicodeEscape_plain {c d : JChar} (h : c ∈ unicodeEscape d) : c ≠ QUOTE ∧ isLineTerminator c = false := by
  simp only [unicodeEscape, List.mem_cons, List.not_mem_nil, or_false] at h
  rcases h with rfl | rfl | rfl | rfl | rfl | rfl
  · decide
  · decide
  all_goals exact hexDigit_plain _

/-- an escape is the char itself, or it stays on the line and has a quote only for a quote -/
theorem mem_escapeChar {wellFormed : Bool} {c d : JChar} (h : c ∈ escapeChar wellFormed d) :
    c = d ∨ isLineTerminator c = false ∧ (c = QUOTE → d = QUOTE) := by
  have htwo : ∀ x : JChar, isLineTerminator x = false ∧ (x = QUOTE → d = QUOTE) → c ∈ [BACKSLASH, x] →
      c = d ∨ isLineTerminator c = false ∧ (c = QUOTE → d = QUOTE) := by
    intro x hx hc
    simp only [List.mem_cons, List.not_mem_nil, or_false] at hc
    rcases hc with rfl | rfl
    · exact .inr ⟨by decide, fun h => absurd h (by decide)⟩
    · exact .inr hx
  unfold escapeChar at h
  split_ifs at h with h₁ h₂ h₃ h₄ h₅ h₆ h₇ h₈
  · exact htwo _ ⟨by decide, fun h => absurd h (by decide)⟩ h
  · exact htwo _ ⟨by decide, fun h => absurd h (by decide)⟩ h
  · exact htwo _ ⟨by decide, fun h => absurd h (by decide)⟩ h
  · exact htwo _ ⟨by decide, fun h => absurd h (by decide)⟩ h
  · exact htwo _ ⟨by decide, fun h => absurd h (by decide)⟩ h
  · exact htwo _ ⟨by decide, fun _ => h₆⟩ h
  · exact htwo _ ⟨by decide, fun h => absurd h (by decide)⟩ h
  · have hplain := unicodeEscape_plain h
    exact .inr ⟨hplain.2, fun hq => absurd hq hplain.1⟩
  · exact .inl (List.mem_singleton.1 h)

theorem mem_escape {wellFormed : Bool} {s : JString} {c : JChar} (h : c ∈ escape wellFormed s) :
    ∃ d ∈ s, c = d ∨ isLineTerminator c = false ∧ (c = QUOTE → d = QUOTE) := by
  fun_induction escape wellFormed s with
  | case1 => exact absurd h List.not_mem_nil
  | case2 d => exact ⟨d, List.mem_singleton_self d, mem_escapeChar h⟩
  | case3 a b cs _ ih =>
    rcases List.mem_cons.1 h with rfl | h
    · exact ⟨c, List.mem_cons_self, .inl rfl⟩
    rcases List.mem_cons.1 h with rfl | h
    · exact ⟨c, List.mem_cons_of_mem _ List.mem_cons_self, .inl rfl⟩
    · obtain ⟨d, hd, hcd⟩ := ih h
      exact ⟨d, List.mem_cons_of_mem _ (List.mem_cons_of_mem _ hd), hcd⟩
  | case4 a b cs _ ih =>
    rcases List.mem_append.1 h with h | h
    · exact ⟨a, List.mem_cons_self, mem_escapeChar h⟩
    · obtain ⟨d, hd, hcd⟩ := ih h
      exact ⟨d, List.mem_cons_of_mem _ hd, hcd⟩

theorem quote_not_mem_escape {n : JString} (hn : Clean n) (wellFormed : Bool) : QUOTE ∉ escape wellFormed n := by
  intro h
  obtain ⟨d, hd, hq⟩ := mem_escape h
  rcases hq with rfl | ⟨-, hq⟩
  · exact (hn _ hd).1 rfl
  · exact (hn d hd).1 (hq rfl)

theorem OneLine.escape {s : JString} (h : OneLine s) (wellFormed : Bool) : OneLine (escape wellFormed s) := by
  intro c hc
  obtain ⟨d, hd, hcd⟩ := mem_escape hc
  rcases hcd with rfl | ⟨hline, -⟩
  · exact h c hd
  · exact hline

theorem escapeChar_ne_nil (wellFormed : Bool) (c : JChar) : escapeChar wellFormed c ≠ [] := by
  unfold escapeChar unicodeEscape
  split_ifs <;> exact List.cons_ne_nil _ _

theorem escape_ne_nil {s : JString} (h : s ≠ []) (wellFormed : Bool) : escape wellFormed s ≠ [] := by
  fun_cases escape wellFormed s with
  | case1 => exact absurd rfl h
  | case2 c => exact escapeChar_ne_nil _ c
  | case3 => exact List.cons_ne_nil _ _
  | case4 c => exact List.append_ne_nil_of_left_ne_nil (escapeChar_ne_nil _ c) _

/-- each quote comes right after a backslash; `p` is the char before the text -/
def Guarded (p : JChar) : JString → Prop
  | [] => True
  | c :: cs => (c = QUOTE → p = BACKSLASH) ∧ Guarded c cs

theorem guarded_of_no_quote {a b : JString} (ha : QUOTE ∉ a) (hb : ∀ p, Guarded p b) (p : JChar) : Guarded p (a ++ b) := by
  induction a generalizing p with
  | nil => exact hb p
  | cons c a ih =>
    rw [List.mem_cons, not_or] at ha
    exact ⟨fun h => absurd h.symm ha.1, ih ha.2 c⟩

theorem guarded_escapeChar {wellFormed : Bool} {c : JChar} {b : JString} (hb : ∀ p, Guarded p b) (p : JChar) :
    Guarded p (escapeChar wellFormed c ++ b) := by
  have htwo : ∀ x, Guarded p ([BACKSLASH, x] ++ b) := fun x => ⟨fun h => absurd h (by decide), fun _ => rfl, hb x⟩
  unfold escapeChar
  split_ifs with h₁ h₂ h₃ h₄ h₅ h₆ h₇ h₈
  iterate 7 exact htwo _
  · exact guarded_of_no_quote (fun h => (unicodeEscape_plain h).1 rfl) hb p
  · exact ⟨fun h => absurd h h₆, hb c⟩

theorem surrogate_ne_quote {c : JChar} : isHighSurrogate c = true ∨ isLowSurrogate c = true → c ≠ QUOTE := by
  rintro h rfl
  revert h
  decide

theorem guarded_escape (wellFormed : Bool) (s : JString) (p : JChar) : Guarded p (escape wellFormed s) := by
  fun_induction escape wellFormed s generalizing p with
  | case1 => trivial
  | case2 c => simpa using guarded_escapeChar (b := []) (fun _ => trivial) p
  | case3 c d cs h ih =>
    exact ⟨fun hc => absurd hc (surrogate_ne_quote (.inl h.1)), fun hd => absurd hd (surrogate_ne_quote (.inr h.2)), ih d⟩
  | case4 c d cs h ih => exact guarded_escapeChar ih p

/-! ## The pattern -/

/-- the pattern's first chars occur nowhere in the text -/
def Headless (s : JString) : Prop := ∀ t, t <:+ s → ¬ eventHead <+: t

theorem headless_cons {c : JChar} {s : JString} (h : Headless s) (hc : ¬ eventHead <+: c :: s) : Headless (c :: s) := by
  intro t ht
  rcases List.suffix_cons_iff.1 ht with rfl | ht
  · exact hc
  · exact h t ht

theorem headless_nil : Headless [] := by
  intro t ht
  rw [List.suffix_nil.1 ht]
  decide

/-- chars other than the opening brace do not begin the pattern -/
theorem headless_append {a b : JString} (ha : (0x7B : JChar) ∉ a) (hb : Headless b) : Headless (a ++ b) := by
  induction a with
  | nil => exact hb
  | cons c a ih =>
    rw [List.mem_cons, not_or] at ha
    refine headless_cons (ih ha.2) fun h => ha.1 ?_
    exact (List.cons_prefix_cons.1 h).1

/-- neither do escapes: after a brace comes no quote, unless at the end of the text -/
theorem headless_guarded {p : JChar} {a b : JString} (ha : Guarded p a) (hb : Headless b) (hn : ¬ [QUOTE, 0x6E] <+: b) :
    Headless (a ++ b) := by
  induction a generalizing p with
  | nil => exact hb
  | cons c a ih =>
    refine headless_cons (ih ha.2) fun h => ?_
    obtain ⟨hc, h⟩ := List.cons_prefix_cons.1 h
    cases a with
    | nil => exact hn (List.IsPrefix.trans ⟨eventHead.drop 3, by decide⟩ h)
    | cons d a =>
      obtain ⟨hd, -⟩ := List.cons_prefix_cons.1 h
      have hslash := ha.2.1 hd.symm
      rw [← hc] at hslash
      exact absurd hslash (by decide)

theorem findEvent_headless {s : JString} (h : Headless s) : findEvent s = none := by
  induction s with
  | nil => rfl
  | cons c s ih =>
    have hmatch : matchEvent (c :: s) = none := by
      unfold matchEvent
      exact if_neg fun hp => h _ (List.suffix_refl _) (List.isPrefixOf_iff_prefix.1 hp)
    unfold findEvent
    rw [hmatch]
    exact ih fun t ht => h t (ht.trans (List.suffix_cons _ _))

/-- the pattern at the start of an event's text -/
theorem matchEvent_event {key : JString} (hq : QUOTE ∉ key) (rest : JString) :
    matchEvent (eventHead ++ (key ++ (eventMiddle ++ rest))) =
      if key ≠ [] then (matchArgs rest).map fun args => (key, args) else none := by
  have hkey : (key ++ (eventMiddle ++ rest)).takeWhile (· ≠ QUOTE) = key := by
    have hchars : ∀ c ∈ key, decide (c ≠ QUOTE) = true := fun c hc =>
      decide_eq_true fun h => hq (by rwa [h] at hc)
    rw [List.takeWhile_append_of_pos hchars]
    exact List.append_nil key
  unfold matchEvent
  rw [if_pos (List.isPrefixOf_iff_prefix.2 (List.prefix_append _ _)), List.drop_left]
  simp only [hkey, List.drop_left]
  by_cases hne : key = []
  · rw [if_neg (fun h => h.1 hne), if_neg (fun h => h hne)]
  · rw [if_pos ⟨hne, List.isPrefixOf_iff_prefix.2 (List.prefix_append _ _)⟩, if_pos hne]

/-- the arguments end at the last end of the line -/
theorem matchArgs_line {args : JString} (h : OneLine args) : matchArgs (args ++ eventEnd) = some args := by
  have hline : OneLine (args ++ eventEnd) := by
    intro c hc
    rcases List.mem_append.1 hc with hc | hc
    · exact h c hc
    · rcases List.mem_pair.1 hc with rfl | rfl <;> decide
  have htake : ((args ++ eventEnd).takeWhile fun c => !isLineTerminator c) = args ++ eventEnd :=
    List.takeWhile_eq_self_iff.2 fun c hc => by rw [hline c hc]; rfl
  have hlength : (args ++ eventEnd).length + 1 = args.length + 1 + 1 + 1 := by
    rw [List.length_append]; rfl
  have hend : eventEnd.isPrefixOf ((args ++ eventEnd).drop args.length) = true := by
    rw [List.drop_left]; decide
  have hlast : eventEnd.isPrefixOf ((args ++ eventEnd).drop (args.length + 1)) = false := by
    rw [List.drop_append, List.drop_eq_nil_of_le (Nat.le_succ _), Nat.add_sub_cancel_left]; decide
  have hpast : eventEnd.isPrefixOf ((args ++ eventEnd).drop (args.length + 1 + 1)) = false := by
    rw [List.drop_append, List.drop_eq_nil_of_le (by omega), Nat.add_assoc, Nat.add_sub_cancel_left]; decide
  unfold matchArgs
  simp only [htake, hlength, List.range_succ, List.reverse_append, List.reverse_singleton, List.singleton_append,
    List.find?_cons, hpast, hlast, hend, Option.map_some, List.take_left]

theorem matchArgs_oneLine {s args : JString} (h : matchArgs s = some args) : OneLine args := by
  unfold matchArgs at h
  obtain ⟨k, hk, rfl⟩ := Option.map_eq_some_iff.1 h
  have hle : k ≤ (s.takeWhile fun c => !isLineTerminator c).length := by
    have hmem := List.mem_of_find?_eq_some hk
    simp only [List.mem_reverse, List.mem_range] at hmem
    omega
  intro c hc
  have hline : c ∈ s.takeWhile fun c => !isLineTerminator c := by
    have hprefix := List.takeWhile_prefix (l := s) (fun c => !isLineTerminator c)
    rw [← List.take_append_drop k (s.takeWhile fun c => !isLineTerminator c)]
    refine List.mem_append_left _ ?_
    rwa [List.prefix_iff_eq_take.1 hprefix, List.take_take, Nat.min_eq_left hle]
  simpa using List.mem_takeWhile_imp hline

/-- whatever the pattern finds has a name and arguments on one line -/
theorem findEvent_some {s key args : JString} (h : findEvent s = some (key, args)) : key ≠ [] ∧ OneLine args := by
  induction s with
  | nil => cases h
  | cons c s ih =>
    unfold findEvent at h
    cases hm : matchEvent (c :: s) with
    | none => rw [hm] at h; exact ih h
    | some r =>
      rw [hm] at h
      cases h
      unfold matchEvent at hm
      split_ifs at hm with hhead
      dsimp only at hm
      split_ifs at hm with hkey
      obtain ⟨args', hargs, heq⟩ := Option.map_eq_some_iff.1 hm
      cases heq
      exact ⟨hkey.1, matchArgs_oneLine hargs⟩

/-! ## The calls of the inbound -/

section

variable {η : Type}

def delivery : Entry → Option (JString × JString)
  | .called (.onMessage key message) => some (key, message)
  | _ => none

/-- the calls of `inbound.onMessage` so far, latest first -/
def deliveries (s : St η) : List (JString × JString) := s.log.filterMap delivery

/-- an inbound whose `setEventnames` returns `names`; `body` is what its other methods do -/
def listening (names : List JString) (body : Callback η) : Callback η := fun c =>
  inboundCall (if c = .setEventnames then pure names else body c) c

/-- the calls that an event's text leads to -/
def found (names : List JString) (text : JString) : List (JString × JString) :=
  match findEvent text with
  | none => []
  | some (key, args) =>
    match unquote args with
    | .error _ => []
    | .ok message => if key ∈ names then [(key, message)] else []

variable (names : List JString) {body : Callback η} (hbody : ∀ c, Along (Unseen delivery) (body c))

include hbody in
theorem deliveries_call (key message : JString) (s : St η) :
    deliveries (listening names body (.onMessage key message) s).2 = (key, message) :: deliveries s := by
  have hrun := hbody (.onMessage key message) (s.push (.called (.onMessage key message)))
  unfold listening inboundCall
  rw [modify_bind, if_neg nofun]
  exact hrun

include hbody in
/-- the loop over the names calls the inbound once if the key is among them -/
theorem deliveries_names {l : List JString} (hl : l.Nodup) (key message : JString) {s : St η}
    (hi : s.session.inbound = true) :
    deliveries (forEach l (fun b =>
      if key = b then do
        derefInbound
        let _ ← listening names body (.onMessage key message)
      else pure ()) s).2 = (if key ∈ l then [(key, message)] else []) ++ deliveries s := by
  induction l with
  | nil => rfl
  | cons b l ih =>
    obtain ⟨hb, hl⟩ := List.nodup_cons.1 hl
    unfold forEach
    by_cases hk : key = b
    · subst hk
      have hskip : ∀ t : St η, forEach l (fun b =>
          if key = b then do
            derefInbound
            let _ ← listening names body (.onMessage key message)
          else pure ()) t = (.ok (), t) :=
        fun t => forEach_skip fun x hx => by rw [if_neg (ne_of_mem_of_not_mem hx hb).symm]; rfl
      rw [if_pos rfl, if_pos List.mem_cons_self]
      have hcall := deliveries_call names hbody key message s
      rcases hr : listening names body (.onMessage key message) s with ⟨r, t⟩
      rw [hr] at hcall
      cases r with
      | ok v =>
        have hdone : (do
            derefInbound
            let _ ← listening names body (.onMessage key message) : M η Unit) s = (.ok (), t) := by
          rw [derefInbound_bind hi, bind_of_ok hr]; rfl
        rw [bind_of_ok hdone, hskip t]
        exact hcall
      | error e =>
        have hdone : (do
            derefInbound
            let _ ← listening names body (.onMessage key message) : M η Unit) s = (.error e, t) := by
          rw [derefInbound_bind hi, bind_of_error hr]
        rw [bind_of_error hdone]
        exact hcall
    · rw [if_neg hk, Program.pure_bind, ih hl]
      simp only [List.mem_cons, hk, false_or]

include hbody in
/-- **What an EVENT frame's text leads to**: the calls that the pattern finds, whatever the inbound does in them. -/
theorem deliveries_event [TransportHandler η] (hnames : names.Nodup) {s : St η} (hi : s.session.inbound = true)
    {f : SocketIOFrame} (hf : f.frameType = .event) :
    deliveries (Session.onMessage (listening names body) f s).2 = found names f.data ++ deliveries s := by
  have hreceived : deliveries (s.push (.received f)) = deliveries s := rfl
  unfold Session.onMessage
  simp only [hf]
  rw [modify_bind, ← hreceived]
  generalize hs₁ : s.push (.received f) = s₁
  have hi₁ : s₁.session.inbound = true := by rw [← hs₁]; exact hi
  unfold onMessageText
  rw [get_bind, if_pos hi₁, if_neg (by decide), if_pos (by rfl), catching_pure_snd]
  unfold found
  cases hfind : findEvent f.data with
  | none => rfl
  | some event =>
    obtain ⟨key, args⟩ := event
    dsimp only
    cases unquote args with
    | error e => rfl
    | ok message =>
      have hlisted : listening names body .setEventnames s₁ =
          (.ok names, (s₁.push (.called .setEventnames)).push (.returned .setEventnames)) := rfl
      change deliveries ((derefInbound >>= _) s₁).2 = _
      rw [derefInbound_bind hi₁, bind_of_ok hlisted, modify_bind]
      have hloop := deliveries_names names hbody hnames key message
        (s := ((s₁.push (.called .setEventnames)).push (.returned .setEventnames)).push (.listed names)) hi₁
      exact hloop

end

/-! ## Delivery -/

/-- what should arrive: a string itself, another value as its text -/
def argument (wellFormed : Bool) : Json → JString
  | .string s => s
  | v => stringify wellFormed v

/-- a string, an array or an object -/
def Quotable : Json → Prop
  | .string _ | .array _ | .object _ => True
  | _ => False

/-- nothing in the value itself is escaped: only a string as such is quoted -/
def Unescaped (wellFormed : Bool) : Json → Prop
  | .string s => escape wellFormed s = s
  | _ => True

def IsString : Json → Prop
  | .string _ => True
  | _ => False

/-- the pattern finds a listed name in the text, with arguments that it can take -/
def Listed (names : List JString) (text : JString) : Prop :=
  ∃ key args message, findEvent text = some (key, args) ∧ unquote args = .ok message ∧ key ∈ names

theorem unquote_quoted (s : JString) : unquote (QUOTE :: (s ++ [QUOTE])) = .ok s := by
  have hprefix : [QUOTE].isPrefixOf (QUOTE :: (s ++ [QUOTE])) = true :=
    List.isPrefixOf_iff_prefix.2 (List.prefix_append [QUOTE] _)
  unfold unquote
  rw [if_pos hprefix]
  refine substring_eq [QUOTE] [QUOTE] (show QUOTE :: (s ++ [QUOTE]) = [QUOTE] ++ s ++ [QUOTE] from rfl) rfl ?_
  simp only [List.length_cons, List.length_append, List.length_nil]
  push_cast
  omega

theorem unquote_other {c : JChar} (hc : c ≠ QUOTE) (s : JString) : unquote (c :: s) = .ok (c :: s) := by
  unfold unquote
  exact if_neg fun h => hc (List.cons_prefix_cons.1 (List.isPrefixOf_iff_prefix.1 h)).1.symm

/-- the value's text without the quotes of a string -/
def bare (wellFormed : Bool) : Json → JString
  | .string s => escape wellFormed s
  | v => stringify wellFormed v

theorem unquote_stringify {v : Json} (hv : Quotable v) (wellFormed : Bool) :
    unquote (stringify wellFormed v) = .ok (bare wellFormed v) := by
  cases v with
  | string s => exact unquote_quoted _
  | array l => exact unquote_other (c := 0x5B) (by decide) _
  | object l => exact unquote_other (c := 0x7B) (by decide) _
  | null => exact hv.elim
  | bool b => exact hv.elim
  | number t => exact hv.elim

theorem OneLine.unquote {args message : JString} (h : OneLine args) (hm : unquote args = .ok message) :
    OneLine message := by
  unfold Session.unquote at hm
  split_ifs at hm
  · obtain ⟨-, -, -, rfl⟩ := substring_ok hm
    exact fun c hc => h c (List.mem_of_mem_drop (List.mem_of_mem_take hc))
  · cases hm; exact h

theorem oneLine_stringify {v : Json} {wellFormed : Bool} (h : OneLine (argument wellFormed v)) :
    OneLine (stringify wellFormed v) := by
  cases v with
  | string s =>
    have hs : OneLine s := h
    have hescape := hs.escape wellFormed
    intro c hc
    have hc : c ∈ [QUOTE] ++ escape wellFormed s ++ [QUOTE] := hc
    simp only [List.mem_append, List.mem_singleton] at hc
    rcases hc with (hc | hc) | hc
    · rw [hc]; decide
    · exact hescape c hc
    · rw [hc]; decide
  | null => exact h
  | bool b => exact h
  | number t => exact h
  | array l => exact h
  | object l => exact h

/-- the pattern matches the whole text of an event with a name, where that is one line -/
theorem findEvent_eventData {n : JString} (hn : Clean n) (hne : n ≠ []) {v : Json} {wellFormed : Bool}
    (hv : OneLine (stringify wellFormed v)) :
    findEvent (eventData wellFormed n v) = some (escape wellFormed n, stringify wellFormed v) := by
  have hmatch := matchEvent_event (quote_not_mem_escape hn wellFormed) (stringify wellFormed v ++ eventEnd)
  rw [if_pos (escape_ne_nil hne wellFormed), matchArgs_line hv, ← eventData_eq] at hmatch
  obtain ⟨c, cs, hcons⟩ : ∃ c cs, eventData wellFormed n v = c :: cs := ⟨_, _, eventData_eq wellFormed n v⟩
  rw [hcons] at hmatch ⊢
  unfold findEvent
  rw [hmatch]
  rfl

/-- with a string argument the pattern finds nothing but the event itself -/
theorem findEvent_string {n : JString} (hn : Clean n) {wellFormed : Bool} {s key args : JString}
    (h : findEvent (eventData wellFormed n (.string s)) = some (key, args)) : key = escape wellFormed n := by
  have hend : Headless (QUOTE :: eventEnd) := by
    rw [← List.append_nil (QUOTE :: eventEnd)]
    exact headless_append (by decide) headless_nil
  have hargs : Headless (escape wellFormed s ++ QUOTE :: eventEnd) :=
    headless_guarded (guarded_escape wellFormed s 0) hend (by decide)
  have hmiddle : Headless (eventMiddle ++ (QUOTE :: (escape wellFormed s ++ QUOTE :: eventEnd))) :=
    headless_append (by decide) (headless_append (a := [QUOTE]) (by decide) hargs)
  have hrest : Headless (escape wellFormed n ++ (eventMiddle ++ (QUOTE :: (escape wellFormed s ++ QUOTE :: eventEnd)))) := by
    refine headless_guarded (guarded_escape wellFormed n 0) hmiddle fun hp => ?_
    have hsecond := (List.cons_prefix_cons.1 (List.cons_prefix_cons.1 hp).2).1
    exact absurd hsecond (by decide)
  have htail : Headless (eventHead.tail ++ (escape wellFormed n ++ (eventMiddle ++
      (QUOTE :: (escape wellFormed s ++ QUOTE :: eventEnd))))) := headless_append (by decide) hrest
  have htext : eventData wellFormed n (.string s) = 0x7B :: (eventHead.tail ++ (escape wellFormed n ++ (eventMiddle ++
      (QUOTE :: (escape wellFormed s ++ QUOTE :: eventEnd))))) := by
    rw [eventData_eq]
    simp only [stringify, quoteJSONString, List.append_assoc, List.cons_append]
    rfl
  have hmatch := matchEvent_event (quote_not_mem_escape hn wellFormed) (stringify wellFormed (.string s) ++ eventEnd)
  rw [← eventData_eq] at hmatch
  rw [htext] at h hmatch
  unfold findEvent at h
  rw [hmatch] at h
  by_cases hne : escape wellFormed n = []
  · rw [if_neg (fun hn => hn hne), findEvent_headless htail] at h
    cases h
  · rw [if_pos hne] at h
    cases hm : matchArgs (stringify wellFormed (.string s) ++ eventEnd) with
    | none => rw [hm, Option.map_none, findEvent_headless htail] at h; cases h
    | some a => rw [hm] at h; cases h; rfl

theorem found_eq_nil_iff {names : List JString} {text : JString} : found names text = [] ↔ ¬ Listed names text := by
  unfold found Listed
  cases hfind : findEvent text with
  | none => simp
  | some event =>
    obtain ⟨key, args⟩ := event
    cases hargs : unquote args with
    | error e => simp [hargs]
    | ok message => simp [hargs]

/-- an event with a listed name is found once, as it was sent -/
theorem found_listed_iff {names : List JString} {n : JString} (hn : Clean n) (hmem : n ∈ names) {v : Json}
    (hv : Quotable v) (wellFormed : Bool) :
    found names (eventData wellFormed n v) = [(n, argument wellFormed v)] ↔
      n ≠ [] ∧ escape wellFormed n = n ∧ Unescaped wellFormed v ∧ OneLine (argument wellFormed v) := by
  constructor
  · intro h
    obtain ⟨key, args, message, hfind, hargs, hkey⟩ : Listed names (eventData wellFormed n v) := by
      by_contra hl
      rw [found_eq_nil_iff.2 hl] at h
      cases h
    simp only [found, hfind, hargs, if_pos hkey, List.cons.injEq, Prod.mk.injEq, and_true] at h
    obtain ⟨rfl, rfl⟩ := h
    obtain ⟨hne, hline⟩ := findEvent_some hfind
    have hone := hline.unquote hargs
    have hwhole := findEvent_eventData hn hne (oneLine_stringify hone)
    rw [hwhole] at hfind
    obtain ⟨hescaped, rfl⟩ := Prod.mk.inj (Option.some.inj hfind)
    refine ⟨hne, hescaped, ?_, hone⟩
    rw [unquote_stringify hv] at hargs
    cases v with
    | string s => exact Except.ok.inj hargs
    | _ => trivial
  · intro ⟨hne, hescaped, hplain, hone⟩
    have hwhole := findEvent_eventData hn hne (oneLine_stringify hone)
    unfold found
    rw [hwhole]
    simp only [unquote_stringify hv, hescaped, if_pos hmem]
    cases v with
    | string s =>
      have hs : escape wellFormed s = s := hplain
      simp only [bare, argument, hs]
    | _ => rfl

/-- an event with another name is not found -/
theorem found_unlisted_iff {names : List JString} {n : JString} (hn : Clean n) (hmem : n ∉ names) (v : Json)
    (wellFormed : Bool) :
    found names (eventData wellFormed n v) = [] ↔
      IsString v ∧ escape wellFormed n = n ∨ ¬ Listed names (eventData wellFormed n v) := by
  rw [found_eq_nil_iff]
  refine ⟨.inr, fun h => h.elim (fun ⟨hv, hescaped⟩ => ?_) id⟩
  intro ⟨key, args, message, hfind, _, hkey⟩
  cases v with
  | string s =>
    rw [findEvent_string hn hfind, hescaped] at hkey
    exact hmem hkey
  | _ => exact hv.elim

/-- which events with another name are nevertheless taken for listed ones: their name is escaped into a listed one, or the
pattern misses the event itself, whose name is empty or whose argument is not on one line, and finds one inside the argument -/
theorem Listed.other {names : List JString} {n : JString} (hn : Clean n) {v : Json} {wellFormed : Bool}
    (h : Listed names (eventData wellFormed n v)) :
    escape wellFormed n ∈ names ∨ n = [] ∨ ¬ OneLine (stringify wellFormed v) := by
  obtain ⟨key, args, message, hfind, -, hkey⟩ := h
  by_cases hne : n = []
  · exact .inr (.inl hne)
  by_cases hline : OneLine (stringify wellFormed v)
  · rw [findEvent_eventData hn hne hline] at hfind
    obtain ⟨rfl, -⟩ := Prod.mk.inj (Option.some.inj hfind)
    exact .inl hkey
  · exact .inr (.inr hline)

/-- what the claimed delivery needs of the name and the value -/
def Delivers (names : List JString) (wellFormed : Bool) (n : JString) (v : Json) : Prop :=
  if n ∈ names then
    n ≠ [] ∧ escape wellFormed n = n ∧ Unescaped wellFormed v ∧ OneLine (argument wellFormed v)
  else IsString v ∧ escape wellFormed n = n ∨ ¬ Listed names (eventData wellFormed n v)

/-- **When an event arrives as it was sent.** For pairwise distinct names of an inbound, a clean name `n`, a string, array
or object `v`, and whatever the inbound does in its callbacks: an EVENT frame with the text of `{name: n, args: [v]}` makes
one call of `inbound.onMessage`, with `n` and `v`, if `n` is listed, and none otherwise, exactly under this condition. For
a listed name: the name is not empty, nothing in it is escaped, nothing in a string argument is, and the argument is on
one line. For another name: the argument is a string and nothing in the name is escaped, or the pattern finds no listed
name anyway (`Listed.other` says for which texts it does). -/
theorem event_delivered_iff {η : Type} [TransportHandler η] {names : List JString} (hnames : names.Nodup)
    {body : Callback η} (hbody : ∀ c, Along (Unseen delivery) (body c)) {s : St η} (hi : s.session.inbound = true)
    {n : JString} (hn : Clean n) {v : Json} (hv : Quotable v) (wellFormed : Bool) (messageType : ℤ) (endpoint : JString) :
    deliveries (Session.onMessage (listening names body) ⟨.event, messageType, endpoint, eventData wellFormed n v⟩ s).2 =
        (if n ∈ names then [(n, argument wellFormed v)] else []) ++ deliveries s ↔
      Delivers names wellFormed n v := by
  rw [deliveries_event names hbody hnames hi rfl, List.append_left_inj]
  unfold Delivers
  by_cases hmem : n ∈ names
  · rw [if_pos hmem, if_pos hmem]
    exact found_listed_iff hn hmem hv wellFormed
  · rw [if_neg hmem, if_neg hmem]
    exact found_unlisted_iff hn hmem v wellFormed

/-- what the application of a run does in its callbacks makes no call of the inbound's `onMessage` -/
theorem unseen_delivery : ∀ e, JettyTraversal.Outward e → delivery e = none := by
  intro e he
  cases e with
  | called c => cases c <;> first | rfl | exact he.elim
  | _ => rfl

/-- an argument that looks like the end of the event arrives, at a session whose application answers -/
theorem event_delivered_brackets :
    let s : St JettyWebSocket.Handler := { JettyWebSocket.created ⟨none, none⟩ with acts := [.call (.sendMessage (str "ok"))] }
    deliveries (Session.onMessage (listening [str "chat"] fun _ => behave 1)
      ⟨.event, 0, [], eventData true (str "chat") (.string (str "]\x7d [x]"))⟩ s).2 = [(str "chat", str "]\x7d [x]")] :=
  (event_delivered_iff (show [str "chat"].Nodup by decide)
    (fun _ => (JettyTraversal.unseen_behave unseen_delivery 1).2) rfl (n := str "chat") (by decide)
    (v := .string (str "]\x7d [x]")) trivial true 0 []).2 (by
      rw [Delivers, if_pos (List.mem_singleton_self _)]
      exact ⟨by decide, by decide, show escape true _ = _ by decide, show OneLine _ by decide⟩)

/-- **A quoted argument arrives escaped**: `say "hi"` comes with a backslash before each quote. -/
theorem quoted_argument_escaped :
    let s : St JettyWebSocket.Handler := JettyWebSocket.created ⟨none, none⟩
    let r := Session.onMessage (listening [str "chat"] fun _ => pure [])
      ⟨.event, 0, [], eventData true (str "chat") (.string (str "say \"hi\""))⟩ s
    deliveries r.2 = [(str "chat", str "say \\\"hi\\\"")] ∧ deliveries r.2 ≠ [(str "chat", str "say \"hi\"")] := by
  decide

end SocketIOJava.EventText
