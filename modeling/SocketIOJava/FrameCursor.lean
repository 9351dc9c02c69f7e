/-
What one turn of the decoder's loop does, and what follows for the whole loop.

`Packet data i m` says, in terms of the text alone, that the turn at cursor `i` reads a packet and leaves the cursor at
`m`: where the packet's bounds are (`Bounds`), that its type is one decimal digit up to 8, that its id field is
readable, and that its data field, from the second colon on, fits in. `parseTurn_frame_iff`, `parseTurn_break_iff` say
that this is what the turn computes. Everything about the loop follows from them and `Lib.Halting`. `Terminates` and
`MovesForward` say that the loop ends and that each of its turns increases the cursor; when they do is in `FrameProgress`.

Exceptions:
- `Readable data i`: every part from cursor `i` on is a packet, or its type digit is a nine. `parse_returns_iff`: on a
  text on which its loop ends, `parse` returns normally exactly when the text is readable.
-/
import SocketIOJava.Lib.Halting
import SocketIOJava.Frame
import Mathlib.Data.Int.Interval
import Mathlib.Data.Int.ConditionallyCompleteOrder

namespace SocketIOJava.FrameCursor

open SocketIOJava.Text SocketIOJava.Frame Halting StateTransition

/-! ## One turn, said about the text -/

/-- the part at cursor `i` has its type at index `s` and ends at `m` -/
inductive Bounds (data : JString) (i s m : ℤ) : Prop where
  /-- a separator, a length, a separator -/
  | announced (j k : ℤ) (length : JString) (hsep : charAt data i = .ok MESSAGE_SEPARATOR)
      (hj : indexOf data MESSAGE_SEPARATOR (i + 1) = j) (hlen : substring data (i + 1) j = .ok length)
      (hk : parseInt length = .ok k) (hs : s = j + 1) (hm : m = wrapInt (k + (j + 1)))
  /-- no separator: the rest of the text -/
  | rest (c : JChar) (hc : charAt data i = .ok c) (hne : c ≠ MESSAGE_SEPARATOR) (hs : s = i) (hm : m = data.length)

/-- the char at `s` is a decimal digit of value `d` -/
def TypeDigit (data : JString) (s : ℤ) (d : ℕ) : Prop := ∃ c, charAt data s = .ok c ∧ digit c = some d

/-- the colon after the id field of the packet with its type at `s`, -1 if there is none -/
def idEnd (data : JString) (s : ℤ) : ℤ := indexOf data SEPERATOR_CHAR (s + 2)

/-- the colon after the endpoint field, -1 if there is none -/
def endpointEnd (data : JString) (s : ℤ) : ℤ := indexOf data SEPERATOR_CHAR (idEnd data s + 1)

/-- the start of the data field -/
def dataStart (data : JString) (s : ℤ) : ℤ := endpointEnd data s + 1

/-- the id field has at most one char, or is an int after its first char -/
def IdReadable (data : JString) (s : ℤ) : Prop :=
  idEnd data s - (s + 2) ≤ 1 ∨ ∃ t k, substring data (s + 3) (idEnd data s) = .ok t ∧ parseInt t = .ok k

/-- the turn at cursor `i` reads a packet and leaves the cursor at `m` -/
def Packet (data : JString) (i m : ℤ) : Prop :=
  ∃ s d, Bounds data i s m ∧ TypeDigit data s d ∧ d ≤ 8 ∧ IdReadable data s ∧ dataStart data s ≤ m ∧ m ≤ data.length

/-- the part at cursor `i` has the type digit nine, which names no frame type -/
def UnknownType (data : JString) (i : ℤ) : Prop := ∃ s m, Bounds data i s m ∧ TypeDigit data s 9

/-- the endpoint that a turn reads -/
def endpointText (data : JString) (s : ℤ) : JString :=
  if endpointEnd data s - (idEnd data s + 1) > 1 then
    (data.drop (idEnd data s + 1).toNat).take (endpointEnd data s - (idEnd data s + 1)).toNat
  else []

/-- the frame that a turn reads from the packet with type `d` at `s` and end `m` -/
def frameAt (data : JString) (s : ℤ) (d : ℕ) (m : ℤ) : SocketIOFrame :=
  ⟨.fromInt d, if FrameType.fromInt d = .message then TEXT_MESSAGE_TYPE else JSON_MESSAGE_TYPE, endpointText data s,
    (data.drop (dataStart data s).toNat).take (m - dataStart data s).toNat⟩

/-! ## The turn computes this -/

theorem packetBounds_ok_iff {data : JString} {i s m : ℤ} :
    packetBounds data i = .ok (s, m) ↔ Bounds data i s m := by
  constructor
  · intro h
    unfold packetBounds at h
    cases hc : charAt data i with
    | error e => rw [hc] at h; cases h
    | ok c =>
      rw [hc, ok_bind] at h
      split_ifs at h with hsep
      · dsimp only at h
        cases hlen : substring data (i + 1) (indexOf data MESSAGE_SEPARATOR (i + 1)) with
        | error e => rw [hlen] at h; cases h
        | ok length =>
          rw [hlen, ok_bind] at h
          cases hk : parseInt length with
          | error e => rw [hk] at h; cases h
          | ok k => rw [hk] at h; cases h; exact .announced _ k length (hsep ▸ hc) rfl hlen hk rfl rfl
      · cases h; exact .rest c hc hsep rfl rfl
  · rintro (⟨j, k, length, hsep, rfl, hlen, hk, rfl, rfl⟩ | ⟨c, hc, hne, rfl, rfl⟩)
    · simp only [packetBounds, hsep, ok_bind, if_true, hlen, hk]; rfl
    · simp only [packetBounds, hc, ok_bind, if_neg hne]; rfl

/-- a one-char text is an int when the char is a digit -/
theorem parseInt_singleton (c : JChar) :
    parseInt [c] = match digit c with | some d => .ok (d : ℤ) | none => .error .numberFormat := by
  cases hd : digit c with
  | some d =>
    refine parseInt_of_decimal (List.cons_ne_nil _ _) (by simp [decimal, hd]) ?_
    have := digit_lt hd
    simp only [intMax]; omega
  | none =>
    unfold parseInt
    split
    · rename_i heq; cases heq; rfl
    · rename_i heq; cases heq; rfl
    · simp [magnitude, decimal, hd]

theorem messageId_ok_iff {data : JString} {s : ℤ} :
    (∃ k, messageId data (s + 2) (idEnd data s) = .ok k) ↔ IdReadable data s := by
  unfold messageId IdReadable
  split_ifs with h
  · rw [show s + 2 + 1 = s + 3 by omega]
    constructor
    · rintro ⟨k, hk⟩
      cases ht : substring data (s + 3) (idEnd data s) with
      | error e => rw [ht] at hk; cases hk
      | ok t => rw [ht] at hk; exact Or.inr ⟨t, k, rfl, hk⟩
    · rintro (hle | ⟨t, k, ht, hk⟩)
      · omega
      · exact ⟨k, by rw [ht]; exact hk⟩
  · exact ⟨fun _ => Or.inl (by omega), fun _ => ⟨0, rfl⟩⟩

/-- the endpoint field lies inside the text, so that reading it cannot fail -/
theorem endpointField_eq (data : JString) (s : ℤ) :
    endpointField data (idEnd data s + 1) (endpointEnd data s) = .ok (endpointText data s) := by
  unfold endpointField endpointText
  split_ifs with h
  · have h1 : -1 ≤ idEnd data s := neg_one_le_indexOf _ _ _
    have hf : endpointEnd data s ≠ -1 := by omega
    obtain ⟨_, _, hlt⟩ := indexOf_found hf
    exact substring_of_le (by omega) (by omega) (by unfold endpointEnd; omega)
  · rfl

/-- the turn after its bounds are found -/
theorem parseTurn_of_bounds {data : JString} {i s m : ℤ} (h : Bounds data i s m) :
    parseTurn data i =
      match charAt data s with
      | .error e => .error e
      | .ok c =>
        match digit c with
        | none => .error .numberFormat
        | some d =>
          if FrameType.fromInt d = .unknown then .ok none
          else
            match messageId data (s + 2) (idEnd data s) with
            | .error e => .error e
            | .ok _ =>
              if dataStart data s ≤ m ∧ m ≤ data.length then .ok (some (frameAt data s d m, m))
              else .error .stringIndexOutOfBounds := by
  unfold parseTurn
  rw [packetBounds_ok_iff.2 h, ok_bind]
  simp only [isHexDigit_one]
  cases hc : charAt data s with
  | error e => rfl
  | ok c =>
    simp only [Except.map, ok_bind, substring_one hc, parseInt_singleton]
    cases hd : digit c with
    | none => rfl
    | some d =>
      simp only [ok_bind, Bool.not_true, Bool.false_eq_true, if_false]
      by_cases hu : FrameType.fromInt d = .unknown
      · rw [if_pos hu, if_pos hu]; rfl
      · rw [if_neg hu, if_neg hu]
        rw [show s + 1 + 1 = s + 2 by omega]
        change (messageId data (s + 2) (idEnd data s) >>= _) = _
        cases messageId data (s + 2) (idEnd data s) with
        | error e => rfl
        | ok k =>
          rw [ok_bind]
          change (endpointField data (idEnd data s + 1) (endpointEnd data s) >>= _) = _
          rw [endpointField_eq, ok_bind]
          change (substring data (dataStart data s) m >>= _) = _
          have h0 : 0 ≤ dataStart data s := by
            have := neg_one_le_indexOf data SEPERATOR_CHAR (idEnd data s + 1)
            unfold dataStart endpointEnd; omega
          by_cases hm : dataStart data s ≤ m ∧ m ≤ data.length
          · rw [substring_of_le h0 hm.1 hm.2]; simp only [if_pos hm]; rfl
          · rw [substring, if_neg fun hx => hm hx.2]; simp only [if_neg hm]; rfl

theorem bounds_of_parseTurn {data : JString} {i : ℤ} {r : Option (SocketIOFrame × ℤ)}
    (h : parseTurn data i = .ok r) : ∃ s m, Bounds data i s m := by
  cases hb : packetBounds data i with
  | error e => simp only [parseTurn, hb] at h; cases h
  | ok sm => exact ⟨sm.1, sm.2, packetBounds_ok_iff.1 hb⟩

/-- **A turn that reads a frame**, in terms of the text -/
theorem parseTurn_frame_iff {data : JString} {i m : ℤ} {f : SocketIOFrame} :
    parseTurn data i = .ok (some (f, m)) ↔
      ∃ s d, Bounds data i s m ∧ TypeDigit data s d ∧ d ≤ 8 ∧ IdReadable data s ∧
        (dataStart data s ≤ m ∧ m ≤ data.length) ∧ f = frameAt data s d m := by
  constructor
  · intro h
    obtain ⟨s, m', hb⟩ := bounds_of_parseTurn h
    rw [parseTurn_of_bounds hb] at h
    cases hc : charAt data s with
    | error e => rw [hc] at h; cases h
    | ok c =>
      simp only [hc] at h
      cases hd : digit c with
      | none => simp only [hd] at h; cases h
      | some d =>
        simp only [hd] at h
        by_cases hu : FrameType.fromInt d = .unknown
        · rw [if_pos hu] at h; cases h
        rw [if_neg hu] at h
        cases hid : messageId data (s + 2) (idEnd data s) with
        | error e => rw [hid] at h; cases h
        | ok k =>
          simp only [hid] at h
          split_ifs at h with hm
          cases h
          have h8 : d ≤ 8 := by have := (fromInt_ne_unknown.1 hu).2; omega
          exact ⟨s, d, hb, ⟨c, hc, hd⟩, h8, messageId_ok_iff.1 ⟨k, hid⟩, hm, rfl⟩
  · rintro ⟨s, d, hb, ⟨c, hc, hd⟩, h8, hid, hm, rfl⟩
    obtain ⟨k, hk⟩ := messageId_ok_iff.2 hid
    have hu : FrameType.fromInt d ≠ .unknown := fromInt_ne_unknown.2 ⟨by omega, by omega⟩
    simp only [parseTurn_of_bounds hb, hc, hd, if_neg hu, hk, if_pos hm]

/-- **A turn that leaves the loop by `break`**: the type digit is a nine -/
theorem parseTurn_break_iff {data : JString} {i : ℤ} :
    parseTurn data i = .ok none ↔ UnknownType data i := by
  constructor
  · intro h
    obtain ⟨s, m, hb⟩ := bounds_of_parseTurn h
    rw [parseTurn_of_bounds hb] at h
    cases hc : charAt data s with
    | error e => rw [hc] at h; cases h
    | ok c =>
      simp only [hc] at h
      cases hd : digit c with
      | none => simp only [hd] at h; cases h
      | some d =>
        simp only [hd] at h
        by_cases hu : FrameType.fromInt d = .unknown
        · have hlt := digit_lt hd
          have h9 : d = 9 := by
            by_contra hne
            exact fromInt_ne_unknown.2 ⟨by omega, by omega⟩ hu
          exact ⟨s, m, hb, c, hc, h9 ▸ hd⟩
        · rw [if_neg hu] at h
          cases hid : messageId data (s + 2) (idEnd data s) with
          | error e => rw [hid] at h; cases h
          | ok k => simp only [hid] at h; split_ifs at h; cases h
  · rintro ⟨s, m, hb, c, hc, hd⟩
    simp only [parseTurn_of_bounds hb, hc, hd]
    rfl

/-! ## The loop -/

/-- the cursor after one turn, `none` where the loop is left -/
def cursor (data : JString) (start : ℤ) : Option ℤ :=
  if data.length > start then
    match parseTurn data start with
    | .ok (some (_, next)) => some next
    | _ => none
  else none

/-- the loop of `parse` ends: some number of turns is enough -/
def Terminates (data : JString) : Prop := ∃ n, parseLoop data n 0 [] ≠ none

/-- the loop comes to cursor `i` -/
def Visits (data : JString) (i : ℤ) : Prop := ∃ n, turns (cursor data) n 0 = some i

/-- every turn of the loop that does not leave it increases the cursor -/
def MovesForward (data : JString) : Prop := ∀ i m f, Visits data i → parseTurn data i = .ok (some (f, m)) → i < m

theorem Bounds.lt_length {data : JString} {i s m : ℤ} (h : Bounds data i s m) : 0 ≤ i ∧ i < data.length := by
  rcases h with ⟨_, _, _, hsep, _, _, _, _, _⟩ | ⟨_, hc, _, _, _⟩
  · exact ⟨(charAt_ok hsep).1, (charAt_ok hsep).2.1⟩
  · exact ⟨(charAt_ok hc).1, (charAt_ok hc).2.1⟩

theorem packet_of_turn {data : JString} {i m : ℤ} {f : SocketIOFrame} (h : parseTurn data i = .ok (some (f, m))) :
    Packet data i m := by
  obtain ⟨s, d, hb, hd, h8, hid, hm, -⟩ := parseTurn_frame_iff.1 h
  exact ⟨s, d, hb, hd, h8, hid, hm.1, hm.2⟩

theorem Packet.turn {data : JString} {i m : ℤ} (h : Packet data i m) :
    ∃ f, parseTurn data i = .ok (some (f, m)) := by
  obtain ⟨s, d, hb, hd, h8, hid, hm1, hm2⟩ := h
  exact ⟨_, parseTurn_frame_iff.2 ⟨s, d, hb, hd, h8, hid, ⟨hm1, hm2⟩, rfl⟩⟩

theorem Packet.lt_length {data : JString} {i m : ℤ} (h : Packet data i m) : 0 ≤ i ∧ i < data.length := by
  obtain ⟨s, d, hb, -⟩ := h
  exact hb.lt_length

theorem cursor_eq_some_iff {data : JString} {i m : ℤ} : cursor data i = some m ↔ Packet data i m := by
  constructor
  · intro h
    unfold cursor at h
    split_ifs at h
    split at h
    · rename_i f next hturn; cases h; exact packet_of_turn hturn
    · cases h
  · intro h
    obtain ⟨f, hf⟩ := h.turn
    unfold cursor
    rw [if_pos h.lt_length.2, hf]

theorem mem_cursor_eq (data : JString) : (fun i m => m ∈ cursor data i) = Packet data := by
  funext i m
  exact propext cursor_eq_some_iff

theorem parseLoop_turn {data : JString} {n : ℕ} {i m : ℤ} {f : SocketIOFrame} {messages : List SocketIOFrame}
    (h : parseTurn data i = .ok (some (f, m))) :
    parseLoop data (n + 1) i messages = parseLoop data n m (messages ++ [f]) := by
  have hlt : (data.length : ℤ) > i := (packet_of_turn h).lt_length.2
  simp only [parseLoop, if_pos hlt, h]

/-- the bound runs out exactly where the cursor is still inside after that many turns -/
theorem parseLoop_eq_none_iff {data : JString} {n : ℕ} {i : ℤ} {messages : List SocketIOFrame} :
    parseLoop data n i messages = none ↔ turns (cursor data) n i ≠ none := by
  induction n generalizing i messages with
  | zero => simp [parseLoop]
  | succ n ih =>
    cases hc : cursor data i with
    | some m =>
      obtain ⟨f, hf⟩ := (cursor_eq_some_iff.1 hc).turn
      rw [parseLoop_turn hf, turns_succ_some n hc]
      exact ih
    | none =>
      rw [turns_succ_none n hc]
      unfold cursor at hc
      simp only [parseLoop]
      split_ifs at hc ⊢ with hlt
      · cases ht : parseTurn data i with
        | error e => simp
        | ok r =>
          cases r with
          | none => simp
          | some fm => rw [ht] at hc; cases hc
      · simp

/-- a larger bound changes nothing -/
theorem parseLoop_mono {data : JString} {n k : ℕ} {i : ℤ} {messages : List SocketIOFrame}
    {r : Except JavaException (List SocketIOFrame)} (h : parseLoop data n i messages = some r) (hnk : n ≤ k) :
    parseLoop data k i messages = some r := by
  induction n generalizing i messages k with
  | zero => cases h
  | succ n ih =>
    obtain ⟨k, rfl⟩ : ∃ k', k = k' + 1 := ⟨k - 1, by omega⟩
    simp only [parseLoop] at h ⊢
    split_ifs at h ⊢
    · split at h <;> simp_all
    · exact h

theorem terminates_iff_halts (data : JString) : Terminates data ↔ Halts (cursor data) 0 :=
  exists_congr fun _ => not_iff_comm.1 parseLoop_eq_none_iff.symm

/-- only indexes of the text have a next cursor -/
theorem cursor_mem_Ico (data : JString) (i m : ℤ) (h : cursor data i = some m) : i ∈ Finset.Ico (0 : ℤ) data.length :=
  Finset.mem_Ico.2 (cursor_eq_some_iff.1 h).lt_length

/-- **The bound of `parse` is enough**: where any bound gives an outcome, `parse` gives that outcome. -/
theorem parse_eq_of_parseLoop {data : JString} {n : ℕ} {r : Except JavaException (List SocketIOFrame)}
    (h : parseLoop data n 0 [] = some r) : parse data = some r := by
  have hhalts : Halts (cursor data) 0 := (terminates_iff_halts data).1 ⟨n, by rw [h]; simp⟩
  have hcard := hhalts.turns_card _ (cursor_mem_Ico data)
  rw [Int.card_Ico, show ((data.length : ℤ) - 0).toNat = data.length by omega] at hcard
  cases hp : parse data with
  | none => exact absurd hcard (parseLoop_eq_none_iff.1 hp)
  | some r' =>
    have h1 := parseLoop_mono h (le_max_left n (data.length + 1))
    have h2 := parseLoop_mono hp (le_max_right n (data.length + 1))
    rw [h1] at h2
    exact h2.symm

theorem parse_none_iff (data : JString) : parse data = none ↔ ¬ Terminates data := by
  constructor
  · rintro h ⟨n, hn⟩
    cases hr : parseLoop data n 0 [] with
    | none => exact hn hr
    | some r => rw [parse_eq_of_parseLoop hr] at h; cases h
  · intro h
    by_contra hne
    exact h ⟨_, hne⟩

/-! ## The cursors that the loop comes to -/

theorem visits_iff {data : JString} {i : ℤ} : Visits data i ↔ Relation.ReflTransGen (Packet data) 0 i := by
  rw [← mem_cursor_eq]
  constructor
  · rintro ⟨n, hn⟩; exact turns_reaches hn
  · intro h
    induction h with
    | refl => exact ⟨0, rfl⟩
    | tail _ hstep ih =>
      obtain ⟨n, hn⟩ := ih
      exact ⟨n + 1, by rw [turns_add, hn, Option.bind_some, turns_succ_some 0 hstep]; rfl⟩

/-! ## Exceptions -/

/-- every part of the text from cursor `i` on is a packet, up to its end or to a part whose type digit is a nine -/
inductive Readable (data : JString) : ℤ → Prop where
  | done {i : ℤ} (h : data.length ≤ i) : Readable data i
  | unknownType {i : ℤ} (h : UnknownType data i) : Readable data i
  | packet {i m : ℤ} (h : Packet data i m) (hrest : Readable data m) : Readable data i

theorem readable_of_parseLoop {data : JString} {n : ℕ} {i : ℤ} {messages frames : List SocketIOFrame}
    (h : parseLoop data n i messages = some (.ok frames)) : Readable data i := by
  induction n generalizing i messages with
  | zero => cases h
  | succ n ih =>
    simp only [parseLoop] at h
    split_ifs at h with hlt
    · cases ht : parseTurn data i with
      | error e => rw [ht] at h; cases h
      | ok r =>
        cases r with
        | none => exact .unknownType (parseTurn_break_iff.1 ht)
        | some fm => rw [ht] at h; exact .packet (packet_of_turn ht) (ih h)
    · exact .done (by omega)

theorem Readable.parseLoop {data : JString} {i : ℤ} (h : Readable data i) (messages : List SocketIOFrame) :
    ∃ n frames, parseLoop data n i messages = some (.ok (messages ++ frames)) := by
  induction h generalizing messages with
  | done h => exact ⟨1, [], by simp only [Frame.parseLoop, if_neg (not_lt.2 h), List.append_nil]⟩
  | @unknownType i h =>
    obtain ⟨s, m, hb, hd⟩ := h
    have hlt : (data.length : ℤ) > i := hb.lt_length.2
    exact ⟨1, [], by simp only [Frame.parseLoop, if_pos hlt, parseTurn_break_iff.2 ⟨s, m, hb, hd⟩, List.append_nil]⟩
  | packet h _ ih =>
    obtain ⟨f, hf⟩ := h.turn
    obtain ⟨n, frames, hn⟩ := ih (messages ++ [f])
    exact ⟨n + 1, f :: frames, by rw [parseLoop_turn hf, hn]; simp⟩

/-- **`parse` returns normally exactly on the readable texts.** -/
theorem parse_returns_iff (data : JString) : (∃ frames, parse data = some (.ok frames)) ↔ Readable data 0 := by
  constructor
  · rintro ⟨frames, h⟩; exact readable_of_parseLoop h
  · intro h
    obtain ⟨n, frames, hn⟩ := h.parseLoop []
    exact ⟨_, parse_eq_of_parseLoop hn⟩

/-- the messages gathered so far stay at the front of the result -/
theorem parseLoop_extends {data : JString} {n : ℕ} {i : ℤ} {messages frames : List SocketIOFrame}
    (h : parseLoop data n i messages = some (.ok frames)) : messages <+: frames := by
  induction n generalizing i messages with
  | zero => cases h
  | succ n ih =>
    simp only [parseLoop] at h
    split_ifs at h
    · split at h
      · cases h
      · cases h; exact List.prefix_refl _
      · exact (List.prefix_append _ _).trans (ih h)
    · cases h; exact List.prefix_refl _

end SocketIOJava.FrameCursor
