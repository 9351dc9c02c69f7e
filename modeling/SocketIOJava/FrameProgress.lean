/-
When the loop of the decoder makes progress.

A packet may be announced by U+FFFD length U+FFFD. It ends `length` chars after its announcement, and the length may be
negative. Its data field begins after the second colon behind its type. Where only one colon is left the data begin at
index 0 of the whole text, and where none is left after the first colon of the whole text, so that such a packet can end
before it begins.

- `Backward`: an announced length that takes the packet's end back to its own first char, or further, while a colon is
  missing. A packet that ends at its first char or before it is one of these (`backward_of_packet`).
- `parse_progress_iff`: the loop ends, and each of its turns increases the cursor, exactly on the texts in which no such
  announcement comes after a run of complete packets. A text without '-' is one of them (`terminates_of_no_minus`).
- `loops_forever`: U+FFFD "-4" U+FFFD "3" is read again and again, although `parse`'s comment promises to "silently ignore
  any part that fails to parse properly".
-/
import SocketIOJava.FrameCursor

namespace SocketIOJava.FrameProgress

open SocketIOJava.Text SocketIOJava.Frame SocketIOJava.FrameCursor Halting StateTransition

/-! ## Announced packets, as parts of the text -/

/-- After `before` the text announces a packet of `k` chars: a separator, the length, a separator. What follows is a type
digit up to 8, and `after`. -/
structure Announced (data before length : JString) (k : ℤ) (after : JString) : Prop where
  text : ∃ c d, data = before ++ MESSAGE_SEPARATOR :: (length ++ MESSAGE_SEPARATOR :: c :: after) ∧ digit c = some d ∧ d ≤ 8
  plain : MESSAGE_SEPARATOR ∉ length
  value : parseInt length = .ok k

/-- the index at which the packet ends -/
def announcedEnd (before length : JString) (k : ℤ) : ℤ := before.length + length.length + 2 + k

/-- an id field that is read: at most one char, or an int after its first char -/
def IdText (id : JString) : Prop := id.length ≤ 1 ∨ ∃ k, parseInt (id.drop 1) = .ok k

/-- two colons follow the type and the char after it, and the packet ends after the second one -/
def TwoColons (data after : JString) (m : ℤ) : Prop :=
  ∃ id endpoint rest, after.drop 1 = id ++ SEPERATOR_CHAR :: (endpoint ++ SEPERATOR_CHAR :: rest) ∧
    SEPERATOR_CHAR ∉ id ∧ SEPERATOR_CHAR ∉ endpoint ∧ IdText id ∧ data.length - rest.length ≤ m

/-- only one colon follows, or none; then the packet has to end after the first colon of the text, if there is one -/
def ColonMissing (data after : JString) (m : ℤ) : Prop :=
  0 ≤ m ∧
    ((∃ id rest, after.drop 1 = id ++ SEPERATOR_CHAR :: rest ∧ SEPERATOR_CHAR ∉ id ∧ SEPERATOR_CHAR ∉ rest ∧ IdText id) ∨
      SEPERATOR_CHAR ∉ after.drop 1 ∧ (SEPERATOR_CHAR ∈ data → SEPERATOR_CHAR ∈ data.take m.toNat))

/-- The packet announced after `before` ends at its own first char or before it: its length is as negative as the
announcement is long, and a colon is missing. -/
def Backward (data before : JString) : Prop :=
  ∃ length k after, Announced data before length k after ∧ k ≤ -(length.length + 2) ∧
    ColonMissing data after (announcedEnd before length k)

/-- `before` is a run of announced packets, each of which ends after its own first char -/
inductive Run (data : JString) : JString → Prop where
  | start : Run data []
  | packet {before length after : JString} {k : ℤ} (hrun : Run data before) (h : Announced data before length k after)
      (hk : -(length.length + 2) < k) (hm : announcedEnd before length k ≤ data.length)
      (hfields : TwoColons data after (announcedEnd before length k) ∨ ColonMissing data after (announcedEnd before length k)) :
      Run data (data.take (announcedEnd before length k).toNat)

/-! ## Where the data field begins -/

theorem indexOf_none {s : JString} {c : JChar} {i : ℤ} (h : c ∉ s.drop i.toNat) : indexOf s c i = -1 := by
  unfold indexOf
  rw [List.findIdx?_eq_none_iff.2 fun x hx => beq_false_of_ne fun heq : x = c => h (heq ▸ hx)]

/-- the first colon of a text, and the chars before an index -/
theorem indexOf_zero_lt_iff (data : JString) (c : JChar) (m : ℤ) :
    indexOf data c 0 + 1 ≤ m ↔ 0 ≤ m ∧ (c ∈ data → c ∈ data.take m.toNat) := by
  by_cases hc : c ∈ data
  · obtain ⟨pre, post, hdata, hpre⟩ := List.eq_append_cons_of_mem hc
    have hindex : indexOf data c 0 = pre.length := by
      have hfound := indexOf_eq (i := 0) [] post (show data = [] ++ pre ++ c :: post by simpa using hdata) rfl hpre
      omega
    rw [hindex]
    constructor
    · intro hm
      refine ⟨by omega, fun _ => ?_⟩
      rw [hdata, List.take_append, List.mem_append]
      right
      obtain ⟨n, hn⟩ : ∃ n, m.toNat - pre.length = n + 1 := ⟨m.toNat - pre.length - 1, by omega⟩
      rw [hn, List.take_succ_cons]
      exact List.mem_cons_self
    · rintro ⟨h0, hmem⟩
      by_contra hm
      refine hpre ((List.take_sublist m.toNat pre).subset ?_)
      have htake := hmem hc
      rwa [hdata, List.take_append_of_le_length (by omega)] at htake
  · rw [indexOf_none (i := 0) (by simpa using hc)]
    exact ⟨fun h => ⟨by omega, fun h' => absurd h' hc⟩, fun h => by omega⟩

section

variable {data front after : JString}

/-- the id field ends at the first colon -/
theorem idEnd_of_colon {id rest : JString} (hdata : data = front ++ after) (hid : SEPERATOR_CHAR ∉ id) {s : ℤ}
    (hs : front.length = s + 1) (hafter : after.drop 1 = id ++ SEPERATOR_CHAR :: rest) :
    idEnd data s = s + 2 + id.length ∧ data.length - rest.length = s + 2 + id.length + 1 ∧
      (IdReadable data s ↔ IdText id) := by
  obtain ⟨x, tail, rfl⟩ : ∃ x tail, after = x :: tail := by
    cases after with
    | nil => simp at hafter
    | cons x tail => exact ⟨x, tail, rfl⟩
  rw [List.drop_one, List.tail_cons] at hafter
  subst hafter
  have hend : idEnd data s = s + 2 + id.length :=
    indexOf_eq (front ++ [x]) rest (by simp [hdata]) (by simp; omega) hid
  have hlength : (data.length : ℤ) = front.length + 1 + id.length + 1 + rest.length := by
    rw [hdata]; simp only [List.length_append, List.length_cons]; omega
  refine ⟨hend, by omega, ?_⟩
  unfold IdReadable IdText
  rw [hend]
  cases id with
  | nil => exact iff_of_true (.inl (by simp)) (.inl (by simp))
  | cons y ys =>
    have hsub : substring data (s + 3) (s + 2 + (y :: ys).length) = .ok ys :=
      substring_eq (front ++ [x, y]) (SEPERATOR_CHAR :: rest) (by simp [hdata]) (by simp; omega)
        (by simp only [List.length_cons]; push_cast; omega)
    refine or_congr (by constructor <;> intro h <;> omega) ⟨?_, fun ⟨k, hk⟩ => ⟨ys, k, hsub, hk⟩⟩
    rintro ⟨t, k, ht, hk⟩
    cases hsub.symm.trans ht
    exact ⟨k, hk⟩

theorem drop_front (hdata : data = front ++ after) {s : ℤ} (hs : front.length = s + 1) (h0 : 0 ≤ s) :
    data.drop (s + 2).toNat = after.drop 1 := by
  rw [hdata, show (s + 2).toNat = front.length + 1 by omega, List.drop_length_add_append]

/-- the text up to the colon after the id field, and the rest -/
theorem split_at_colon {id rest : JString} (hdata : data = front ++ after) {s : ℤ} (hs : front.length = s + 1)
    (hid : SEPERATOR_CHAR ∉ id) (hafter : after.drop 1 = id ++ SEPERATOR_CHAR :: rest) :
    ∃ pre, data = pre ++ rest ∧ pre.length = idEnd data s + 1 := by
  obtain ⟨hend, hlength, -⟩ := idEnd_of_colon hdata hid hs hafter
  refine ⟨front ++ after.take 1 ++ id ++ [SEPERATOR_CHAR], ?_, ?_⟩
  · conv_lhs => rw [hdata, ← List.take_append_drop 1 after, hafter]
    simp
  · rw [hend]
    have hone : (after.take 1).length = 1 := by
      cases after with
      | nil => simp at hafter
      | cons x tail => rfl
    simp only [List.length_append, hone, List.length_singleton]
    omega

/-- two colons: the data begin after the second one -/
theorem dataStart_of_two {id endpoint rest : JString} (hdata : data = front ++ after) {s : ℤ}
    (hs : front.length = s + 1) (hid : SEPERATOR_CHAR ∉ id) (hendpoint : SEPERATOR_CHAR ∉ endpoint)
    (hafter : after.drop 1 = id ++ SEPERATOR_CHAR :: (endpoint ++ SEPERATOR_CHAR :: rest)) :
    dataStart data s = data.length - rest.length := by
  obtain ⟨pre, hsplit, hpre⟩ := split_at_colon hdata hs hid hafter
  have hend : endpointEnd data s = idEnd data s + 1 + endpoint.length :=
    indexOf_eq pre rest (by rw [hsplit, List.append_assoc]) hpre hendpoint
  have hlength : data.length = pre.length + (endpoint.length + (rest.length + 1)) := by
    rw [hsplit]; simp only [List.length_append, List.length_cons]
  unfold dataStart
  omega

/-- one colon: the data begin at index 0 of the whole text -/
theorem dataStart_of_one {id rest : JString} (hdata : data = front ++ after) {s : ℤ} (hs : front.length = s + 1)
    (hid : SEPERATOR_CHAR ∉ id) (hrest : SEPERATOR_CHAR ∉ rest) (hafter : after.drop 1 = id ++ SEPERATOR_CHAR :: rest) :
    dataStart data s = 0 := by
  obtain ⟨pre, hsplit, hpre⟩ := split_at_colon hdata hs hid hafter
  have hend : endpointEnd data s = -1 := by
    refine indexOf_none ?_
    rwa [← hpre, Int.toNat_natCast, hsplit, List.drop_left]
  unfold dataStart
  omega

/-- no colon: the data begin after the first colon of the whole text -/
theorem dataStart_of_none (hdata : data = front ++ after) {s : ℤ} (hs : front.length = s + 1) (h0 : 0 ≤ s)
    (hafter : SEPERATOR_CHAR ∉ after.drop 1) : IdReadable data s ∧ dataStart data s = indexOf data SEPERATOR_CHAR 0 + 1 := by
  have hend : idEnd data s = -1 := indexOf_none (by rwa [drop_front hdata hs h0])
  refine ⟨.inl (by omega), ?_⟩
  unfold dataStart endpointEnd
  rw [hend]
  rfl

/-- **Where a packet's data begin**: after two colons, or, where a colon is missing, at the beginning of the whole text or
after its first colon. -/
theorem fields_iff (hdata : data = front ++ after) {s : ℤ} (hs : front.length = s + 1) (h0 : 0 ≤ s) (m : ℤ) :
    IdReadable data s ∧ dataStart data s ≤ m ↔ TwoColons data after m ∨ ColonMissing data after m := by
  constructor
  · rintro ⟨hread, hstart⟩
    by_cases hcolon : SEPERATOR_CHAR ∈ after.drop 1
    · obtain ⟨id, tail, hafter, hid⟩ := List.eq_append_cons_of_mem hcolon
      have hidText : IdText id := (idEnd_of_colon hdata hid hs hafter).2.2.1 hread
      by_cases htail : SEPERATOR_CHAR ∈ tail
      · obtain ⟨endpoint, rest, rfl, hendpoint⟩ := List.eq_append_cons_of_mem htail
        rw [dataStart_of_two hdata hs hid hendpoint hafter] at hstart
        exact .inl ⟨id, endpoint, rest, hafter, hid, hendpoint, hidText, hstart⟩
      · rw [dataStart_of_one hdata hs hid htail hafter] at hstart
        exact .inr ⟨hstart, .inl ⟨id, tail, hafter, hid, htail, hidText⟩⟩
    · rw [(dataStart_of_none hdata hs h0 hcolon).2, indexOf_zero_lt_iff] at hstart
      exact .inr ⟨hstart.1, .inr ⟨hcolon, hstart.2⟩⟩
  · rintro (⟨id, endpoint, rest, hafter, hid, hendpoint, hidText, hm⟩ |
      ⟨hm, ⟨id, rest, hafter, hid, hrest, hidText⟩ | ⟨hcolon, hfirst⟩⟩)
    · exact ⟨(idEnd_of_colon hdata hid hs hafter).2.2.2 hidText, by rwa [dataStart_of_two hdata hs hid hendpoint hafter]⟩
    · exact ⟨(idEnd_of_colon hdata hid hs hafter).2.2.2 hidText, by rwa [dataStart_of_one hdata hs hid hrest hafter]⟩
    · obtain ⟨hread, hstart⟩ := dataStart_of_none hdata hs h0 hcolon
      exact ⟨hread, by rw [hstart]; exact (indexOf_zero_lt_iff _ _ _).2 ⟨hm, hfirst⟩⟩

end

/-! ## The packet at a cursor -/

theorem indexOf_split {s : JString} {c : JChar} {i : ℤ} (h0 : 0 ≤ i) (hi : i ≤ s.length) (h : indexOf s c i ≠ -1) :
    ∃ mid post, s.drop i.toNat = mid ++ c :: post ∧ c ∉ mid ∧ indexOf s c i = i + mid.length := by
  by_cases hc : c ∈ s.drop i.toNat
  · obtain ⟨mid, post, hdrop, hmid⟩ := List.eq_append_cons_of_mem hc
    refine ⟨mid, post, hdrop, hmid, indexOf_eq (s.take i.toNat) post ?_ ?_ hmid⟩
    · rw [List.append_assoc, ← hdrop, List.take_append_drop]
    · rw [List.length_take]; omega
  · exact absurd (indexOf_none hc) h

theorem dataStart_nonneg (data : JString) (s : ℤ) : 0 ≤ dataStart data s := by
  have := neg_one_le_indexOf data SEPERATOR_CHAR (idEnd data s + 1)
  unfold dataStart endpointEnd
  omega

/-- An announced packet, and how its parts lie in the text: `front` is the text up to its type digit. -/
theorem Announced.front {data before length after : JString} {k : ℤ} (h : Announced data before length k after) :
    ∃ front c d, data = front ++ after ∧ (front.length : ℤ) = before.length + length.length + 2 + 1 ∧
      charAt data (before.length + length.length + 2) = .ok c ∧ digit c = some d ∧ d ≤ 8 := by
  obtain ⟨⟨c, d, rfl, hd, h8⟩, -, -⟩ := h
  refine ⟨before ++ MESSAGE_SEPARATOR :: (length ++ [MESSAGE_SEPARATOR, c]), c, d, by simp, ?_, ?_, hd, h8⟩
  · simp only [List.length_append, List.length_cons, List.length_nil]; push_cast; omega
  · refine charAt_eq (before ++ MESSAGE_SEPARATOR :: (length ++ [MESSAGE_SEPARATOR])) after (by simp) ?_
    simp only [List.length_append, List.length_cons, List.length_nil]; push_cast; omega

/-- **An announced packet is read** when it ends inside the text and after the start of its data. -/
theorem Announced.packet {data before length after : JString} {k : ℤ} (hfits : Fits data)
    (h : Announced data before length k after) (hm : announcedEnd before length k ≤ data.length)
    (hfields : TwoColons data after (announcedEnd before length k) ∨
      ColonMissing data after (announcedEnd before length k)) :
    Packet data before.length (announcedEnd before length k) := by
  obtain ⟨front, c, d, hdata, hfront, hc, hd, h8⟩ := h.front
  obtain ⟨hread, hstart⟩ := (fields_iff hdata hfront (by omega) _).2 hfields
  refine ⟨before.length + length.length + 2, d, ?_, ⟨c, hc, hd⟩, h8, hread, hstart, hm⟩
  obtain ⟨⟨c, d, rfl, -, -⟩, hplain, hk⟩ := h
  have hindex : indexOf (before ++ MESSAGE_SEPARATOR :: (length ++ MESSAGE_SEPARATOR :: c :: after)) MESSAGE_SEPARATOR
      (before.length + 1) = before.length + 1 + length.length :=
    indexOf_eq (before ++ [MESSAGE_SEPARATOR]) (c :: after) (by simp) (by simp) hplain
  refine .announced _ k length (charAt_eq before _ rfl rfl) hindex ?_ hk (by omega) ?_
  · exact substring_eq (before ++ [MESSAGE_SEPARATOR]) (MESSAGE_SEPARATOR :: c :: after) (by simp) (by simp) rfl
  · have hrange := (parseInt_range hk).1
    rw [wrapInt_of_mem ⟨by omega, by unfold Fits at hfits; unfold announcedEnd at hm; omega⟩]
    unfold announcedEnd
    omega

/-- where a turn finds a separator, a length, a separator and a type, the text reads so -/
theorem text_of_announcement {data length : JString} {i : ℤ} {c : JChar} (hsep : charAt data i = .ok MESSAGE_SEPARATOR)
    (hlen : substring data (i + 1) (indexOf data MESSAGE_SEPARATOR (i + 1)) = .ok length)
    (hc : charAt data (indexOf data MESSAGE_SEPARATOR (i + 1) + 1) = .ok c) :
    ∃ after, data = data.take i.toNat ++ MESSAGE_SEPARATOR :: (length ++ MESSAGE_SEPARATOR :: c :: after) ∧
      MESSAGE_SEPARATOR ∉ length ∧ ((data.take i.toNat).length : ℤ) = i ∧
      indexOf data MESSAGE_SEPARATOR (i + 1) = i + 1 + length.length := by
  obtain ⟨hi0, hi, hat⟩ := charAt_ok hsep
  obtain ⟨-, hij, hj, -⟩ := substring_ok hlen
  obtain ⟨mid, post, hdrop, hmid, hindex⟩ := indexOf_split (by omega) (by omega)
    (show indexOf data MESSAGE_SEPARATOR (i + 1) ≠ -1 by omega)
  have hdata : data = data.take i.toNat ++ MESSAGE_SEPARATOR :: (mid ++ MESSAGE_SEPARATOR :: post) := by
    obtain ⟨hlt, hget⟩ := List.getElem?_eq_some_iff.1 hat
    rw [show (i + 1).toNat = i.toNat + 1 by omega] at hdrop
    conv_lhs => rw [← List.take_append_drop i.toNat data, List.drop_eq_getElem_cons hlt, hget, hdrop]
  have hbefore : ((data.take i.toNat).length : ℤ) = i := by rw [List.length_take]; omega
  have htext : mid = length := by
    refine Except.ok.inj (Eq.trans ?_ hlen)
    exact (substring_eq (data.take i.toNat ++ [MESSAGE_SEPARATOR]) (MESSAGE_SEPARATOR :: post)
      (by rw [List.append_assoc, List.append_assoc]; exact hdata) (by simpa using hbefore) (by omega)).symm
  subst htext
  cases post with
  | nil =>
    obtain ⟨-, hlt, -⟩ := charAt_ok hc
    have hlength := congrArg List.length hdata
    simp only [List.length_append, List.length_cons, List.length_nil] at hlength
    omega
  | cons x after =>
    have hx := charAt_eq (i := indexOf data MESSAGE_SEPARATOR (i + 1) + 1)
      (data.take i.toNat ++ MESSAGE_SEPARATOR :: (mid ++ [MESSAGE_SEPARATOR])) after
      (by simpa using hdata) (by simp only [List.length_append, List.length_cons, List.length_nil]; push_cast; omega)
    cases hx.symm.trans hc
    exact ⟨after, hdata, hmid, hbefore, hindex⟩

/-- **A packet that is read** is an announced one, or the rest of the text. -/
theorem announced_of_packet {data : JString} {i m : ℤ} (hfits : Fits data) (h : Packet data i m) :
    (∃ before length k after, before = data.take i.toNat ∧ (before.length : ℤ) = i ∧ Announced data before length k after ∧
      m = announcedEnd before length k ∧ m ≤ data.length ∧ (TwoColons data after m ∨ ColonMissing data after m)) ∨
      i < m ∧ m = data.length := by
  obtain ⟨hi0, hi⟩ := h.lt_length
  obtain ⟨s, d, hb, ⟨c, hc, hd⟩, h8, hread, hstart, hm⟩ := h
  have h0 := dataStart_nonneg data s
  rcases hb with ⟨j, k, length, hsep, rfl, hlen, hk, rfl, rfl⟩ | ⟨c, hc, -, rfl, rfl⟩
  · left
    obtain ⟨after, hdata, hplain, hbefore, hindex⟩ := text_of_announcement hsep hlen hc
    -- a sum past the largest int wraps to a negative end, which no data field fits
    have hend : wrapInt (k + (indexOf data MESSAGE_SEPARATOR (i + 1) + 1)) =
        announcedEnd (data.take i.toNat) length k := by
      obtain ⟨-, -, hj, -⟩ := substring_ok hlen
      have hrange := parseInt_range hk
      simp only [Fits, intMax] at hfits
      simp only [intMin, intMax] at hrange
      unfold announcedEnd
      unfold wrapInt at hstart hm ⊢
      rw [Int.bmod_def] at hstart hm ⊢
      split_ifs at hstart hm ⊢ <;> omega
    have ha : Announced data (data.take i.toNat) length k after := ⟨⟨c, d, hdata, hd, h8⟩, hplain, hk⟩
    obtain ⟨front, _, _, hfront, hlength, -⟩ := ha.front
    rw [hend] at hstart hm ⊢
    exact ⟨_, length, k, after, rfl, hbefore, ha, rfl, hm, (fields_iff hfront (by omega) (by omega) _).1 ⟨hread, hstart⟩⟩
  · exact .inr ⟨hi, rfl⟩

/-- after two colons the data begin behind the packet's own announcement -/
theorem Announced.lt_of_twoColons {data before length after : JString} {k m : ℤ} (h : Announced data before length k after)
    (htwo : TwoColons data after m) : before.length < m := by
  obtain ⟨⟨c, d, hdata, -, -⟩, -, -⟩ := h
  obtain ⟨id, endpoint, rest, hafter, -, -, -, hm⟩ := htwo
  have hlength := congrArg List.length hdata
  have hdrop := congrArg List.length hafter
  simp only [List.length_append, List.length_cons, List.length_drop] at hlength hdrop
  omega

/-- **A packet that ends at its own first char or before it** is an announced one, as negative as its announcement is long,
with a colon missing. -/
theorem backward_of_packet {data : JString} {i m : ℤ} (hfits : Fits data) (h : Packet data i m) (hm : m ≤ i) :
    Backward data (data.take i.toNat) := by
  rcases announced_of_packet hfits h with ⟨before, length, k, after, rfl, hbefore, ha, rfl, hle, htwo | hmissing⟩ | ⟨hlt, -⟩
  · have := ha.lt_of_twoColons htwo
    omega
  · exact ⟨length, k, after, ha, by unfold announcedEnd at hm; omega, hmissing⟩
  · omega

theorem Backward.packet {data before : JString} (hfits : Fits data) (h : Backward data before) :
    ∃ m ≤ (before.length : ℤ), Packet data before.length m := by
  obtain ⟨length, k, after, ha, hk, hmissing⟩ := h
  have hm : announcedEnd before length k ≤ before.length := by unfold announcedEnd; omega
  obtain ⟨⟨c, d, hdata, -, -⟩, -, -⟩ := id ha
  have hlength := congrArg List.length hdata
  simp only [List.length_append, List.length_cons] at hlength
  exact ⟨_, hm, ha.packet hfits (by omega) (.inr hmissing)⟩

/-! ## The runs of the loop -/

/-- the loop comes to the end of each run of packets -/
theorem Run.visits {data before : JString} (hfits : Fits data) (h : Run data before) :
    Relation.ReflTransGen (Packet data) 0 before.length := by
  induction h with
  | start => exact .refl
  | @packet before length after k _ ha hk hm hfields ih =>
    have hend : ((data.take (announcedEnd before length k).toNat).length : ℤ) = announcedEnd before length k := by
      rw [List.length_take]
      unfold announcedEnd at hm ⊢
      omega
    rw [hend]
    exact ih.tail (ha.packet hfits hm hfields)

/-- where no packet leads backward, each cursor is the end of a run of packets, or the end of the text -/
theorem run_of_visits {data : JString} (hfits : Fits data) (hno : ¬ ∃ before, Run data before ∧ Backward data before) {i : ℤ}
    (h : Relation.ReflTransGen (Packet data) 0 i) : i = data.length ∨ 0 ≤ i ∧ Run data (data.take i.toNat) := by
  induction h with
  | refl => exact .inr ⟨le_rfl, .start⟩
  | @tail i m _ hp ih =>
    have hrun : Run data (data.take i.toNat) := by
      rcases ih with rfl | ⟨-, hrun⟩
      · exact absurd hp.lt_length.2 (by omega)
      · exact hrun
    by_cases hm : m ≤ i
    · exact absurd ⟨_, hrun, backward_of_packet hfits hp hm⟩ hno
    rcases announced_of_packet hfits hp with ⟨before, length, k, after, rfl, hbefore, ha, rfl, hle, hfields⟩ | ⟨-, rfl⟩
    · exact .inr ⟨by omega, .packet hrun ha (by unfold announcedEnd at hm; omega) hle hfields⟩
    · exact .inl rfl

theorem movesForward_of_not_backward {data : JString} (hfits : Fits data)
    (hno : ¬ ∃ before, Run data before ∧ Backward data before) : MovesForward data := by
  intro i m f hi hturn
  have hp := packet_of_turn hturn
  by_contra hm
  rcases run_of_visits hfits hno (visits_iff.1 hi) with rfl | ⟨-, hrun⟩
  · exact absurd hp.lt_length.2 (by omega)
  · exact hno ⟨_, hrun, backward_of_packet hfits hp (by omega)⟩

/-- a loop whose turns all increase the cursor ends -/
theorem terminates_of_movesForward {data : JString} (h : MovesForward data) : Terminates data := by
  rw [terminates_iff_halts, halts_iff_not_cyclic _ (cursor_mem_Ico data)]
  refine not_cyclic_of_increasing fun b c hb hc => ?_
  rw [Reaches, mem_cursor_eq] at hb
  obtain ⟨f, hf⟩ := (cursor_eq_some_iff.1 hc).turn
  exact h b c f (visits_iff.2 hb) hf

/-- **When the loop of `parse` ends, and each of its turns makes progress**: no run of complete packets is followed by an
announced packet whose length is as negative as its announcement is long, and which lacks a colon. -/
theorem parse_progress_iff {data : JString} (hfits : Fits data) :
    Terminates data ∧ MovesForward data ↔ ¬ ∃ before, Run data before ∧ Backward data before := by
  constructor
  · rintro ⟨-, hforward⟩ ⟨before, hrun, hback⟩
    obtain ⟨m, hm, hp⟩ := hback.packet hfits
    obtain ⟨f, hf⟩ := hp.turn
    have := hforward _ m f (visits_iff.2 (hrun.visits hfits)) hf
    omega
  · intro hno
    have hforward := movesForward_of_not_backward hfits hno
    exact ⟨terminates_of_movesForward hforward, hforward⟩

/-- U+FFFD "-4" U+FFFD "3": the length is as negative as the announcement is long, and there is no colon. -/
theorem no_progress_at_minus_four :
    ¬ (Terminates ([MESSAGE_SEPARATOR] ++ str "-4" ++ [MESSAGE_SEPARATOR] ++ str "3") ∧
      MovesForward ([MESSAGE_SEPARATOR] ++ str "-4" ++ [MESSAGE_SEPARATOR] ++ str "3")) := by
  rw [parse_progress_iff (by unfold Fits; decide), not_not]
  refine ⟨[], .start, str "-4", -4, [], ⟨⟨0x33, 3, by decide, by decide, by decide⟩, by decide, by decide⟩, by decide, ?_⟩
  exact ⟨by decide, .inr ⟨by decide, fun h => absurd h (by decide)⟩⟩

/-- **A loop that does not end**: U+FFFD "-4" U+FFFD "3". The announced length takes the packet's end back to index 0,
where the packet begins; with no colon after the type, the data field starts at index 0 as well. -/
theorem loops_forever : ¬ Terminates ([MESSAGE_SEPARATOR] ++ str "-4" ++ [MESSAGE_SEPARATOR] ++ str "3") := by
  rw [← parse_none_iff]
  decide

/-- where no length is negative, each packet ends after its first char: a text without '-' always terminates -/
theorem terminates_of_no_minus {data : JString} (hfits : Fits data) (h : (0x2D : JChar) ∉ data) :
    Terminates data ∧ MovesForward data := by
  have hforward : MovesForward data := by
    refine movesForward_of_not_backward hfits ?_
    rintro ⟨before, -, length, k, after, ⟨⟨c, d, hdata, -, -⟩, -, hk⟩, hneg, -⟩
    have hlength : (0x2D : JChar) ∉ length := fun hmem => h (by rw [hdata]; simp [hmem])
    have := parseInt_nonneg hk hlength
    omega
  exact ⟨terminates_of_movesForward hforward, hforward⟩

end SocketIOJava.FrameProgress
