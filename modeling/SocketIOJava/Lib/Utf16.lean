/-
UTF-16: text as a list of code units.

`encode`: each character is one unit, or a high and a low surrogate. `decode` reads the characters back, and takes a
surrogate without its other half for U+FFFD. `decode_encode`: nothing is lost in between.
-/
import Mathlib.Data.List.Basic
import Mathlib.Tactic.SplitIfs

namespace Utf16

def isHigh (u : UInt16) : Bool := 0xD800 ≤ u ∧ u ≤ 0xDBFF

def isLow (u : UInt16) : Bool := 0xDC00 ≤ u ∧ u ≤ 0xDFFF

/-- the units of a character -/
def encodeChar (c : Char) : List UInt16 :=
  if c.toNat < 0x10000 then [UInt16.ofNat c.toNat]
  else [UInt16.ofNat (0xD800 + (c.toNat - 0x10000) / 0x400), UInt16.ofNat (0xDC00 + (c.toNat - 0x10000) % 0x400)]

def encode (l : List Char) : List UInt16 := l.flatMap encodeChar

/-- the character of a surrogate pair -/
def pair (u v : UInt16) : Char := Char.ofNat (0x10000 + (u.toNat - 0xD800) * 0x400 + (v.toNat - 0xDC00))

/-- the character of a unit that is not in a pair -/
def single (u : UInt16) : Char := if isHigh u ∨ isLow u then Char.ofNat 0xFFFD else Char.ofNat u.toNat

def decode : List UInt16 → List Char
  | [] => []
  | [u] => [single u]
  | u :: v :: us => if isHigh u ∧ isLow v then pair u v :: decode us else single u :: decode (v :: us)

/-- text without unpaired surrogates -/
def WellFormed (s : List UInt16) : Prop := ∃ l, s = encode l

@[simp] theorem encode_nil : encode [] = [] := rfl

@[simp] theorem encode_cons (c : Char) (l : List Char) : encode (c :: l) = encodeChar c ++ encode l := rfl

@[simp] theorem encode_append (l l' : List Char) : encode (l ++ l') = encode l ++ encode l' := List.flatMap_append

theorem encodeChar_ne_nil (c : Char) : encodeChar c ≠ [] := by
  unfold encodeChar
  split_ifs <;> exact List.cons_ne_nil _ _

/-- a character outside the surrogates, which no `Char` is -/
theorem toNat_bounds (c : Char) : c.toNat < 0xD800 ∨ 0xDFFF < c.toNat ∧ c.toNat < 0x110000 := c.valid

theorem isHigh_iff (u : UInt16) : isHigh u = true ↔ 0xD800 ≤ u.toNat ∧ u.toNat ≤ 0xDBFF := by
  unfold isHigh
  rw [decide_eq_true_iff, UInt16.le_iff_toNat_le, UInt16.le_iff_toNat_le]
  rfl

theorem isLow_iff (u : UInt16) : isLow u = true ↔ 0xDC00 ≤ u.toNat ∧ u.toNat ≤ 0xDFFF := by
  unfold isLow
  rw [decide_eq_true_iff, UInt16.le_iff_toNat_le, UInt16.le_iff_toNat_le]
  rfl

theorem toNat_ofNat {n : Nat} (h : n.isValidChar) : (Char.ofNat n).toNat = n := by
  unfold Char.ofNat
  rw [dif_pos h]
  exact UInt32.toNat_ofNatLT

/-- a character of the Basic Multilingual Plane is one unit, and not a surrogate -/
theorem encodeChar_small {c : Char} (h : c.toNat < 0x10000) :
    ∃ u, encodeChar c = [u] ∧ u.toNat = c.toNat ∧ isHigh u = false ∧ isLow u = false := by
  have hu : (UInt16.ofNat c.toNat).toNat = c.toNat := UInt16.toNat_ofNat_of_lt' h
  have hc := toNat_bounds c
  refine ⟨UInt16.ofNat c.toNat, if_pos h, hu, ?_, ?_⟩
  · rw [Bool.eq_false_iff, ne_eq, isHigh_iff, hu]
    omega
  · rw [Bool.eq_false_iff, ne_eq, isLow_iff, hu]
    omega

/-- any other character is a pair of surrogates -/
theorem encodeChar_large {c : Char} (h : ¬ c.toNat < 0x10000) :
    ∃ u v, encodeChar c = [u, v] ∧ isHigh u = true ∧ isLow v = true ∧ pair u v = c := by
  have hc := toNat_bounds c
  have hu : (UInt16.ofNat (0xD800 + (c.toNat - 0x10000) / 0x400)).toNat = 0xD800 + (c.toNat - 0x10000) / 0x400 :=
    UInt16.toNat_ofNat_of_lt' (by change _ < 65536; omega)
  have hv : (UInt16.ofNat (0xDC00 + (c.toNat - 0x10000) % 0x400)).toNat = 0xDC00 + (c.toNat - 0x10000) % 0x400 :=
    UInt16.toNat_ofNat_of_lt' (by change _ < 65536; omega)
  refine ⟨_, _, if_neg h, ?_, ?_, ?_⟩
  · rw [isHigh_iff, hu]
    omega
  · rw [isLow_iff, hv]
    omega
  · have hsum : 0x10000 + (0xD800 + (c.toNat - 0x10000) / 0x400 - 0xD800) * 0x400 +
        (0xDC00 + (c.toNat - 0x10000) % 0x400 - 0xDC00) = c.toNat := by omega
    unfold pair
    rw [hu, hv, hsum]
    exact Char.ofNat_toNat c

theorem decode_single {u : UInt16} (h : isHigh u = false) (us : List UInt16) : decode (u :: us) = single u :: decode us := by
  cases us with
  | nil => rfl
  | cons v us =>
    rw [decode.eq_3, if_neg]
    rw [h]
    exact fun hp => Bool.false_ne_true hp.1

theorem decode_pair {u v : UInt16} (hu : isHigh u = true) (hv : isLow v = true) (us : List UInt16) :
    decode (u :: v :: us) = pair u v :: decode us := by
  rw [decode.eq_3, if_pos ⟨hu, hv⟩]

/-- **What is encoded is read back.** -/
theorem decode_encode (l : List Char) : decode (encode l) = l := by
  induction l with
  | nil => rfl
  | cons c l ih =>
    rw [encode_cons]
    by_cases h : c.toNat < 0x10000
    · obtain ⟨u, hu, hnat, hhigh, hlow⟩ := encodeChar_small h
      have hsingle : single u = c := by
        unfold single
        rw [hhigh, hlow, if_neg (by decide), hnat]
        exact Char.ofNat_toNat c
      rw [hu, List.singleton_append, decode_single hhigh, hsingle, ih]
    · obtain ⟨u, v, huv, hhigh, hlow, hpair⟩ := encodeChar_large h
      have hdecode : decode (u :: v :: encode l) = pair u v :: decode (encode l) := decode_pair hhigh hlow _
      rw [huv, show [u, v] ++ encode l = u :: v :: encode l from rfl, hdecode, hpair, ih]

/-! ## Beside UTF-8 -/

/-- a character of ASCII is one unit and one byte, and any other one has more bytes than units -/
theorem ascii_or_length_lt (c : Char) :
    c.toNat < 0x80 ∧ (encodeChar c).length = c.utf8Size ∨ (encodeChar c).length < c.utf8Size := by
  by_cases hsmall : c.toNat < 0x10000
  · obtain ⟨u, hu, -⟩ := encodeChar_small hsmall
    rw [hu, List.length_singleton]
    have hpos := c.utf8Size_pos
    by_cases hone : c.utf8Size = 1
    · have hascii := UInt32.le_iff_toNat_le.1 (Char.utf8Size_eq_one_iff.1 hone)
      exact .inl ⟨Nat.lt_succ_of_le hascii, hone.symm⟩
    · exact .inr (by omega)
  · obtain ⟨u, v, huv, -⟩ := encodeChar_large hsmall
    have hfour : c.utf8Size = 4 := Char.utf8Size_eq_four_iff.2 (UInt32.lt_iff_toNat_lt.2 (by change 65535 < c.toNat; omega))
    rw [huv, hfour]
    exact .inr (Nat.lt_of_sub_eq_succ rfl)

theorem encodeChar_ascii {c : Char} (h : c.toNat < 0x80) : encodeChar c = [UInt16.ofNat c.toNat] := if_pos (by omega)

theorem utf8EncodeChar_ascii {c : Char} (h : c.toNat < 0x80) : String.utf8EncodeChar c = [UInt8.ofNat c.toNat] :=
  if_pos (Nat.le_of_lt_succ h)

theorem length_encode_le (l : List Char) : (encode l).length ≤ (l.flatMap String.utf8EncodeChar).length := by
  induction l with
  | nil => exact Nat.le_refl 0
  | cons c l ih =>
    rw [encode_cons, List.flatMap_cons, List.length_append, List.length_append, String.length_utf8EncodeChar]
    rcases ascii_or_length_lt c with ⟨-, heq⟩ | hlt <;> omega

/-- text that is no longer in UTF-8 than in UTF-16 is ASCII -/
theorem ascii_of_length_le {l : List Char} (h : (l.flatMap String.utf8EncodeChar).length ≤ (encode l).length) :
    ∀ c ∈ l, c.toNat < 0x80 := by
  induction l with
  | nil => exact fun c hc => absurd hc List.not_mem_nil
  | cons c l ih =>
    rw [encode_cons, List.flatMap_cons, List.length_append, List.length_append, String.length_utf8EncodeChar] at h
    have hrest := length_encode_le l
    rcases ascii_or_length_lt c with ⟨hascii, heq⟩ | hlt
    · exact List.forall_mem_cons.2 ⟨hascii, ih (by omega)⟩
    · omega

/-- bytes that are decoded are the UTF-8 form of what they are decoded to -/
theorem eq_of_utf8Decode? {bytes : List UInt8} {l : Array Char} (h : bytes.toByteArray.utf8Decode? = some l) :
    bytes = l.toList.flatMap String.utf8EncodeChar := by
  have hsome : bytes.toByteArray.utf8Decode?.isSome = true := by rw [h]; rfl
  have hget : bytes.toByteArray.utf8Decode?.get hsome = l := by simp [h]
  have hbytes : l.toList.utf8Encode = bytes.toByteArray := by
    rw [← hget]
    exact ByteArray.utf8Encode_get_utf8Decode?
  exact (List.toByteArray_inj.1 hbytes).symm

/-! ## Well-formed text -/

theorem wellFormed_nil : WellFormed [] := ⟨[], rfl⟩

theorem WellFormed.append {s t : List UInt16} (hs : WellFormed s) (ht : WellFormed t) : WellFormed (s ++ t) := by
  obtain ⟨l, rfl⟩ := hs
  obtain ⟨l', rfl⟩ := ht
  exact ⟨l ++ l', (encode_append l l').symm⟩

theorem wellFormed_char (c : Char) : WellFormed (encodeChar c) := ⟨[c], (List.append_nil _).symm⟩

/-- units that are not surrogates -/
theorem wellFormed_of_singles {s : List UInt16} (h : ∀ u ∈ s, isHigh u = false ∧ isLow u = false) : WellFormed s := by
  induction s with
  | nil => exact wellFormed_nil
  | cons u s ih =>
    obtain ⟨hhigh, hlow⟩ := h u List.mem_cons_self
    have hrest := ih fun v hv => h v (List.mem_cons_of_mem u hv)
    have hvalid : u.toNat.isValidChar := by
      rw [Bool.eq_false_iff, ne_eq, isHigh_iff] at hhigh
      rw [Bool.eq_false_iff, ne_eq, isLow_iff] at hlow
      have hlt : u.toNat < 65536 := u.toNat_lt
      unfold Nat.isValidChar
      omega
    have hchar : encodeChar (Char.ofNat u.toNat) = [u] := by
      unfold encodeChar
      rw [toNat_ofNat hvalid, if_pos u.toNat_lt, UInt16.ofNat_toNat]
    have hsingle := wellFormed_char (Char.ofNat u.toNat)
    rw [hchar] at hsingle
    exact hsingle.append hrest

end Utf16
