/-
Java strings, the part of `java.lang` that the wire format rests on.

A `char` is one UTF-16 code unit and a `String` the list of its code units, so that lengths and indexes are the ones
the program computes with, also for text outside the Basic Multilingual Plane and for unpaired surrogates. Indexes are
`ℤ`: `indexOf` answers -1, and a cursor built from that answer may be negative. An `int` is an `ℤ` in the range of an
int; the one sum of the program that can leave the range is wrapped explicitly (`wrapInt`).

- `charAt`, `substring`: raise `StringIndexOutOfBoundsException` outside the string.
- `indexOf`, `lastIndexOf`: first and last index of a char, -1 if there is none. A start index below 0 counts as 0,
  one past the end finds nothing.
- `parseInt`: `Integer.parseInt`. An optional sign, then decimal digits of any script (`Character.digit`), and a
  value in the range of an int.
- `intToString`, `numberToString`, `toHexString`: `Integer.toString` and `Long.toString`, of a nonnegative number and of
  any, and `Integer.toHexString`.
-/
import Mathlib.Data.List.Infix
import Mathlib.Data.List.TakeDrop
import Mathlib.Data.Int.Notation
import Mathlib.Tactic.IntervalCases
import Mathlib.Tactic.Linarith

namespace SocketIOJava.Text

/-- the exceptions that the modelled code raises or lets through -/
inductive JavaException where
  | numberFormat
  | stringIndexOutOfBounds
  | arrayIndexOutOfBounds
  | nullPointer
  | classCast
  | illegalState
  | ioException
  | socketIOException
  | socketIOClosedException
  | outOfMemory
  | application
deriving DecidableEq, Repr

/-- `e instanceof SocketIOException` -/
def JavaException.isSocketIOException : JavaException → Bool
  | .socketIOException | .socketIOClosedException => true
  | _ => false

@[simp] theorem ok_bind {α β : Type} (a : α) (k : α → Except JavaException β) : (Except.ok a >>= k) = k a := rfl

@[simp] theorem error_bind {α β : Type} (e : JavaException) (k : α → Except JavaException β) :
    (Except.error e >>= k) = .error e := rfl

abbrev JChar := UInt16

abbrev JString := List JChar

/-- a literal of the source -/
def str (s : String) : JString := s.toList.map fun c => UInt16.ofNat c.toNat

def intMax : ℤ := 2 ^ 31 - 1

def intMin : ℤ := -2 ^ 31

/-- addition of ints wraps -/
def wrapInt (x : ℤ) : ℤ := Int.bmod x (2 ^ 32)

/-- a list of chars that a Java `String` can hold: its length is an int -/
def Fits (s : JString) : Prop := (s.length : ℤ) ≤ intMax

/-! ## Digits and numbers -/

/-- the digit zero of each decimal script of the Basic Multilingual Plane (general category Nd) -/
def digitZeros : List JChar :=
  [0x0030, 0x0660, 0x06F0, 0x07C0, 0x0966, 0x09E6, 0x0A66, 0x0AE6, 0x0B66, 0x0BE6, 0x0C66, 0x0CE6, 0x0D66, 0x0DE6,
    0x0E50, 0x0ED0, 0x0F20, 0x1040, 0x1090, 0x17E0, 0x1810, 0x1946, 0x19D0, 0x1A80, 0x1A90, 0x1B50, 0x1BB0, 0x1C40,
    0x1C50, 0xA620, 0xA8D0, 0xA900, 0xA9D0, 0xA9F0, 0xAA50, 0xABF0, 0xFF10]

/-- `Character.digit(c, 10)`, `none` for -1 -/
def digit (c : JChar) : Option ℕ :=
  (digitZeros.find? fun z => z ≤ c ∧ c.toNat < z.toNat + 10).map fun z => c.toNat - z.toNat

/-- `Character.isDigit(c)` -/
def isDigit (c : JChar) : Bool := (digit c).isSome

/-- the value of a run of digits, after the value `acc` of the digits before it -/
def decimal : ℕ → JString → Option ℕ
  | acc, [] => some acc
  | acc, c :: cs =>
    match digit c with
    | some d => decimal (acc * 10 + d) cs
    | none => none

/-- a parsed magnitude with its sign, if it is an int -/
def toInt (x : ℤ) : Except JavaException ℤ :=
  if intMin ≤ x ∧ x ≤ intMax then .ok x else .error .numberFormat

/-- a nonempty run of digits -/
def magnitude (s : JString) : Except JavaException ℕ :=
  match s, decimal 0 s with
  | _ :: _, some n => .ok n
  | _, _ => .error .numberFormat

/-- `Integer.parseInt(s)` -/
def parseInt (s : JString) : Except JavaException ℤ :=
  match s with
  | 0x2D :: rest => do toInt (-(← magnitude rest : ℕ))
  | 0x2B :: rest => do toInt (← magnitude rest : ℕ)
  | s => do toInt (← magnitude s : ℕ)

/-- `Integer.toString(n)` and `Long.toString(n)` of a nonnegative number -/
def intToString (n : ℕ) : JString := (Nat.toDigits 10 n).map fun c => UInt16.ofNat c.toNat

/-- the same of any number -/
def numberToString (n : ℤ) : JString := if n < 0 then str "-" ++ intToString n.natAbs else intToString n.natAbs

/-- `Integer.toHexString(n)`: the unsigned 32-bit value -/
def toHexString (n : ℤ) : JString := (Nat.toDigits 16 (n % 2 ^ 32).toNat).map fun c => UInt16.ofNat c.toNat

/-! ## Indexes and parts of a string -/

/-- `s.charAt(i)` -/
def charAt (s : JString) (i : ℤ) : Except JavaException JChar :=
  if 0 ≤ i then
    match s[i.toNat]? with
    | some c => .ok c
    | none => .error .stringIndexOutOfBounds
  else .error .stringIndexOutOfBounds

/-- `s.substring(b, e)` -/
def substring (s : JString) (b e : ℤ) : Except JavaException JString :=
  if 0 ≤ b ∧ b ≤ e ∧ e ≤ s.length then .ok ((s.drop b.toNat).take (e - b).toNat)
  else .error .stringIndexOutOfBounds

/-- `s.indexOf(c, fromIndex)` -/
def indexOf (s : JString) (c : JChar) (fromIndex : ℤ) : ℤ :=
  match (s.drop fromIndex.toNat).findIdx? (· == c) with
  | some i => fromIndex.toNat + i
  | none => -1

/-- `s.lastIndexOf(c)` -/
def lastIndexOf (s : JString) (c : JChar) : ℤ :=
  match s.reverse.findIdx? (· == c) with
  | some i => s.length - 1 - i
  | none => -1

/-! ## Facts about digits and numbers -/

/-- a decimal digit of ASCII is its own value -/
theorem digit_digitChar (d : ℕ) (h : d < 10) : digit (UInt16.ofNat d.digitChar.toNat) = some d := by
  interval_cases d <;> decide

theorem digit_lt {c : JChar} {d : ℕ} (h : digit c = some d) : d < 10 := by
  unfold digit at h
  obtain ⟨z, hz, rfl⟩ := Option.map_eq_some_iff.1 h
  have := List.find?_some hz
  simp only [decide_eq_true_eq] at this
  omega

theorem decimal_append (acc : ℕ) (s t : JString) :
    decimal acc (s ++ t) = (decimal acc s).bind fun n => decimal n t := by
  induction s generalizing acc with
  | nil => rfl
  | cons c cs ih =>
    simp only [List.cons_append, decimal]
    cases digit c with
    | none => rfl
    | some d => exact ih _

theorem decimal_intToString (n : ℕ) : decimal 0 (intToString n) = some n := by
  induction n using Nat.strong_induction_on with
  | _ n ih =>
    unfold intToString
    by_cases hn : n < 10
    · simp [Nat.toDigits_of_lt_base hn, decimal, digit_digitChar n hn]
    · have hd := ih (n / 10) (by omega)
      unfold intToString at hd
      rw [Nat.toDigits_of_base_le (by decide) (by omega), List.map_append, decimal_append, hd]
      simp only [Option.bind_some, List.map_cons, List.map_nil, decimal, digit_digitChar (n % 10) (by omega)]
      rw [Nat.div_add_mod' n 10]

/-- a char with a digit value is neither a sign nor one of the two separators -/
theorem digit_isSome_ne {c : JChar} (h : (digit c).isSome) : c ≠ 0x2D ∧ c ≠ 0x2B ∧ c ≠ 0x3A ∧ c ≠ 0xFFFD := by
  refine ⟨?_, ?_, ?_, ?_⟩ <;> rintro rfl <;> revert h <;> decide

theorem digit_of_decimal {acc n : ℕ} {s : JString} (h : decimal acc s = some n) : ∀ c ∈ s, (digit c).isSome := by
  induction s generalizing acc with
  | nil => simp
  | cons c cs ih =>
    simp only [decimal] at h
    cases hc : digit c with
    | none => simp [hc] at h
    | some d =>
      simp only [hc] at h
      intro x hx
      rcases List.mem_cons.1 hx with rfl | hx
      · simp [hc]
      · exact ih h x hx

theorem intToString_ne_nil (n : ℕ) : intToString n ≠ [] := by
  simp [intToString, Nat.toDigits_ne_nil]

/-- an unsigned run of digits is read as its value -/
theorem parseInt_of_decimal {s : JString} {n : ℕ} (hs : s ≠ []) (h : decimal 0 s = some n) (hn : (n : ℤ) ≤ intMax) :
    parseInt s = .ok n := by
  obtain ⟨c, cs, rfl⟩ := List.exists_cons_of_ne_nil hs
  have hc := digit_isSome_ne (digit_of_decimal h c List.mem_cons_self)
  have hr : toInt (n : ℤ) = .ok n := if_pos ⟨by simp only [intMin]; omega, hn⟩
  unfold parseInt
  split
  · rename_i heq; exact absurd (List.cons.inj heq).1 hc.1
  · rename_i heq; exact absurd (List.cons.inj heq).1 hc.2.1
  · simp only [magnitude, h]; exact hr

/-- **Reading a printed length gives it back.** -/
theorem parseInt_intToString {n : ℕ} (h : (n : ℤ) ≤ intMax) : parseInt (intToString n) = .ok (n : ℤ) :=
  parseInt_of_decimal (intToString_ne_nil n) (decimal_intToString n) h

theorem toInt_ok {x k : ℤ} (h : toInt x = .ok k) : k = x ∧ intMin ≤ k ∧ k ≤ intMax := by
  unfold toInt at h
  split_ifs at h with hx
  cases h
  exact ⟨rfl, hx⟩

/-- what `parseInt` reads is a signed magnitude in the range of an int -/
theorem parseInt_ok {s : JString} {k : ℤ} (h : parseInt s = .ok k) :
    (intMin ≤ k ∧ k ≤ intMax) ∧ ∃ n : ℕ, k = n ∨ (k = -n ∧ (0x2D : JChar) ∈ s) := by
  have key : ∀ (t : JString) (g : ℕ → ℤ), (do toInt (g (← magnitude t))) = Except.ok k →
      (intMin ≤ k ∧ k ≤ intMax) ∧ ∃ n, k = g n := by
    intro t g ht
    cases hn : magnitude t with
    | error e => rw [hn] at ht; cases ht
    | ok n =>
      rw [hn, ok_bind] at ht
      obtain ⟨hk, hrange⟩ := toInt_ok ht
      exact ⟨hrange, n, hk⟩
  unfold parseInt at h
  split at h
  · obtain ⟨hrange, n, hk⟩ := key _ (fun n => -(n : ℤ)) h
    exact ⟨hrange, n, Or.inr ⟨hk, List.mem_cons_self⟩⟩
  · obtain ⟨hrange, n, hk⟩ := key _ (fun n => (n : ℤ)) h
    exact ⟨hrange, n, Or.inl hk⟩
  · obtain ⟨hrange, n, hk⟩ := key _ (fun n => (n : ℤ)) h
    exact ⟨hrange, n, Or.inl hk⟩

theorem parseInt_range {s : JString} {k : ℤ} (h : parseInt s = .ok k) : intMin ≤ k ∧ k ≤ intMax := (parseInt_ok h).1

/-- a text without a minus sign is not read as a negative number -/
theorem parseInt_nonneg {s : JString} {k : ℤ} (h : parseInt s = .ok k) (hs : (0x2D : JChar) ∉ s) : 0 ≤ k := by
  obtain ⟨-, n, rfl | ⟨-, hmem⟩⟩ := parseInt_ok h
  · exact Int.natCast_nonneg n
  · exact absurd hmem hs

theorem sep_not_mem_intToString (n : ℕ) : (0xFFFD : JChar) ∉ intToString n := fun h =>
  (digit_isSome_ne (digit_of_decimal (decimal_intToString n) _ h)).2.2.2 rfl

theorem wrapInt_of_mem {x : ℤ} (h : intMin ≤ x ∧ x ≤ intMax) : wrapInt x = x := by
  simp only [intMin, intMax] at h
  unfold wrapInt
  rw [Int.bmod_eq_of_le] <;> omega

/-! ## Facts about indexes -/

theorem charAt_eq {s : JString} (pre post : JString) {c : JChar} {i : ℤ} (hs : s = pre ++ c :: post)
    (hi : pre.length = i) : charAt s i = .ok c := by
  subst hs hi
  simp [charAt]

theorem charAt_ok {s : JString} {i : ℤ} {c : JChar} (h : charAt s i = .ok c) :
    0 ≤ i ∧ i < s.length ∧ s[i.toNat]? = some c := by
  unfold charAt at h
  split_ifs at h with hi
  split at h
  · rename_i d hd
    cases h
    have := (List.getElem?_eq_some_iff.1 hd).1
    exact ⟨hi, by omega, hd⟩
  · cases h

theorem substring_eq {s : JString} (pre post : JString) {mid : JString} {b e : ℤ} (hs : s = pre ++ mid ++ post)
    (hb : pre.length = b) (he : b + mid.length = e) : substring s b e = .ok mid := by
  subst hs hb he
  unfold substring
  rw [if_pos ⟨by omega, by omega, by simp only [List.length_append]; omega⟩]
  simp [List.append_assoc]

theorem substring_ok {s t : JString} {b e : ℤ} (h : substring s b e = .ok t) :
    0 ≤ b ∧ b ≤ e ∧ e ≤ s.length ∧ t = (s.drop b.toNat).take (e - b).toNat := by
  unfold substring at h
  split_ifs at h with hb
  cases h
  exact ⟨hb.1, hb.2.1, hb.2.2, rfl⟩

/-- what `substring` returns, as the part of the text it is -/
theorem drop_take_eq {s : JString} (pre post : JString) {mid : JString} {b e : ℤ} (hs : s = pre ++ mid ++ post)
    (hb : pre.length = b) (he : b + mid.length = e) : (s.drop b.toNat).take (e - b).toNat = mid :=
  (substring_ok (substring_eq pre post hs hb he)).2.2.2.symm

theorem substring_of_le {s : JString} {b e : ℤ} (hb : 0 ≤ b) (hbe : b ≤ e) (he : e ≤ s.length) :
    substring s b e = .ok ((s.drop b.toNat).take (e - b).toNat) := if_pos ⟨hb, hbe, he⟩

theorem substring_one {s : JString} {i : ℤ} {c : JChar} (h : charAt s i = .ok c) : substring s i (i + 1) = .ok [c] := by
  obtain ⟨h0, hlt, hc⟩ := charAt_ok h
  rw [substring_of_le h0 (by omega) (by omega), show (i + 1 - i).toNat = 1 by omega]
  obtain ⟨hi, rfl⟩ := List.getElem?_eq_some_iff.1 hc
  rw [List.drop_eq_getElem_cons hi]; rfl

/-- the next occurrence after a prefix, past chars that differ -/
theorem indexOf_eq {s : JString} (pre post : JString) {mid : JString} {c : JChar} {i : ℤ}
    (hs : s = pre ++ mid ++ c :: post) (hi : pre.length = i) (h : c ∉ mid) : indexOf s c i = i + mid.length := by
  subst hs hi
  have hfind : (mid ++ c :: post).findIdx? (· == c) = some mid.length := by
    rw [List.findIdx?_append, List.findIdx?_eq_none_iff.2 (fun x hx => ?_)]
    · simp [List.findIdx?_cons]
    · simpa using fun e : x = c => h (e ▸ hx)
  simp [indexOf, List.append_assoc, hfind]

/-- a search that starts before chars that differ finds nothing or ends after them -/
theorem indexOf_skip {s : JString} (pre post : JString) {mid : JString} {c : JChar} {i : ℤ} (hs : s = pre ++ mid ++ post)
    (hi : pre.length = i) (h : c ∉ mid) : indexOf s c i = -1 ∨ i + mid.length ≤ indexOf s c i := by
  subst hs hi
  unfold indexOf
  split
  · rename_i k hk
    right
    obtain ⟨hlt, hc, -⟩ := List.findIdx?_eq_some_iff_getElem.1 hk
    by_contra hcon
    have hk' : k < mid.length := by omega
    apply h
    simp [List.append_assoc, List.getElem_append_left hk'] at hc
    exact hc ▸ List.getElem_mem hk'
  · exact Or.inl rfl

theorem neg_one_le_indexOf (s : JString) (c : JChar) (i : ℤ) : -1 ≤ indexOf s c i := by
  unfold indexOf; split <;> omega

/-- an index that is found is at or after the start of the search, and inside the string -/
theorem indexOf_found {s : JString} {c : JChar} {i : ℤ} (h : indexOf s c i ≠ -1) :
    i ≤ indexOf s c i ∧ 0 ≤ indexOf s c i ∧ indexOf s c i < s.length := by
  unfold indexOf at h ⊢
  split
  · rename_i k hk
    obtain ⟨hlt, -⟩ := List.findIdx?_eq_some_iff_getElem.1 hk
    rw [List.length_drop] at hlt
    omega
  · rename_i hk; rw [hk] at h; exact absurd rfl h

end SocketIOJava.Text
