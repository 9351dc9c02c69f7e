/-
`JSON.parseNumber` on numerals without a fraction: a long that wraps, and two signs that both negate.

- `longLoop_eq`: the loop raises at a sign after a number other than 0, where digits count to 0 if their value is a multiple
  of 2^64; otherwise it returns that value, wrapped.
- `right_iff`: the result is what was written exactly if that is an optional minus sign and digits of a number in the range
  of a long, unless the loop raises.
-/
import Mathlib.Data.Bool.AllAny
import SocketIOJava.JsonParse

namespace SocketIOJava.JsonNumber

open SocketIOJava.Text SocketIOJava.JsonParse

/-- the chars that `parseNumber` goes over -/
def NumberChar (c : JChar) : Prop := IsDecimalDigit c ∨ IsSign c ∨ IsFraction c

instance : DecidablePred NumberChar := fun c => inferInstanceAs (Decidable (IsDecimalDigit c ∨ IsSign c ∨ IsFraction c))

/-- the longest prefix of such chars -/
def numeral (s : JString) : JString := s.takeWhile fun c => NumberChar c

/-- the value of some digits, after that of the digits before them -/
def valueFrom (value : ℕ) (digits : JString) : ℕ := digits.foldl (fun n c => n * 10 + (c.toNat - 0x30)) value

/-- the digits of a text -/
def digitsOf (s : JString) : JString := s.filter fun c => IsDecimalDigit c

/-- an optional minus sign, and at least one digit -/
inductive Denotes : JString → ℤ → Prop where
  | digits {s : JString} : s ≠ [] → (∀ c ∈ s, IsDecimalDigit c) → Denotes s (valueFrom 0 s)
  | minus {s : JString} : s ≠ [] → (∀ c ∈ s, IsDecimalDigit c) → Denotes (0x2D :: s) (-(valueFrom 0 s : ℤ))

/-- the parser throws, or returns the number that is written -/
def Right (s : JString) : Prop :=
  (∃ e, parseNumber s = .error (.thrown e)) ∨
    ∃ n rest, parseNumber s = .ok (.long n, rest) ∧ Denotes (numeral s) n.toInt

def InRange (n : ℤ) : Prop := -2 ^ 63 ≤ n ∧ n < 2 ^ 63

instance : DecidablePred InRange := fun n => inferInstanceAs (Decidable (-2 ^ 63 ≤ n ∧ n < 2 ^ 63))

/-- a sign stands after digits that do not count to 0 -/
def Rejected (value : ℕ) (s : JString) : Prop :=
  ∃ before sign after, s = before ++ sign :: after ∧ IsSign sign ∧ ¬ 2 ^ 64 ∣ valueFrom value (digitsOf before)

/-! ## The loop -/

theorem decimalDigit_eq {c : JChar} (h : IsDecimalDigit c) : decimalDigit c = Int64.ofNat (c.toNat - 0x30) := by
  have hsub : ((c.toNat - 0x30 : ℕ) : ℤ) = c.toNat - 0x30 := Int.ofNat_sub (UInt16.le_iff_toNat_le.1 h.1)
  unfold decimalDigit
  rw [← Int64.ofInt_eq_ofNat, hsub]

theorem next_value {c : JChar} (h : IsDecimalDigit c) (value : ℕ) :
    Int64.ofNat value * 10 + decimalDigit c = Int64.ofNat (value * 10 + (c.toNat - 0x30)) := by
  rw [decimalDigit_eq h, Int64.ofNat_add, Int64.ofNat_mul]
  rfl

theorem ofNat_eq_zero_iff (value : ℕ) : Int64.ofNat value = 0 ↔ 2 ^ 64 ∣ value := by
  rw [← Int64.toInt_inj, Int64.toInt_ofNat', Int64.toInt_zero, ← Int.dvd_iff_bmod_eq_zero]
  exact Int.natCast_dvd_natCast

theorem sign_not_digit {c : JChar} (h : IsSign c) : ¬ IsDecimalDigit c := by
  rcases h with rfl | rfl <;> decide

theorem digitsOf_cons_digit {c : JChar} (h : IsDecimalDigit c) (s : JString) : digitsOf (c :: s) = c :: digitsOf s :=
  List.filter_cons_of_pos (decide_eq_true h)

theorem digitsOf_cons_sign {c : JChar} (h : IsSign c) (s : JString) : digitsOf (c :: s) = digitsOf s :=
  List.filter_cons_of_neg fun hdigit => sign_not_digit h (of_decide_eq_true hdigit)

theorem rejected_cons_digit {c : JChar} (h : IsDecimalDigit c) (value : ℕ) (s : JString) :
    Rejected value (c :: s) ↔ Rejected (value * 10 + (c.toNat - 0x30)) s := by
  constructor
  · rintro ⟨before, sign, after, heq, hsign, hvalue⟩
    cases before with
    | nil =>
      cases heq
      exact absurd h (sign_not_digit hsign)
    | cons d before =>
      obtain ⟨rfl, rfl⟩ := List.cons.inj heq
      refine ⟨before, sign, after, rfl, hsign, ?_⟩
      rw [digitsOf_cons_digit h] at hvalue
      exact hvalue
  · rintro ⟨before, sign, after, rfl, hsign, hvalue⟩
    refine ⟨c :: before, sign, after, rfl, hsign, ?_⟩
    rw [digitsOf_cons_digit h]
    exact hvalue

theorem rejected_cons_sign {c : JChar} (h : IsSign c) (value : ℕ) (s : JString) :
    Rejected value (c :: s) ↔ ¬ 2 ^ 64 ∣ value ∨ Rejected value s := by
  constructor
  · rintro ⟨before, sign, after, heq, hsign, hvalue⟩
    cases before with
    | nil => exact .inl hvalue
    | cons d before =>
      obtain ⟨rfl, rfl⟩ := List.cons.inj heq
      rw [digitsOf_cons_sign h] at hvalue
      exact .inr ⟨before, sign, after, rfl, hsign, hvalue⟩
  · rintro (hvalue | ⟨before, sign, after, rfl, hsign, hvalue⟩)
    · exact ⟨[], c, s, rfl, h, hvalue⟩
    · refine ⟨c :: before, sign, after, rfl, hsign, ?_⟩
      rw [digitsOf_cons_sign h]
      exact hvalue

theorem not_rejected_nil (value : ℕ) : ¬ Rejected value [] := by
  rintro ⟨before, sign, after, heq, -⟩
  exact absurd (congrArg List.length heq) (by simp)

theorem numeral_cons {c : JChar} (h : NumberChar c) (s : JString) : numeral (c :: s) = c :: numeral s :=
  List.takeWhile_cons_of_pos (decide_eq_true h)

theorem numeral_stop {c : JChar} (h : ¬ NumberChar c) (s : JString) : numeral (c :: s) = [] :=
  List.takeWhile_cons_of_neg fun hc => h (of_decide_eq_true hc)

/-- **What the loop does** with digits and signs, after digits of this value. -/
theorem longLoop_eq (s : JString) (minus : Bool) (value : ℕ) (hplain : ∀ c ∈ numeral s, ¬ IsFraction c) :
    (Rejected value (numeral s) → longLoop minus (Int64.ofNat value) s = raise .illegalState) ∧
      (¬ Rejected value (numeral s) → longLoop minus (Int64.ofNat value) s =
        .ok (⟨minus || (numeral s).any fun c => IsSign c, Int64.ofNat (valueFrom value (digitsOf (numeral s))), none⟩,
          s.drop (numeral s).length)) := by
  induction s generalizing minus value with
  | nil =>
    refine ⟨fun h => absurd h (not_rejected_nil value), fun _ => ?_⟩
    rw [show numeral [] = [] from rfl, List.any_nil, Bool.or_false]
    rfl
  | cons c s ih =>
    by_cases hdigit : IsDecimalDigit c
    · rw [numeral_cons (.inl hdigit)] at hplain ⊢
      have hnext := ih minus (value * 10 + (c.toNat - 0x30)) fun d hd => hplain d (List.mem_cons_of_mem c hd)
      have hsign : decide (IsSign c) = false := decide_eq_false fun hsign => sign_not_digit hsign hdigit
      rw [rejected_cons_digit hdigit, longLoop, if_pos hdigit, next_value hdigit, digitsOf_cons_digit hdigit,
        List.any_cons, hsign,
        Bool.false_or]
      exact hnext
    by_cases hsign : IsSign c
    · rw [numeral_cons (.inr (.inl hsign))] at hplain ⊢
      have hnext := ih true value fun d hd => hplain d (List.mem_cons_of_mem c hd)
      rw [rejected_cons_sign hsign, longLoop, if_neg hdigit, if_pos hsign, digitsOf_cons_sign hsign, List.any_cons,
        decide_eq_true hsign, Bool.true_or, Bool.or_true]
      rw [Bool.true_or] at hnext
      by_cases hzero : 2 ^ 64 ∣ value
      · rw [if_neg fun hne => hne ((ofNat_eq_zero_iff value).2 hzero), or_iff_right fun hne => hne hzero]
        exact hnext
      · rw [if_pos fun heq => hzero ((ofNat_eq_zero_iff value).1 heq)]
        exact ⟨fun _ => rfl, fun h => absurd (.inl hzero) h⟩
    · have hfraction : ¬ IsFraction c := fun hfraction =>
        hplain c (by rw [numeral_cons (.inr (.inr hfraction))]; exact List.mem_cons_self) hfraction
      have hstop : ¬ NumberChar c := fun hc => hc.elim hdigit fun hc => hc.elim hsign hfraction
      rw [numeral_stop hstop, longLoop, if_neg hdigit, if_neg hsign, if_neg hfraction, List.any_nil, Bool.or_false]
      exact ⟨fun h => absurd h (not_rejected_nil value), fun _ => rfl⟩

/-! ## What is right -/

theorem digitsOf_digits {s : JString} (h : ∀ c ∈ s, IsDecimalDigit c) : digitsOf s = s :=
  List.filter_eq_self.2 fun c hc => decide_eq_true (h c hc)

theorem any_sign_digits {s : JString} (h : ∀ c ∈ s, IsDecimalDigit c) : (s.any fun c => IsSign c) = false :=
  List.any_eq_false.2 fun c hc hsign => sign_not_digit (of_decide_eq_true hsign) (h c hc)

theorem not_rejected_digits {s : JString} (h : ∀ c ∈ s, IsDecimalDigit c) (value : ℕ) : ¬ Rejected value s := by
  rintro ⟨before, sign, after, rfl, hsign, -⟩
  exact sign_not_digit hsign (h sign (by simp))

theorem Denotes.value {s : JString} {n : ℤ} (h : Denotes s n) :
    (s.any fun c => IsSign c) = false ∧ n = valueFrom 0 (digitsOf s) ∨
      (s.any fun c => IsSign c) = true ∧ n = -(valueFrom 0 (digitsOf s) : ℤ) := by
  cases h with
  | digits _ hs =>
    rw [digitsOf_digits hs]
    exact .inl ⟨any_sign_digits hs, rfl⟩
  | @minus s _ hs =>
    rw [digitsOf_cons_sign (.inl rfl), digitsOf_digits hs]
    exact .inr ⟨rfl, rfl⟩

/-- a sign that is the first char is taken -/
theorem Denotes.not_rejected {s : JString} {n : ℤ} (h : Denotes s n) : ¬ Rejected 0 s := by
  cases h with
  | digits _ hs => exact not_rejected_digits hs 0
  | minus _ hs =>
    rw [rejected_cons_sign (.inl rfl)]
    rintro (hzero | hrest)
    · exact hzero (Nat.dvd_zero _)
    · exact not_rejected_digits hs 0 hrest

theorem Denotes.plain {s : JString} {n : ℤ} (h : Denotes s n) : ∀ c ∈ s, ¬ IsFraction c := by
  have hdigits : ∀ c, IsDecimalDigit c → ¬ IsFraction c := by
    rintro c hc (rfl | rfl | rfl) <;> exact absurd hc (by decide)
  cases h with
  | digits _ hs => exact fun c hc => hdigits c (hs c hc)
  | minus _ hs => exact List.forall_mem_cons.2 ⟨by decide, fun c hc => hdigits c (hs c hc)⟩

theorem not_denotes_plus (s : JString) (n : ℤ) : ¬ Denotes (0x2B :: s) n := by
  intro h
  cases h with
  | digits _ hs => exact absurd (hs 0x2B List.mem_cons_self) (by decide)

/-- **The number that is written is returned**, wrapped. -/
theorem parseNumber_denoted {s : JString} {n : ℤ} (h : Denotes (numeral s) n) :
    parseNumber s = .ok (.long (Int64.ofInt n), s.drop (numeral s).length) := by
  have hloop : longLoop false 0 s = _ := (longLoop_eq s false 0 h.plain).2 h.not_rejected
  unfold parseNumber
  rw [hloop, parsed_bind, Bool.false_or]
  dsimp only
  rcases h.value with ⟨hsign, rfl⟩ | ⟨hsign, rfl⟩
  · rw [hsign, if_neg Bool.false_ne_true, Int64.ofInt_eq_ofNat]
    rfl
  · rw [hsign, if_pos rfl, ← Int64.neg_eq_neg_one_mul, Int64.neg_ofNat]
    rfl

/-- **A number is read as it is written** exactly if that is an optional minus sign and digits of a number in the range of a
long, unless the loop raises at a sign. -/
theorem right_iff (s : JString) (hplain : ∀ c ∈ numeral s, ¬ IsFraction c) :
    Right s ↔ (∃ n, Denotes (numeral s) n ∧ InRange n) ∨ Rejected 0 (numeral s) := by
  obtain ⟨hrejected, haccepted⟩ := longLoop_eq s false 0 hplain
  constructor
  · rintro (⟨e, he⟩ | ⟨n, rest, -, hdenotes⟩)
    · by_contra h
      have hloop : longLoop false 0 s = _ := haccepted fun hs => h (.inr hs)
      unfold parseNumber at he
      rw [hloop, parsed_bind] at he
      cases he
    · exact .inl ⟨n.toInt, hdenotes, n.le_toInt, n.toInt_lt⟩
  · rintro (⟨n, hdenotes, hrange⟩ | h)
    · refine .inr ⟨Int64.ofInt n, _, parseNumber_denoted hdenotes, ?_⟩
      rw [Int64.toInt_ofInt_of_le hrange.1 hrange.2]
      exact hdenotes
    · refine .inl ⟨.illegalState, ?_⟩
      have hloop : longLoop false 0 s = raise .illegalState := hrejected h
      unfold parseNumber
      rw [hloop, raise_bind]
      rfl

theorem right_iff_minus : Right (str "-12, 3") :=
  (right_iff (str "-12, 3") (List.all_iff_forall_prop.1 rfl)).2
    (.inl ⟨-12, .minus (by decide) (List.all_iff_forall_prop.1 rfl), by decide⟩)

/-- a plus is read as a minus, and the number after the last one is the first one -/
theorem numbers_wrong :
    parseNumber (str "+5") = .ok (.long (-5), []) ∧
      parseNumber (str "9223372036854775808") = .ok (.long (-9223372036854775808), []) ∧
      ¬ Right (str "+5") ∧ ¬ Right (str "9223372036854775808") := by
  have hplus : parseNumber (str "+5") = .ok (.long (-5), []) := rfl
  have hlast : parseNumber (str "9223372036854775808") = .ok (.long (-9223372036854775808), []) := rfl
  refine ⟨hplus, hlast, ?_, ?_⟩
  · rintro (⟨e, he⟩ | ⟨n, rest, -, hdenotes⟩)
    · cases hplus.symm.trans he
    · exact not_denotes_plus _ _ hdenotes
  · rintro (⟨e, he⟩ | ⟨n, rest, hn, hdenotes⟩)
    · cases hlast.symm.trans he
    · cases hlast.symm.trans hn
      rcases hdenotes.value with ⟨-, hvalue⟩ | ⟨hsign, -⟩
      · exact absurd hvalue (by decide)
      · exact absurd hsign (by decide)

end SocketIOJava.JsonNumber
