/-
JSON texts, and the values they stand for.

`Value v text` is the grammar, with one case for each production; white space may stand around the elements of an array
and the members of an object, and around the whole text (`Denotes`). `Chars raw s`: between its quotes, the text `raw`
of a string stands for the chars `s`.

- `token_clean`, `token_key`, `token_end`: where a string ends that begins with given chars.
-/
import SocketIOJava.EventText

namespace SocketIOJava.JsonText

open SocketIOJava.Text SocketIOJava.Session SocketIOJava.EventText

def LBRACE : JChar := 0x7B

def RBRACE : JChar := 0x7D

def LBRACKET : JChar := 0x5B

def RBRACKET : JChar := 0x5D

def COLON : JChar := 0x3A

def COMMA : JChar := 0x2C

/-! ## The grammar -/

def IsWhite (c : JChar) : Prop := c = 0x20 ∨ c = 0x09 ∨ c = 0x0A ∨ c = 0x0D

def White (s : JString) : Prop := ∀ c ∈ s, IsWhite c

instance : DecidablePred IsWhite := fun c => inferInstanceAs (Decidable (c = 0x20 ∨ c = 0x09 ∨ c = 0x0A ∨ c = 0x0D))

def hexValue (c : JChar) : Option ℕ :=
  if 0x30 ≤ c ∧ c ≤ 0x39 then some (c.toNat - 0x30)
  else if 0x41 ≤ c ∧ c ≤ 0x46 then some (c.toNat - 0x41 + 10)
  else if 0x61 ≤ c ∧ c ≤ 0x66 then some (c.toNat - 0x61 + 10)
  else none

/-- the char that an escape of two chars stands for -/
def unescape (c : JChar) : Option JChar :=
  if c = QUOTE ∨ c = BACKSLASH ∨ c = 0x2F then some c
  else if c = 0x62 then some 0x08
  else if c = 0x66 then some 0x0C
  else if c = 0x6E then some 0x0A
  else if c = 0x72 then some 0x0D
  else if c = 0x74 then some 0x09
  else none

/-- the chars between the quotes of a string, and the string -/
inductive Chars : JString → JString → Prop where
  | nil : Chars [] []
  | char {c : JChar} {raw s : JString} : c ≠ QUOTE → c ≠ BACKSLASH → 0x20 ≤ c → Chars raw s → Chars (c :: raw) (c :: s)
  | escape {e c : JChar} {raw s : JString} : unescape e = some c → Chars raw s → Chars (BACKSLASH :: e :: raw) (c :: s)
  | unicode {h₁ h₂ h₃ h₄ : JChar} {d₁ d₂ d₃ d₄ : ℕ} {raw s : JString} : hexValue h₁ = some d₁ → hexValue h₂ = some d₂ →
      hexValue h₃ = some d₃ → hexValue h₄ = some d₄ → Chars raw s →
      Chars (BACKSLASH :: 0x75 :: h₁ :: h₂ :: h₃ :: h₄ :: raw) (UInt16.ofNat (d₁ * 4096 + d₂ * 256 + d₃ * 16 + d₄) :: s)

def Digits (s : JString) : Prop := s ≠ [] ∧ ∀ c ∈ s, 0x30 ≤ c ∧ c ≤ 0x39

/-- digits without a leading zero, with an optional sign, fraction and exponent -/
def IsNumber (s : JString) : Prop :=
  ∃ sign int frac exp, s = sign ++ int ++ frac ++ exp ∧ (sign = [] ∨ sign = str "-") ∧
    (Digits int ∧ (int = str "0" ∨ ¬ str "0" <+: int)) ∧ (frac = [] ∨ ∃ ds, Digits ds ∧ frac = str "." ++ ds) ∧
    (exp = [] ∨ ∃ e sign ds, (e = str "e" ∨ e = str "E") ∧ (sign = [] ∨ sign = str "+" ∨ sign = str "-") ∧ Digits ds ∧
      exp = e ++ sign ++ ds)

mutual

/-- the text of a value -/
inductive Value : Json → JString → Prop where
  | null : Value .null (str "null")
  | bool (b : Bool) : Value (.bool b) (if b then str "true" else str "false")
  | number {text : JString} : IsNumber text → Value (.number text) text
  | string {raw s : JString} : Chars raw s → Value (.string s) (QUOTE :: (raw ++ [QUOTE]))
  | emptyArray {a : JString} : White a → Value (.array []) (LBRACKET :: (a ++ [RBRACKET]))
  | array {vs : List Json} {text : JString} : Elements vs text → Value (.array vs) (LBRACKET :: (text ++ [RBRACKET]))
  | emptyObject {a : JString} : White a → Value (.object []) (LBRACE :: (a ++ [RBRACE]))
  | object {ms : List (JString × Json)} {text : JString} : Members ms text →
      Value (.object ms) (LBRACE :: (text ++ [RBRACE]))

/-- values, with commas between them -/
inductive Elements : List Json → JString → Prop where
  | last {v : Json} {a text b : JString} : White a → Value v text → White b → Elements [v] (a ++ text ++ b)
  | more {v : Json} {vs : List Json} {a text b rest : JString} : White a → Value v text → White b → Elements vs rest →
      Elements (v :: vs) (a ++ text ++ b ++ COMMA :: rest)

/-- quoted keys with their values, with commas between them -/
inductive Members : List (JString × Json) → JString → Prop where
  | last {key raw : JString} {v : Json} {a b c text d : JString} : White a → Chars raw key → White b → White c →
      Value v text → White d → Members [(key, v)] (a ++ QUOTE :: (raw ++ QUOTE :: (b ++ COLON :: (c ++ text ++ d))))
  | more {key raw : JString} {v : Json} {ms : List (JString × Json)} {a b c text d rest : JString} : White a →
      Chars raw key → White b → White c → Value v text → White d → Members ms rest →
      Members ((key, v) :: ms) (a ++ QUOTE :: (raw ++ QUOTE :: (b ++ COLON :: (c ++ text ++ d ++ COMMA :: rest))))

end

/-- a JSON text and its value -/
def Denotes (text : JString) (v : Json) : Prop := ∃ a value b, White a ∧ Value v value ∧ White b ∧ text = a ++ value ++ b

/-- an object or an array -/
def Container : Json → Prop
  | .array _ | .object _ => True
  | _ => False

/-! ## White space -/

theorem white_nil : White [] := fun _ h => absurd h List.not_mem_nil

/-- before a char that is not white space there is none -/
theorem White.align {a x y : JString} {d : JChar} (ha : White a) (h : a ++ x = d :: y) (hd : ¬ IsWhite d) : x = d :: y := by
  cases a with
  | nil => exact h
  | cons c a =>
    obtain ⟨rfl, -⟩ := List.cons.inj h
    exact absurd (ha c List.mem_cons_self) hd

/-- the first char of a string, and of an object or an array -/
theorem Value.head_string {s text : JString} (h : Value (.string s) text) :
    ∃ raw, Chars raw s ∧ text = QUOTE :: (raw ++ [QUOTE]) := by
  cases h with
  | string hraw => exact ⟨_, hraw, rfl⟩

theorem Value.head_container {v : Json} {text : JString} (h : Value v text) (hv : Container v) :
    ∃ rest, text = LBRACE :: rest ∨ text = LBRACKET :: rest := by
  cases h with
  | null | bool | number | string => exact hv.elim
  | emptyArray | array => exact ⟨_, .inr rfl⟩
  | emptyObject | object => exact ⟨_, .inl rfl⟩

/-! ## Where a string ends -/

section

variable {raw s : JString}

/-- chars that need no escape stand for themselves -/
theorem chars_of_clean {n : JString} (h : Clean n) : Chars n n := by
  induction n with
  | nil => exact .nil
  | cons c n ih =>
    obtain ⟨hquote, hslash, hcontrol⟩ := h c List.mem_cons_self
    exact .char hquote hslash hcontrol (ih fun d hd => h d (List.mem_cons_of_mem c hd))

theorem Chars.length_le (h : Chars raw s) : s.length ≤ raw.length := by
  induction h with
  | nil => exact Nat.le_refl _
  | char _ _ _ _ ih | escape _ _ ih | unicode _ _ _ _ _ ih =>
    simp only [List.length_cons]
    omega

/-- without an escape the string is its own text -/
theorem Chars.eq_of_length (h : Chars raw s) (hlength : raw.length ≤ s.length) : raw = s ∧ Clean s := by
  induction h with
  | nil => exact ⟨rfl, fun _ h => absurd h List.not_mem_nil⟩
  | char hquote hslash hcontrol _ ih =>
    obtain ⟨rfl, hclean⟩ := ih (Nat.le_of_succ_le_succ hlength)
    refine ⟨rfl, fun d hd => ?_⟩
    rcases List.mem_cons.1 hd with rfl | hd
    · exact ⟨hquote, hslash, hcontrol⟩
    · exact hclean d hd
  | escape _ hraw | unicode _ _ _ _ hraw =>
    have hle := hraw.length_le
    simp only [List.length_cons] at hlength
    omega

theorem hexValue_plain {c : JChar} {d : ℕ} (h : hexValue c = some d) : c ≠ QUOTE ∧ c ≠ COMMA := by
  have hquote : hexValue QUOTE = none := by decide
  have hcomma : hexValue COMMA = none := by decide
  constructor
  · rintro rfl
    cases hquote.symm.trans h
  · rintro rfl
    cases hcomma.symm.trans h

/-- each quote comes right after a backslash -/
theorem Chars.guarded (h : Chars raw s) (p : JChar) : Guarded p raw := by
  induction h generalizing p with
  | nil => trivial
  | char hquote _ _ _ ih => exact ⟨fun hc => absurd hc hquote, ih _⟩
  | escape _ _ ih => exact ⟨fun hc => absurd hc (by decide), fun _ => rfl, ih _⟩
  | unicode h₁ h₂ h₃ h₄ _ ih =>
    exact ⟨fun hc => absurd hc (by decide), fun hc => absurd hc (by decide), fun hc => absurd hc (hexValue_plain h₁).1,
      fun hc => absurd hc (hexValue_plain h₂).1, fun hc => absurd hc (hexValue_plain h₃).1,
      fun hc => absurd hc (hexValue_plain h₄).1, ih _⟩

theorem concat_tail {x c : JChar} {l before : JString} (h : x :: l = before ++ [c]) (hx : x ≠ c) :
    ∃ before', l = before' ++ [c] := by
  cases before with
  | nil => exact absurd (List.cons.inj h).1 hx
  | cons _ before => exact ⟨before, (List.cons.inj h).2⟩

/-- a comma is in no escape -/
theorem Chars.comma_last {before : JString} (h : Chars raw s) (hraw : raw = before ++ [COMMA]) :
    ∃ s', s = s' ++ [COMMA] := by
  induction h generalizing before with
  | nil => exact absurd hraw.symm (List.append_ne_nil_of_right_ne_nil _ (List.cons_ne_nil _ _))
  | @char c _ _ _ _ _ hrest ih =>
    cases before with
    | nil =>
      obtain ⟨rfl, rfl⟩ := List.cons.inj hraw
      cases hrest
      exact ⟨[], rfl⟩
    | cons b before =>
      obtain ⟨rfl, rfl⟩ := List.cons.inj hraw
      obtain ⟨s', rfl⟩ := ih rfl
      exact ⟨c :: s', rfl⟩
  | @escape e c _ _ he _ ih =>
    have hcomma : unescape COMMA = none := by decide
    obtain ⟨before, hraw⟩ := concat_tail hraw (by decide)
    obtain ⟨before, hraw⟩ := concat_tail hraw fun h => by cases hcomma.symm.trans (h ▸ he)
    obtain ⟨s', rfl⟩ := ih hraw
    exact ⟨c :: s', rfl⟩
  | unicode h₁ h₂ h₃ h₄ _ ih =>
    obtain ⟨before, hraw⟩ := concat_tail hraw (by decide)
    obtain ⟨before, hraw⟩ := concat_tail hraw (by decide)
    obtain ⟨before, hraw⟩ := concat_tail hraw (hexValue_plain h₁).2
    obtain ⟨before, hraw⟩ := concat_tail hraw (hexValue_plain h₂).2
    obtain ⟨before, hraw⟩ := concat_tail hraw (hexValue_plain h₃).2
    obtain ⟨before, hraw⟩ := concat_tail hraw (hexValue_plain h₄).2
    obtain ⟨s', rfl⟩ := ih hraw
    exact ⟨_ :: s', rfl⟩

/-- a string that begins with chars without quotes and escapes and then a quote ends there -/
theorem token_clean {n rest rest' : JString} (h : Chars raw s) (hn : Clean n)
    (heq : raw ++ QUOTE :: rest = n ++ QUOTE :: rest') : raw = n ∧ rest = rest' := by
  induction h generalizing n with
  | nil =>
    cases n with
    | nil => exact ⟨rfl, (List.cons.inj heq).2⟩
    | cons c n => exact absurd (List.cons.inj heq).1.symm (hn c List.mem_cons_self).1
  | char hquote _ _ _ ih =>
    cases n with
    | nil => exact absurd (List.cons.inj heq).1 hquote
    | cons c n =>
      obtain ⟨rfl, htail⟩ := List.cons.inj heq
      obtain ⟨rfl, hafter⟩ := ih (fun d hd => hn d (List.mem_cons_of_mem _ hd)) htail
      exact ⟨rfl, hafter⟩
  | escape | unicode =>
    cases n with
    | nil => exact absurd (List.cons.inj heq).1 (by decide)
    | cons c n => exact absurd (List.cons.inj heq).1.symm (hn c List.mem_cons_self).2.1

/-- a quote in the middle of a string comes after a backslash -/
theorem guarded_after {p : JChar} {before after : JString} (h : Guarded p (before ++ QUOTE :: after)) :
    before = [] ∧ p = BACKSLASH ∨ ∃ before', before = before' ++ [BACKSLASH] := by
  induction before generalizing p with
  | nil => exact .inl ⟨rfl, h.1 rfl⟩
  | cons c before ih =>
    right
    rcases ih h.2 with ⟨rfl, rfl⟩ | ⟨before', rfl⟩
    · exact ⟨[], rfl⟩
    · exact ⟨c :: before', rfl⟩

/-- a string reads back as it was written up to a quote: it needs no escape, or that quote is escaped -/
theorem token_cases {n rest after : JString} (h : Chars raw n) (heq : raw ++ QUOTE :: rest = n ++ QUOTE :: after) :
    Clean n ∨ ∃ more n', raw = n ++ QUOTE :: more ∧ after = more ++ QUOTE :: rest ∧ n = n' ++ [BACKSLASH] := by
  rcases List.append_eq_append_iff.1 heq with ⟨between, hn, -⟩ | ⟨between, hraw, hafter⟩
  · left
    refine (h.eq_of_length ?_).2
    rw [hn, List.length_append]
    omega
  · cases between with
    | nil =>
      left
      refine (h.eq_of_length ?_).2
      rw [hraw, List.append_nil]
    | cons c more =>
      obtain ⟨rfl, hmore⟩ := List.cons.inj hafter
      right
      have hguarded := h.guarded 0
      rw [hraw] at hguarded
      rcases guarded_after hguarded with ⟨-, hzero⟩ | ⟨n', hn'⟩
      · exact absurd hzero (by decide)
      · exact ⟨more, n', hraw, hmore, hn'⟩

/-- **A key that reads back as it was written**: what follows it is a quote, a comma and another quote. -/
theorem token_key {k rest after : JString} (h : Chars raw k)
    (heq : raw ++ QUOTE :: rest = k ++ QUOTE :: COMMA :: QUOTE :: after) : Clean k := by
  rcases token_cases h heq with hclean | ⟨more, k', hraw, hmore, hk⟩
  · exact hclean
  -- the escaped quote is followed by the comma, and the string ends at the quote after it
  exfalso
  have hcomma : ∃ before, raw = before ++ [COMMA] := by
    match more with
    | [] => cases hmore
    | [c] =>
      obtain ⟨rfl, -⟩ := List.cons.inj hmore
      exact ⟨k ++ [QUOTE], by rw [hraw, List.append_assoc]; rfl⟩
    | c :: d :: more =>
      obtain ⟨rfl, htail⟩ := List.cons.inj hmore
      obtain ⟨rfl, -⟩ := List.cons.inj htail
      have hguarded := h.guarded 0
      have hsplit : raw = (k ++ [QUOTE, COMMA]) ++ QUOTE :: more := by rw [hraw, List.append_assoc]; rfl
      rw [hsplit] at hguarded
      rcases guarded_after hguarded with ⟨hnil, -⟩ | ⟨before, hbefore⟩
      · exact absurd hnil (List.append_ne_nil_of_right_ne_nil _ (List.cons_ne_nil _ _))
      · have hlast := congrArg List.getLast? hbefore
        simp at hlast
        exact absurd hlast (by decide)
  obtain ⟨before, hbefore⟩ := hcomma
  obtain ⟨s', hs'⟩ := h.comma_last hbefore
  have hlast := congrArg List.getLast? (hk.symm.trans hs')
  simp at hlast
  exact absurd hlast (by decide)

/-- **A string that reads back as it was written**, with no other quote behind it -/
theorem token_end {m rest after : JString} (h : Chars raw m) (hafter : QUOTE ∉ after)
    (heq : raw ++ QUOTE :: rest = m ++ QUOTE :: after) : Clean m := by
  rcases token_cases h heq with hclean | ⟨more, -, -, hmore, -⟩
  · exact hclean
  · rw [hmore] at hafter
    exact absurd (List.mem_append_right _ List.mem_cons_self) hafter

end

end SocketIOJava.JsonText
