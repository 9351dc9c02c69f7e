/-
String literals of JavaScript, over UTF-16 code units.

`element` reads one char or one escape of a literal's body, with the escapes of a script: single chars, line
continuations, `\x`, `\u`, `\u{}` and the old octal ones. `Body raw s`: the body `raw` stands for the chars `s`.
`separators` says whether U+2028 and U+2029 may stand in a literal, as they may since 2019; before, they ended the line.

`scan` reads a literal from the beginning of a text.

- `Body.unique`: a body stands for one text.
- `body_self_iff`: a body stands for itself exactly if it needs no escape.
-/
import Mathlib.Data.List.Infix
import Mathlib.Tactic.SplitIfs
import Mathlib.Data.Nat.Notation

namespace JsLiteral

def BACKSLASH : UInt16 := 0x5C

def IsLineTerminator (c : UInt16) : Prop := c = 0x0A ∨ c = 0x0D ∨ c = 0x2028 ∨ c = 0x2029

instance : DecidablePred IsLineTerminator := fun c =>
  inferInstanceAs (Decidable (c = 0x0A ∨ c = 0x0D ∨ c = 0x2028 ∨ c = 0x2029))

/-- a char that ends the line, and with it the literal -/
def Breaks (separators : Bool) (c : UInt16) : Prop :=
  c = 0x0A ∨ c = 0x0D ∨ separators = false ∧ (c = 0x2028 ∨ c = 0x2029)

instance (separators : Bool) : DecidablePred (Breaks separators) := fun c =>
  inferInstanceAs (Decidable (c = 0x0A ∨ c = 0x0D ∨ separators = false ∧ (c = 0x2028 ∨ c = 0x2029)))

def hexValue (c : UInt16) : Option ℕ :=
  if 0x30 ≤ c ∧ c ≤ 0x39 then some (c.toNat - 0x30)
  else if 0x41 ≤ c ∧ c ≤ 0x46 then some (c.toNat - 0x41 + 10)
  else if 0x61 ≤ c ∧ c ≤ 0x66 then some (c.toNat - 0x61 + 10)
  else none

def IsOctal (c : UInt16) : Prop := 0x30 ≤ c ∧ c ≤ 0x37

instance : DecidablePred IsOctal := fun c => inferInstanceAs (Decidable (0x30 ≤ c ∧ c ≤ 0x37))

/-- the value of some digits -/
def value (base : ℕ) (digits : List UInt16) : ℕ := digits.foldl (fun n d => n * base + (hexValue d).getD 0) 0

/-- what a char after a backslash stands for, unless it begins a longer escape -/
def single (c : UInt16) : UInt16 :=
  if c = 0x62 then 0x08
  else if c = 0x66 then 0x0C
  else if c = 0x6E then 0x0A
  else if c = 0x72 then 0x0D
  else if c = 0x74 then 0x09
  else if c = 0x76 then 0x0B
  else c

/-- the code units of a code point -/
def codeUnits (n : ℕ) : List UInt16 :=
  if n < 0x10000 then [UInt16.ofNat n]
  else [UInt16.ofNat (0xD800 + (n - 0x10000) / 0x400), UInt16.ofNat (0xDC00 + (n - 0x10000) % 0x400)]

/-- after `\x`: the char, and the rest -/
def hexEscape : List UInt16 → Option (List UInt16 × List UInt16)
  | h :: l :: rest =>
    match hexValue h, hexValue l with
    | some a, some b => some ([UInt16.ofNat (a * 16 + b)], rest)
    | _, _ => none
  | _ => none

/-- after `\u{` -/
def codePoint (raw : List UInt16) : Option (List UInt16 × List UInt16) :=
  let digits := raw.takeWhile fun c => (hexValue c).isSome
  match raw.drop digits.length with
  | 0x7D :: rest =>
    if digits ≠ [] ∧ value 16 digits ≤ 0x10FFFF then some (codeUnits (value 16 digits), rest) else none
  | _ => none

/-- after `\u` -/
def unicodeEscape : List UInt16 → Option (List UInt16 × List UInt16)
  | 0x7B :: rest => codePoint rest
  | h₁ :: h₂ :: h₃ :: h₄ :: rest =>
    match hexValue h₁, hexValue h₂, hexValue h₃, hexValue h₄ with
    | some a, some b, some c, some d => some ([UInt16.ofNat (a * 4096 + b * 256 + c * 16 + d)], rest)
    | _, _, _, _ => none
  | _ => none

/-- an octal escape from its first digit on: as many digits as make a char below 256 -/
def octalEscape (first : UInt16) (rest : List UInt16) : List UInt16 × List UInt16 :=
  let more := (rest.takeWhile fun c => IsOctal c).take (if first ≤ 0x33 then 2 else 1)
  ([UInt16.ofNat (value 8 (first :: more))], rest.drop more.length)

/-- after a backslash -/
def escape (c : UInt16) (rest : List UInt16) : Option (List UInt16 × List UInt16) :=
  if c = 0x0D ∧ rest.head? = some 0x0A then some ([], rest.tail)
  else if IsLineTerminator c then some ([], rest)
  else if c = 0x78 then hexEscape rest
  else if c = 0x75 then unicodeEscape rest
  else if IsOctal c then some (octalEscape c rest)
  else some ([single c], rest)

/-- a char or an escape between the quotes `q`: what it stands for, and the rest -/
def element (q : UInt16) (separators : Bool) : List UInt16 → Option (List UInt16 × List UInt16)
  | [] => none
  | [c] => if c = BACKSLASH ∨ c = q ∨ Breaks separators c then none else some ([c], [])
  | c :: d :: rest =>
    if c = BACKSLASH then escape d rest
    else if c = q ∨ Breaks separators c then none
    else some ([c], d :: rest)

/-- what stands between the quotes, and the text that it stands for -/
inductive Body (q : UInt16) (separators : Bool) : List UInt16 → List UInt16 → Prop where
  | nil : Body q separators [] []
  | cons {raw units rest s : List UInt16} : element q separators raw = some (units, rest) → Body q separators rest s →
      Body q separators raw (units ++ s)

/-- a literal in quotes `q`, and the text that it stands for -/
def Literal (q : UInt16) (separators : Bool) (text s : List UInt16) : Prop :=
  ∃ raw, text = q :: (raw ++ [q]) ∧ Body q separators raw s

/-- a literal from after its first quote on, with at most `n` chars and escapes: what it stands for, and what follows it -/
def scan (q : UInt16) (separators : Bool) : ℕ → List UInt16 → Option (List UInt16 × List UInt16)
  | 0, _ => none
  | n + 1, text =>
    if text.head? = some q then some ([], text.tail)
    else
      (element q separators text).bind fun (units, rest) =>
        (scan q separators n rest).map fun (s, after) => (units ++ s, after)

/-! ## One text -/

section

variable {q : UInt16} {separators : Bool}

theorem Body.of_cons {raw units rest s : List UInt16} (h : Body q separators raw s)
    (he : element q separators raw = some (units, rest)) : ∃ s', s = units ++ s' ∧ Body q separators rest s' := by
  cases h with
  | nil => cases he
  | cons he' hrest =>
    cases he.symm.trans he'
    exact ⟨_, rfl, hrest⟩

theorem body_nil_iff {s : List UInt16} : Body q separators [] s ↔ s = [] := by
  constructor
  · intro h
    cases h with
    | nil => rfl
    | cons he => cases he
  · rintro rfl
    exact .nil

/-- a body that goes on where no element can be read stands for nothing -/
theorem not_body {raw s : List UInt16} (hne : raw ≠ []) (he : element q separators raw = none) : ¬ Body q separators raw s := by
  intro h
  cases h with
  | nil => exact hne rfl
  | cons he' => cases he.symm.trans he'

/-- **A body stands for one text.** -/
theorem Body.unique {raw s s' : List UInt16} (h : Body q separators raw s) (h' : Body q separators raw s') : s = s' := by
  induction h generalizing s' with
  | nil => exact (body_nil_iff.1 h').symm
  | cons he _ ih =>
    obtain ⟨s'', rfl, hrest⟩ := h'.of_cons he
    rw [ih hrest]

/-- a literal ends at its quote -/
theorem scan_quote (n : ℕ) (after : List UInt16) : scan q separators (n + 1) (q :: after) = some ([], after) := if_pos rfl

/-- and goes on with each element before it -/
theorem scan_element {text units rest s after : List UInt16} {n : ℕ} (hhead : text.head? ≠ some q)
    (he : element q separators text = some (units, rest)) (hrest : scan q separators n rest = some (s, after)) :
    scan q separators (n + 1) text = some (units ++ s, after) := by
  unfold scan
  rw [if_neg hhead, he]
  change (scan q separators n rest).map _ = _
  rw [hrest]
  rfl

theorem literal_quoted_iff {raw s : List UInt16} : Literal q separators (q :: (raw ++ [q])) s ↔ Body q separators raw s := by
  constructor
  · rintro ⟨raw', heq, hbody⟩
    cases List.append_cancel_right (List.cons.inj heq).2
    exact hbody
  · exact fun h => ⟨raw, rfl, h⟩

theorem Literal.unique {text s s' : List UInt16} (h : Literal q separators text s) (h' : Literal q separators text s') :
    s = s' := by
  obtain ⟨raw, rfl, hraw⟩ := h
  exact hraw.unique (literal_quoted_iff.1 h')

/-- the literal between two texts -/
theorem literal_between_iff (before after : List UInt16) {raw s : List UInt16} :
    (∃ literal, before ++ (q :: (raw ++ [q])) ++ after = before ++ literal ++ after ∧ Literal q separators literal s) ↔
      Body q separators raw s := by
  rw [← literal_quoted_iff]
  constructor
  · rintro ⟨literal, htext, hliteral⟩
    rw [List.append_cancel_left (List.append_cancel_right htext)]
    exact hliteral
  · exact fun h => ⟨_, rfl, h⟩

/-! ## Texts that need no escape -/

/-- a char that stands for itself -/
def Plain (q : UInt16) (separators : Bool) (c : UInt16) : Prop := c ≠ BACKSLASH ∧ c ≠ q ∧ ¬ Breaks separators c

instance : DecidablePred (Plain q separators) := fun c =>
  inferInstanceAs (Decidable (c ≠ BACKSLASH ∧ c ≠ q ∧ ¬ Breaks separators c))

theorem element_plain {c : UInt16} (h : Plain q separators c) (rest : List UInt16) :
    element q separators (c :: rest) = some ([c], rest) := by
  obtain ⟨hslash, hquote, hbreaks⟩ := h
  cases rest with
  | nil => exact if_neg fun hc => hc.elim hslash fun hc => hc.elim hquote hbreaks
  | cons d rest => exact (if_neg hslash).trans (if_neg fun hc => hc.elim hquote hbreaks)

theorem element_none {c : UInt16} (hslash : c ≠ BACKSLASH) (h : c = q ∨ Breaks separators c) (rest : List UInt16) :
    element q separators (c :: rest) = none := by
  cases rest with
  | nil => exact if_pos (.inr h)
  | cons d rest => exact (if_neg hslash).trans (if_pos h)

theorem element_escape (d : UInt16) (rest : List UInt16) :
    element q separators (BACKSLASH :: d :: rest) = escape d rest := by
  unfold element
  exact if_pos rfl

theorem hexEscape_length {raw units rest : List UInt16} (h : hexEscape raw = some (units, rest)) :
    units.length + rest.length ≤ raw.length + 1 := by
  unfold hexEscape at h
  split at h
  · split at h
    · cases h
      simp only [List.length_cons, List.length_nil]
      omega
    · cases h
  · cases h

theorem codeUnits_length (n : ℕ) : (codeUnits n).length ≤ 2 := by
  unfold codeUnits
  split_ifs <;> simp

theorem codePoint_length {raw units rest : List UInt16} (h : codePoint raw = some (units, rest)) :
    units.length + rest.length ≤ raw.length + 2 := by
  unfold codePoint at h
  dsimp only at h
  split at h
  · rename_i rest' hdrop
    split_ifs at h with hvalid
    obtain ⟨rfl, rfl⟩ := Prod.mk.inj (Option.some.inj h)
    have hlength := congrArg List.length hdrop
    have hunits := codeUnits_length (value 16 (raw.takeWhile fun c => (hexValue c).isSome))
    rw [List.length_drop, List.length_cons] at hlength
    omega
  · cases h

theorem unicodeEscape_length {raw units rest : List UInt16} (h : unicodeEscape raw = some (units, rest)) :
    units.length + rest.length ≤ raw.length + 1 := by
  unfold unicodeEscape at h
  split at h
  · exact (codePoint_length h).trans (by simp only [List.length_cons]; omega)
  · split at h
    · cases h
      simp only [List.length_cons, List.length_nil]
      omega
    · cases h
  · cases h

/-- an escape stands for fewer chars than it has -/
theorem escape_length {c : UInt16} {raw units rest : List UInt16} (h : escape c raw = some (units, rest)) :
    units.length + rest.length ≤ raw.length + 1 := by
  unfold escape at h
  split_ifs at h
  · cases h
    simp only [List.length_nil, List.length_tail]
    omega
  · cases h
    simp only [List.length_nil]
    omega
  · exact hexEscape_length h
  · exact unicodeEscape_length h
  · cases h
    simp only [List.length_drop, List.length_singleton]
    omega
  · cases h
    simp only [List.length_singleton]
    omega

theorem element_cases {raw units rest : List UInt16} (h : element q separators raw = some (units, rest)) :
    (∃ c, raw = c :: rest ∧ units = [c] ∧ Plain q separators c) ∨ units.length + rest.length < raw.length := by
  unfold element at h
  split at h
  · cases h
  · split_ifs at h with hc
    cases h
    rw [not_or, not_or] at hc
    exact .inl ⟨_, rfl, rfl, hc⟩
  · split_ifs at h with hslash hc
    · right
      have hlength := escape_length h
      simp only [List.length_cons]
      omega
    · cases h
      exact .inl ⟨_, rfl, rfl, hslash, not_or.1 hc⟩

theorem Body.length_le {raw s : List UInt16} (h : Body q separators raw s) : s.length ≤ raw.length := by
  induction h with
  | nil => exact Nat.le_refl _
  | cons he _ ih =>
    rw [List.length_append]
    rcases element_cases he with ⟨c, rfl, rfl, -⟩ | hlt
    · simp only [List.length_cons, List.length_nil]
      omega
    · omega

/-- **A body stands for itself** exactly if each of its chars does. -/
theorem body_self_iff {raw : List UInt16} : Body q separators raw raw ↔ ∀ c ∈ raw, Plain q separators c := by
  have hplain : ∀ {raw s : List UInt16}, Body q separators raw s → raw.length ≤ s.length → ∀ c ∈ raw, Plain q separators c := by
    intro raw s h
    induction h with
    | nil => exact fun _ c hc => absurd hc List.not_mem_nil
    | cons he hrest ih =>
      intro hlength
      rw [List.length_append] at hlength
      have hle := hrest.length_le
      rcases element_cases he with ⟨c, rfl, rfl, hc⟩ | hlt
      · simp only [List.length_cons, List.length_nil] at hlength
        intro d hd
        rcases List.mem_cons.1 hd with rfl | hd
        · exact hc
        · exact ih (by omega) d hd
      · omega
  refine ⟨fun h => hplain h (Nat.le_refl _), fun h => ?_⟩
  induction raw with
  | nil => exact .nil
  | cons c raw ih =>
    exact .cons (element_plain (h c List.mem_cons_self) raw) (ih fun d hd => h d (List.mem_cons_of_mem _ hd))

end

end JsLiteral
