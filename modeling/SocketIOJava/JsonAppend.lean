/-
`JSON.toString`: the text of a value.

The values are null, booleans, longs, strings, arrays (and collections), and maps with string keys, a map as the list of its
entries in the order of its iterator. Objects of other classes are not modelled.
-/
import SocketIOJava.Text

namespace SocketIOJava.JsonAppend

open SocketIOJava.Text

inductive Value where
  | null
  | boolean (b : Bool)
  | long (n : Int64)
  | string (s : JString)
  | array (items : List Value)
  | map (entries : List (JString × Value))

/-- a char between the quotes; `Integer.toString(c, 16)` of a char is its `toHexString` -/
def quoteChar (c : JChar) : JString :=
  if c = 0x22 then str "\\\""
  else if c = 0x5C then str "\\\\"
  else if c = 0x0A then str "\\n"
  else if c = 0x0D then str "\\r"
  else if c = 0x09 then str "\\t"
  else if c = 0x0C then str "\\f"
  else if c = 0x08 then str "\\b"
  else if c < 0x10 then str "\\u000" ++ toHexString c.toNat
  else if c ≤ 0x1F then str "\\u00" ++ toHexString c.toNat
  else [c]

def quote (s : JString) : JString := str "\"" ++ s.flatMap quoteChar ++ str "\""

mutual

def append : Value → JString
  | .null => str "null"
  | .boolean b => if b then str "true" else str "false"
  | .long n => numberToString n.toInt
  | .string s => quote s
  | .array items => str "[" ++ appendItems items ++ str "]"
  | .map entries => str "\x7b" ++ appendEntries entries ++ str "\x7d"

/-- `appendArray`, between the brackets -/
def appendItems : List Value → JString
  | [] => []
  | [v] => append v
  | v :: vs => append v ++ str "," ++ appendItems vs

/-- `appendMap`, between the braces -/
def appendEntries : List (JString × Value) → JString
  | [] => []
  | [(key, v)] => quote key ++ str ":" ++ append v
  | (key, v) :: entries => quote key ++ str ":" ++ append v ++ str "," ++ appendEntries entries

end

/-- `JSON.toString(object)` -/
def toString (v : Value) : JString := append v

/-! ## Escapes -/

/-- a char that is written as it is -/
def Plain (c : JChar) : Prop := c ≠ 0x22 ∧ c ≠ 0x5C ∧ 0x20 ≤ c

instance : DecidablePred Plain := fun c => inferInstanceAs (Decidable (c ≠ 0x22 ∧ c ≠ 0x5C ∧ 0x20 ≤ c))

theorem quoteChar_plain {c : JChar} (h : Plain c) : quoteChar c = [c] := by
  obtain ⟨hquote, hslash, hcontrol⟩ := h
  have hne : ∀ d : JChar, d < 0x20 → c ≠ d := by
    rintro d hd rfl
    exact UInt16.not_lt.2 hcontrol hd
  have hlow : ∀ d : JChar, d ≤ 0x20 → ¬ c < d := fun d hd hlt =>
    UInt16.not_lt.2 hcontrol (UInt16.lt_of_lt_of_le hlt hd)
  unfold quoteChar
  rw [if_neg hquote, if_neg hslash, if_neg (hne _ (by decide)), if_neg (hne _ (by decide)), if_neg (hne _ (by decide)),
    if_neg (hne _ (by decide)), if_neg (hne _ (by decide)), if_neg (hlow _ (by decide)), if_neg]
  exact fun hle => UInt16.not_lt.2 hcontrol (UInt16.lt_of_le_of_lt hle (by decide))

/-- the chars below a space, as `\b`, `\t`, `\n`, `\f`, `\r` or by number -/
theorem control_cases {c : JChar} (h : c < 0x20) : ∃ n < 32, c = UInt16.ofNat n :=
  ⟨c.toNat, UInt16.lt_iff_toNat_lt.1 h, UInt16.ofNat_toNat.symm⟩

/-- any other char is written as an escape -/
theorem quoteChar_escape {c : JChar} (h : ¬ Plain c) :
    ∃ d rest, quoteChar c = 0x5C :: d :: rest ∧ (d :: rest).all (· ≠ 0x3C) := by
  by_cases hquote : c = 0x22
  · subst hquote
    exact ⟨0x22, [], rfl, rfl⟩
  by_cases hslash : c = 0x5C
  · subst hslash
    exact ⟨0x5C, [], rfl, rfl⟩
  have hcontrol : c < 0x20 := UInt16.not_le.1 fun hle => h ⟨hquote, hslash, hle⟩
  obtain ⟨n, hn, rfl⟩ := control_cases hcontrol
  interval_cases n <;> exact ⟨_, _, rfl, rfl⟩

end SocketIOJava.JsonAppend
