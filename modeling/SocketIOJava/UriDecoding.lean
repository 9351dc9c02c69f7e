/-
`URI.decodePath` with its two arrays.

A path is decoded in place of its escapes: chars go into an array as long as the path, bytes of escapes into another, and
both are allocated at the first escape. `PostData.URI.decodePath` is the same loop over lists.

- `decodePath_eq`: no index leaves the arrays, and the result is the lists', if no run of escapes has more than three chars
  for each of its bytes.
- `decodePath_written`: percent-encoding is undone, whichever characters are escaped and in either case.
- `decodePath_rejects_iff`: which paths with a bad escape are rejected; `parseInt` takes ten chars for digits that are none.
-/
import SocketIOJava.PostData

namespace SocketIOJava.UriDecoding

open SocketIOJava.Text SocketIOJava.PostData SocketIOJava.PostData.URI

/-! ## The source -/

/-- `array[i] = x` -/
def store {α : Type} (array : List α) (i : ℕ) (x : α) : Except JavaException (List α) :=
  if i < array.length then .ok (array.set i x) else .error .arrayIndexOutOfBounds

/-- `s.getChars(0, s.length(), chars, n)` -/
def getChars (s : JString) (chars : List JChar) (n : ℕ) : Except JavaException (List JChar) :=
  if n + s.length ≤ chars.length then .ok (chars.take n ++ s ++ chars.drop (n + s.length)) else .error .arrayIndexOutOfBounds

/-- a part of an array as a string, `new String(array, 0, n)`, before any decoding -/
def part {α : Type} (array : List α) (n : ℕ) : Except JavaException (List α) :=
  if n ≤ array.length then .ok (array.take n) else .error .stringIndexOutOfBounds

/-- the variables of `decodePath` -/
structure Decoder where
  chars : Option (List JChar)
  n : ℕ
  bytes : Option (List UInt8)
  b : ℕ

/-- a variable that is not null -/
def nonNull {α : Type} : Option α → Except JavaException α
  | some a => .ok a
  | none => .error .nullPointer

/-- the arrays are allocated at the first escape, and what stands before it is copied -/
def allocate (path : JString) (i : ℕ) (d : Decoder) : Except JavaException Decoder :=
  if d.chars = none then do
    let chars ← getChars (path.take i) (List.replicate path.length 0) 0
    return { d with chars := some chars, bytes := some (List.replicate path.length 0) }
  else return d

/-- `bytes[b++] = (byte) (0xff & value)` -/
def putByte (value : ℤ) (d : Decoder) : Except JavaException Decoder := do
  let bytes ← store (← nonNull d.bytes) d.b (UInt8.ofNat value.toNat)
  return { d with bytes := some bytes, b := d.b + 1 }

/-- the bytes of the escapes since the last char, if there are any, are decoded -/
def endRun (newString : List UInt8 → JString) (d : Decoder) : Except JavaException Decoder :=
  if d.b > 0 then do
    let s := newString (← part (← nonNull d.bytes) d.b)
    let chars ← getChars s (← nonNull d.chars) d.n
    return { d with chars := some chars, n := d.n + s.length, b := 0 }
  else return d

/-- `chars[n++] = c` -/
def putChar (c : JChar) (d : Decoder) : Except JavaException Decoder := do
  let chars ← store (← nonNull d.chars) d.n c
  return { d with chars := some chars, n := d.n + 1 }

/-- the loop from the index `i` on, where the path goes on with these chars -/
def loop (newString : List UInt8 → JString) (path : JString) : JString → ℕ → Decoder → Except JavaException Decoder
  | 0x25 :: x :: y :: rest, i, d => do
    let d ← allocate path i d
    let d ← putByte (← URI.parseInt [x, y] 16) d
    loop newString path rest (i + 3) d
  | c :: rest, i, d =>
    if d.bytes = none then loop newString path rest (i + 1) { d with n := d.n + 1 }
    else do
      let d ← endRun newString d
      let d ← putChar c d
      loop newString path rest (i + 1) d
  | [], _, d => .ok d

def decodePath (newString : List UInt8 → JString) : Option JString → Except JavaException (Option JString)
  | none => .ok none
  | some path => do
    let d ← loop newString path path 0 ⟨none, 0, none, 0⟩
    if d.chars = none then return some path
    let d ← endRun newString d
    let s ← part (← nonNull d.chars) d.n
    return some s

/-! ## The arrays as lists -/

section

variable {newString : List UInt8 → JString} {path chars : JString} {i : ℕ} {d : Decoder} {bytes : List UInt8}

/-- what is decoded is in the arrays, and there is room for three chars for each byte -/
structure Allocated (path : JString) (i : ℕ) (d : Decoder) (chars : JString) (bytes : List UInt8) : Prop where
  decoded : ∃ later, d.chars = some (chars ++ later) ∧ chars.length + later.length = path.length
  n : d.n = chars.length
  escapes : ∃ spare, d.bytes = some (bytes ++ spare) ∧ bytes.length + spare.length = path.length
  b : d.b = bytes.length
  room : chars.length + 3 * bytes.length ≤ i

/-- the variables at the index `i`; before the first escape `n` counts the chars -/
inductive Holds (path : JString) (i : ℕ) : Decoder → JString → List UInt8 → Prop where
  | unallocated : Holds path i ⟨none, i, none, 0⟩ (path.take i) []
  | allocated {d : Decoder} {chars : JString} {bytes : List UInt8} : Allocated path i d chars bytes → Holds path i d chars bytes

theorem append_flush_nil (newString : List UInt8 → JString) (chars : JString) : chars ++ flush newString [] = chars :=
  List.append_nil chars

theorem allocate_holds (h : Holds path i d chars bytes) (hi : i ≤ path.length) :
    ∃ d', allocate path i d = .ok d' ∧ Allocated path i d' chars bytes := by
  cases h with
  | unallocated =>
    have hlength : (path.take i).length = i := List.length_take_of_le hi
    have hcopy : getChars (path.take i) (List.replicate path.length 0) 0 =
        .ok (path.take i ++ List.replicate (path.length - i) 0) := by
      unfold getChars
      rw [if_pos (by rw [hlength, List.length_replicate]; omega), hlength, List.drop_replicate, List.take_zero, Nat.zero_add]
      rfl
    refine ⟨⟨some _, i, some (List.replicate path.length 0), 0⟩, by simp only [allocate, if_true, hcopy]; rfl, ?_⟩
    refine ⟨⟨_, rfl, ?_⟩, hlength.symm, ⟨_, rfl, ?_⟩, rfl, ?_⟩
    · rw [hlength, List.length_replicate]
      omega
    · rw [List.length_nil, List.length_replicate]
      omega
    · rw [hlength, List.length_nil]
      omega
  | allocated h =>
    obtain ⟨later, hchars, -⟩ := h.decoded
    refine ⟨d, ?_, h⟩
    unfold allocate
    rw [hchars]
    exact if_neg nofun

/-- an element goes in behind those that were stored -/
theorem store_append {α : Type} (before after : List α) (x : α) (h : 0 < after.length) :
    ∃ later, store (before ++ after) before.length x = .ok (before ++ [x] ++ later) ∧
      (before ++ [x]).length + later.length = before.length + after.length := by
  obtain ⟨y, later, rfl⟩ := List.exists_cons_of_length_pos h
  refine ⟨later, ?_, ?_⟩
  · unfold store
    rw [if_pos (by rw [List.length_append]; omega), List.set_append_right _ _ (Nat.le_refl _), Nat.sub_self, List.append_assoc]
    rfl
  · rw [List.length_append, List.length_singleton, List.length_cons]
    omega

theorem putByte_allocated (h : Allocated path i d chars bytes) (hi : i + 3 ≤ path.length) (value : ℤ) :
    ∃ d', putByte value d = .ok d' ∧ Allocated path (i + 3) d' chars (bytes ++ [UInt8.ofNat value.toNat]) := by
  obtain ⟨spare, hbytes, hspare⟩ := h.escapes
  have hroom := h.room
  obtain ⟨later, hstore, hlater⟩ := store_append bytes spare (UInt8.ofNat value.toNat) (by omega)
  have hput : putByte value d = .ok { d with bytes := some (bytes ++ [UInt8.ofNat value.toNat] ++ later), b := d.b + 1 } := by
    simp only [putByte, hbytes, nonNull, ok_bind, h.b, hstore]
    rfl
  refine ⟨_, hput, h.decoded, h.n, ⟨later, rfl, hlater.trans hspare⟩, ?_, ?_⟩
  · rw [List.length_append, List.length_singleton, h.b]
  · rw [List.length_append, List.length_singleton]
    omega

theorem getChars_append (before after s : JString) (h : s.length ≤ after.length) :
    getChars s (before ++ after) before.length = .ok (before ++ s ++ after.drop s.length) := by
  unfold getChars
  rw [if_pos (by rw [List.length_append]; omega), List.take_left, List.drop_append, List.drop_eq_nil_of_le (by omega),
    Nat.add_sub_cancel_left, List.nil_append]

theorem endRun_allocated (h : Allocated path i d chars bytes) (hi : i ≤ path.length)
    (hfit : (flush newString bytes).length ≤ 3 * bytes.length) :
    ∃ d', endRun newString d = .ok d' ∧ Allocated path i d' (chars ++ flush newString bytes) [] := by
  have hroom := h.room
  obtain ⟨later, hchars, hlater⟩ := h.decoded
  obtain ⟨spare, hbytes, hspare⟩ := h.escapes
  cases bytes with
  | nil =>
    refine ⟨d, if_neg (by rw [h.b]; exact Nat.lt_irrefl 0), ?_⟩
    rw [append_flush_nil]
    exact h
  | cons byte bytes =>
    have hflush : flush newString (byte :: bytes) = newString (byte :: bytes) := if_neg (List.cons_ne_nil _ _)
    rw [hflush] at hfit ⊢
    have hpart : part (byte :: bytes ++ spare) d.b = .ok (byte :: bytes) := by
      unfold part
      rw [h.b, if_pos (by rw [List.length_append]; omega), List.take_left]
    have hend : endRun newString d =
        .ok ⟨some (chars ++ newString (byte :: bytes) ++ later.drop (newString (byte :: bytes)).length),
          d.n + (newString (byte :: bytes)).length, d.bytes, 0⟩ := by
      have hcopy := getChars_append chars later (newString (byte :: bytes)) (by omega)
      unfold endRun
      rw [if_pos (by rw [h.b]; exact Nat.succ_pos _), hbytes, hchars]
      simp only [nonNull, ok_bind, hpart, h.n, hcopy]
      rfl
    refine ⟨_, hend, ⟨_, rfl, ?_⟩, ?_, ⟨byte :: bytes ++ spare, hbytes, ?_⟩, rfl, ?_⟩
    · rw [List.length_append, List.length_drop]
      omega
    · rw [List.length_append, h.n]
    · rw [List.length_nil, List.length_append]
      omega
    · rw [List.length_append, List.length_nil]
      omega

theorem putChar_allocated (h : Allocated path i d chars []) (hi : i + 1 ≤ path.length) (c : JChar) :
    ∃ d', putChar c d = .ok d' ∧ Allocated path (i + 1) d' (chars ++ [c]) [] := by
  obtain ⟨spare, hchars, hspare⟩ := h.decoded
  have hroom := h.room
  rw [List.length_nil] at hroom
  obtain ⟨later, hstore, hlater⟩ := store_append chars spare c (by omega)
  have hput : putChar c d = .ok { d with chars := some (chars ++ [c] ++ later), n := d.n + 1 } := by
    simp only [putChar, hchars, nonNull, ok_bind, h.n, hstore]
    rfl
  refine ⟨_, hput, ⟨later, rfl, hlater.trans hspare⟩, ?_, h.escapes, h.b, ?_⟩
  · rw [List.length_append, List.length_singleton, h.n]
  · rw [List.length_append, List.length_singleton, List.length_nil]
    omega

/-- a run of escapes makes at most as many chars as it has itself -/
def RunFits (newString : List UInt8 → JString) (bytes : List UInt8) : Prop := (flush newString bytes).length ≤ 3 * bytes.length

/-- every run of the path does, after these escapes -/
def RunsFit (newString : List UInt8 → JString) : JString → List UInt8 → Prop
  | 0x25 :: x :: y :: path, bytes =>
    ∀ value, URI.parseInt [x, y] 16 = .ok value → RunsFit newString path (bytes ++ [UInt8.ofNat value.toNat])
  | _ :: path, bytes => RunFits newString bytes ∧ RunsFit newString path []
  | [], bytes => RunFits newString bytes

theorem loop_char {c : JChar} {rest : JString} (hc : ∀ x y rest', c = 0x25 → rest = x :: y :: rest' → False) :
    loop newString path (c :: rest) i d = if d.bytes = none then loop newString path rest (i + 1) { d with n := d.n + 1 }
      else (do
        let d ← endRun newString d
        let d ← putChar c d
        loop newString path rest (i + 1) d) := loop.eq_2 _ _ _ _ _ _ hc

/-- a char at the index `i`, and the path from there on -/
theorem drop_cons {c : JChar} {rest : JString} (h : path.drop i = c :: rest) :
    path.drop (i + 1) = rest ∧ i + 1 ≤ path.length ∧ path.take (i + 1) = path.take i ++ [c] := by
  have hlength := congrArg List.length h
  rw [List.length_drop, List.length_cons] at hlength
  have hlt : i < path.length := by omega
  rw [List.drop_eq_getElem_cons hlt, List.cons.injEq] at h
  refine ⟨h.2, hlt, ?_⟩
  rw [List.take_succ_eq_append_getElem hlt, h.1]

/-- **The loop over the arrays does what the one over lists does**, and no index leaves them. -/
theorem loop_holds (rest : JString) (h : Holds path i d chars bytes) (hrest : path.drop i = rest) (hi : i ≤ path.length)
    (hfit : RunsFit newString rest bytes) :
    (∃ e, loop newString path rest i d = .error e ∧ decodeFrom newString rest chars bytes = .error e) ∨
      ∃ d' chars' bytes', loop newString path rest i d = .ok d' ∧ Holds path path.length d' chars' bytes' ∧
        RunFits newString bytes' ∧ decodeFrom newString rest chars bytes = .ok (chars' ++ flush newString bytes') := by
  induction rest, chars, bytes using decodeFrom.induct newString generalizing i d with
  | case1 x y rest chars bytes ih =>
    obtain ⟨hrest₁, hi₁, -⟩ := drop_cons hrest
    obtain ⟨hrest₂, hi₂, -⟩ := drop_cons hrest₁
    obtain ⟨hrest₃, hi₃, -⟩ := drop_cons hrest₂
    obtain ⟨d₁, hallocate, h₁⟩ := allocate_holds h hi
    rw [loop.eq_1, decodeFrom.eq_1, hallocate, ok_bind]
    cases hvalue : URI.parseInt [x, y] 16 with
    | error e => exact .inl ⟨e, rfl, rfl⟩
    | ok value =>
      obtain ⟨d₂, hput, h₂⟩ := putByte_allocated h₁ hi₃ value
      rw [ok_bind, ok_bind, hput, ok_bind]
      exact ih value (.allocated h₂) hrest₃ hi₃ (hfit value hvalue)
  | case2 c rest chars bytes hc ih =>
    obtain ⟨hrest', hi', htake⟩ := drop_cons hrest
    rw [RunsFit.eq_2 _ _ _ _ hc] at hfit
    rw [loop_char hc, decodeFrom_char hc]
    cases h with
    | unallocated =>
      rw [append_flush_nil, ← htake] at ih ⊢
      rw [if_pos rfl]
      exact ih .unallocated hrest' hi' hfit.2
    | allocated h =>
      obtain ⟨spare, hbytes, -⟩ := h.escapes
      obtain ⟨d₁, hend, h₁⟩ := endRun_allocated h hi hfit.1
      obtain ⟨d₂, hput, h₂⟩ := putChar_allocated h₁ hi' c
      rw [if_neg (by rw [hbytes]; exact Option.some_ne_none _), hend, ok_bind, hput, ok_bind]
      exact ih (.allocated h₂) hrest' hi' hfit.2
  | case3 chars bytes =>
    have hlength : i = path.length := le_antisymm hi (List.drop_eq_nil_iff.1 hrest)
    subst hlength
    exact .inr ⟨d, chars, bytes, rfl, h, hfit, rfl⟩

/-- **Decoding over the arrays refines decoding over lists.** -/
theorem decodePath_eq (hfit : RunsFit newString path []) :
    decodePath newString (some path) = (PostData.URI.decodePath newString path).map some := by
  unfold decodePath PostData.URI.decodePath
  have hstart : Holds path 0 ⟨none, 0, none, 0⟩ [] [] := .unallocated
  rcases loop_holds path hstart rfl (Nat.zero_le _) hfit with ⟨e, hloop, hlist⟩ | ⟨d, chars, bytes, hloop, h, hrun, hlist⟩
  · rw [hlist]
    simp only [hloop, error_bind]
    rfl
  · rw [hlist]
    simp only [hloop, ok_bind]
    cases h with
    | unallocated =>
      rw [if_pos rfl, List.take_length, append_flush_nil]
      rfl
    | allocated h =>
      obtain ⟨later, hchars, -⟩ := h.decoded
      obtain ⟨d', hend, h'⟩ := endRun_allocated h (Nat.le_refl _) hrun
      obtain ⟨later', hchars', -⟩ := h'.decoded
      have hpart : part (chars ++ flush newString bytes ++ later') d'.n = .ok (chars ++ flush newString bytes) := by
        unfold part
        rw [h'.n, if_pos (List.prefix_append _ later').length_le, List.take_left]
      rw [if_neg (by rw [hchars]; nofun)]
      simp only [hend, ok_bind, hchars', nonNull, hpart]
      rfl

/-- a constructor that makes no more chars than there are bytes, as decoders of UTF-8 do, fits any path -/
theorem runsFit_of_noMoreChars (hnew : NoMoreChars newString) (path : JString) (bytes : List UInt8) :
    RunsFit newString path bytes := by
  have hrun : ∀ bytes, RunFits newString bytes := by
    intro bytes
    unfold RunFits flush
    have hle := hnew bytes
    split_ifs
    · exact Nat.zero_le _
    · omega
  fun_induction RunsFit newString path bytes with
  | case1 x y path bytes ih => exact fun value _ => ih value
  | case2 c path bytes hc ih => exact ⟨hrun bytes, ih⟩
  | case3 bytes => exact hrun bytes

/-! ## Percent-encoded text -/

/-- a hexadecimal digit of this value, in either case -/
def IsHex (value : ℕ) (c : JChar) : Prop :=
  (str "0123456789ABCDEF")[value]? = some c ∨ (str "0123456789abcdef")[value]? = some c

/-- some bytes as escapes -/
inductive Escapes : List UInt8 → JString → Prop where
  | nil : Escapes [] []
  | cons {byte : UInt8} {bytes : List UInt8} {high low : JChar} {rest : JString} : IsHex (byte.toNat / 16) high →
      IsHex (byte.toNat % 16) low → Escapes bytes rest → Escapes (byte :: bytes) (0x25 :: high :: low :: rest)

/-- a text with some of its characters written as the escapes of their UTF-8 form, all percent signs among them -/
inductive Written : List Char → JString → Prop where
  | nil : Written [] []
  | itself {c : Char} {l : List Char} {rest : JString} : c ≠ '%' → Written l rest → Written (c :: l) (Utf16.encodeChar c ++ rest)
  | escaped {c : Char} {l : List Char} {escapes rest : JString} : Escapes (String.utf8EncodeChar c) escapes →
      Written l rest → Written (c :: l) (escapes ++ rest)

theorem digitOf_hex {value : ℕ} {c : JChar} (h : IsHex value c) : digitOf 16 c = .ok value := by
  have hlt : value < 16 := by
    rcases h with h | h <;> exact (List.getElem?_eq_some_iff.1 h).1
  rcases h with h | h <;> interval_cases value <;> cases h <;> rfl

theorem parseInt_hex {byte : UInt8} {high low : JChar} (hhigh : IsHex (byte.toNat / 16) high)
    (hlow : IsHex (byte.toNat % 16) low) :
    URI.parseInt [high, low] 16 = .ok byte.toNat := by
  have hvalue : (0 * 16 + ((byte.toNat / 16 : ℕ) : ℤ)) * 16 + ((byte.toNat % 16 : ℕ) : ℤ) = byte.toNat := by omega
  rw [← hvalue]
  simp only [URI.parseInt, List.foldlM, digitOf_hex hhigh, digitOf_hex hlow]
  rfl

/-- escapes are collected as the bytes they stand for -/
theorem decodeFrom_escapes {read : List UInt8} {escapes : JString} (h : Escapes read escapes) (path chars : JString)
    (bytes : List UInt8) :
    decodeFrom newString (escapes ++ path) chars bytes = decodeFrom newString path chars (bytes ++ read) := by
  induction h generalizing bytes with
  | nil =>
    rw [List.append_nil]
    rfl
  | @cons byte read high low rest hhigh hlow _ ih =>
    change decodeFrom newString (0x25 :: high :: low :: (rest ++ path)) chars bytes = _
    rw [decodeFrom.eq_1, parseInt_hex hhigh hlow, ok_bind, ih, Int.toNat_natCast, UInt8.ofNat_toNat, List.append_assoc]
    rfl

theorem runsFit_escapes {read : List UInt8} {escapes : JString} (h : Escapes read escapes) {path : JString}
    {bytes : List UInt8} (hpath : RunsFit newString path (bytes ++ read)) : RunsFit newString (escapes ++ path) bytes := by
  induction h generalizing bytes with
  | nil =>
    rw [List.append_nil] at hpath
    exact hpath
  | @cons byte read high low rest hhigh hlow _ ih =>
    intro value hvalue
    rw [parseInt_hex hhigh hlow] at hvalue
    cases hvalue
    refine ih ?_
    rw [Int.toNat_natCast, UInt8.ofNat_toNat, List.append_assoc]
    exact hpath

/-- the units of a character other than the percent sign -/
theorem percent_not_mem {c : Char} (h : c ≠ '%') : (0x25 : JChar) ∉ Utf16.encodeChar c := by
  intro hmem
  by_cases hsmall : c.toNat < 0x10000
  · obtain ⟨u, hu, hnat, -⟩ := Utf16.encodeChar_small hsmall
    rw [hu, List.mem_singleton] at hmem
    apply h
    rw [← Char.ofNat_toNat c, ← hnat, ← hmem]
    rfl
  · obtain ⟨u, v, huv, hhigh, hlow, -⟩ := Utf16.encodeChar_large hsmall
    rw [huv, List.mem_cons, List.mem_singleton] at hmem
    rcases hmem with rfl | rfl
    · exact absurd hhigh (by decide)
    · exact absurd hlow (by decide)

/-- chars other than the percent sign end a run of escapes -/
theorem decodeFrom_units {units : JString} (hne : units ≠ []) (h : (0x25 : JChar) ∉ units) (path chars : JString)
    (bytes : List UInt8) :
    decodeFrom newString (units ++ path) chars bytes =
      decodeFrom newString path (chars ++ flush newString bytes ++ units) [] := by
  induction units generalizing chars bytes with
  | nil => exact absurd rfl hne
  | cons u units ih =>
    rw [List.mem_cons, not_or] at h
    rw [List.cons_append, decodeFrom_char fun _ _ _ hu _ => h.1 hu.symm]
    cases units with
    | nil => rfl
    | cons v units =>
      rw [ih (List.cons_ne_nil _ _) h.2, append_flush_nil, List.append_assoc _ [u]]
      rfl

theorem runsFit_units {units : JString} (hne : units ≠ []) (h : (0x25 : JChar) ∉ units) {path : JString} {bytes : List UInt8}
    (hrun : RunFits newString bytes) (hpath : RunsFit newString path []) : RunsFit newString (units ++ path) bytes := by
  induction units generalizing bytes with
  | nil => exact absurd rfl hne
  | cons u units ih =>
    rw [List.mem_cons, not_or] at h
    rw [List.cons_append, RunsFit.eq_2 _ _ _ _ fun _ _ _ hu _ => h.1 hu.symm]
    refine ⟨hrun, ?_⟩
    cases units with
    | nil => exact hpath
    | cons v units => exact ih (List.cons_ne_nil _ _) h.2 (Nat.zero_le _)

theorem flatMap_snoc (run : List Char) (c : Char) :
    run.flatMap String.utf8EncodeChar ++ String.utf8EncodeChar c = (run ++ [c]).flatMap String.utf8EncodeChar := by
  rw [List.flatMap_append, List.flatMap_singleton]

/-- **Percent-encoding is undone over lists.** The escapes since the last char are the UTF-8 form of whole characters. -/
theorem decodeFrom_written (hutf8 : ReadsUtf8 newString) {l : List Char} {written : JString} (h : Written l written)
    (run : List Char) (chars : JString) :
    decodeFrom newString written chars (run.flatMap String.utf8EncodeChar) = .ok (chars ++ Utf16.encode (run ++ l)) := by
  induction h generalizing run chars with
  | nil =>
    change Except.ok (chars ++ flush newString (run.flatMap String.utf8EncodeChar)) = _
    rw [flush_utf8 hutf8, List.append_nil]
  | @itself c l rest hc _ ih =>
    have hnext := ih [] (chars ++ Utf16.encode run ++ Utf16.encodeChar c)
    rw [List.flatMap_nil] at hnext
    rw [decodeFrom_units (Utf16.encodeChar_ne_nil c) (percent_not_mem hc), flush_utf8 hutf8, hnext, List.nil_append,
      Utf16.encode_append, Utf16.encode_cons, List.append_assoc, List.append_assoc]
  | @escaped c l escapes rest hescapes _ ih =>
    rw [decodeFrom_escapes hescapes, flatMap_snoc, ih (run ++ [c]) chars, List.append_assoc]
    rfl

theorem runFits_utf8 (hutf8 : ReadsUtf8 newString) (run : List Char) :
    RunFits newString (run.flatMap String.utf8EncodeChar) := by
  have hle := Utf16.length_encode_le run
  unfold RunFits
  rw [flush_utf8 hutf8]
  omega

theorem runsFit_written (hutf8 : ReadsUtf8 newString) {l : List Char} {written : JString} (h : Written l written)
    (run : List Char) : RunsFit newString written (run.flatMap String.utf8EncodeChar) := by
  induction h generalizing run with
  | nil => exact runFits_utf8 hutf8 run
  | @itself c l rest hc _ ih =>
    exact runsFit_units (Utf16.encodeChar_ne_nil c) (percent_not_mem hc) (runFits_utf8 hutf8 run) (ih [])
  | @escaped c l escapes rest hescapes _ ih =>
    refine runsFit_escapes hescapes ?_
    rw [flatMap_snoc]
    exact ih (run ++ [c])

/-- **Percent-encoding is undone**, and no index leaves the arrays. -/
theorem decodePath_written (hutf8 : ReadsUtf8 newString) {l : List Char} {written : JString} (h : Written l written) :
    decodePath newString (some written) = .ok (some (Utf16.encode l)) := by
  have hlist : PostData.URI.decodePath newString written = .ok (Utf16.encode l) := decodeFrom_written hutf8 h [] []
  rw [decodePath_eq (runsFit_written hutf8 h []), hlist]
  rfl

/-- a percent sign, and an escape whose two bytes are written in different cases -/
theorem decodePath_written_mixed :
    decodePath utf8String (some (str "5%25 caf%c3%A9")) = .ok (some (Utf16.encode ['5', '%', ' ', 'c', 'a', 'f', '\u00e9'])) := by
  have hpercent : Escapes (String.utf8EncodeChar '%') (str "%25") := .cons (.inl rfl) (.inl rfl) .nil
  have hacute : Escapes (String.utf8EncodeChar '\u00e9') (str "%c3%A9") :=
    .cons (.inr rfl) (.inl rfl) (.cons (.inl rfl) (.inl rfl) .nil)
  have hcafe := Written.itself (c := 'c') (by decide) (.itself (c := 'a') (by decide) (.itself (c := 'f') (by decide)
    (.escaped hacute .nil)))
  have hpath := Written.itself (c := '5') (by decide) (.escaped hpercent (.itself (c := ' ') (by decide) hcafe))
  exact decodePath_written readsUtf8_utf8String hpath

/-! ## Bad escapes -/

/-- 0-9, A-F and a-f -/
def IsHexDigit (c : JChar) : Prop := 0x30 ≤ c ∧ c ≤ 0x39 ∨ 0x41 ≤ c ∧ c ≤ 0x46 ∨ 0x61 ≤ c ∧ c ≤ 0x66

/-- the ten chars before the lower-case letters; `parseInt` takes them for 0 to 9, as its last test has no lower bound of ten -/
def Mistaken (c : JChar) : Prop := 0x57 ≤ c ∧ c ≤ 0x60

/-- any other char is refused -/
def Refused (c : JChar) : Prop := ¬ IsHexDigit c ∧ ¬ Mistaken c

/-- the two chars of each escape, from the left; a percent sign with fewer than two chars behind it begins none -/
def escapesOf : JString → List (JChar × JChar)
  | 0x25 :: x :: y :: path => (x, y) :: escapesOf path
  | _ :: path => escapesOf path
  | [] => []

/-- some escape is not two hexadecimal digits -/
def HasBadEscape (path : JString) : Prop := ∃ p ∈ escapesOf path, ¬ (IsHexDigit p.1 ∧ IsHexDigit p.2)

theorem isDigit_iff (c : JChar) : IsDigit c ↔ IsHexDigit c ∨ Mistaken c := by
  unfold IsDigit IsHexDigit Mistaken
  simp only [UInt16.le_iff_toNat_le, UInt16.reduceToNat]
  omega

theorem refused_iff (c : JChar) : Refused c ↔ ¬ IsDigit c := by rw [isDigit_iff, not_or, Refused]

theorem Mistaken.not_isHexDigit {c : JChar} (h : Mistaken c) : ¬ IsHexDigit c := by
  unfold Mistaken at h
  unfold IsHexDigit
  simp only [UInt16.le_iff_toNat_le, UInt16.reduceToNat] at h ⊢
  omega

theorem readable_iff (path : JString) : Readable path ↔ ∀ p ∈ escapesOf path, IsDigit p.1 ∧ IsDigit p.2 := by
  fun_induction escapesOf path with
  | case1 x y path ih => rw [Readable.eq_1, List.forall_mem_cons, ih]
  | case2 c path hc ih => rw [Readable.eq_2 _ _ hc, ih]
  | case3 => exact iff_of_true trivial fun _ h => absurd h List.not_mem_nil

theorem decodeFrom_error {path : JString} (h : ¬ Readable path) (chars : JString) (bytes : List UInt8) :
    decodeFrom newString path chars bytes = .error .numberFormat := by
  fun_induction decodeFrom newString path chars bytes with
  | case1 x y path chars bytes ih =>
    rcases parseInt_pair x y with ⟨⟨value, hvalue⟩, hdigits⟩ | ⟨herror, -⟩
    · rw [hvalue, ok_bind]
      exact ih value fun hpath => h ⟨hdigits, hpath⟩
    · rw [herror, error_bind]
  | case2 c path chars bytes hc ih =>
    rw [Readable.eq_2 _ _ hc] at h
    exact ih h
  | case3 chars bytes => exact absurd trivial h

/-- **Decoding raises** exactly where the two chars of an escape are not both digits to `parseInt`. -/
theorem decodePath_error_iff (hnew : NoMoreChars newString) (path : JString) :
    decodePath newString (some path) = .error .numberFormat ↔ ¬ Readable path := by
  rw [decodePath_eq (runsFit_of_noMoreChars hnew path []), PostData.URI.decodePath]
  constructor
  · intro herror hpath
    obtain ⟨text, htext⟩ := (decodeFrom_ok_iff path [] []).2 hpath
    rw [htext] at herror
    cases herror
  · intro hpath
    rw [decodeFrom_error hpath]
    rfl

/-- **A path with a bad escape is rejected**, unless every escape is of digits and the mistaken chars, and one has such a char. -/
theorem decodePath_rejects_iff (hnew : NoMoreChars newString) (path : JString) :
    (HasBadEscape path → decodePath newString (some path) = .error .numberFormat) ↔
      (∀ p ∈ escapesOf path, ¬ Mistaken p.1 ∧ ¬ Mistaken p.2) ∨ ∃ p ∈ escapesOf path, Refused p.1 ∨ Refused p.2 := by
  have hrefused : (∃ p ∈ escapesOf path, Refused p.1 ∨ Refused p.2) ↔ ¬ Readable path := by
    simp only [readable_iff, refused_iff, not_forall, not_and_or, exists_prop]
  rw [decodePath_error_iff hnew, hrefused]
  constructor
  · intro h
    by_cases hpath : Readable path
    · refine .inl fun p hp => ⟨fun hx => ?_, fun hy => ?_⟩
      · exact h ⟨p, hp, fun hhex => hx.not_isHexDigit hhex.1⟩ hpath
      · exact h ⟨p, hp, fun hhex => hy.not_isHexDigit hhex.2⟩ hpath
    · exact .inr hpath
  · rintro (hnone | hpath) ⟨p, hp, hbad⟩
    · intro hpath
      have hdigits := (readable_iff path).1 hpath p hp
      rw [isDigit_iff, isDigit_iff] at hdigits
      apply hbad
      exact ⟨hdigits.1.resolve_right (hnone p hp).1, hdigits.2.resolve_right (hnone p hp).2⟩
    · exact hpath

/-- an escape whose second char is no digit, behind one that `parseInt` takes for a digit -/
theorem decodePath_rejects_refused : decodePath utf8String (some (str "%W1%4g")) = .error .numberFormat := by
  have hmistaken : Mistaken 0x57 := by unfold Mistaken; decide
  have hbad : HasBadEscape (str "%W1%4g") := ⟨(0x57, 0x31), List.mem_cons_self, fun h => hmistaken.not_isHexDigit h.1⟩
  have hrefused : Refused 0x67 := ⟨by unfold IsHexDigit; decide, by unfold Mistaken; decide⟩
  exact (decodePath_rejects_iff noMoreChars_utf8String (str "%W1%4g")).2
    (.inr ⟨(0x34, 0x67), List.mem_cons_of_mem _ List.mem_cons_self, .inr hrefused⟩) hbad

/-- **A bad escape that is decoded**: `%WX` is the byte 1. -/
theorem decodePath_accepts_mistaken :
    HasBadEscape (str "%WX") ∧ decodePath utf8String (some (str "%WX")) = .ok (some [1]) ∧
      ¬ (HasBadEscape (str "%WX") → decodePath utf8String (some (str "%WX")) = .error .numberFormat) := by
  have hmistaken : Mistaken 0x57 := by unfold Mistaken; decide
  have hbad : HasBadEscape (str "%WX") := ⟨(0x57, 0x58), List.mem_cons_self, fun h => hmistaken.not_isHexDigit h.1⟩
  have hdecoded : decodePath utf8String (some (str "%WX")) = .ok (some [1]) := by decide +kernel
  refine ⟨hbad, hdecoded, fun h => ?_⟩
  cases hdecoded.symm.trans (h hbad)

end

end SocketIOJava.UriDecoding
