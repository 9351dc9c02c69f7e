/-
The body of a POST, as `decodePostData` reads it.

A JSONP client posts `d=` and the form encoding of `JSON.stringify` of its payload. The server replaces each plus by a
space, decodes the percent escapes, chops the first and the last char and deletes the backslashes. `new String(bytes,
"UTF-8")` is a parameter: for bytes that are not UTF-8 its result is not specified.

- `posted_iff`: a payload arrives as it was posted exactly if it has no backslash and no control character.
- `decodePostData_returns_iff`: a body raises exactly if there is no content type, or it is a form with `d=` and a broken
  escape, or with fewer than two chars to chop.
-/
import SocketIOJava.EventText
import SocketIOJava.Lib.Utf16

namespace SocketIOJava.PostData

open SocketIOJava.Text SocketIOJava.Session SocketIOJava.EventText
open Utf16 (WellFormed)

/-! ## The source -/

namespace URI

/-- a digit of the base, as `parseInt` reads it -/
def digitOf (base : ℤ) (c : JChar) : Except JavaException ℤ :=
  let digit : ℤ := c.toNat - 0x30
  let digit :=
    if digit < 0 ∨ digit ≥ base ∨ digit ≥ 10 then
      let digit : ℤ := 10 + c.toNat - 0x41
      if digit < 10 ∨ digit ≥ base then (10 + c.toNat - 0x61 : ℤ) else digit
    else digit
  if digit < 0 ∨ digit ≥ base then .error .numberFormat else .ok digit

/-- `parseInt` of these chars -/
def parseInt (s : JString) (base : ℤ) : Except JavaException ℤ :=
  s.foldlM (fun value c => do return value * base + (← digitOf base c)) 0

def PERCENT : JChar := 0x25

/-- the string of the escapes read so far, if there are any -/
def flush (newString : List UInt8 → JString) (bytes : List UInt8) : JString := if bytes = [] then [] else newString bytes

/-- the loop of `decodePath`: `chars` is decoded, `bytes` are the escapes since then -/
def decodeFrom (newString : List UInt8 → JString) :
    JString → JString → List UInt8 → Except JavaException JString
  | 0x25 :: x :: y :: path, chars, bytes => do
    let value ← parseInt [x, y] 16
    decodeFrom newString path chars (bytes ++ [UInt8.ofNat value.toNat])
  | c :: path, chars, bytes => decodeFrom newString path (chars ++ flush newString bytes ++ [c]) []
  | [], chars, bytes => .ok (chars ++ flush newString bytes)

def decodePath (newString : List UInt8 → JString) (path : JString) : Except JavaException JString :=
  decodeFrom newString path [] []

end URI

def FORM : JString := str "application/x-www-form-urlencoded"

/-- `s.replace("+", " ")` -/
def plusToSpace (s : JString) : JString := s.map fun c => if c = 0x2B then 0x20 else c

/-- `decodePostData(contentType, data)`; `getContentType` may answer null -/
def decodePostData (newString : List UInt8 → JString) (contentType : Option JString) (data : JString) :
    Except JavaException JString :=
  match contentType with
  | none => .error .nullPointer
  | some contentType =>
    if FORM.isPrefixOf contentType then
      if (str "d=").isPrefixOf data then do
        let data ← URI.decodePath newString (plusToSpace (data.drop 2))
        let data ← substring data 1 (data.length - 1)
        return data.filter (· ≠ BACKSLASH)
      else .ok []
    else if (str "text/plain").isPrefixOf contentType then .ok data
    else .ok data

/-! ## `new String(bytes, "UTF-8")` -/

/-- `new String(bytes, "UTF-8")` of the UTF-8 form of a text is that text -/
def ReadsUtf8 (newString : List UInt8 → JString) : Prop :=
  ∀ l : List Char, newString (l.flatMap String.utf8EncodeChar) = Utf16.encode l

/-- no bytes are read as nothing -/
def KeepsBytes (newString : List UInt8 → JString) : Prop := ∀ bytes, bytes ≠ [] → newString bytes ≠ []

/-- a byte makes at most one char -/
def NoMoreChars (newString : List UInt8 → JString) : Prop := ∀ bytes, (newString bytes).length ≤ bytes.length

/-- the constructor as it is today: bytes that are not UTF-8 are replaced -/
def utf8String (bytes : List UInt8) : JString :=
  match bytes.toByteArray.utf8Decode? with
  | some l => Utf16.encode l.toList
  | none => bytes.map fun _ => 0xFFFD

theorem readsUtf8_utf8String : ReadsUtf8 utf8String := by
  intro l
  have hdecode : (l.flatMap String.utf8EncodeChar).toByteArray.utf8Decode? = some l.toArray := List.utf8Decode?_utf8Encode
  unfold utf8String
  rw [hdecode]

theorem keepsBytes_utf8String : KeepsBytes utf8String := by
  intro bytes hne hnil
  unfold utf8String at hnil
  cases hread : bytes.toByteArray.utf8Decode? with
  | none =>
    rw [hread] at hnil
    exact hne (List.map_eq_nil_iff.1 hnil)
  | some l =>
    rw [hread] at hnil
    rw [Utf16.eq_of_utf8Decode? hread] at hne
    cases hl : l.toList with
    | nil =>
      rw [hl] at hne
      exact hne rfl
    | cons c cs =>
      have hnil : Utf16.encode l.toList = [] := hnil
      rw [hl, Utf16.encode_cons] at hnil
      exact Utf16.encodeChar_ne_nil c (List.append_eq_nil_iff.1 hnil).1

theorem noMoreChars_utf8String : NoMoreChars utf8String := by
  intro bytes
  unfold utf8String
  cases hread : bytes.toByteArray.utf8Decode? with
  | none => exact (List.length_map _).le
  | some l =>
    rw [Utf16.eq_of_utf8Decode? hread]
    exact Utf16.length_encode_le l.toList

/-! ## Escapes -/

namespace URI

/-- the chars that `parseInt` takes for hexadecimal digits, ten of them between `W` and the letters -/
def IsDigit (c : JChar) : Prop := 0x30 ≤ c ∧ c ≤ 0x39 ∨ 0x41 ≤ c ∧ c ≤ 0x46 ∨ 0x57 ≤ c ∧ c ≤ 0x66

instance : DecidablePred IsDigit := fun c =>
  inferInstanceAs (Decidable (0x30 ≤ c ∧ c ≤ 0x39 ∨ 0x41 ≤ c ∧ c ≤ 0x46 ∨ 0x57 ≤ c ∧ c ≤ 0x66))

theorem digitOf_cases (c : JChar) :
    (∃ v, digitOf 16 c = .ok v) ∧ IsDigit c ∨ digitOf 16 c = .error .numberFormat ∧ ¬ IsDigit c := by
  unfold digitOf IsDigit
  simp only [UInt16.le_iff_toNat_le, UInt16.reduceToNat]
  split_ifs <;> first | (left; exact ⟨⟨_, rfl⟩, by omega⟩) | (right; exact ⟨rfl, by omega⟩)

/-- the value of an escape with these two chars -/
theorem parseInt_pair (x y : JChar) :
    (∃ v, parseInt [x, y] 16 = .ok v) ∧ IsDigit x ∧ IsDigit y ∨
      parseInt [x, y] 16 = .error .numberFormat ∧ ¬ (IsDigit x ∧ IsDigit y) := by
  rcases digitOf_cases x with ⟨⟨v, hx⟩, hdx⟩ | ⟨hx, hdx⟩
  · rcases digitOf_cases y with ⟨⟨w, hy⟩, hdy⟩ | ⟨hy, hdy⟩
    · exact .inl ⟨⟨(0 * 16 + v) * 16 + w, by simp only [parseInt, List.foldlM, hx, hy]; rfl⟩, hdx, hdy⟩
    · exact .inr ⟨by simp only [parseInt, List.foldlM, hx, hy]; rfl, fun h => hdy h.2⟩
  · exact .inr ⟨by simp only [parseInt, List.foldlM, hx]; rfl, fun h => hdx h.1⟩

/-- every percent sign that begins an escape has two digits behind it; one with fewer than two chars behind it is a
char like any other -/
def Readable : JString → Prop
  | 0x25 :: x :: y :: path => (IsDigit x ∧ IsDigit y) ∧ Readable path
  | _ :: path => Readable path
  | [] => True

/-- the bytes of a path that is nothing but escapes -/
def escapedBytes : JString → Option (List UInt8)
  | 0x25 :: x :: y :: path =>
    (parseInt [x, y] 16).toOption.bind fun value => (escapedBytes path).map (UInt8.ofNat value.toNat :: ·)
  | _ :: _ => none
  | [] => some []

variable {newString : List UInt8 → JString}

theorem escapedBytes_ok {x y : JChar} {value : ℤ} (h : parseInt [x, y] 16 = .ok value) (path : JString) :
    escapedBytes (0x25 :: x :: y :: path) = (escapedBytes path).map (UInt8.ofNat value.toNat :: ·) := by
  rw [escapedBytes.eq_1, h]
  rfl

theorem escapedBytes_error {x y : JChar} {e : JavaException} (h : parseInt [x, y] 16 = .error e) (path : JString) :
    escapedBytes (0x25 :: x :: y :: path) = none := by
  rw [escapedBytes.eq_1, h]
  rfl

theorem escapedBytes_length {path : JString} {bytes : List UInt8} (h : escapedBytes path = some bytes) :
    path.length = 3 * bytes.length := by
  fun_induction escapedBytes path generalizing bytes with
  | case1 x y path ih =>
    obtain ⟨value, -, hvalue⟩ := Option.bind_eq_some_iff.1 h
    obtain ⟨later, hlater, rfl⟩ := Option.map_eq_some_iff.1 hvalue
    have hlength := ih hlater
    simp only [List.length_cons]
    omega
  | case2 c path hc => cases h
  | case3 => cases h; rfl

/-- a char that begins no escape ends the run before it -/
theorem decodeFrom_char {c : JChar} {path : JString} (hc : ∀ x y rest, c = 0x25 → path = x :: y :: rest → False)
    (chars : JString) (bytes : List UInt8) :
    decodeFrom newString (c :: path) chars bytes =
      decodeFrom newString path (chars ++ flush newString bytes ++ [c]) [] := decodeFrom.eq_2 _ _ _ _ _ hc

/-- an escape that cannot be read ends the loop, and nothing else does -/
theorem decodeFrom_ok_iff (path chars : JString) (bytes : List UInt8) :
    (∃ text, decodeFrom newString path chars bytes = .ok text) ↔ Readable path := by
  fun_induction decodeFrom newString path chars bytes with
  | case1 x y path chars bytes ih =>
    unfold Readable
    rcases parseInt_pair x y with ⟨⟨v, hv⟩, hdigits⟩ | ⟨hv, hdigits⟩
    · rw [hv, ok_bind, ih v]
      exact ⟨fun h => ⟨hdigits, h⟩, fun h => h.2⟩
    · rw [hv, error_bind]
      refine iff_of_false ?_ fun h => hdigits h.1
      rintro ⟨text, htext⟩
      cases htext
  | case2 c path chars bytes hc ih =>
    have hreadable : Readable (c :: path) ↔ Readable path := by rw [Readable.eq_2 _ _ hc]
    rw [hreadable]
    exact ih
  | case3 chars bytes => exact iff_of_true ⟨_, rfl⟩ trivial

/-! ### How long the decoded path is -/

theorem flush_length (hnew : KeepsBytes newString) {bytes : List UInt8} (h : bytes ≠ []) :
    1 ≤ (flush newString bytes).length := by
  unfold flush
  rw [if_neg h]
  exact List.length_pos_iff.2 (hnew bytes h)

/-- a path that is nothing but escapes is one run -/
theorem decodeFrom_escaped {path chars text : JString} {bytes read : List UInt8} (hread : escapedBytes path = some read)
    (h : decodeFrom newString path chars bytes = .ok text) : text = chars ++ flush newString (bytes ++ read) := by
  fun_induction decodeFrom newString path chars bytes generalizing read with
  | case1 x y path chars bytes ih =>
    cases hv : parseInt [x, y] 16 with
    | error e => rw [escapedBytes_error hv] at hread; cases hread
    | ok value =>
      rw [escapedBytes_ok hv] at hread
      rw [hv, ok_bind] at h
      obtain ⟨later, hlater, rfl⟩ := Option.map_eq_some_iff.1 hread
      rw [ih value hlater h, List.append_assoc]
      rfl
  | case2 c path chars bytes hc ih => rw [escapedBytes.eq_2 _ _ hc] at hread; cases hread
  | case3 chars bytes =>
    cases hread
    cases h
    rw [List.append_nil]

/-- what is left to decode makes the text longer -/
theorem decodeFrom_length_pos (hnew : KeepsBytes newString) {path chars text : JString} {bytes : List UInt8}
    (hleft : path ≠ [] ∨ bytes ≠ []) (h : decodeFrom newString path chars bytes = .ok text) :
    chars.length + 1 ≤ text.length := by
  fun_induction decodeFrom newString path chars bytes with
  | case1 x y path chars bytes ih =>
    cases hv : parseInt [x, y] 16 with
    | error e => rw [hv] at h; cases h
    | ok value =>
      rw [hv, ok_bind] at h
      exact ih value (.inr (List.append_ne_nil_of_right_ne_nil _ (List.cons_ne_nil _ _))) h
  | case2 c path chars bytes hc ih =>
    by_cases hpath : path = []
    · subst hpath
      cases h
      simp only [flush, if_true, List.append_nil, List.length_append, List.length_singleton]
      omega
    · have hrest := ih (.inl hpath) h
      simp only [List.length_append, List.length_singleton] at hrest
      omega
  | case3 chars bytes =>
    cases h
    have hbytes := flush_length hnew (hleft.resolve_left fun hnil => hnil rfl)
    rw [List.length_append]
    omega

/-- a char outside of the escapes, after a run of them -/
theorem decodeFrom_length_run (hnew : KeepsBytes newString) {path chars text : JString} {bytes : List UInt8}
    (hbytes : bytes ≠ []) (hread : escapedBytes path = none) (h : decodeFrom newString path chars bytes = .ok text) :
    chars.length + 2 ≤ text.length := by
  fun_induction decodeFrom newString path chars bytes with
  | case1 x y path chars bytes ih =>
    cases hv : parseInt [x, y] 16 with
    | error e => rw [hv] at h; cases h
    | ok value =>
      rw [escapedBytes_ok hv, Option.map_eq_none_iff] at hread
      rw [hv, ok_bind] at h
      exact ih value (List.append_ne_nil_of_right_ne_nil _ (List.cons_ne_nil _ _)) hread h
  | case2 c path chars bytes hc ih =>
    have hflush := flush_length hnew hbytes
    have hchars : (chars ++ flush newString bytes ++ [c]).length ≤ text.length := by
      by_cases hpath : path = []
      · subst hpath
        cases h
        simp [flush]
      · have hrest := decodeFrom_length_pos hnew (.inl hpath) h
        omega
    simp only [List.length_append, List.length_singleton] at hchars
    omega
  | case3 chars bytes => cases hread

/-- **A path of two chars or more**, not all of them in escapes, stands for two chars or more. -/
theorem decodePath_length (hnew : KeepsBytes newString) {path text : JString} (hread : escapedBytes path = none)
    (hlength : 2 ≤ path.length) (h : decodePath newString path = .ok text) : 2 ≤ text.length := by
  unfold decodePath at h
  match path, hlength with
  | c :: d :: rest, _ =>
    by_cases hc : c = 0x25 ∧ rest ≠ []
    · obtain ⟨rfl, hrest⟩ := hc
      obtain ⟨y, rest, rfl⟩ := List.exists_cons_of_ne_nil hrest
      cases hv : parseInt [d, y] 16 with
      | error e => rw [decodeFrom.eq_1, hv] at h; cases h
      | ok value =>
        rw [escapedBytes_ok hv, Option.map_eq_none_iff] at hread
        rw [decodeFrom.eq_1, hv, ok_bind] at h
        have htext := decodeFrom_length_run hnew (List.append_ne_nil_of_right_ne_nil _ (List.cons_ne_nil _ _)) hread h
        exact htext
    · have hchar : ∀ x y p, c = 0x25 → d :: rest = x :: y :: p → False := by
        intro x y p hpercent hpath
        cases hpath
        exact hc ⟨hpercent, List.cons_ne_nil _ _⟩
      rw [decodeFrom_char hchar] at h
      exact decodeFrom_length_pos hnew (.inl (List.cons_ne_nil _ _)) h

/-- what `new String` makes at most one char of: nothing, one char, or escapes that are read as one -/
def Short (newString : List UInt8 → JString) (path : JString) : Prop :=
  path.length ≤ 1 ∨ ∃ bytes, escapedBytes path = some bytes ∧ (newString bytes).length ≤ 1

theorem decodePath_short_iff (hnew : KeepsBytes newString) {path text : JString} (h : decodePath newString path = .ok text) :
    2 ≤ text.length ↔ ¬ Short newString path := by
  cases hread : escapedBytes path with
  | none =>
    refine ⟨fun htext hshort => ?_, fun hlong => ?_⟩
    · rcases hshort with hshort | ⟨bytes, hbytes, -⟩
      · match path, hshort with
        | [], _ => cases hread
        | [c], _ =>
          have hchar : decodePath newString [c] = .ok [c] := decodeFrom_char (by simp) [] []
          cases hchar.symm.trans h
          simp at htext
      · cases hread.symm.trans hbytes
    · refine decodePath_length hnew hread ?_ h
      exact Nat.not_le.1 fun hle => hlong (.inl hle)
  | some bytes =>
    have htext : text = flush newString bytes := decodeFrom_escaped hread h
    have hlength := escapedBytes_length hread
    have hshort : Short newString path ↔ path.length ≤ 1 ∨ (newString bytes).length ≤ 1 := by
      simp [Short, hread]
    rw [htext, hshort]
    by_cases hbytes : bytes = []
    · subst hbytes
      simp [flush, hlength]
    · have hpos : 0 < bytes.length := List.length_pos_iff.2 hbytes
      rw [show flush newString bytes = newString bytes from if_neg hbytes]
      omega

end URI

/-! ## A body that raises -/

/-- what is no escape before the pluses are replaced is none afterwards -/
theorem plusToSpace_char {c : JChar} {path : JString} (hc : ∀ x y rest, c = 0x25 → path = x :: y :: rest → False) :
    ∀ x y rest, (if c = 0x2B then 0x20 else c) = (0x25 : JChar) → plusToSpace path = x :: y :: rest → False := by
  intro x y rest hpercent hpath
  have hc' : c = 0x25 := by
    by_cases hplus : c = 0x2B
    · rw [if_pos hplus] at hpercent
      exact absurd hpercent (by decide)
    · rwa [if_neg hplus] at hpercent
  match path with
  | [] => cases hpath
  | [d] => cases hpath
  | a :: b :: path => exact hc a b path hc' rfl

/-- a plus is no digit, and neither is a space -/
theorem isDigit_plusToSpace (c : JChar) : URI.IsDigit (if c = 0x2B then 0x20 else c) ↔ URI.IsDigit c := by
  by_cases hplus : c = 0x2B
  · rw [if_pos hplus, hplus]
    decide
  · rw [if_neg hplus]

theorem readable_plusToSpace (path : JString) : URI.Readable (plusToSpace path) ↔ URI.Readable path := by
  fun_induction URI.Readable path with
  | case1 x y path ih =>
    change (_ ∧ _) ∧ URI.Readable (plusToSpace path) ↔ _
    rw [isDigit_plusToSpace, isDigit_plusToSpace, ih]
  | case2 c path hc ih =>
    change URI.Readable (_ :: plusToSpace path) ↔ _
    rw [URI.Readable.eq_2 _ _ (plusToSpace_char hc), ih]
  | case3 => exact Iff.rfl

theorem escapedBytes_plusToSpace {path : JString} (h : URI.Readable path) :
    URI.escapedBytes (plusToSpace path) = URI.escapedBytes path := by
  fun_induction URI.Readable path with
  | case1 x y path ih =>
    have hplus : ∀ c, URI.IsDigit c → (if c = 0x2B then 0x20 else c) = c := fun c hc =>
      if_neg fun heq => by rw [heq] at hc; revert hc; decide
    change URI.escapedBytes (0x25 :: (if x = 0x2B then 0x20 else x) :: (if y = 0x2B then 0x20 else y) :: plusToSpace path) = _
    rw [hplus x h.1.1, hplus y h.1.2, URI.escapedBytes.eq_1, ih h.2, URI.escapedBytes.eq_1]
  | case2 c path hc ih =>
    change URI.escapedBytes (_ :: plusToSpace path) = _
    rw [URI.escapedBytes.eq_2 _ _ (plusToSpace_char hc), URI.escapedBytes.eq_2 _ _ hc]
  | case3 => rfl

variable {newString : List UInt8 → JString}

theorem short_plusToSpace {path : JString} (h : URI.Readable path) :
    URI.Short newString (plusToSpace path) ↔ URI.Short newString path := by
  unfold URI.Short
  rw [escapedBytes_plusToSpace h, plusToSpace, List.length_map]

/-- the ends are chopped off a text of two chars or more -/
theorem chop_ok_iff (text : JString) : (∃ middle, substring text 1 (text.length - 1) = .ok middle) ↔ 2 ≤ text.length := by
  unfold substring
  by_cases h : 2 ≤ text.length
  · rw [if_pos (by omega)]
    exact iff_of_true ⟨_, rfl⟩ h
  · rw [if_neg (by omega)]
    refine iff_of_false ?_ h
    rintro ⟨middle, hmiddle⟩
    cases hmiddle

theorem decodePostData_other {type : JString} (h : ¬ FORM <+: type) (data : JString) :
    decodePostData newString (some type) data = .ok data := by
  have hform : ¬ FORM.isPrefixOf type = true := fun hp => h (List.isPrefixOf_iff_prefix.1 hp)
  simp only [decodePostData, if_neg hform, ite_self]

theorem decodePostData_unnamed {type data : JString} (h : FORM <+: type) (hd : ¬ str "d=" <+: data) :
    decodePostData newString (some type) data = .ok [] := by
  have hfield : ¬ (str "d=").isPrefixOf data = true := fun hp => hd (List.isPrefixOf_iff_prefix.1 hp)
  simp only [decodePostData, if_pos (List.isPrefixOf_iff_prefix.2 h), if_neg hfield]

/-- a form with the field `d` -/
theorem decodePostData_form {type : JString} (h : FORM <+: type) (path : JString) :
    decodePostData newString (some type) (str "d=" ++ path) = (do
      let data ← URI.decodePath newString (plusToSpace path)
      let data ← substring data 1 (data.length - 1)
      return data.filter (· ≠ BACKSLASH)) := by
  have hfield : (str "d=").isPrefixOf (str "d=" ++ path) = true := List.isPrefixOf_iff_prefix.2 (List.prefix_append _ _)
  have hpath : (str "d=" ++ path).drop 2 = path := List.drop_left' (by decide)
  simp only [decodePostData, if_pos (List.isPrefixOf_iff_prefix.2 h), if_pos hfield, hpath]

theorem form_returns_iff (hnew : KeepsBytes newString) {type : JString} (h : FORM <+: type) (path : JString) :
    (∃ decoded, decodePostData newString (some type) (str "d=" ++ path) = .ok decoded) ↔
      URI.Readable path ∧ ¬ URI.Short newString path := by
  have hloop := @URI.decodeFrom_ok_iff newString (plusToSpace path) [] []
  rw [decodePostData_form h, ← readable_plusToSpace]
  cases hdecode : URI.decodePath newString (plusToSpace path) with
  | error e =>
    refine iff_of_false ?_ fun hpath => ?_
    · rintro ⟨decoded, hdecoded⟩
      cases hdecoded
    · obtain ⟨text, htext⟩ := hloop.2 hpath.1
      cases hdecode.symm.trans htext
  | ok text =>
    have hreadable := hloop.1 ⟨text, hdecode⟩
    rw [← short_plusToSpace ((readable_plusToSpace path).1 hreadable), ← URI.decodePath_short_iff hnew hdecode,
      ← chop_ok_iff text, ok_bind]
    constructor
    · rintro ⟨decoded, hdecoded⟩
      refine ⟨hreadable, ?_⟩
      cases hchop : substring text 1 (text.length - 1) with
      | error e => rw [hchop] at hdecoded; cases hdecoded
      | ok middle => exact ⟨middle, rfl⟩
    · rintro ⟨-, middle, hmiddle⟩
      exact ⟨middle.filter (· ≠ BACKSLASH), by rw [hmiddle]; rfl⟩

/-- **A body raises exactly in these cases**: there is no content type, or it is a form and `d=` is followed by a percent
sign without its two digits, or by what stands for less than two chars. -/
theorem decodePostData_returns_iff (hnew : KeepsBytes newString) (contentType : Option JString) (data : JString) :
    (∃ decoded, decodePostData newString contentType data = .ok decoded) ↔
      ∃ type, contentType = some type ∧
        (FORM <+: type → ∀ path, data = str "d=" ++ path → URI.Readable path ∧ ¬ URI.Short newString path) := by
  cases contentType with
  | none =>
    refine iff_of_false ?_ ?_
    · rintro ⟨decoded, hdecoded⟩
      cases hdecoded
    · rintro ⟨type, htype, -⟩
      cases htype
  | some type =>
    by_cases hform : FORM <+: type
    · by_cases hd : str "d=" <+: data
      · obtain ⟨path, rfl⟩ := hd
        rw [form_returns_iff hnew hform path]
        constructor
        · intro hpath
          refine ⟨type, rfl, fun _ path' heq => ?_⟩
          rwa [← List.append_cancel_left heq]
        · rintro ⟨type', htype, hpath⟩
          cases htype
          exact hpath hform path rfl
      · refine iff_of_true ⟨[], decodePostData_unnamed hform hd⟩ ⟨type, rfl, fun _ path hpath => ?_⟩
        exact absurd ⟨path, hpath.symm⟩ hd
    · exact iff_of_true ⟨data, decodePostData_other hform data⟩ ⟨type, rfl, fun h => absurd h hform⟩

/-- a quoted char -/
theorem quoted_char_returns :
    ∃ decoded, decodePostData utf8String (some FORM) (str "d=%22a%22") = .ok decoded := by
  refine (decodePostData_returns_iff keepsBytes_utf8String (some FORM) (str "d=%22a%22")).2 ⟨FORM, rfl, fun _ path hpath => ?_⟩
  have hfield : str "d=" ++ str "%22a%22" = str "d=" ++ path := hpath
  rw [← List.append_cancel_left hfield]
  refine ⟨⟨by decide, by decide, trivial⟩, ?_⟩
  rintro (hlength | ⟨bytes, hbytes, -⟩)
  · exact absurd hlength (by decide)
  · cases hbytes

/-- no content type, nothing behind `d=`, one char, and a broken escape -/
theorem bodies_that_raise :
    decodePostData utf8String none (str "5:::") = .error .nullPointer ∧
      decodePostData utf8String (some FORM) (str "d=") = .error .stringIndexOutOfBounds ∧
      decodePostData utf8String (some FORM) (str "d=x") = .error .stringIndexOutOfBounds ∧
      decodePostData utf8String (some FORM) (str "d=%zz") = .error .numberFormat := ⟨rfl, rfl, rfl, rfl⟩

/-! ## What the client posts -/

/-- a hexadecimal digit, in upper case -/
def upperHex (n : ℕ) : JChar := UInt16.ofNat n.digitChar.toUpper.toNat

/-- a byte that has to be escaped -/
def percentByte (b : UInt8) : JString := [URI.PERCENT, upperHex (b.toNat / 16), upperHex (b.toNat % 16)]

/-- letters, digits, and four marks -/
def isUnreserved (c : Char) : Bool :=
  'A' ≤ c ∧ c ≤ 'Z' ∨ 'a' ≤ c ∧ c ≤ 'z' ∨ '0' ≤ c ∧ c ≤ '9' ∨ c = '*' ∨ c = '-' ∨ c = '.' ∨ c = '_'

/-- form encoding in UTF-8 of one character -/
def formEncodeChar (c : Char) : JString :=
  if c = ' ' then str "+"
  else if isUnreserved c then Utf16.encodeChar c
  else (String.utf8EncodeChar c).flatMap percentByte

def formEncode (s : JString) : JString := (Utf16.decode s).flatMap formEncodeChar

/-- the body of a JSONP client's POST with this payload -/
def posted (wellFormed : Bool) (payload : JString) : JString :=
  str "d=" ++ formEncode (quoteJSONString wellFormed payload)

/-! ### The form is decoded -/

theorem digitOf_upperHex {n : ℕ} (h : n < 16) : URI.digitOf 16 (upperHex n) = .ok (n : ℤ) := by
  interval_cases n <;> rfl

theorem upperHex_ne_plus {n : ℕ} (h : n < 16) : upperHex n ≠ 0x2B := by
  interval_cases n <;> decide

theorem parseInt_percentByte (b : UInt8) :
    URI.parseInt [upperHex (b.toNat / 16), upperHex (b.toNat % 16)] 16 = .ok (b.toNat : ℤ) := by
  have hb : b.toNat < 256 := b.toNat_lt
  have hhigh : b.toNat / 16 < 16 := by omega
  have hlow : b.toNat % 16 < 16 := by omega
  have hvalue : (0 * 16 + ((b.toNat / 16 : ℕ) : ℤ)) * 16 + ((b.toNat % 16 : ℕ) : ℤ) = b.toNat := by omega
  rw [← hvalue]
  simp only [URI.parseInt, List.foldlM, digitOf_upperHex hhigh, digitOf_upperHex hlow]
  rfl

theorem plusToSpace_percentByte (b : UInt8) : plusToSpace (percentByte b) = percentByte b := by
  have hb : b.toNat < 256 := b.toNat_lt
  have hhigh : upperHex (b.toNat / 16) ≠ 0x2B := upperHex_ne_plus (by omega)
  have hlow : upperHex (b.toNat % 16) ≠ 0x2B := upperHex_ne_plus (by omega)
  unfold plusToSpace percentByte
  rw [List.map_cons, List.map_cons, List.map_cons, if_neg (by decide), if_neg hhigh, if_neg hlow]
  rfl

theorem plusToSpace_append (s t : JString) : plusToSpace (s ++ t) = plusToSpace s ++ plusToSpace t := List.map_append

theorem plusToSpace_bytes (bytes : List UInt8) : plusToSpace (bytes.flatMap percentByte) = bytes.flatMap percentByte := by
  induction bytes with
  | nil => rfl
  | cons b bytes ih => rw [List.flatMap_cons, plusToSpace_append, plusToSpace_percentByte, ih]

/-- a run of escapes is collected -/
theorem decodeFrom_bytes (read : List UInt8) (path chars : JString) (bytes : List UInt8) :
    URI.decodeFrom newString (read.flatMap percentByte ++ path) chars bytes =
      URI.decodeFrom newString path chars (bytes ++ read) := by
  induction read generalizing bytes with
  | nil => rw [List.append_nil]; rfl
  | cons b read ih =>
    have hescape : (b :: read).flatMap percentByte ++ path =
        0x25 :: upperHex (b.toNat / 16) :: upperHex (b.toNat % 16) :: (read.flatMap percentByte ++ path) := rfl
    rw [hescape, URI.decodeFrom.eq_1, parseInt_percentByte, ok_bind, ih, Int.toNat_natCast, UInt8.ofNat_toNat,
      List.append_assoc]
    rfl

theorem isUnreserved_lt {c : Char} (h : isUnreserved c = true) : c.toNat < 128 := by
  have hle : ∀ d : Char, d.toNat < 128 → c ≤ d → c.toNat < 128 := fun d hd hcd =>
    lt_of_le_of_lt (UInt32.le_iff_toNat_le.1 (Char.le_def.1 hcd)) hd
  rcases of_decide_eq_true h with h | h | h | h | h | h | h
  · exact hle 'Z' (by decide) h.2
  · exact hle 'z' (by decide) h.2
  · exact hle '9' (by decide) h.2
  all_goals
    rw [h]
    decide

/-- a char that the encoding leaves as it is begins no escape, and is no plus -/
theorem unreserved_char {c : Char} (h : isUnreserved c = true) :
    ∃ u, Utf16.encodeChar c = [u] ∧ u ≠ 0x25 ∧ u ≠ 0x2B := by
  have hlt := isUnreserved_lt h
  obtain ⟨u, hu, hnat, -⟩ := Utf16.encodeChar_small (c := c) (by omega)
  have hne : ∀ v : JChar, isUnreserved (Char.ofNat v.toNat) = false → u ≠ v := by
    rintro v hv rfl
    rw [hnat, Char.ofNat_toNat, h] at hv
    cases hv
  exact ⟨u, hu, hne 0x25 (by decide), hne 0x2B (by decide)⟩

/-- a run of escapes is the string of its characters -/
theorem flush_utf8 (hutf8 : ReadsUtf8 newString) (run : List Char) :
    URI.flush newString (run.flatMap String.utf8EncodeChar) = Utf16.encode run := by
  cases run with
  | nil => rfl
  | cons c run =>
    have hne : (c :: run).flatMap String.utf8EncodeChar ≠ [] :=
      List.append_ne_nil_of_left_ne_nil String.utf8EncodeChar_ne_nil _
    exact (if_neg hne).trans (hutf8 (c :: run))

/-- **The form encoding is undone.** The escapes since the last char are the UTF-8 form of whole characters. -/
theorem decodeFrom_form (hutf8 : ReadsUtf8 newString) (l run : List Char) (chars : JString) :
    URI.decodeFrom newString (plusToSpace (l.flatMap formEncodeChar)) chars (run.flatMap String.utf8EncodeChar) =
      .ok (chars ++ Utf16.encode (run ++ l)) := by
  induction l generalizing run chars with
  | nil =>
    change Except.ok (chars ++ URI.flush newString (run.flatMap String.utf8EncodeChar)) = _
    rw [flush_utf8 hutf8, List.append_nil]
  | cons c l ih =>
    -- a char that is no escape ends the run
    have hchar : ∀ u : JChar, u ≠ 0x25 → Utf16.encodeChar c = [u] →
        URI.decodeFrom newString (u :: plusToSpace (l.flatMap formEncodeChar)) chars
          (run.flatMap String.utf8EncodeChar) = .ok (chars ++ Utf16.encode (run ++ c :: l)) := by
      intro u hpercent hu
      have hnext := ih [] (chars ++ Utf16.encode run ++ [u])
      rw [URI.decodeFrom_char fun _ _ _ h _ => hpercent h, flush_utf8 hutf8]
      rw [List.flatMap_nil] at hnext
      rw [hnext, List.nil_append, Utf16.encode_append, Utf16.encode_cons, hu, List.append_assoc, List.append_assoc]
    rw [List.flatMap_cons, plusToSpace_append]
    unfold formEncodeChar
    by_cases hspace : c = ' '
    · rw [if_pos hspace]
      exact hchar 0x20 (by decide) (by rw [hspace]; decide)
    · rw [if_neg hspace]
      by_cases hunreserved : isUnreserved c = true
      · obtain ⟨u, hu, hpercent, hplus⟩ := unreserved_char hunreserved
        have hkept : plusToSpace [u] = [u] := congrArg (· :: []) (if_neg hplus)
        rw [if_pos hunreserved, hu, hkept]
        exact hchar u hpercent hu
      · have hrun : run.flatMap String.utf8EncodeChar ++ String.utf8EncodeChar c =
            (run ++ [c]).flatMap String.utf8EncodeChar := by
          rw [List.flatMap_append, List.flatMap_singleton]
        rw [if_neg hunreserved, plusToSpace_bytes, decodeFrom_bytes, hrun]
        refine (ih (run ++ [c]) chars).trans ?_
        rw [List.append_assoc]
        rfl

theorem decodePath_formEncode (hutf8 : ReadsUtf8 newString) {s : JString} (hs : WellFormed s) :
    URI.decodePath newString (plusToSpace (formEncode s)) = .ok s := by
  obtain ⟨l, rfl⟩ := hs
  have hform := decodeFrom_form hutf8 l [] []
  unfold URI.decodePath formEncode
  rw [Utf16.decode_encode]
  exact hform

/-! ### The quoted payload -/

theorem escape_char {c : JChar} (hc : isHighSurrogate c = false) (wellFormed : Bool) (s : JString) :
    escape wellFormed (c :: s) = escapeChar wellFormed c ++ escape wellFormed s := by
  cases s with
  | nil => exact (List.append_nil _).symm
  | cons d s =>
    have hno : ¬ (isHighSurrogate c = true ∧ isLowSurrogate d = true) := fun h => by
      rw [hc] at h
      exact Bool.false_ne_true h.1
    rw [escape.eq_3, if_neg hno]

theorem escape_pair {c d : JChar} (hc : isHighSurrogate c = true) (hd : isLowSurrogate d = true) (wellFormed : Bool)
    (s : JString) : escape wellFormed (c :: d :: s) = c :: d :: escape wellFormed s := by
  rw [escape.eq_3, if_pos ⟨hc, hd⟩]

/-- the six chars of an escape by number -/
theorem mem_unicodeEscape {c d : JChar} (h : d ∈ unicodeEscape c) :
    0x20 ≤ d ∧ isHighSurrogate d = false ∧ isLowSurrogate d = false := by
  have hhex : ∀ n : ℕ, 0x20 ≤ hexDigit (n % 16) ∧ isHighSurrogate (hexDigit (n % 16)) = false ∧
      isLowSurrogate (hexDigit (n % 16)) = false := by
    intro n
    have hn : n % 16 < 16 := Nat.mod_lt _ (by decide)
    generalize n % 16 = k at hn
    interval_cases k <;> decide
  simp only [unicodeEscape, List.mem_cons, List.not_mem_nil, or_false] at h
  rcases h with rfl | rfl | rfl | rfl | rfl | rfl
  · decide
  · decide
  all_goals exact hhex _

/-- an escape is printable, and has no surrogate but the char itself -/
theorem mem_escapeChar_printable {wellFormed : Bool} {c d : JChar} (h : d ∈ escapeChar wellFormed c) :
    0x20 ≤ d ∧ (d = c ∨ isHighSurrogate d = false ∧ isLowSurrogate d = false) := by
  have htwo : ∀ x : JChar, 0x20 ≤ x ∧ isHighSurrogate x = false ∧ isLowSurrogate x = false → d ∈ [BACKSLASH, x] →
      0x20 ≤ d ∧ (d = c ∨ isHighSurrogate d = false ∧ isLowSurrogate d = false) := by
    intro x hx hd
    simp only [List.mem_cons, List.not_mem_nil, or_false] at hd
    rcases hd with rfl | rfl
    · exact ⟨by decide, .inr ⟨by decide, by decide⟩⟩
    · exact ⟨hx.1, .inr hx.2⟩
  unfold escapeChar at h
  split_ifs at h with h₁ h₂ h₃ h₄ h₅ h₆ h₇ h₈
  iterate 7 exact htwo _ (by decide) h
  · have hplain := mem_unicodeEscape h
    exact ⟨hplain.1, .inr hplain.2⟩
  · rw [List.mem_singleton.1 h]
    rw [not_or, UInt16.not_lt] at h₈
    exact ⟨h₈.1, .inl rfl⟩

theorem mem_escape_printable {wellFormed : Bool} {s : JString} {d : JChar} (h : d ∈ escape wellFormed s) : 0x20 ≤ d := by
  have hsurrogate : ∀ x : JChar, isHighSurrogate x = true ∨ isLowSurrogate x = true → 0x20 ≤ x := by
    intro x hx
    rw [UInt16.le_iff_toNat_le]
    rcases hx with hx | hx
    · exact le_trans (by decide) ((Utf16.isHigh_iff x).1 hx).1
    · exact le_trans (by decide) ((Utf16.isLow_iff x).1 hx).1
  fun_induction escape wellFormed s with
  | case1 => exact absurd h List.not_mem_nil
  | case2 c => exact (mem_escapeChar_printable h).1
  | case3 a b cs hpair ih =>
    rcases List.mem_cons.1 h with rfl | h
    · exact hsurrogate _ (.inl hpair.1)
    rcases List.mem_cons.1 h with rfl | h
    · exact hsurrogate _ (.inr hpair.2)
    · exact ih h
  | case4 a b cs _ ih =>
    rcases List.mem_append.1 h with h | h
    · exact (mem_escapeChar_printable h).1
    · exact ih h

theorem wellFormed_escape (wellFormed : Bool) (l : List Char) : WellFormed (escape wellFormed (Utf16.encode l)) := by
  induction l with
  | nil => exact Utf16.wellFormed_nil
  | cons c l ih =>
    rw [Utf16.encode_cons]
    by_cases hc : c.toNat < 0x10000
    · obtain ⟨u, hu, -, hhigh, hlow⟩ := Utf16.encodeChar_small hc
      have hescape : WellFormed (escapeChar wellFormed u) := by
        refine Utf16.wellFormed_of_singles fun d hd => ?_
        rcases (mem_escapeChar_printable hd).2 with rfl | hplain
        · exact ⟨hhigh, hlow⟩
        · exact hplain
      rw [hu, List.singleton_append, escape_char hhigh]
      exact hescape.append ih
    · obtain ⟨u, v, huv, hhigh, hlow, -⟩ := Utf16.encodeChar_large hc
      have hpair := Utf16.wellFormed_char c
      rw [huv] at hpair ⊢
      rw [show [u, v] ++ Utf16.encode l = u :: v :: Utf16.encode l from rfl, escape_pair hhigh hlow]
      exact hpair.append ih

theorem wellFormed_quote {p : JString} (hp : WellFormed p) (wellFormed : Bool) : WellFormed (quoteJSONString wellFormed p) := by
  have hquote : WellFormed [QUOTE] := Utf16.wellFormed_char '"'
  obtain ⟨l, rfl⟩ := hp
  exact (hquote.append (wellFormed_escape wellFormed l)).append hquote

/-- a char that is not a control char loses only the backslash of its escape -/
theorem filter_escapeChar {c : JChar} (hcontrol : 0x20 ≤ c) (hslash : c ≠ BACKSLASH)
    (hsurrogate : isHighSurrogate c = false ∧ isLowSurrogate c = false) (wellFormed : Bool) :
    (escapeChar wellFormed c).filter (· ≠ BACKSLASH) = [c] := by
  have hne : ∀ x : JChar, x < 0x20 → c ≠ x := fun x hx h => by
    rw [h, ← UInt16.not_lt] at hcontrol
    exact hcontrol hx
  unfold escapeChar
  rw [if_neg (hne 0x08 (by decide)), if_neg (hne 0x09 (by decide)), if_neg (hne 0x0A (by decide)),
    if_neg (hne 0x0C (by decide)), if_neg (hne 0x0D (by decide))]
  by_cases hquote : c = QUOTE
  · rw [if_pos hquote, hquote]
    decide
  · have hplain : ¬ (c < 0x20 ∨ wellFormed = true ∧ (isHighSurrogate c = true ∨ isLowSurrogate c = true)) := by
      rw [hsurrogate.1, hsurrogate.2]
      rintro (h | ⟨-, h | h⟩)
      · exact UInt16.not_lt.2 hcontrol h
      · cases h
      · cases h
    rw [if_neg hquote, if_neg hslash, if_neg hplain]
    simp [hslash]

theorem filter_escape (wellFormed : Bool) (l : List Char)
    (h : ∀ c ∈ Utf16.encode l, c ≠ BACKSLASH ∧ 0x20 ≤ c) :
    (escape wellFormed (Utf16.encode l)).filter (· ≠ BACKSLASH) = Utf16.encode l := by
  induction l with
  | nil => rfl
  | cons c l ih =>
    rw [Utf16.encode_cons] at h ⊢
    have hrest := ih fun d hd => h d (List.mem_append_right _ hd)
    by_cases hc : c.toNat < 0x10000
    · obtain ⟨u, hu, -, hhigh, hlow⟩ := Utf16.encodeChar_small hc
      rw [hu] at h ⊢
      obtain ⟨hslash, hcontrol⟩ := h u List.mem_cons_self
      rw [List.singleton_append, escape_char hhigh, List.filter_append, hrest,
        filter_escapeChar hcontrol hslash ⟨hhigh, hlow⟩]
      rfl
    · obtain ⟨u, v, huv, hhigh, hlow, -⟩ := Utf16.encodeChar_large hc
      rw [huv] at h ⊢
      have hu := (h u (by simp)).1
      have hv := (h v (by simp)).1
      rw [show [u, v] ++ Utf16.encode l = u :: v :: Utf16.encode l from rfl, escape_pair hhigh hlow,
        List.filter_cons_of_pos (by simpa using hu), List.filter_cons_of_pos (by simpa using hv), hrest]

/-! ## A posted payload -/

/-- the server reads the quoted payload, and deletes its backslashes -/
theorem decodePostData_posted (hutf8 : ReadsUtf8 newString) (wellFormed : Bool) (parameters : JString) {p : JString}
    (hp : WellFormed p) :
    decodePostData newString (some (FORM ++ parameters)) (posted wellFormed p) =
      .ok ((escape wellFormed p).filter (· ≠ BACKSLASH)) := by
  have hquoted : quoteJSONString wellFormed p = QUOTE :: (escape wellFormed p ++ [QUOTE]) := rfl
  have hlength : (quoteJSONString wellFormed p).length = (escape wellFormed p).length + 2 := by
    rw [hquoted]
    simp
  have hchop : substring (quoteJSONString wellFormed p) 1 ((quoteJSONString wellFormed p).length - 1) =
      .ok (escape wellFormed p) := by
    refine substring_eq [QUOTE] [QUOTE] rfl rfl ?_
    rw [hlength]
    push_cast
    omega
  unfold posted
  rw [decodePostData_form (List.prefix_append _ _), decodePath_formEncode hutf8 (wellFormed_quote hp wellFormed), ok_bind,
    hchop]
  rfl

/-- **A posted payload** arrives as it was exactly if it has no backslash and no control character. -/
theorem posted_iff (hutf8 : ReadsUtf8 newString) (wellFormed : Bool) (parameters : JString) {p : JString}
    (hp : WellFormed p) :
    decodePostData newString (some (FORM ++ parameters)) (posted wellFormed p) = .ok p ↔
      ∀ c ∈ p, c ≠ BACKSLASH ∧ 0x20 ≤ c := by
  rw [decodePostData_posted hutf8 wellFormed parameters hp, Except.ok.injEq]
  constructor
  · intro heq c hc
    rw [← heq] at hc
    obtain ⟨hmem, hslash⟩ := List.mem_filter.1 hc
    exact ⟨of_decide_eq_true hslash, mem_escape_printable hmem⟩
  · intro h
    obtain ⟨l, rfl⟩ := hp
    exact filter_escape wellFormed l h

/-- quotes come through -/
theorem quotes_arrive :
    decodePostData utf8String (some (FORM ++ str "; charset=UTF-8")) (posted true (str "3:::say \"hi\"")) =
      .ok (str "3:::say \"hi\"") := by
  have hp : WellFormed (str "3:::say \"hi\"") := ⟨"3:::say \"hi\"".toList, by decide⟩
  have hclean : (str "3:::say \"hi\"").all fun c => c ≠ BACKSLASH ∧ 0x20 ≤ c := by decide
  refine (posted_iff readsUtf8_utf8String true (str "; charset=UTF-8") hp).2 fun c hc => ?_
  exact of_decide_eq_true (List.all_eq_true.1 hclean c hc)

/-- a line break arrives as the letter of its escape -/
theorem newline_arrives_as_letter :
    WellFormed (str "3:::a\nb") ∧
      decodePostData utf8String (some (FORM ++ str "; charset=UTF-8")) (posted true (str "3:::a\nb")) = .ok (str "3:::anb") ∧
      str "3:::anb" ≠ str "3:::a\nb" := by
  have hp : WellFormed (str "3:::a\nb") := ⟨"3:::a\nb".toList, by decide⟩
  have hrun := decodePostData_posted readsUtf8_utf8String true (str "; charset=UTF-8") hp
  have hfilter : (escape true (str "3:::a\nb")).filter (· ≠ BACKSLASH) = str "3:::anb" := by decide
  rw [hfilter] at hrun
  exact ⟨hp, hrun, by decide⟩

end SocketIOJava.PostData
