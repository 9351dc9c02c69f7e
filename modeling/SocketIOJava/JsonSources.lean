/-
`JSON.parse` of a string and of a reader of it.

- `parse_finishes`: the parser returns or throws, whatever the text.
- `agree_iff`: the two sources agree exactly if the text is not a string that is broken off in a unicode escape. There the
  string throws, and the reader goes on with a char that is none.
-/
import SocketIOJava.JsonParse

namespace SocketIOJava.JsonSources

open SocketIOJava.Text SocketIOJava.JsonParse

variable {source : Source}

/-! ## Fuel -/

/-- a parser comes to an end, and leaves at most so many chars -/
def Finishes {α : Type} (limit : ℕ) : Except Stop (α × JString) → Prop
  | .ok (_, rest) => rest.length ≤ limit
  | .error e => e ≠ .unfinished

section

variable {α β : Type} {n m : ℕ}

theorem Finishes.mono {x : Except Stop (α × JString)} (h : Finishes n x) (hle : n ≤ m) : Finishes m x := by
  cases x with
  | ok p => exact Nat.le_trans h hle
  | error e => exact h

theorem Finishes.bind {x : Except Stop (α × JString)} {k : α × JString → Except Stop (β × JString)} (h : Finishes n x)
    (hk : ∀ a rest, rest.length ≤ n → Finishes m (k (a, rest))) : Finishes m (x >>= k) := by
  cases x with
  | ok p => exact hk p.1 p.2 h
  | error e => exact h

theorem finishes_ok {a : α} {rest : JString} (h : rest.length ≤ n) : Finishes n (.ok (a, rest)) := h

theorem finishes_raise (e : JavaException) : Finishes n (raise e : Except Stop (α × JString)) := nofun

theorem finishes_lift (x : Except JavaException α) {k : α → Except Stop (β × JString)} (hk : ∀ a, x = .ok a → Finishes n (k a)) :
    Finishes n (lift x >>= k) := by
  cases x with
  | ok a => exact hk a rfl
  | error e => exact finishes_raise e

end

theorem next_finishes (rest : JString) : Finishes rest.length (next source rest) := by
  cases rest with
  | cons c rest => exact Nat.le_succ _
  | nil => exact finishes_lift source.atEnd fun c _ => Nat.le_refl _

theorem seekTo_finishes (seek rest : JString) : Finishes rest.length (seekTo seek rest) := by
  induction rest with
  | nil => exact finishes_raise _
  | cons c rest ih =>
    unfold seekTo
    split_ifs
    · exact Nat.le_refl _
    · exact finishes_raise _
    · exact ih.mono (Nat.le_succ _)

theorem complete_finishes (seek rest : JString) (v : JObject) :
    Finishes rest.length (do return (v, ← complete seek rest)) := by
  fun_induction complete seek rest with
  | case1 rest => exact Nat.le_refl _
  | case2 => exact finishes_raise _
  | case3 => exact finishes_raise _
  | case4 k seek c rest hc ih => exact ih.mono (Nat.le_succ _)

theorem unicode_finishes (rest : JString) : Finishes rest.length (unicode source rest) :=
  (next_finishes rest).bind fun _ rest₁ h₁ => (next_finishes rest₁).bind fun _ rest₂ h₂ =>
    (next_finishes rest₂).bind fun _ rest₃ h₃ => (next_finishes rest₃).bind fun _ _ h₄ =>
      h₄.trans (h₃.trans (h₂.trans h₁))

theorem builderLoop_finishes (escape : Bool) (rest builder : JString) :
    Finishes rest.length (builderLoop source escape rest builder) := by
  fun_induction builderLoop source escape rest builder with
  | case1 => exact Nat.le_refl _
  | case2 builder rest uc later hunicode ih => exact ih.mono ((unicode_length hunicode).trans (Nat.le_succ _))
  | case3 builder rest e hunicode =>
    have h : Finishes rest.length (unicode source rest) := unicode_finishes rest
    rw [hunicode] at h
    exact h
  | case4 builder c rest hc ih => exact ih.mono (Nat.le_succ _)
  | case5 escape builder rest hescape ih => exact ih.mono (Nat.le_succ _)
  | case6 => exact Nat.le_succ _
  | case7 escape builder c rest hescape hslash hquote ih => exact ih.mono (Nat.le_succ _)

/-- a string has at least its quote -/
theorem parseString_finishes (c : JChar) (rest : JString) : Finishes rest.length (parseString source (c :: rest)) := by
  by_cases hc : c = 0x22
  · rw [hc, parseString_quote]
    exact builderLoop_finishes false rest []
  · unfold parseString
    rw [next_cons, parsed_bind]
    dsimp only
    rw [if_pos hc]
    exact finishes_raise _

theorem longLoop_finishes (rest : JString) (minus : Bool) (number : Int64) :
    Finishes rest.length (longLoop minus number rest) := by
  induction rest generalizing minus number with
  | nil => exact Nat.le_refl _
  | cons c rest ih =>
    unfold longLoop
    split_ifs
    · exact (ih _ _).mono (Nat.le_succ _)
    · exact finishes_raise _
    · exact (ih _ _).mono (Nat.le_succ _)
    · exact Nat.le_succ _
    · exact Nat.le_succ _
    · exact Nat.le_refl _

theorem doubleLoop_length (rest buffer : JString) : (doubleLoop buffer rest).2.length ≤ rest.length := by
  induction rest generalizing buffer with
  | nil => exact Nat.le_refl _
  | cons c rest ih =>
    unfold doubleLoop
    split_ifs
    · exact (ih _).trans (Nat.le_succ _)
    · exact Nat.le_refl _

theorem parseNumber_finishes (rest : JString) : Finishes rest.length (parseNumber rest) := by
  refine (longLoop_finishes rest false 0).bind fun n later hlater => ?_
  dsimp only
  split
  · exact finishes_ok hlater
  · exact finishes_lift _ fun _ _ => (doubleLoop_length later _).trans hlater

section

variable {classPath} {parse : JString → Except Stop (JObject × JString)} {limit : ℕ}

/-- with a char for each iteration, and a parser that finishes on the values -/
theorem objectLoop_finishes (hparse : ∀ rest : JString, rest.length ≤ limit → Finishes rest.length (parse rest)) (fuel : ℕ)
    (c : JChar) (map : List (JString × JObject)) (rest : JString) (hlimit : rest.length ≤ limit) (hfuel : rest.length < fuel) :
    Finishes rest.length (objectLoop classPath source parse fuel c map rest) := by
  induction fuel generalizing c map rest with
  | zero => exact absurd hfuel (Nat.not_lt_zero _)
  | succ fuel ih =>
    cases rest with
    | nil => exact finishes_lift _ fun _ _ => Nat.le_refl _
    | cons d rest =>
      rw [List.length_cons] at hlimit hfuel
      unfold objectLoop
      split_ifs with hc
      · exact finishes_lift _ fun _ _ => Nat.le_succ _
      · refine ((parseString_finishes d rest).bind fun _ rest₁ h₁ => ?_).mono (Nat.le_succ _)
        refine (seekTo_finishes _ rest₁).bind fun _ rest₂ h₂ => (next_finishes rest₂).bind fun _ rest₃ h₃ => ?_
        refine (hparse rest₃ (by omega)).bind fun _ rest₄ h₄ => (seekTo_finishes _ rest₄).bind fun _ rest₅ h₅ => ?_
        refine (next_finishes rest₅).bind fun e rest₆ h₆ => ?_
        dsimp only
        split_ifs
        · exact finishes_lift _ fun _ _ => (by omega : rest₆.length ≤ rest.length)
        · refine (seekTo_finishes _ rest₆).bind fun _ rest₇ h₇ => ?_
          exact (ih _ _ rest₇ (by omega) (by omega)).mono (by omega)

theorem parseObject_finishes (hparse : ∀ rest : JString, rest.length ≤ limit → Finishes rest.length (parse rest)) {fuel : ℕ}
    (c : JChar) (rest : JString) (hlimit : rest.length ≤ limit) (hfuel : rest.length < fuel) :
    Finishes rest.length (parseObject classPath source parse fuel (c :: rest)) := by
  unfold parseObject
  rw [next_cons, parsed_bind]
  dsimp only
  split_ifs
  · exact finishes_raise _
  · refine (seekTo_finishes _ rest).bind fun _ rest₁ h₁ => ?_
    exact (objectLoop_finishes hparse fuel _ [] rest₁ (by omega) (by omega)).mono h₁

/-- with a char or an item for each iteration -/
theorem arrayLoop_finishes (hparse : ∀ rest : JString, rest.length ≤ limit → Finishes rest.length (parse rest)) (fuel : ℕ)
    (coma : Bool) {items : Items} {list : List JObject} (hitems : items.Holds list) (rest : JString)
    (hlimit : rest.length ≤ limit) (hfuel : rest.length + (MAX_ITEMS - list.length) < fuel) :
    Finishes rest.length (arrayLoop parse fuel coma items rest) := by
  induction fuel generalizing coma items list rest with
  | zero => exact absurd hfuel (Nat.not_lt_zero _)
  | succ fuel ih =>
    cases rest with
    | nil => exact finishes_raise _
    | cons c rest =>
      rw [List.length_cons] at hfuel
      have hrest : rest.length ≤ limit := (Nat.le_succ _).trans hlimit
      unfold arrayLoop
      split_ifs
      · exact finishes_lift _ fun _ _ => Nat.le_succ _
      · exact finishes_raise _
      · exact (ih true hitems rest hrest (by omega)).mono (Nat.le_succ _)
      · exact (ih coma hitems rest hrest (by omega)).mono (Nat.le_succ _)
      · refine (hparse (c :: rest) hlimit).bind fun item later hlater => finishes_lift _ fun items' hput => ?_
        by_cases hroom : list.length < MAX_ITEMS
        · obtain ⟨items'', hok, hholds⟩ := hitems.put_ok hroom item
          cases hok.symm.trans hput
          refine (ih false hholds later (hlater.trans hlimit) ?_).mono hlater
          rw [List.length_append, List.length_singleton]
          rw [List.length_cons] at hlater
          omega
        · cases (hitems.put_full hroom item).symm.trans hput

theorem parseArray_finishes (hparse : ∀ rest : JString, rest.length ≤ limit → Finishes rest.length (parse rest)) {fuel : ℕ}
    (c : JChar) (rest : JString) (hlimit : rest.length ≤ limit) (hfuel : rest.length + MAX_ITEMS < fuel) :
    Finishes rest.length (parseArray source parse fuel (c :: rest)) := by
  unfold parseArray
  rw [next_cons, parsed_bind]
  dsimp only
  split_ifs
  · exact finishes_raise _
  · exact arrayLoop_finishes hparse fuel true .empty rest hlimit hfuel

/-- with parsers that finish on the containers in the text -/
theorem parseLoop_finishes {object array : JString → Except Stop (JObject × JString)}
    (hobject : ∀ (c : JChar) (rest : JString), rest.length < limit → Finishes rest.length (object (c :: rest)))
    (harray : ∀ (c : JChar) (rest : JString), rest.length < limit → Finishes rest.length (array (c :: rest)))
    (state : ℤ) (rest : JString) (hlimit : rest.length ≤ limit) :
    Finishes rest.length (parseLoop source object array state rest) := by
  induction rest generalizing state with
  | nil => exact Nat.le_refl _
  | cons c rest ih =>
    have hrest := Nat.lt_of_succ_le hlimit
    rw [parseLoop_cons]
    cases kindOf state c with
    | skipped state' => exact (ih state' hrest.le).mono (Nat.le_succ _)
    | object => exact (hobject c rest hrest).mono (Nat.le_succ _)
    | array => exact (harray c rest hrest).mono (Nat.le_succ _)
    | string => exact (parseString_finishes c rest).bind fun _ _ h => h.trans (Nat.le_succ _)
    | number => exact parseNumber_finishes _
    | literal v seek => exact complete_finishes seek _ v
    | unknown => exact finishes_raise _

theorem parseSource_finishes (classPath : ClassPath) (source : Source) (fuel : ℕ) (rest : JString)
    (hfuel : rest.length + MAX_ITEMS < fuel) :
    Finishes rest.length (parseSource classPath source fuel rest) := by
  induction fuel generalizing rest with
  | zero => exact absurd hfuel (Nat.not_lt_zero _)
  | succ fuel ih =>
    have hparse : ∀ later : JString, later.length ≤ rest.length - 1 →
        rest ≠ [] → Finishes later.length (parseSource classPath source fuel later) := fun later hlater hne =>
      ih later (by have hpos := List.length_pos_iff.2 hne; omega)
    unfold parseSource
    cases rest with
    | nil => exact Nat.le_refl _
    | cons d rest =>
      have hvalue := fun later hlater => hparse later hlater (List.cons_ne_nil d rest)
      rw [List.length_cons, Nat.add_sub_cancel] at hvalue
      rw [List.length_cons] at hfuel
      refine parseLoop_finishes (fun c later hlater => ?_) (fun c later hlater => ?_) 0 (d :: rest) (Nat.le_refl _)
      · exact parseObject_finishes hvalue c later (Nat.le_of_lt_succ hlater) (by simp only [List.length_cons] at hlater; omega)
      · exact parseArray_finishes hvalue c later (Nat.le_of_lt_succ hlater) (by simp only [List.length_cons] at hlater; omega)

end

/-- **There is fuel enough**: the parser returns or throws. -/
theorem parse_finishes (classPath : ClassPath) (source : Source) (s : JString) :
    parse classPath source s ≠ .error .unfinished := by
  have h := parseSource_finishes classPath source (enough s) s (Nat.lt_succ_self _)
  unfold parse
  cases hresult : parseSource classPath source (enough s) s with
  | ok p => nofun
  | error e =>
    rw [hresult] at h
    exact fun heq => h (Except.error.inj heq)

/-! ## Agreement -/

section

variable {α β : Type}

def Fails (x : Except Stop α) : Prop := ∃ e, x = .error e

/-- the string and the reader do the same, or both fail -/
def Same (x y : Except Stop α) : Prop := x = y ∨ Fails x ∧ Fails y

/-- or the string fails where the reader comes to its end -/
def Close (x y : Except Stop (α × JString)) : Prop := Same x y ∨ Fails x ∧ ∃ a, y = .ok (a, [])

theorem same_refl (x : Except Stop α) : Same x x := .inl rfl

theorem fails_raise (e : JavaException) : Fails (raise e : Except Stop α) := ⟨_, rfl⟩

theorem Fails.bind {x : Except Stop α} (h : Fails x) (k : α → Except Stop β) : Fails (x >>= k) := by
  obtain ⟨e, rfl⟩ := h
  exact ⟨e, rfl⟩

theorem fails_bind {x : Except Stop α} {k : α → Except Stop β} (h : ∀ a, x = .ok a → Fails (k a)) : Fails (x >>= k) := by
  cases x with
  | ok a => exact h a rfl
  | error e => exact ⟨e, rfl⟩

theorem Same.bind {x y : Except Stop α} {k k' : α → Except Stop β} (h : Same x y) (hk : ∀ a, x = .ok a → Same (k a) (k' a)) :
    Same (x >>= k) (y >>= k') := by
  rcases h with rfl | ⟨hx, hy⟩
  · cases x with
    | ok a => exact hk a rfl
    | error e => exact same_refl _
  · exact .inr ⟨hx.bind k, hy.bind k'⟩

theorem same_bind {x : Except Stop α} {k k' : α → Except Stop β} (hk : ∀ a, x = .ok a → Same (k a) (k' a)) :
    Same (x >>= k) (x >>= k') := (same_refl x).bind hk

/-- what comes next fails at the end of the reader -/
theorem Close.bind {x y : Except Stop (α × JString)} {k k' : α × JString → Except Stop β} (h : Close x y)
    (hend : ∀ a, Fails (k' (a, []))) (hk : ∀ p, Same (k p) (k' p)) : Same (x >>= k) (y >>= k') := by
  rcases h with h | ⟨hx, a, rfl⟩
  · exact h.bind fun p _ => hk p
  · exact .inr ⟨hx.bind k, hend a⟩

end

/-! ### Strings -/

/-- a string without its end, after a backslash or not, that is broken off in a unicode escape -/
inductive Unclosed : Bool → JString → Prop where
  | broken {few : JString} : few.length < 4 → Unclosed true (0x75 :: few)
  | unicode {a b c d : JChar} {rest : JString} : Unclosed false rest → Unclosed true (0x75 :: a :: b :: c :: d :: rest)
  | escaped {c : JChar} {rest : JString} : c ≠ 0x75 → Unclosed false rest → Unclosed true (c :: rest)
  | backslash {rest : JString} : Unclosed true rest → Unclosed false (0x5C :: rest)
  | char {c : JChar} {rest : JString} : c ≠ 0x5C → c ≠ 0x22 → Unclosed false rest → Unclosed false (c :: rest)

theorem few_or_four (rest : JString) : rest.length < 4 ∨ ∃ a b c d later, rest = a :: b :: c :: d :: later :=
  match rest with
  | [] | [_] | [_, _] | [_, _, _] => .inl (by simp)
  | a :: b :: c :: d :: later => .inr ⟨a, b, c, d, later, rfl⟩

theorem unicode_few (s : JString) {few : JString} (h : few.length < 4) :
    Fails (unicode (stringSource s) few) ∧ ∃ uc, unicode readerSource few = .ok (uc, []) :=
  match few, h with
  | [], _ | [_], _ | [_, _], _ | [_, _, _], _ => ⟨⟨_, rfl⟩, _, rfl⟩
  | _ :: _ :: _ :: _ :: _, h => absurd h (by simp)

theorem builderLoop_unclosed (s : JString) {escape : Bool} {rest : JString} (h : Unclosed escape rest) (builder : JString) :
    Fails (builderLoop (stringSource s) escape rest builder) ∧
      ∃ text, builderLoop readerSource escape rest builder = .ok (text, []) := by
  induction h generalizing builder with
  | broken hfew =>
    obtain ⟨hstring, uc, hreader⟩ := unicode_few s hfew
    rw [builderLoop_unicode, builderLoop_unicode, hreader, parsed_bind, builderLoop_nil]
    exact ⟨hstring.bind _, _, rfl⟩
  | unicode _ ih =>
    rw [builderLoop_unicode, builderLoop_unicode]
    exact ih _
  | escaped hc _ ih =>
    rw [builderLoop_escape hc, builderLoop_escape hc]
    exact ih _
  | backslash _ ih =>
    rw [builderLoop_backslash, builderLoop_backslash]
    exact ih _
  | char hslash hquote _ ih =>
    rw [builderLoop_char hslash hquote, builderLoop_char hslash hquote]
    exact ih _

/-- **A string that is not broken off in an escape** is read alike. -/
theorem builderLoop_closed (s : JString) {escape : Bool} {rest : JString} (h : ¬ Unclosed escape rest) (builder : JString) :
    builderLoop (stringSource s) escape rest builder = builderLoop readerSource escape rest builder := by
  fun_induction builderLoop (stringSource s) escape rest builder with
  | case1 escape builder => rw [builderLoop_nil]
  | case2 builder rest uc later hunicode ih =>
    rcases few_or_four rest with hfew | ⟨a, b, c, d, later, rfl⟩
    · exact absurd (.broken hfew) h
    · cases hunicode
      rw [builderLoop_unicode]
      exact ih fun hlater => h (.unicode hlater)
  | case3 builder rest e hunicode =>
    rcases few_or_four rest with hfew | ⟨a, b, c, d, later, rfl⟩
    · exact absurd (.broken hfew) h
    · cases hunicode
  | case4 builder c rest hc ih =>
    rw [builderLoop_escape hc]
    exact ih fun hrest => h (.escaped hc hrest)
  | case5 escape builder rest hescape ih =>
    rw [Bool.not_eq_true] at hescape
    subst hescape
    rw [builderLoop_backslash]
    exact ih fun hrest => h (.backslash hrest)
  | case6 escape builder rest hescape hslash =>
    rw [Bool.not_eq_true] at hescape
    rw [hescape, builderLoop_quote]
  | case7 escape builder c rest hescape hslash hquote ih =>
    rw [Bool.not_eq_true] at hescape
    subst hescape
    rw [builderLoop_char hslash hquote]
    exact ih fun hrest => h (.char hslash hquote hrest)

theorem parseString_other {c : JChar} (h : c ≠ 0x22) (rest : JString) : parseString source (c :: rest) = raise .illegalState := by
  unfold parseString
  rw [next_cons, parsed_bind]
  exact if_pos h

theorem parseString_close (s : JString) (c : JChar) (rest : JString) :
    Close (parseString (stringSource s) (c :: rest)) (parseString readerSource (c :: rest)) := by
  by_cases hc : c = 0x22
  · rw [hc, parseString_quote, parseString_quote]
    by_cases h : Unclosed false rest
    · exact .inr (builderLoop_unclosed s h [])
    · exact .inl (.inl (builderLoop_closed s h []))
  · rw [parseString_other hc, parseString_other hc]
    exact .inl (same_refl _)

/-! ### Containers -/

theorem seekTo_nil (seek : JString) : Fails (seekTo seek []) := fails_raise _

/-- what was sought is there -/
theorem seekTo_ok {seek rest later : JString} {c : JChar} (h : seekTo seek rest = .ok (c, later)) :
    ∃ rest', later = c :: rest' := by
  induction rest with
  | nil => cases h
  | cons d rest ih =>
    unfold seekTo at h
    split_ifs at h
    · cases h
      exact ⟨rest, rfl⟩
    · cases h
    · exact ih h

section

variable {classPath : ClassPath} {s : JString} {values values' : JString → Except Stop (JObject × JString)}

theorem objectLoop_same (hvalues : ∀ rest, Close (values rest) (values' rest)) (fuel : ℕ) (c : JChar)
    (map : List (JString × JObject)) (rest : JString) :
    Same (objectLoop classPath (stringSource s) values fuel c map rest)
      (objectLoop classPath readerSource values' fuel c map rest) := by
  induction fuel generalizing c map rest with
  | zero => exact same_refl _
  | succ fuel ih =>
    cases rest with
    | nil => exact same_refl _
    | cons d rest =>
      unfold objectLoop
      by_cases hc : c = 0x7D
      · rw [if_pos hc, if_pos hc]
        exact same_refl _
      rw [if_neg hc, if_neg hc]
      refine (parseString_close s d rest).bind (fun name => (seekTo_nil _).bind _) fun ⟨name, rest₁⟩ => ?_
      refine same_bind fun ⟨colon, rest₂⟩ hcolon => ?_
      obtain ⟨rest₃, rfl⟩ := seekTo_ok hcolon
      dsimp only
      rw [next_cons, next_cons, parsed_bind, parsed_bind]
      refine (hvalues rest₃).bind (fun value => (seekTo_nil _).bind _) fun ⟨value, rest₄⟩ => ?_
      refine same_bind fun ⟨comma, rest₅⟩ hcomma => ?_
      obtain ⟨rest₆, rfl⟩ := seekTo_ok hcomma
      dsimp only
      rw [next_cons, next_cons, parsed_bind, parsed_bind]
      dsimp only
      by_cases hcomma : comma = 0x7D
      · rw [if_pos hcomma, if_pos hcomma]
        exact same_refl _
      rw [if_neg hcomma, if_neg hcomma]
      exact same_bind fun ⟨c', rest₇⟩ _ => ih c' _ rest₇

theorem parseObject_same (hvalues : ∀ rest, Close (values rest) (values' rest)) (fuel : ℕ) (c : JChar) (rest : JString) :
    Same (parseObject classPath (stringSource s) values fuel (c :: rest))
      (parseObject classPath readerSource values' fuel (c :: rest)) := by
  unfold parseObject
  rw [next_cons, next_cons, parsed_bind, parsed_bind]
  dsimp only
  by_cases hc : c ≠ 0x7B
  · rw [if_pos hc, if_pos hc]
    exact same_refl _
  rw [if_neg hc, if_neg hc]
  exact same_bind fun ⟨c', rest'⟩ _ => objectLoop_same hvalues fuel c' [] rest'

theorem arrayLoop_nil (values : JString → Except Stop (JObject × JString)) (fuel : ℕ) (coma : Bool) (items : Items) :
    Fails (arrayLoop values fuel coma items []) := by
  cases fuel with
  | zero => exact ⟨_, rfl⟩
  | succ fuel => exact fails_raise _

theorem arrayLoop_same (hvalues : ∀ rest, Close (values rest) (values' rest)) (fuel : ℕ) (coma : Bool) (items : Items)
    (rest : JString) : Same (arrayLoop values fuel coma items rest) (arrayLoop values' fuel coma items rest) := by
  induction fuel generalizing coma items rest with
  | zero => exact same_refl _
  | succ fuel ih =>
    cases rest with
    | nil => exact same_refl _
    | cons c rest =>
      unfold arrayLoop
      by_cases hclose : c = 0x5D
      · rw [if_pos hclose, if_pos hclose]
        exact same_refl _
      rw [if_neg hclose, if_neg hclose]
      by_cases hcomma : c = 0x2C
      · rw [if_pos hcomma, if_pos hcomma]
        cases coma with
        | true => exact same_refl _
        | false => exact ih true items rest
      rw [if_neg hcomma, if_neg hcomma]
      by_cases hwhite : isWhitespace c = true
      · rw [if_pos hwhite, if_pos hwhite]
        exact ih coma items rest
      rw [if_neg hwhite, if_neg hwhite]
      refine (hvalues (c :: rest)).bind (fun item => fails_bind fun items' _ => arrayLoop_nil values' fuel false items') ?_
      rintro ⟨item, later⟩
      exact same_bind fun items' _ => ih false items' later

theorem parseArray_same (hvalues : ∀ rest, Close (values rest) (values' rest)) (fuel : ℕ) (c : JChar) (rest : JString) :
    Same (parseArray (stringSource s) values fuel (c :: rest)) (parseArray readerSource values' fuel (c :: rest)) := by
  unfold parseArray
  rw [next_cons, next_cons, parsed_bind, parsed_bind]
  dsimp only
  by_cases hc : c ≠ 0x5B
  · rw [if_pos hc, if_pos hc]
    exact same_refl _
  rw [if_neg hc, if_neg hc]
  exact arrayLoop_same hvalues fuel true _ rest

end

/-! ### The text -/

/-- after white space and comments, or in a comment: a string that is broken off in a unicode escape -/
inductive BrokenOff : ℤ → JString → Prop where
  | string {rest : JString} : Unclosed false rest → BrokenOff 0 (0x22 :: rest)
  | skipped {state state' : ℤ} {c : JChar} {rest : JString} : kindOf state c = .skipped state' → BrokenOff state' rest →
      BrokenOff state (c :: rest)

section

variable {s : JString} {object object' array array' : JString → Except Stop (JObject × JString)}

theorem parseLoop_broken {state : ℤ} {rest : JString} (h : BrokenOff state rest) :
    Fails (parseLoop (stringSource s) object array state rest) ∧
      ∃ v, parseLoop readerSource object' array' state rest = .ok (v, []) := by
  induction h with
  | string hrest =>
    obtain ⟨hstring, text, hreader⟩ := builderLoop_unclosed s hrest []
    have hkind : kindOf 0 0x22 = .string := rfl
    rw [parseLoop_cons, parseLoop_cons, hkind]
    dsimp only [Kind.run]
    rw [parseString_quote, parseString_quote, hreader]
    exact ⟨hstring.bind _, _, rfl⟩
  | skipped hkind _ ih =>
    rw [parseLoop_cons, parseLoop_cons, hkind]
    exact ih

def isString : Kind → Bool
  | .string => true
  | _ => false

theorem kindOf_string {state : ℤ} {c : JChar} (h : kindOf state c = .string) : state = 0 ∧ c = 0x22 := by
  replace h := congrArg isString h
  by_cases hstate : state ≠ 0
  · rw [kindOf, if_pos hstate] at h
    cases h
  by_cases hquote : c = 0x22
  · exact ⟨not_not.1 hstate, hquote⟩
  · rw [kindOf, if_neg hstate, if_neg hquote] at h
    simp only [apply_ite isString] at h
    simp only [isString, ite_self] at h
    cases h

/-- **Any other text** is read alike, if its containers are. -/
theorem parseLoop_same (hobject : ∀ c rest, Same (object (c :: rest)) (object' (c :: rest)))
    (harray : ∀ c rest, Same (array (c :: rest)) (array' (c :: rest))) {state : ℤ} {rest : JString} (h : ¬ BrokenOff state rest) :
    Same (parseLoop (stringSource s) object array state rest) (parseLoop readerSource object' array' state rest) := by
  induction rest generalizing state with
  | nil => exact same_refl _
  | cons c rest ih =>
    rw [parseLoop_cons, parseLoop_cons]
    cases hkind : kindOf state c with
    | skipped state' => exact ih fun hrest => h (.skipped hkind hrest)
    | object => exact hobject c rest
    | array => exact harray c rest
    | string =>
      obtain ⟨rfl, rfl⟩ := kindOf_string hkind
      dsimp only [Kind.run]
      rw [parseString_quote, parseString_quote, builderLoop_closed s fun hrest => h (.string hrest)]
      exact same_refl _
    | number => exact same_refl _
    | literal v seek => exact same_refl _
    | unknown => exact same_refl _

end

theorem parseSource_close (classPath : ClassPath) (s : JString) (fuel : ℕ) (rest : JString) :
    Close (parseSource classPath (stringSource s) fuel rest) (parseSource classPath readerSource fuel rest) := by
  induction fuel generalizing rest with
  | zero => exact .inl (same_refl _)
  | succ fuel ih =>
    unfold parseSource
    by_cases h : BrokenOff 0 rest
    · exact .inr (parseLoop_broken h)
    · exact .inl (parseLoop_same (parseObject_same ih fuel) (parseArray_same ih fuel) h)

/-- both return the same value, or both throw -/
def Agree (classPath : ClassPath) (s : JString) : Prop :=
  (∃ v, parse classPath (stringSource s) s = .ok v ∧ parse classPath readerSource s = .ok v) ∨
    ∃ e e', parse classPath (stringSource s) s = .error (.thrown e) ∧ parse classPath readerSource s = .error (.thrown e')

/-- the values in the text are parsed with one unit of fuel less -/
theorem parse_eq (classPath : ClassPath) (source : Source) (s : JString) : parse classPath source s =
    (parseLoop source (parseObject classPath source (parseSource classPath source (s.length + MAX_ITEMS)) (s.length + MAX_ITEMS))
      (parseArray source (parseSource classPath source (s.length + MAX_ITEMS)) (s.length + MAX_ITEMS)) 0 s).map Prod.fst := by
  unfold parse enough
  rw [parseSource]
  generalize parseLoop source _ _ 0 s = result
  cases result with
  | ok p => rfl
  | error e => rfl

theorem Fails.map {α β : Type} {x : Except Stop α} (h : Fails x) (f : α → β) : Fails (x.map f) := by
  obtain ⟨e, rfl⟩ := h
  exact ⟨e, rfl⟩

/-- a parser that fails throws -/
theorem Fails.thrown {classPath : ClassPath} {s : JString} (h : Fails (parse classPath source s)) :
    ∃ e, parse classPath source s = .error (.thrown e) := by
  obtain ⟨e, he⟩ := h
  cases e with
  | thrown e => exact ⟨e, he⟩
  | unfinished => exact absurd he (parse_finishes classPath source s)

theorem Same.map {α β : Type} {x y : Except Stop α} (h : Same x y) (f : α → β) : Same (x.map f) (y.map f) := by
  rcases h with rfl | ⟨hx, hy⟩
  · exact same_refl _
  · exact .inr ⟨hx.map f, hy.map f⟩

theorem parse_broken (classPath : ClassPath) {s : JString} (h : BrokenOff 0 s) :
    Fails (parse classPath (stringSource s) s) ∧ ∃ v, parse classPath readerSource s = .ok v := by
  rw [parse_eq, parse_eq]
  obtain ⟨hfails, v, hok⟩ := parseLoop_broken (s := s) h
  exact ⟨Fails.map hfails Prod.fst, v, congrArg (Except.map Prod.fst) hok⟩

theorem parse_same (classPath : ClassPath) {s : JString} (h : ¬ BrokenOff 0 s) :
    Same (parse classPath (stringSource s) s) (parse classPath readerSource s) := by
  have hvalues := parseSource_close classPath s (s.length + MAX_ITEMS)
  rw [parse_eq, parse_eq]
  exact (parseLoop_same (parseObject_same hvalues _) (parseArray_same hvalues _) h).map Prod.fst

theorem not_agree (classPath : ClassPath) {s : JString} (hbroken : BrokenOff 0 s) : ¬ Agree classPath s := by
  intro hagree
  obtain ⟨⟨e, hthrows⟩, v, hreturns⟩ := parse_broken classPath hbroken
  rcases hagree with ⟨w, hw, -⟩ | ⟨e, e', -, he'⟩
  · cases hthrows.symm.trans hw
  · cases hreturns.symm.trans he'

/-- **The two sources agree** exactly if the text is not a string that is broken off in a unicode escape. -/
theorem agree_iff (classPath : ClassPath) (s : JString) : Agree classPath s ↔ ¬ BrokenOff 0 s := by
  constructor
  · exact fun hagree hbroken => not_agree classPath hbroken hagree
  · intro h
    rcases parse_same classPath h with heq | ⟨hstring, hreader⟩
    · cases hresult : parse classPath readerSource s with
      | ok v => exact .inl ⟨v, heq.trans hresult, hresult⟩
      | error e =>
        obtain ⟨e', he'⟩ := Fails.thrown ⟨e, hresult⟩
        exact .inr ⟨e', e', heq.trans he', he'⟩
    · obtain ⟨e, he⟩ := hstring.thrown
      obtain ⟨e', he'⟩ := hreader.thrown
      exact .inr ⟨e, e', he, he'⟩

/-- the text `"ab\u12`, without any class that it could name -/
theorem broken_off_disagree : ¬ Agree ⟨fun _ => .notFound, fun _ _ => .ok ()⟩ (str "\"ab\\u12") := by
  have hunclosed : Unclosed false (str "ab\\u12") :=
    .char (by decide) (by decide) (.char (by decide) (by decide) (.backslash (.broken (by decide))))
  exact not_agree _ (.string hunclosed)

end SocketIOJava.JsonSources
