/-
`JSON.parse` of what `JSON.toString` wrote.

- `parse_append`: the text of a value is read as the value, up to the special meaning of the key `class`, and whatever comes
  behind it is left.
- `returned_iff`: a value comes back exactly if under `class` its maps have nothing, null, or a string that names no
  `Convertible` and that `loadClass` takes without an exception other than `ClassNotFoundException`.
-/
import SocketIOJava.JsonNumber

namespace SocketIOJava.JsonRoundTrip

open SocketIOJava.Text SocketIOJava.JsonAppend SocketIOJava.JsonParse SocketIOJava.JsonNumber

/-! ## Values -/

mutual

/-- the value as the parser would build it, an array for a collection -/
def toObject : Value → JObject
  | .null => .null
  | .boolean b => .boolean b
  | .long n => .long n
  | .string s => .string s
  | .array items => .array (toObjects items)
  | .map entries => .map (toEntries entries)

def toObjects : List Value → List JObject
  | [] => []
  | v :: vs => toObject v :: toObjects vs

def toEntries : List (JString × Value) → List (JString × JObject)
  | [] => []
  | (key, v) :: entries => (key, toObject v) :: toEntries entries

end

mutual

/-- the keys of a map differ, and arrays are no longer than Java's -/
def Valid : Value → Prop
  | .array items => items.length ≤ MAX_ITEMS ∧ AllValid items
  | .map entries => (entries.map Prod.fst).Nodup ∧ EntriesValid entries
  | _ => True

def AllValid : List Value → Prop
  | [] => True
  | v :: vs => Valid v ∧ AllValid vs

def EntriesValid : List (JString × Value) → Prop
  | [] => True
  | (_, v) :: entries => Valid v ∧ EntriesValid entries

end

/-- a value of Java -/
structure JavaValue where
  value : Value
  valid : Valid value

section

variable (classPath : ClassPath)

/-- a name that `parseObject` takes for no class that it would build -/
def Harmless (name : JString) : Prop := classPath.loadClass name = .notFound ∨ classPath.loadClass name = .plain

instance : DecidablePred (Harmless classPath) := fun name =>
  inferInstanceAs (Decidable (classPath.loadClass name = .notFound ∨ classPath.loadClass name = .plain))

/-- what stands under `class` in a map is not taken for anything else -/
def ClassLoads (entries : List (JString × Value)) : Prop :=
  match entries.lookup (str "class") with
  | none | some .null => True
  | some (.string name) => Harmless classPath name
  | some _ => False

mutual

/-- in every map of the value -/
def Loads : Value → Prop
  | .array items => AllLoad items
  | .map entries => ClassLoads classPath entries ∧ EntriesLoad entries
  | _ => True

def AllLoad : List Value → Prop
  | [] => True
  | v :: vs => Loads v ∧ AllLoad vs

def EntriesLoad : List (JString × Value) → Prop
  | [] => True
  | (_, v) :: entries => Loads v ∧ EntriesLoad entries

end

mutual

/-- what the parser makes of a value -/
def reread : Value → Except JavaException JObject
  | .null => .ok .null
  | .boolean b => .ok (.boolean b)
  | .long n => .ok (.long n)
  | .string s => .ok (.string s)
  | .array items => do return .array (← rereadItems items)
  | .map entries => do finishObject classPath (← rereadEntries entries)

def rereadItems : List Value → Except JavaException (List JObject)
  | [] => .ok []
  | v :: vs => do return (← reread v) :: (← rereadItems vs)

def rereadEntries : List (JString × Value) → Except JavaException (List (JString × JObject))
  | [] => .ok []
  | (key, v) :: entries => do return (key, ← reread v) :: (← rereadEntries entries)

end

end

/-! ## Strings and numbers -/

section

variable {source : Source}

/-- a control character is written as one char after a backslash, or by number -/
theorem quoteChar_control {c : JChar} (h : c < 0x20) :
    (∃ d, quoteChar c = [0x5C, d] ∧ d ≠ 0x75 ∧ unescape d = c) ∨
      ∃ a b x y, quoteChar c = [0x5C, 0x75, a, b, x, y] ∧
        UInt16.ofNat (convertHexDigit a * 2 ^ 12 + convertHexDigit b * 2 ^ 8 + convertHexDigit x * 2 ^ 4 +
          convertHexDigit y) = c := by
  obtain ⟨n, hn, rfl⟩ := control_cases h
  interval_cases n <;> first
    | exact .inl ⟨_, rfl, by decide, by decide⟩
    | exact .inr ⟨_, _, _, _, rfl, by decide⟩

/-- **What `quote` writes for a char** is read as that char. -/
theorem builderLoop_quoteChar (c : JChar) (rest builder : JString) :
    builderLoop source false (quoteChar c ++ rest) builder = builderLoop source false rest (builder ++ [c]) := by
  by_cases hplain : Plain c
  · rw [quoteChar_plain hplain]
    exact builderLoop_char hplain.2.1 hplain.1 rest builder
  by_cases hquote : c = 0x22
  · subst hquote
    exact (builderLoop_backslash _ _).trans (builderLoop_escape (by decide) rest builder)
  by_cases hslash : c = 0x5C
  · subst hslash
    exact (builderLoop_backslash _ _).trans (builderLoop_escape (by decide) rest builder)
  have hcontrol : c < 0x20 := UInt16.not_le.1 fun hle => hplain ⟨hquote, hslash, hle⟩
  rcases quoteChar_control hcontrol with ⟨d, hd, hne, hc⟩ | ⟨a, b, x, y, hd, hc⟩
  · rw [hd]
    refine (builderLoop_backslash _ _).trans ((builderLoop_escape hne rest builder).trans ?_)
    rw [hc]
  · rw [hd]
    refine (builderLoop_backslash _ _).trans ((builderLoop_unicode _ builder).trans ?_)
    change builderLoop source false rest (builder ++ [UInt16.ofNat _]) = _
    rw [hc]

theorem builderLoop_quoted (s rest builder : JString) :
    builderLoop source false (s.flatMap quoteChar ++ 0x22 :: rest) builder = .ok (builder ++ s, rest) := by
  induction s generalizing builder with
  | nil => rw [List.flatMap_nil, List.nil_append, builderLoop_quote, List.append_nil]
  | cons c s ih => rw [List.flatMap_cons, List.append_assoc, builderLoop_quoteChar, ih, List.append_assoc, List.singleton_append]

theorem quote_append (s rest : JString) : quote s ++ rest = 0x22 :: (s.flatMap quoteChar ++ 0x22 :: rest) := by
  unfold quote
  rw [List.append_assoc, List.append_assoc]
  rfl

/-- **A quoted string is read as the string.** -/
theorem parseString_quoted (s rest : JString) : parseString source (quote s ++ rest) = .ok (s, rest) := by
  rw [quote_append, parseString_quote, builderLoop_quoted, List.nil_append]

end

theorem digitChar_digit (d : ℕ) (h : d < 10) : IsDecimalDigit (UInt16.ofNat d.digitChar.toNat) ∧
    (UInt16.ofNat d.digitChar.toNat).toNat - 0x30 = d := by
  interval_cases d <;> decide

theorem valueFrom_append (value : ℕ) (s t : JString) : valueFrom value (s ++ t) = valueFrom (valueFrom value s) t :=
  List.foldl_append

theorem intToString_digits (n : ℕ) : (∀ c ∈ intToString n, IsDecimalDigit c) ∧ valueFrom 0 (intToString n) = n := by
  induction n using Nat.strong_induction_on with
  | _ n ih =>
    unfold intToString at ih ⊢
    by_cases hn : n < 10
    · obtain ⟨hdigit, hvalue⟩ := digitChar_digit n hn
      rw [Nat.toDigits_of_lt_base hn, List.map_singleton]
      refine ⟨fun c hc => ?_, ?_⟩
      · rw [List.mem_singleton.1 hc]
        exact hdigit
      · change 0 * 10 + _ = n
        rw [hvalue, Nat.zero_mul, Nat.zero_add]
    · obtain ⟨hdigits, hvalue⟩ := ih (n / 10) (by omega)
      obtain ⟨hdigit, hlast⟩ := digitChar_digit (n % 10) (by omega)
      rw [Nat.toDigits_of_base_le (by decide) (by omega), List.map_append, List.map_singleton]
      refine ⟨fun c hc => ?_, ?_⟩
      · rcases List.mem_append.1 hc with hc | hc
        · exact hdigits c hc
        · rw [List.mem_singleton.1 hc]
          exact hdigit
      · rw [valueFrom_append, hvalue]
        change n / 10 * 10 + _ = n
        rw [hlast]
        omega

theorem denotes_numberToString (n : ℤ) : Denotes (numberToString n) n := by
  obtain ⟨hdigits, hvalue⟩ := intToString_digits n.natAbs
  unfold numberToString
  by_cases hn : n < 0
  · have hminus := Denotes.minus (intToString_ne_nil n.natAbs) hdigits
    rw [hvalue, show -(n.natAbs : ℤ) = n by omega] at hminus
    rw [if_pos hn]
    exact hminus
  · have hplain := Denotes.digits (intToString_ne_nil n.natAbs) hdigits
    rw [hvalue, show (n.natAbs : ℤ) = n by omega] at hplain
    rw [if_neg hn]
    exact hplain

/-- the chars behind a value do not continue a number -/
def Ends (rest : JString) : Prop := ∀ c later, rest = c :: later → ¬ NumberChar c

theorem ends_nil : Ends [] := nofun

theorem ends_cons {c : JChar} (h : ¬ NumberChar c) (rest : JString) : Ends (c :: rest) := by
  rintro d later heq
  cases heq
  exact h

theorem Denotes.numberChar {s : JString} {n : ℤ} (h : Denotes s n) : ∀ c ∈ s, NumberChar c := by
  cases h with
  | digits _ hs => exact fun c hc => .inl (hs c hc)
  | minus _ hs => exact List.forall_mem_cons.2 ⟨by decide, fun c hc => .inl (hs c hc)⟩

/-- **A printed number is read as the number.** -/
theorem parseNumber_printed (n : Int64) {rest : JString} (h : Ends rest) :
    parseNumber (numberToString n.toInt ++ rest) = .ok (.long n, rest) := by
  have hdenotes := denotes_numberToString n.toInt
  have hnumeral : numeral (numberToString n.toInt ++ rest) = numberToString n.toInt := by
    unfold numeral
    rw [List.takeWhile_append_of_pos fun c hc => decide_eq_true (Denotes.numberChar hdenotes c hc)]
    cases rest with
    | nil => exact List.append_nil _
    | cons c later =>
      have hstop : (c :: later).takeWhile (fun c => NumberChar c) = [] := numeral_stop (h c later rfl) later
      rw [hstop, List.append_nil]
  rw [← hnumeral] at hdenotes
  rw [parseNumber_denoted hdenotes, hnumeral, List.drop_left, Int64.ofInt_toInt]

/-! ## Containers -/

/-- the first char of a value: it stops no list, and is not skipped -/
def Opens (c : JChar) : Prop := c ≠ 0x5D ∧ c ≠ 0x2C ∧ isWhitespace c = false

instance : DecidablePred Opens := fun c => inferInstanceAs (Decidable (c ≠ 0x5D ∧ c ≠ 0x2C ∧ isWhitespace c = false))

theorem digit_opens {c : JChar} (h : IsDecimalDigit c) : Opens c ∧ kindOf 0 c = .number := by
  obtain ⟨n, hlow, hhigh, rfl⟩ : ∃ n, 48 ≤ n ∧ n ≤ 57 ∧ c = UInt16.ofNat n :=
    ⟨c.toNat, UInt16.le_iff_toNat_le.1 h.1, UInt16.le_iff_toNat_le.1 h.2, UInt16.ofNat_toNat.symm⟩
  interval_cases n <;> exact ⟨by decide, rfl⟩

theorem numberToString_opens (n : ℤ) : ∃ c t, numberToString n = c :: t ∧ Opens c ∧ kindOf 0 c = .number := by
  have hdenotes := denotes_numberToString n
  generalize numberToString n = text at hdenotes ⊢
  cases hdenotes with
  | digits hne hdigits =>
    obtain ⟨c, t, rfl⟩ := List.exists_cons_of_ne_nil hne
    exact ⟨c, t, rfl, digit_opens (hdigits c List.mem_cons_self)⟩
  | minus _ _ => exact ⟨_, _, rfl, by decide, rfl⟩

theorem append_opens (v : Value) : ∃ c t, append v = c :: t ∧ Opens c := by
  cases v with
  | null => exact ⟨_, _, rfl, by decide⟩
  | boolean b => cases b <;> exact ⟨_, _, rfl, by decide⟩
  | long n =>
    obtain ⟨c, t, htext, hopens, -⟩ := numberToString_opens n.toInt
    exact ⟨c, t, htext, hopens⟩
  | string s => exact ⟨_, _, rfl, by decide⟩
  | array items => exact ⟨_, _, rfl, by decide⟩
  | map entries => exact ⟨_, _, rfl, by decide⟩

theorem append_ne_nil (v : Value) : 0 < (append v).length := by
  obtain ⟨c, t, htext, -⟩ := append_opens v
  rw [htext]
  exact Nat.succ_pos _

section

variable {classPath : ClassPath} {source : Source} {values : JString → Except Stop (JObject × JString)}

/-- a parser reads the text of this value -/
def Reads (classPath : ClassPath) (values : JString → Except Stop (JObject × JString)) (v : Value) : Prop :=
  ∀ rest, Ends rest → values (append v ++ rest) = (lift (reread classPath v) >>= fun o => .ok (o, rest))

theorem arrayLoop_item (v : Value) (fuel : ℕ) (coma : Bool) (items : Items) (rest : JString) :
    arrayLoop values (fuel + 1) coma items (append v ++ rest) =
      (values (append v ++ rest) >>= fun p => lift (items.put p.1) >>= fun items => arrayLoop values fuel false items p.2) := by
  obtain ⟨c, t, htext, hclose, hcomma, hwhite⟩ := append_opens v
  rw [htext, List.cons_append, arrayLoop, if_neg hclose, if_neg hcomma, if_neg (by rw [hwhite]; exact Bool.false_ne_true)]

theorem arrayLoop_comma (fuel : ℕ) (items : Items) (rest : JString) :
    arrayLoop values (fuel + 1) false items (0x2C :: rest) = arrayLoop values fuel true items rest := rfl

theorem arrayLoop_close (fuel : ℕ) (coma : Bool) {items : Items} {list : List JObject} (h : items.Holds list) (rest : JString) :
    arrayLoop values (fuel + 1) coma items (0x5D :: rest) = .ok (.array list, rest) := by
  rw [arrayLoop, if_pos rfl, h.toArray]
  rfl

theorem appendItems_cons (v w : Value) (vs : List Value) :
    appendItems (v :: w :: vs) = append v ++ 0x2C :: appendItems (w :: vs) := by
  rw [appendItems, List.append_assoc]
  · rfl
  · nofun

/-- **The items of an array are read** behind those that were. -/
theorem arrayLoop_items {vs : List Value} (hne : vs ≠ []) (hreads : ∀ v ∈ vs, Reads classPath values v) (fuel : ℕ)
    (hfuel : (appendItems vs).length < fuel) (coma : Bool) {items : Items} {list : List JObject} (hitems : items.Holds list)
    (hroom : list.length + vs.length ≤ MAX_ITEMS) (rest : JString) :
    arrayLoop values fuel coma items (appendItems vs ++ 0x5D :: rest) =
      (lift (rereadItems classPath vs) >>= fun read => .ok (.array (list ++ read), rest)) := by
  induction vs generalizing fuel coma items list with
  | nil => exact absurd rfl hne
  | cons v vs ih =>
    have hv := hreads v List.mem_cons_self
    have hpos := append_ne_nil v
    rw [List.length_cons] at hroom
    rw [rereadItems]
    cases vs with
    | nil =>
      change (append v).length < fuel at hfuel
      obtain ⟨fuel, rfl⟩ := Nat.exists_eq_add_of_le' (show 2 ≤ fuel by omega)
      change arrayLoop values (fuel + 1 + 1) coma items (append v ++ 0x5D :: rest) = _
      rw [arrayLoop_item, hv _ (ends_cons (by decide) rest)]
      cases hread : reread classPath v with
      | error e => rfl
      | ok o =>
        obtain ⟨items', hput, hholds⟩ := hitems.put_ok (by omega) o
        simp only [lift, parsed_bind, hput, arrayLoop_close fuel false hholds rest]
        rfl
    | cons w vs =>
      rw [appendItems_cons, List.length_append, List.length_cons] at hfuel
      obtain ⟨fuel, rfl⟩ := Nat.exists_eq_add_of_le' (show 2 ≤ fuel by omega)
      rw [appendItems_cons, List.append_assoc, List.cons_append, arrayLoop_item, hv _ (ends_cons (by decide) _)]
      cases hread : reread classPath v with
      | error e => rfl
      | ok o =>
        obtain ⟨items', hput, hholds⟩ := hitems.put_ok (by omega) o
        have hnext := ih (List.cons_ne_nil w vs) (fun u hu => hreads u (List.mem_cons_of_mem v hu)) fuel (by omega) true
          hholds (by rw [List.length_append, List.length_singleton]; omega)
        simp only [lift, parsed_bind, hput, arrayLoop_comma, hnext]
        cases rereadItems classPath (w :: vs) with
        | error e => rfl
        | ok read =>
          change Except.ok (JObject.array (list ++ [o] ++ read), rest) = .ok (.array (list ++ o :: read), rest)
          rw [List.append_assoc, List.singleton_append]

theorem put_fresh {name : JString} {map : List (JString × JObject)} (h : name ∉ map.map Prod.fst) (value : JObject) :
    put name value map = map ++ [(name, value)] := by
  induction map with
  | nil => rfl
  | cons entry map ih =>
    rw [List.map_cons, List.mem_cons, not_or] at h
    rw [put, if_neg (Ne.symm h.1), ih h.2, List.cons_append]

theorem seekTo_found {seek : JString} {c : JChar} (h : c ∈ seek) (rest : JString) :
    seekTo seek (c :: rest) = .ok (c, c :: rest) :=
  if_pos h

/-- an entry of a map: its key, its value, and the char behind it -/
theorem objectLoop_entry (key : JString) (v : Value) (fuel : ℕ) (map : List (JString × JObject)) (rest : JString) :
    objectLoop classPath source values (fuel + 1) 0x22 map (quote key ++ 0x3A :: (append v ++ rest)) =
      (values (append v ++ rest) >>= fun p => seekTo (str ",\x7d") p.2 >>= fun q => next source q.2 >>= fun r =>
        if r.1 = 0x7D then do return (← lift (finishObject classPath (put key p.1 map)), r.2)
        else do
          let (c, rest) ← seekTo (str "\"\x7d") r.2
          objectLoop classPath source values fuel c (put key p.1 map) rest) := by
  have hstring : parseString source (quote key ++ 0x3A :: (append v ++ rest)) = .ok (key, 0x3A :: (append v ++ rest)) :=
    parseString_quoted key _
  rw [quote_append] at hstring ⊢
  rw [objectLoop, if_neg (by decide), hstring]
  · simp only [parsed_bind, seekTo_found (show (0x3A : JChar) ∈ str ":" by decide), next_cons]
  · nofun

theorem appendEntries_cons (key : JString) (v : Value) (entry : JString × Value) (entries : List (JString × Value)) :
    appendEntries ((key, v) :: entry :: entries) =
      quote key ++ 0x3A :: (append v ++ 0x2C :: appendEntries (entry :: entries)) := by
  rw [appendEntries, List.append_assoc, List.append_assoc, List.append_assoc]
  · rfl
  · nofun

/-- the text of an entry begins with a quote -/
theorem seekTo_entries (entry : JString × Value) (entries : List (JString × Value)) (rest : JString) :
    seekTo (str "\"\x7d") (appendEntries (entry :: entries) ++ rest) = .ok (0x22, appendEntries (entry :: entries) ++ rest) := by
  have hopens : ∃ t, appendEntries (entry :: entries) = 0x22 :: t := by
    cases entries with
    | nil => exact ⟨_, rfl⟩
    | cons next entries =>
      rw [appendEntries_cons, quote_append]
      exact ⟨_, rfl⟩
  obtain ⟨t, ht⟩ := hopens
  rw [ht]
  exact seekTo_found (by decide) _

/-- **The entries of a map are read** behind those that were. -/
theorem objectLoop_entries {entries : List (JString × Value)} (hne : entries ≠ [])
    (hreads : ∀ entry ∈ entries, Reads classPath values entry.2) (fuel : ℕ) (hfuel : (appendEntries entries).length < fuel)
    (map : List (JString × JObject)) (hkeys : (map.map Prod.fst ++ entries.map Prod.fst).Nodup) (rest : JString) :
    objectLoop classPath source values fuel 0x22 map (appendEntries entries ++ 0x7D :: rest) =
      (lift (rereadEntries classPath entries) >>= fun read =>
        lift (finishObject classPath (map ++ read)) >>= fun o => .ok (o, rest)) := by
  induction entries generalizing fuel map with
  | nil => exact absurd rfl hne
  | cons entry entries ih =>
    obtain ⟨key, v⟩ := entry
    have hv := hreads (key, v) List.mem_cons_self
    have hfresh : key ∉ map.map Prod.fst := by
      intro hmem
      exact (List.nodup_append.1 hkeys).2.2 key hmem key List.mem_cons_self rfl
    rw [rereadEntries]
    cases entries with
    | nil =>
      obtain ⟨fuel, rfl⟩ := Nat.exists_eq_add_of_le' (show 1 ≤ fuel by omega)
      have htext : appendEntries [(key, v)] ++ 0x7D :: rest = quote key ++ 0x3A :: (append v ++ 0x7D :: rest) := by
        rw [appendEntries, List.append_assoc, List.append_assoc]
        rfl
      rw [htext, objectLoop_entry, hv _ (ends_cons (by decide) rest)]
      cases hread : reread classPath v with
      | error e => rfl
      | ok o =>
        simp only [lift, parsed_bind, put_fresh hfresh o, seekTo_found (show (0x7D : JChar) ∈ str ",\x7d" by decide), next_cons]
        rfl
    | cons next entries =>
      rw [appendEntries_cons, List.length_append, List.length_cons] at hfuel
      obtain ⟨fuel, rfl⟩ := Nat.exists_eq_add_of_le' (show 1 ≤ fuel by omega)
      have htext : appendEntries ((key, v) :: next :: entries) ++ 0x7D :: rest =
          quote key ++ 0x3A :: (append v ++ 0x2C :: (appendEntries (next :: entries) ++ 0x7D :: rest)) := by
        rw [appendEntries_cons]
        simp only [List.append_assoc, List.cons_append]
      rw [htext, objectLoop_entry, hv _ (ends_cons (by decide) _)]
      cases hread : reread classPath v with
      | error e => rfl
      | ok o =>
        have hnext := ih (List.cons_ne_nil next entries) (fun e he => hreads e (List.mem_cons_of_mem _ he)) fuel
          (by simp only [List.length_cons, List.length_append] at hfuel; omega) (map ++ [(key, o)])
          (by rw [List.map_append, List.append_assoc]; exact hkeys)
        simp only [lift, parsed_bind, put_fresh hfresh o, seekTo_found (show (0x2C : JChar) ∈ str ",\x7d" by decide), next_cons,
          if_neg (show (0x2C : JChar) ≠ 0x7D by decide), seekTo_entries, hnext]
        cases rereadEntries classPath (next :: entries) with
        | error e => rfl
        | ok read =>
          change (lift (finishObject classPath (map ++ [(key, o)] ++ read)) >>= _) =
            (lift (finishObject classPath (map ++ (key, o) :: read)) >>= _)
          rw [List.append_assoc, List.singleton_append]

theorem appendItems_length (v : Value) (vs : List Value) :
    (append v).length ≤ (appendItems (v :: vs)).length ∧ (appendItems vs).length ≤ (appendItems (v :: vs)).length := by
  cases vs with
  | nil => exact ⟨Nat.le_refl _, Nat.zero_le _⟩
  | cons w vs =>
    rw [appendItems_cons, List.length_append, List.length_cons]
    omega

theorem appendEntries_length (key : JString) (v : Value) (entries : List (JString × Value)) :
    (append v).length ≤ (appendEntries ((key, v) :: entries)).length ∧
      (appendEntries entries).length ≤ (appendEntries ((key, v) :: entries)).length := by
  cases entries with
  | nil =>
    exact ⟨(List.suffix_append (quote key ++ str ":") (append v)).length_le, Nat.zero_le _⟩
  | cons entry entries =>
    rw [appendEntries_cons]
    simp only [List.length_append, List.length_cons]
    omega

theorem complete_append (seek rest : JString) : complete seek (seek ++ rest) = .ok rest := by
  induction seek with
  | nil => rfl
  | cons k seek ih =>
    rw [List.cons_append, complete, if_neg (not_not.2 rfl)]
    exact ih

theorem parseSource_cons (fuel : ℕ) (c : JChar) (rest : JString) : parseSource classPath source (fuel + 1) (c :: rest) =
    (kindOf 0 c).run source (parseObject classPath source (parseSource classPath source fuel) fuel)
      (parseArray source (parseSource classPath source fuel) fuel) c rest := by
  rw [parseSource, parseLoop_cons]

theorem reads_literal {v : Value} {c : JChar} {t : JString} {o : JObject} (htext : append v = c :: t)
    (hkind : kindOf 0 c = .literal o (c :: t)) (hread : reread classPath v = .ok o) (fuel : ℕ) :
    Reads classPath (parseSource classPath source (fuel + 1)) v := by
  intro rest _
  rw [htext, List.cons_append, parseSource_cons, hkind, hread]
  dsimp only [Kind.run]
  rw [← List.cons_append, complete_append]
  rfl

theorem reads_long (n : Int64) (fuel : ℕ) : Reads classPath (parseSource classPath source (fuel + 1)) (.long n) := by
  intro rest hrest
  obtain ⟨c, t, htext, -, hkind⟩ := numberToString_opens n.toInt
  have hnumber := parseNumber_printed n hrest
  change parseSource classPath source (fuel + 1) (numberToString n.toInt ++ rest) = _
  rw [htext, List.cons_append] at hnumber ⊢
  rw [parseSource_cons, hkind]
  exact hnumber

theorem reads_string (s : JString) (fuel : ℕ) : Reads classPath (parseSource classPath source (fuel + 1)) (.string s) := by
  intro rest _
  have hstring : parseString source (quote s ++ rest) = .ok (s, rest) := parseString_quoted s rest
  change parseSource classPath source (fuel + 1) (quote s ++ rest) = _
  rw [quote_append] at hstring ⊢
  have hkind : kindOf 0 0x22 = .string := rfl
  rw [parseSource_cons, hkind]
  dsimp only [Kind.run]
  rw [hstring]
  rfl

theorem append_array (items : List Value) (rest : JString) :
    append (.array items) ++ rest = 0x5B :: (appendItems items ++ 0x5D :: rest) := by
  rw [append, List.append_assoc, List.append_assoc]
  rfl

theorem append_map (entries : List (JString × Value)) (rest : JString) :
    append (.map entries) ++ rest = 0x7B :: (appendEntries entries ++ 0x7D :: rest) := by
  rw [append, List.append_assoc, List.append_assoc]
  rfl

theorem reads_array {items : List Value} {fuel : ℕ} (hlength : items.length ≤ MAX_ITEMS)
    (hfuel : (appendItems items).length < fuel)
    (hreads : ∀ v ∈ items, Reads classPath (parseSource classPath source fuel) v) :
    Reads classPath (parseSource classPath source (fuel + 1)) (.array items) := by
  intro rest _
  have hkind : kindOf 0 0x5B = .array := rfl
  rw [append_array, parseSource_cons, hkind]
  change arrayLoop (parseSource classPath source fuel) fuel true ⟨0, .null, none⟩ (appendItems items ++ 0x5D :: rest) = _
  rw [reread]
  cases items with
  | nil =>
    obtain ⟨fuel, rfl⟩ := Nat.exists_eq_add_of_lt hfuel
    exact arrayLoop_close _ true .empty rest
  | cons v vs =>
    have hfits : ([] : List JObject).length + (v :: vs).length ≤ MAX_ITEMS := by
      rw [List.length_nil, Nat.zero_add]
      exact hlength
    rw [arrayLoop_items (List.cons_ne_nil v vs) hreads fuel hfuel true .empty hfits]
    cases rereadItems classPath (v :: vs) with
    | error e => rfl
    | ok read => rfl

theorem reads_map {entries : List (JString × Value)} {fuel : ℕ} (hkeys : (entries.map Prod.fst).Nodup)
    (hfuel : (appendEntries entries).length < fuel)
    (hreads : ∀ entry ∈ entries, Reads classPath (parseSource classPath source fuel) entry.2) :
    Reads classPath (parseSource classPath source (fuel + 1)) (.map entries) := by
  intro rest _
  have hkind : kindOf 0 0x7B = .object := rfl
  rw [append_map, parseSource_cons, hkind]
  change (seekTo (str "\"\x7d") (appendEntries entries ++ 0x7D :: rest) >>= fun p =>
    objectLoop classPath source (parseSource classPath source fuel) fuel p.1 [] p.2) = _
  rw [reread]
  cases entries with
  | nil =>
    obtain ⟨fuel, rfl⟩ := Nat.exists_eq_add_of_lt hfuel
    change (seekTo (str "\"\x7d") (0x7D :: rest) >>= _) = _
    rw [seekTo_found (by decide)]
    rfl
  | cons entry entries =>
    rw [seekTo_entries, parsed_bind, objectLoop_entries (List.cons_ne_nil entry entries) hreads fuel hfuel [] hkeys]
    cases rereadEntries classPath (entry :: entries) with
    | error e => rfl
    | ok read => rfl

end

section

variable {classPath : ClassPath} {source : Source}

mutual

/-- **What was written is read back**, by induction on the value, with fuel for its text. -/
theorem parse_append : ∀ (v : Value) (fuel : ℕ), Valid v → (append v).length ≤ fuel →
    Reads classPath (parseSource classPath source fuel) v
  | v, 0, _, hfuel => absurd (append_ne_nil v) (by omega)
  | .null, fuel + 1, _, _ => reads_literal rfl rfl rfl fuel
  | .boolean true, fuel + 1, _, _ => reads_literal rfl rfl rfl fuel
  | .boolean false, fuel + 1, _, _ => reads_literal rfl rfl rfl fuel
  | .long n, fuel + 1, _, _ => reads_long n fuel
  | .string s, fuel + 1, _, _ => reads_string s fuel
  | .array items, fuel + 1, hv, hfuel => by
    have hlength : (appendItems items).length < fuel := by
      rw [← List.append_nil (append (.array items)), append_array, List.length_cons, List.length_append,
        List.length_singleton] at hfuel
      omega
    exact reads_array hv.1 hlength (items_append items fuel hv.2 hlength.le)
  | .map entries, fuel + 1, hv, hfuel => by
    have hlength : (appendEntries entries).length < fuel := by
      rw [← List.append_nil (append (.map entries)), append_map, List.length_cons, List.length_append,
        List.length_singleton] at hfuel
      omega
    exact reads_map hv.1 hlength (entries_append entries fuel hv.2 hlength.le)

theorem items_append : ∀ (vs : List Value) (fuel : ℕ), AllValid vs → (appendItems vs).length ≤ fuel →
    ∀ v ∈ vs, Reads classPath (parseSource classPath source fuel) v
  | [], _, _, _ => nofun
  | v :: vs, fuel, hvs, hfuel => by
    obtain ⟨hfirst, hrest⟩ := appendItems_length v vs
    exact List.forall_mem_cons.2 ⟨parse_append v fuel hvs.1 (hfirst.trans hfuel), items_append vs fuel hvs.2 (hrest.trans hfuel)⟩

theorem entries_append : ∀ (entries : List (JString × Value)) (fuel : ℕ), EntriesValid entries →
    (appendEntries entries).length ≤ fuel → ∀ entry ∈ entries, Reads classPath (parseSource classPath source fuel) entry.2
  | [], _, _, _ => nofun
  | (key, v) :: entries, fuel, hentries, hfuel => by
    obtain ⟨hfirst, hrest⟩ := appendEntries_length key v entries
    exact List.forall_mem_cons.2
      ⟨parse_append v fuel hentries.1 (hfirst.trans hfuel), entries_append entries fuel hentries.2 (hrest.trans hfuel)⟩

end

end

/-! ## What comes back -/

theorem lookup_toEntries (name : JString) (entries : List (JString × Value)) :
    (toEntries entries).lookup name = (entries.lookup name).map toObject := by
  induction entries with
  | nil => rfl
  | cons entry entries ih =>
    obtain ⟨key, v⟩ := entry
    rw [toEntries, List.lookup_cons, List.lookup_cons, ih]
    cases name == key <;> rfl

/-- a map is returned as it is, or as another object -/
theorem convertTo_map {classPath : ClassPath} {name : JString} {map map' : List (JString × JObject)}
    (h : convertTo classPath name map = .ok (.map map')) : Harmless classPath name ∧ map' = map := by
  unfold convertTo at h
  split at h
  case h_1 hload =>
    cases h
    exact ⟨.inl hload, rfl⟩
  case h_2 hload =>
    cases h
    exact ⟨.inr hload, rfl⟩
  case h_3 hload =>
    cases hconvert : classPath.fromJSON name map with
    | ok u =>
      rw [hconvert] at h
      cases h
    | error e =>
      rw [hconvert] at h
      cases h
  case h_4 e hload => cases h

theorem convertTo_iff (classPath : ClassPath) (name : JString) (map : List (JString × JObject)) :
    convertTo classPath name map = .ok (.map map) ↔ Harmless classPath name := by
  refine ⟨fun h => (convertTo_map h).1, fun h => ?_⟩
  unfold convertTo
  rcases h with h | h
  · rw [h]
  · rw [h]

theorem finishObject_map {classPath : ClassPath} {map map' : List (JString × JObject)}
    (h : finishObject classPath map = .ok (.map map')) : map' = map := by
  unfold finishObject at h
  split at h
  · cases h
    rfl
  · cases h
    rfl
  · exact (convertTo_map h).2
  · cases h

theorem finishObject_iff (classPath : ClassPath) (entries : List (JString × Value)) :
    finishObject classPath (toEntries entries) = .ok (.map (toEntries entries)) ↔ ClassLoads classPath entries := by
  unfold finishObject ClassLoads
  rw [lookup_toEntries]
  cases entries.lookup (str "class") with
  | none => exact iff_of_true rfl trivial
  | some v =>
    cases v with
    | null => exact iff_of_true rfl trivial
    | string name => exact convertTo_iff classPath name _
    | boolean b => exact iff_of_false nofun id
    | long n => exact iff_of_false nofun id
    | array items => exact iff_of_false nofun id
    | map entries => exact iff_of_false nofun id

theorem cons_ok_iff {α : Type} {x : Except JavaException α} {y : Except JavaException (List α)} {a : α} {l : List α} :
    (do return (← x) :: (← y)) = Except.ok (a :: l) ↔ x = .ok a ∧ y = .ok l := by
  cases x with
  | error e => exact iff_of_false nofun nofun
  | ok b =>
    cases y with
    | error e => exact iff_of_false nofun nofun
    | ok k => simp [pure, Except.pure]

mutual

/-- **A value is what the parser makes of it** exactly if nothing under `class` is in the way. -/
theorem reread_iff (classPath : ClassPath) : ∀ v : Value, reread classPath v = .ok (toObject v) ↔ Loads classPath v
  | .null => iff_of_true rfl trivial
  | .boolean b => iff_of_true rfl trivial
  | .long n => iff_of_true rfl trivial
  | .string s => iff_of_true rfl trivial
  | .array items => by
    rw [reread, toObject, Loads, ← rereadItems_iff classPath items]
    cases rereadItems classPath items with
    | error e => exact iff_of_false nofun nofun
    | ok read => simp [pure, Except.pure]
  | .map entries => by
    rw [reread, toObject, Loads, ← rereadEntries_iff classPath entries, ← finishObject_iff]
    cases rereadEntries classPath entries with
    | error e => exact iff_of_false nofun fun h => nomatch h.2
    | ok read =>
      rw [ok_bind]
      constructor
      · intro h
        obtain rfl := finishObject_map h
        exact ⟨h, rfl⟩
      · rintro ⟨h, hread⟩
        cases hread
        exact h

theorem rereadItems_iff (classPath : ClassPath) : ∀ vs : List Value,
    rereadItems classPath vs = .ok (toObjects vs) ↔ AllLoad classPath vs
  | [] => iff_of_true rfl trivial
  | v :: vs => by
    rw [rereadItems, toObjects, cons_ok_iff, reread_iff classPath v, rereadItems_iff classPath vs]
    rfl

theorem rereadEntries_iff (classPath : ClassPath) : ∀ entries : List (JString × Value),
    rereadEntries classPath entries = .ok (toEntries entries) ↔ EntriesLoad classPath entries
  | [] => iff_of_true rfl trivial
  | (key, v) :: entries => by
    rw [rereadEntries, toEntries, EntriesLoad, ← reread_iff classPath v, ← rereadEntries_iff classPath entries]
    cases reread classPath v with
    | error e => exact iff_of_false nofun fun h => nomatch h.1
    | ok o =>
      cases rereadEntries classPath entries with
      | error e => exact iff_of_false nofun fun h => nomatch h.2
      | ok read => simp [pure, Except.pure]

end

/-- `JSON.parse(JSON.toString(v))` -/
def parsed (classPath : ClassPath) (v : Value) : Except Stop JObject :=
  parse classPath (stringSource (JsonAppend.toString v)) (JsonAppend.toString v)

theorem parsed_eq (classPath : ClassPath) {v : Value} (hv : Valid v) : parsed classPath v = lift (reread classPath v) := by
  have hread : Reads classPath (parseSource classPath (stringSource (append v)) (enough (append v))) v :=
    parse_append v (enough (append v)) hv (by unfold enough; omega)
  have hall := hread [] ends_nil
  rw [List.append_nil] at hall
  unfold parsed JsonAppend.toString parse
  rw [hall]
  cases reread classPath v with
  | ok o => rfl
  | error e => rfl

/-- **A value comes back** exactly if in every map of it there is nothing under `class`, or null, or a name that `loadClass`
knows nothing of or has a class for that is not a `Convertible`. -/
theorem returned_iff (classPath : ClassPath) (v : JavaValue) :
    parsed classPath v.value = .ok (toObject v.value) ↔ Loads classPath v.value := by
  rw [parsed_eq classPath v.valid, ← reread_iff classPath v.value]
  cases reread classPath v.value with
  | ok o => simp [lift]
  | error e => exact iff_of_false nofun nofun

/-- a map from `class` to a number, among no classes -/
theorem class_not_returned : parsed ⟨fun _ => .notFound, fun _ _ => .ok ()⟩ (.map [(str "class", .long 1)]) =
      .error (.thrown .classCast) ∧
    parsed ⟨fun _ => .notFound, fun _ _ => .ok ()⟩ (.map [(str "class", .long 1)]) ≠
      .ok (toObject (.map [(str "class", .long 1)])) := by
  have hvalid : Valid (.map [(str "class", .long 1)]) := ⟨by decide, trivial, trivial⟩
  have hthrown := parsed_eq ⟨fun _ => .notFound, fun _ _ => .ok ()⟩ hvalid
  refine ⟨hthrown, ?_⟩
  rw [hthrown]
  exact nofun

end SocketIOJava.JsonRoundTrip
