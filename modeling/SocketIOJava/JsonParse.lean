/-
`JSON.parse`, over its two sources.

The parser's state are the chars that its source has left. A source is what distinguishes the two: the length of the scratch
buffer, and what `next` does at the end. `StringSource` and `ReaderSource` keep an index and a char read ahead instead;
`stringSource_implements` and `readerSource_implements` say that they are sources in this sense.

A container parses its elements, and these are parsed with less fuel. An element may be read without a char being consumed
(a digit that is not of ASCII is the number 0), so that some arrays end only when their list is full, and there is fuel
enough for that.
-/
import SocketIOJava.JsonAppend

namespace SocketIOJava.JsonParse

open SocketIOJava.Text

/-! ## Sources -/

/-- what differs between the sources: the length of `scratchBuffer()`, and what `next` does at the end -/
structure Source where
  scratch : ℕ
  atEnd : Except JavaException JChar

/-- `new StringSource(s)` -/
def stringSource (s : JString) : Source := ⟨s.length, .error .stringIndexOutOfBounds⟩

/-- `new ReaderSource(in)`; `(char) -1` at the end -/
def readerSource : Source := ⟨1024, .ok 0xFFFF⟩

structure StringSource where
  string : JString
  index : ℤ

namespace StringSource

def hasNext (s : StringSource) : Bool × StringSource := (decide (s.index < s.string.length), s)

def next (s : StringSource) : Except JavaException JChar × StringSource :=
  (charAt s.string s.index, { s with index := s.index + 1 })

def peek (s : StringSource) : Except JavaException JChar × StringSource := (charAt s.string s.index, s)

end StringSource

/-- `reader` are the chars that a `StringReader` has left -/
structure ReaderSource where
  reader : JString
  next : ℤ

namespace ReaderSource

def getNext (s : ReaderSource) : ReaderSource :=
  if s.next < 0 then
    match s.reader with
    | c :: rest => ⟨rest, c.toNat⟩
    | [] => { s with next := -1 }
  else s

def hasNext (s : ReaderSource) : Bool × ReaderSource := (decide (0 ≤ s.getNext.next), s.getNext)

/-- `(char) n` -/
def toChar (n : ℤ) : JChar := UInt16.ofNat (n % 2 ^ 16).toNat

def readNext (s : ReaderSource) : Except JavaException JChar × ReaderSource :=
  (.ok (toChar s.getNext.next), { s.getNext with next := -1 })

def peek (s : ReaderSource) : Except JavaException JChar × ReaderSource := (.ok (toChar s.getNext.next), s.getNext)

end ReaderSource

/-! ## Values -/

/-- what the parser returns; a map as its entries in the order in which their keys were put -/
inductive JObject where
  | null
  | boolean (b : Bool)
  | long (n : Int64)
  /-- the double that a text denotes -/
  | double (text : JString)
  | string (s : JString)
  | array (items : List JObject)
  | map (entries : List (JString × JObject))
  /-- a new object of a `Convertible` class, made from a map -/
  | converted (classname : JString) (entries : List (JString × JObject))

/-- `map.put(name, value)` -/
def put (name : JString) (value : JObject) : List (JString × JObject) → List (JString × JObject)
  | [] => [(name, value)]
  | (key, old) :: entries => if key = name then (key, value) :: entries else (key, old) :: put name value entries

/-- what `loadClass` makes of a name -/
inductive Loaded where
  | notFound
  /-- a class that is not a `Convertible` -/
  | plain
  | convertible
  | raises (e : JavaException)
deriving DecidableEq, Repr

/-- the classes; `fromJSON` also stands for the constructor -/
structure ClassPath where
  loadClass : JString → Loaded
  fromJSON : JString → List (JString × JObject) → Except JavaException Unit

/-! ## The source -/

/-- why no value is returned -/
inductive Stop where
  | thrown (e : JavaException)
  /-- the fuel was used up -/
  | unfinished
deriving DecidableEq, Repr

def raise {α : Type} (e : JavaException) : Except Stop α := .error (.thrown e)

def lift {α : Type} : Except JavaException α → Except Stop α
  | .ok a => .ok a
  | .error e => raise e

@[simp] theorem parsed_bind {α β : Type} (a : α) (k : α → Except Stop β) : (Except.ok a >>= k) = k a := rfl

@[simp] theorem stopped_bind {α β : Type} (e : Stop) (k : α → Except Stop β) : (Except.error e >>= k) = .error e := rfl

@[simp] theorem raise_bind {α β : Type} (e : JavaException) (k : α → Except Stop β) : (raise e >>= k) = raise e := rfl

def next (source : Source) : JString → Except Stop (JChar × JString)
  | c :: rest => .ok (c, rest)
  | [] => do return (← lift source.atEnd, [])

/-- `Character.isWhitespace(c)` -/
def isWhitespace (c : JChar) : Bool :=
  (0x09 ≤ c ∧ c ≤ 0x0D) ∨ (0x1C ≤ c ∧ c ≤ 0x20) ∨ c = 0x1680 ∨ (0x2000 ≤ c ∧ c ≤ 0x2006) ∨ (0x2008 ≤ c ∧ c ≤ 0x200A) ∨
    c = 0x2028 ∨ c = 0x2029 ∨ c = 0x205F ∨ c = 0x3000

/-- both `seekTo` methods, that for a char as the one for a string of it -/
def seekTo (seek : JString) : JString → Except Stop (JChar × JString)
  | [] => raise .illegalState
  | c :: rest =>
    if c ∈ seek then .ok (c, c :: rest) else if !isWhitespace c then raise .illegalState else seekTo seek rest

def complete : JString → JString → Except Stop JString
  | [], rest => .ok rest
  | _ :: _, [] => raise .illegalState
  | k :: seek, c :: rest => if c ≠ k then raise .illegalState else complete seek rest

/-- of a char as a byte; a byte that is negative is no digit -/
def convertHexDigit (c : JChar) : ℕ :=
  let b := c.toNat % 256
  if 0x30 ≤ b ∧ b ≤ 0x39 then b - 0x30
  else if 0x61 ≤ b ∧ b ≤ 0x66 then b - 0x61 + 10
  else if 0x41 ≤ b ∧ b ≤ 0x46 then b - 0x41 + 10
  else 0

/-- after `\u` -/
def unicode (source : Source) (rest : JString) : Except Stop (JChar × JString) := do
  let (a, rest) ← next source rest
  let (b, rest) ← next source rest
  let (c, rest) ← next source rest
  let (d, rest) ← next source rest
  return (UInt16.ofNat (convertHexDigit a * 2 ^ 12 + convertHexDigit b * 2 ^ 8 + convertHexDigit c * 2 ^ 4 + convertHexDigit d),
    rest)

/-- after a backslash, unless it is a `u` -/
def unescape (c : JChar) : JChar :=
  if c = 0x62 then 0x08
  else if c = 0x66 then 0x0C
  else if c = 0x6E then 0x0A
  else if c = 0x72 then 0x0D
  else if c = 0x74 then 0x09
  else c

theorem next_length {source : Source} {rest rest' : JString} {c : JChar} (h : next source rest = .ok (c, rest')) :
    rest'.length ≤ rest.length := by
  cases rest with
  | cons d rest =>
    cases h
    exact Nat.le_succ _
  | nil =>
    unfold next at h
    cases hend : source.atEnd with
    | ok d =>
      rw [hend] at h
      cases h
      exact Nat.le_refl _
    | error e =>
      rw [hend] at h
      cases h

theorem bind_ok {α β : Type} {x : Except Stop α} {k : α → Except Stop β} {b : β} (h : (x >>= k) = .ok b) :
    ∃ a, x = .ok a ∧ k a = .ok b := by
  cases x with
  | ok a => exact ⟨a, rfl, h⟩
  | error e => cases h

theorem unicode_length {source : Source} {rest rest' : JString} {uc : JChar} (h : unicode source rest = .ok (uc, rest')) :
    rest'.length ≤ rest.length := by
  obtain ⟨⟨a, rest₁⟩, h₁, h⟩ := bind_ok h
  obtain ⟨⟨b, rest₂⟩, h₂, h⟩ := bind_ok h
  obtain ⟨⟨c, rest₃⟩, h₃, h⟩ := bind_ok h
  obtain ⟨⟨d, rest₄⟩, h₄, h⟩ := bind_ok h
  cases h
  exact (next_length h₄).trans ((next_length h₃).trans ((next_length h₂).trans (next_length h₁)))

/-- the second loop of `parseString` -/
def builderLoop (source : Source) (escape : Bool) (rest builder : JString) : Except Stop (JString × JString) :=
  match rest with
  | [] => .ok (builder, [])
  | c :: rest =>
    if escape then
      if c = 0x75 then
        match _h : unicode source rest with
        | .ok (uc, later) => builderLoop source false later (builder ++ [uc])
        | .error e => .error e
      else builderLoop source false rest (builder ++ [unescape c])
    else if c = 0x5C then builderLoop source true rest builder
    else if c = 0x22 then .ok (builder, rest)
    else builderLoop source false rest (builder ++ [c])
termination_by rest.length
decreasing_by
  all_goals first | exact Nat.lt_succ_self _ | exact Nat.lt_succ_of_le (unicode_length _h)

/-- the first loop, up to a full scratch buffer -/
def scratchLoop (source : Source) (escape : Bool) (rest scratch : JString) : Except Stop (JString × JString) :=
  match rest with
  | [] => .ok (scratch, [])
  | c :: rest =>
    if scratch.length ≥ source.scratch then builderLoop source escape (c :: rest) scratch
    else if escape then
      if c = 0x75 then
        match _h : unicode source rest with
        | .ok (uc, later) => scratchLoop source false later (scratch ++ [uc])
        | .error e => .error e
      else scratchLoop source false rest (scratch ++ [unescape c])
    else if c = 0x5C then scratchLoop source true rest scratch
    else if c = 0x22 then .ok (scratch, rest)
    else scratchLoop source false rest (scratch ++ [c])
termination_by rest.length
decreasing_by
  all_goals first | exact Nat.lt_succ_self _ | exact Nat.lt_succ_of_le (unicode_length _h)

def parseString (source : Source) (rest : JString) : Except Stop (JString × JString) := do
  let (c, rest) ← next source rest
  if c ≠ 0x22 then raise .illegalState else scratchLoop source false rest []

/-- the value of a digit of ASCII -/
def decimalDigit (c : JChar) : Int64 := Int64.ofInt (c.toNat - 0x30)

def IsDecimalDigit (c : JChar) : Prop := 0x30 ≤ c ∧ c ≤ 0x39

instance : DecidablePred IsDecimalDigit := fun c => inferInstanceAs (Decidable (0x30 ≤ c ∧ c ≤ 0x39))

/-- a point or the letter of an exponent -/
def IsFraction (c : JChar) : Prop := c = 0x2E ∨ c = 0x65 ∨ c = 0x45

instance : DecidablePred IsFraction := fun c => inferInstanceAs (Decidable (c = 0x2E ∨ c = 0x65 ∨ c = 0x45))

def IsSign (c : JChar) : Prop := c = 0x2D ∨ c = 0x2B

instance : DecidablePred IsSign := fun c => inferInstanceAs (Decidable (c = 0x2D ∨ c = 0x2B))

/-- the variables of `parseNumber`; the buffer is null as long as there is no fraction -/
structure Number where
  minus : Bool
  number : Int64
  buffer : Option JString

/-- `longLoop` -/
def longLoop (minus : Bool) (number : Int64) : JString → Except Stop (Number × JString)
  | [] => .ok (⟨minus, number, none⟩, [])
  | c :: rest =>
    if IsDecimalDigit c then longLoop minus (number * 10 + decimalDigit c) rest
    else if IsSign c then if number ≠ 0 then raise .illegalState else longLoop true number rest
    else if IsFraction c then
      .ok (⟨minus, number, some ((if minus then [0x2D] else []) ++ numberToString number.toInt ++ [c])⟩, rest)
    else .ok (⟨minus, number, none⟩, c :: rest)

/-- `doubleLoop` -/
def doubleLoop (buffer : JString) : JString → JString × JString
  | [] => (buffer, [])
  | c :: rest =>
    if IsDecimalDigit c ∨ IsSign c ∨ IsFraction c then doubleLoop (buffer ++ [c]) rest else (buffer, c :: rest)

/-- the syntax of a double, among texts of digits, signs, points and the letter of an exponent -/
def IsDouble (text : JString) : Prop :=
  let unsigned (s : JString) : JString := if (s.head?.map fun c => decide (IsSign c)) = some true then s.tail else s
  let mantissa := (unsigned text).takeWhile fun c => c ≠ 0x65 ∧ c ≠ 0x45
  let exponent := (unsigned text).drop mantissa.length
  (mantissa.all fun c => IsDecimalDigit c ∨ c = 0x2E) ∧ (mantissa.any fun c => IsDecimalDigit c) ∧ mantissa.count 0x2E ≤ 1 ∧
    (exponent = [] ∨ unsigned exponent.tail ≠ [] ∧ (unsigned exponent.tail).all fun c => IsDecimalDigit c)

instance : DecidablePred IsDouble := fun text => by unfold IsDouble; infer_instance

/-- `new Double(text)` -/
def newDouble (text : JString) : Except JavaException JObject :=
  if IsDouble text then .ok (.double text) else .error .numberFormat

def parseNumber (rest : JString) : Except Stop (JObject × JString) := do
  let (n, rest) ← longLoop false 0 rest
  match n.buffer with
  | none => return (.long (if n.minus then -1 * n.number else n.number), rest)
  | some buffer =>
    let (text, rest) := doubleLoop buffer rest
    return (← lift (newDouble text), rest)

/-! ### Containers -/

/-- the list of an `ArrayList` is an array, and its length an int -/
def MAX_ITEMS : ℕ := 2 ^ 31 - 1

/-- `list.add(item)` -/
def add (list : List JObject) (item : JObject) : Except JavaException (List JObject) :=
  if list.length < MAX_ITEMS then .ok (list ++ [item]) else .error .outOfMemory

/-- the variables of `parseArray`: a first item is kept by itself until there is a second one -/
structure Items where
  size : ℕ
  item : JObject
  list : Option (List JObject)

/-- another item was parsed -/
def Items.put (items : Items) (item : JObject) : Except JavaException Items :=
  if items.size = 0 then .ok { items with size := 1, item := item }
  else
    match items.list with
    | none => do return ⟨items.size + 1, .null, some (← add (← add [] items.item) item)⟩
    | some list => do return ⟨items.size + 1, .null, some (← add list item)⟩

/-- the array that is returned -/
def Items.toArray (items : Items) : Except JavaException (List JObject) :=
  match items.size with
  | 0 => .ok []
  | 1 => .ok [items.item]
  | _ =>
    match items.list with
    | some list => .ok list
    | none => .error .nullPointer

variable (classPath : ClassPath) (source : Source)

/-- `convertTo(c, map)`, and what `loadClass` raises -/
def convertTo (classname : JString) (map : List (JString × JObject)) : Except JavaException JObject :=
  match classPath.loadClass classname with
  | .notFound | .plain => .ok (.map map)
  | .convertible => do
    classPath.fromJSON classname map
    return .converted classname map
  | .raises e => .error e

/-- the end of `parseObject`, from `(String) map.get("class")` on -/
def finishObject (map : List (JString × JObject)) : Except JavaException JObject :=
  match map.lookup (str "class") with
  | none | some .null => .ok (.map map)
  | some (.string classname) => convertTo classPath classname map
  | some _ => .error .classCast

/-- the loop of `parseObject`, with a parser for its values; `c` is the variable `next` -/
def objectLoop (parse : JString → Except Stop (JObject × JString)) :
    ℕ → JChar → List (JString × JObject) → JString → Except Stop (JObject × JString)
  | 0, _, _, _ => .error .unfinished
  | _ + 1, _, map, [] => do return (← lift (finishObject classPath map), [])
  | fuel + 1, c, map, rest =>
    if c = 0x7D then do
      let (_, rest) ← next source rest
      return (← lift (finishObject classPath map), rest)
    else do
      let (name, rest) ← parseString source rest
      let (_, rest) ← seekTo (str ":") rest
      let (_, rest) ← next source rest
      let (value, rest) ← parse rest
      let (_, rest) ← seekTo (str ",\x7d") rest
      let (c, rest) ← next source rest
      if c = 0x7D then return (← lift (finishObject classPath (put name value map)), rest)
      else do
        let (c, rest) ← seekTo (str "\"\x7d") rest
        objectLoop parse fuel c (put name value map) rest

def parseObject (parse : JString → Except Stop (JObject × JString)) (fuel : ℕ) (rest : JString) :
    Except Stop (JObject × JString) := do
  let (c, rest) ← next source rest
  if c ≠ 0x7B then raise .illegalState
  else do
    let (c, rest) ← seekTo (str "\"\x7d") rest
    objectLoop classPath source parse fuel c [] rest

/-- the loop of `parseArray` -/
def arrayLoop (parse : JString → Except Stop (JObject × JString)) :
    ℕ → Bool → Items → JString → Except Stop (JObject × JString)
  | 0, _, _, _ => .error .unfinished
  | _ + 1, _, _, [] => raise .illegalState
  | fuel + 1, coma, items, c :: rest =>
    if c = 0x5D then do return (.array (← lift items.toArray), rest)
    else if c = 0x2C then if coma then raise .illegalState else arrayLoop parse fuel true items rest
    else if isWhitespace c then arrayLoop parse fuel coma items rest
    else do
      let (item, rest) ← parse (c :: rest)
      let items ← lift (items.put item)
      arrayLoop parse fuel false items rest

def parseArray (parse : JString → Except Stop (JObject × JString)) (fuel : ℕ) (rest : JString) :
    Except Stop (JObject × JString) := do
  let (c, rest) ← next source rest
  if c ≠ 0x5B then raise .illegalState else arrayLoop parse fuel true ⟨0, .null, none⟩ rest

/-- a char of a comment, in the state 1 after a slash, 2 in `/*`, 3 after an asterisk of it, and -1 in `//` -/
def commentStep (state : ℤ) (c : JChar) : ℤ :=
  if state = 1 then if c = 0x2F then -1 else if c = 0x2A then 2 else 1
  else if state > 1 then if c = 0x2A then 3 else if c = 0x2F ∧ state = 3 then 0 else 2
  else if c = 0x0D ∨ c = 0x0A then 0
  else state

/-- the loop of `parse(Source)`, with a parser for each kind of container -/
def parseLoop (object array : JString → Except Stop (JObject × JString)) : ℤ → JString → Except Stop (JObject × JString)
  | _, [] => .ok (.null, [])
  | state, c :: rest =>
    if state ≠ 0 then parseLoop object array (commentStep state c) rest
    else if c = 0x7B then object (c :: rest)
    else if c = 0x5B then array (c :: rest)
    else if c = 0x22 then do
      let (s, rest) ← parseString source (c :: rest)
      return (.string s, rest)
    else if c = 0x2D then parseNumber (c :: rest)
    else if c = 0x6E then do return (.null, ← complete (str "null") (c :: rest))
    else if c = 0x74 then do return (.boolean true, ← complete (str "true") (c :: rest))
    else if c = 0x66 then do return (.boolean false, ← complete (str "false") (c :: rest))
    else if c = 0x75 then do return (.null, ← complete (str "undefined") (c :: rest))
    else if c = 0x4E then do return (.null, ← complete (str "NaN") (c :: rest))
    else if c = 0x2F then parseLoop object array 1 rest
    else if isDigit c then parseNumber (c :: rest)
    else if isWhitespace c then parseLoop object array 0 rest
    else raise .illegalState

/-- `parse(Source)` -/
def parseSource : ℕ → JString → Except Stop (JObject × JString)
  | 0, _ => .error .unfinished
  | fuel + 1, rest =>
    parseLoop source (parseObject classPath source (parseSource fuel) fuel) (parseArray source (parseSource fuel) fuel) 0 rest

/-- the fuel for a text: an iteration of a loop consumes a char or adds to a list -/
def enough (s : JString) : ℕ := s.length + MAX_ITEMS + 1

/-- `JSON.parse(source)` of a source that has this text -/
def parse (s : JString) : Except Stop JObject := do
  let (object, _) ← parseSource classPath source (enough s) s
  return object

/-! ## The sources -/

/-- the operations of a source over its own fields -/
structure Operations (σ : Type) where
  hasNext : σ → Bool × σ
  next : σ → Except JavaException JChar × σ
  peek : σ → Except JavaException JChar × σ

/-- the operations are those of a source that has these chars left -/
structure Implements {σ : Type} (operations : Operations σ) (source : Source) (left : σ → JString → Prop) : Prop where
  hasNext : ∀ s rest, left s rest → (operations.hasNext s).1 = !rest.isEmpty ∧ left (operations.hasNext s).2 rest
  next : ∀ s c rest, left s (c :: rest) → (operations.next s).1 = .ok c ∧ left (operations.next s).2 rest
  peek : ∀ s c rest, left s (c :: rest) → (operations.peek s).1 = .ok c ∧ left (operations.peek s).2 (c :: rest)
  /-- after an exception at the end, nobody asks the source again -/
  nextAtEnd : ∀ s, left s [] → (operations.next s).1 = source.atEnd ∧
    ((operations.next s).1.isOk → left (operations.next s).2 [])

/-- a `StringSource` of this string, behind the chars that were read -/
def StringSource.Left (string : JString) (s : StringSource) (rest : JString) : Prop :=
  s.string = string ∧ ∃ before, string = before ++ rest ∧ s.index = before.length

theorem stringSource_implements (string : JString) :
    Implements ⟨StringSource.hasNext, StringSource.next, StringSource.peek⟩ (stringSource string) (StringSource.Left string) := by
  constructor
  · rintro s rest ⟨rfl, before, hs, hindex⟩
    refine ⟨?_, rfl, before, hs, hindex⟩
    have hlength := congrArg List.length hs
    rw [List.length_append] at hlength
    dsimp only [StringSource.hasNext]
    rw [hindex, hlength]
    cases rest with
    | nil => exact decide_eq_false (by rw [List.length_nil]; omega)
    | cons c rest => exact decide_eq_true (by rw [List.length_cons]; omega)
  · rintro s c rest ⟨rfl, before, hs, hindex⟩
    refine ⟨charAt_eq before rest hs hindex.symm, rfl, before ++ [c], ?_, ?_⟩
    · rw [List.append_assoc]
      exact hs
    · change s.index + 1 = _
      rw [hindex, List.length_append, List.length_singleton]
      rfl
  · rintro s c rest ⟨rfl, before, hs, hindex⟩
    exact ⟨charAt_eq before rest hs hindex.symm, rfl, before, hs, hindex⟩
  · rintro s ⟨rfl, before, hs, hindex⟩
    have hend : charAt s.string s.index = .error .stringIndexOutOfBounds := by
      rw [List.append_nil] at hs
      unfold charAt
      rw [hindex, if_pos (Int.natCast_nonneg _), Int.toNat_natCast, hs, List.getElem?_eq_none (Nat.le_refl _)]
    change charAt s.string s.index = _ ∧ _
    exact ⟨hend, fun hok => by rw [show (StringSource.next s).1 = _ from hend] at hok; cases hok⟩

/-- a `ReaderSource` with or without a char that it has read ahead -/
inductive ReaderSource.Left : ReaderSource → JString → Prop where
  | fresh (rest : JString) : Left ⟨rest, -1⟩ rest
  | ahead (c : JChar) (rest : JString) : Left ⟨rest, c.toNat⟩ (c :: rest)

theorem ReaderSource.getNext_cons {s : ReaderSource} {c : JChar} {rest : JString} (h : s.Left (c :: rest)) :
    s.getNext = ⟨rest, c.toNat⟩ := by
  cases h with
  | fresh => rfl
  | ahead => exact if_neg (Int.not_lt.2 (Int.natCast_nonneg _))

theorem ReaderSource.getNext_nil {s : ReaderSource} (h : s.Left []) : s.getNext = ⟨[], -1⟩ := by
  cases h
  rfl

theorem ReaderSource.toChar_toNat (c : JChar) : toChar c.toNat = c := by
  have hlt : c.toNat < 65536 := c.toNat_lt
  unfold toChar
  rw [Int.emod_eq_of_lt (Int.natCast_nonneg _) (by omega), Int.toNat_natCast, UInt16.ofNat_toNat]

theorem readerSource_implements :
    Implements ⟨ReaderSource.hasNext, ReaderSource.readNext, ReaderSource.peek⟩ readerSource ReaderSource.Left := by
  constructor
  · intro s rest h
    dsimp only [ReaderSource.hasNext]
    cases rest with
    | nil =>
      rw [ReaderSource.getNext_nil h]
      exact ⟨rfl, .fresh []⟩
    | cons c rest =>
      rw [ReaderSource.getNext_cons h]
      exact ⟨decide_eq_true (Int.natCast_nonneg _), .ahead c rest⟩
  · intro s c rest h
    dsimp only [ReaderSource.readNext]
    rw [ReaderSource.getNext_cons h]
    exact ⟨congrArg _ (ReaderSource.toChar_toNat c), .fresh rest⟩
  · intro s c rest h
    dsimp only [ReaderSource.peek]
    rw [ReaderSource.getNext_cons h]
    exact ⟨congrArg _ (ReaderSource.toChar_toNat c), .ahead c rest⟩
  · intro s h
    dsimp only [ReaderSource.readNext]
    rw [ReaderSource.getNext_nil h]
    exact ⟨rfl, fun _ => .fresh []⟩

/-! ## Strings -/

variable {source}

@[simp] theorem next_cons (c : JChar) (rest : JString) : next source (c :: rest) = .ok (c, rest) := rfl

theorem builderLoop_nil (escape : Bool) (builder : JString) : builderLoop source escape [] builder = .ok (builder, []) := by
  rw [builderLoop.eq_def]

theorem builderLoop_unicode (rest builder : JString) : builderLoop source true (0x75 :: rest) builder =
    (unicode source rest >>= fun p => builderLoop source false p.2 (builder ++ [p.1])) := by
  rw [builderLoop.eq_def]
  dsimp only
  rw [if_pos rfl, if_pos rfl]
  split
  · rename_i h
    rw [h, parsed_bind]
  · rename_i h
    rw [h, stopped_bind]

theorem builderLoop_escape {c : JChar} (h : c ≠ 0x75) (rest builder : JString) :
    builderLoop source true (c :: rest) builder = builderLoop source false rest (builder ++ [unescape c]) := by
  rw [builderLoop.eq_def]
  dsimp only
  rw [if_pos rfl, if_neg h]

theorem builderLoop_backslash (rest builder : JString) :
    builderLoop source false (0x5C :: rest) builder = builderLoop source true rest builder := by
  rw [builderLoop.eq_def]
  rfl

theorem builderLoop_quote (rest builder : JString) : builderLoop source false (0x22 :: rest) builder = .ok (builder, rest) := by
  rw [builderLoop.eq_def]
  rfl

theorem builderLoop_char {c : JChar} (hslash : c ≠ 0x5C) (hquote : c ≠ 0x22) (rest builder : JString) :
    builderLoop source false (c :: rest) builder = builderLoop source false rest (builder ++ [c]) := by
  rw [builderLoop.eq_def]
  dsimp only
  rw [if_neg Bool.false_ne_true, if_neg hslash, if_neg hquote]

/-- **The size of the scratch buffer does not matter.** -/
theorem scratchLoop_eq (escape : Bool) (rest scratch : JString) :
    scratchLoop source escape rest scratch = builderLoop source escape rest scratch := by
  fun_induction scratchLoop source escape rest scratch with
  | case1 escape scratch => exact (builderLoop_nil escape scratch).symm
  | case2 escape scratch c rest hfull => rfl
  | case3 scratch rest hroom uc later hunicode ih => rw [ih, builderLoop_unicode, hunicode, parsed_bind]
  | case4 scratch rest hroom e hunicode => rw [builderLoop_unicode, hunicode, stopped_bind]
  | case5 scratch c rest hroom hc ih => rw [ih, builderLoop_escape hc]
  | case6 escape scratch rest hroom hescape ih =>
    rw [Bool.not_eq_true] at hescape
    rw [ih, hescape, builderLoop_backslash]
  | case7 escape scratch rest hroom hescape hslash =>
    rw [Bool.not_eq_true] at hescape
    rw [hescape, builderLoop_quote]
  | case8 escape scratch c rest hroom hescape hslash hquote ih =>
    rw [Bool.not_eq_true] at hescape
    rw [ih, hescape, builderLoop_char hslash hquote]

theorem parseString_quote (rest : JString) : parseString source (0x22 :: rest) = builderLoop source false rest [] :=
  scratchLoop_eq false rest []

/-! ## What begins a value -/

/-- what the loop of `parse` does at a char: it goes on, in a state, or reads a value -/
inductive Kind where
  | skipped (state : ℤ)
  | object
  | array
  | string
  | number
  | literal (v : JObject) (seek : JString)
  | unknown

def kindOf (state : ℤ) (c : JChar) : Kind :=
  if state ≠ 0 then .skipped (commentStep state c)
  else if c = 0x7B then .object
  else if c = 0x5B then .array
  else if c = 0x22 then .string
  else if c = 0x2D then .number
  else if c = 0x6E then .literal .null (str "null")
  else if c = 0x74 then .literal (.boolean true) (str "true")
  else if c = 0x66 then .literal (.boolean false) (str "false")
  else if c = 0x75 then .literal .null (str "undefined")
  else if c = 0x4E then .literal .null (str "NaN")
  else if c = 0x2F then .skipped 1
  else if isDigit c then .number
  else if isWhitespace c then .skipped 0
  else .unknown

def Kind.run (source : Source) (object array : JString → Except Stop (JObject × JString)) (c : JChar) (rest : JString) :
    Kind → Except Stop (JObject × JString)
  | .skipped state => parseLoop source object array state rest
  | .object => object (c :: rest)
  | .array => array (c :: rest)
  | .string => do
    let (s, rest) ← parseString source (c :: rest)
    return (.string s, rest)
  | .number => parseNumber (c :: rest)
  | .literal v seek => do return (v, ← complete seek (c :: rest))
  | .unknown => raise .illegalState

theorem parseLoop_cons (object array : JString → Except Stop (JObject × JString)) (state : ℤ) (c : JChar) (rest : JString) :
    parseLoop source object array state (c :: rest) = (kindOf state c).run source object array c rest := by
  unfold parseLoop kindOf
  simp only [apply_ite (Kind.run source object array c rest)]
  rfl

/-! ## Arrays -/

/-- the items of an array, wherever they are kept -/
inductive Items.Holds : Items → List JObject → Prop where
  | empty : Holds ⟨0, .null, none⟩ []
  | one (item : JObject) : Holds ⟨1, item, none⟩ [item]
  | more (list : List JObject) : 2 ≤ list.length → Holds ⟨list.length, .null, some list⟩ list

theorem add_ok {list : List JObject} (h : list.length < MAX_ITEMS) (item : JObject) : add list item = .ok (list ++ [item]) :=
  if_pos h

theorem Items.Holds.put_ok {items : Items} {list : List JObject} (h : items.Holds list) (hroom : list.length < MAX_ITEMS)
    (item : JObject) : ∃ items', items.put item = .ok items' ∧ items'.Holds (list ++ [item]) := by
  cases h with
  | empty => exact ⟨⟨1, item, none⟩, rfl, .one item⟩
  | one first =>
    refine ⟨⟨2, .null, some [first, item]⟩, ?_, .more [first, item] (Nat.le_refl 2)⟩
    have hfirst : add [] first = .ok [first] := add_ok (by decide) first
    have hsecond : add [first] item = .ok [first, item] := add_ok hroom item
    unfold Items.put
    rw [if_neg Nat.one_ne_zero]
    simp only [hfirst, hsecond, ok_bind]
    rfl
  | more list htwo =>
    have hne : list.length ≠ 0 := by omega
    refine ⟨⟨list.length + 1, .null, some (list ++ [item])⟩, ?_, ?_⟩
    · unfold Items.put
      rw [if_neg hne]
      simp only [add_ok hroom item, ok_bind]
      rfl
    · have hmore : (⟨(list ++ [item]).length, .null, some (list ++ [item])⟩ : Items).Holds (list ++ [item]) :=
        .more _ (by rw [List.length_append]; omega)
      rw [List.length_append, List.length_singleton] at hmore
      exact hmore

theorem Items.Holds.put_full {items : Items} {list : List JObject} (h : items.Holds list) (hfull : ¬ list.length < MAX_ITEMS)
    (item : JObject) : items.put item = .error .outOfMemory := by
  cases h with
  | empty => exact absurd (show 0 < MAX_ITEMS by decide) hfull
  | one first => exact absurd (show 1 < MAX_ITEMS by decide) hfull
  | more list htwo =>
    have hne : list.length ≠ 0 := by omega
    have hadd : add list item = .error .outOfMemory := if_neg hfull
    unfold Items.put
    rw [if_neg hne]
    simp only [hadd, error_bind]

theorem Items.Holds.toArray {items : Items} {list : List JObject} (h : items.Holds list) : items.toArray = .ok list := by
  cases h with
  | empty => rfl
  | one item => rfl
  | more list htwo =>
    obtain ⟨n, hn⟩ := Nat.exists_eq_add_of_le' htwo
    unfold Items.toArray
    rw [hn]
    rfl

end SocketIOJava.JsonParse
