/-
Which transports a client tries.

The handshake's response names the transports of the server. The client takes those that it has as well, uses the first one
that works in its browser, and goes on to the next one when a connection takes too long. What is left of the list is kept in
`remainingTransports`, which nothing ever sets back: a later connection goes on where an earlier one has stopped.

The client is `Socket` of `socket.io.js` with what `getTransport` finds computed. The option `try multiple transports`, which
a reconnection turns off and restores, is part of a connect timeout: it may have any value there.

- `client_run`: its runs are runs of the client in which that is left open.
- `agreed_handshakeBody`: the client reads the names that the server wrote.
- `tried_in_order`: in every run of a client and one server, the transports that a connection has tried are the first ones
  that work, one and one more for each timeout while the option is on; once an earlier connection has fallen back, they are
  the first one and those that work in what is left after it, which is nothing unless it is listed twice.
-/
import SocketIOJava.Servlet
import SocketIOJava.ClientDelivery

namespace SocketIOJava.Transports

open Program SocketIOJava.Text SocketIOJava.Frame SocketIOJava.Servlet SocketIOJava.ClientSocket

/-! ## The list -/

def COMMA : JChar := 0x2C

/-- `util.intersect(arr, arr2)`: what both have, in the order of the shorter one -/
def intersect (arr arr2 : List JString) : List JString :=
  let longest := if arr.length > arr2.length then arr else arr2
  let shortest := if arr.length > arr2.length then arr2 else arr
  shortest.filter (longest.contains ·)

/-- `self.transports`, from the fourth part of the handshake's response; none is as good as an empty one -/
def agreed (transports : List JString) (response : JString) : List JString :=
  let names := (response.splitOn SEPERATOR_CHAR)[3]?.getD []
  if names = [] then transports else intersect (names.splitOn COMMA) transports

/-- the transports that a server and a client have -/
def shared (ts : List TransportType) (transports : List JString) : List JString :=
  if ts = [] then transports else intersect (ts.map TransportType.toString) transports

theorem mem_intersect {arr arr2 : List JString} {t : JString} : t ∈ intersect arr arr2 ↔ t ∈ arr ∧ t ∈ arr2 := by
  unfold intersect
  by_cases h : arr.length > arr2.length
  · simp only [if_pos h, List.mem_filter, List.contains_iff_mem]
    exact and_comm
  · simp only [if_neg h, List.mem_filter, List.contains_iff_mem]

/-- the names that follow one -/
theorem foldl_names {ts : List TransportType} {names : JString} (hne : names ≠ []) :
    ts.foldl (fun names transport => (if names = [] then names else names ++ str ",") ++ transport.toString) names =
      names ++ ts.flatMap fun t => COMMA :: t.toString := by
  induction ts generalizing names with
  | nil => exact (List.append_nil _).symm
  | cons t ts ih =>
    rw [List.foldl_cons, if_neg hne, ih (by simp [hne])]
    simp only [List.flatMap_cons, List.append_assoc]
    rfl

theorem intercalate_names (name : JString) (ts : List TransportType) :
    [COMMA].intercalate (name :: ts.map TransportType.toString) = name ++ ts.flatMap fun t => COMMA :: t.toString := by
  induction ts generalizing name with
  | nil => rw [List.map_nil, List.intercalate_singleton, List.flatMap_nil, List.append_nil]
  | cons t ts ih => rw [List.map_cons, List.intercalate_cons_cons, ih, List.flatMap_cons]; simp

/-- the handshake lists the names with commas between them -/
theorem listTransports_eq {ts : List TransportType} (h : .unknown ∉ ts) :
    listTransports ts = [COMMA].intercalate (ts.map TransportType.toString) := by
  cases ts with
  | nil => rfl
  | cons t ts =>
    have hname : t.toString ≠ [] := by
      cases t with
      | unknown => exact absurd List.mem_cons_self h
      | _ => decide
    unfold listTransports
    rw [List.foldl_cons, if_pos rfl, List.nil_append, foldl_names hname, List.map_cons, intercalate_names]

theorem colon_free (t : TransportType) : SEPERATOR_CHAR ∉ t.toString := by cases t <;> decide

theorem comma_free (t : TransportType) : COMMA ∉ t.toString := by cases t <;> decide

theorem colon_not_mem_intercalate (ts : List TransportType) :
    SEPERATOR_CHAR ∉ [COMMA].intercalate (ts.map TransportType.toString) := by
  cases ts with
  | nil => exact List.not_mem_nil
  | cons t ts =>
    rw [List.map_cons, intercalate_names, List.mem_append, List.mem_flatMap, not_or]
    refine ⟨colon_free t, ?_⟩
    rintro ⟨t', -, h⟩
    rcases List.mem_cons.1 h with h | h
    · exact absurd h (by decide)
    · exact colon_free t' h

/-- the four parts of the response -/
theorem splitOn_handshakeBody {ts : List TransportType} (h : .unknown ∉ ts) (now : ℕ) :
    (handshakeBody ts now).splitOn SEPERATOR_CHAR =
      [intToString now, DEFAULT_HEARTBEAT_TIMEOUT, DEFAULT_TIMEOUT, listTransports ts] := by
  have hbody : handshakeBody ts now = [SEPERATOR_CHAR].intercalate
      [intToString now, DEFAULT_HEARTBEAT_TIMEOUT, DEFAULT_TIMEOUT, listTransports ts] := by
    simp only [List.intercalate_cons_cons, List.intercalate_singleton, List.append_assoc, handshakeBody]
    rfl
  rw [hbody]
  refine List.splitOn_intercalate _ ?_ (List.cons_ne_nil _ _)
  have hdigits : SEPERATOR_CHAR ∉ intToString now := fun hc =>
    (digit_isSome_ne (digit_of_decimal (decimal_intToString now) _ hc)).2.2.1 rfl
  have hnames : SEPERATOR_CHAR ∉ listTransports ts := listTransports_eq h ▸ colon_not_mem_intercalate ts
  exact List.forall_mem_cons.2 ⟨hdigits, List.forall_mem_cons.2 ⟨by decide, List.forall_mem_cons.2 ⟨by decide,
    List.forall_mem_singleton.2 hnames⟩⟩⟩

/-- **The client reads the names that the server wrote.** -/
theorem agreed_handshakeBody {ts : List TransportType} (h : .unknown ∉ ts) (transports : List JString) (now : ℕ) :
    agreed transports (handshakeBody ts now) = shared ts transports := by
  unfold agreed shared
  rw [splitOn_handshakeBody h now]
  change (if listTransports ts = [] then transports else intersect ((listTransports ts).splitOn COMMA) transports) = _
  rw [listTransports_eq h]
  cases ts with
  | nil => rfl
  | cons t ts =>
    have hsplit : ([COMMA].intercalate ((t :: ts).map TransportType.toString)).splitOn COMMA =
        (t :: ts).map TransportType.toString :=
      List.splitOn_intercalate _ (List.forall_mem_map.2 fun t _ => comma_free t) (List.cons_ne_nil _ _)
    have hne : [COMMA].intercalate ((t :: ts).map TransportType.toString) ≠ [] := by
      intro hnil
      rw [hnil] at hsplit
      have hname : t.toString = [] := (List.cons.inj hsplit).1.symm
      cases t with
      | unknown => exact h List.mem_cons_self
      | _ => exact absurd hname (by decide)
    rw [if_neg (List.cons_ne_nil _ _), if_neg hne, hsplit]

/-! ## The choice -/

/-- what the page's browser and its options say; `usable` are the transports that `io.Transport` has and whose checks pass -/
structure Browser where
  transports : List JString
  usable : JString → Bool
  kind : JString → Kind

/-- the fields of `Socket` that `getTransport` and the connect timeout use, `name` for `transport.name`. Of the present
connection `tried` are the transports that were chosen, `timeouts` counts the connect timeouts that found it unconnected and
the option on, and `resumed` is what `remainingTransports` was before it. -/
structure Choice where
  transports : List JString
  remainingTransports : Option (List JString)
  name : Option JString
  tried : List JString
  timeouts : ℕ
  resumed : Option (List JString)

/-- `getTransport(transports)`, which stops at an empty name -/
def getTransport (b : Browser) (transports : List JString) : Option JString := (transports.takeWhile (· ≠ [])).find? b.usable

/-- `while (remaining.length > 0 && remaining.splice(0, 1)[0] != name) {}` -/
def spliceThrough (name : JString) : List JString → List JString
  | [] => []
  | t :: remaining => if t ≠ name then spliceThrough name remaining else remaining

/-- a connection begins with the first transport that works -/
def begin (b : Browser) (c : Choice) : Choice :=
  { c with
    name := getTransport b c.transports
    tried := (getTransport b c.transports).toList
    timeouts := 0
    resumed := c.remainingTransports }

/-- the socket is not connected in time; there may be no transport any more, of which the name would be read -/
def fallBack (b : Browser) (c : Choice) : Next × Choice :=
  let remaining := c.remainingTransports.getD c.transports
  match c.name with
  | none =>
    (if remaining = [] then .exhausted else .off,
      { c with timeouts := c.timeouts + 1, remainingTransports := some remaining.tail })
  | some name =>
    let rest := spliceThrough name remaining
    let late := { c with timeouts := c.timeouts + 1, remainingTransports := some rest }
    if rest = [] then (.exhausted, late)
    else
      (.found ((getTransport b rest).map b.kind),
        { late with name := getTransport b rest, tried := c.tried ++ (getTransport b rest).toList })

/-! ### The events -/

structure St where
  client : ClientSocket.St
  choice : Choice

/-- an event that chooses no transport -/
def Undecided : ClientSocket.Event → Prop
  | .handshake _ | .connectTimeout _ | .retry _ => False
  | _ => True

inductive Event where
  | handshake (response : JString)
  /-- with what `options['try multiple transports']` is then -/
  | connectTimeout (tryMultiple : Bool)
  | retry
  | other (e : ClientSocket.Event) (h : Undecided e)

structure Input where
  event : Event
  acts : List Act

/-- `maybeReconnect` makes the last attempt, for which it chooses a transport anew -/
def redoes (o : Options) (s : Socket) : Bool :=
  s.reconnecting && !s.connected && !s.connecting && decide (s.attempts ≥ o.maxAttempts) && !s.redoTransports

/-- what `getTransport` finds in an event -/
def resolve (b : Browser) (o : Options) (s : St) : Event → ClientSocket.Event × Choice
  | .handshake response =>
    let c := begin b { s.choice with transports := agreed b.transports response }
    (.handshake (c.name.map b.kind), c)
  | .connectTimeout tryMultiple =>
    if s.client.socket.connected || !tryMultiple then (.connectTimeout .off, s.choice)
    else (.connectTimeout (fallBack b s.choice).1, (fallBack b s.choice).2)
  | .retry =>
    (.retry ((getTransport b s.choice.transports).map b.kind),
      if redoes o s.client.socket then begin b s.choice else s.choice)
  | .other e _ => (e, s.choice)

def step (b : Browser) (o : Options) (s : St) (i : Input) : St :=
  ⟨ClientSocket.step o s.client ⟨(resolve b o s i.event).1, i.acts⟩, (resolve b o s i.event).2⟩

def run (b : Browser) (o : Options) (s : St) (is : List Input) : St := is.foldl (step b o) s

/-- a new socket, whose handshake has this response -/
def start (b : Browser) (o : Options) (response : JString) (acts : List Act) : St :=
  step b o ⟨created, ⟨[], none, none, [], 0, none⟩⟩ ⟨.handshake response, acts⟩

/-- a run is one of the client, with the same calls of the page -/
theorem client_run (b : Browser) (o : Options) (s : St) (is : List Input) :
    ∃ is' : List ClientSocket.Input, is'.map (·.acts) = is.map (·.acts) ∧
      (run b o s is).client = ClientSocket.run o s.client is' := by
  induction is generalizing s with
  | nil => exact ⟨[], rfl, rfl⟩
  | cons i is ih =>
    obtain ⟨is', hacts, hrun⟩ := ih (step b o s i)
    exact ⟨⟨(resolve b o s i.event).1, i.acts⟩ :: is', congrArg (i.acts :: ·) hacts, hrun⟩

/-! ## What is tried -/

section

variable {b : Browser} {o : Options} {ts : List JString} {c : Choice}

theorem spliceThrough_suffix (name : JString) (l : List JString) : spliceThrough name l <:+ l := by
  induction l with
  | nil => exact List.suffix_rfl
  | cons t l ih =>
    unfold spliceThrough
    split_ifs
    · exact ih.trans (List.suffix_cons t l)
    · exact List.suffix_cons t l

theorem spliceThrough_absent {name : JString} {l : List JString} (h : name ∉ l) : spliceThrough name l = [] := by
  induction l with
  | nil => rfl
  | cons t l ih =>
    have hne : t ≠ name := fun heq => h (heq ▸ List.mem_cons_self)
    exact (if_pos hne).trans (ih fun hmem => h (List.mem_cons_of_mem _ hmem))

/-- the first transport that works, and what comes after it -/
theorem spliceThrough_first {u : JString} {l : List JString} (h : l.find? b.usable = some u) :
    (∃ pre, l = (pre ++ [u]) ++ spliceThrough u l) ∧ l.filter b.usable = u :: (spliceThrough u l).filter b.usable := by
  induction l with
  | nil => cases h
  | cons t l ih =>
    by_cases ht : b.usable t = true
    · rw [List.find?_cons_of_pos ht] at h
      cases h
      have hrest : spliceThrough u (u :: l) = l := if_neg (not_not.2 rfl)
      rw [hrest, List.filter_cons_of_pos ht]
      exact ⟨⟨[], rfl⟩, rfl⟩
    · rw [List.find?_cons_of_neg ht] at h
      have hne : t ≠ u := fun heq => ht (heq ▸ List.find?_some h)
      have hrest : spliceThrough u (t :: l) = spliceThrough u l := if_pos hne
      obtain ⟨⟨pre, hpre⟩, hfilter⟩ := ih h
      rw [hrest, List.filter_cons_of_neg ht]
      exact ⟨⟨t :: pre, congrArg (t :: ·) hpre⟩, hfilter⟩

/-- `getTransport` finds the first transport that works -/
theorem getTransport_eq {l : List JString} (h : [] ∉ l) : getTransport b l = l.find? b.usable := by
  unfold getTransport
  have hall : l.takeWhile (· ≠ []) = l :=
    List.takeWhile_eq_self_iff.2 fun t ht => decide_eq_true fun heq : t = [] => h (heq ▸ ht)
  rw [hall]

/-- what is left of the list -/
def left (c : Choice) : List JString := c.remainingTransports.getD c.transports

/-- there is no transport, or the list is at its end, or it goes on -/
theorem fallBack_cases (b : Browser) (c : Choice) :
    c.name = none ∧ (fallBack b c).2 = { c with timeouts := c.timeouts + 1, remainingTransports := some (left c).tail } ∨
      ∃ name, c.name = some name ∧
        (spliceThrough name (left c) = [] ∧
            (fallBack b c).2 =
              { c with timeouts := c.timeouts + 1, remainingTransports := some (spliceThrough name (left c)) } ∨
          (fallBack b c).2 = { c with
            timeouts := c.timeouts + 1
            remainingTransports := some (spliceThrough name (left c))
            name := getTransport b (spliceThrough name (left c))
            tried := c.tried ++ (getTransport b (spliceThrough name (left c))).toList }) := by
  obtain ⟨transports, remainingTransports, name, tried, timeouts, resumed⟩ := c
  cases name with
  | none => exact .inl ⟨rfl, rfl⟩
  | some name =>
    refine .inr ⟨name, rfl, ?_⟩
    by_cases hrest : spliceThrough name (remainingTransports.getD transports) = []
    · exact .inl ⟨hrest, congrArg Prod.snd (if_pos hrest)⟩
    · exact .inr (congrArg Prod.snd (if_neg hrest))

/-- the transports that the next timeouts go on with -/
def upcoming (b : Browser) (c : Choice) : List JString :=
  match c.name with
  | none => []
  | some name => (spliceThrough name (left c)).filter b.usable

theorem upcoming_some {name : JString} (h : c.name = some name) :
    upcoming b c = (spliceThrough name (left c)).filter b.usable := by
  unfold upcoming
  rw [h]

theorem upcoming_none (h : c.name = none) : upcoming b c = [] := by
  unfold upcoming
  rw [h]

/-- what a connection goes through with these transports, of which `left` were left when it began: the first one that works,
and those that work after it in what was left -/
def course (b : Browser) (ts left : List JString) : List JString :=
  match ts.find? b.usable with
  | none => []
  | some u => u :: (spliceThrough u left).filter b.usable

/-- with nothing gone from the list, these are all that work -/
theorem course_whole (b : Browser) (ts : List JString) : course b ts ts = ts.filter b.usable := by
  unfold course
  cases hu : ts.find? b.usable with
  | none => exact (List.filter_eq_nil_iff.2 (List.find?_eq_none.1 hu)).symm
  | some u => exact (spliceThrough_first hu).2.symm

theorem course_cons {u : JString} (h : ts.find? b.usable = some u) (left : List JString) :
    course b ts left = u :: (spliceThrough u left).filter b.usable := by
  unfold course
  rw [h]

/-- this is left of the list, and the first transport that works was before it -/
def Past (b : Browser) (ts rest : List JString) : Prop := ∃ pre, ts = pre ++ rest ∧ ∀ u, ts.find? b.usable = some u → u ∈ pre

theorem Past.suffix {rest rest' : List JString} (h : Past b ts rest) (hrest : rest' <:+ rest) : Past b ts rest' := by
  obtain ⟨pre, hsplit, hfirst⟩ := h
  obtain ⟨gone, rfl⟩ := hrest
  exact ⟨pre ++ gone, by rw [hsplit, List.append_assoc], fun u hu => List.mem_append_left _ (hfirst u hu)⟩

theorem Past.subset {rest : List JString} (h : Past b ts rest) : rest ⊆ ts := by
  obtain ⟨pre, rfl, -⟩ := h
  exact List.subset_append_right _ _

/-- where the list has no transport twice, a later connection has the first one that works, and no other -/
theorem Past.course_eq {rest : List JString} (h : Past b ts rest) (hts : ts.Nodup) :
    course b ts rest = (ts.filter b.usable).take 1 := by
  unfold course
  cases hu : ts.find? b.usable with
  | none => rw [List.filter_eq_nil_iff.2 (List.find?_eq_none.1 hu)]; rfl
  | some u =>
    obtain ⟨pre, hsplit, hfirst⟩ := h
    rw [hsplit] at hts
    have habsent : u ∉ rest := fun hmem => (List.disjoint_of_nodup_append hts) (hfirst u hu) hmem
    change u :: (spliceThrough u rest).filter b.usable = _
    rw [spliceThrough_absent habsent, (spliceThrough_first hu).2]
    rfl

/-- where a connection stands with these transports -/
structure Inv (b : Browser) (ts : List JString) (c : Choice) : Prop where
  transports : c.transports = ts
  first : c.remainingTransports = none → c.name = ts.find? b.usable
  remaining : ∀ rest, c.remainingTransports = some rest → Past b ts rest
  resumed : ∀ rest, c.resumed = some rest → Past b ts rest
  tried : c.tried = (course b ts (c.resumed.getD ts)).take (c.timeouts + 1)
  ahead : upcoming b c = (course b ts (c.resumed.getD ts)).drop (c.timeouts + 1)

/-- a timeout with nothing left to try -/
theorem Inv.idle (h : Inv b ts c) (hidle : upcoming b c = []) :
    c.tried = (course b ts (c.resumed.getD ts)).take (c.timeouts + 1 + 1) ∧
      [] = (course b ts (c.resumed.getD ts)).drop (c.timeouts + 1 + 1) := by
  have hlength : (course b ts (c.resumed.getD ts)).length ≤ c.timeouts + 1 :=
    List.drop_eq_nil_iff.1 (h.ahead.symm.trans hidle)
  refine ⟨?_, (List.drop_eq_nil_of_le (hlength.trans (Nat.le_succ _))).symm⟩
  rw [h.tried, List.take_of_length_le hlength, List.take_of_length_le (hlength.trans (Nat.le_succ _))]

/-- what is left after the present transport, or the one before where there is none -/
theorem Inv.past_left (h : Inv b ts c) :
    (∀ name, c.name = some name → Past b ts (spliceThrough name (left c))) ∧ (c.name = none → Past b ts (left c).tail) := by
  unfold left
  cases hremaining : c.remainingTransports with
  | some rest =>
    have hpast := h.remaining rest hremaining
    exact ⟨fun name _ => hpast.suffix (spliceThrough_suffix name rest), fun _ => hpast.suffix (List.tail_suffix rest)⟩
  | none =>
    have hfirst := h.first hremaining
    rw [Option.getD_none, h.transports]
    refine ⟨fun name hname => ?_, fun hname => ?_⟩
    · have hu : ts.find? b.usable = some name := hfirst.symm.trans hname
      obtain ⟨pre, hsplit⟩ := (spliceThrough_first hu).1
      refine ⟨pre ++ [name], hsplit, fun u hu' => ?_⟩
      cases hu.symm.trans hu'
      exact List.mem_append_right _ (List.mem_singleton_self _)
    · obtain ⟨pre, hsplit⟩ := List.tail_suffix ts
      exact ⟨pre, hsplit.symm, fun u hu => by cases hu.symm.trans (hfirst.symm.trans hname)⟩

variable (hnames : [] ∉ ts)
include hnames

/-- a connection begins, the first one or a later one -/
theorem inv_begin (htransports : c.transports = ts)
    (hremaining : ∀ rest, c.remainingTransports = some rest → Past b ts rest) : Inv b ts (begin b c) := by
  have hfind : (begin b c).name = ts.find? b.usable :=
    (congrArg (getTransport b) htransports).trans (getTransport_eq hnames)
  have hresumed : (begin b c).resumed.getD ts = left (begin b c) := by
    change c.remainingTransports.getD ts = c.remainingTransports.getD c.transports
    rw [htransports]
  have htried : (begin b c).tried = (ts.find? b.usable).toList := congrArg Option.toList hfind
  refine ⟨htransports, fun _ => hfind, hremaining, hremaining, ?_, ?_⟩
  · rw [htried, hresumed]
    unfold course
    cases ts.find? b.usable <;> rfl
  · rw [hresumed]
    cases hu : ts.find? b.usable with
    | none =>
      rw [upcoming_none (hfind.trans hu), course, hu]
      rfl
    | some u =>
      rw [upcoming_some (hfind.trans hu), course_cons hu]
      rfl

omit hnames in
/-- a timeout leaves `rest`; what was tried and what is ahead go one further -/
theorem Inv.late (h : Inv b ts c) {rest tried : List JString} {name : Option JString} (hrest : Past b ts rest)
    (htried : tried = (course b ts (c.resumed.getD ts)).take (c.timeouts + 1 + 1))
    (hahead : upcoming b ⟨c.transports, some rest, name, tried, c.timeouts + 1, c.resumed⟩ =
      (course b ts (c.resumed.getD ts)).drop (c.timeouts + 1 + 1)) :
    Inv b ts ⟨c.transports, some rest, name, tried, c.timeouts + 1, c.resumed⟩ where
  transports := h.transports
  first := nofun
  remaining := by
    rintro rest ⟨⟩
    exact hrest
  resumed := h.resumed
  tried := htried
  ahead := hahead

omit hnames in
/-- the next transport is the first of those ahead -/
theorem Inv.next (h : Inv b ts c) {name v : JString} (hname : c.name = some name)
    (hv : (spliceThrough name (left c)).find? b.usable = some v) :
    c.tried ++ [v] = (course b ts (c.resumed.getD ts)).take (c.timeouts + 1 + 1) ∧
      (spliceThrough v (spliceThrough name (left c))).filter b.usable =
        (course b ts (c.resumed.getD ts)).drop (c.timeouts + 1 + 1) := by
  have hahead : (course b ts (c.resumed.getD ts)).drop (c.timeouts + 1) =
      v :: (spliceThrough v (spliceThrough name (left c))).filter b.usable :=
    h.ahead.symm.trans ((upcoming_some hname).trans (spliceThrough_first hv).2)
  have hget : (course b ts (c.resumed.getD ts))[c.timeouts + 1]? = some v := by
    rw [← List.head?_drop, hahead]
    rfl
  refine ⟨?_, ?_⟩
  · rw [h.tried, List.take_add_one (i := c.timeouts + 1), hget]
    rfl
  · rw [← List.drop_drop, hahead]
    rfl

/-- **A timeout** goes on to the next transport that works, if there is one. -/
theorem inv_fallBack (h : Inv b ts c) : Inv b ts (fallBack b c).2 := by
  obtain ⟨hpast, hnone⟩ := h.past_left
  rcases fallBack_cases b c with ⟨hname, heq⟩ | ⟨name, hname, hcase⟩
  · obtain ⟨htried, hahead⟩ := h.idle (upcoming_none hname)
    rw [heq]
    exact h.late (hnone hname) htried ((upcoming_none (by exact hname)).trans hahead)
  have hall : upcoming b c = (spliceThrough name (left c)).filter b.usable := upcoming_some hname
  have hrest := hpast name hname
  rcases hcase with ⟨hempty, heq⟩ | heq
  · rw [hempty] at hall hrest heq
    obtain ⟨htried, hahead⟩ := h.idle hall
    rw [heq]
    exact h.late hrest htried ((upcoming_some (by exact hname)).trans hahead)
  have hfind : getTransport b (spliceThrough name (left c)) = (spliceThrough name (left c)).find? b.usable :=
    getTransport_eq fun hmem => hnames (hrest.subset hmem)
  rw [heq, hfind]
  cases hv : (spliceThrough name (left c)).find? b.usable with
  | none =>
    have hidle : (spliceThrough name (left c)).filter b.usable = [] :=
      List.filter_eq_nil_iff.2 (List.find?_eq_none.1 hv)
    obtain ⟨htried, hahead⟩ := h.idle (hall.trans hidle)
    exact h.late hrest ((List.append_nil _).trans htried) ((upcoming_none rfl).trans hahead)
  | some v =>
    obtain ⟨htried, hahead⟩ := h.next hname hv
    exact h.late hrest htried ((upcoming_some rfl).trans hahead)

/-! ### Runs -/

/-- what every event keeps, if each handshake brings the same transports -/
theorem inv_step {s : St} {i : Input} (hserver : ∀ response, i.event = .handshake response → agreed b.transports response = ts)
    (h : Inv b ts s.choice) : Inv b ts (step b o s i).choice := by
  change Inv b ts (resolve b o s i.event).2
  cases hevent : i.event with
  | handshake response => exact inv_begin hnames (hserver response hevent) h.remaining
  | connectTimeout tryMultiple =>
    change Inv b ts (if s.client.socket.connected || !tryMultiple then (.connectTimeout .off, s.choice)
      else (.connectTimeout (fallBack b s.choice).1, (fallBack b s.choice).2) : ClientSocket.Event × Choice).2
    split_ifs
    · exact h
    · exact inv_fallBack hnames h
  | retry =>
    change Inv b ts (if redoes o s.client.socket then begin b s.choice else s.choice)
    split_ifs
    · exact inv_begin hnames h.transports h.remaining
    · exact h
  | other e _ => exact h

theorem inv_run {s : St} (is : List Input)
    (hserver : ∀ i ∈ is, ∀ response, i.event = .handshake response → agreed b.transports response = ts)
    (h : Inv b ts s.choice) : Inv b ts (run b o s is).choice := by
  induction is generalizing s with
  | nil => exact h
  | cons i is ih =>
    obtain ⟨hi, his⟩ := List.forall_mem_cons.1 hserver
    exact ih his (inv_step hnames hi h)

omit hnames in
/-- what was tried is from the list, and works -/
theorem Inv.mem_tried (h : Inv b ts c) {t : JString} (ht : t ∈ c.tried) : b.usable t = true ∧ t ∈ ts := by
  rw [h.tried] at ht
  have hmem := List.mem_of_mem_take ht
  unfold course at hmem
  cases hu : ts.find? b.usable with
  | none => rw [hu] at hmem; cases hmem
  | some u =>
    rw [hu] at hmem
    rcases List.mem_cons.1 hmem with rfl | hlater
    · exact ⟨List.find?_some hu, List.mem_of_find?_eq_some hu⟩
    · obtain ⟨hsplice, husable⟩ := List.mem_filter.1 hlater
      refine ⟨husable, ?_⟩
      have hleft : t ∈ c.resumed.getD ts := (spliceThrough_suffix u _).subset hsplice
      cases hresumed : c.resumed with
      | none => rw [hresumed] at hleft; exact hleft
      | some rest => rw [hresumed] at hleft; exact (h.resumed rest hresumed).subset hleft

end

/-- both parties have what they share -/
theorem mem_shared {ts : List TransportType} {transports : List JString} {t : JString} (h : t ∈ shared ts transports) :
    t ∈ transports ∧ (ts ≠ [] → ∃ type ∈ ts, type.toString = t) := by
  unfold shared at h
  split_ifs at h with hts
  · exact ⟨h, fun hne => absurd hts hne⟩
  · obtain ⟨hserver, hclient⟩ := mem_intersect.1 h
    exact ⟨hclient, fun _ => List.mem_map.1 hserver⟩

/-- **Which transports a connection tries.** A client and a server whose transports do not change: in every run, with any
number of connections, the present one has tried the first transports that both have and that work in the browser, one and
one more with each timeout while the option is on. If an earlier connection has fallen back, it has tried the first one and
goes on with those that work after it in what was left; that is the first one only, where no transport is listed twice. -/
theorem tried_in_order (b : Browser) (o : Options) {ts : List TransportType} (hknown : .unknown ∉ ts)
    (hnames : [] ∉ b.transports) (now : ℕ) (acts : List Act) (is : List Input)
    (hserver : ∀ i ∈ is, ∀ response, i.event = .handshake response → ∃ now, response = handshakeBody ts now) :
    let c := (run b o (start b o (handshakeBody ts now) acts) is).choice
    let all := shared ts b.transports
    (c.resumed = none → c.tried = (all.filter b.usable).take (c.timeouts + 1)) ∧
      (∀ left, c.resumed = some left → c.tried = (course b all left).take (c.timeouts + 1) ∧
        (all.Nodup → c.tried = (all.filter b.usable).take 1)) ∧
      ∀ t ∈ c.tried, b.usable t = true ∧ t ∈ b.transports ∧ (ts ≠ [] → ∃ type ∈ ts, type.toString = t) := by
  intro c all
  have hnonempty : [] ∉ all := fun hmem => hnames (mem_shared hmem).1
  have hstart : Inv b all (start b o (handshakeBody ts now) acts).choice :=
    inv_begin hnonempty (agreed_handshakeBody hknown b.transports now) nofun
  have hinv : Inv b all c := by
    refine inv_run hnonempty is (fun i hi response hevent => ?_) hstart
    obtain ⟨now, rfl⟩ := hserver i hi response hevent
    exact agreed_handshakeBody hknown b.transports now
  have htried := hinv.tried
  refine ⟨fun hresumed => ?_, fun left hresumed => ?_, fun t ht => ?_⟩
  · rw [hresumed] at htried
    exact htried.trans (congrArg (List.take _) (course_whole b all))
  · rw [hresumed] at htried
    refine ⟨htried, fun hnodup => htried.trans ?_⟩
    change (course b all left).take (c.timeouts + 1) = _
    rw [(hinv.resumed left hresumed).course_eq hnodup, List.take_take, Nat.min_eq_right (Nat.le_add_left 1 _)]
  · obtain ⟨husable, hmem⟩ := hinv.mem_tried ht
    exact ⟨husable, mem_shared hmem⟩

/-- a page whose browser has WebSockets and long polling -/
def twoWork : Browser where
  transports := [str "websocket", str "flashsocket", str "xhr-polling"]
  usable t := t ≠ str "flashsocket"
  kind t := if t = str "websocket" then .websocket else .xhr

def three : List TransportType := [.webSocket, .flashSocket, .xhrPolling]

def opened : St := start twoWork ClientDelivery.tenAttempts (handshakeBody three 1) []

/-- a WebSocket is not connected in time, and once more after a second handshake -/
def twiceLate : List Input :=
  [⟨.connectTimeout true, []⟩, ⟨.handshake (handshakeBody three 2), []⟩, ⟨.connectTimeout true, []⟩]

/-- the first connection goes on to long polling, the second one does not -/
theorem tried_in_order_twiceLate :
    (run twoWork ClientDelivery.tenAttempts opened (twiceLate.take 1)).choice.tried = [str "websocket", str "xhr-polling"] ∧
      (run twoWork ClientDelivery.tenAttempts opened twiceLate).choice.tried = [str "websocket"] ∧
      let c := (run twoWork ClientDelivery.tenAttempts opened twiceLate).choice
      let all := shared three twoWork.transports
      (c.resumed = none → c.tried = (all.filter twoWork.usable).take (c.timeouts + 1)) ∧
        (∀ left, c.resumed = some left → c.tried = (course twoWork all left).take (c.timeouts + 1) ∧
          (all.Nodup → c.tried = (all.filter twoWork.usable).take 1)) ∧
        ∀ t ∈ c.tried, twoWork.usable t = true ∧ t ∈ twoWork.transports ∧ (three ≠ [] → ∃ type ∈ three, type.toString = t) := by
  refine ⟨by decide +kernel, by decide +kernel, ?_⟩
  refine tried_in_order twoWork ClientDelivery.tenAttempts (by decide) (by decide) 1 [] twiceLate ?_
  refine List.forall_mem_cons.2 ⟨nofun, List.forall_mem_cons.2 ⟨?_, List.forall_mem_singleton.2 nofun⟩⟩
  rintro response ⟨⟩
  exact ⟨2, rfl⟩

/-- a list with long polling twice: it is tried twice -/
example :
    (run { twoWork with transports := [str "xhr-polling", str "xhr-polling"] } ClientDelivery.tenAttempts
      (start { twoWork with transports := [str "xhr-polling", str "xhr-polling"] } ClientDelivery.tenAttempts
        (handshakeBody [] 1) []) [⟨.connectTimeout true, []⟩]).choice.tried = [str "xhr-polling", str "xhr-polling"] := by
  decide +kernel

end SocketIOJava.Transports
