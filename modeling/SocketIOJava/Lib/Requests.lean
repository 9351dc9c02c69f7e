/-
A client that makes requests of a server, over a network that may lose them.

The network hands a request to the server at most once. The client is told at any time that its request has ended, well or
badly, whether or not it was handled; from then on it is not handed over any more. The client goes on as it likes, but never
has two requests waiting.

- `inv_run`: what the steps of the client keep holds of it in every run of both.
- `settled_run`: in every run the server's record is, in order, of what the requests ask for, each of them read once and
  from its beginning; all of it, unless a request was lost or its handling cut short.
-/
import Mathlib.Data.List.Infix
import Mathlib.Data.List.Flatten

namespace Requests

/-- `γ` are the choices in a step of its own, `δ` those with which it takes a response, `α` its requests -/
structure Client (σ γ δ α : Type*) where
  act : σ → γ → σ
  /-- the response for the request at this place among those that wait -/
  respond : σ → δ → ℕ → Bool → σ
  /-- all requests that it made -/
  made : σ → List α
  /-- those whose response has not come -/
  waiting : σ → List α

/-- `ρ` is what its record consists of -/
structure Server (τ γ δ α ρ : Type*) where
  act : τ → γ → τ
  serve : τ → δ → α → τ
  /-- it handles the request to its end -/
  whole : τ → δ → α → Bool
  record : τ → List ρ

/-- new requests wait behind these -/
def Adds {σ γ δ α : Type*} (C : Client σ γ δ α) (s s' : σ) (waiting : List α) : Prop :=
  ∃ new, C.made s' = C.made s ++ new ∧ C.waiting s' = waiting ++ new

/-- A client keeps `Inv`, and its requests wait in the order in which it makes them, one at a time. -/
structure Client.Law {σ γ δ α : Type*} (C : Client σ γ δ α) (Inv : σ → Prop) : Prop where
  act_inv : ∀ s c, Inv s → Inv (C.act s c)
  respond_inv : ∀ s d j ok, Inv s → Inv (C.respond s d j ok)
  single : ∀ s, Inv s → (C.waiting s).length ≤ 1
  act_adds : ∀ s c, Inv s → Adds C s (C.act s c) (C.waiting s)
  respond_adds : ∀ s d j ok, Inv s → Adds C s (C.respond s d j ok) ((C.waiting s).eraseIdx j)

/-- A server's record grows only by the beginning of what it reads in a request that fits, and by all of that if it handles
the request to its end. -/
structure Server.Law {τ γ δ α ρ : Type*} (S : Server τ γ δ α ρ) (Fits : α → Prop) (reads : α → List ρ) : Prop where
  act_record : ∀ t c, S.record (S.act t c) = S.record t
  serve_record : ∀ t d x, Fits x → ∃ part, S.record (S.serve t d x) = S.record t ++ part ∧ part <+: reads x ∧
    (S.whole t d x = true → part = reads x)

/-- both, with whether each request that waits was handled, and whether all so far were handled to their end -/
structure Net (σ τ : Type*) where
  client : σ
  server : τ
  handled : List Bool
  lossless : Bool

inductive Move (γ δ γ' δ' : Type*) where
  | client (c : γ)
  | server (c : γ')
  | serve (j : ℕ) (d : δ')
  | respond (j : ℕ) (ok : Bool) (d : δ)

variable {σ τ γ δ γ' δ' α ρ : Type*} (C : Client σ γ δ α) (S : Server τ γ' δ' α ρ)

/-- a new request is not handled -/
def extend (handled : List Bool) (waiting : List α) : List Bool :=
  handled ++ List.replicate (waiting.length - handled.length) false

def step (n : Net σ τ) : Move γ δ γ' δ' → Net σ τ
  | .client c => { n with client := C.act n.client c, handled := extend n.handled (C.waiting (C.act n.client c)) }
  | .server c => { n with server := S.act n.server c }
  | .serve j d =>
    match (C.waiting n.client)[j]?, n.handled[j]? with
    | some x, some false =>
      { n with
        server := S.serve n.server d x
        handled := n.handled.set j true
        lossless := n.lossless && S.whole n.server d x }
    | _, _ => n
  | .respond j ok d =>
    match n.handled[j]? with
    | none => n
    | some b =>
      { n with
        client := C.respond n.client d j ok
        handled := extend (n.handled.eraseIdx j) (C.waiting (C.respond n.client d j ok))
        lossless := n.lossless && b }

def run (n : Net σ τ) (ms : List (Move γ δ γ' δ')) : Net σ τ := ms.foldl (step C S) n

/-- what a move does -/
inductive Moved (n : Net σ τ) : Net σ τ → Prop where
  | idle : Moved n n
  | client (c : γ) :
    Moved n { n with client := C.act n.client c, handled := extend n.handled (C.waiting (C.act n.client c)) }
  | server (c : γ') : Moved n { n with server := S.act n.server c }
  | serve (j : ℕ) (d : δ') (x : α) (hx : (C.waiting n.client)[j]? = some x) (hj : n.handled[j]? = some false) :
    Moved n
      { n with
        server := S.serve n.server d x
        handled := n.handled.set j true
        lossless := n.lossless && S.whole n.server d x }
  | respond (j : ℕ) (ok : Bool) (d : δ) (b : Bool) (hj : n.handled[j]? = some b) :
    Moved n
      { n with
        client := C.respond n.client d j ok
        handled := extend (n.handled.eraseIdx j) (C.waiting (C.respond n.client d j ok))
        lossless := n.lossless && b }

theorem step_cases (n : Net σ τ) (m : Move γ δ γ' δ') : Moved C S n (step C S n m) := by
  cases m with
  | client c => exact .client c
  | server c => exact .server c
  | serve j d =>
    rcases hx : (C.waiting n.client)[j]? with _ | x
    · simp only [step, hx]; exact .idle
    rcases hj : n.handled[j]? with _ | _ | _
    · simp only [step, hx, hj]; exact .idle
    · simp only [step, hx, hj]; exact .serve j d x hx hj
    · simp only [step, hx, hj]; exact .idle
  | respond j ok d =>
    rcases hj : n.handled[j]? with _ | b
    · simp only [step, hj]; exact .idle
    simp only [step, hj]; exact .respond j ok d b hj

theorem run_concat (n : Net σ τ) (ms : List (Move γ δ γ' δ')) (m : Move γ δ γ' δ') :
    run C S n (ms ++ [m]) = step C S (run C S n ms) m := List.foldl_append

/-- the requests that wait, with whether each was handled, and those of them that were not -/
inductive Waits : List α → List Bool → List α → Prop where
  | none : Waits [] [] []
  | unhandled (x : α) : Waits [x] [false] [x]
  | handled (x : α) : Waits [x] [true] []

section

variable {w new left : List α} {handled : List Bool} {j : ℕ} {b : Bool}

theorem Waits.extend (h : Waits w handled left) (hsingle : (w ++ new).length ≤ 1) :
    Waits (w ++ new) (extend handled (w ++ new)) (left ++ new) := by
  cases h with
  | none =>
    match new, hsingle with
    | [], _ => exact .none
    | [y], _ => exact .unhandled y
    | _ :: _ :: _, hlong => simp at hlong
  | unhandled x =>
    obtain rfl : new = [] := List.length_eq_zero_iff.1 (by simpa using hsingle)
    exact .unhandled x
  | handled x =>
    obtain rfl : new = [] := List.length_eq_zero_iff.1 (by simpa using hsingle)
    exact .handled x

/-- the one that waits gets its response -/
theorem Waits.respond (h : Waits w handled left) (hj : handled[j]? = some b) :
    Waits (w.eraseIdx j) (handled.eraseIdx j) [] ∧ (b = true → left = []) := by
  cases h with
  | none => cases hj
  | unhandled x =>
    obtain ⟨hlt, hb⟩ := List.getElem?_eq_some_iff.1 hj
    obtain rfl : j = 0 := by simpa using hlt
    refine ⟨.none, fun htrue => ?_⟩
    cases hb.trans htrue
  | handled x =>
    obtain ⟨hlt, -⟩ := List.getElem?_eq_some_iff.1 hj
    obtain rfl : j = 0 := by simpa using hlt
    exact ⟨.none, fun _ => rfl⟩

/-- the one that waits is handled -/
theorem Waits.serve {x : α} (h : Waits w handled left) (hx : w[j]? = some x) (hj : handled[j]? = some false) :
    left = [x] ∧ Waits w (handled.set j true) [] := by
  cases h with
  | none => cases hj
  | unhandled y =>
    obtain ⟨hlt, -⟩ := List.getElem?_eq_some_iff.1 hj
    obtain rfl : j = 0 := by simpa using hlt
    cases hx
    exact ⟨rfl, .handled x⟩
  | handled y =>
    obtain ⟨hlt, hfalse⟩ := List.getElem?_eq_some_iff.1 hj
    obtain rfl : j = 0 := by simpa using hlt
    cases hfalse

theorem Waits.all_handled (h : Waits w handled left) (hall : false ∉ handled) : left = [] := by
  cases h with
  | unhandled x => exact absurd (List.mem_singleton_self false) hall
  | none | handled x => rfl

end

/-- the requests made are those that are settled and those that wait to be handled; the record is of the settled ones -/
structure Settled (reads : α → List ρ) (n : Net σ τ) (past left : List α) : Prop where
  waits : Waits (C.waiting n.client) n.handled left
  made : C.made n.client = past ++ left
  record : (S.record n.server).Sublist (past.flatMap reads)
  whole : n.lossless = true → S.record n.server = past.flatMap reads

section

variable {C S} {Inv : σ → Prop} {Fits : α → Prop} {reads : α → List ρ} (lawC : C.Law Inv) (lawS : S.Law Fits reads)
  {n n' : Net σ τ}
include lawC

theorem Moved.inv (hm : Moved C S n n') (h : Inv n.client) : Inv n'.client := by
  cases hm with
  | idle | server _ | serve _ _ _ _ _ => exact h
  | client c => exact lawC.act_inv _ c h
  | respond j ok d _ _ => exact lawC.respond_inv _ d j ok h

theorem inv_run (h : Inv n.client) (ms : List (Move γ δ γ' δ')) : Inv (run C S n ms).client := by
  induction ms generalizing n with
  | nil => exact h
  | cons m ms ih => exact ih ((step_cases C S n m).inv lawC h)

/-- no request is taken back -/
theorem Moved.made (hm : Moved C S n n') (h : Inv n.client) : C.made n.client <+: C.made n'.client := by
  cases hm with
  | idle | server _ | serve _ _ _ _ _ => exact List.prefix_refl _
  | client c =>
    obtain ⟨new, hmade, -⟩ := lawC.act_adds _ c h
    exact ⟨new, hmade.symm⟩
  | respond j ok d _ _ =>
    obtain ⟨new, hmade, -⟩ := lawC.respond_adds _ d j ok h
    exact ⟨new, hmade.symm⟩

include lawS

theorem Moved.settled (hm : Moved C S n n') (hinv : Inv n.client) (hfits : ∀ x ∈ C.made n.client, Fits x) {past left : List α}
    (h : Settled C S reads n past left) : ∃ past' left', Settled C S reads n' past' left' := by
  cases hm with
  | idle => exact ⟨past, left, h⟩
  | client c =>
    obtain ⟨new, hmade, hwaiting⟩ := lawC.act_adds _ c hinv
    have hsingle := lawC.single _ (lawC.act_inv _ c hinv)
    refine ⟨past, left ++ new, ?_, ?_, h.record, h.whole⟩
    · change Waits (C.waiting (C.act n.client c)) (extend n.handled (C.waiting (C.act n.client c))) (left ++ new)
      rw [hwaiting] at hsingle ⊢
      exact h.waits.extend hsingle
    · change C.made (C.act n.client c) = past ++ (left ++ new)
      rw [hmade, h.made, List.append_assoc]
  | server c =>
    have hrecord := lawS.act_record n.server c
    exact ⟨past, left, h.waits, h.made, hrecord ▸ h.record, fun hl => hrecord.trans (h.whole hl)⟩
  | serve j d x hx hj =>
    obtain ⟨rfl, hwaits⟩ := h.waits.serve hx hj
    have hfit : Fits x := hfits x (by rw [h.made]; exact List.mem_append_right _ (List.mem_singleton_self x))
    obtain ⟨part, hrecord, hpart, hall⟩ := lawS.serve_record n.server d x hfit
    have hreads : (past ++ [x]).flatMap reads = past.flatMap reads ++ reads x := by
      rw [List.flatMap_append, List.flatMap_singleton]
    refine ⟨past ++ [x], [], hwaits, ?_, ?_, fun hl => ?_⟩
    · rw [List.append_nil]; exact h.made
    · rw [hreads]
      change (S.record (S.serve n.server d x)).Sublist _
      rw [hrecord]
      exact h.record.append hpart.sublist
    · obtain ⟨hbefore, hwhole⟩ := (Bool.and_eq_true_iff).1 hl
      rw [hreads, ← h.whole hbefore, ← hall hwhole]
      exact hrecord
  | respond j ok d b hj =>
    obtain ⟨new, hmade, hwaiting⟩ := lawC.respond_adds _ d j ok hinv
    have hsingle := lawC.single _ (lawC.respond_inv _ d j ok hinv)
    obtain ⟨hwaits, hhandled⟩ := h.waits.respond hj
    have hreads : (past ++ left).flatMap reads = past.flatMap reads ++ left.flatMap reads := List.flatMap_append
    refine ⟨past ++ left, new, ?_, ?_, ?_, fun hl => ?_⟩
    · change Waits (C.waiting (C.respond n.client d j ok)) (extend _ (C.waiting (C.respond n.client d j ok))) new
      rw [hwaiting] at hsingle ⊢
      exact hwaits.extend hsingle
    · exact hmade.trans (congrArg (· ++ new) h.made)
    · rw [hreads]
      exact h.record.trans (List.sublist_append_left _ _)
    · obtain ⟨hbefore, hb⟩ := (Bool.and_eq_true_iff).1 hl
      rw [hhandled hb, List.append_nil]
      exact h.whole hbefore

/-- **In every run the record is of the requests in their order, each read at most once**: of all but the one that waits to
be handled, and without a gap as long as every one was handled to its end. -/
theorem settled_run (hinv : Inv n.client) {past left : List α} (hstart : Settled C S reads n past left)
    (ms : List (Move γ δ γ' δ')) (hfits : ∀ x ∈ C.made (run C S n ms).client, Fits x) :
    ∃ past' left', Settled C S reads (run C S n ms) past' left' := by
  induction ms using List.reverseRecOn with
  | nil => exact ⟨past, left, hstart⟩
  | append_singleton ms m ih =>
    rw [run_concat] at hfits ⊢
    have hmoved := step_cases C S (run C S n ms) m
    have hbefore := inv_run (S := S) lawC hinv ms
    have hearlier : ∀ x ∈ C.made (run C S n ms).client, Fits x := fun x hx =>
      hfits x ((hmoved.made lawC hbefore).subset hx)
    obtain ⟨past', left', hsettled⟩ := ih hearlier
    exact hmoved.settled lawC lawS hbefore hearlier hsettled

end

end Requests
