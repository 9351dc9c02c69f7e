/-
Two parties, each at one end of a line on which the other writes.

What a party has written is a list that only grows; a cursor says how much of it the other party was handed, item by item
and in order. In between the parties take steps of their own, in any order.

- `inv_run`: what the steps of each party keep holds of it in every run of both.
- `heard_run`: in every run a party's record of what it was handed is what it reads in the items before the cursor; where
  each item stands for one thing, these are the first things (`heard_items_left`).
-/
import Mathlib.Data.List.Infix

namespace Pipes

/-- `γ` are the choices in a step of its own, `δ` those with which it takes an item, `α` the items that it writes and `β`
those that it is handed; `ρ` is what its record consists of -/
structure Party (σ γ δ α β ρ : Type*) where
  act : σ → γ → σ
  hear : σ → δ → β → σ
  /-- it takes items now -/
  listens : σ → Bool
  written : σ → List α
  heard : σ → List ρ

/-- A party keeps `Inv` and only writes on. Its record grows by what it reads in an item that fits, and by nothing else. -/
structure Law {σ γ δ α β ρ : Type*} (P : Party σ γ δ α β ρ) (Inv : σ → Prop) (Fits : β → Prop) (reads : β → List ρ) : Prop where
  act_inv : ∀ s c, Inv s → Inv (P.act s c)
  act_written : ∀ s c, Inv s → P.written s <+: P.written (P.act s c)
  act_heard : ∀ s c, Inv s → P.heard (P.act s c) = P.heard s
  hear_inv : ∀ s d x, Inv s → P.listens s = true → Inv (P.hear s d x)
  hear_written : ∀ s d x, Inv s → P.listens s = true → P.written s <+: P.written (P.hear s d x)
  hear_heard : ∀ s d x, Inv s → P.listens s = true → Fits x → P.heard (P.hear s d x) = P.heard s ++ reads x

/-- the two parties, and how many items of each one the other was handed -/
structure Net (σ τ : Type*) where
  left : σ
  right : τ
  up : ℕ
  down : ℕ

def Net.swap {σ τ : Type*} (n : Net σ τ) : Net τ σ := ⟨n.right, n.left, n.down, n.up⟩

inductive Move (γ δ γ' δ' : Type*) where
  | left (c : γ)
  | right (c : γ')
  /-- the right party is handed the next item of the left one -/
  | up (d : δ')
  | down (d : δ)

def Move.swap {γ δ γ' δ' : Type*} : Move γ δ γ' δ' → Move γ' δ' γ δ
  | .left c => .right c
  | .right c => .left c
  | .up d => .down d
  | .down d => .up d

variable {σ τ γ δ γ' δ' α β ρ ρ' : Type*} (P : Party σ γ δ α β ρ) (Q : Party τ γ' δ' β α ρ')

def step (n : Net σ τ) : Move γ δ γ' δ' → Net σ τ
  | .left c => { n with left := P.act n.left c }
  | .right c => { n with right := Q.act n.right c }
  | .up d =>
    match (P.written n.left)[n.up]? with
    | none => n
    | some x => if Q.listens n.right then { n with right := Q.hear n.right d x, up := n.up + 1 } else n
  | .down d =>
    match (Q.written n.right)[n.down]? with
    | none => n
    | some x => if P.listens n.left then { n with left := P.hear n.left d x, down := n.down + 1 } else n

def run (n : Net σ τ) (ms : List (Move γ δ γ' δ')) : Net σ τ := ms.foldl (step P Q) n

/-- what a move does -/
inductive Moved (n : Net σ τ) : Net σ τ → Prop where
  | idle : Moved n n
  | left (c : γ) : Moved n { n with left := P.act n.left c }
  | right (c : γ') : Moved n { n with right := Q.act n.right c }
  | up (d : δ') (x : α) (hx : (P.written n.left)[n.up]? = some x) (h : Q.listens n.right = true) :
    Moved n { n with right := Q.hear n.right d x, up := n.up + 1 }
  | down (d : δ) (x : β) (hx : (Q.written n.right)[n.down]? = some x) (h : P.listens n.left = true) :
    Moved n { n with left := P.hear n.left d x, down := n.down + 1 }

theorem step_cases (n : Net σ τ) (m : Move γ δ γ' δ') : Moved P Q n (step P Q n m) := by
  cases m with
  | left c => exact .left c
  | right c => exact .right c
  | up d =>
    unfold step
    cases hx : (P.written n.left)[n.up]? with
    | none => exact .idle
    | some x =>
      by_cases h : Q.listens n.right = true
      · simp only [if_pos h]; exact .up d x hx h
      · simp only [if_neg h]; exact .idle
  | down d =>
    unfold step
    cases hx : (Q.written n.right)[n.down]? with
    | none => exact .idle
    | some x =>
      by_cases h : P.listens n.left = true
      · simp only [if_pos h]; exact .down d x hx h
      · simp only [if_neg h]; exact .idle

theorem run_concat (n : Net σ τ) (ms : List (Move γ δ γ' δ')) (m : Move γ δ γ' δ') :
    run P Q n (ms ++ [m]) = step P Q (run P Q n ms) m := List.foldl_append

/-- the two ends can be exchanged -/
theorem step_swap (n : Net σ τ) (m : Move γ δ γ' δ') : (step P Q n m).swap = step Q P n.swap m.swap := by
  cases m with
  | left c => rfl
  | right c => rfl
  | up d =>
    cases hx : (P.written n.left)[n.up]? with
    | none => simp only [step, Net.swap, Move.swap, hx]
    | some x => cases h : Q.listens n.right <;> simp [step, Net.swap, Move.swap, hx, h]
  | down d =>
    cases hx : (Q.written n.right)[n.down]? with
    | none => simp only [step, Net.swap, Move.swap, hx]
    | some x => cases h : P.listens n.left <;> simp [step, Net.swap, Move.swap, hx, h]

theorem run_swap (n : Net σ τ) (ms : List (Move γ δ γ' δ')) :
    (run P Q n ms).swap = run Q P n.swap (ms.map Move.swap) := by
  induction ms generalizing n with
  | nil => rfl
  | cons m ms ih =>
    change (run P Q (step P Q n m) ms).swap = run Q P (step Q P n.swap m.swap) (ms.map Move.swap)
    rw [ih, step_swap]

section

variable {P Q} {InvP : σ → Prop} {InvQ : τ → Prop} {FitsP : β → Prop} {FitsQ : α → Prop} {readsP : β → List ρ}
  {readsQ : α → List ρ'} (lawP : Law P InvP FitsP readsP) (lawQ : Law Q InvQ FitsQ readsQ) {n n' : Net σ τ}
include lawP lawQ

theorem Moved.inv (hm : Moved P Q n n') (h : InvP n.left ∧ InvQ n.right) : InvP n'.left ∧ InvQ n'.right := by
  cases hm with
  | idle => exact h
  | left c => exact ⟨lawP.act_inv _ c h.1, h.2⟩
  | right c => exact ⟨h.1, lawQ.act_inv _ c h.2⟩
  | up d x _ hlistens => exact ⟨h.1, lawQ.hear_inv _ d x h.2 hlistens⟩
  | down d x _ hlistens => exact ⟨lawP.hear_inv _ d x h.1 hlistens, h.2⟩

/-- both parties keep their invariants -/
theorem inv_run (h : InvP n.left ∧ InvQ n.right) (ms : List (Move γ δ γ' δ')) :
    InvP (run P Q n ms).left ∧ InvQ (run P Q n ms).right := by
  induction ms generalizing n with
  | nil => exact h
  | cons m ms ih => exact ih ((step_cases P Q n m).inv lawP lawQ h)

omit lawQ in
theorem Moved.written (hm : Moved P Q n n') (h : InvP n.left) : P.written n.left <+: P.written n'.left := by
  cases hm with
  | idle => exact List.prefix_refl _
  | left c => exact lawP.act_written _ c h
  | right c => exact List.prefix_refl _
  | up d x _ _ => exact List.prefix_refl _
  | down d x _ hlistens => exact lawP.hear_written _ d x h hlistens

end

/-- the right party's record is what it reads in the items before the cursor -/
structure Recorded (reads : α → List ρ') (n : Net σ τ) : Prop where
  cursor : n.up ≤ (P.written n.left).length
  record : Q.heard n.right = ((P.written n.left).take n.up).flatMap reads

section

variable {P Q} {InvP : σ → Prop} {InvQ : τ → Prop} {FitsP : β → Prop} {FitsQ : α → Prop} {readsP : β → List ρ}
  {readsQ : α → List ρ'} (lawP : Law P InvP FitsP readsP) (lawQ : Law Q InvQ FitsQ readsQ) {n n' : Net σ τ}
include lawP lawQ

theorem Moved.recorded (hm : Moved P Q n n') (hinv : InvP n.left ∧ InvQ n.right)
    (hfits : ∀ x ∈ P.written n'.left, FitsQ x) (h : Recorded P Q readsQ n) : Recorded P Q readsQ n' := by
  have hgrows := hm.written lawP hinv.1
  have hkept : (P.written n'.left).take n.up = (P.written n.left).take n.up := by
    obtain ⟨rest, hrest⟩ := hgrows
    rw [← hrest, List.take_append_of_le_length h.cursor]
  have hcursor : n.up ≤ (P.written n'.left).length := h.cursor.trans hgrows.length_le
  cases hm with
  | idle => exact h
  | left c => exact ⟨hcursor, h.record.trans (congrArg _ hkept.symm)⟩
  | right c => exact ⟨h.cursor, (lawQ.act_heard _ c hinv.2).trans h.record⟩
  | down d x _ _ => exact ⟨hcursor, h.record.trans (congrArg _ hkept.symm)⟩
  | up d x hx hlistens =>
    obtain ⟨hlt, -⟩ := List.getElem?_eq_some_iff.1 hx
    refine ⟨hlt, ?_⟩
    change Q.heard (Q.hear n.right d x) = ((P.written n.left).take (n.up + 1)).flatMap readsQ
    rw [lawQ.hear_heard _ d x hinv.2 hlistens (hfits x (List.mem_of_getElem? hx)), h.record, List.take_add_one, hx,
      List.flatMap_append, Option.toList_some, List.flatMap_singleton]

/-- **In every run a party's record is what it reads in the items that it was handed**, if all items fit that the other
party has written. -/
theorem heard_run (hinv : InvP n.left ∧ InvQ n.right) (hstart : Recorded P Q readsQ n) (ms : List (Move γ δ γ' δ'))
    (hfits : ∀ x ∈ P.written (run P Q n ms).left, FitsQ x) : Recorded P Q readsQ (run P Q n ms) := by
  induction ms using List.reverseRecOn with
  | nil => exact hstart
  | append_singleton ms m ih =>
    rw [run_concat] at hfits ⊢
    have hmoved := step_cases P Q (run P Q n ms) m
    have hbefore := inv_run lawP lawQ hinv ms
    exact hmoved.recorded lawP lawQ hbefore hfits (ih fun x hx => hfits x ((hmoved.written lawP hbefore.1).subset hx))

/-- and so is the other one's -/
theorem heard_run_left (hinv : InvP n.left ∧ InvQ n.right) (hstart : Recorded Q P readsP n.swap) (ms : List (Move γ δ γ' δ'))
    (hfits : ∀ x ∈ Q.written (run P Q n ms).right, FitsP x) : Recorded Q P readsP (run P Q n ms).swap := by
  rw [run_swap]
  refine heard_run lawQ lawP ⟨hinv.2, hinv.1⟩ hstart _ ?_
  rw [← run_swap]
  exact hfits

/-- where each item stands for one thing, the record is of the first of these things -/
theorem heard_items_left {ξ : Type*} {xs : List ξ} {item : ξ → β} {meaning : ξ → ρ} (hinv : InvP n.left ∧ InvQ n.right)
    (hstart : Recorded Q P readsP n.swap) (ms : List (Move γ δ γ' δ'))
    (hwritten : Q.written (run P Q n ms).right = xs.map item)
    (hitems : ∀ x ∈ xs, FitsP (item x) ∧ readsP (item x) = [meaning x]) :
    (run P Q n ms).down ≤ xs.length ∧ P.heard (run P Q n ms).left = (xs.take (run P Q n ms).down).map meaning := by
  have hrecorded : Recorded Q P readsP (run P Q n ms).swap := by
    refine heard_run_left lawP lawQ hinv hstart ms ?_
    rw [hwritten]
    exact List.forall_mem_map.2 fun x hx => (hitems x hx).1
  refine ⟨?_, hrecorded.record.trans ?_⟩
  · have hcursor : (run P Q n ms).down ≤ (Q.written (run P Q n ms).right).length := hrecorded.cursor
    rwa [hwritten, List.length_map] at hcursor
  · change ((Q.written (run P Q n ms).right).take (run P Q n ms).down).flatMap readsP = _
    rw [hwritten, ← List.map_take, List.flatMap_map, List.map_eq_flatMap]
    exact List.flatMap_congr fun x hx => (hitems x (List.mem_of_mem_take hx)).2

end

end Pipes
