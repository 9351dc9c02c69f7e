/-
Loops whose whole state is one value: `f : σ → Option σ` gives the state after one turn, or `none` where the loop is
left. Nothing here is about a particular program.

- `turns f n a`: the state after `n` turns from `a`, `none` once the loop has been left.
- `Halts f a`: the loop from `a` is left after finitely many turns.
- `Cyclic f a`: the loop from `a` comes to a state that leads back to itself.

Results:
- `not_halts_of_cyclic`: a cyclic loop is never left (no finiteness is needed).
- `turns_card_eq_none`: where only the states of a finite set `S` have a successor and the loop is not cyclic, it is
  left within `S.card + 1` turns (the pigeonhole principle on the orbit).
- `halts_iff_not_cyclic`: over a finite set of states, halting and acyclicity are the same.
- `not_cyclic_of_increasing`: a loop whose reached turns all increase the state is not cyclic.
-/
import Mathlib.Computability.StateTransition
import Mathlib.Data.Fintype.Card
import Mathlib.Data.Finset.Card
import Mathlib.Tactic.Linarith

namespace Halting

open StateTransition Relation

variable {σ : Type*} {f : σ → Option σ} {a b c : σ}

/-- the state after `n` turns from `a`, or `none` once the loop has been left -/
def turns (f : σ → Option σ) : ℕ → σ → Option σ
  | 0, a => some a
  | n + 1, a => (f a).bind (turns f n)

/-- the loop from `a` is left after finitely many turns -/
def Halts (f : σ → Option σ) (a : σ) : Prop := ∃ n, turns f n a = none

/-- the loop from `a` comes to a state that leads back to itself -/
def Cyclic (f : σ → Option σ) (a : σ) : Prop := ∃ b, Reaches f a b ∧ Reaches₁ f b b

@[simp] theorem turns_zero (f : σ → Option σ) (a : σ) : turns f 0 a = some a := rfl

theorem turns_succ_some (n : ℕ) (h : f a = some b) : turns f (n + 1) a = turns f n b := by
  simp [turns, h]

theorem turns_succ_none (n : ℕ) (h : f a = none) : turns f (n + 1) a = none := by
  simp [turns, h]

theorem turns_add (m n : ℕ) (a : σ) : turns f (m + n) a = (turns f m a).bind (turns f n) := by
  induction m generalizing a with
  | zero => simp
  | succ m ih =>
    rw [Nat.succ_add]
    cases h : f a with
    | none => rw [turns_succ_none _ h, turns_succ_none _ h]; rfl
    | some b => rw [turns_succ_some _ h, turns_succ_some _ h, ih]

theorem turns_reaches {n : ℕ} (h : turns f n a = some b) : Reaches f a b := by
  induction n generalizing a with
  | zero => simp only [turns_zero, Option.some.injEq] at h; subst h; exact ReflTransGen.refl
  | succ n ih =>
    cases hf : f a with
    | none => rw [turns_succ_none _ hf] at h; cases h
    | some c => rw [turns_succ_some _ hf] at h; exact ReflTransGen.head hf (ih h)

theorem turns_reaches₁ {n : ℕ} (h : turns f (n + 1) a = some b) : Reaches₁ f a b := by
  cases hf : f a with
  | none => rw [turns_succ_none _ hf] at h; cases h
  | some c => rw [turns_succ_some _ hf] at h; exact TransGen.head' hf (turns_reaches h)

/-- a loop still running after `n` turns has a state for every earlier count -/
theorem turns_some_of_le {m n : ℕ} (hmn : m ≤ n) (h : turns f n a ≠ none) : ∃ b, turns f m a = some b := by
  obtain ⟨k, rfl⟩ := Nat.exists_eq_add_of_le hmn
  rw [turns_add] at h
  cases hm : turns f m a with
  | none => rw [hm] at h; exact absurd rfl h
  | some b => exact ⟨b, rfl⟩

/-- a cyclic loop makes its next turn into a cyclic loop again -/
theorem Cyclic.step (h : Cyclic f a) : ∃ b, f a = some b ∧ Cyclic f b := by
  obtain ⟨c, hac, hcc⟩ := h
  rcases ReflTransGen.cases_head hac with rfl | ⟨b, hab, hbc⟩
  · obtain ⟨b, hab, hba⟩ := TransGen.head'_iff.1 hcc
    exact ⟨b, hab, a, hba, hcc⟩
  · exact ⟨b, hab, c, hbc, hcc⟩

/-- **A cyclic loop is never left.** -/
theorem not_halts_of_cyclic (h : Cyclic f a) : ¬ Halts f a := by
  rintro ⟨n, hn⟩
  induction n generalizing a with
  | zero => cases hn
  | succ n ih =>
    obtain ⟨b, hab, hb⟩ := h.step
    rw [turns_succ_some _ hab] at hn
    exact ih hb hn

/-- **Pigeonhole.** If only states of `S` have a successor, a loop that is not cyclic is left within `S.card + 1`
turns. -/
theorem turns_card_eq_none (S : Finset σ) (hS : ∀ a b, f a = some b → a ∈ S) (h : ¬ Cyclic f a) :
    turns f (S.card + 1) a = none := by
  classical
  by_contra hrun
  have horbit : ∀ i : Fin (S.card + 1), ∃ b, turns f i a = some b := fun i =>
    turns_some_of_le (Nat.le_of_lt i.isLt) hrun
  choose state hstate using horbit
  have hmem : ∀ i, state i ∈ S := by
    intro i
    obtain ⟨c, hc⟩ := turns_some_of_le (Nat.succ_le_of_lt i.isLt) hrun
    rw [Nat.succ_eq_add_one, turns_add, hstate i] at hc
    cases hf : f (state i) with
    | none => simp [turns, hf] at hc
    | some b => exact hS _ _ hf
  obtain ⟨i, -, j, -, hij, heq⟩ := Finset.exists_ne_map_eq_of_card_lt_of_maps_to
    (s := (Finset.univ : Finset (Fin (S.card + 1)))) (t := S) (by simp) (fun i _ => hmem i)
  wlog hlt : i < j generalizing i j
  · exact this j i hij.symm heq.symm (lt_of_le_of_ne (not_lt.1 hlt) hij.symm)
  obtain ⟨k, hk⟩ := Nat.exists_eq_add_of_lt hlt
  have hback : turns f (k + 1) (state i) = some (state i) := by
    have hj := hstate j
    rw [show (j : ℕ) = i + (k + 1) by omega, turns_add, hstate i, Option.bind_some, ← heq] at hj
    exact hj
  exact h ⟨state i, turns_reaches (hstate i), turns_reaches₁ hback⟩

/-- **Over finitely many states, a loop is left exactly when it is not cyclic.** -/
theorem halts_iff_not_cyclic (S : Finset σ) (hS : ∀ a b, f a = some b → a ∈ S) : Halts f a ↔ ¬ Cyclic f a :=
  ⟨fun h hc => not_halts_of_cyclic hc h, fun h => ⟨_, turns_card_eq_none S hS h⟩⟩

/-- a loop that is left at all is left within the bound of `turns_card_eq_none` -/
theorem Halts.turns_card (S : Finset σ) (hS : ∀ a b, f a = some b → a ∈ S) (h : Halts f a) :
    turns f (S.card + 1) a = none :=
  turns_card_eq_none S hS ((halts_iff_not_cyclic S hS).1 h)

/-- a relation that every reached turn keeps increasing excludes cycles -/
theorem not_cyclic_of_increasing [Preorder σ] (h : ∀ b c, Reaches f a b → f b = some c → b < c) : ¬ Cyclic f a := by
  rintro ⟨b, hab, hbb⟩
  have hup : ∀ c, Reaches₁ f b c → b < c := by
    intro c hc
    induction hc with
    | single hbc => exact h _ _ hab hbc
    | tail hbc hcd ih => exact ih.trans (h _ _ (hab.trans hbc.to_reflTransGen) hcd)
  exact lt_irrefl b (hup b hbb)

end Halting
