/-
Runs: the states that a list of actions leads through.

A property that every step keeps as long as the step is not a bad one, and that a bad step always breaks, holds in all
states of a run exactly when none of its steps is bad (`holds_iff_no_bad`). The property is what is claimed of a state,
the invariant what the induction carries.

`Each step C s as`: the condition holds of every action in the state in which it is taken (`Each.inv`).
-/
import Mathlib.Data.List.Infix

namespace Runs

variable {σ α : Type*} {step : σ → α → σ} {Holds : σ → Prop} {Bad : σ → α → Prop}

/-- an invariant that decides for each step whether the property survives it -/
structure Decides (step : σ → α → σ) (Holds : σ → Prop) (Bad : σ → α → Prop) (Inv : σ → Prop) : Prop where
  holds : ∀ s, Inv s → Holds s
  keeps : ∀ s a, Inv s → ¬ Bad s a → Inv (step s a)
  breaks : ∀ s a, Inv s → Bad s a → ¬ Holds (step s a)

theorem foldl_concat (step : σ → α → σ) (s : σ) (as : List α) (a : α) :
    (as ++ [a]).foldl step s = step (as.foldl step s) a := List.foldl_append

/-- the invariant is carried as far as the property holds -/
theorem Decides.inv {Inv : σ → Prop} (d : Decides step Holds Bad Inv) {s : σ} (hs : Inv s) (as : List α)
    (h : ∀ past, past <+: as → Holds (past.foldl step s)) : Inv (as.foldl step s) := by
  induction as using List.reverseRecOn with
  | nil => exact hs
  | append_singleton as a ih =>
    have hpast := ih fun past hp => h past (hp.trans (List.prefix_append _ _))
    rw [foldl_concat]
    refine d.keeps _ a hpast fun hbad => d.breaks _ a hpast hbad ?_
    have hafter := h _ (List.prefix_refl _)
    rw [foldl_concat] at hafter
    exact hafter

/-- **The property holds along a run exactly when no step is bad.** -/
theorem Decides.holds_iff_no_bad {Inv : σ → Prop} (d : Decides step Holds Bad Inv) {s : σ} (hs : Inv s) (as : List α) :
    (∀ past, past <+: as → Holds (past.foldl step s)) ↔
      ∀ past a, past ++ [a] <+: as → ¬ Bad (past.foldl step s) a := by
  constructor
  · intro h past a hp hbad
    have hpast : ∀ earlier, earlier <+: past → Holds (earlier.foldl step s) := fun earlier he =>
      h earlier (he.trans ((List.prefix_append _ _).trans hp))
    refine d.breaks _ a (d.inv hs past hpast) hbad ?_
    have hafter := h _ hp
    rw [foldl_concat] at hafter
    exact hafter
  · intro h past hp
    have hinv : ∀ earlier, earlier <+: as → Inv (earlier.foldl step s) := by
      intro earlier
      induction earlier using List.reverseRecOn with
      | nil => exact fun _ => hs
      | append_singleton earlier a ih =>
        intro he
        rw [foldl_concat]
        exact d.keeps _ a (ih ((List.prefix_append _ _).trans he)) (h earlier a he)
    exact d.holds _ (hinv past hp)

/-- the condition holds of each action, in the state in which it is taken -/
def Each (step : σ → α → σ) (C : σ → α → Prop) : σ → List α → Prop
  | _, [] => True
  | s, a :: as => C s a ∧ Each step C (step s a) as

/-- what each step keeps that meets the condition -/
theorem Each.inv {Inv : σ → Prop} {C : σ → α → Prop} (hstep : ∀ s a, Inv s → C s a → Inv (step s a)) {s : σ} (hs : Inv s)
    {as : List α} (h : Each step C s as) : Inv (as.foldl step s) := by
  induction as generalizing s with
  | nil => exact hs
  | cons a as ih => exact ih (hstep s a hs h.1) h.2

end Runs
