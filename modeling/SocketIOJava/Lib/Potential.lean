/-
The potential method for programs.

A potential gives each state a value. `Rises φ n` relates states between which it grows by `n` at most; `n` may be negative,
for a step that saves something for later ones. Along `Rises φ 0` a whole run costs nothing.

- `Rises.trans`, `rises_bind`: what the parts of a program cost adds up.
- `rises_run`: over a run, the costs of its steps add up.
-/
import SocketIOJava.Lib.Program
import Mathlib.Algebra.BigOperators.Group.List.Basic
import Mathlib.Algebra.Order.Ring.Int

namespace Potential

open Program

variable {σ ε α β γ : Type} {φ : σ → ℤ} {m n : ℤ}

/-- the potential grows by `n` at most -/
def Rises (φ : σ → ℤ) (n : ℤ) (s s' : σ) : Prop := φ s' ≤ φ s + n

instance : Std.Refl (Rises φ 0) := ⟨fun s => (add_zero (φ s)).ge⟩

theorem Rises.trans {s s' s'' : σ} (h : Rises φ m s s') (h' : Rises φ n s' s'') : Rises φ (m + n) s s'' := by
  unfold Rises at *
  omega

instance : IsTrans σ (Rises φ 0) := ⟨fun _ _ _ h h' => h.trans h'⟩

theorem Rises.mono {s s' : σ} (h : Rises φ m s s') (hmn : m ≤ n) : Rises φ n s s' := by
  unfold Rises at *
  omega

theorem along_rises_mono {p : Prog σ ε α} (h : Along (Rises φ m) p) (hmn : m ≤ n) : Along (Rises φ n) p := fun s =>
  (h s).mono hmn

/-- nothing is done -/
theorem along_skip (a : α) (hn : 0 ≤ n) : Along (Rises φ n) (pure a : Prog σ ε α) := along_rises_mono (along_pure a) hn

/-- what comes after costs `n` at most, and no more if it is not reached -/
theorem rises_bind {p : Prog σ ε α} {k : α → Prog σ ε β} {s₀ s : σ} (hp : Rises φ m s₀ (p s).2)
    (hk : ∀ a, Along (Rises φ n) (k a)) (hn : 0 ≤ n) : Rises φ (m + n) s₀ ((p >>= k) s).2 := by
  rcases hps : p s with ⟨_ | a, s'⟩
  · rw [hps] at hp
    rw [bind_of_error hps]
    exact hp.mono (by omega)
  · rw [hps] at hp
    rw [bind_of_ok hps]
    exact hp.trans (hk a s')

/-- the same, where only the last part costs something -/
theorem along_rises_bind {p : Prog σ ε α} {k : α → Prog σ ε β} (hp : Along (Rises φ 0) p) (hk : ∀ a, Along (Rises φ n) (k a))
    (hn : 0 ≤ n) : Along (Rises φ n) (p >>= k) := fun s => by
  have hall := rises_bind (hp s) hk hn
  rwa [zero_add] at hall

/-- **Over a run** the potential grows by what the steps cost together. -/
theorem rises_run {step : σ → γ → σ} {cost : γ → ℕ} (h : ∀ s c, Rises φ (cost c) s (step s c)) (s : σ) (cs : List γ) :
    Rises φ (cs.map cost).sum s (cs.foldl step s) := by
  induction cs generalizing s with
  | nil => exact Std.Refl.refl (r := Rises φ 0) s
  | cons c cs ih =>
    rw [List.map_cons, List.sum_cons, Nat.cast_add]
    exact (h s c).trans (ih (step s c))

end Potential
