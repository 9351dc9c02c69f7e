/-
How a program ends.

`Returns m s`: from `s` the program completes. `Fails E m s`: an abrupt end from `s` is one of those in `E`; this is
followed along a program by `Fails.bind`, `Fails.catching` and `Fails.forEach`, with the state that each part leaves.

`AtEachTurn l body P s`: `P` holds of each element of a loop and of the state in which its turn comes. A loop completes
exactly if its body completes at each turn (`forEach_returns_iff`).
-/
import SocketIOJava.Lib.Program

namespace Program

variable {σ ε α β : Type} {m h : Prog σ ε α} {k : α → Prog σ ε β} {s t : σ} {E : ε → Prop}

/-! ## Abrupt ends -/

/-- from this state the program completes -/
def Returns (m : Prog σ ε α) (s : σ) : Prop := ∃ a t, m s = (.ok a, t)

/-- an abrupt end from this state is one of these -/
def Fails (E : ε → Prop) (m : Prog σ ε α) (s : σ) : Prop := ∀ e t, m s = (.error e, t) → E e

theorem returns_of_ok {a : α} (hm : m s = (.ok a, t)) : Returns m s := ⟨a, t, hm⟩

theorem returns_iff : Returns m s ↔ ∃ a, (m s).1 = .ok a := by
  constructor
  · rintro ⟨a, t, hm⟩
    exact ⟨a, congrArg Prod.fst hm⟩
  · rintro ⟨a, hm⟩
    exact ⟨a, (m s).2, Prod.ext hm rfl⟩

theorem not_returns_of_error {e : ε} (hm : m s = (.error e, t)) : ¬ Returns m s := by
  rintro ⟨a, t', hok⟩
  cases hm.symm.trans hok

theorem Returns.fails (hm : Returns m s) : Fails E m s := by
  intro e t he
  exact absurd hm (not_returns_of_error he)

/-- a program that has no abrupt end completes -/
theorem Fails.returns (hm : Fails (fun _ => False) m s) : Returns m s := by
  rcases hr : m s with ⟨r, t⟩
  cases r with
  | ok a => exact returns_of_ok hr
  | error e => exact (hm e t hr).elim

theorem Fails.mono {F : ε → Prop} (hm : Fails E m s) (hEF : ∀ e, E e → F e) : Fails F m s :=
  fun e t he => hEF e (hm e t he)

theorem fails_pure (a : α) : Fails E (pure a) s := fun _ _ he => by cases he

theorem fails_modify (f : σ → σ) : Fails E (modify f) s := fun _ _ he => by cases he

theorem fails_stop {e : ε} (he : E e) : Fails E (stop e : Prog σ ε α) s := by
  intro e' t heq
  cases heq
  exact he

theorem Fails.bind (hm : Fails E m s) (hk : ∀ a t, m s = (.ok a, t) → Fails E (k a) t) : Fails E (m >>= k) s := by
  intro e t he
  rcases hr : m s with ⟨r, t'⟩
  cases r with
  | ok a => rw [bind_of_ok hr] at he; exact hk a t' hr e t he
  | error e' => rw [bind_of_error hr] at he; cases he; exact hm e t hr

/-- what the handler does not take is an end of the body, the rest an end of the handler -/
theorem Fails.catching {handles : ε → Bool} (hm : Fails (fun e => handles e = false → E e) m s)
    (hh : ∀ e t, m s = (.error e, t) → handles e = true → Fails E h t) : Fails E (catching handles m h) s := by
  intro e t he
  rcases hr : m s with ⟨r, t'⟩
  cases r with
  | ok a => rw [catching_of_ok hr] at he; cases he
  | error e' =>
    rw [catching_of_error hr] at he
    by_cases hhandled : handles e' = true
    · rw [if_pos hhandled] at he; exact hh e' t' hr hhandled e t he
    · rw [if_neg hhandled] at he
      cases he
      exact hm e t hr (Bool.eq_false_iff.2 hhandled)

theorem Returns.bind {a : α} (hm : m s = (.ok a, t)) (hk : Returns (k a) t) : Returns (m >>= k) s := by
  obtain ⟨b, t', hb⟩ := hk
  exact ⟨b, t', (bind_of_ok hm k).trans hb⟩

/-- a program that completes as a whole completes in its first part -/
theorem Returns.first (hm : Returns (m >>= k) s) : Returns m s := by
  rcases hr : m s with ⟨r, t⟩
  cases r with
  | ok a => exact returns_of_ok hr
  | error e => exact absurd hm (not_returns_of_error (bind_of_error hr k))

/-! ## Loops -/

variable {l : List β} {b : β} {body : β → Prog σ ε Unit} {P Q : β → σ → Prop}

/-- at each element of the loop whose turn comes, in the state that the elements before it leave -/
def AtEachTurn (l : List β) (body : β → Prog σ ε Unit) (P : β → σ → Prop) (s : σ) : Prop :=
  ∀ before b rest t, l = before ++ b :: rest → forEach before body s = (.ok (), t) → P b t

theorem atEachTurn_nil : AtEachTurn [] body P s := by
  intro before b rest t h _
  cases before with
  | nil => cases h
  | cons _ _ => cases h

theorem atEachTurn_cons :
    AtEachTurn (b :: l) body P s ↔ P b s ∧ ∀ t, body b s = (.ok (), t) → AtEachTurn l body P t := by
  constructor
  · intro h
    refine ⟨h [] b l s rfl rfl, fun t hb before b' rest t' hl ht => ?_⟩
    refine h (b :: before) b' rest t' (by rw [hl]; rfl) ?_
    exact (bind_of_ok hb _).trans ht
  · rintro ⟨hb, hrest⟩ before b' rest t hl ht
    cases before with
    | nil =>
      obtain ⟨rfl, rfl⟩ := List.cons.inj hl
      cases ht
      exact hb
    | cons c before =>
      obtain ⟨rfl, rfl⟩ := List.cons.inj hl
      rcases hr : body b s with ⟨r, s'⟩
      cases r with
      | ok a => exact hrest s' hr before b' rest t rfl ((bind_of_ok hr _).symm.trans ht)
      | error e => cases (bind_of_error hr _).symm.trans ht

theorem AtEachTurn.imp (h : AtEachTurn l body P s) (hPQ : ∀ b t, P b t → Q b t) : AtEachTurn l body Q s :=
  fun before b rest t hl ht => hPQ b t (h before b rest t hl ht)

theorem AtEachTurn.and (h : AtEachTurn l body P s) (h' : AtEachTurn l body Q s) :
    AtEachTurn l body (fun b t => P b t ∧ Q b t) s :=
  fun before b rest t hl ht => ⟨h before b rest t hl ht, h' before b rest t hl ht⟩

/-- what the body keeps holds at each turn -/
theorem atEachTurn_of_kept {I : σ → Prop} (hkept : ∀ b t, I t → I (body b t).2) (hs : I s) :
    AtEachTurn l body (fun _ => I) s := by
  induction l generalizing s with
  | nil => exact atEachTurn_nil
  | cons b l ih =>
    refine atEachTurn_cons.2 ⟨hs, fun t ht => ih ?_⟩
    have hnext := hkept b s hs
    rw [ht] at hnext
    exact hnext

/-- **A loop completes exactly if its body completes at each turn.** -/
theorem forEach_returns_iff : Returns (forEach l body) s ↔ AtEachTurn l body (fun b => Returns (body b)) s := by
  induction l generalizing s with
  | nil => exact iff_of_true (returns_of_ok rfl) atEachTurn_nil
  | cons b l ih =>
    rw [atEachTurn_cons]
    constructor
    · intro h
      refine ⟨Returns.first h, fun t ht => ih.1 ?_⟩
      obtain ⟨u, t', hrest⟩ := h
      exact ⟨u, t', (bind_of_ok ht _).symm.trans hrest⟩
    · rintro ⟨⟨u, t, ht⟩, hrest⟩
      exact Returns.bind ht (ih.2 (hrest t ht))

theorem forEach_cons_returns_iff :
    Returns (forEach (b :: l) body) s ↔ Returns (body b) s ∧ ∀ t, body b s = (.ok (), t) → Returns (forEach l body) t := by
  rw [forEach_returns_iff, atEachTurn_cons]
  exact and_congr_right fun _ => forall_congr' fun t => imp_congr_right fun _ => forEach_returns_iff.symm

theorem Fails.forEach (hs : AtEachTurn l body (fun b => Fails E (body b)) s) : Fails E (forEach l body) s := by
  induction l generalizing s with
  | nil => exact fails_pure ()
  | cons b l ih =>
    obtain ⟨hb, hrest⟩ := atEachTurn_cons.1 hs
    exact Fails.bind hb fun _ t ht => ih (hrest t ht)

end Program
