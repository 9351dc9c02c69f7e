/-
Programs that change a state and may end abruptly.

`Prog σ ε α`: from a state, an outcome (a value, or the reason of an abrupt end) and the state at that point. An abrupt
end keeps what was done before it, as an exception does.

`Along R m`: whatever the outcome of `m`, the state before and the state after are related by `R`. For a preorder `R`
this composes: a program is along `R` when its parts are (`Along.bind`, `Along.catching`, `along_forEach`). Where the
outcome of a part decides what happens next, `bind_of_ok`, `bind_of_error`, `catching_of_ok`, `catching_of_error` run a
program step by step.
-/
import Mathlib.Order.Defs.Unbundled
import Mathlib.Tactic.SplitIfs

namespace Program

/-- a program over states `σ` with values `α`, which may end abruptly with `ε` -/
def Prog (σ ε α : Type) := σ → Except ε α × σ

variable {σ ε α β : Type}

instance : Monad (Prog σ ε) where
  pure a := fun s => (.ok a, s)
  bind m k := fun s =>
    match m s with
    | (.ok a, s') => k a s'
    | (.error e, s') => (.error e, s')

/-- the state -/
def get : Prog σ ε σ := fun s => (.ok s, s)

/-- an update of the state -/
def modify (f : σ → σ) : Prog σ ε Unit := fun s => (.ok (), f s)

/-- an abrupt end -/
def stop (e : ε) : Prog σ ε α := fun s => (.error e, s)

/-- `try m catch h`, for the abrupt ends that `handles` picks out -/
def catching (handles : ε → Bool) (m : Prog σ ε α) (h : Prog σ ε α) : Prog σ ε α := fun s =>
  match m s with
  | (.error e, s') => if handles e then h s' else (.error e, s')
  | r => r

/-- `m`, and then `f` where `m` ends abruptly -/
def noting (m : Prog σ ε α) (f : σ → σ) : Prog σ ε α := fun s =>
  match m s with
  | (.error e, s') => (.error e, f s')
  | r => r

/-- `m`, and then `f` whatever the outcome of `m` -/
def ending (m : Prog σ ε α) (f : σ → σ) : Prog σ ε α := fun s => ((m s).1, f (m s).2)

/-- `if (c) m;` before other statements -/
def whenever (c : Prop) [Decidable c] (m : Prog σ ε Unit) : Prog σ ε Unit := if c then m else pure ()

/-- the body once for each element, in order, up to the first abrupt end -/
def forEach (l : List β) (body : β → Prog σ ε Unit) : Prog σ ε Unit :=
  match l with
  | [] => pure ()
  | b :: l => do body b; forEach l body

/-! ## Running step by step -/

@[simp] theorem pure_apply (a : α) (s : σ) : (pure a : Prog σ ε α) s = (.ok a, s) := rfl

@[simp] theorem modify_apply (f : σ → σ) (s : σ) : (modify f : Prog σ ε Unit) s = (.ok (), f s) := rfl

@[simp] theorem get_bind (k : σ → Prog σ ε α) (s : σ) : (get >>= k) s = k s s := rfl

@[simp] theorem modify_bind (f : σ → σ) (k : Unit → Prog σ ε α) (s : σ) : (modify f >>= k) s = k () (f s) := rfl

@[simp] theorem pure_bind (a : α) (k : α → Prog σ ε β) : (pure a >>= k) = k a := rfl

theorem bind_assoc {γ : Type} (m : Prog σ ε α) (k : α → Prog σ ε β) (l : β → Prog σ ε γ) :
    (m >>= k) >>= l = m >>= fun a => k a >>= l := by
  funext s
  change (match (match m s with | (.ok a, s') => k a s' | (.error e, s') => (.error e, s')) with
    | (.ok b, s') => l b s' | (.error e, s') => (.error e, s')) = _
  change _ = match m s with | (.ok a, s') => (k a >>= l) s' | (.error e, s') => (.error e, s')
  rcases m s with ⟨r, s'⟩
  cases r <;> rfl

theorem bind_of_ok {m : Prog σ ε α} {s s' : σ} {a : α} (h : m s = (.ok a, s')) (k : α → Prog σ ε β) :
    (m >>= k) s = k a s' := by
  change (match m s with | (.ok a, s') => k a s' | (.error e, s') => (.error e, s')) = _
  rw [h]

theorem bind_of_error {m : Prog σ ε α} {s s' : σ} {e : ε} (h : m s = (.error e, s')) (k : α → Prog σ ε β) :
    (m >>= k) s = (.error e, s') := by
  change (match m s with | (.ok a, s') => k a s' | (.error e, s') => (.error e, s')) = _
  rw [h]

theorem bind_of_eq {m m' : Prog σ ε α} {s s' : σ} (h : m s = m' s') (k : α → Prog σ ε β) :
    (m >>= k) s = (m' >>= k) s' := by
  change (match m s with | (.ok a, s') => k a s' | (.error e, s') => (.error e, s')) = _
  rw [h]
  rfl

theorem catching_of_ok {m : Prog σ ε α} {s s' : σ} {a : α} (h : m s = (.ok a, s')) (handles : ε → Bool)
    (r : Prog σ ε α) : catching handles m r s = (.ok a, s') := by
  unfold catching; rw [h]

theorem catching_of_error {m : Prog σ ε α} {s s' : σ} {e : ε} (h : m s = (.error e, s')) (handles : ε → Bool)
    (r : Prog σ ε α) : catching handles m r s = if handles e then r s' else (.error e, s') := by
  unfold catching; rw [h]

theorem catching_of_eq {m m' : Prog σ ε α} {s s' : σ} (h : m s = m' s') (handles : ε → Bool) (r : Prog σ ε α) :
    catching handles m r s = catching handles m' r s' := by
  unfold catching; rw [h]

theorem noting_of_ok {m : Prog σ ε α} {s s' : σ} {a : α} (h : m s = (.ok a, s')) (f : σ → σ) :
    noting m f s = (.ok a, s') := by
  unfold noting; rw [h]

theorem noting_of_error {m : Prog σ ε α} {s s' : σ} {e : ε} (h : m s = (.error e, s')) (f : σ → σ) :
    noting m f s = (.error e, f s') := by
  unfold noting; rw [h]

/-- a loop whose body does nothing -/
theorem forEach_skip {l : List β} {body : β → Prog σ ε Unit} {s : σ} (h : ∀ b ∈ l, body b s = (.ok (), s)) :
    forEach l body s = (.ok (), s) := by
  induction l with
  | nil => rfl
  | cons b l ih =>
    unfold forEach
    rw [bind_of_ok (h b List.mem_cons_self)]
    exact ih fun x hx => h x (List.mem_cons_of_mem b hx)

/-- a handler that does nothing leaves the state as the body left it -/
theorem catching_pure_snd (handles : ε → Bool) (m : Prog σ ε α) (a : α) (s : σ) :
    (catching handles m (pure a) s).2 = (m s).2 := by
  rcases hms : m s with ⟨r, s'⟩
  cases r with
  | ok b => rw [catching_of_ok hms]
  | error e => rw [catching_of_error hms]; split_ifs <;> rfl

/-- a program whose value is not used leaves the state that it leaves -/
theorem discard_snd (m : Prog σ ε α) (s : σ) : ((do let _ ← m : Prog σ ε Unit) s).2 = (m s).2 := by
  rcases hms : m s with ⟨r, s'⟩
  cases r with
  | ok a => rw [bind_of_ok hms]; rfl
  | error e => rw [bind_of_error hms]

/-- a program whose every abrupt end is caught completes -/
theorem catching_all (m : Prog σ ε α) (a : α) (s : σ) : ∃ b s', catching (fun _ => true) m (pure a) s = (.ok b, s') := by
  rcases hms : m s with ⟨r, s'⟩
  cases r with
  | ok b => exact ⟨b, s', catching_of_ok hms _ _⟩
  | error e => exact ⟨a, s', catching_of_error hms _ _⟩

/-! ## Programs along a relation -/

/-- whatever the outcome, the states before and after are related -/
def Along (R : σ → σ → Prop) (m : Prog σ ε α) : Prop := ∀ s, R s (m s).2

section Along

variable {R : σ → σ → Prop}

theorem Along.mono {S : σ → σ → Prop} {m : Prog σ ε α} (hm : Along R m) (h : ∀ s s', R s s' → S s s') : Along S m :=
  fun s => h _ _ (hm s)

/-- a program along one relation, and its rest along another -/
theorem Along.comp {S T : σ → σ → Prop} {m : Prog σ ε α} {k : α → Prog σ ε β} (hm : Along R m)
    (hk : ∀ a, Along S (k a)) (hstop : ∀ s s', R s s' → T s s')
    (hgo : ∀ s s' s'', R s s' → S s' s'' → T s s'') : Along T (m >>= k) := by
  intro s
  have hs := hm s
  rcases hms : m s with ⟨r, s'⟩
  rw [hms] at hs
  cases r with
  | ok a => rw [bind_of_ok hms]; exact hgo _ _ _ hs (hk a s')
  | error e => rw [bind_of_error hms]; exact hstop _ _ hs

theorem along_modify {f : σ → σ} (h : ∀ s, R s (f s)) : Along R (modify f : Prog σ ε Unit) := h

/-- a program that first reads the state is followed state by state -/
theorem along_get_bind {k : σ → Prog σ ε α} (h : ∀ s, R s (k s s).2) : Along R (get >>= k) := h

theorem Along.ite {c : Prop} [Decidable c] {m k : Prog σ ε α} (hm : c → Along R m) (hk : ¬ c → Along R k) :
    Along R (if c then m else k) := by
  by_cases h : c
  · rw [if_pos h]; exact hm h
  · rw [if_neg h]; exact hk h

section Refl

variable [Std.Refl R]

theorem along_pure (a : α) : Along R (pure a : Prog σ ε α) := fun s => Std.Refl.refl s

theorem along_get : Along R (get : Prog σ ε σ) := fun s => Std.Refl.refl s

theorem along_stop (e : ε) : Along R (stop e : Prog σ ε α) := fun s => Std.Refl.refl s

theorem along_whenever {c : Prop} [Decidable c] {m : Prog σ ε Unit} (h : c → Along R m) : Along R (whenever c m) :=
  .ite h fun _ => along_pure ()

end Refl

section Trans

variable [IsTrans σ R]

/-- the rest of a program is followed from the states in which the first part can leave it -/
theorem bind_related_ok {m : Prog σ ε α} {k : α → Prog σ ε β} {s₀ s : σ} (hm : R s₀ (m s).2)
    (hk : ∀ a s', m s = (.ok a, s') → R s' (k a s').2) : R s₀ ((m >>= k) s).2 := by
  rcases hms : m s with ⟨r, s'⟩
  rw [hms] at hm
  cases r with
  | ok a => rw [bind_of_ok hms]; exact IsTrans.trans _ _ _ hm (hk a s' hms)
  | error e => rw [bind_of_error hms]; exact hm

/-- what is related to the outcome of the first part is related to the whole if the rest is along the relation -/
theorem bind_related {m : Prog σ ε α} {k : α → Prog σ ε β} {s₀ s : σ} (hm : R s₀ (m s).2) (hk : ∀ a, Along R (k a)) :
    R s₀ ((m >>= k) s).2 := bind_related_ok hm fun a s' _ => hk a s'

theorem Along.bind {m : Prog σ ε α} {k : α → Prog σ ε β} (hm : Along R m) (hk : ∀ a, Along R (k a)) :
    Along R (m >>= k) := fun s => bind_related (hm s) hk

/-- what is related to the outcome of the body is related to the whole if the handler is along the relation -/
theorem catching_related {m h : Prog σ ε α} {s₀ s : σ} {handles : ε → Bool} (hm : R s₀ (m s).2) (hh : Along R h) :
    R s₀ (catching handles m h s).2 := by
  rcases hms : m s with ⟨r, s'⟩
  rw [hms] at hm
  cases r with
  | ok a => rw [catching_of_ok hms]; exact hm
  | error e =>
    rw [catching_of_error hms]
    by_cases he : handles e
    · rw [if_pos he]; exact IsTrans.trans _ _ _ hm (hh s')
    · rw [if_neg he]; exact hm

theorem Along.catching {m h : Prog σ ε α} (handles : ε → Bool) (hm : Along R m) (hh : Along R h) :
    Along R (catching handles m h) := fun s => catching_related (hm s) hh

theorem Along.ending {m : Prog σ ε α} {f : σ → σ} (hm : Along R m) (hf : ∀ s, R s (f s)) :
    Along R (ending m f) := fun s => IsTrans.trans _ _ _ (hm s) (hf _)

theorem along_forEach [Std.Refl R] {l : List β} {body : β → Prog σ ε Unit} (h : ∀ b ∈ l, Along R (body b)) :
    Along R (forEach l body) := by
  induction l with
  | nil => exact along_pure ()
  | cons b l ih =>
    exact (h b List.mem_cons_self).bind fun _ => ih fun x hx => h x (List.mem_cons_of_mem b hx)

end Trans

end Along

/-! ## Invariants -/

/-- the relation that a program is along when it keeps `Inv` -/
def Preserves (Inv : σ → Prop) (s s' : σ) : Prop := Inv s → Inv s'

instance {Inv : σ → Prop} : Std.Refl (Preserves Inv) := ⟨fun _ h => h⟩

instance {Inv : σ → Prop} : IsTrans σ (Preserves Inv) := ⟨fun _ _ _ h g hs => g (h hs)⟩

theorem along_preserves_and {I J : σ → Prop} {m : Prog σ ε α} (hI : Along (Preserves I) m) (hJ : Along (Preserves J) m) :
    Along (Preserves fun s => I s ∧ J s) m := fun s h => ⟨hI s h.1, hJ s h.2⟩

end Program
