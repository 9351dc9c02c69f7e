/-
Regular expressions of ECMAScript, matched by backtracking.

The repetitions of a `Pattern` are over classes of chars. A match takes the continuation that has to succeed on the rest of
the text: `*` and `?` are greedy, they try the longer match first and give chars back when the continuation fails. A group
remembers the text of its last match.

- `Takes r run rest f`: before `rest`, `r` takes `run`, whatever has to follow. `takes_many`, `takes_plus`: a repetition
  takes a whole run of its class. `Takes.seq`, `Takes.group`, `Takes.opt`, `Stuck.opt`: how this composes.
- `Takes.exec`: a pattern that takes the whole text is found at its start.
-/
import Mathlib.Logic.Function.Basic
import Mathlib.Data.List.Basic

namespace Regex

inductive Pattern (α : Type) where
  /-- one char of a class -/
  | one (p : α → Bool)
  /-- `p*` -/
  | many (p : α → Bool)
  /-- `r?` -/
  | opt (r : Pattern α)
  | seq (r t : Pattern α)
  /-- `(r)`, the `n`th group -/
  | group (n : ℕ) (r : Pattern α)

/-- the texts of the groups that took part in the match -/
abbrev Groups (α : Type) := ℕ → Option (List α)

def Groups.none {α : Type} : Groups α := fun _ => Option.none

/-- what has to succeed on the rest of the text -/
abbrev Continuation (α : Type) := List α → Groups α → Option (Groups α)

variable {α : Type}

/-- `p+` -/
def Pattern.plus (p : α → Bool) : Pattern α := .seq (.one p) (.many p)

/-- the longest run first -/
def manyFrom (p : α → Bool) (k : List α → Option (Groups α)) : List α → Option (Groups α)
  | [] => k []
  | c :: cs => if p c then (manyFrom p k cs).or (k (c :: cs)) else k (c :: cs)

/-- a match at the start of a text; an optional part that would match nothing does not take part -/
def matchAt : Pattern α → Continuation α → Continuation α
  | .one _, _, [], _ => none
  | .one p, k, c :: cs, g => if p c then k cs g else none
  | .many p, k, s, g => manyFrom p (fun rest => k rest g) s
  | .opt r, k, s, g =>
    (matchAt r (fun rest g' => if rest.length < s.length then k rest g' else none) s g).or (k s g)
  | .seq r t, k, s, g => matchAt r (matchAt t k) s g
  | .group n r, k, s, g =>
    matchAt r (fun rest g' => k rest (Function.update g' n (some (s.take (s.length - rest.length))))) s g

/-- the end of a pattern -/
def found : Continuation α := fun _ g => some g

/-- the groups of the leftmost match -/
def exec (r : Pattern α) : List α → Option (Groups α)
  | [] => matchAt r found [] .none
  | c :: cs => (matchAt r found (c :: cs) .none).or (exec r cs)

theorem exec_of_matchAt {r : Pattern α} {s : List α} {g : Groups α} (h : matchAt r found s .none = some g) :
    exec r s = some g := by
  cases s with
  | nil => exact h
  | cons c cs => rw [exec, h, Option.some_or]

/-! ## What a greedy part takes -/

section

variable {p : α → Bool} {run run' rest : List α} {r t : Pattern α} {f f' : Groups α → Groups α}

theorem manyFrom_stop {k : List α → Option (Groups α)} (h : ∀ c ∈ rest.head?, p c = false) :
    manyFrom p k rest = k rest := by
  cases rest with
  | nil => rfl
  | cons c cs =>
    rw [manyFrom, if_neg]
    rw [h c rfl]
    exact Bool.false_ne_true

theorem manyFrom_greedy {k : List α → Option (Groups α)} {g : Groups α} (hrun : ∀ c ∈ run, p c = true)
    (hrest : ∀ c ∈ rest.head?, p c = false) (hk : k rest = some g) : manyFrom p k (run ++ rest) = some g := by
  induction run with
  | nil => exact (manyFrom_stop hrest).trans hk
  | cons c cs ih =>
    have htail := ih fun x hx => hrun x (List.mem_cons_of_mem c hx)
    rw [List.cons_append, manyFrom, if_pos (hrun c List.mem_cons_self), htail, Option.some_or]

/-- Before `rest`, the pattern takes `run` and does `f` to the groups: so it goes on whenever the continuation succeeds
there. -/
def Takes (r : Pattern α) (run rest : List α) (f : Groups α → Groups α) : Prop :=
  ∀ (k : Continuation α) g g', k rest (f g) = some g' → matchAt r k (run ++ rest) g = some g'

/-- at `rest`, the pattern matches nothing but the empty text -/
def Stuck (r : Pattern α) (rest : List α) : Prop :=
  ∀ (k : Continuation α) g, (∀ g', k rest g' = none) → matchAt r k rest g = none

theorem takes_one {c : α} (hc : p c = true) : Takes (.one p) [c] rest id := by
  intro k g g' hk
  rw [List.singleton_append, matchAt, if_pos hc]
  exact hk

theorem takes_many (hrun : ∀ c ∈ run, p c = true) (hrest : ∀ c ∈ rest.head?, p c = false) :
    Takes (.many p) run rest id := by
  intro k g g' hk
  exact manyFrom_greedy hrun hrest hk

/-- any chars, up to the end -/
theorem takes_all : Takes (.many fun _ => true) run [] id :=
  takes_many (fun _ _ => rfl) fun _ hc => absurd hc (Option.not_mem_none _)

theorem Takes.seq (hr : Takes r run (run' ++ rest) f) (ht : Takes t run' rest f') :
    Takes (.seq r t) (run ++ run') rest (f' ∘ f) := by
  intro k g g' hk
  rw [List.append_assoc]
  exact hr _ _ _ (ht _ _ _ hk)

theorem takes_plus (hne : run ≠ []) (hrun : ∀ c ∈ run, p c = true) (hrest : ∀ c ∈ rest.head?, p c = false) :
    Takes (.plus p) run rest id := by
  cases run with
  | nil => exact absurd rfl hne
  | cons c cs =>
    have htail := takes_many (fun x hx => hrun x (List.mem_cons_of_mem c hx)) hrest
    exact (takes_one (hrun c List.mem_cons_self)).seq htail

theorem Takes.group (h : Takes r run rest f) (n : ℕ) :
    Takes (.group n r) run rest fun g => Function.update (f g) n (some run) := by
  intro k g g' hk
  refine h _ _ _ ?_
  rw [List.length_append, Nat.add_sub_cancel, List.take_left]
  exact hk

/-- an optional part takes part when it can -/
theorem Takes.opt (h : Takes r run rest f) (hne : run ≠ []) : Takes (.opt r) run rest f := by
  intro k g g' hk
  have hlt : rest.length < (run ++ rest).length := by
    rw [List.length_append]
    exact Nat.lt_add_of_pos_left (List.length_pos_of_ne_nil hne)
  have hmatch := h (fun rest' g => if rest'.length < (run ++ rest).length then k rest' g else none) g g'
    ((if_pos hlt).trans hk)
  rw [matchAt, hmatch, Option.some_or]

theorem Stuck.opt (h : Stuck r rest) : Takes (.opt r) [] rest id := by
  intro k g g' hk
  rw [List.nil_append, matchAt, h _ g fun _ => if_neg (Nat.lt_irrefl _), Option.none_or]
  exact hk

theorem Stuck.group (h : Stuck r rest) (n : ℕ) : Stuck (.group n r) rest := fun _ g hk => h _ g fun _ => hk _

theorem stuck_one (h : ∀ c ∈ rest.head?, p c = false) : Stuck (.one p) rest := by
  intro k g _
  cases rest with
  | nil => rfl
  | cons c cs =>
    rw [matchAt, if_neg]
    rw [h c rfl]
    exact Bool.false_ne_true

theorem stuck_plus (h : ∀ c ∈ rest.head?, p c = false) : Stuck (.plus p) rest := by
  intro k g _
  cases rest with
  | nil => rfl
  | cons c cs =>
    change matchAt (.one p) (matchAt (.many p) k) (c :: cs) g = none
    rw [matchAt, if_neg]
    rw [h c rfl]
    exact Bool.false_ne_true

theorem stuck_many : Stuck (.many p) [] := fun _ _ hk => hk _

/-- what an optional group does that takes `run`: without a char it does not take part -/
def keep (n : ℕ) (run : List α) (g : Groups α) : Groups α := if run = [] then g else Function.update g n (some run)

theorem takes_optional (n : ℕ) (h : run ≠ [] → Takes r run rest id) (hstuck : run = [] → Stuck r rest) :
    Takes (.opt (.group n r)) run rest (keep n run) := by
  intro k g g' hk
  by_cases hrun : run = []
  · subst hrun
    exact ((hstuck rfl).group n).opt k g g' hk
  · rw [keep, if_neg hrun] at hk
    exact ((h hrun).group n).opt hrun k g g' hk

@[simp] theorem keep_same {n : ℕ} {g : Groups α} (hg : g n = none) : (keep n run g n).getD [] = run := by
  by_cases hrun : run = []
  · rw [keep, if_pos hrun, hg, hrun]
    rfl
  · rw [keep, if_neg hrun, Function.update_self]
    rfl

@[simp] theorem keep_of_ne {m n : ℕ} (hm : m ≠ n) (g : Groups α) : keep n run g m = g m := by
  by_cases hrun : run = []
  · rw [keep, if_pos hrun]
  · rw [keep, if_neg hrun, Function.update_of_ne hm]

/-- a pattern that takes a whole text -/
theorem Takes.exec (h : Takes r run [] f) : exec r run = some (f .none) := by
  refine exec_of_matchAt ?_
  have hmatch := h found .none _ rfl
  rwa [List.append_nil] at hmatch

end

end Regex
