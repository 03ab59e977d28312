import Mathlib.Data.List.Basic
import Mathlib.Data.List.Forall2

/-!
# Outcomes of fallible code

A modelled function can end in three ways that matter to its callers: it
returns a value, it returns an error, or it panics.  `Fault` separates the two
failures, so that "never panics" and "returns an error" are different
statements, and `Outcome` is the monad of code that can do either.

`Fault.exhausted` is a third failure that no run of a modelled program has: it
is what a fuel-indexed recursion answers when its fuel is spent.  A result
about such a recursion must rule it out.

### Use

A run of a loop that can fail is `foldlM` or `mapM`, and the lemmas here say when it succeeds
and with what.  `mapM_eq_ok_iff_forall₂` is the one to start from: a list of results belongs to
a list of inputs element by element.
-/

namespace AspRust.Foundation

/-- Why a computation produced no value. -/
inductive Fault where
  /-- The code returned an error with this text. -/
  | returned (message : String)
  /-- The code panicked with this text. -/
  | panicked (message : String)
  /-- The fuel of the model ran out. -/
  | exhausted
deriving DecidableEq, Repr

/-- The result of code that can return an error or panic. -/
abbrev Outcome := Except Fault

namespace Outcome

universe u

variable {α β : Type u}

/-- Two outcomes look the same to a caller that does not read failure texts:
the same value, or a failure of the same kind. -/
def SameObservation : Outcome α → Outcome α → Prop
  | .ok a, .ok b => a = b
  | .error (.returned _), .error (.returned _) => True
  | .error (.panicked _), .error (.panicked _) => True
  | .error .exhausted, .error .exhausted => True
  | _, _ => False

end Outcome

/-- A bind that succeeds is two successes. -/
theorem Except.bind_eq_ok {ε : Type*} {α β : Type*} {x : Except ε α} {f : α → Except ε β}
    {b : β} : x.bind f = .ok b ↔ ∃ a, x = .ok a ∧ f a = .ok b := by
  cases x <;> simp [Except.bind]

/-! ## Monadic folds -/

section Folds

universe v w

variable {m : Type v → Type w} [Monad m] {σ : Type v} {ι κ : Type*}

/-- Folding over the elements of an unfolded list is folding over the pieces. -/
theorem foldlM_flatMap [LawfulMonad m] (pieces : ι → List κ) (step : σ → κ → m σ)
    (list : List ι) (state : σ) :
    (list.flatMap pieces).foldlM step state =
      list.foldlM (fun state piece => (pieces piece).foldlM step state) state := by
  induction list generalizing state with
  | nil => rfl
  | cons head rest ih =>
      rw [List.flatMap_cons, List.foldlM_append, List.foldlM_cons]
      congr 1
      funext next
      exact ih next

/-- Two folds whose steps agree on the elements of the list are equal. -/
theorem foldlM_congr {first second : σ → ι → m σ} {list : List ι}
    (h : ∀ element ∈ list, ∀ state, first state element = second state element) (state : σ) :
    list.foldlM first state = list.foldlM second state := by
  induction list generalizing state with
  | nil => rfl
  | cons head rest ih =>
      rw [List.foldlM_cons, List.foldlM_cons, h head List.mem_cons_self]
      congr 1
      funext next
      exact ih (fun element hmem => h element (List.mem_cons_of_mem _ hmem)) next

end Folds

section Results

variable {ε : Type*} {α β σ : Type*}

/-- A mapped result comes from a result. -/
theorem Except.map_eq_ok {f : α → β} {x : Except ε α} {b : β} :
    x.map f = .ok b ↔ ∃ a, x = .ok a ∧ f a = b := by
  cases x <;> simp [Except.map]

theorem Except.toOption_eq_some_iff {x : Except ε α} {a : α} :
    x.toOption = some a ↔ x = .ok a := by
  cases x <;> simp [Except.toOption]

/-- Changing the error changes no result. -/
theorem Except.mapError_eq_ok {ε' : Type*} {f : ε → ε'} {x : Except ε α} {a : α} :
    x.mapError f = .ok a ↔ x = .ok a := by
  cases x <;> simp [Except.mapError]

/-- Two lists of computations that agree on the elements are equal. -/
theorem mapM_congr {f g : α → Except ε β} {list : List α}
    (h : ∀ a ∈ list, f a = g a) : list.mapM f = list.mapM g := by
  induction list with
  | nil => rfl
  | cons head rest ih =>
      rw [List.mapM_cons, List.mapM_cons, h head List.mem_cons_self,
        ih fun a hmem => h a (List.mem_cons_of_mem _ hmem)]

/-- A list of computations succeeds when each of them does. -/
theorem exists_mapM_eq_ok {f : α → Except ε β} {list : List α} :
    (∃ results, list.mapM f = .ok results) ↔ ∀ a ∈ list, ∃ b, f a = .ok b := by
  induction list with
  | nil => simp [pure, Except.pure]
  | cons head rest ih =>
      rw [List.forall_mem_cons, ← ih, List.mapM_cons]
      cases f head with
      | error fault => simp [bind, Except.bind]
      | ok first => cases rest.mapM f <;> simp [bind, Except.bind, pure, Except.pure]

/-- The results of a list of computations are one for each of them, in order. -/
theorem forall₂_of_mapM_eq_ok {f : α → Except ε β} {list : List α} {results : List β}
    (h : list.mapM f = .ok results) : List.Forall₂ (fun a b => f a = .ok b) list results := by
  induction list generalizing results with
  | nil =>
      obtain rfl := Except.ok.inj h
      exact .nil
  | cons head rest ih =>
      rw [List.mapM_cons] at h
      obtain ⟨first, hfirst, h⟩ := Except.bind_eq_ok.mp h
      obtain ⟨tail, htail, h⟩ := Except.bind_eq_ok.mp h
      obtain rfl := Except.ok.inj h
      exact .cons hfirst (ih htail)

/-- A list of computations has the results that its members have. -/
theorem mapM_eq_ok_iff_forall₂ {f : α → Except ε β} {list : List α} {results : List β} :
    list.mapM f = .ok results ↔ List.Forall₂ (fun a b => f a = .ok b) list results := by
  constructor
  · exact forall₂_of_mapM_eq_ok
  · intro h
    induction h with
    | nil => rfl
    | cons hfirst _ ih =>
        rw [List.mapM_cons, hfirst, ih]
        rfl

theorem mem_of_mapM_eq_ok {f : α → Except ε β} {list : List α} {results : List β}
    (h : list.mapM f = .ok results) {b : β} :
    b ∈ results ↔ ∃ a ∈ list, f a = .ok b := by
  have hall := forall₂_of_mapM_eq_ok h
  clear h
  induction hall with
  | nil => simp
  | cons hfirst _ ih => simp [ih, hfirst, eq_comm]

/-- What is seen of the results is what was computed from. -/
theorem map_of_mapM_eq_ok {γ : Type*} {f : α → Except ε β} {seen : β → γ} {source : α → γ}
    {list : List α} {results : List β}
    (hseen : ∀ a ∈ list, ∀ b, f a = .ok b → seen b = source a) (h : list.mapM f = .ok results) :
    results.map seen = list.map source := by
  have hall := forall₂_of_mapM_eq_ok h
  clear h
  induction hall with
  | nil => rfl
  | cons hfirst _ ih =>
      rw [List.map_cons, List.map_cons, hseen _ List.mem_cons_self _ hfirst,
        ih fun a hmem => hseen a (List.mem_cons_of_mem _ hmem)]

/-- A fold whose step computes a result and then puts it into the state is the
list of results, put into the state one by one. -/
theorem foldlM_map_eq (f : α → Except ε β) (put : σ → β → σ) (list : List α) (state : σ) :
    list.foldlM (fun state a => (f a).map (put state)) state =
      (list.mapM f).map fun results => results.foldl put state := by
  induction list generalizing state with
  | nil => rfl
  | cons head rest ih =>
      rw [List.foldlM_cons, List.mapM_cons]
      cases f head with
      | error fault => rfl
      | ok first =>
          change rest.foldlM (fun state a => (f a).map (put state)) (put state first) = _
          rw [ih]
          cases rest.mapM f <;> rfl

end Results

end AspRust.Foundation
