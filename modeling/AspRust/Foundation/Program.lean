import Mathlib.Data.List.Basic

/-!
# Programs that ask questions

`Program Q α` is a computation that asks questions and continues with the
answers: `Q β` is the type of the questions answered by a `β`.  A program fixes
which questions are asked and in which order, and leaves the answers open, so
one program can be run against two worlds and compared.

`asked` lists the questions a run really asks.  Two worlds that answer these
alike give the same result (`run_eq_of_agree`): it is enough to look at the
questions of one of the two runs, because the runs cannot part before an answer
differs.

What a run asks is rarely known exactly, but often that it asks nothing outside
of a set of questions (`AsksOnly`).  Such a bound is put together along the
program, from the bounds of its parts, and two worlds that agree on the set give
one result (`AsksOnly.run_eq`).
-/

namespace AspRust.Foundation

/-- A computation that asks questions of signature `Q`. -/
inductive Program (Q : Type → Type) (α : Type) : Type 1 where
  /-- The result, with no further question. -/
  | done (value : α)
  /-- Ask, and go on with the answer. -/
  | ask {β : Type} (question : Q β) (next : β → Program Q α)

/-- A world: an answer to every question. -/
abbrev Answers (Q : Type → Type) := ∀ β, Q β → β

namespace Program

variable {Q : Type → Type} {α β : Type}

/-- Run one program after another. -/
def andThen : Program Q α → (α → Program Q β) → Program Q β
  | .done value, next => next value
  | .ask question continuation, next =>
      .ask question fun answer => (continuation answer).andThen next

instance : Monad (Program Q) where
  pure := .done
  bind := andThen

theorem andThen_done (program : Program Q α) : program.andThen .done = program := by
  induction program with
  | done value => rfl
  | ask question next ih =>
      rw [andThen]
      congr 1
      funext answer
      exact ih answer

theorem andThen_assoc {γ : Type} (program : Program Q α) (first : α → Program Q β)
    (second : β → Program Q γ) :
    (program.andThen first).andThen second =
      program.andThen fun value => (first value).andThen second := by
  induction program with
  | done value => rfl
  | ask question next ih =>
      rw [andThen, andThen, andThen]
      congr 1
      funext answer
      exact ih answer

instance : LawfulMonad (Program Q) := LawfulMonad.mk' (Program Q)
  andThen_done (fun _ _ => rfl) andThen_assoc

/-- The program of a single question. -/
def question (q : Q α) : Program Q α := .ask q .done

/-- The result of a program in a world. -/
def run (world : Answers Q) : Program Q α → α
  | .done value => value
  | .ask question next => (next (world _ question)).run world

/-- The questions a run asks, in order. -/
def asked (world : Answers Q) : Program Q α → List (Σ γ, Q γ)
  | .done _ => []
  | .ask question next => ⟨_, question⟩ :: (next (world _ question)).asked world

@[simp] theorem run_pure (world : Answers Q) (value : α) :
    (pure value : Program Q α).run world = value := rfl

@[simp] theorem run_question (world : Answers Q) (q : Q α) :
    (question q).run world = world α q := rfl

@[simp] theorem run_bind (world : Answers Q) (program : Program Q α)
    (next : α → Program Q β) :
    (program >>= next).run world = (next (program.run world)).run world := by
  change (program.andThen next).run world = _
  induction program with
  | done value => rfl
  | ask question continuation ih => exact ih (world _ question)

@[simp] theorem asked_bind (world : Answers Q) (program : Program Q α)
    (next : α → Program Q β) :
    (program >>= next).asked world =
      program.asked world ++ (next (program.run world)).asked world := by
  change (program.andThen next).asked world = _
  induction program with
  | done value => rfl
  | ask question continuation ih =>
      rw [andThen, asked, asked, run, List.cons_append, ih]

/-- A list of programs gives the list of their results. -/
theorem run_mapM {ι : Type} (world : Answers Q) (f : ι → Program Q α) (list : List ι) :
    (list.mapM f).run world = list.map fun element => (f element).run world := by
  induction list with
  | nil => rfl
  | cons head rest ih =>
      rw [List.mapM_cons, run_bind, run_bind, ih]
      rfl

/-- **Same answers, same result.**  If a second world answers the questions of a
run as the first does, the program has the same result in both. -/
theorem run_eq_of_agree {first second : Answers Q} {program : Program Q α}
    (hagree : ∀ asking ∈ program.asked first,
      first asking.1 asking.2 = second asking.1 asking.2) :
    program.run first = program.run second := by
  induction program with
  | done value => rfl
  | ask question next ih =>
      have hanswer : first _ question = second _ question :=
        hagree ⟨_, question⟩ List.mem_cons_self
      rw [run, run, ← hanswer]
      exact ih _ fun asking hasking => hagree asking (List.mem_cons_of_mem _ hasking)

/-! ## Bounds on what is asked -/

section Bounds

variable {ι : Type} {world : Answers Q} {allowed : ∀ β, Q β → Prop}

/-- All questions of a run are allowed. -/
def AsksOnly (world : Answers Q) (allowed : ∀ β, Q β → Prop) (program : Program Q α) : Prop :=
  ∀ asking ∈ program.asked world, allowed asking.1 asking.2

@[simp] theorem asksOnly_pure (value : α) :
    AsksOnly world allowed (pure value : Program Q α) := by
  intro asking hasking
  cases hasking

@[simp] theorem asksOnly_question {q : Q α} :
    AsksOnly world allowed (question q) ↔ allowed α q := by
  constructor
  · intro h
    exact h ⟨α, q⟩ List.mem_cons_self
  · intro h asking hasking
    obtain rfl := List.mem_singleton.mp hasking
    exact h

@[simp] theorem asksOnly_bind {program : Program Q α} {next : α → Program Q β} :
    AsksOnly world allowed (program >>= next) ↔
      AsksOnly world allowed program ∧ AsksOnly world allowed (next (program.run world)) := by
  unfold AsksOnly
  rw [asked_bind]
  exact List.forall_mem_append

theorem AsksOnly.mono {wider : ∀ β, Q β → Prop} {program : Program Q α}
    (h : AsksOnly world allowed program) (hwider : ∀ β (q : Q β), allowed β q → wider β q) :
    AsksOnly world wider program :=
  fun asking hasking => hwider asking.1 asking.2 (h asking hasking)

/-- A branch that is not taken asks nothing. -/
@[simp] theorem asksOnly_ite {condition : Prop} [Decidable condition]
    {first second : Program Q α} :
    AsksOnly world allowed (if condition then first else second) ↔
      (condition → AsksOnly world allowed first) ∧ (¬ condition → AsksOnly world allowed second) := by
  split
  · next h => simp [h]
  · next h => simp [h]

theorem asksOnly_mapM {f : ι → Program Q α} {list : List ι}
    (h : ∀ element ∈ list, AsksOnly world allowed (f element)) :
    AsksOnly world allowed (list.mapM f) := by
  induction list with
  | nil => exact asksOnly_pure []
  | cons head rest ih =>
      rw [List.mapM_cons, asksOnly_bind, asksOnly_bind]
      exact ⟨h head List.mem_cons_self,
        ih fun element helement => h element (List.mem_cons_of_mem _ helement), asksOnly_pure _⟩

/-- Worlds that agree on all that is allowed give one result. -/
theorem AsksOnly.run_eq {first second : Answers Q} {program : Program Q α}
    (h : AsksOnly first allowed program)
    (hagree : ∀ β (q : Q β), allowed β q → first β q = second β q) :
    program.run first = program.run second :=
  run_eq_of_agree fun asking hasking => hagree asking.1 asking.2 (h asking hasking)

end Bounds

end Program

end AspRust.Foundation
