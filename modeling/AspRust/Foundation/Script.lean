import Mathlib.Data.List.Basic
import Mathlib.Logic.Function.Basic

/-!
# Scripts of file operations

A script is a list of steps, each of which may write a file.  Any operation can fail, and a
fault plan says which ones do: it answers for the first operation, the second and so on.
A write that fails may leave the file as it was or leave something else in it.  The run of a
script stops at the first step that fails.

`performAll_cases` says what is on disk after a run: the files of all
steps, or those of the steps before the one that failed.  `Action` is a computation with file
operations; an action whose operations are known beforehand is a script with a result.

### Use

A run is described by what it did before it stopped (`Completed`, `StoppedAt`).  What is in a
file afterwards is the last write to it among the steps that were done (`afterWrites_last`);
where no two steps write one file it is what its step writes.  A failing write leaves its own
file in any state and the others alone.
-/

namespace AspRust.Foundation

namespace Script

variable {P C E : Type}

/-- How an operation fails: with what reason, and what a write leaves in its file, if it has
touched it. -/
structure IoFault (C : Type) where
  reason : String
  left : Option C

/-- Which operations fail, by their number. -/
abbrev Faults (C : Type) := ℕ → Option (IoFault C)

/-- One step of a script. -/
inductive Step (P C E : Type) where
  /-- Nothing to do. -/
  | pass
  /-- The step fails before any operation. -/
  | refuse (error : E)
  /-- An operation that changes no file. -/
  | attempt (onFault : String → E)
  | write (path : P) (content : C) (onFault : String → E)

/-- The files, the number of operations so far, and what they have written. -/
structure Disk (P C : Type) where
  files : P → Option C
  operations : ℕ := 0
  written : List (P × C) := []

/-- A computation with file operations. -/
abbrev Action (P C E : Type) := ExceptT E (StateM (Disk P C))

/-! ## What a script writes -/

/-- The files that steps write. -/
def writesOf (steps : List (Step P C E)) : List (P × C) :=
  steps.filterMap fun step =>
    match step with
    | .write path content _ => some (path, content)
    | _ => none

@[simp] theorem writesOf_append (first second : List (Step P C E)) :
    writesOf (first ++ second) = writesOf first ++ writesOf second :=
  List.filterMap_append

section Files

variable [DecidableEq P]

/-- The files after some have been written. -/
def afterWrites (writes : List (P × C)) (files : P → Option C) : P → Option C :=
  writes.foldl (fun files write => Function.update files write.1 (some write.2)) files

theorem afterWrites_append (first second : List (P × C)) (files : P → Option C) :
    afterWrites (first ++ second) files = afterWrites second (afterWrites first files) :=
  List.foldl_append

theorem afterWrites_of_notMem {writes : List (P × C)} {path : P}
    (h : path ∉ writes.map Prod.fst) (files : P → Option C) :
    afterWrites writes files path = files path := by
  induction writes generalizing files with
  | nil => rfl
  | cons write rest ih =>
      rw [List.map_cons, List.mem_cons, not_or] at h
      rw [afterWrites, List.foldl_cons]
      exact (ih h.2 _).trans (Function.update_of_ne h.1 _ _)

/-- What is written last stays. -/
theorem afterWrites_last {before later : List (P × C)} {path : P} {content : C}
    (h : path ∉ later.map Prod.fst) (files : P → Option C) :
    afterWrites (before ++ (path, content) :: later) files path = some content := by
  rw [afterWrites_append]
  change afterWrites later (Function.update _ path (some content)) path = _
  rw [afterWrites_of_notMem h, Function.update_self]

/-- A file that is written with one content only has it. -/
theorem afterWrites_of_unique {writes : List (P × C)} {path : P} {content : C}
    (hmem : (path, content) ∈ writes)
    (hunique : ∀ other, (path, other) ∈ writes → other = content) (files : P → Option C) :
    afterWrites writes files path = some content := by
  induction writes generalizing files with
  | nil => cases hmem
  | cons write rest ih =>
      rw [afterWrites, List.foldl_cons]
      by_cases hrest : path ∈ rest.map Prod.fst
      · obtain ⟨⟨_, other⟩, hother, rfl⟩ := List.mem_map.mp hrest
        obtain rfl := hunique other (List.mem_cons_of_mem _ hother)
        exact ih hother (fun later hlater => hunique later (List.mem_cons_of_mem _ hlater)) _
      · rcases List.mem_cons.mp hmem with rfl | hmem
        · exact (afterWrites_of_notMem hrest _).trans (Function.update_self _ _ _)
        · exact absurd (List.mem_map_of_mem hmem) hrest

end Files

/-! ## Running a script -/

section Run

variable [DecidableEq P] (faults : Faults C)

/-- Do one step. -/
def perform : Step P C E → Action P C E Unit
  | .pass => pure ()
  | .refuse error => throw error
  | .attempt onFault => ExceptT.mk fun disk =>
      match faults disk.operations with
      | none => (.ok (), { disk with operations := disk.operations + 1 })
      | some fault =>
          (.error (onFault fault.reason), { disk with operations := disk.operations + 1 })
  | .write path content onFault => ExceptT.mk fun disk =>
      match faults disk.operations with
      | none =>
          (.ok (),
            { files := Function.update disk.files path (some content)
              operations := disk.operations + 1
              written := disk.written ++ [(path, content)] })
      | some fault =>
          (.error (onFault fault.reason),
            { disk with
              files := (fault.left.elim disk.files fun left =>
                Function.update disk.files path (some left))
              operations := disk.operations + 1 })

/-- Do steps until one fails. -/
def performAll : List (Step P C E) → Action P C E Unit
  | [] => pure ()
  | step :: rest => do
      perform faults step
      performAll rest

/-- The result of an action and the disk after it. -/
def exec {α : Type} (action : Action P C E α) (disk : Disk P C) : Except E α × Disk P C :=
  (ExceptT.run action).run disk

omit [DecidableEq P] in
theorem exec_bind {α β : Type} (action : Action P C E α) (next : α → Action P C E β)
    (disk : Disk P C) :
    exec (action >>= next) disk =
      match exec action disk with
      | (.ok value, after) => exec (next value) after
      | (.error error, after) => (.error error, after) := by
  change (ExceptT.run (action >>= next)).run disk = _
  rw [ExceptT.run_bind]
  cases hresult : exec action disk with
  | mk result after =>
      have hrun : (ExceptT.run action).run disk = (result, after) := hresult
      rw [StateT.run_bind, hrun]
      cases result with
      | error error => rfl
      | ok value => rfl

/-- A step that writes a file. -/
def Step.Aims (step : Step P C E) (path : P) : Prop :=
  ∃ content onFault, step = .write path content onFault

/-- All steps are done. -/
structure Completed (steps : List (Step P C E)) (before after : Disk P C) : Prop where
  accepted : ∀ error, .refuse error ∉ steps
  files : after.files = afterWrites (writesOf steps) before.files
  written : after.written = before.written ++ writesOf steps

/-- The steps before one that failed are done.  Only the file of that step may have been
changed besides. -/
structure StoppedAt (done : List (Step P C E)) (next : Step P C E) (before after : Disk P C) :
    Prop where
  files : ∀ path, ¬ next.Aims path →
    after.files path = afterWrites (writesOf done) before.files path
  written : after.written = before.written ++ writesOf done

theorem perform_cases (step : Step P C E) (disk : Disk P C) :
    (∃ after, exec (perform faults step) disk = (.ok (), after) ∧ Completed [step] disk after) ∨
      ∃ error after, exec (perform faults step) disk = (.error error, after) ∧
        StoppedAt [] step disk after := by
  cases step with
  | pass => exact Or.inl ⟨disk, rfl, by simp, rfl, (List.append_nil _).symm⟩
  | refuse error => exact Or.inr ⟨error, disk, rfl, fun _ _ => rfl, (List.append_nil _).symm⟩
  | attempt onFault =>
      have hexec : exec (perform faults (.attempt onFault)) disk =
          match faults disk.operations with
          | none => (.ok (), { disk with operations := disk.operations + 1 })
          | some fault => (.error (onFault fault.reason),
              { disk with operations := disk.operations + 1 }) := rfl
      cases hfault : faults disk.operations with
      | none =>
          rw [hfault] at hexec
          exact Or.inl ⟨_, hexec, by simp, rfl, (List.append_nil _).symm⟩
      | some fault =>
          rw [hfault] at hexec
          exact Or.inr ⟨_, _, hexec, fun _ _ => rfl, (List.append_nil _).symm⟩
  | write path content onFault =>
      have hexec : exec (perform faults (.write path content onFault)) disk =
          match faults disk.operations with
          | none => (.ok (),
              { files := Function.update disk.files path (some content)
                operations := disk.operations + 1
                written := disk.written ++ [(path, content)] })
          | some fault => (.error (onFault fault.reason),
              { disk with
                files := (fault.left.elim disk.files fun left =>
                  Function.update disk.files path (some left))
                operations := disk.operations + 1 }) := rfl
      cases hfault : faults disk.operations with
      | none =>
          rw [hfault] at hexec
          exact Or.inl ⟨_, hexec, by simp, rfl, rfl⟩
      | some fault =>
          rw [hfault] at hexec
          refine Or.inr ⟨_, _, hexec, fun other hother => ?_, (List.append_nil _).symm⟩
          have hne : other ≠ path := fun heq => hother ⟨content, onFault, by rw [heq]⟩
          -- The failed write may have left something, but only in its own file.
          cases hleft : fault.left with
          | none => simp [writesOf, afterWrites]
          | some left => simp [writesOf, afterWrites, Function.update_of_ne hne]

/-- **A run does all steps, or stops at one.** -/
theorem performAll_cases (steps : List (Step P C E)) (disk : Disk P C) :
    (∃ after, exec (performAll faults steps) disk = (.ok (), after) ∧
        Completed steps disk after) ∨
      ∃ error after done next rest, exec (performAll faults steps) disk = (.error error, after) ∧
        steps = done ++ next :: rest ∧ StoppedAt done next disk after := by
  induction steps generalizing disk with
  | nil => exact Or.inl ⟨disk, rfl, by simp, rfl, (List.append_nil _).symm⟩
  | cons step rest ih =>
      rw [performAll, exec_bind]
      rcases perform_cases faults step disk with ⟨middle, hstep, hfirst⟩ |
        ⟨error, after, hstep, hstop⟩
      · rw [hstep]
        rcases ih middle with ⟨after, hrest, hcompleted⟩ |
          ⟨error, after, done, next, left, hrest, rfl, hstop⟩
        · refine Or.inl ⟨after, hrest, ?_, ?_, ?_⟩
          · intro error hmem
            rcases List.mem_cons.mp hmem with heq | hmem
            · exact hfirst.accepted error (heq ▸ List.mem_singleton_self _)
            · exact hcompleted.accepted error hmem
          · rw [hcompleted.files, hfirst.files, ← afterWrites_append, ← writesOf_append]
            rfl
          · rw [hcompleted.written, hfirst.written, List.append_assoc, ← writesOf_append]
            rfl
        · refine Or.inr ⟨error, after, step :: done, next, left, hrest, rfl, ?_, ?_⟩
          · intro path hpath
            rw [hstop.files path hpath, hfirst.files, ← afterWrites_append, ← writesOf_append]
            rfl
          · rw [hstop.written, hfirst.written, List.append_assoc, ← writesOf_append]
            rfl
      · rw [hstep]
        exact Or.inr ⟨error, after, [], step, rest, rfl, rfl, hstop⟩

theorem performAll_append (first second : List (Step P C E)) :
    performAll faults (first ++ second) = (do performAll faults first; performAll faults second) := by
  induction first with
  | nil => simp [performAll]
  | cons step rest ih => simp [performAll, ih]

end Run

end Script

end AspRust.Foundation
