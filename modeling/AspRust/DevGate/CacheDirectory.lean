import Mathlib.Logic.Function.Basic
import AspRust.Foundation.Outcome

/-!
# The cache directory and its file operations

A cache directory is the content of its entries by name.  Files are published
by writing a temporary file and renaming it.  Every file operation can fail, and
a `FaultPlan` says which ones do: a run of the publishing code is determined by
the directory it starts from and the plan.

An operation also fails by itself where the directory does not allow it: a
temporary file is created only under a name that is free, and a rename does not
replace something that is not a file.

`PublishEnds` lists the ways in which a publication can end, with the directory
it leaves, and `publishFile_ends` says that there are no others.  What holds
after a publication is read off that list.

### Design notes

**Names, not paths.**  Everything the gate keeps lies directly in one directory, so an
entry is known by its name.  The directory is a function, and a step changes it at one
or two names; that every other name is left alone is `PublishEnds.frame`.

**What a fault can leave.**  A write that fails may have written any beginning of the
bytes, so the fault plan says how many are in the temporary file then.  A creation, a
sync, a rename and a removal that fail leave the directory as it was.

**The result after a refusal is a parameter.**  The index and the records are published
by one function of the model with two readings of a rename that was refused: the index
reports it, a record counts it as a success where a file is there.
-/

namespace AspRust.DevGate

/-- What a name of the cache directory holds. -/
inductive CacheEntry where
  /-- A regular file. -/
  | file (bytes : List UInt8)
  /-- Anything else, such as a directory. -/
  | other
deriving DecidableEq, Repr

/-- The entries of a cache directory, by name. -/
abbrev CacheDirectory := String → Option CacheEntry

/-- The bytes of a regular file. -/
def readFile (directory : CacheDirectory) (name : String) : Option (List UInt8) :=
  match directory name with
  | some (.file bytes) => some bytes
  | _ => none

/-- The name holds a regular file. -/
def isFile (directory : CacheDirectory) (name : String) : Bool :=
  (readFile directory name).isSome

/-- Which operations of a publication fail, and with which error text.  A write
can fail after some of the bytes have reached the file. -/
structure FaultPlan where
  createDirectory : Option String := none
  createTemporary : Option String := none
  write : Option (ℕ × String) := none
  sync : Option String := none
  rename : Option String := none
  remove : Option String := none
deriving DecidableEq, Repr

/-- No operation fails. -/
def noFaults : FaultPlan := {}

/-- The texts with which the steps of a publication report their failure. -/
structure StageTexts where
  createDirectory : String
  serialize : String
  createTemporary : String
  write : String
deriving DecidableEq, Repr

section Operations

variable (faults : FaultPlan)

/-- Create a file under a free name. -/
def createNew (name : String) (directory : CacheDirectory) :
    CacheDirectory × Except String Unit :=
  match faults.createTemporary with
  | some error => (directory, .error error)
  | none =>
      match directory name with
      | some _ => (directory, .error "File exists (os error 17)")
      | none => (Function.update directory name (some (.file [])), .ok ())

/-- Write all bytes to the file just created, then wait until they are stored. -/
def writeAndSync (name : String) (bytes : List UInt8) (directory : CacheDirectory) :
    CacheDirectory × Except String Unit :=
  match faults.write with
  | some (written, error) =>
      (Function.update directory name (some (.file (bytes.take written))), .error error)
  | none =>
      (Function.update directory name (some (.file bytes)),
        match faults.sync with
        | some error => .error error
        | none => .ok ())

/-- Replace the destination by the temporary file. -/
def renameFile (temporary destination : String) (directory : CacheDirectory) :
    CacheDirectory × Except String Unit :=
  match faults.rename with
  | some error => (directory, .error error)
  | none =>
      match directory destination with
      | some .other => (directory, .error "Is a directory (os error 21)")
      | _ => (Function.update (Function.update directory destination (directory temporary))
          temporary none, .ok ())

/-- Remove a file; the caller ignores a failure. -/
def removeFile (name : String) (directory : CacheDirectory) : CacheDirectory :=
  match faults.remove with
  | some _ => directory
  | none => Function.update directory name none

/-- The steps before the rename, which all publications share: the directory is
created, the value serialized, and the bytes written to a new temporary file. -/
def stageTemporary (texts : StageTexts) (temporary : String)
    (encoded : Except String (List UInt8)) (directory : CacheDirectory) :
    CacheDirectory × Except String Unit :=
  match faults.createDirectory with
  | some error => (directory, .error (texts.createDirectory ++ error))
  | none =>
      match encoded with
      | .error error => (directory, .error (texts.serialize ++ error))
      | .ok bytes =>
          match createNew faults temporary directory with
          | (directory, .error error) => (directory, .error (texts.createTemporary ++ error))
          | (directory, .ok ()) =>
              match writeAndSync faults temporary bytes directory with
              | (directory, .error error) => (directory, .error (texts.write ++ error))
              | (directory, .ok ()) => (directory, .ok ())

/-- Publish bytes under a name; `onRefused` is the result when the rename was
refused and the temporary file removed. -/
def publishFile (texts : StageTexts) (temporary destination : String)
    (encoded : Except String (List UInt8))
    (onRefused : CacheDirectory → String → Except String Unit) (directory : CacheDirectory) :
    CacheDirectory × Except String Unit :=
  match stageTemporary faults texts temporary encoded directory with
  | (directory, .error error) => (directory, .error error)
  | (directory, .ok ()) =>
      match renameFile faults temporary destination directory with
      | (directory, .ok ()) => (directory, .ok ())
      | (directory, .error error) =>
          let directory := removeFile faults temporary directory
          (directory, onRefused directory error)

end Operations

/-! ## Inversion of the steps -/

section Steps

variable (faults : FaultPlan) (texts : StageTexts) (temporary : String)
variable (encoded : Except String (List UInt8)) (directory : CacheDirectory)

/-- The call comes to create its temporary file: the directory is there, the
value has bytes, and the name is free. -/
structure Stages (faults : FaultPlan) (temporary : String)
    (encoded : Except String (List UInt8)) (directory : CacheDirectory)
    (bytes : List UInt8) : Prop where
  createDirectory : faults.createDirectory = none
  encoded : encoded = .ok bytes
  createTemporary : faults.createTemporary = none
  free : directory temporary = none

/-- **What staging can do.**  It stops before it created anything; or it stops
with a temporary file, because the write or the sync failed; or it ends with all
bytes in the temporary file. -/
theorem stageTemporary_cases :
    ((∀ bytes, ¬ Stages faults temporary encoded directory bytes) ∧
      ∃ error, stageTemporary faults texts temporary encoded directory =
        (directory, .error error)) ∨
    ∃ bytes, Stages faults temporary encoded directory bytes ∧
      ((¬ (faults.write = none ∧ faults.sync = none) ∧
        ∃ written error, stageTemporary faults texts temporary encoded directory =
          (Function.update directory temporary (some (.file written)), .error error)) ∨
      (faults.write = none ∧ faults.sync = none ∧
        stageTemporary faults texts temporary encoded directory =
          (Function.update directory temporary (some (.file bytes)), .ok ()))) := by
  unfold stageTemporary
  cases hdir : faults.createDirectory with
  | some error =>
      exact Or.inl ⟨fun bytes h => by simpa [hdir] using h.createDirectory, _, rfl⟩
  | none =>
      cases encoded with
      | error error =>
          exact Or.inl ⟨fun bytes h => by simpa using h.encoded, _, rfl⟩
      | ok bytes =>
          cases hcreate : faults.createTemporary with
          | some error =>
              refine Or.inl ⟨fun bytes h => ?_, _, by simp [createNew, hcreate]; rfl⟩
              simpa [hcreate] using h.createTemporary
          | none =>
              cases hfree : directory temporary with
              | some entry =>
                  refine Or.inl ⟨fun bytes h => ?_, _, by simp [createNew, hcreate, hfree]; rfl⟩
                  simpa [hfree] using h.free
              | none =>
                  refine Or.inr ⟨bytes, ⟨hdir, rfl, hcreate, hfree⟩, ?_⟩
                  cases hwrite : faults.write with
                  | some failure =>
                      refine Or.inl ⟨by simp, bytes.take failure.1,
                        texts.write ++ failure.2, ?_⟩
                      simp [createNew, writeAndSync, hcreate, hfree, hwrite]
                  | none =>
                      cases hsync : faults.sync with
                      | some error =>
                          refine Or.inl ⟨by simp, bytes, texts.write ++ error, ?_⟩
                          simp [createNew, writeAndSync, hcreate, hfree, hwrite, hsync]
                      | none =>
                          refine Or.inr ⟨rfl, rfl, ?_⟩
                          simp [createNew, writeAndSync, hcreate, hfree, hwrite, hsync]

end Steps

/-! ## What a publication can do -/

/-- Nothing stands in the way of the rename. -/
def Renames (faults : FaultPlan) (destination : String) (directory : CacheDirectory) : Prop :=
  faults.rename = none ∧ directory destination ≠ some .other

/-- The ways in which a publication can end: the directory it leaves and what it
returns. -/
inductive PublishEnds (faults : FaultPlan) (temporary destination : String)
    (encoded : Except String (List UInt8))
    (onRefused : CacheDirectory → String → Except String Unit) (directory : CacheDirectory) :
    CacheDirectory × Except String Unit → Prop where
  /-- Nothing was created. -/
  | stopped (error : String)
      (hstages : ∀ bytes, ¬ Stages faults temporary encoded directory bytes) :
      PublishEnds faults temporary destination encoded onRefused directory
        (directory, .error error)
  /-- The write or the sync failed, and the temporary file stays. -/
  | abandoned (bytes written : List UInt8) (error : String)
      (hstages : Stages faults temporary encoded directory bytes)
      (hfault : ¬ (faults.write = none ∧ faults.sync = none)) :
      PublishEnds faults temporary destination encoded onRefused directory
        (Function.update directory temporary (some (.file written)), .error error)
  /-- The rename failed, and the temporary file was removed. -/
  | withdrawn (bytes : List UInt8) (error : String)
      (hstages : Stages faults temporary encoded directory bytes)
      (hwritten : faults.write = none ∧ faults.sync = none)
      (hrename : ¬ Renames faults destination directory) (hremove : faults.remove = none) :
      PublishEnds faults temporary destination encoded onRefused directory
        (directory, onRefused directory error)
  /-- The rename failed, and so did the removal of the temporary file. -/
  | stranded (bytes : List UInt8) (error : String)
      (hstages : Stages faults temporary encoded directory bytes)
      (hwritten : faults.write = none ∧ faults.sync = none)
      (hrename : ¬ Renames faults destination directory) (hremove : faults.remove ≠ none) :
      PublishEnds faults temporary destination encoded onRefused directory
        (Function.update directory temporary (some (.file bytes)),
          onRefused (Function.update directory temporary (some (.file bytes))) error)
  /-- The bytes are published. -/
  | published (bytes : List UInt8)
      (hstages : Stages faults temporary encoded directory bytes)
      (hwritten : faults.write = none ∧ faults.sync = none)
      (hrename : Renames faults destination directory) :
      PublishEnds faults temporary destination encoded onRefused directory
        (Function.update directory destination (some (.file bytes)), .ok ())

section Ends

variable {directory : CacheDirectory}

/-- Withdrawing a file that was created under a free name undoes the creation. -/
theorem update_update_none {name : String} {entry : Option CacheEntry}
    (hfree : directory name = none) :
    Function.update (Function.update directory name entry) name none = directory := by
  rw [Function.update_idem, ← hfree, Function.update_eq_self]

/-- Moving a new file is creating it under its new name. -/
theorem update_move {temporary destination : String} {entry : Option CacheEntry}
    (hne : temporary ≠ destination) (hfree : directory temporary = none) :
    Function.update (Function.update (Function.update directory temporary entry)
      destination entry) temporary none = Function.update directory destination entry := by
  rw [Function.update_comm hne, Function.update_idem]
  rw [Function.update_comm hne.symm, ← hfree, Function.update_eq_self]

/-- A rename either moves the file or changes nothing. -/
theorem renameFile_cases (faults : FaultPlan) (temporary destination : String)
    (directory : CacheDirectory) :
    (Renames faults destination directory ∧
      renameFile faults temporary destination directory =
        (Function.update (Function.update directory destination (directory temporary))
          temporary none, .ok ())) ∨
    (¬ Renames faults destination directory ∧
      ∃ error, renameFile faults temporary destination directory =
        (directory, .error error)) := by
  unfold renameFile Renames
  cases hrename : faults.rename with
  | some error => exact Or.inr ⟨by simp, error, rfl⟩
  | none =>
      cases hentry : directory destination with
      | none => exact Or.inl ⟨by simp, rfl⟩
      | some entry =>
          cases entry with
          | file bytes => exact Or.inl ⟨by simp, rfl⟩
          | other => exact Or.inr ⟨by simp, _, rfl⟩

/-- **Every publication ends in one of these ways.** -/
theorem publishFile_ends (faults : FaultPlan) (texts : StageTexts)
    {temporary destination : String} (hne : temporary ≠ destination)
    (encoded : Except String (List UInt8))
    (onRefused : CacheDirectory → String → Except String Unit) (directory : CacheDirectory) :
    PublishEnds faults temporary destination encoded onRefused directory
      (publishFile faults texts temporary destination encoded onRefused directory) := by
  unfold publishFile
  rcases stageTemporary_cases faults texts temporary encoded directory with
    ⟨hstages, error, hstage⟩ | ⟨bytes, hstages, ⟨hfault, written, error, hstage⟩ |
      ⟨hwrite, hsync, hstage⟩⟩
  · rw [hstage]
    exact .stopped error hstages
  · rw [hstage]
    exact .abandoned bytes written error hstages hfault
  · rw [hstage]
    -- the destination is not the temporary file, so it is as before the staging
    have hsame : Renames faults destination
        (Function.update directory temporary (some (.file bytes))) ↔
          Renames faults destination directory := by
      rw [Renames, Renames, Function.update_of_ne hne.symm]
    dsimp only
    rcases renameFile_cases faults temporary destination
        (Function.update directory temporary (some (.file bytes))) with
      ⟨hrename, hresult⟩ | ⟨hrename, error, hresult⟩
    · rw [hresult, Function.update_self, update_move hne hstages.free]
      exact .published bytes hstages ⟨hwrite, hsync⟩ (hsame.mp hrename)
    · rw [hresult]
      dsimp only
      cases hremove : faults.remove with
      | none =>
          have hafter : removeFile faults temporary
              (Function.update directory temporary (some (.file bytes))) = directory := by
            rw [removeFile, hremove]
            exact update_update_none hstages.free
          rw [hafter]
          exact .withdrawn bytes error hstages ⟨hwrite, hsync⟩
            (fun h => hrename (hsame.mpr h)) hremove
      | some failure =>
          have hafter : removeFile faults temporary
              (Function.update directory temporary (some (.file bytes))) =
                Function.update directory temporary (some (.file bytes)) := by
            rw [removeFile, hremove]
          rw [hafter]
          exact .stranded bytes error hstages ⟨hwrite, hsync⟩
            (fun h => hrename (hsame.mpr h)) (by simp [hremove])

end Ends

section Frame

variable {faults : FaultPlan} {temporary destination : String}
variable {encoded : Except String (List UInt8)}
variable {onRefused : CacheDirectory → String → Except String Unit}
variable {directory : CacheDirectory} {after : CacheDirectory × Except String Unit}

/-- A publication changes its temporary file and its destination only. -/
theorem PublishEnds.frame
    (h : PublishEnds faults temporary destination encoded onRefused directory after)
    {name : String} (htemporary : name ≠ temporary) (hdestination : name ≠ destination) :
    after.1 name = directory name := by
  cases h with
  | stopped | withdrawn => rfl
  | abandoned | stranded => exact Function.update_of_ne htemporary _ _
  | published => exact Function.update_of_ne hdestination _ _

/-- The destination is as before, or holds all bytes. -/
theorem PublishEnds.destination_cases
    (h : PublishEnds faults temporary destination encoded onRefused directory after)
    (hne : temporary ≠ destination) :
    after.1 destination = directory destination ∨
      ∃ bytes, encoded = .ok bytes ∧ after.1 destination = some (.file bytes) := by
  cases h with
  | stopped | withdrawn => exact Or.inl rfl
  | abandoned | stranded => exact Or.inl (Function.update_of_ne hne.symm _ _)
  | published bytes hstages =>
      exact Or.inr ⟨bytes, hstages.encoded, Function.update_self _ _ _⟩

end Frame

end AspRust.DevGate
