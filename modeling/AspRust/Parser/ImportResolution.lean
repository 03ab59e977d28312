import AspRust.Foundation.OrderedMap
import AspRust.Foundation.Path
import Mathlib.Data.List.Lex

/-!
# Where an import leads

The reasoning tree reads every `use` declaration as a list of paths, and looks for the
module that each path leads to.  A module is known by its namespace: the components of its
file below the project root, without the names `lib`, `main` and `mod`, and then the inline
modules around the declaration.  So the namespace of a module is the namespace of the root
of its crate, `src` for a library, followed by the modules down to it.

`localImportCandidateNamespace` turns a path into a namespace.  It reads `crate` as the first
component of the namespace, lets each leading `super` take back one component, and appends
everything behind `self`.  Rust does the same as long as the crate root is one component, the
`super` do not go above it, and none follows a `self`: `candidateNamespace_eq_iff` says that
the two agree exactly then.

The path that is suggested instead of a deep relative one is computed from the same
candidate, and leads back to it: `repair_resolves_alike`.

### What is load-bearing

The namespace of a module is not its path in Rust.  They agree where the components of the file
path are the modules, which fails in a crate whose root lies deeper than one component; the
theorem is for every crate root and says so.  Nothing depends on which modules exist until the
last step, where a candidate is looked up.
-/

namespace AspRust.Parser

open AspRust.Foundation

/-! ## Use declarations

The tree of a declaration and the imports that it is flattened to, with their leading
qualifiers. -/

/-- The tree of a `use` declaration. -/
inductive UseTree where
  | path (ident : String) (tree : UseTree)
  | name (ident : String)
  | rename (ident exposed : String)
  | glob
  | group (items : List UseTree)

inductive RustUseImportRootKind where
  | absolute
  | crate
  | selfScope
  | parent
  | external
  | unknown
deriving DecidableEq, Repr

structure RustUseImportSyntax where
  segments : List String
  exposedName : Option String
  isAbsolute : Bool
  rootKind : RustUseImportRootKind
  parentHops : ℕ
  isGlob : Bool
  isPreludeImport : Bool
deriving DecidableEq, Repr

/-- What the first segment of a path says about where it starts. -/
def importRootKind (isAbsolute : Bool) (segments : List String) : RustUseImportRootKind :=
  if isAbsolute then .absolute
  else
    match segments with
    | [] => .unknown
    | first :: _ =>
        if first = "crate" then .crate
        else if first = "self" then .selfScope
        else if first = "super" then .parent
        else .external

/-- The number of leading `super`. -/
def parentHops (segments : List String) : ℕ := (segments.takeWhile (· = "super")).length

def importSyntax (segments : List String) (exposedName : Option String)
    (isAbsolute isGlob : Bool) : RustUseImportSyntax where
  segments := segments
  exposedName := exposedName
  isAbsolute := isAbsolute
  rootKind := importRootKind isAbsolute segments
  parentHops := parentHops segments
  isGlob := isGlob
  isPreludeImport := segments.any (· = "prelude")

mutual

/-- The imports of a tree below a prefix. -/
def collectUseTreeImports (isAbsolute : Bool) : List String → UseTree → List RustUseImportSyntax
  | leading, .path ident tree => collectUseTreeImports isAbsolute (leading ++ [ident]) tree
  | leading, .name ident => [importSyntax (leading ++ [ident]) (some ident) isAbsolute false]
  | leading, .rename ident exposed =>
      [importSyntax (leading ++ [ident]) (some exposed) isAbsolute false]
  | leading, .glob => [importSyntax leading none isAbsolute true]
  | leading, .group items => collectUseTreesImports isAbsolute leading items

/-- The imports of the trees of a group. -/
def collectUseTreesImports (isAbsolute : Bool) :
    List String → List UseTree → List RustUseImportSyntax
  | _, [] => []
  | leading, tree :: rest =>
      collectUseTreeImports isAbsolute leading tree ++
        collectUseTreesImports isAbsolute leading rest

end

mutual

/-- Every import of a tree is read off its path, whatever tree it stands in. -/
theorem eq_importSyntax_of_mem {isAbsolute : Bool} {leading : List String} {tree : UseTree}
    {imported : RustUseImportSyntax}
    (h : imported ∈ collectUseTreeImports isAbsolute leading tree) :
    ∃ exposedName isGlob, imported =
      importSyntax imported.segments exposedName isAbsolute isGlob := by
  cases tree with
  | path ident tree =>
      rw [collectUseTreeImports] at h
      exact eq_importSyntax_of_mem h
  | name ident =>
      rw [collectUseTreeImports] at h
      obtain rfl := List.mem_singleton.mp h
      exact ⟨_, _, rfl⟩
  | rename ident exposed =>
      rw [collectUseTreeImports] at h
      obtain rfl := List.mem_singleton.mp h
      exact ⟨_, _, rfl⟩
  | glob =>
      rw [collectUseTreeImports] at h
      obtain rfl := List.mem_singleton.mp h
      exact ⟨_, _, rfl⟩
  | group items =>
      rw [collectUseTreeImports] at h
      exact eq_importSyntax_of_mem_group h

theorem eq_importSyntax_of_mem_group {isAbsolute : Bool} {leading : List String}
    {items : List UseTree} {imported : RustUseImportSyntax}
    (h : imported ∈ collectUseTreesImports isAbsolute leading items) :
    ∃ exposedName isGlob, imported =
      importSyntax imported.segments exposedName isAbsolute isGlob := by
  cases items with
  | nil => cases h
  | cons tree rest =>
      rw [collectUseTreesImports, List.mem_append] at h
      rcases h with h | h
      · exact eq_importSyntax_of_mem h
      · exact eq_importSyntax_of_mem_group h

end

/-- A path that starts with two `super` or more. -/
def isDeepRelativeImport (imported : RustUseImportSyntax) : Bool :=
  imported.rootKind = .parent && 2 ≤ imported.parentHops

/-! ## Candidates

The namespace that a path is turned into, and the longest known beginning of it, which
is the module that the import depends on. -/

/-- Take back one component for each `super`, and go down along the other segments. -/
def parentImportCandidateNamespace (currentNamespace segments : List String)
    (parentHops : ℕ) : Option (List String) :=
  if parentHops > currentNamespace.length then none
  else
    some (currentNamespace.take (currentNamespace.length - parentHops) ++
      segments.drop parentHops)

/-- The namespace an import may lead to. -/
def localImportCandidateNamespace (currentNamespace : List String)
    (imported : RustUseImportSyntax) : Option (List String) :=
  match imported.rootKind with
  | .crate =>
      match currentNamespace with
      | [] => none
      | root :: _ => some (root :: imported.segments.drop 1)
  | .selfScope => some (currentNamespace ++ imported.segments.drop 1)
  | .parent =>
      parentImportCandidateNamespace currentNamespace imported.segments imported.parentHops
  | .absolute | .external | .unknown => none

/-- The longest beginning of a candidate that is the namespace of a known module. -/
def longestKnownNamespacePrefix (candidate : List String) (known : OrderedMap (List String) Path) :
    Option (List String) :=
  ((List.range candidate.length).reverse.map fun length => candidate.take (length + 1)).find?
    fun leading => leading ∈ known.keys

structure RustReasoningOwnerDependencyFacts where
  sourcePath : Path
  sourceNamespace : List String
  targetPath : Path
  targetNamespace : List String
  viaRoot : RustUseImportRootKind
  line : ℕ
  isTestContext : Bool
deriving DecidableEq, Repr

/-- The module that an import leads to, when it is known, is not the crate root, and is not
the module of the import itself. -/
def localOwnerDependency (currentPath : Path) (sourceNamespace importNamespace : List String)
    (imported : RustUseImportSyntax) (line : ℕ) (isTestContext : Bool)
    (known : OrderedMap (List String) Path) : Option RustReasoningOwnerDependencyFacts := do
  let candidate ← localImportCandidateNamespace importNamespace imported
  let targetNamespace ← longestKnownNamespacePrefix candidate known
  if targetNamespace.length ≤ 1 ∨ targetNamespace = sourceNamespace then none
  else
    let targetPath ← known.get? targetNamespace
    some
      { sourcePath := currentPath
        sourceNamespace := sourceNamespace
        targetPath := targetPath
        targetNamespace := targetNamespace
        viaRoot := imported.rootKind
        line := line
        isTestContext := isTestContext }

/-! ## Deep relative imports

The path that is suggested instead of one with two or more leading `super`. -/

/-- A candidate as a path from the crate root. -/
def crateRelativeSegments (currentNamespace candidate : List String) : List String :=
  "crate" ::
    if currentNamespace ≠ [] ∧ candidate.head? = currentNamespace.head? then candidate.drop 1
    else candidate

/-- A path that begins with some `super`, from the crate root. -/
def crateRelativeParentSegments (currentNamespace segments : List String) (parentHops : ℕ) :
    Option (List String) :=
  (parentImportCandidateNamespace currentNamespace segments parentHops).map
    (crateRelativeSegments currentNamespace)

/-- The path that is suggested for a deep relative one. -/
def crateRelativeDeepRelativeImportSegments (currentNamespace : List String)
    (imported : RustUseImportSyntax) : Option (List String) :=
  crateRelativeParentSegments currentNamespace imported.segments imported.parentHops

/-! ## What Rust says

The qualifiers as Rust reads them, on the modules below the crate root.  A `super` above
the root leads nowhere. -/

/-- From a module, each leading `super` goes to the module around it, and above the crate
root there is none; the other segments go down. -/
def climbModules (crateRoot : List String) : List String → List String → Option (List String)
  | modules, "super" :: rest =>
      if modules = [] then none else climbModules crateRoot modules.dropLast rest
  | modules, segments => some (crateRoot ++ modules ++ segments)

/-- The namespace a path leads to from a module of a crate: `crate` starts at the crate
root, `self` and `super` at the module.  A path that starts otherwise, or with `::`, is not
looked up from there. -/
def rustTarget (crateRoot modules : List String) (isAbsolute : Bool) (segments : List String) :
    Option (List String) :=
  if isAbsolute then none
  else
    match segments with
    | "crate" :: rest => some (crateRoot ++ rest)
    | "self" :: rest => climbModules crateRoot modules rest
    | "super" :: rest => climbModules crateRoot modules ("super" :: rest)
    | _ => none

theorem parentHops_cons_super (rest : List String) :
    parentHops ("super" :: rest) = parentHops rest + 1 := by
  simp [parentHops]

theorem parentHops_cons_of_ne {first : String} (h : first ≠ "super") (rest : List String) :
    parentHops (first :: rest) = 0 := by
  simp [parentHops, h]

/-- The climb in one step: as many modules are left as there were, less the leading
`super`. -/
theorem climbModules_eq (crateRoot modules segments : List String) :
    climbModules crateRoot modules segments =
      if parentHops segments ≤ modules.length then
        some (crateRoot ++ modules.take (modules.length - parentHops segments) ++
          segments.drop (parentHops segments))
      else none := by
  induction segments generalizing modules with
  | nil => simp [climbModules, parentHops]
  | cons first rest ih =>
      by_cases hfirst : first = "super"
      · subst hfirst
        rw [climbModules, parentHops_cons_super]
        by_cases hmodules : modules = []
        · simp [hmodules]
        · -- one `super` and one module less
          have hpos := List.length_pos_of_ne_nil hmodules
          rw [if_neg hmodules, ih, List.length_dropLast, List.dropLast_eq_take,
            List.drop_succ_cons, List.take_take]
          by_cases henough : parentHops rest + 1 ≤ modules.length
          · have hleft : min (modules.length - 1 - parentHops rest) (modules.length - 1) =
                modules.length - (parentHops rest + 1) := by omega
            rw [if_pos henough, if_pos (by omega), hleft]
          · rw [if_neg henough, if_neg (by omega)]
      · rw [parentHops_cons_of_ne hfirst]
        simp [climbModules, hfirst]

/-! ## Agreement

By the first segment of the path: each kind of path has its own condition, and the
theorem puts the four together. -/

section Agreement

variable (crateRoot modules rest : List String) (exposedName : Option String) (isGlob : Bool)

/-- `crate` is right for a crate root of one component. -/
theorem candidate_crate_eq_iff :
    localImportCandidateNamespace (crateRoot ++ modules)
        (importSyntax ("crate" :: rest) exposedName false isGlob) =
      rustTarget crateRoot modules false ("crate" :: rest) ↔ crateRoot.length = 1 := by
  have htarget : rustTarget crateRoot modules false ("crate" :: rest) = some (crateRoot ++ rest) :=
    rfl
  rw [htarget]
  have hcandidate : localImportCandidateNamespace (crateRoot ++ modules)
      (importSyntax ("crate" :: rest) exposedName false isGlob) =
        match crateRoot ++ modules with
        | [] => none
        | root :: _ => some (root :: rest) := rfl
  rw [hcandidate]
  cases crateRoot with
  | nil =>
      -- the first module is taken for the crate root
      cases modules with
      | nil => simp
      | cons first others => simp
  | cons root others =>
      show some (root :: rest) = some (root :: others ++ rest) ↔ _
      simp

/-- `self` is right unless a `super` follows. -/
theorem candidate_self_eq_iff :
    localImportCandidateNamespace (crateRoot ++ modules)
        (importSyntax ("self" :: rest) exposedName false isGlob) =
      rustTarget crateRoot modules false ("self" :: rest) ↔ rest.head? ≠ some "super" := by
  have htarget : rustTarget crateRoot modules false ("self" :: rest) =
      climbModules crateRoot modules rest := rfl
  have hcandidate : localImportCandidateNamespace (crateRoot ++ modules)
      (importSyntax ("self" :: rest) exposedName false isGlob) =
        some (crateRoot ++ modules ++ rest) := rfl
  rw [htarget, hcandidate, climbModules_eq]
  by_cases hsuper : rest.head? = some "super"
  · obtain ⟨more, rfl⟩ : ∃ more, rest = "super" :: more := List.head?_eq_some_iff.mp hsuper
    refine iff_of_false (fun h => ?_) (not_not_intro hsuper)
    split at h
    · -- each `super` was kept as a segment, so the candidate is longer
      have hlength := congrArg List.length (Option.some.inj h)
      rw [parentHops_cons_super] at hlength
      simp only [List.length_append, List.length_take, List.length_drop, List.length_cons]
        at hlength
      omega
    · cases h
  · have hhops : parentHops rest = 0 := by
      cases rest with
      | nil => rfl
      | cons first more => exact parentHops_cons_of_ne (fun h => hsuper (by rw [h]; rfl)) more
    refine iff_of_true ?_ hsuper
    rw [hhops, if_pos (Nat.zero_le _), Nat.sub_zero, List.take_length, List.drop_zero]

/-- A run of `super` is right unless it goes above the crate root and not above the whole
namespace. -/
theorem candidate_super_eq_iff :
    localImportCandidateNamespace (crateRoot ++ modules)
        (importSyntax ("super" :: rest) exposedName false isGlob) =
      rustTarget crateRoot modules false ("super" :: rest) ↔
      (parentHops ("super" :: rest) ≤ modules.length ∨
        crateRoot.length + modules.length < parentHops ("super" :: rest)) := by
  have htarget : rustTarget crateRoot modules false ("super" :: rest) =
      climbModules crateRoot modules ("super" :: rest) := rfl
  have hcandidate : localImportCandidateNamespace (crateRoot ++ modules)
      (importSyntax ("super" :: rest) exposedName false isGlob) =
        parentImportCandidateNamespace (crateRoot ++ modules) ("super" :: rest)
          (parentHops ("super" :: rest)) := rfl
  rw [htarget, hcandidate, climbModules_eq, parentImportCandidateNamespace, List.length_append]
  generalize parentHops ("super" :: rest) = hops
  by_cases hinside : hops ≤ modules.length
  · -- only modules are taken back
    refine iff_of_true ?_ (Or.inl hinside)
    have htake : (crateRoot ++ modules).take (crateRoot.length + modules.length - hops) =
        crateRoot ++ modules.take (modules.length - hops) := by
      rw [Nat.add_sub_assoc hinside, List.take_length_add_append]
    rw [if_neg (by omega), if_pos hinside, htake]
  · rw [if_neg hinside]
    by_cases habove : hops > crateRoot.length + modules.length
    · exact iff_of_true (if_pos habove) (Or.inr habove)
    · rw [if_neg habove]
      -- the code climbs past the root of the crate, and no Rust path does
      refine iff_of_false (fun h => by cases h) ?_
      omega

/-- A path that starts with a name leads nowhere in the crate, for both. -/
theorem candidate_other_eq {first : String} (hcrate : first ≠ "crate") (hself : first ≠ "self")
    (hsuper : first ≠ "super") :
    localImportCandidateNamespace (crateRoot ++ modules)
        (importSyntax (first :: rest) exposedName false isGlob) =
      rustTarget crateRoot modules false (first :: rest) := by
  simp [localImportCandidateNamespace, importSyntax, importRootKind, rustTarget, hcrate, hself,
    hsuper]

end Agreement

/-- **When an import is resolved as Rust does.**  For every crate root, every module below
it and every path, the candidate is the namespace that the path leads to, or nothing where
it leads nowhere, exactly if `crate` is used in a crate whose root is one component, no
`super` follows a `self`, and a run of `super` does not reach above the crate root without
reaching above the namespace. -/
theorem candidateNamespace_eq_iff (crateRoot modules segments : List String)
    (exposedName : Option String) (isAbsolute isGlob : Bool) :
    localImportCandidateNamespace (crateRoot ++ modules)
        (importSyntax segments exposedName isAbsolute isGlob) =
      rustTarget crateRoot modules isAbsolute segments ↔
      (isAbsolute = true ∨
        (segments.head? = some "crate" → crateRoot.length = 1) ∧
        (segments.head? = some "self" → segments.tail.head? ≠ some "super") ∧
        (segments.head? = some "super" → parentHops segments ≤ modules.length ∨
          crateRoot.length + modules.length < parentHops segments)) := by
  cases isAbsolute with
  | true =>
      refine iff_of_true ?_ (Or.inl rfl)
      rfl
  | false =>
      rw [or_iff_right Bool.false_ne_true]
      cases segments with
      | nil =>
          refine iff_of_true rfl ?_
          simp
      | cons first rest =>
          by_cases hcrate : first = "crate"
          · subst hcrate
            rw [candidate_crate_eq_iff]
            simp
          · by_cases hself : first = "self"
            · subst hself
              rw [candidate_self_eq_iff]
              simp
            · by_cases hsuper : first = "super"
              · subst hsuper
                rw [candidate_super_eq_iff]
                simp
              · refine iff_of_true (candidate_other_eq _ _ _ _ _ hcrate hself hsuper) ?_
                simp [hcrate, hself, hsuper]

/-- In `src/a.rs`, `super::super::x` leads nowhere and gets the candidate `x`; in `src/a/b.rs`,
`self::super::x` leads to `src::a::x` and gets one that has `super` in it; and in
`tests/it.rs`, the root of a crate of its own, `crate::x` gets the candidate `tests::x`. -/
theorem qualifiers_misread :
    (rustTarget ["src"] ["a"] false ["super", "super", "x"] = none ∧
        localImportCandidateNamespace ["src", "a"]
          (importSyntax ["super", "super", "x"] (some "x") false false) = some ["x"]) ∧
      (rustTarget ["src"] ["a", "b"] false ["self", "super", "x"] = some ["src", "a", "x"] ∧
        localImportCandidateNamespace ["src", "a", "b"]
          (importSyntax ["self", "super", "x"] (some "x") false false) =
            some ["src", "a", "b", "super", "x"]) ∧
      rustTarget ["tests", "it"] [] false ["crate", "x"] = some ["tests", "it", "x"] ∧
        localImportCandidateNamespace ["tests", "it"]
          (importSyntax ["crate", "x"] (some "x") false false) = some ["tests", "x"] := by
  decide

/-! ## Repairs

The suggestion starts with `crate` and the components of the candidate, so it is read as
the candidate again. -/

/-- A path from the crate root leads back to the candidate it was made from. -/
theorem candidate_crateRelativeSegments {currentNamespace candidate : List String}
    (hne : currentNamespace ≠ []) (hroot : candidate.head? = currentNamespace.head?)
    (exposedName : Option String) (isGlob : Bool) :
    localImportCandidateNamespace currentNamespace
        (importSyntax (crateRelativeSegments currentNamespace candidate) exposedName false isGlob) =
      some candidate := by
  obtain ⟨root, others, rfl⟩ := List.exists_cons_of_ne_nil hne
  obtain ⟨below, rfl⟩ : ∃ below, candidate = root :: below := List.head?_eq_some_iff.mp hroot
  rw [crateRelativeSegments, if_pos ⟨hne, hroot⟩]
  rfl

/-- A deep relative import of a declaration is a relative path with two leading `super` or
more. -/
theorem parentHops_of_isDeepRelativeImport {isAbsolute : Bool} {leading : List String}
    {tree : UseTree} {imported : RustUseImportSyntax}
    (hmem : imported ∈ collectUseTreeImports isAbsolute leading tree)
    (hdeep : isDeepRelativeImport imported = true) :
    ∃ exposedName isGlob, imported = importSyntax imported.segments exposedName false isGlob ∧
      2 ≤ parentHops imported.segments := by
  obtain ⟨exposedName, isGlob, himported⟩ := eq_importSyntax_of_mem hmem
  obtain ⟨hkind, hhops⟩ := Bool.and_eq_true_iff.mp hdeep
  have hrelative : isAbsolute = false := by
    cases isAbsolute with
    | false => rfl
    | true =>
        rw [himported] at hkind
        cases of_decide_eq_true hkind
  rw [hrelative] at himported
  refine ⟨exposedName, isGlob, himported, ?_⟩
  rw [himported] at hhops
  exact of_decide_eq_true hhops

theorem importSyntax_of_parentHops_pos {segments : List String} (h : 0 < parentHops segments)
    (exposedName : Option String) (isGlob : Bool) :
    (importSyntax segments exposedName false isGlob).rootKind = .parent := by
  cases segments with
  | nil => cases h
  | cons first rest =>
      by_cases hfirst : first = "super"
      · subst hfirst
        rfl
      · rw [parentHops_cons_of_ne hfirst] at h
        cases h

/-- The module an import leads to depends on its candidate only. -/
theorem targetNamespace_of_candidate_eq {importNamespace : List String}
    {first second : RustUseImportSyntax}
    (h : localImportCandidateNamespace importNamespace first =
      localImportCandidateNamespace importNamespace second) (currentPath : Path)
    (sourceNamespace : List String) (line : ℕ) (isTestContext : Bool)
    (known : OrderedMap (List String) Path) :
    (localOwnerDependency currentPath sourceNamespace importNamespace first line isTestContext
        known).map RustReasoningOwnerDependencyFacts.targetNamespace =
      (localOwnerDependency currentPath sourceNamespace importNamespace second line isTestContext
        known).map RustReasoningOwnerDependencyFacts.targetNamespace := by
  unfold localOwnerDependency
  rw [h]
  cases localImportCandidateNamespace importNamespace second with
  | none => rfl
  | some candidate =>
      simp only [Option.bind_eq_bind, Option.bind_some]
      cases longestKnownNamespacePrefix candidate known with
      | none => rfl
      | some target =>
          simp only [Option.bind_some]
          split
          · rfl
          · cases known.get? target <;> rfl

/-- **The suggested path leads where the original does.**  For a path with two leading
`super` or more, and fewer than the namespace has components, a path is suggested, it has
the candidate of the original, and whatever modules are known, both lead to the same one. -/
theorem repair_resolves_alike (currentNamespace segments : List String)
    (exposedName : Option String) (isGlob : Bool) (hdeep : 2 ≤ parentHops segments)
    (hfewer : parentHops segments < currentNamespace.length) :
    ∃ replacement target,
      crateRelativeDeepRelativeImportSegments currentNamespace
          (importSyntax segments exposedName false isGlob) = some replacement ∧
        localImportCandidateNamespace currentNamespace
          (importSyntax segments exposedName false isGlob) = some target ∧
        localImportCandidateNamespace currentNamespace
          (importSyntax replacement exposedName false isGlob) = some target ∧
        ∀ currentPath sourceNamespace line isTestContext known,
          (localOwnerDependency currentPath sourceNamespace currentNamespace
              (importSyntax replacement exposedName false isGlob) line isTestContext known).map
              RustReasoningOwnerDependencyFacts.targetNamespace =
            (localOwnerDependency currentPath sourceNamespace currentNamespace
              (importSyntax segments exposedName false isGlob) line isTestContext known).map
              RustReasoningOwnerDependencyFacts.targetNamespace := by
  have hne : currentNamespace ≠ [] := by
    intro hnil
    rw [hnil] at hfewer
    cases hfewer
  obtain ⟨target, htarget⟩ : ∃ target, target =
      currentNamespace.take (currentNamespace.length - parentHops segments) ++
        segments.drop (parentHops segments) := ⟨_, rfl⟩
  have hcandidate : parentImportCandidateNamespace currentNamespace segments
      (parentHops segments) = some target := by
    rw [parentImportCandidateNamespace, if_neg (by omega), htarget]
  -- the root is not taken back, so the candidate begins with it
  have hroot : target.head? = currentNamespace.head? := by
    obtain ⟨root, others, rfl⟩ := List.exists_cons_of_ne_nil hne
    obtain ⟨left, hleft⟩ : ∃ left, (root :: others).length - parentHops segments = left + 1 :=
      ⟨(root :: others).length - parentHops segments - 1, by omega⟩
    rw [htarget, hleft]
    rfl
  have horiginal : localImportCandidateNamespace currentNamespace
      (importSyntax segments exposedName false isGlob) = some target := by
    unfold localImportCandidateNamespace
    rw [importSyntax_of_parentHops_pos (by omega)]
    exact hcandidate
  have hrepaired := candidate_crateRelativeSegments hne hroot exposedName isGlob
  refine ⟨crateRelativeSegments currentNamespace target, target, ?_, horiginal, hrepaired, ?_⟩
  · exact congrArg (Option.map (crateRelativeSegments currentNamespace)) hcandidate
  · intro currentPath sourceNamespace line isTestContext known
    exact targetNamespace_of_candidate_eq (hrepaired.trans horiginal.symm) _ _ _ _ _

/-- In `src/gateway/studio/support.rs`, the path `super::super::Issue` is repaired to
`crate::gateway::Issue`. -/
theorem support_repair :
    2 ≤ parentHops ["super", "super", "Issue"] ∧
      parentHops ["super", "super", "Issue"] < ["src", "gateway", "studio", "support"].length ∧
      ∃ replacement target,
        crateRelativeDeepRelativeImportSegments ["src", "gateway", "studio", "support"]
            (importSyntax ["super", "super", "Issue"] (some "Issue") false false) =
          some replacement ∧
        localImportCandidateNamespace ["src", "gateway", "studio", "support"]
            (importSyntax replacement (some "Issue") false false) = some target ∧
        replacement = ["crate", "gateway", "Issue"] ∧ target = ["src", "gateway", "Issue"] := by
  obtain ⟨replacement, target, hsuggested, horiginal, hrepaired, -⟩ :=
    repair_resolves_alike ["src", "gateway", "studio", "support"] ["super", "super", "Issue"]
      (some "Issue") false (by decide) (by decide)
  refine ⟨by decide, by decide, replacement, target, hsuggested, hrepaired, ?_, ?_⟩
  · exact (Option.some.inj hsuggested).symm
  · exact (Option.some.inj horiginal).symm

end AspRust.Parser
