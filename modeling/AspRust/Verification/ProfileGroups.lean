import AspRust.Foundation.Grouping
import AspRust.Foundation.KeepFirst
import AspRust.Parser.ReasoningTree
import AspRust.Verification.ModuleLookup

/-!
# Groups of modules that share a profile

A profile is suggested for an owner from all modules that belong to it.  A module belongs to
the nearest branch above it that owns a profile, and to itself where there is none.

The groups are found in three passes.  The first puts each module under the path of its
nearest branch, and remembers the modules that are not a branch themselves as covered.  The
second makes a group for each branch that has modules, and the third one for each module that
is neither covered nor a branch.  `profileGroups_partition` says that every source module is
in exactly one group, and in which one.

Nothing is done with a path but to compare it, so the type of paths is left open.

### What is load-bearing

The second pass is about branches and the third about modules, and a branch is found again
among the modules by its path.  So the passes agree only if paths tell branches apart and
modules apart, and if no module stands at the path of a branch that is not its own.
`ProfileInput` collects this; `profileInput_of_reasoningTree` says that what the parser
builds has it.  Without it a module can be lost (`profileGroups_not_partition`).
-/

namespace AspRust.Verification

open AspRust.Foundation

/-- A module, as far as profiles depend on it. -/
structure ProfileModuleFacts (P : Type*) where
  path : P
  namespaceComponents : List String
  isCrateFacade : Bool := false
  productionExternalImports : List (List String) := []
  localOwnerDependencies : List RustReasoningOwnerDependencyFacts := []
  publicApiSummary : Parser.RustReasoningPublicApiFacts := ⟨0, 0, 0⟩
  isSourceModule : Bool := true
  isModuleTreeRoot : Bool := false
deriving DecidableEq

/-- A branch, as far as profiles depend on it; of its children only the number counts. -/
structure ProfileBranchFacts (P : Type*) where
  path : P
  ownerNamespace : List String
  roles : List Parser.RustReasoningOwnerBranchRole
  declaredChildEdges : ℕ := 0
deriving DecidableEq

/-- The modules whose signals are added up for one owner. -/
structure ProfileGroup (P : Type*) where
  module : ProfileModuleFacts P
  branch : Option (ProfileBranchFacts P)
  members : List (ProfileModuleFacts P)
deriving DecidableEq

section Groups

variable {P : Type*} [LinearOrder P]

omit [LinearOrder P] in
/-- Branches that are not a crate root, or that are an entry point. -/
def branchIsProfileOwner (branch : ProfileBranchFacts P) : Bool :=
  Parser.RustReasoningOwnerBranchRole.root ∉ branch.roles ||
    Parser.RustReasoningOwnerBranchRole.binary ∈ branch.roles ||
    Parser.RustReasoningOwnerBranchRole.packageEntrypoint ∈ branch.roles

/-! ## The nearest branch

Branches are looked up by their namespace, for each beginning of the namespace of the
module, the longest first. -/

/-- The first branch of each namespace. -/
abbrev ProfileBranchLookup (P : Type*) := OrderedMap (List String) (ProfileBranchFacts P)

namespace ProfileBranchLookup

def new (branches : List (ProfileBranchFacts P)) : ProfileBranchLookup P :=
  OrderedMap.keepFirst (fun branch => some branch.ownerNamespace) branches

/-- Longer beginnings of the namespace are tried first. -/
def nearestProfileBranch (lookup : ProfileBranchLookup P) (module : ProfileModuleFacts P) :
    Option (ProfileBranchFacts P) :=
  (List.range (module.namespaceComponents.length + 1)).reverse.findSome? fun length =>
    OrderedMap.get? lookup (module.namespaceComponents.take length)

end ProfileBranchLookup

/-! ## The passes

The passes in the order of the source, with the maps that they hand on. -/

/-- What the first pass has found. -/
structure ProfileAssignment (P : Type*) [LinearOrder P] where
  coveredLeafPaths : OrderedSet P
  branchModulesByPath : OrderedMap P (List (ProfileModuleFacts P))

/-- One module of the first pass. -/
def assignModule (lookup : ProfileBranchLookup P) (assignment : ProfileAssignment P)
    (module : ProfileModuleFacts P) : ProfileAssignment P :=
  match lookup.nearestProfileBranch module with
  | none => assignment
  | some branch =>
      { coveredLeafPaths :=
          if module.path ≠ branch.path then assignment.coveredLeafPaths.add module.path
          else assignment.coveredLeafPaths
        branchModulesByPath := assignment.branchModulesByPath.insert branch.path
          ((assignment.branchModulesByPath.get? branch.path).getD [] ++ [module]) }

def sourceModules (modules : List (ProfileModuleFacts P)) : List (ProfileModuleFacts P) :=
  modules.filter (·.isSourceModule)

def profiledBranches (branches : List (ProfileBranchFacts P)) : List (ProfileBranchFacts P) :=
  branches.filter branchIsProfileOwner

def profileAssignment (modules : List (ProfileModuleFacts P))
    (branches : List (ProfileBranchFacts P)) : ProfileAssignment P :=
  (sourceModules modules).foldl
    (assignModule (ProfileBranchLookup.new (profiledBranches branches))) ⟨∅, ∅⟩

/-- The group of a branch, if its module is known and any module belongs to it. -/
def branchGroup (modules : List (ProfileModuleFacts P)) (assignment : ProfileAssignment P)
    (branch : ProfileBranchFacts P) : Option (ProfileGroup P) := do
  let module ← (OrderedMap.insertAll ProfileModuleFacts.path id modules ∅).get? branch.path
  let members ← assignment.branchModulesByPath.get? branch.path
  return ⟨module, some branch, members⟩

/-- The group of a module that is no branch of its own. -/
def leafGroup (branches : List (ProfileBranchFacts P)) (module : ProfileModuleFacts P) :
    Option (ProfileGroup P) :=
  let branch := (OrderedMap.insertAll ProfileBranchFacts.path id branches ∅).get? module.path
  if branch.any branchIsProfileOwner then none else some ⟨module, branch, [module]⟩

/-- The groups in the order in which they are considered. -/
def profileGroups (modules : List (ProfileModuleFacts P))
    (branches : List (ProfileBranchFacts P)) : List (ProfileGroup P) :=
  let assignment := profileAssignment modules branches
  (profiledBranches branches).filterMap (branchGroup modules assignment) ++
    ((sourceModules modules).filter fun module =>
      module.path ∉ assignment.coveredLeafPaths.keys).filterMap (leafGroup branches)

end Groups

/-! ## What the nearest branch is

The search from the longest beginning down finds the profile owner with the longest
namespace; among several with one namespace the map has kept the first. -/

section Nearest

variable {P : Type*}

/-- Of the profile owners whose namespace begins that of the module, the branch has the
longest namespace, and it is the first with a namespace of that length. -/
structure NearestBranchAt (module : ProfileModuleFacts P)
    (before : List (ProfileBranchFacts P)) (branch : ProfileBranchFacts P)
    (after : List (ProfileBranchFacts P)) : Prop where
  isPrefix : branch.ownerNamespace <+: module.namespaceComponents
  before_lt : ∀ other ∈ before, other.ownerNamespace <+: module.namespaceComponents →
    other.ownerNamespace.length < branch.ownerNamespace.length
  after_le : ∀ other ∈ after, other.ownerNamespace <+: module.namespaceComponents →
    other.ownerNamespace.length ≤ branch.ownerNamespace.length

def NearestBranch (branches : List (ProfileBranchFacts P)) (module : ProfileModuleFacts P)
    (branch : ProfileBranchFacts P) : Prop :=
  ∃ before after, profiledBranches branches = before ++ branch :: after ∧
    NearestBranchAt module before branch after

/-- A search downwards finds the largest number that has a result. -/
theorem findSome?_reverse_range {α : Type*} {result? : ℕ → Option α} {bound : ℕ} :
    (∀ result, (List.range bound).reverse.findSome? result? = some result →
      ∃ index < bound, result? index = some result ∧
        ∀ larger, index < larger → larger < bound → result? larger = none) ∧
    ((List.range bound).reverse.findSome? result? = none →
      ∀ index < bound, result? index = none) := by
  induction bound with
  | zero =>
      refine ⟨?_, fun _ index hindex => absurd hindex (Nat.not_lt_zero index)⟩
      rintro result ⟨⟩
  | succ bound ih =>
      obtain ⟨hsome, hnone⟩ := ih
      rw [List.range_succ, List.reverse_append, List.reverse_singleton, List.singleton_append,
        List.findSome?_cons]
      cases hlast : result? bound with
      | some last =>
          refine ⟨?_, fun h => absurd h (Option.some_ne_none last)⟩
          rintro result ⟨⟩
          exact ⟨bound, Nat.lt_succ_self bound, hlast, fun larger hlarger hbound => by omega⟩
      | none =>
          refine ⟨fun result hresult => ?_, fun hresult index hindex => ?_⟩
          · obtain ⟨index, hindex, hfound, hlarger⟩ := hsome result hresult
            refine ⟨index, by omega, hfound, fun larger hlt hbound => ?_⟩
            obtain rfl | hsmaller := Nat.eq_or_lt_of_le (Nat.le_of_lt_succ hbound)
            · exact hlast
            · exact hlarger larger hlt hsmaller
          · obtain rfl | hsmaller := Nat.eq_or_lt_of_le (Nat.le_of_lt_succ hindex)
            · exact hlast
            · exact hnone hresult index hsmaller

variable {owners : List (ProfileBranchFacts P)} {module : ProfileModuleFacts P}

theorem get?_new (components : List String) :
    OrderedMap.get? (ProfileBranchLookup.new owners) components =
      owners.find? fun branch => some branch.ownerNamespace = some components := by
  rw [ProfileBranchLookup.new, OrderedMap.get?_keepFirst]
  congr 1
  funext branch
  exact decide_eq_decide.mpr Iff.rfl

/-- A profile owner above the module is found at the length of its namespace. -/
theorem get?_new_take_ne_none {owner : ProfileBranchFacts P} (hmem : owner ∈ owners)
    (hbegin : owner.ownerNamespace <+: module.namespaceComponents) :
    OrderedMap.get? (ProfileBranchLookup.new owners)
      (module.namespaceComponents.take owner.ownerNamespace.length) ≠ none := by
  rw [get?_new, ne_eq, List.find?_eq_none, not_forall]
  refine ⟨owner, fun h => h hmem ?_⟩
  rw [← List.prefix_iff_eq_take.mp hbegin]
  exact decide_eq_true rfl

theorem nearestProfileBranch_eq_some {branch : ProfileBranchFacts P}
    (h : (ProfileBranchLookup.new owners).nearestProfileBranch module = some branch) :
    ∃ before after, owners = before ++ branch :: after ∧
      NearestBranchAt module before branch after := by
  obtain ⟨length, hlength, hfound, hlarger⟩ := findSome?_reverse_range.1 branch h
  rw [get?_new] at hfound
  obtain ⟨hnamespace, before, after, howners, hbefore⟩ :=
    List.find?_eq_some_iff_append.mp hfound
  have hbranch : branch.ownerNamespace = module.namespaceComponents.take length :=
    Option.some.inj (of_decide_eq_true hnamespace)
  have hsize : branch.ownerNamespace.length = length := by
    rw [hbranch, List.length_take]
    omega
  -- nothing longer is above the module
  have hle : ∀ other ∈ owners, other.ownerNamespace <+: module.namespaceComponents →
      other.ownerNamespace.length ≤ branch.ownerNamespace.length := by
    intro other hother hbegin
    by_contra hlt
    refine get?_new_take_ne_none hother hbegin (hlarger _ (by omega) ?_)
    have hbound := hbegin.length_le
    omega
  refine ⟨before, after, howners, ?_, ?_, ?_⟩
  · rw [hbranch]
    exact List.take_prefix _ _
  · intro other hother hbegin
    have hmem : other ∈ owners := howners ▸ List.mem_append_left _ hother
    refine lt_of_le_of_ne (hle other hmem hbegin) fun hsame => ?_
    have hnot := hbefore other hother
    rw [List.prefix_iff_eq_take.mp hbegin, hsame, hsize] at hnot
    simp at hnot
  · intro other hother
    exact hle other (howners ▸ List.mem_append_right _ (List.mem_cons_of_mem _ hother))

theorem nearestProfileBranch_eq_none
    (h : (ProfileBranchLookup.new owners).nearestProfileBranch module = none) :
    ∀ owner ∈ owners, ¬ owner.ownerNamespace <+: module.namespaceComponents := by
  intro owner howner hbegin
  refine get?_new_take_ne_none howner hbegin (findSome?_reverse_range.2 h _ ?_)
  have hbound := hbegin.length_le
  omega

end Nearest

/-! ## What the passes find

The first pass is a fold over the modules.  Its two results are described module by
module: which are covered, and which stand under the path of a branch. -/

section Passes

variable {P : Type*} [LinearOrder P] {modules : List (ProfileModuleFacts P)}
  {branches : List (ProfileBranchFacts P)}

variable (branches) in
/-- The nearest branch of a module among the profile owners. -/
def nearest (module : ProfileModuleFacts P) : Option (ProfileBranchFacts P) :=
  (ProfileBranchLookup.new (profiledBranches branches)).nearestProfileBranch module

omit [LinearOrder P] in
theorem mem_profiledBranches_of_nearest {module : ProfileModuleFacts P}
    {branch : ProfileBranchFacts P} (h : nearest branches module = some branch) :
    branch ∈ profiledBranches branches := by
  obtain ⟨before, after, howners, -⟩ := nearestProfileBranch_eq_some h
  rw [howners]
  exact List.mem_append_right _ List.mem_cons_self

/-- A module is covered if its nearest branch is another one. -/
def CoversLeaf (branches : List (ProfileBranchFacts P)) (module : ProfileModuleFacts P) (path : P) :
    Prop :=
  ∃ branch, nearest branches module = some branch ∧ module.path ≠ branch.path ∧ module.path = path

theorem mem_assignModule_covered {assignment : ProfileAssignment P}
    {module : ProfileModuleFacts P} {path : P} :
    path ∈ (assignModule (ProfileBranchLookup.new (profiledBranches branches)) assignment
        module).coveredLeafPaths.keys ↔
      path ∈ assignment.coveredLeafPaths.keys ∨ CoversLeaf branches module path := by
  unfold assignModule CoversLeaf nearest
  cases (ProfileBranchLookup.new (profiledBranches branches)).nearestProfileBranch module with
  | none => simp
  | some branch =>
      by_cases hpath : module.path = branch.path
      · simp [hpath]
      · simp [hpath, or_comm, eq_comm]

theorem mem_profileAssignment_covered {path : P} :
    path ∈ (profileAssignment modules branches).coveredLeafPaths.keys ↔
      ∃ module ∈ sourceModules modules, CoversLeaf branches module path := by
  have hfold : ∀ (found : List (ProfileModuleFacts P)) (assignment : ProfileAssignment P),
      path ∈ (found.foldl (assignModule (ProfileBranchLookup.new (profiledBranches branches)))
          assignment).coveredLeafPaths.keys ↔
        path ∈ assignment.coveredLeafPaths.keys ∨
          ∃ module ∈ found, CoversLeaf branches module path := by
    intro found
    induction found with
    | nil => simp
    | cons first rest ih =>
        intro assignment
        rw [List.foldl_cons, ih, mem_assignModule_covered, List.exists_mem_cons_iff, or_assoc]
  rw [profileAssignment, hfold]
  exact or_iff_right List.not_mem_nil

/-- The first pass puts the modules of each branch under its path. -/
theorem profileAssignment_branchModulesByPath :
    (profileAssignment modules branches).branchModulesByPath =
      OrderedMap.collectGroups (fun module => (nearest branches module).map (·.path))
        (sourceModules modules) := by
  have hstep : ∀ (assignment : ProfileAssignment P) (module : ProfileModuleFacts P),
      (assignModule (ProfileBranchLookup.new (profiledBranches branches)) assignment
          module).branchModulesByPath =
        OrderedMap.collectGroup (fun module => (nearest branches module).map (·.path))
          assignment.branchModulesByPath module := by
    intro assignment module
    unfold assignModule OrderedMap.collectGroup nearest
    dsimp only
    cases (ProfileBranchLookup.new (profiledBranches branches)).nearestProfileBranch module with
    | none => rfl
    | some branch => rfl
  have hfold : ∀ (found : List (ProfileModuleFacts P)) (assignment : ProfileAssignment P),
      (found.foldl (assignModule (ProfileBranchLookup.new (profiledBranches branches)))
          assignment).branchModulesByPath =
        found.foldl (OrderedMap.collectGroup fun module =>
          (nearest branches module).map (·.path)) assignment.branchModulesByPath := by
    intro found
    induction found with
    | nil => exact fun _ => rfl
    | cons first rest ih =>
        intro assignment
        rw [List.foldl_cons, List.foldl_cons, ih, hstep]
  exact hfold _ _

end Passes

/-! ## The partition

With what the parser promises, a group of the second pass has the modules whose nearest
branch it is, and a group of the third has one module with no branch above it.  Between
them they have every source module, and none twice. -/

section Partition

variable {P : Type*} [LinearOrder P] {modules : List (ProfileModuleFacts P)}
  {branches : List (ProfileBranchFacts P)}

/-- What the parser promises about the modules and branches of a package. -/
structure ProfileInput (modules : List (ProfileModuleFacts P))
    (branches : List (ProfileBranchFacts P)) : Prop where
  branch_mem : ∀ branch ∈ branches, ∃ module ∈ modules, module.path = branch.path
  nodup_modules : ((sourceModules modules).map ProfileModuleFacts.path).Nodup
  nodup_branches : (branches.map ProfileBranchFacts.path).Nodup
  namespace_prefix : ∀ branch ∈ profiledBranches branches, ∀ module ∈ sourceModules modules,
    module.path = branch.path → branch.ownerNamespace <+: module.namespaceComponents

variable (h : ProfileInput modules branches)
include h

omit [LinearOrder P] in
/-- Branches with one path are one branch. -/
theorem ProfileInput.branch_ext {first second : ProfileBranchFacts P} (hfirst : first ∈ branches)
    (hsecond : second ∈ branches) (hpath : first.path = second.path) : first = second :=
  List.inj_on_of_nodup_map h.nodup_branches hfirst hsecond hpath

omit [LinearOrder P] in
/-- Source modules with one path are one module. -/
theorem ProfileInput.module_ext {first second : ProfileModuleFacts P}
    (hfirst : first ∈ sourceModules modules) (hsecond : second ∈ sourceModules modules)
    (hpath : first.path = second.path) : first = second :=
  List.inj_on_of_nodup_map h.nodup_modules hfirst hsecond hpath

omit [LinearOrder P] in
theorem ProfileInput.nodup_profiledBranches :
    ((profiledBranches branches).map ProfileBranchFacts.path).Nodup :=
  h.nodup_branches.sublist (List.filter_sublist.map _)

/-- The group of a profile owner has the modules that it is nearest to. -/
theorem ProfileInput.branchGroup_eq {branch : ProfileBranchFacts P}
    (hbranch : branch ∈ profiledBranches branches) :
    ∃ module, module.path = branch.path ∧
      branchGroup modules (profileAssignment modules branches) branch =
        if (sourceModules modules).filter (fun module => nearest branches module = some branch) = []
        then none
        else some ⟨module, some branch,
          (sourceModules modules).filter fun module => nearest branches module = some branch⟩ := by
  have hmem := List.mem_of_mem_filter hbranch
  -- the branch stands for its path
  have hfilter : ((sourceModules modules).filter fun module =>
      (nearest branches module).map ProfileBranchFacts.path = some branch.path) =
        (sourceModules modules).filter fun module => nearest branches module = some branch := by
    refine List.filter_congr fun module _ => ?_
    cases hnearest : nearest branches module with
    | none => rfl
    | some other =>
        have hother := List.mem_of_mem_filter (mem_profiledBranches_of_nearest hnearest)
        refine decide_eq_decide.mpr ⟨fun hpath => ?_, fun hsame => ?_⟩
        · rw [h.branch_ext hother hmem (Option.some.inj hpath)]
        · rw [Option.some.inj hsame]
          rfl
  have hmembers : (profileAssignment modules branches).branchModulesByPath.get? branch.path =
      if (sourceModules modules).filter (fun module => nearest branches module = some branch) = []
      then none
      else some ((sourceModules modules).filter fun module =>
        nearest branches module = some branch) := by
    rw [profileAssignment_branchModulesByPath, OrderedMap.get?_collectGroups, hfilter]
  obtain ⟨owner, howner, hpath⟩ := h.branch_mem branch hmem
  have hkey : branch.path ∈
      (OrderedMap.insertAll ProfileModuleFacts.path id modules ∅).keys :=
    OrderedMap.mem_keys_insertAll _ _ |>.mpr (Or.inr ⟨owner, howner, hpath⟩)
  obtain ⟨module, hmodule⟩ := OrderedMap.mem_keys_iff.mp hkey
  refine ⟨module, ?_, ?_⟩
  · obtain hempty | ⟨found, -, hfound, rfl⟩ := OrderedMap.exists_of_get?_insertAll _ _ hmodule
    · cases hempty
    · exact hfound
  · unfold branchGroup
    rw [hmodule, hmembers]
    split
    · rfl
    · rfl

/-- The branch at a path, when there is one. -/
theorem ProfileInput.get?_branches {branch : ProfileBranchFacts P} (hbranch : branch ∈ branches) :
    (OrderedMap.insertAll ProfileBranchFacts.path id branches ∅).get? branch.path =
      some branch := by
  refine OrderedMap.get?_insertAll _ _ hbranch (fun other hother hpath => ?_) ∅
  exact h.branch_ext hother hbranch hpath

/-- The last pass makes a group of a module exactly if no profile owner is above it. -/
theorem ProfileInput.leafGroup_eq {module : ProfileModuleFacts P}
    (hmodule : module ∈ sourceModules modules) :
    (if module.path ∉ (profileAssignment modules branches).coveredLeafPaths.keys then
        leafGroup branches module else none) =
      if nearest branches module = none then
        some ⟨module, (OrderedMap.insertAll ProfileBranchFacts.path id branches ∅).get?
          module.path, [module]⟩
      else none := by
  cases hnearest : nearest branches module with
  | none =>
      have hcovered : module.path ∉ (profileAssignment modules branches).coveredLeafPaths.keys := by
        rw [mem_profileAssignment_covered]
        rintro ⟨other, hother, branch, hbranch, -, hpath⟩
        rw [h.module_ext hother hmodule hpath, hnearest] at hbranch
        cases hbranch
      -- a profile owner at the path of the module would be above it
      have howner : (((OrderedMap.insertAll ProfileBranchFacts.path id branches ∅).get?
          module.path).any branchIsProfileOwner) = false := by
        rw [Option.any_eq_false]
        intro branch hbranch
        obtain hempty | ⟨found, hfound, hpath, rfl⟩ :=
          OrderedMap.exists_of_get?_insertAll _ _ hbranch
        · cases hempty
        · by_contra hnot
          have hprofiled : found ∈ profiledBranches branches :=
            List.mem_filter.mpr ⟨hfound, eq_true_of_ne_false hnot⟩
          exact nearestProfileBranch_eq_none hnearest found hprofiled
            (h.namespace_prefix found hprofiled module hmodule hpath.symm)
      rw [if_pos hcovered, if_pos rfl, leafGroup, howner]
      rfl
  | some branch =>
      have hbranch := mem_profiledBranches_of_nearest hnearest
      rw [if_neg (Option.some_ne_none branch)]
      by_cases hpath : module.path = branch.path
      · have hget := h.get?_branches (List.mem_of_mem_filter hbranch)
        rw [← hpath] at hget
        have howner : branchIsProfileOwner branch = true := (List.mem_filter.mp hbranch).2
        rw [leafGroup, hget, Option.any_some, howner]
        split
        · rfl
        · rfl
      · have hcovered : module.path ∈
            (profileAssignment modules branches).coveredLeafPaths.keys :=
          mem_profileAssignment_covered.mpr ⟨module, hmodule, branch, hnearest, hpath, rfl⟩
        rw [if_neg (not_not.mpr hcovered)]

/-- The group of a module in which no profile owner is above. -/
def ownGroup (branches : List (ProfileBranchFacts P)) (module : ProfileModuleFacts P) :
    ProfileGroup P :=
  ⟨module, (OrderedMap.insertAll ProfileBranchFacts.path id branches ∅).get? module.path, [module]⟩

theorem ProfileInput.leafGroups_eq :
    ((sourceModules modules).filter fun module =>
        module.path ∉ (profileAssignment modules branches).coveredLeafPaths.keys).filterMap
          (leafGroup branches) =
      ((sourceModules modules).filter fun module => nearest branches module = none).map
        (ownGroup branches) := by
  rw [← List.filterMap_eq_map, List.filterMap_filter, List.filterMap_filter]
  refine List.filterMap_congr fun module hmodule => ?_
  have hleaf := h.leafGroup_eq hmodule
  simp only [decide_not, Bool.not_eq_true', decide_eq_false_iff_not, decide_eq_true_eq]
  exact hleaf

/-- The groups of the second pass are made for one profile owner each. -/
theorem ProfileInput.mem_branchGroups {group : ProfileGroup P}
    (hgroup : group ∈ (profiledBranches branches).filterMap
      (branchGroup modules (profileAssignment modules branches))) :
    ∃ branch ∈ profiledBranches branches, group.branch = some branch ∧
      group.module.path = branch.path ∧ group.members =
        (sourceModules modules).filter fun module => nearest branches module = some branch := by
  obtain ⟨branch, hbranch, hsome⟩ := List.mem_filterMap.mp hgroup
  obtain ⟨module, hpath, heq⟩ := h.branchGroup_eq hbranch
  rw [heq] at hsome
  split at hsome
  · cases hsome
  · obtain rfl := Option.some.inj hsome
    exact ⟨branch, hbranch, rfl, hpath, rfl⟩

/-- No two of them are made for one path. -/
theorem ProfileInput.nodup_branchGroups :
    (((profiledBranches branches).filterMap
      (branchGroup modules (profileAssignment modules branches))).map
        fun group => group.module.path).Nodup := by
  have hpaths := h.nodup_profiledBranches
  rw [List.Nodup, List.pairwise_map] at hpaths ⊢
  rw [List.pairwise_filterMap]
  refine hpaths.imp_of_mem fun {first second} hfirst hsecond hne group hgroup other hother => ?_
  have hpath : ∀ {branch group}, branch ∈ profiledBranches branches →
      branchGroup modules (profileAssignment modules branches) branch = some group →
      group.module.path = branch.path := by
    intro branch group hbranch hsome
    obtain ⟨module, hmodule, heq⟩ := h.branchGroup_eq hbranch
    rw [heq] at hsome
    split at hsome
    · cases hsome
    · obtain rfl := Option.some.inj hsome
      exact hmodule
  rw [hpath hfirst hgroup, hpath hsecond hother]
  exact hne

/-- Together they have the modules that some profile owner is above. -/
theorem ProfileInput.members_branchGroups :
    ((profiledBranches branches).filterMap
        (branchGroup modules (profileAssignment modules branches))).flatMap ProfileGroup.members =
      (profiledBranches branches).flatMap fun branch =>
        (sourceModules modules).filter fun module => nearest branches module = some branch := by
  rw [List.filterMap_eq_flatMap_toList, List.flatMap_assoc]
  refine List.flatMap_congr fun branch hbranch => ?_
  obtain ⟨module, -, heq⟩ := h.branchGroup_eq hbranch
  rw [heq]
  split
  · rename_i hempty
    rw [hempty]
    rfl
  · rw [Option.toList_some, List.flatMap_singleton]

end Partition

/-- The modules that a group is made for, and how. -/
def IsGroupOf {P : Type*} (branches : List (ProfileBranchFacts P)) (module : ProfileModuleFacts P)
    (group : ProfileGroup P) : Prop :=
  (∃ branch, NearestBranch branches module branch ∧ group.branch = some branch ∧
    group.module.path = branch.path) ∨
  ((∀ branch ∈ profiledBranches branches,
      ¬ branch.ownerNamespace <+: module.namespaceComponents) ∧
    group.module = module ∧ group.members = [module])

/-- Every source module is in exactly one group, its own one, and no owner has two groups. -/
structure PartitionsModules {P : Type*} [LinearOrder P] (modules : List (ProfileModuleFacts P))
    (branches : List (ProfileBranchFacts P)) : Prop where
  perm : ((profileGroups modules branches).flatMap ProfileGroup.members).Perm
    (sourceModules modules)
  isGroupOf : ∀ group ∈ profileGroups modules branches, ∀ module ∈ group.members,
    IsGroupOf branches module group
  nodup : ((profileGroups modules branches).map fun group => group.module.path).Nodup

/-- **Profile signals partition the modules.**  Every source module is in exactly one group:
that of the profile owner with the longest namespace that begins the namespace of the module,
the first of these where there are several, or a group of its own where there is none.  No
group is considered twice. -/
theorem profileGroups_partition {P : Type*} [LinearOrder P]
    {modules : List (ProfileModuleFacts P)} {branches : List (ProfileBranchFacts P)}
    (h : ProfileInput modules branches) : PartitionsModules modules branches := by
  have hgroups : profileGroups modules branches =
      (profiledBranches branches).filterMap
          (branchGroup modules (profileAssignment modules branches)) ++
        ((sourceModules modules).filter fun module => nearest branches module = none).map
          (ownGroup branches) := by
    rw [← h.leafGroups_eq]
    rfl
  refine ⟨?_, ?_, ?_⟩
  · have hnodup : (profiledBranches branches).Nodup := h.nodup_profiledBranches.of_map _
    have hown : (((sourceModules modules).filter fun module =>
        nearest branches module = none).map (ownGroup branches)).flatMap ProfileGroup.members =
          (sourceModules modules).filter fun module => nearest branches module = none := by
      rw [List.flatMap_map]
      exact List.flatMap_singleton' _
    rw [hgroups, List.flatMap_append, h.members_branchGroups, hown]
    exact perm_flatMap_filter hnodup fun module _ branch hbranch =>
      mem_profiledBranches_of_nearest hbranch
  · intro group hgroup module hmodule
    rw [hgroups] at hgroup
    obtain hgroup | hgroup := List.mem_append.mp hgroup
    · obtain ⟨branch, -, hbranch, hpath, hmembers⟩ := h.mem_branchGroups hgroup
      rw [hmembers] at hmodule
      have hnearest := of_decide_eq_true (List.mem_filter.mp hmodule).2
      exact Or.inl ⟨branch, nearestProfileBranch_eq_some hnearest, hbranch, hpath⟩
    · obtain ⟨owner, howner, rfl⟩ := List.mem_map.mp hgroup
      obtain rfl := List.mem_singleton.mp hmodule
      have hnearest := of_decide_eq_true (List.mem_filter.mp howner).2
      exact Or.inr ⟨nearestProfileBranch_eq_none hnearest, rfl, rfl⟩
  · rw [hgroups, List.map_append, List.nodup_append]
    refine ⟨h.nodup_branchGroups, ?_, ?_⟩
    · rw [List.map_map]
      exact h.nodup_modules.sublist (List.filter_sublist.map _)
    · -- a profile owner is above the module at its path, which so has no group of its own
      intro first hfirst second hsecond hsame
      obtain ⟨group, hgroup, rfl⟩ := List.mem_map.mp hfirst
      obtain ⟨branch, hbranch, -, hpath, -⟩ := h.mem_branchGroups hgroup
      obtain ⟨own, hown, rfl⟩ := List.mem_map.mp hsecond
      obtain ⟨module, hmodule, rfl⟩ := List.mem_map.mp hown
      obtain ⟨hsource, hnearest⟩ := List.mem_filter.mp hmodule
      exact nearestProfileBranch_eq_none (of_decide_eq_true hnearest) branch hbranch
        (h.namespace_prefix branch hbranch module hsource (hsame.symm.trans hpath))

/-- A source module at a path of names. -/
def moduleAt (names namespaceComponents : List String) : ProfileModuleFacts Path where
  path := names.map .normal
  namespaceComponents := namespaceComponents

/-- A branch at a path of names. -/
def branchAt (names ownerNamespace : List String)
    (roles : List Parser.RustReasoningOwnerBranchRole) : ProfileBranchFacts Path where
  path := names.map .normal
  ownerNamespace := ownerNamespace
  roles := roles

/-- A library with a directory module and a module below it. -/
theorem profileGroups_partition_library :
    let modules := [moduleAt ["src", "lib.rs"] ["src"],
      moduleAt ["src", "store", "mod.rs"] ["src", "store"],
      moduleAt ["src", "store", "disk.rs"] ["src", "store", "disk"]]
    let branches := [branchAt ["src", "lib.rs"] ["src"] [.root, .facade],
      branchAt ["src", "store", "mod.rs"] ["src", "store"] [.interface]]
    ProfileInput modules branches ∧ PartitionsModules modules branches := by
  intro modules branches
  have hinput : ProfileInput modules branches :=
    { branch_mem := by decide
      nodup_modules := by decide
      nodup_branches := by decide
      namespace_prefix := by decide }
  exact ⟨hinput, profileGroups_partition hinput⟩

/-- Every branch is a module. -/
def BranchesAreModules {P : Type*} (modules : List (ProfileModuleFacts P))
    (branches : List (ProfileBranchFacts P)) : Prop :=
  ∀ branch ∈ branches, ∃ module ∈ modules, module.path = branch.path

/-- That every branch is a module is not enough.  A module whose branch has another namespace
is in no group, one with two branches is in two, and one that shares its path with a covered
module is in none. -/
theorem profileGroups_not_partition :
    let foreign := [branchAt ["a.rs"] ["b"] [.branch]]
    let double := [branchAt ["a.rs"] ["a"] [.branch], branchAt ["a.rs"] ["a"] [.branch]]
    let shared := [moduleAt ["a.rs"] ["a"], moduleAt ["c.rs"] ["a", "c"], moduleAt ["c.rs"] ["c"]]
    (BranchesAreModules [moduleAt ["a.rs"] ["a"]] foreign ∧
        ¬ PartitionsModules [moduleAt ["a.rs"] ["a"]] foreign) ∧
      (BranchesAreModules [moduleAt ["a.rs"] ["a"]] double ∧
        ¬ PartitionsModules [moduleAt ["a.rs"] ["a"]] double) ∧
      (BranchesAreModules shared [branchAt ["a.rs"] ["a"] [.branch]] ∧
        ¬ PartitionsModules shared [branchAt ["a.rs"] ["a"] [.branch]]) := by
  intro foreign double shared
  have hfails : ∀ {modules : List (ProfileModuleFacts Path)}
      {branches : List (ProfileBranchFacts Path)},
      ((profileGroups modules branches).flatMap ProfileGroup.members).length ≠
        (sourceModules modules).length → ¬ PartitionsModules modules branches :=
    fun hne h => hne h.perm.length_eq
  refine ⟨⟨?_, hfails (by decide)⟩, ⟨?_, hfails (by decide)⟩, ⟨?_, hfails (by decide)⟩⟩
  · unfold BranchesAreModules
    decide
  · unfold BranchesAreModules
    decide
  · unfold BranchesAreModules
    decide

/-! ## The facts of the parser

The reasoning tree makes one branch for each source module, with its path and its
namespace, so its facts are of the kind that the partition asks for. -/

/-- A module of the reasoning tree. -/
def ProfileModuleFacts.ofReasoning (module : Parser.RustReasoningModuleFacts) :
    ProfileModuleFacts Path where
  path := module.path
  namespaceComponents := module.sourcePath.namespaceComponents
  isCrateFacade := module.sourcePath.isCrateFacade
  productionExternalImports := module.importSummary.productionExternalImports
  localOwnerDependencies := module.importSummary.localOwnerDependencies.map fun dependency =>
    ⟨dependency.isTestContext⟩
  publicApiSummary := module.publicApiSummary
  isSourceModule := module.isSourceModule
  isModuleTreeRoot := module.isModuleTreeRoot

/-- A branch of the reasoning tree. -/
def ProfileBranchFacts.ofReasoning (branch : Parser.RustReasoningOwnerBranchFacts) :
    ProfileBranchFacts Path where
  path := branch.path
  ownerNamespace := branch.ownerNamespace
  roles := branch.roles
  declaredChildEdges := branch.declaredChildEdges.length

/-- The branches of a reasoning tree are modules of it, with their paths and namespaces. -/
theorem profileInput_of_reasoningTree {modules : List Parser.RustReasoningModuleFacts}
    (hnodup : (modules.map Parser.RustReasoningModuleFacts.path).Nodup) :
    ProfileInput (modules.map ProfileModuleFacts.ofReasoning)
      ((Parser.ownerBranchFacts modules).map ProfileBranchFacts.ofReasoning) := by
  have hperm : (Parser.ownerBranchFacts modules).Perm ((modules.filter fun module =>
      module.isSourceModule && Parser.ownsBranch module).map Parser.ownerBranch) :=
    List.perm_insertionSort Parser.branchLe _
  have hbranch : ∀ branch ∈ (Parser.ownerBranchFacts modules).map ProfileBranchFacts.ofReasoning,
      ∃ module ∈ modules, branch = .ofReasoning (Parser.ownerBranch module) := by
    intro branch hmem
    obtain ⟨owner, howner, rfl⟩ := List.mem_map.mp hmem
    obtain ⟨module, hmodule, rfl⟩ := List.mem_map.mp (hperm.mem_iff.mp howner)
    exact ⟨module, List.mem_of_mem_filter hmodule, rfl⟩
  refine ⟨?_, ?_, ?_, ?_⟩
  · intro branch hmem
    obtain ⟨module, hmodule, rfl⟩ := hbranch branch hmem
    exact ⟨.ofReasoning module, List.mem_map_of_mem hmodule, rfl⟩
  · refine List.Nodup.sublist (List.filter_sublist.map _) ?_
    rw [List.map_map]
    exact hnodup
  · rw [List.map_map, (hperm.map _).nodup_iff, List.map_map]
    exact hnodup.sublist (List.filter_sublist.map _)
  · intro branch hmem module hmodule hpath
    obtain ⟨owner, howner, rfl⟩ := hbranch branch (List.mem_of_mem_filter hmem)
    obtain ⟨found, hfound, rfl⟩ := List.mem_map.mp (List.mem_of_mem_filter hmodule)
    obtain rfl : found = owner := List.inj_on_of_nodup_map hnodup hfound howner hpath
    exact List.prefix_rfl

end AspRust.Verification
