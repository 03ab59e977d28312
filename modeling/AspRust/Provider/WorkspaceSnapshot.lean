import AspRust.Foundation.LexicalResolution
import AspRust.Foundation.OrderedMap
import AspRust.Foundation.PathText
import AspRust.Provider.NestedIdentity

/-!
# Workspace snapshots

A snapshot is named by one digest, the root digest, of the files of a workspace and the
digests of their contents.  The paths of the files are normalized first, and of several
files with one normalized path the last counts.

What a snapshot means is said without texts: a path leads to a place, which is a list of
names below the root of the workspace, and the snapshot has at each place the digest that
was given for it last (`digestAt`).  The root digest stands for exactly that: files that
agree at every place have one root digest, in whatever order and spelling they are given,
and files with one root digest agree at every place, unless the hash collides on what it is
given for them (`fromFileHashes_spec`).

### The form of the second half

A hash with digests of bounded length has collisions, so "or there is a collision" would
say nothing.  The two contents that collide are named instead (`ContentHash.Collide`): they
are the materials of the two root digests, or those of the digests at one place.  Both are
determined by the two lists of files alone.

### What is load-bearing

A place is what a path means below the root, with separators, `.` and `..` resolved by name.  The
normalized text of a path determines its place and is determined by it
(`normalizeSnapshotPath_eq_iff`), so a map by texts is a map by places.  Each part of a material
stands behind its length, which is where `InMemory` comes in: a length that did not fit into eight
bytes would not tell where the part ends.
-/

namespace AspRust.Provider

open AspRust.Foundation

/-! ## Normalized paths

A path is cut at both kinds of separators; empty components and dots are dropped, and a
step to the parent takes back a name. -/

/-- One more component of a path. -/
def pushSnapshotComponent (components : List (List Char)) (component : List Char) :
    List (List Char) :=
  if component = [] ∨ component = ['.'] then components
  else if component = ['.', '.'] then components.dropLast
  else components ++ [component]

/-- The components that are left of a path. -/
def snapshotComponents (path : String) : List (List Char) :=
  (splitWhen (· = '/') (replaceChar '\\' '/' path.toList)).foldl pushSnapshotComponent []

def normalizeSnapshotPath (path : String) : String :=
  "/".intercalate ((snapshotComponents path).map String.ofList)

/-! ## Digests

The hash is a parameter that gives digests of one length.  The materials are texts and
numbers behind their lengths: one for each file, and one for the root. -/

/-- A hash whose digests are shown with 64 hexadecimal digits. -/
structure ContentHash where
  digest : List UInt8 → String
  length_digest : ∀ material, (utf8 (digest material).toList).length = 64

/-- Two given contents differ and have one digest. -/
structure ContentHash.Collide (blake3 : ContentHash) (first second : List UInt8) : Prop where
  ne : first ≠ second
  digest : blake3.digest first = blake3.digest second

/-- The eight bytes of a 64-bit number, the highest first. -/
def u64BigEndian (n : ℕ) : List UInt8 := (u64LittleEndian n).reverse

/-- A part of what is hashed, behind its length. -/
def updatePart (part : List UInt8) : List UInt8 := u64BigEndian part.length ++ part

/-- The bytes of a text. -/
def asBytes (text : String) : List UInt8 := utf8 text.toList

/-- What is hashed for the digest of one content. -/
def leafMaterial (digest : String) : List UInt8 :=
  [asBytes "asp.leaf.v1", asBytes "text",
    asBytes "application/vnd.asp.source-content-digest", asBytes digest].flatMap updatePart

def sourceDigestLeaf (blake3 : ContentHash) (digest : String) : String :=
  blake3.digest (leafMaterial digest)

/-- What the root digest takes of one file. -/
def sourceChild (blake3 : ContentHash) (index : ℕ) (file : String × String) : List UInt8 :=
  [asBytes "source", asBytes file.1, asBytes "blake3",
    asBytes (sourceDigestLeaf blake3 file.2), u64BigEndian index].flatMap updatePart

/-- What the root digest takes of the files from an index on. -/
def sourceChildren (blake3 : ContentHash) : ℕ → List (String × String) → List UInt8
  | _, [] => []
  | index, file :: rest =>
      sourceChild blake3 index file ++ sourceChildren blake3 (index + 1) rest

/-- What the root digest takes first. -/
def snapshotHeader : List UInt8 :=
  [asBytes "asp.node.v1", asBytes "sourceSnapshot", asBytes "asp.source-snapshot.v1",
    asBytes "1", asBytes "none", asBytes "none", asBytes "none"].flatMap updatePart

structure WorkspaceSnapshot where
  rootDigest : String

/-- The files by their normalized paths; later ones win. -/
def snapshotFiles (files : List (String × String)) : OrderedMap String String :=
  OrderedMap.insertAll (fun file => normalizeSnapshotPath file.1) Prod.snd files ∅

/-- What is hashed for the root digest. -/
def rootMaterial (blake3 : ContentHash) (files : List (String × String)) : List UInt8 :=
  snapshotHeader ++ sourceChildren blake3 0 (snapshotFiles files).entries

def WorkspaceSnapshot.fromFileHashes (blake3 : ContentHash) (files : List (String × String)) :
    WorkspaceSnapshot where
  rootDigest := blake3.digest (rootMaterial blake3 files)

/-! ## What a snapshot means

A place is a list of names, and the snapshot has for each place the digest that was
given last for a path that leads there. -/

/-- The place that a path leads to: names below the root of the workspace. -/
def placeOf (path : String) : List String :=
  (Path.climb (Path.parse (String.ofList (replaceChar '\\' '/' path.toList)))).names

/-- The digest that was given last for a place. -/
def digestAt (files : List (String × String)) (place : List String) : Option String :=
  (files.reverse.find? fun file => placeOf file.1 = place).map Prod.snd

/-! ## Normalized paths stand for places

The normalized text is the names of the place with slashes between them.  No name has a
slash in it, so text and place determine each other. -/

section Paths

/-- One more component takes a step from the place. -/
private theorem pushSnapshotComponent_eq (components : List (List Char)) (piece : List Char)
    {climb : Climb} (h : components.map String.ofList = climb.names) :
    (pushSnapshotComponent components piece).map String.ofList =
      ((Path.component? piece).elim climb climb.step).names := by
  unfold pushSnapshotComponent Path.component?
  by_cases hskip : piece = [] ∨ piece = ['.']
  · rw [if_pos hskip, if_pos hskip]
    exact h
  · rw [if_neg hskip, if_neg hskip]
    by_cases hparent : piece = ['.', '.']
    · rw [if_pos hparent, if_pos hparent, List.map_dropLast, h]
      show climb.names.dropLast = (climb.step .parent).names
      unfold Climb.step
      by_cases hnames : climb.names = []
      · simp [hnames]
      · simp [hnames]
    · rw [if_neg hparent, if_neg hparent, List.map_append, h]
      rfl

private theorem foldl_pushSnapshotComponent (pieces : List (List Char))
    (components : List (List Char)) {climb : Climb}
    (h : components.map String.ofList = climb.names) :
    (pieces.foldl pushSnapshotComponent components).map String.ofList =
      ((pieces.filterMap Path.component?).foldl Climb.step climb).names := by
  induction pieces generalizing components climb with
  | nil => exact h
  | cons piece rest ih =>
      have hstep := pushSnapshotComponent_eq components piece h
      rw [List.foldl_cons, ih _ hstep]
      cases hpiece : Path.component? piece with
      | none => rw [List.filterMap_cons_none hpiece, Option.elim_none]
      | some component => rw [List.filterMap_cons_some hpiece, List.foldl_cons, Option.elim_some]

/-- The components that are left of a path are the names of its place. -/
theorem snapshotComponents_eq (path : String) :
    (snapshotComponents path).map String.ofList = placeOf path := by
  rw [snapshotComponents, placeOf, Path.climb, Path.parse, String.toList_ofList]
  exact foldl_pushSnapshotComponent _ _ rfl

theorem normalizeSnapshotPath_eq (path : String) :
    normalizeSnapshotPath path = Path.joinNames (placeOf path) := by
  rw [normalizeSnapshotPath, snapshotComponents_eq, Path.joinNames]

/-- The names that a path leads to are among its components. -/
theorem mem_of_mem_climb {path : Path} {name : String} (h : name ∈ (Path.climb path).names) :
    Component.normal name ∈ path := by
  induction path using List.reverseRecOn with
  | nil => cases h
  | append_singleton rest last ih =>
      rw [Path.climb_concat] at h
      rw [List.mem_append, List.mem_singleton]
      cases last with
      | parent =>
          rw [Climb.step] at h
          split at h
          · cases h
          · exact Or.inl (ih (List.mem_of_mem_dropLast h))
      | normal other =>
          rcases List.mem_append.mp h with h | h
          · exact Or.inl (ih h)
          · exact Or.inr (by rw [List.mem_singleton.mp h])

theorem isName_of_mem_placeOf {path name : String} (h : name ∈ placeOf path) :
    Path.IsName name :=
  Path.isName_of_mem_parse (mem_of_mem_climb h)

/-- Paths have one normalized path when they lead to one place. -/
theorem normalizeSnapshotPath_eq_iff {first second : String} :
    normalizeSnapshotPath first = normalizeSnapshotPath second ↔
      placeOf first = placeOf second := by
  rw [normalizeSnapshotPath_eq, normalizeSnapshotPath_eq]
  refine ⟨fun h => ?_, congrArg Path.joinNames⟩
  have hparse := congrArg Path.parse h
  rw [Path.parse_joinNames fun _ => isName_of_mem_placeOf,
    Path.parse_joinNames fun _ => isName_of_mem_placeOf] at hparse
  exact List.map_injective_iff.mpr (fun _ _ => Component.normal.inj) hparse

end Paths

/-! ## Lengths

A path in memory has a length that fits into eight bytes, and its normalized text is no
longer. -/

section Lengths

/-- The bytes of some pieces and of a separator behind each. -/
private def weight (pieces : List (List Char)) : ℕ :=
  (pieces.map fun piece => utf8Length piece + 1).sum

private theorem weight_append (first second : List (List Char)) :
    weight (first ++ second) = weight first + weight second := by
  rw [weight, List.map_append, List.sum_append]
  rfl

private theorem weight_dropLast_le (pieces : List (List Char)) :
    weight pieces.dropLast ≤ weight pieces := by
  rcases List.eq_nil_or_concat' pieces with rfl | ⟨init, last, rfl⟩
  · exact Nat.le_refl _
  · rw [List.dropLast_concat, weight_append]
    exact Nat.le_add_right _ _

private theorem weight_splitWhen (text : List Char) :
    weight (splitWhen (· = '/') text) = utf8Length text + 1 := by
  induction text with
  | nil => rfl
  | cons c rest ih =>
      rw [splitWhen, utf8Length_cons]
      by_cases hslash : c = '/'
      · rw [decide_eq_true hslash, if_pos rfl]
        have hsize : c.utf8Size = 1 := by rw [hslash]; rfl
        have hcons : weight ([] :: splitWhen (fun c => decide (c = '/')) rest) =
            1 + weight (splitWhen (fun c => decide (c = '/')) rest) := by
          simp [weight]
        rw [hcons, ih, hsize, Nat.add_assoc]
      · rw [decide_eq_false hslash, if_neg Bool.false_ne_true]
        cases hpieces : splitWhen (fun c => decide (c = '/')) rest with
        | nil =>
            rw [hpieces] at ih
            simp [weight] at ih
        | cons piece pieces =>
            rw [hpieces] at ih
            simp only [weight, List.map_cons, List.sum_cons, utf8Length_cons] at ih ⊢
            omega

private theorem weight_foldl_le (pieces components : List (List Char)) :
    weight (pieces.foldl pushSnapshotComponent components) ≤ weight components + weight pieces := by
  induction pieces generalizing components with
  | nil => exact Nat.le_add_right _ _
  | cons piece rest ih =>
      have hstep : weight (pushSnapshotComponent components piece) ≤
          weight components + (utf8Length piece + 1) := by
        unfold pushSnapshotComponent
        split
        · exact Nat.le_add_right _ _
        · split
          · exact (weight_dropLast_le _).trans (Nat.le_add_right _ _)
          · rw [weight_append]
            exact Nat.le_refl _
      rw [List.foldl_cons]
      refine (ih _).trans ?_
      rw [show weight (piece :: rest) = utf8Length piece + 1 + weight rest from rfl]
      omega

private theorem weight_cons (piece : List Char) (rest : List (List Char)) :
    weight (piece :: rest) = utf8Length piece + 1 + weight rest := rfl

/-- The last of the joined pieces has no separator behind it. -/
private theorem utf8Length_intercalate_le (pieces : List (List Char)) :
    utf8Length (['/'].intercalate pieces) ≤ weight pieces - 1 := by
  induction pieces with
  | nil => exact Nat.zero_le _
  | cons piece rest ih =>
      cases rest with
      | nil => simp [weight]
      | cons second others =>
          have hslash : utf8Length ['/'] = 1 := rfl
          rw [List.intercalate_cons_cons, utf8Length_append, utf8Length_append, hslash, weight_cons]
          rw [weight_cons] at ih ⊢
          omega

private theorem utf8Length_replaceChar (text : List Char) :
    utf8Length (replaceChar '\\' '/' text) = utf8Length text := by
  induction text with
  | nil => rfl
  | cons c rest ih =>
      rw [replaceChar, List.map_cons, utf8Length_cons, utf8Length_cons, ← ih]
      congr 1
      by_cases hc : c = '\\'
      · rw [if_pos hc, hc]
        rfl
      · rw [if_neg hc]

/-- A path has at least the bytes of its normalized path. -/
theorem inMemory_normalizeSnapshotPath {path : String} (h : InMemory path) :
    InMemory (normalizeSnapshotPath path) := by
  unfold InMemory at h ⊢
  rw [length_utf8] at h ⊢
  have htext : (normalizeSnapshotPath path).toList = ['/'].intercalate (snapshotComponents path) := by
    rw [normalizeSnapshotPath, String.toList_intercalate, List.map_map]
    congr 1
    exact List.map_id'' (fun _ => String.toList_ofList) _
  have hweight : weight (snapshotComponents path) ≤ utf8Length path.toList + 1 := by
    have hfold := weight_foldl_le (splitWhen (· = '/') (replaceChar '\\' '/' path.toList)) []
    rw [weight_splitWhen, utf8Length_replaceChar] at hfold
    exact hfold.trans (Nat.le_of_eq (Nat.zero_add _))
  rw [htext]
  have hjoin := utf8Length_intercalate_le (snapshotComponents path)
  omega

end Lengths

/-! ## The root digest tells the files

The material of the root is read back: each part ends where its length says, so the
digests of the leaves are equal one by one, and from equal digests of leaves one gets
equal leaves, or two that collide. -/

section Digests

variable {blake3 : ContentHash}

theorem length_u64BigEndian (n : ℕ) : (u64BigEndian n).length = 8 := by
  rw [u64BigEndian, List.length_reverse, length_u64LittleEndian]

theorem eq_of_u64BigEndian_eq {n m : ℕ} (hn : n ≤ usizeMax) (hm : m ≤ usizeMax)
    (h : u64BigEndian n = u64BigEndian m) : n = m :=
  eq_of_u64LittleEndian_eq hn hm (List.reverse_injective h)

theorem selfDelimiting_updatePart :
    SelfDelimiting (fun part : List UInt8 => part.length ≤ usizeMax) updatePart :=
  SelfDelimiting.behindLength Function.injective_id length_u64BigEndian
    fun _ _ => eq_of_u64BigEndian_eq

theorem asBytes_injective : Function.Injective asBytes :=
  utf8_injective.comp fun _ _ => String.toList_injective

theorem selfDelimiting_updateText :
    SelfDelimiting InMemory fun text => updatePart (asBytes text) :=
  selfDelimiting_updatePart.comap asBytes_injective

/-- The digest of a content is in memory. -/
theorem inMemory_digest (material : List UInt8) : InMemory (blake3.digest material) := by
  rw [InMemory, blake3.length_digest]
  decide

theorem leafMaterial_injective {first second : String} (hfirst : InMemory first)
    (hsecond : InMemory second) (h : leafMaterial first = leafMaterial second) :
    first = second := by
  unfold leafMaterial at h
  simp only [List.flatMap_cons, List.flatMap_nil, List.append_nil,
    List.append_cancel_left_eq] at h
  exact selfDelimiting_updateText.eq_of_encode_eq hfirst hsecond h

/-- The leaf of a content tells it, or its material collides with that of the other. -/
theorem eq_or_collide_of_leaf {first second : String} (hfirst : InMemory first)
    (hsecond : InMemory second)
    (h : sourceDigestLeaf blake3 first = sourceDigestLeaf blake3 second) :
    first = second ∨ blake3.Collide (leafMaterial first) (leafMaterial second) := by
  by_cases hmaterial : leafMaterial first = leafMaterial second
  · exact Or.inl (leafMaterial_injective hfirst hsecond hmaterial)
  · exact Or.inr ⟨hmaterial, h⟩

/-- The first of the files is told from the bytes, and so is what follows. -/
theorem eq_of_sourceChild_append {index : ℕ} {first second : String × String}
    {after after' : List UInt8} (hfirst : InMemory first.1) (hsecond : InMemory second.1)
    (h : sourceChild blake3 index first ++ after = sourceChild blake3 index second ++ after') :
    first.1 = second.1 ∧
      sourceDigestLeaf blake3 first.2 = sourceDigestLeaf blake3 second.2 ∧ after = after' := by
  simp only [sourceChild, List.flatMap_cons, List.flatMap_nil, List.append_nil,
    List.append_assoc, List.append_cancel_left_eq] at h
  obtain ⟨hpath, h⟩ := selfDelimiting_updateText hfirst hsecond h
  rw [List.append_cancel_left_eq] at h
  obtain ⟨hleaf, h⟩ := selfDelimiting_updateText (inMemory_digest _) (inMemory_digest _) h
  exact ⟨hpath, hleaf, List.append_cancel_left h⟩

theorem sourceChild_append_ne_nil (index : ℕ) (file : String × String) (after : List UInt8) :
    sourceChild blake3 index file ++ after ≠ [] := by
  intro h
  have hlength := congrArg List.length h
  simp only [sourceChild, List.flatMap_cons, updatePart, List.length_append,
    length_u64BigEndian, List.length_nil] at hlength
  omega

/-- The bytes of some files tell them, or the materials of two contents under one path
collide. -/
theorem eq_or_collide_of_children {files files' : List (String × String)}
    (hfiles : ∀ file ∈ files, InMemory file.1 ∧ InMemory file.2)
    (hfiles' : ∀ file ∈ files', InMemory file.1 ∧ InMemory file.2) {index : ℕ}
    (h : sourceChildren blake3 index files = sourceChildren blake3 index files') :
    files = files' ∨ ∃ path digest digest', (path, digest) ∈ files ∧ (path, digest') ∈ files' ∧
      blake3.Collide (leafMaterial digest) (leafMaterial digest') := by
  induction files generalizing files' index with
  | nil =>
      cases files' with
      | nil => exact Or.inl rfl
      | cons file rest => exact absurd h.symm (sourceChild_append_ne_nil index file _)
  | cons file rest ih =>
      cases files' with
      | nil => exact absurd h (sourceChild_append_ne_nil index file _)
      | cons file' rest' =>
          obtain ⟨path, digest⟩ := file
          obtain ⟨path', digest'⟩ := file'
          obtain ⟨hpath, hdigest⟩ := hfiles _ List.mem_cons_self
          obtain ⟨hpath', hdigest'⟩ := hfiles' _ List.mem_cons_self
          obtain ⟨rfl, hleaf, hafter⟩ := eq_of_sourceChild_append hpath hpath' h
          rcases eq_or_collide_of_leaf hdigest hdigest' hleaf with rfl | hcollide
          · obtain rfl | ⟨other, one, two, hone, htwo, hcollide⟩ :=
              ih (fun file hfile => hfiles file (List.mem_cons_of_mem _ hfile))
                (fun file hfile => hfiles' file (List.mem_cons_of_mem _ hfile)) hafter
            · exact Or.inl rfl
            · exact Or.inr ⟨other, one, two, List.mem_cons_of_mem _ hone,
                List.mem_cons_of_mem _ htwo, hcollide⟩
          · exact Or.inr ⟨path, digest, digest', List.mem_cons_self, List.mem_cons_self, hcollide⟩

end Digests

/-! ## What the root digest stands for -/

/-- A file is found under its normalized path exactly when it is found at its place. -/
theorem get?_snapshotFiles (files : List (String × String)) (path : String) :
    (snapshotFiles files).get? (normalizeSnapshotPath path) = digestAt files (placeOf path) := by
  rw [snapshotFiles, OrderedMap.get?_insertAll_empty, digestAt]
  congr 2
  funext file
  exact decide_eq_decide.mpr normalizeSnapshotPath_eq_iff

/-- The files by normalized paths are those by places. -/
theorem snapshotFiles_eq_iff {files files' : List (String × String)} :
    snapshotFiles files = snapshotFiles files' ↔
      ∀ place, digestAt files place = digestAt files' place := by
  constructor
  · intro h place
    by_cases hplace : ∃ path, placeOf path = place
    · obtain ⟨path, rfl⟩ := hplace
      rw [← get?_snapshotFiles, ← get?_snapshotFiles, h]
    · -- no path leads there
      have hnone : ∀ files, digestAt files place = none := by
        intro files
        rw [digestAt, Option.map_eq_none_iff, List.find?_eq_none]
        intro file _ hfile
        exact hplace ⟨file.1, of_decide_eq_true hfile⟩
      rw [hnone, hnone]
  · intro h
    apply OrderedMap.ext_get?
    intro key
    by_cases hkey : ∃ path, normalizeSnapshotPath path = key
    · obtain ⟨path, rfl⟩ := hkey
      rw [get?_snapshotFiles, get?_snapshotFiles, h]
    · have hnone : ∀ files, (snapshotFiles files).get? key = none := by
        intro files
        rw [snapshotFiles, OrderedMap.get?_insertAll_empty, Option.map_eq_none_iff,
          List.find?_eq_none]
        intro file _ hfile
        exact hkey ⟨file.1, of_decide_eq_true hfile⟩
      rw [hnone, hnone]

/-- The files that are hashed have their texts in memory. -/
theorem inMemory_of_mem_snapshotFiles {files : List (String × String)}
    (h : ∀ file ∈ files, InMemory file.1 ∧ InMemory file.2) :
    ∀ file ∈ (snapshotFiles files).entries, InMemory file.1 ∧ InMemory file.2 := by
  rintro ⟨key, digest⟩ hentry
  rcases OrderedMap.exists_of_get?_insertAll _ _ (OrderedMap.get?_eq_some_iff.mpr hentry) with
    hnone | ⟨file, hfile, rfl, rfl⟩
  · cases hnone
  · exact ⟨inMemory_normalizeSnapshotPath (h file hfile).1, (h file hfile).2⟩

/-- What is hashed under a path is the digest at a place that the path leads to. -/
theorem digestAt_of_mem_snapshotFiles {files : List (String × String)} {path digest : String}
    (h : (path, digest) ∈ (snapshotFiles files).entries) :
    ∃ spelling, normalizeSnapshotPath spelling = path ∧
      digestAt files (placeOf spelling) = some digest := by
  have hget := OrderedMap.get?_eq_some_iff.mpr h
  rcases OrderedMap.exists_of_get?_insertAll _ _ hget with hnone | ⟨file, -, rfl, -⟩
  · cases hnone
  · refine ⟨file.1, rfl, ?_⟩
    rw [← get?_snapshotFiles]
    exact hget

/-- Two lists of files have at one place digests whose materials collide. -/
def LeavesCollide (blake3 : ContentHash) (files files' : List (String × String)) : Prop :=
  ∃ place digest digest', digestAt files place = some digest ∧
    digestAt files' place = some digest' ∧
    blake3.Collide (leafMaterial digest) (leafMaterial digest')

/-- **The root digest stands for the digests at the places.**  Files that have the same
digest at every place, however they are ordered and spelled, have one root digest; files
with one root digest have the same digest at every place, or the materials that were
hashed for them collide: the two of the root digests, or the two of the digests at some
place. -/
theorem fromFileHashes_spec (blake3 : ContentHash) {files files' : List (String × String)}
    (hfiles : ∀ file ∈ files, InMemory file.1 ∧ InMemory file.2)
    (hfiles' : ∀ file ∈ files', InMemory file.1 ∧ InMemory file.2) :
    ((∀ place, digestAt files place = digestAt files' place) →
      (WorkspaceSnapshot.fromFileHashes blake3 files).rootDigest =
        (WorkspaceSnapshot.fromFileHashes blake3 files').rootDigest) ∧
    ((WorkspaceSnapshot.fromFileHashes blake3 files).rootDigest =
        (WorkspaceSnapshot.fromFileHashes blake3 files').rootDigest →
      (∀ place, digestAt files place = digestAt files' place) ∨
        blake3.Collide (rootMaterial blake3 files) (rootMaterial blake3 files') ∨
        LeavesCollide blake3 files files') := by
  constructor
  · intro h
    rw [WorkspaceSnapshot.fromFileHashes, WorkspaceSnapshot.fromFileHashes, rootMaterial,
      rootMaterial, snapshotFiles_eq_iff.mpr h]
  · intro h
    by_cases hmaterial : rootMaterial blake3 files = rootMaterial blake3 files'
    · rcases eq_or_collide_of_children (inMemory_of_mem_snapshotFiles hfiles)
        (inMemory_of_mem_snapshotFiles hfiles') (List.append_cancel_left hmaterial) with
        hentries | ⟨path, digest, digest', hdigest, hdigest', hcollide⟩
      · exact Or.inl (snapshotFiles_eq_iff.mp (OrderedMap.eq_of_entries_eq hentries))
      · obtain ⟨spelling, hspelling, hat⟩ := digestAt_of_mem_snapshotFiles hdigest
        obtain ⟨spelling', hspelling', hat'⟩ := digestAt_of_mem_snapshotFiles hdigest'
        -- the path is one, so the place is
        rw [← normalizeSnapshotPath_eq_iff.mp (hspelling.trans hspelling'.symm)] at hat'
        exact Or.inr (Or.inr ⟨placeOf spelling, digest, digest', hat, hat', hcollide⟩)
    · exact Or.inr (Or.inl ⟨hmaterial, h⟩)

/-- A hash for examples: the bytes as the digits of a number, of which the last 64
hexadecimal digits are shown. -/
def digitHash : ContentHash where
  digest material := String.ofList ((List.range 64).map fun i =>
    Nat.digitChar (material.foldl (fun value byte => value * 257 + byte.toNat + 1) 0 / 16 ^ i % 16))
  length_digest := by
    intro material
    have hdigit : ∀ digit < 16, (Nat.digitChar digit).toNat ≤ 0x7F := by decide
    rw [String.toList_ofList, length_utf8, utf8Length_of_ascii ?_, List.length_map,
      List.length_range]
    intro c hc
    obtain ⟨i, -, rfl⟩ := List.mem_map.mp hc
    exact hdigit _ (Nat.mod_lt _ (by decide))

/-- Two files, and the same files in another order, spelled otherwise, one of them twice. -/
def twoFiles : List (String × String) := [("src/lib.rs", "00"), ("src/main.rs", "11")]

def twoFilesRespelled : List (String × String) :=
  [("src\\main.rs", "22"), ("./src/main.rs", "11"), ("tmp/../src/lib.rs", "00")]

theorem twoFiles_spec :
    ((∀ place, digestAt twoFiles place = digestAt twoFilesRespelled place) →
      (WorkspaceSnapshot.fromFileHashes digitHash twoFiles).rootDigest =
        (WorkspaceSnapshot.fromFileHashes digitHash twoFilesRespelled).rootDigest) ∧
    ((WorkspaceSnapshot.fromFileHashes digitHash twoFiles).rootDigest =
        (WorkspaceSnapshot.fromFileHashes digitHash twoFilesRespelled).rootDigest →
      (∀ place, digestAt twoFiles place = digestAt twoFilesRespelled place) ∨
        digitHash.Collide (rootMaterial digitHash twoFiles)
          (rootMaterial digitHash twoFilesRespelled) ∨
        LeavesCollide digitHash twoFiles twoFilesRespelled) :=
  fromFileHashes_spec digitHash (by decide) (by decide)

end AspRust.Provider
