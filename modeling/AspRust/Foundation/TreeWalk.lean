import AspRust.Foundation.FileTree

/-!
# What a directory walk reaches

`Reaches enters admits path node target found` says that a walk that starts at
`node`, named `path`, comes to `found`, named `target`: it steps only through
directories it `enters`, and only to entries it `admits`.  The relation passes
through no link, since a link is not a directory.

A walk is specified by the two tests alone, so walks written differently can be
compared by comparing their tests (`Reaches.mono`), and what a walk reaches is
what a lookup finds at the same path (`Reaches.lstat`).  Where entries are admitted
by name, a walk reaches what lies at the end of an open way down the tree
(`reaches_iff_openWay`).

### Use

`Reaches` is proved by following a walk and used by following a path.  `OpenWay` is the same
without the walk: the names on the way, the directories at which they are entered, and a node at
the end.
-/

namespace AspRust.Foundation

/-- A walk from one node comes to another. -/
inductive Reaches (enters : Path → Bool) (admits : String → Node → Bool) :
    Path → Node → Path → Node → Prop where
  /-- A walk is at its start. -/
  | here (path : Path) (node : Node) : Reaches enters admits path node path node
  /-- A walk goes to an admitted entry of an entered directory. -/
  | entry {path target : Path} {entries : List (String × Node)} {name : String}
      {child found : Node} (henters : enters path = true) (hmem : (name, child) ∈ entries)
      (hadmits : admits name child = true)
      (hrest : Reaches enters admits (path ++ [.normal name]) child target found) :
      Reaches enters admits path (.directory entries) target found

namespace Reaches

variable {enters enters' : Path → Bool} {admits admits' : String → Node → Bool}
variable {path target : Path} {node found : Node}

/-- What a walk reaches starts with the path of the walk. -/
theorem isPrefix (h : Reaches enters admits path node target found) : path <+: target := by
  induction h with
  | here path node => exact List.prefix_rfl
  | entry henters hmem hadmits hrest ih => exact (List.prefix_append _ _).trans ih

/-- A walk with weaker tests reaches more; in a well-formed tree the tests need
only be compared on names an entry can have. -/
theorem mono (h : Reaches enters admits path node target found) (hwf : node.wellFormed = true)
    (henters : ∀ path, enters path = true → enters' path = true)
    (hadmits : ∀ name node, Node.validName name = true → admits name node = true →
      admits' name node = true) :
    Reaches enters' admits' path node target found := by
  induction h with
  | here path node => exact .here path node
  | entry hpath hmem hname hrest ih =>
      obtain ⟨hvalid, hchild⟩ := (Node.wellFormed_directory_iff.mp hwf).2 _ hmem
      exact .entry (henters _ hpath) hmem (hadmits _ _ hvalid hname) (ih hchild)

/-- From a directory a walk reaches a file only through an entry. -/
theorem directory_file_iff {entries : List (String × Node)} {content : List UInt8}
    {modified : Int} :
    Reaches enters admits path (.directory entries) target (.file content modified) ↔
      enters path = true ∧ ∃ name child, (name, child) ∈ entries ∧ admits name child = true ∧
        Reaches enters admits (path ++ [.normal name]) child target (.file content modified) := by
  constructor
  · intro h
    cases h with
    | entry henters hmem hadmits hrest => exact ⟨henters, _, _, hmem, hadmits, hrest⟩
  · rintro ⟨henters, name, child, hmem, hadmits, hrest⟩
    exact .entry henters hmem hadmits hrest

/-- What a walk reaches from the node at a path is what a lookup finds at the
path it reached. -/
theorem lstat {fs : FileSystem} (h : Reaches enters admits path node target found)
    (hnode : fs.lstat path = some node) : fs.lstat target = some found := by
  induction h with
  | here path node => exact hnode
  | entry henters hmem hadmits hrest ih =>
      exact ih (FileSystem.lstat_concat (FileSystem.stat_of_lstat hnode rfl) hmem)

/-- The names a walk passes, each of them admitted at some node. -/
theorem exists_names (h : Reaches enters admits path node target found) :
    ∃ names : List String, target = path ++ names.map .normal ∧
      ∀ name ∈ names, ∃ child, admits name child = true := by
  induction h with
  | here path node => exact ⟨[], by simp, by simp⟩
  | @entry path target entries name child found henters hmem hadmits hrest ih =>
      obtain ⟨names, htarget, hnames⟩ := ih
      refine ⟨name :: names, by rw [htarget]; simp, ?_⟩
      intro other hother
      rcases List.mem_cons.mp hother with rfl | hother
      · exact ⟨child, hadmits⟩
      · exact hnames other hother

/-- A walk may be given another test of names when every name it passes has it. -/
theorem of_names (h : Reaches enters admits path node target found) {names : List String}
    (htarget : target = path ++ names.map .normal)
    (hnames : ∀ name ∈ names, ∀ child, admits' name child = true) :
    Reaches enters admits' path node target found := by
  induction h generalizing names with
  | here path node => exact .here path node
  | @entry path target entries name child found henters hmem hadmits hrest ih =>
      obtain ⟨rest, hrestTarget, -⟩ := hrest.exists_names
      have hsplit : names = name :: rest := by
        have hsame : (name :: rest).map Component.normal = names.map .normal :=
          List.append_cancel_left (by rw [← htarget, hrestTarget]; simp)
        exact (List.map_injective_iff.mpr (fun _ _ h => Component.normal.inj h) hsame).symm
      subst hsplit
      exact .entry henters hmem (hnames name List.mem_cons_self child)
        (ih hrestTarget fun other hother => hnames other (List.mem_cons_of_mem _ hother))

/-- A walk comes to every path between its start and what it reaches. -/
theorem through {middle : Path} (h : Reaches enters admits path node target found)
    (hfrom : path <+: middle) (hto : middle <+: target) :
    ∃ between, Reaches enters admits path node middle between ∧
      Reaches enters admits middle between target found := by
  induction h with
  | here path node =>
      obtain rfl := List.IsPrefix.eq_of_length_le hfrom (hto.length_le)
      exact ⟨node, .here _ _, .here _ _⟩
  | @entry path target entries name child found henters hmem hadmits hrest ih =>
      by_cases hlong : path.length < middle.length
      · have hstep : path ++ [.normal name] <+: middle := by
          refine List.prefix_of_prefix_length_le hrest.isPrefix hto ?_
          rw [List.length_append]
          exact hlong
        obtain ⟨between, hbefore, hafter⟩ := ih hstep hto
        exact ⟨between, .entry henters hmem hadmits hbefore, hafter⟩
      · obtain rfl := List.IsPrefix.eq_of_length_le hfrom (not_lt.mp hlong)
        exact ⟨.directory entries, .here _ _, .entry henters hmem hadmits hrest⟩

end Reaches

/-! ## Open ways -/

section OpenWays

variable {enters : Path → Bool} {admits : String → Bool}

/-- A way down a tree is open to a walk that admits every name on it and enters every
directory that it goes out of; the last one is not asked. -/
structure OpenWay (enters : Path → Bool) (admits : String → Bool) (path : Path)
    (names : List String) : Prop where
  admitted : ∀ name ∈ names, admits name = true
  entered : ∀ before after, names = before ++ after → after ≠ [] →
    enters (path ++ before.map .normal) = true

theorem openWay_nil (path : Path) : OpenWay enters admits path [] where
  admitted := by simp
  entered before after heq hne := absurd (List.append_eq_nil_iff.mp heq.symm).2 hne

theorem openWay_cons_iff {path : Path} {name : String} {rest : List String} :
    OpenWay enters admits path (name :: rest) ↔
      enters path = true ∧ admits name = true ∧
        OpenWay enters admits (path ++ [.normal name]) rest := by
  constructor
  · intro h
    refine ⟨by simpa using h.entered [] (name :: rest) rfl (List.cons_ne_nil _ _),
      h.admitted name List.mem_cons_self, ?_, ?_⟩
    · exact fun other hother => h.admitted other (List.mem_cons_of_mem _ hother)
    · intro before after heq hne
      simpa using h.entered (name :: before) after (by rw [heq]; rfl) hne
  · rintro ⟨hpath, hname, hrest⟩
    refine ⟨?_, ?_⟩
    · intro other hother
      rcases List.mem_cons.mp hother with rfl | hother
      · exact hname
      · exact hrest.admitted other hother
    · intro before after heq hne
      cases before with
      | nil => simpa using hpath
      | cons first before =>
          obtain ⟨rfl, hsplit⟩ := List.cons.inj heq
          simpa using hrest.entered before after hsplit hne

/-- The first part of an open way is open, and a way that goes on leaves it. -/
theorem OpenWay.left {path : Path} {names more : List String}
    (h : OpenWay enters admits path (names ++ more)) : OpenWay enters admits path names where
  admitted name hname := h.admitted name (List.mem_append_left _ hname)
  entered before after heq hne :=
    h.entered before (after ++ more) (by rw [heq, List.append_assoc])
      (fun hnil => hne (List.append_eq_nil_iff.mp hnil).1)

/-- **What a walk by names reaches**: the node at the end of an open way. -/
theorem reaches_iff_openWay {path target : Path} {node found : Node}
    (hwf : node.wellFormed = true) :
    Reaches enters (fun name _ => admits name) path node target found ↔
      ∃ names : List String, target = path ++ names.map .normal ∧
        node.descend? names = some found ∧ OpenWay enters admits path names := by
  constructor
  · intro h
    induction h with
    | here path node => exact ⟨[], by simp, rfl, openWay_nil path⟩
    | @entry path target entries name child found henters hmem hadmits hrest ih =>
        obtain ⟨hnodup, hentries⟩ := Node.wellFormed_directory_iff.mp hwf
        obtain ⟨names, rfl, hbelow, hopen⟩ := ih (hentries _ hmem).2
        refine ⟨name :: names, by simp, ?_, openWay_cons_iff.mpr ⟨henters, hadmits, hopen⟩⟩
        rw [Node.descend?, Node.child?_eq_some_of_mem hnodup hmem]
        exact hbelow
  · rintro ⟨names, rfl, hbelow, hopen⟩
    induction names generalizing path node with
    | nil =>
        obtain rfl := Option.some.inj hbelow
        simpa using Reaches.here path node
    | cons name rest ih =>
        obtain ⟨hpath, hname, hrest⟩ := openWay_cons_iff.mp hopen
        obtain ⟨child, hchild, hbelow⟩ := Option.bind_eq_some_iff.mp hbelow
        have hreach := ih (Node.child?_wellFormed hwf hchild) hbelow hrest
        cases node with
        | directory entries =>
            obtain ⟨entry, hfind, rfl⟩ := Option.map_eq_some_iff.mp hchild
            obtain rfl : entry.1 = name := by simpa using List.find?_some hfind
            exact .entry hpath (List.mem_of_find?_eq_some hfind) hname (by simpa using hreach)
        | _ => simp [Node.child?] at hchild

end OpenWays

end AspRust.Foundation
