import AspRust.Foundation.Wildcard
import AspRust.Provider.SyntaxQuery

/-!
# The range of a name capture

The item facts have no span for the name of an item.  The range of a name capture is found
by looking for the name in the lines of the item, from the start of the line on which the
item begins, and its first occurrence there is taken.

That is the identifier exactly if the letters of the name do not occur before it:
`name_capture_exact_iff`.  They do in `pub fn u() {}`, in a doc comment or an attribute that
mentions the name, and behind another item on the same line.  The range is in the source in
any case.

The parser is not part of the repository, so where an item and its identifier stand is
given by `Placement`: the pieces of the source before, in and behind the item, with the
lines on which it begins and ends.

### What is load-bearing

`Placement` is not an assumption on the source.  It is a way to give an item by the text
around it, and every item of a parsed source has one; the lines on which it begins and ends
follow from the text (`line_topLevelItemSyntax`).  That the letters of the name do not occur
earlier is then a statement about the text in front of the identifier, from the start of the
line on.
-/

namespace AspRust.Provider

open AspRust.Foundation

/-! ## The lines of a range

The lines of a text with their offsets, and the start of the line in which an offset
lies. -/

theorem flatten_splitInclusive (text : List Char) : (splitInclusive text).flatten = text := by
  induction text with
  | nil => rfl
  | cons c rest ih =>
      rw [splitInclusive]
      split
      · rw [List.flatten_cons, ih]
        rfl
      · split
        · next hnil =>
            rw [hnil] at ih
            rw [← ih]
            rfl
        · next line lines hlines =>
            rw [hlines] at ih
            rw [← ih]
            rfl

theorem lineRangesFrom_append (offset : ℕ) (first second : List (List Char)) :
    lineRangesFrom offset (first ++ second) =
      lineRangesFrom offset first ++
        lineRangesFrom (offset + utf8Length first.flatten) second := by
  induction first generalizing offset with
  | nil => rfl
  | cons line rest ih =>
      rw [List.cons_append, lineRangesFrom, lineRangesFrom, ih, List.flatten_cons,
        utf8Length_append, Nat.add_assoc]
      rfl

theorem length_lineRangesFrom (offset : ℕ) (lines : List (List Char)) :
    (lineRangesFrom offset lines).length = lines.length := by
  induction lines generalizing offset with
  | nil => rfl
  | cons line rest ih => rw [lineRangesFrom, List.length_cons, List.length_cons, ih]

/-- The range of the line of a boundary: it begins behind the complete lines before the
boundary.  There is none for a boundary at the end of a text that is behind a line feed. -/
theorem getElem?_lineRanges (before after : List Char) :
    ∃ complete, before = complete ++ currentLine before ∧
      (lineRangesFrom 0 (splitInclusive (before ++ after)))[before.count '\n']? =
        (lineRangesFrom (utf8Length complete)
          (splitInclusive (currentLine before ++ after)))[0]? := by
  obtain ⟨complete, -, hbefore, hcount, hsource⟩ := exists_completeLines before after
  refine ⟨joinLines complete, hbefore, ?_⟩
  rw [hsource, lineRangesFrom_append, List.getElem?_append_right, hcount,
    length_lineRangesFrom, List.length_map, Nat.sub_self, Nat.zero_add]
  · rfl
  · rw [length_lineRangesFrom, List.length_map, hcount]

/-- The line of a boundary in a text that does not end behind it begins where the complete
lines before it end. -/
theorem lineStart_eq {before after : List Char} (hne : currentLine before ++ after ≠ []) :
    ∃ complete, before = complete ++ currentLine before ∧
      ((lineRangesFrom 0 (splitInclusive (before ++ after)))[before.count '\n']?.map
        Prod.fst).getD 0 = utf8Length complete := by
  obtain ⟨complete, hbefore, hrange⟩ := getElem?_lineRanges before after
  refine ⟨complete, hbefore, ?_⟩
  obtain ⟨tail, lines, hsplit⟩ := splitInclusive_eq_cons (newline_notMem_currentLine before) hne
  rw [hrange, hsplit]
  rfl

/-- The line of a boundary ends behind the boundary. -/
theorem lineEnd_eq (before after : List Char) :
    ∃ more rest, after = more ++ rest ∧
      ((lineRangesFrom 0 (splitInclusive (before ++ after)))[before.count '\n']?.map
        Prod.snd).getD (utf8Length (before ++ after)) = utf8Length (before ++ more) := by
  obtain ⟨complete, hbefore, hrange⟩ := getElem?_lineRanges before after
  rw [hrange]
  by_cases hempty : currentLine before ++ after = []
  · refine ⟨after, [], (List.append_nil _).symm, ?_⟩
    rw [hempty]
    rfl
  · obtain ⟨tail, lines, hsplit⟩ :=
      splitInclusive_eq_cons (newline_notMem_currentLine before) hempty
    have hflatten := flatten_splitInclusive (currentLine before ++ after)
    rw [hsplit, List.flatten_cons, List.append_assoc] at hflatten
    refine ⟨tail, lines.flatten, (List.append_cancel_left hflatten).symm, ?_⟩
    rw [hsplit]
    show utf8Length complete + utf8Length (currentLine before ++ tail) = _
    rw [← utf8Length_append, ← List.append_assoc, ← hbefore]

/-! ## Where an item stands

The pieces of the source around the item and its identifier.  The text in which the name
is looked for begins with the line of the item and ends with the line of its end. -/

/-- Where an item and the identifier of its declaration stand in a source.  The lines of its
span are the lines on which it begins and ends. -/
structure Placement (source : List Char) (item : Item) where
  before : List Char
  /-- The item up to its identifier. -/
  lead : List Char
  ident : TokenText
  /-- The item behind its identifier. -/
  tail : List Char
  after : List Char
  source_eq : source = before ++ (lead ++ ident.text.toList ++ tail) ++ after
  declares : declaredName item.declaration = some ident
  startLine : item.span.start.line = (lineColumnAt before).line
  stopLine : item.span.stop.line = (lineColumnAt (before ++ (lead ++ ident.text.toList ++ tail))).line

namespace Placement

variable {source : List Char} {item : Item} (placement : Placement source item)

/-- The text of the item. -/
def text : List Char := placement.lead ++ placement.ident.text.toList ++ placement.tail

/-- The bytes of the identifier. -/
def identRange : ℕ × ℕ :=
  (utf8Length (placement.before ++ placement.lead),
    utf8Length (placement.before ++ placement.lead) + utf8Length placement.ident.text.toList)

/-- What stands between the start of the line on which the item begins and the
identifier. -/
def lineLead : List Char := currentLine placement.before ++ placement.lead

/-- No occurrence of the name begins in the lines of the item before the identifier. -/
def NameIsFirst : Prop :=
  ∀ front back, placement.lineLead ++ placement.ident.text.toList =
    front ++ placement.ident.text.toList ++ back → back = []

theorem text_ne_nil : placement.text ≠ [] := by
  intro hnil
  have hident : placement.ident.text.toList = [] := by
    rw [text, List.append_assoc] at hnil
    exact (List.append_eq_nil_iff.mp (List.append_eq_nil_iff.mp hnil).2).1
  exact placement.ident.nonempty (String.toList_eq_nil_iff.mp hident)

theorem line_topLevelItemSyntax :
    (topLevelItemSyntax item).line = placement.before.count '\n' + 1 := by
  show max item.span.start.line 1 = _
  rw [placement.startLine]
  exact Nat.max_eq_left (Nat.succ_le_succ (Nat.zero_le _))

theorem endLine_topLevelItemSyntax :
    (topLevelItemSyntax item).endLine =
      (placement.before ++ placement.text).count '\n' + 1 := by
  show max item.span.stop.line (topLevelItemSyntax item).line = _
  rw [placement.line_topLevelItemSyntax, placement.stopLine]
  refine Nat.max_eq_left (Nat.succ_le_succ ?_)
  rw [List.count_append]
  exact Nat.le_add_right _ _

/-- The lines of the item, and how they lie in the source. -/
theorem exists_lines :
    ∃ complete more rest,
      source = complete ++ (placement.lineLead ++ placement.ident.text.toList ++
        (placement.tail ++ more)) ++ rest ∧
      utf8Length (complete ++ placement.lineLead) =
        utf8Length (placement.before ++ placement.lead) ∧
      lineByteRange source (topLevelItemSyntax item).line (topLevelItemSyntax item).endLine =
        (utf8Length complete, utf8Length (complete ++ (placement.lineLead ++
          placement.ident.text.toList ++ (placement.tail ++ more)))) := by
  have hsource : source = placement.before ++ (placement.text ++ placement.after) := by
    rw [← List.append_assoc]
    exact placement.source_eq
  have hsource' : source = (placement.before ++ placement.text) ++ placement.after :=
    placement.source_eq
  have hne : currentLine placement.before ++ (placement.text ++ placement.after) ≠ [] := by
    intro hnil
    exact placement.text_ne_nil (List.append_eq_nil_iff.mp
      (List.append_eq_nil_iff.mp hnil).2).1
  -- the first line begins before the item, the last one ends behind it
  obtain ⟨complete, hbefore, hstart⟩ := lineStart_eq hne
  obtain ⟨more, rest, hafter, hstop⟩ :=
    lineEnd_eq (placement.before ++ placement.text) placement.after
  rw [← hsource] at hstart
  rw [← hsource'] at hstop
  have htext : complete ++ (placement.lineLead ++ placement.ident.text.toList ++
      (placement.tail ++ more)) = placement.before ++ placement.text ++ more := by
    rw [lineLead, text]
    conv_rhs => rw [hbefore]
    simp only [List.append_assoc]
  refine ⟨complete, more, rest, ?_, ?_, ?_⟩
  · rw [htext, List.append_assoc, ← hafter]
    exact placement.source_eq
  · rw [lineLead, ← List.append_assoc, ← hbefore]
  · have hbytes : utf8Length source =
        utf8Length (placement.before ++ placement.text ++ more) + utf8Length rest := by
      rw [← utf8Length_append, List.append_assoc, ← hafter, ← hsource']
    have hinside : utf8Length complete ≤ utf8Length source := by
      rw [hbytes, ← htext, utf8Length_append]
      omega
    unfold lineByteRange
    simp only [placement.line_topLevelItemSyntax, placement.endLine_topLevelItemSyntax,
      Nat.add_sub_cancel, hstart, hstop, htext]
    rw [Nat.min_eq_left hinside, Nat.min_eq_left (by omega)]

/-- The range of a name capture is in the source, and it is that of the identifier exactly
if the name does not occur before it. -/
theorem captureSourceRange_name {captureName : String}
    (hname : "name".toList.isSuffixOf captureName.toList = true) :
    ∃ range, captureSourceRange source
        (lineByteRange source (topLevelItemSyntax item).line (topLevelItemSyntax item).endLine).1
        (lineByteRange source (topLevelItemSyntax item).line (topLevelItemSyntax item).endLine).2
        captureName (some placement.ident.text) = .ok range ∧
      range.1 ≤ range.2 ∧ range.2 ≤ utf8Length source ∧
      (range = placement.identRange ↔ placement.NameIsFirst) := by
  obtain ⟨complete, more, rest, hsource, hident, hlines⟩ := placement.exists_lines
  obtain ⟨position, hposition, hle⟩ := findSlice_le_of_append placement.ident.text.toList
    placement.lineLead (placement.tail ++ more)
  have hrange : getRange? source (utf8Length complete) (utf8Length (complete ++
      (placement.lineLead ++ placement.ident.text.toList ++ (placement.tail ++ more)))) =
      some (placement.lineLead ++ placement.ident.text.toList ++ (placement.tail ++ more)) :=
    getRange?_eq_some_iff.mpr ⟨complete, rest, hsource, rfl, (utf8Length_append _ _).symm⟩
  -- the search finds the name at its own place at the latest
  have htake : (placement.lineLead ++ placement.ident.text.toList ++
      (placement.tail ++ more)).take position = placement.lineLead.take position := by
    rw [List.append_assoc, List.take_append_of_le_length hle]
  -- the bytes before the name, taken apart at the position of the match
  have hsplit : utf8Length placement.lineLead =
      utf8Length (placement.lineLead.take position) +
        utf8Length (placement.lineLead.drop position) := by
    rw [← utf8Length_append, List.take_append_drop]
  refine ⟨(utf8Length complete + utf8Length (placement.lineLead.take position),
    utf8Length complete + utf8Length (placement.lineLead.take position) +
      utf8Length placement.ident.text.toList), ?_, Nat.le_add_right _ _, ?_, ?_⟩
  · rw [hlines, captureSourceRange, hname]
    simp only [Bool.not_true, Bool.false_eq_true, if_false, hrange, hposition, htake]
  · have hbytes := congrArg utf8Length hsource
    simp only [utf8Length_append] at hbytes ⊢
    omega
  · have hfound : position = placement.lineLead.length ↔ placement.NameIsFirst := by
      have hiff := findSlice_eq_length_iff placement.ident.text.toList placement.lineLead
        (placement.tail ++ more)
      rw [hposition, Option.some_inj] at hiff
      exact hiff
    rw [← hfound, identRange, ← hident, utf8Length_append, Prod.mk.injEq]
    constructor
    · rintro ⟨hstart, -⟩
      -- equal offsets leave no byte, so no character, between the match and the name
      have hnone : utf8Length (placement.lineLead.drop position) = 0 := by omega
      have hlength := length_le_utf8Length (placement.lineLead.drop position)
      rw [hnone, List.length_drop] at hlength
      omega
    · intro hlast
      have hall : placement.lineLead.take position = placement.lineLead := by
        rw [hlast, List.take_length]
      rw [hall]
      exact ⟨rfl, rfl⟩

end Placement

/-! ## The captures of a query

A matched item gives its name captures by the same search, so what is known of the
search is known of each capture. -/

section Query

variable (regex : String → Except String (String → Bool))

/-- The captures of each item for each pattern are computed without an error, and are
among the captures of the query. -/
theorem itemCaptures_of_accepted {blake3 : List Char → String} {parser : RustParser}
    {request : ProviderSyntaxQueryRequest} {response : ProviderSyntaxQueryResponse}
    {nodes : List Node} (hparse : parser.parseFile request.source = .ok nodes)
    (haccepted : handleSyntaxQueryOperation regex blake3 parser request = .ok response)
    {pattern : SyntaxQueryPattern} (hpattern : pattern ∈ request.plan.patterns) {item : Item}
    (hitem : item ∈ topLevelItems nodes) :
    ∃ captures, itemCaptures regex request (exactItemIndex (collectParseArtifactItems nodes))
        pattern (topLevelItemSyntax item) = .ok captures ∧
      ∀ capture ∈ captures, capture ∈ response.captures := by
  have hcollected := collectPatternItemCaptures_of_accepted regex hparse haccepted
  rw [collectPatternItemCaptures, parseOwnerItemsV1, hparse] at hcollected
  obtain ⟨perPattern, hpatterns, hflatten⟩ := Except.bind_eq_ok.mp hcollected
  have hresponse : perPattern.flatten = response.captures := Except.ok.inj hflatten
  obtain ⟨piece, hpiece⟩ := exists_mapM_eq_ok.mp ⟨_, hpatterns⟩ pattern hpattern
  have hpieceMem := (mem_of_mapM_eq_ok hpatterns).mpr ⟨pattern, hpattern, hpiece⟩
  obtain ⟨perItem, hitems, hpieceFlatten⟩ := Except.bind_eq_ok.mp hpiece
  obtain rfl : perItem.flatten = piece := Except.ok.inj hpieceFlatten
  have hmem := List.mem_map_of_mem hitem (f := topLevelItemSyntax)
  obtain ⟨captures, hcaptures⟩ := exists_mapM_eq_ok.mp ⟨_, hitems⟩ _ hmem
  have hcapturesMem := (mem_of_mapM_eq_ok hitems).mpr ⟨_, hmem, hcaptures⟩
  refine ⟨captures, hcaptures, fun capture hcapture => ?_⟩
  rw [← hresponse]
  exact List.mem_flatten.mpr ⟨_, hpieceMem, List.mem_flatten.mpr ⟨_, hcapturesMem, hcapture⟩⟩

/-- The range of a capture is the one that was looked for with the name of its item. -/
theorem range_of_mem_itemCaptures {request : ProviderSyntaxQueryRequest}
    {index : OrderedMap (String ×ₗ String) ParseArtifactItem} {pattern : SyntaxQueryPattern}
    {item : Item} {captures : List ProviderSyntaxQueryCapture}
    (h : itemCaptures regex request index pattern (topLevelItemSyntax item) = .ok captures)
    {capture : ProviderSyntaxQueryCapture} (hcapture : capture ∈ captures) :
    ∃ name, itemName item.declaration = some name ∧
      captureSourceRange request.source
        (lineByteRange request.source (topLevelItemSyntax item).line
          (topLevelItemSyntax item).endLine).1
        (lineByteRange request.source (topLevelItemSyntax item).line
          (topLevelItemSyntax item).endLine).2
        capture.captureName (some name.text) =
          .ok (capture.sourceByteStart, capture.sourceByteEnd) := by
  obtain ⟨matched, -, h⟩ := Except.bind_eq_ok.mp h
  cases matched with
  | false =>
      obtain rfl := Except.ok.inj h
      cases hcapture
  | true =>
      have hname : (topLevelItemSyntax item).name =
          (itemName item.declaration).map TokenText.text := rfl
      change matchedItemCaptures _ _ _ _ = _ at h
      unfold matchedItemCaptures at h
      split at h
      · obtain rfl := Except.ok.inj h
        cases hcapture
      · next text htext =>
          rw [hname] at htext
          obtain ⟨name, hitem, rfl⟩ := Option.map_eq_some_iff.mp htext
          refine ⟨name, hitem, ?_⟩
          split at h
          · obtain rfl := Except.ok.inj h
            cases hcapture
          · next exactItem _ =>
              obtain ⟨captureName, -, hmade⟩ := (mem_of_mapM_eq_ok h).mp hcapture
              obtain ⟨range, hrange, rfl⟩ := Except.map_eq_ok.mp hmade
              rw [hname, hitem] at hrange
              exact hrange

/-- **When a name capture covers the identifier.**  For every accepted query, every pattern
of it and every top-level item of the source, wherever the item and its identifier stand:
the range of each name capture that the item gives is in the source, and it is that of the
identifier exactly if the name does not occur in the lines of the item before it. -/
theorem name_capture_exact_iff {blake3 : List Char → String} {parser : RustParser}
    {request : ProviderSyntaxQueryRequest} {response : ProviderSyntaxQueryResponse}
    {nodes : List Node} (hparse : parser.parseFile request.source = .ok nodes)
    (haccepted : handleSyntaxQueryOperation regex blake3 parser request = .ok response)
    {pattern : SyntaxQueryPattern} (hpattern : pattern ∈ request.plan.patterns) {item : Item}
    (hitem : item ∈ topLevelItems nodes) (placement : Placement request.source item) :
    ∃ captures, itemCaptures regex request (exactItemIndex (collectParseArtifactItems nodes))
        pattern (topLevelItemSyntax item) = .ok captures ∧
      (∀ capture ∈ captures, capture ∈ response.captures) ∧
      ∀ capture ∈ captures, "name".toList.isSuffixOf capture.captureName.toList = true →
        capture.sourceByteStart ≤ capture.sourceByteEnd ∧
          capture.sourceByteEnd ≤ utf8Length request.source ∧
          ((capture.sourceByteStart, capture.sourceByteEnd) = placement.identRange ↔
            placement.NameIsFirst) := by
  obtain ⟨captures, hcaptures, hreported⟩ :=
    itemCaptures_of_accepted regex hparse haccepted hpattern hitem
  refine ⟨captures, hcaptures, hreported, fun capture hcapture hname => ?_⟩
  obtain ⟨name, hitemName, hrange⟩ := range_of_mem_itemCaptures regex hcaptures hcapture
  -- the name that is searched for is the identifier of the declaration
  obtain rfl : name = placement.ident := Option.some.inj
    ((declaredName_of_itemName hitemName).symm.trans placement.declares)
  obtain ⟨range, hfound, hspec⟩ := placement.captureSourceRange_name hname
  obtain rfl : (capture.sourceByteStart, capture.sourceByteEnd) = range :=
    Except.ok.inj (hrange.symm.trans hfound)
  exact hspec

end Query

/-- Where `pub fn run() {}` and its identifier stand. -/
def plainPlacement : Placement (functionRequest plainSource).source plainItem where
  before := []
  lead := "pub fn ".toList
  ident := runIdent
  tail := "() \x7b\x7d".toList
  after := "\n".toList
  source_eq := by decide
  declares := rfl
  startLine := by decide
  stopLine := by decide

/-- The name capture of `pub fn run() {}` covers the bytes of `run`. -/
theorem plain_name_exact :
    plainPlacement.identRange = (7, 10) ∧
      ∃ captures, itemCaptures (fun _ => .error "") (functionRequest plainSource)
          (exactItemIndex (collectParseArtifactItems plainNodes))
          ⟨0, ["function.name"], ["function_item"], ["name"]⟩ (topLevelItemSyntax plainItem) =
            .ok captures ∧
        captures.map ProviderSyntaxQueryCapture.captureName = ["function.name"] ∧
        ∀ capture ∈ captures, (capture.sourceByteStart, capture.sourceByteEnd) = (7, 10) := by
  have hparse : plainParser.parseFile (functionRequest plainSource).source = .ok plainNodes := rfl
  obtain ⟨response, haccepted⟩ : ∃ response, handleSyntaxQueryOperation (fun _ => .error "")
      (fun _ => "digest") plainParser (functionRequest plainSource) = .ok response := ⟨_, rfl⟩
  obtain ⟨captures, hcaptures, -, hexact⟩ := name_capture_exact_iff _ hparse haccepted
    List.mem_cons_self List.mem_cons_self plainPlacement
  have hfirst : plainPlacement.NameIsFirst :=
    (findSlice_eq_length_iff plainPlacement.ident.text.toList plainPlacement.lineLead []).mp
      (by decide)
  have hnames : captures.map ProviderSyntaxQueryCapture.captureName = ["function.name"] := by
    obtain rfl := Except.ok.inj hcaptures
    rfl
  refine ⟨by decide, captures, hcaptures, hnames, fun capture hcapture => ?_⟩
  have hname : capture.captureName = "function.name" := by
    have hmem := List.mem_map_of_mem hcapture (f := ProviderSyntaxQueryCapture.captureName)
    rw [hnames] at hmem
    exact List.mem_singleton.mp hmem
  exact (hexact capture hcapture (by rw [hname]; decide)).2.2.mpr hfirst

def shortSource : String := "pub fn u() \x7b\x7d\n"

def shortItem : Item := functionItem ⟨"u", by decide⟩ [] ⟨0, 13, ⟨1, 0⟩, ⟨1, 13⟩⟩

def shortNodes : List Node := [.item shortItem [] []]

def shortParser : RustParser := .knowing [] shortSource.toList shortNodes (by decide)

def shortPlacement : Placement (functionRequest shortSource).source shortItem where
  before := []
  lead := "pub fn ".toList
  ident := ⟨"u", by decide⟩
  tail := "() \x7b\x7d".toList
  after := "\n".toList
  source_eq := by decide
  declares := rfl
  startLine := by decide
  stopLine := by decide

/-- The name capture of `pub fn u() {}` covers a letter of `pub`. -/
theorem short_name_inexact :
    shortPlacement.identRange = (7, 8) ∧
      (handleSyntaxQueryOperation (fun _ => .error "") (fun _ => "digest") shortParser
        (functionRequest shortSource)).map (fun response => response.captures.map fun capture =>
          (capture.captureName, capture.sourceByteStart, capture.sourceByteEnd)) =
        .ok [("function.name", 1, 2)] :=
  ⟨rfl, rfl⟩

end AspRust.Provider
