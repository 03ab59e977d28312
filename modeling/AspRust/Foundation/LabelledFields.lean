import Mathlib.Data.List.TakeWhile
import AspRust.Foundation.Separated

/-!
# Fields written one after another

A record is often written as its fields in a row: a label, a mark, a value, a stop.  A
reader who cuts the text at every stop takes a piece without a mark for the rest of
the value before it, and a piece with one for a new field.  A value may therefore hold
stops, as long as no mark comes after one: such a field is `Plain`.  Plain fields are
read off the text (`fieldsText_append_inj`), also when something unrestricted follows
them, provided that it opens with a label of its own.

### What is load-bearing

A stop ends a field only where a label and a mark come next.  `Quiet` says that in a value no
mark comes after a stop, so that no such place is inside it.  The stop itself is allowed in
values, which is the point: nothing is escaped.
-/

namespace AspRust.Foundation

namespace LabelledFields

variable {α : Type*} {mark stop : α}

/-- A field as it is written. -/
def fieldText (mark stop : α) (field : List α × List α) : List α :=
  field.1 ++ mark :: (field.2 ++ [stop])

/-- Fields written one after another. -/
def fieldsText (mark stop : α) (fields : List (List α × List α)) : List α :=
  fields.flatMap (fieldText mark stop)

/-- A label: neither a mark nor a stop is in it. -/
structure IsLabel (mark stop : α) (label : List α) : Prop where
  mark_notMem : mark ∉ label
  stop_notMem : stop ∉ label

instance [DecidableEq α] (label : List α) : Decidable (IsLabel mark stop label) :=
  decidable_of_iff (mark ∉ label ∧ stop ∉ label)
    ⟨fun h => ⟨h.1, h.2⟩, fun h => ⟨h.mark_notMem, h.stop_notMem⟩⟩

/-- A text that is empty or starts with a label. -/
def Opens (mark stop : α) (text : List α) : Prop :=
  text = [] ∨ ∃ label after, IsLabel mark stop label ∧ text = label ++ mark :: after

/-- What follows the fields: nothing, or something that opens with a label no field has. -/
def Closes (mark stop : α) (fields : List (List α × List α)) (rest : List α) : Prop :=
  rest = [] ∨ ∃ label after, IsLabel mark stop label ∧ rest = label ++ mark :: after ∧
    ∀ field ∈ fields, field.1 ≠ label

@[simp] theorem fieldsText_nil : fieldsText mark stop ([] : List (List α × List α)) = [] := rfl

@[simp] theorem fieldsText_cons (field : List α × List α) (fields : List (List α × List α)) :
    fieldsText mark stop (field :: fields) =
      fieldText mark stop field ++ fieldsText mark stop fields := rfl

theorem fieldsText_append (first second : List (List α × List α)) :
    fieldsText mark stop (first ++ second) =
      fieldsText mark stop first ++ fieldsText mark stop second := List.flatMap_append

/-- Fields of one label are told from those of other labels after them. -/
theorem leading_inj {label : List α} {first second rest rest' : List (List α × List α)}
    (hfirst : ∀ field ∈ first, field.1 = label) (hsecond : ∀ field ∈ second, field.1 = label)
    (hrest : ∀ field ∈ rest, field.1 ≠ label) (hrest' : ∀ field ∈ rest', field.1 ≠ label)
    (h : first ++ rest = second ++ rest') : first = second ∧ rest = rest' := by
  classical
  have hleading : ∀ {leading others : List (List α × List α)},
      (∀ field ∈ leading, field.1 = label) → (∀ field ∈ others, field.1 ≠ label) →
      (leading ++ others).filter (fun field => decide (field.1 = label)) = leading := by
    intro leading others hall hnone
    rw [List.filter_append, List.filter_eq_self.mpr fun field hfield => by
      simpa using hall field hfield, List.filter_eq_nil_iff.mpr fun field hfield => by
        simpa using hnone field hfield, List.append_nil]
  have hsame : first = second := by
    rw [← hleading hfirst hrest, h, hleading hsecond hrest']
  subst hsame
  exact ⟨rfl, List.append_cancel_left h⟩

/-- Labels are read off at the first mark. -/
theorem label_inj {first second before after : List α} (hfirst : mark ∉ first)
    (hsecond : mark ∉ second) (h : first ++ mark :: before = second ++ mark :: after) :
    first = second ∧ before = after := by
  have hmark : Separated.Distinctive [mark] := List.not_mem_nil
  refine Separated.append_marker_inj hmark ?_ ?_ (by simpa using h)
  · exact fun hinside => hfirst (hinside.subset List.mem_cons_self)
  · exact fun hinside => hsecond (hinside.subset List.mem_cons_self)

theorem Closes.opens {fields : List (List α × List α)} {rest : List α}
    (h : Closes mark stop fields rest) : Opens mark stop rest := by
  rcases h with hnil | ⟨label, after, hlabel, hrest, -⟩
  · exact Or.inl hnil
  · exact Or.inr ⟨label, after, hlabel, hrest⟩

theorem Closes.tail {field : List α × List α} {fields : List (List α × List α)} {rest : List α}
    (h : Closes mark stop (field :: fields) rest) : Closes mark stop fields rest := by
  rcases h with hnil | ⟨label, after, hlabel, hrest, hfresh⟩
  · exact Or.inl hnil
  · exact Or.inr ⟨label, after, hlabel, hrest,
      fun other hother => hfresh other (List.mem_cons_of_mem _ hother)⟩

/-- A text that opens with a label does not start with a stretch that has a stop but no
mark before it. -/
theorem not_opens {text stretch after : List α} (hne : mark ≠ stop) (hopens : Opens mark stop text)
    (hstretch : mark ∉ stretch) (h : text = stretch ++ stop :: after) : False := by
  rcases hopens with rfl | ⟨label, rest, hlabel, rfl⟩
  · simp at h
  · rcases List.append_eq_append_iff.mp h with ⟨more, hmore, hrest⟩ | ⟨more, hmore, hrest⟩
    · cases more with
      | nil =>
          obtain ⟨hsame, -⟩ : mark = stop ∧ rest = after := by simpa using hrest
          exact hne hsame
      | cons head others =>
          -- the mark after the label stands in the stretch
          obtain ⟨rfl, -⟩ : mark = head ∧ rest = others ++ stop :: after := by simpa using hrest
          exact hstretch (hmore ▸ List.mem_append_right _ List.mem_cons_self)
    · cases more with
      | nil =>
          obtain ⟨hsame, -⟩ : stop = mark ∧ after = rest := by simpa using hrest
          exact hne hsame.symm
      | cons head others =>
          -- the stop after the stretch stands in the label
          obtain ⟨rfl, -⟩ : stop = head ∧ after = others ++ mark :: rest := by simpa using hrest
          exact hlabel.stop_notMem (hmore ▸ List.mem_append_right _ List.mem_cons_self)

/-! ## Quiet values -/

variable [DecidableEq α]

/-- A list in which no mark comes after a stop. -/
def Quiet (mark stop : α) (value : List α) : Prop := mark ∉ value.dropWhile (· ≠ stop)

instance (value : List α) : Decidable (Quiet mark stop value) :=
  inferInstanceAs (Decidable (mark ∉ _))

/-- A field that can be told from what stands around it. -/
structure Plain (mark stop : α) (field : List α × List α) : Prop where
  label : IsLabel mark stop field.1
  value : Quiet mark stop field.2

theorem quiet_of_stop_notMem {value : List α} (h : stop ∉ value) : Quiet mark stop value := by
  have hnone : value.dropWhile (· ≠ stop) = [] := by
    refine List.dropWhile_eq_nil_iff.mpr ?_
    intro element hmem
    have hne : element ≠ stop := fun hstop => h (hstop ▸ hmem)
    simpa using hne
  rw [Quiet, hnone]
  exact List.not_mem_nil

/-- After a stop a quiet list holds no mark. -/
theorem Quiet.mark_notMem {before after : List α}
    (h : Quiet mark stop (before ++ stop :: after)) : mark ∉ after := by
  intro hmem
  refine h ?_
  rw [List.dropWhile_append]
  split
  · simpa using Or.inr hmem
  · exact List.mem_append_right _ (List.mem_cons_of_mem _ hmem)

/-- Plain fields open what they are followed by. -/
theorem opens_fieldsText {fields : List (List α × List α)} {rest : List α}
    (hplain : ∀ field ∈ fields, Plain mark stop field) (hrest : Opens mark stop rest) :
    Opens mark stop (fieldsText mark stop fields ++ rest) := by
  cases fields with
  | nil => exact hrest
  | cons field others =>
      refine Or.inr ⟨field.1, field.2 ++ [stop] ++ (fieldsText mark stop others ++ rest),
        (hplain field List.mem_cons_self).label, ?_⟩
      simp [fieldText]

/-- The stop that ends a value is the last one before a text that opens with a label. -/
theorem value_inj {first second before after : List α} (hne : mark ≠ stop)
    (hfirst : Quiet mark stop first) (hsecond : Quiet mark stop second)
    (hbefore : Opens mark stop before) (hafter : Opens mark stop after)
    (h : first ++ stop :: before = second ++ stop :: after) : first = second ∧ before = after := by
  have hlonger : ∀ {shorter longer overlap tail rest : List α}, Quiet mark stop longer →
      longer = shorter ++ overlap → Opens mark stop tail →
      stop :: tail = overlap ++ stop :: rest → overlap = [] := by
    intro shorter longer overlap tail rest hquiet hlonger htail hcover
    cases overlap with
    | nil => rfl
    | cons head others =>
        obtain ⟨rfl, hothers⟩ : stop = head ∧ tail = others ++ stop :: rest := by
          simpa using hcover
        rw [hlonger] at hquiet
        exact (not_opens hne htail hquiet.mark_notMem hothers).elim
  have hsame : first = second := by
    rcases List.append_eq_append_iff.mp h with ⟨overlap, hlong, hcover⟩ | ⟨overlap, hlong, hcover⟩
    · rw [hlong, hlonger hsecond hlong hbefore hcover, List.append_nil]
    · rw [hlong, hlonger hfirst hlong hafter hcover, List.append_nil]
  subst hsame
  refine ⟨rfl, ?_⟩
  simpa using h

/-- **Plain fields are read off the text**, and so is what follows them. -/
theorem fieldsText_append_inj (hne : mark ≠ stop) {first second : List (List α × List α)}
    {rest rest' : List α} (hfirst : ∀ field ∈ first, Plain mark stop field)
    (hsecond : ∀ field ∈ second, Plain mark stop field) (hrest : Closes mark stop second rest)
    (hrest' : Closes mark stop first rest')
    (h : fieldsText mark stop first ++ rest = fieldsText mark stop second ++ rest') :
    first = second ∧ rest = rest' := by
  -- a field cannot stand where what follows the fields stands
  have hmissing : ∀ {field : List α × List α} {fields : List (List α × List α)}
      {tail after : List α}, Plain mark stop field → Closes mark stop (field :: fields) tail →
      tail = fieldText mark stop field ++ after → False := by
    intro field fields tail after hplain hcloses htail
    rcases hcloses with rfl | ⟨label, body, hlabel, rfl, hfresh⟩
    · simp [fieldText] at htail
    · rw [fieldText, List.append_assoc] at htail
      exact hfresh field List.mem_cons_self
        (label_inj hlabel.mark_notMem hplain.label.mark_notMem htail).1.symm
  induction first generalizing second with
  | nil =>
      cases second with
      | nil => exact ⟨rfl, h⟩
      | cons field' others' =>
          rw [fieldsText_nil, List.nil_append, fieldsText_cons, List.append_assoc] at h
          exact (hmissing (hsecond field' List.mem_cons_self) hrest h).elim
  | cons field others ih =>
      cases second with
      | nil =>
          rw [fieldsText_nil, List.nil_append, fieldsText_cons, List.append_assoc] at h
          exact (hmissing (hfirst field List.mem_cons_self) hrest' h.symm).elim
      | cons field' others' =>
          have hplain := hfirst field List.mem_cons_self
          have hplain' := hsecond field' List.mem_cons_self
          have hothers : ∀ other ∈ others, Plain mark stop other :=
            fun other hother => hfirst other (List.mem_cons_of_mem _ hother)
          have hothers' : ∀ other ∈ others', Plain mark stop other :=
            fun other hother => hsecond other (List.mem_cons_of_mem _ hother)
          simp only [fieldsText_cons, fieldText, List.append_assoc, List.cons_append,
            List.nil_append] at h
          obtain ⟨hlabel, hafter⟩ :=
            label_inj hplain.label.mark_notMem hplain'.label.mark_notMem h
          obtain ⟨hvalue, htail⟩ := value_inj hne hplain.value hplain'.value
            (opens_fieldsText hothers hrest.opens) (opens_fieldsText hothers' hrest'.opens) hafter
          obtain ⟨hsame, hlast⟩ := ih hothers hothers' hrest.tail hrest'.tail htail
          exact ⟨by rw [Prod.ext hlabel hvalue, hsame], hlast⟩

end LabelledFields

example : LabelledFields.fieldsText '=' ';' [(['a'], ['1', ';', '2']), (['b'], [])] =
    "a=1;2;b=;".toList := by decide

end AspRust.Foundation
