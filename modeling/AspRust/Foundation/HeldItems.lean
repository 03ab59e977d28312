import AspRust.Foundation.OrderedMap
import Mathlib.Algebra.BigOperators.Group.List.Basic
import Mathlib.Data.List.Induction
import Mathlib.Data.Set.Card

/-!
# Passes that remember

Two kinds of pass over a list keep a set of names.  One only adds names; what it knows at an entry
are the names given before.  The other takes an item up, lets it go, or empties its hands at an
entry where everything held is counted.  Both are described at an entry by the entries before it.

### Use

A pass is given by what an entry does to one item (`HandlingRule`).  The lemmas speak of an item
at an entry, so a caller describes its rule item by item and never looks at the set that the
pass carries.
-/

namespace AspRust.Foundation

variable {ι κ : Type*}

/-- The entries of a list, each with the entries before it. -/
def withBefore : List ι → List (List ι × ι)
  | [] => []
  | x :: rest => ([], x) :: (withBefore rest).map fun entry => (x :: entry.1, entry.2)

theorem withBefore_append_singleton (list : List ι) (last : ι) :
    withBefore (list ++ [last]) = withBefore list ++ [(list, last)] := by
  induction list with
  | nil => rfl
  | cons head rest ih =>
      show ([], head) :: (withBefore (rest ++ [last])).map _ = _
      rw [ih, List.map_append]
      rfl

theorem mem_withBefore {list before : List ι} {x : ι} :
    (before, x) ∈ withBefore list ↔ ∃ after, list = before ++ x :: after := by
  induction list generalizing before with
  | nil => simp [withBefore]
  | cons head rest ih =>
      rw [withBefore, List.mem_cons, List.mem_map]
      constructor
      · rintro (h | ⟨⟨inner, y⟩, hmem, h⟩)
        · obtain ⟨rfl, rfl⟩ := Prod.mk.inj h
          exact ⟨rest, rfl⟩
        · obtain ⟨rfl, rfl⟩ := Prod.mk.inj h
          obtain ⟨after, rfl⟩ := ih.mp hmem
          exact ⟨after, rfl⟩
      · rintro ⟨after, h⟩
        cases before with
        | nil =>
            obtain ⟨rfl, rfl⟩ := List.cons.inj h
            exact Or.inl rfl
        | cons first inner =>
            obtain ⟨rfl, hrest⟩ := List.cons.inj h
            exact Or.inr ⟨(inner, x), ih.mpr ⟨after, hrest⟩, rfl⟩

variable [LinearOrder κ]

/-! ## Names given before

A pass that only adds names knows at each entry what the entries before it have given. -/

section Given

/-- Add a name, if there is one. -/
def OrderedSet.learn (names : OrderedSet κ) : Option κ → OrderedSet κ
  | some name => names.add name
  | none => names

variable (gives : ι → Option κ)

/-- The names of a list of entries. -/
def givenNames (list : List ι) : OrderedSet κ := OrderedSet.ofList (list.filterMap gives)

theorem givenNames_append_singleton (list : List ι) (last : ι) :
    givenNames gives (list ++ [last]) = (givenNames gives list).learn (gives last) := by
  unfold givenNames OrderedSet.ofList
  rw [List.filterMap_append, List.foldl_append]
  cases hgives : gives last with
  | none => rw [List.filterMap_cons_none hgives]; rfl
  | some name => rw [List.filterMap_cons_some hgives]; rfl

end Given

/-! ## Items held

An item is held at an entry if an entry before it took it up and none in between let it
go or settled.  The pass keeps a set, and what it counts at an entry that settles is the
size of that set; both are described item by item. -/

/-- A pass with full hands: an entry may take an item up, may be a place where all that is held
is counted and put away, and may let an item go. -/
structure HandlingRule (ι κ : Type*) where
  takes : ι → Option κ
  settles : ι → Bool
  drops : ι → Option κ

namespace HandlingRule

variable (rule : HandlingRule ι κ)

/-- The items held after an entry was looked at, and the count. -/
def step (state : OrderedSet κ × ℕ) (x : ι) : OrderedSet κ × ℕ :=
  let held := state.1.learn (rule.takes x)
  let settled := if rule.settles x then (∅, state.2 + held.keys.length) else (held, state.2)
  match rule.drops x with
  | some item => (settled.1.erase item, settled.2)
  | none => settled

/-- An item is held after some entries: one of them took it up, and neither that one nor a
later one has settled or let it go. -/
def HeldAfter (entries : List ι) (item : κ) : Prop :=
  ∃ before x after, entries = before ++ x :: after ∧ rule.takes x = some item ∧
    ∀ y ∈ x :: after, rule.settles y = false ∧ rule.drops y ≠ some item

/-- An item is held at an entry: the entry takes it up, or it is held already. -/
def HeldAt (before : List ι) (x : ι) (item : κ) : Prop :=
  rule.takes x = some item ∨ rule.HeldAfter before item

omit [LinearOrder κ] in
theorem heldAfter_append_singleton (list : List ι) (last : ι) (item : κ) :
    rule.HeldAfter (list ++ [last]) item ↔
      rule.HeldAt list last item ∧ rule.settles last = false ∧ rule.drops last ≠ some item := by
  constructor
  · rintro ⟨before, x, after, heq, htakes, hkept⟩
    rcases List.eq_nil_or_concat after with rfl | ⟨inner, final, rfl⟩
    · obtain ⟨rfl, hx⟩ := List.append_inj' heq rfl
      obtain rfl : last = x := by simpa using hx
      exact ⟨Or.inl htakes, hkept last List.mem_cons_self⟩
    · rw [List.concat_eq_append, ← List.cons_append, ← List.append_assoc] at heq
      obtain ⟨rfl, hx⟩ := List.append_inj' heq rfl
      obtain rfl : last = final := by simpa using hx
      refine ⟨Or.inr ⟨before, x, inner, rfl, htakes, fun y hy => hkept y ?_⟩,
        hkept last (by simp)⟩
      rcases List.mem_cons.mp hy with rfl | hin
      · exact List.mem_cons_self
      · exact List.mem_cons_of_mem _ (by simp [hin])
  · rintro ⟨htakes | ⟨before, x, after, rfl, htakes, hkept⟩, hlast⟩
    · refine ⟨list, last, [], rfl, htakes, fun y hy => ?_⟩
      rw [List.mem_singleton.mp hy]
      exact hlast
    · refine ⟨before, x, after ++ [last], by simp, htakes, fun y hy => ?_⟩
      rw [← List.cons_append, List.mem_append, List.mem_singleton] at hy
      rcases hy with hin | rfl
      · exact hkept y hin
      · exact hlast

theorem mem_keys_learn {names : OrderedSet κ} {given : Option κ} {name : κ} :
    name ∈ (names.learn given).keys ↔ given = some name ∨ name ∈ names.keys := by
  cases given with
  | none => simp [OrderedSet.learn]
  | some value => simp [OrderedSet.learn, eq_comm]

theorem mem_keys_erase {names : OrderedSet κ} {gone name : κ} :
    name ∈ (OrderedMap.erase names gone).keys ↔ name ≠ gone ∧ name ∈ names.keys := by
  rw [OrderedMap.mem_keys_iff, OrderedMap.mem_keys_iff]
  by_cases heq : name = gone <;> simp [OrderedMap.get?_erase, heq]

theorem mem_step_fst {state : OrderedSet κ × ℕ} {x : ι} {item : κ} :
    item ∈ (rule.step state x).1.keys ↔
      (rule.takes x = some item ∨ item ∈ state.1.keys) ∧ rule.settles x = false ∧
        rule.drops x ≠ some item := by
  unfold step
  dsimp only
  cases hdrops : rule.drops x with
  | none =>
      cases hsettles : rule.settles x with
      | true => simp
      | false => simp [mem_keys_learn]
  | some gone =>
      dsimp only
      rw [mem_keys_erase]
      cases hsettles : rule.settles x with
      | true => simp
      | false => simp [mem_keys_learn, and_comm, eq_comm]

theorem step_snd (state : OrderedSet κ × ℕ) (x : ι) :
    (rule.step state x).2 =
      state.2 + if rule.settles x then (state.1.learn (rule.takes x)).keys.length else 0 := by
  unfold step
  cases rule.drops x <;> cases rule.settles x <;> rfl

/-- What was counted before is carried along. -/
theorem foldl_step_start (list : List ι) (held : OrderedSet κ) (start : ℕ) :
    (list.foldl rule.step (held, start)).2 = start + (list.foldl rule.step (held, 0)).2 := by
  suffices h : ∀ count, list.foldl rule.step (held, start + count) =
      ((list.foldl rule.step (held, count)).1, start + (list.foldl rule.step (held, count)).2) by
    exact congrArg Prod.snd (h 0)
  induction list generalizing held with
  | nil => exact fun _ => rfl
  | cons head rest ih =>
      intro count
      have hstep : rule.step (held, start + count) head =
          ((rule.step (held, count) head).1, start + (rule.step (held, count) head).2) := by
        unfold step
        cases rule.drops head <;> cases rule.settles head <;> simp [Nat.add_assoc]
      rw [List.foldl_cons, List.foldl_cons, hstep]
      exact ih _ _

/-- The set of the keys of an ordered set has as many elements as the set has keys. -/
theorem ncard_keys (names : OrderedSet κ) : {name | name ∈ names.keys}.ncard = names.keys.length := by
  rw [← List.toFinset_card_of_nodup names.nodup_keys, ← Set.ncard_coe_finset]
  congr 1
  ext name
  simp

/-- The items in the hands of the pass are the items held. -/
theorem mem_foldl_step (list : List ι) (item : κ) :
    item ∈ (list.foldl rule.step (∅, 0)).1.keys ↔ rule.HeldAfter list item := by
  induction list using List.reverseRecOn with
  | nil =>
      refine ⟨fun h => absurd h List.not_mem_nil, ?_⟩
      rintro ⟨before, x, after, heq, -⟩
      exact absurd heq (List.append_ne_nil_of_right_ne_nil _ (List.cons_ne_nil _ _)).symm
  | append_singleton list last ih =>
      rw [List.foldl_append, List.foldl_cons, List.foldl_nil, mem_step_fst, ih,
        heldAfter_append_singleton]
      rfl

theorem setOf_heldAt (before : List ι) (x : ι) :
    {item | rule.HeldAt before x item} = {item | item ∈
      ((before.foldl rule.step (∅, 0)).1.learn (rule.takes x)).keys} := by
  ext item
  show rule.HeldAt before x item ↔ item ∈ OrderedMap.keys _
  rw [mem_keys_learn, mem_foldl_step]
  rfl

/-- **The pass counts, at each entry that settles, the items held there.** -/
theorem foldl_step_snd (list : List ι) :
    (list.foldl rule.step (∅, 0)).2 = ((withBefore list).map fun entry =>
      if rule.settles entry.2 then {item | rule.HeldAt entry.1 entry.2 item}.ncard else 0).sum := by
  induction list using List.reverseRecOn with
  | nil => rfl
  | append_singleton list last ih =>
      rw [List.foldl_append, List.foldl_cons, List.foldl_nil, step_snd, ih,
        withBefore_append_singleton, List.map_append, List.sum_append, List.map_singleton,
        List.sum_singleton]
      dsimp only
      rw [setOf_heldAt, ncard_keys]

omit [LinearOrder κ] in
/-- Up to an entry that settles there is a first one. -/
theorem exists_first_settles {upto rest : List ι} {y : ι} {item : κ}
    (hsettles : rule.settles y = true) (hkept : ∀ z ∈ upto, rule.drops z ≠ some item) :
    ∃ upto' y' rest', upto ++ y :: rest = upto' ++ y' :: rest' ∧ rule.settles y' = true ∧
      ∀ z ∈ upto', rule.settles z = false ∧ rule.drops z ≠ some item := by
  induction upto with
  | nil => exact ⟨[], y, rest, rfl, hsettles, fun _ h => absurd h List.not_mem_nil⟩
  | cons head tail ih =>
      cases hhead : rule.settles head with
      | true =>
          exact ⟨[], head, tail ++ y :: rest, rfl, hhead, fun _ h => absurd h List.not_mem_nil⟩
      | false =>
          obtain ⟨upto', y', rest', heq, hy', hbefore⟩ :=
            ih fun z hz => hkept z (List.mem_cons_of_mem _ hz)
          refine ⟨head :: upto', y', rest', ?_, hy', fun z hz => ?_⟩
          · rw [List.cons_append, heq, List.cons_append]
          · rcases List.mem_cons.mp hz with rfl | hin
            · exact ⟨hhead, hkept z List.mem_cons_self⟩
            · exact hbefore z hin

/-- Something is counted just when an item is taken up and an entry settles, there or later,
before the item is let go. -/
theorem foldl_step_snd_pos_iff (list : List ι) :
    0 < (list.foldl rule.step (∅, 0)).2 ↔
      ∃ before x after item, list = before ++ x :: after ∧ rule.takes x = some item ∧
        ∃ upto y rest, x :: after = upto ++ y :: rest ∧ rule.settles y = true ∧
          ∀ z ∈ upto, rule.drops z ≠ some item := by
  rw [foldl_step_snd]
  constructor
  · intro hpos
    obtain ⟨amount, hamount, hne⟩ : ∃ amount ∈ (withBefore list).map fun entry =>
        if rule.settles entry.2 then {item | rule.HeldAt entry.1 entry.2 item}.ncard else 0,
        amount ≠ 0 := by
      by_contra hnone
      push Not at hnone
      exact absurd (List.sum_eq_zero hnone) (Nat.ne_of_gt hpos)
    obtain ⟨⟨before, y⟩, hentry, rfl⟩ := List.mem_map.mp hamount
    obtain ⟨rest, rfl⟩ := mem_withBefore.mp hentry
    dsimp only at hne
    have hsettles : rule.settles y = true := by
      by_contra hnot
      exact hne (if_neg hnot)
    rw [if_pos hsettles] at hne
    obtain ⟨item, htakes | ⟨first, x, after, rfl, htakes, hkept⟩⟩ :=
      Set.nonempty_of_ncard_ne_zero hne
    · exact ⟨before, y, rest, item, rfl, htakes, [], y, rest, rfl, hsettles,
        fun _ h => absurd h List.not_mem_nil⟩
    · exact ⟨first, x, after ++ y :: rest, item, by simp, htakes, x :: after, y, rest, rfl,
        hsettles, fun z hz => (hkept z hz).2⟩
  · rintro ⟨before, x, after, item, rfl, htakes, upto, y, rest, heq, hsettles, hkept⟩
    obtain ⟨upto', y', rest', heq', hsettles', hbefore⟩ :=
      @exists_first_settles _ _ rule upto rest y item hsettles hkept
    rw [← heq] at heq'
    have hheld : rule.HeldAt (before ++ upto') y' item := by
      cases upto' with
      | nil =>
          obtain ⟨rfl, -⟩ := List.cons.inj heq'
          exact Or.inl htakes
      | cons first inner =>
          obtain ⟨rfl, -⟩ := List.cons.inj heq'
          exact Or.inr ⟨before, x, inner, rfl, htakes, hbefore⟩
    have hentry : (before ++ upto', y') ∈ withBefore (before ++ x :: after) :=
      mem_withBefore.mpr ⟨rest', by rw [heq', List.append_assoc]⟩
    refine List.sum_pos_iff_exists_pos_nat.mpr ⟨_, List.mem_map.mpr ⟨_, hentry, rfl⟩, ?_⟩
    dsimp only
    rw [if_pos hsettles', setOf_heldAt, ncard_keys]
    have hmem : item ∈ ((((before ++ upto').foldl rule.step (∅, 0)).1).learn
        (rule.takes y')).keys :=
      (Set.ext_iff.mp (rule.setOf_heldAt (before ++ upto') y') item).mp hheld
    exact List.length_pos_of_mem hmem

end HandlingRule

end AspRust.Foundation
