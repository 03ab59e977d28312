import AspRust.Scenario.DurationText
import Mathlib.Algebra.Order.Ring.Rat
import Mathlib.Data.Nat.Cast.Field
import Mathlib.Tactic.Positivity
import Mathlib.Tactic.Ring

/-!
# What a duration text denotes

`Denotes` says which rational number of nanoseconds a text stands for, with no word about
how it is read: an amount in decimal digits, with or without a fraction, a unit, and blanks
around them.  The contract reads a text only as the exact number that it denotes.

A contract is shown with the debug format of the standard library, which takes the largest
unit with a whole part and as many digits of the fraction as are needed.  What it shows is
read back, as is what the runner writes.

### What is load-bearing

The grammar is a relation between texts and numbers (`Denotes`) with no order of reading in it,
so two things are to be shown: what is read is denoted, and nothing else could be.  Nothing is
rounded: a text whose digits do not come to a whole number of nanoseconds is refused.
-/

namespace AspRust.Scenario

open AspRust.Foundation

/-! ## Denotations

The grammar.  An amount stands for a rational number, a unit for a number of
nanoseconds, and a text for their product, which need not be whole. -/

/-- A text of decimal digits. -/
def IsDigits (text : List Char) : Prop := ∀ c ∈ text, c.isDigit = true

/-- The number that decimal digits stand for. -/
def digitsValue (digits : List Char) : ℚ := Nat.ofDigitChars 10 digits 0

/-- The number that an amount stands for; before the point there may be nothing. -/
inductive AmountDenotes : List Char → ℚ → Prop where
  | whole {digits : List Char} (hne : digits ≠ []) (hdigits : IsDigits digits) :
      AmountDenotes digits (digitsValue digits)
  | decimal {whole fraction : List Char} (hwhole : IsDigits whole) (hne : fraction ≠ [])
      (hfraction : IsDigits fraction) :
      AmountDenotes (whole ++ '.' :: fraction)
        (digitsValue whole + digitsValue fraction / 10 ^ fraction.length)

/-- The nanoseconds that a unit stands for. -/
inductive UnitDenotes : List Char → ℚ → Prop where
  | nanosecond : UnitDenotes ['n', 's'] 1
  | microsecond : UnitDenotes ['u', 's'] (10 ^ 3)
  | microSign : UnitDenotes ['\u00b5', 's'] (10 ^ 3)
  | greekMu : UnitDenotes ['\u03bc', 's'] (10 ^ 3)
  | millisecond : UnitDenotes ['m', 's'] (10 ^ 6)
  | second : UnitDenotes ['s'] (10 ^ 9)

/-- The text stands for a number of nanoseconds, which need not be whole. -/
structure DenotesAt (text before amount unit after : List Char) (value : ℚ) : Prop where
  text : text = before ++ (amount ++ unit) ++ after
  before : ∀ c ∈ before, isWhitespace c = true
  after : ∀ c ∈ after, isWhitespace c = true
  value : ∃ number factor, AmountDenotes amount number ∧ UnitDenotes unit factor ∧
    value = number * factor

def Denotes (text : List Char) (value : ℚ) : Prop :=
  ∃ before amount unit after, DenotesAt text before amount unit after value

/-! ## Amounts

An amount with a point is read in two parts, each a number of 128 bits, and the fraction
is scaled to the unit.  It is refused if the scaled fraction is no whole number of
nanoseconds, or if the sum is too large; otherwise it is the number that the amount
denotes. -/

theorem splitOnce?_dot_append {whole fraction : List Char} (hwhole : IsDigits whole) :
    splitOnce? '.' (whole ++ '.' :: fraction) = some (whole, fraction) := by
  have hother : ∀ c ∈ whole, decide (c ≠ '.') = true := by
    intro c hc
    have hdigit := hwhole c hc
    simp only [ne_eq, decide_not, Bool.not_eq_true', decide_eq_false_iff_not]
    rintro rfl
    cases hdigit
  rw [splitOnce?, if_pos (by simp), List.takeWhile_append_of_pos hother,
    List.dropWhile_append_of_pos hother, List.takeWhile_cons_of_neg (by simp),
    List.dropWhile_cons_of_neg (by simp), List.append_nil]
  rfl

theorem splitOnce?_dot_of_isDigits {digits : List Char} (hdigits : IsDigits digits) :
    splitOnce? '.' digits = none := by
  refine if_neg fun hmem => ?_
  have hdigit := hdigits '.' hmem
  cases hdigit

/-- A text with a point is its two parts around the point. -/
theorem eq_append_of_splitOnce? {separator : Char} {text before after : List Char}
    (h : splitOnce? separator text = some (before, after)) :
    text = before ++ separator :: after := by
  unfold splitOnce? at h
  split at h
  · rename_i hmem
    obtain ⟨rfl, rfl⟩ := Prod.mk.inj (Option.some.inj h)
    have hrest : text.dropWhile (· ≠ separator) =
        separator :: (text.dropWhile (· ≠ separator)).drop 1 := by
      have hne : text.dropWhile (· ≠ separator) ≠ [] := by
        simp only [ne_eq, List.dropWhile_eq_nil_iff, not_forall]
        exact ⟨separator, hmem, by simp⟩
      obtain ⟨c, rest, hcons⟩ := List.exists_cons_of_ne_nil hne
      have hhead := List.head?_dropWhile_not (· ≠ separator) text
      rw [hcons] at hhead ⊢
      simp only [List.head?_cons, ne_eq, decide_not, Bool.not_eq_false', decide_eq_true_eq]
        at hhead
      rw [hhead, List.drop_one, List.tail_cons]
    rw [← hrest, List.takeWhile_append_dropWhile]
  · cases h

/-- The number of an amount, from its parts around the point. -/
def amountValue (amount : List Char) : ℚ :=
  match splitOnce? '.' amount with
  | none => digitsValue amount
  | some (whole, fraction) =>
      digitsValue whole + digitsValue fraction / 10 ^ fraction.length

/-- An amount stands for one number: the point tells which form it has and where its parts
end. -/
theorem AmountDenotes.eq_amountValue {amount : List Char} {number : ℚ}
    (h : AmountDenotes amount number) : number = amountValue amount := by
  unfold amountValue
  cases h with
  | whole _ hdigits => rw [splitOnce?_dot_of_isDigits hdigits]
  | decimal hwhole _ _ => rw [splitOnce?_dot_append hwhole]

/-- The digits of an amount that is a number of 128 bits. -/
theorem parseU128_eq_some {digits : List Char} {value : ℕ} (h : parseU128 digits = some value) :
    digits ≠ [] ∧ IsDigits digits ∧ digitsValue digits = value := by
  unfold parseU128 checked at h
  split at h
  · rename_i hdigits
    split at h
    · obtain rfl := Option.some.inj h
      exact ⟨hdigits.1, List.all_eq_true.mp hdigits.2, rfl⟩
    · cases h
  · cases h

theorem checked_eq_some {value result : ℕ} (h : checked value = some result) :
    result = value := by
  unfold checked at h
  split at h
  · exact (Option.some.inj h).symm
  · cases h

theorem wholeNanos_eq_ok {amount whole : List Char} {nanosPerUnit nanos : ℕ}
    (h : wholeNanos amount whole nanosPerUnit = .ok nanos) :
    IsDigits whole ∧ (nanos : ℚ) = digitsValue whole * nanosPerUnit := by
  unfold wholeNanos at h
  split at h
  · rename_i hempty
    subst hempty
    obtain rfl := Except.ok.inj h
    refine ⟨fun c hc => absurd hc List.not_mem_nil, ?_⟩
    simp [digitsValue]
  · split at h
    · cases h
    · rename_i value hvalue
      split at h
      · cases h
      · rename_i nanos hnanos
        obtain rfl := Except.ok.inj h
        obtain ⟨-, hdigits, hwhole⟩ := parseU128_eq_some hvalue
        refine ⟨hdigits, ?_⟩
        rw [checked_eq_some hnanos, hwhole, Nat.cast_mul]

/-- The nanoseconds of an amount from those of its whole part and its fraction. -/
def addFractionNanos (amount fraction : List Char) (nanosPerUnit nanos : ℕ) :
    Except DurationError ℕ :=
  if fraction = [] ∨ ¬ fraction.all Char.isDigit then .error (.invalidFraction amount)
  else
    match checked (10 ^ fraction.length) with
    | none => .error .fractionTooPrecise
    | some scale =>
        match parseU128 fraction with
        | none => .error (.invalidFraction amount)
        | some units =>
            match checked (units * nanosPerUnit) with
            | none => .error .fractionOverflow
            | some fractionNanos =>
                if fractionNanos % scale ≠ 0 then .error (.belowNanoseconds amount)
                else
                  match checked (nanos + fractionNanos / scale) with
                  | none => .error .amountOverflow
                  | some total => .ok total

theorem parseDecimalDurationNanos_whole {amount : List Char} (nanosPerUnit : ℕ)
    (hsplit : splitOnce? '.' amount = none) (hne : amount ≠ []) :
    parseDecimalDurationNanos amount nanosPerUnit = wholeNanos amount amount nanosPerUnit := by
  unfold parseDecimalDurationNanos
  simp only [hsplit, hne, false_and, if_false]
  cases wholeNanos amount amount nanosPerUnit <;> rfl

theorem parseDecimalDurationNanos_decimal {amount whole fraction : List Char}
    (nanosPerUnit : ℕ) (hsplit : splitOnce? '.' amount = some (whole, fraction))
    (hne : ¬ (whole = [] ∧ fraction = [])) :
    parseDecimalDurationNanos amount nanosPerUnit =
      (wholeNanos amount whole nanosPerUnit).bind
        (addFractionNanos amount fraction nanosPerUnit) := by
  unfold parseDecimalDurationNanos
  simp only [hsplit, reduceCtorEq, false_or, Option.some.injEq, hne, if_false]
  cases wholeNanos amount whole nanosPerUnit <;> rfl

theorem addFractionNanos_eq_ok {amount fraction : List Char} {nanosPerUnit nanos total : ℕ}
    (h : addFractionNanos amount fraction nanosPerUnit nanos = .ok total) :
    fraction ≠ [] ∧ IsDigits fraction ∧ (total : ℚ) =
      nanos + digitsValue fraction / 10 ^ fraction.length * nanosPerUnit := by
  unfold addFractionNanos at h
  split at h
  · cases h
  rename_i hfraction
  rw [not_or, not_not] at hfraction
  split at h
  · cases h
  rename_i scale hscale
  obtain rfl := checked_eq_some hscale
  split at h
  · cases h
  rename_i units hunits
  obtain ⟨hne, hdigits, hvalue⟩ := parseU128_eq_some hunits
  split at h
  · cases h
  rename_i fractionNanos hnanos
  obtain rfl := checked_eq_some hnanos
  split at h
  · cases h
  rename_i hexact
  split at h
  · cases h
  rename_i sum hsum
  obtain rfl := checked_eq_some hsum
  obtain rfl := Except.ok.inj h
  refine ⟨hne, hdigits, ?_⟩
  -- the remainder that is refused is the only thing the division could lose
  have hdvd : 10 ^ fraction.length ∣ units * nanosPerUnit :=
    Nat.dvd_of_mod_eq_zero (not_not.mp hexact)
  have hpos : ((10 ^ fraction.length : ℕ) : ℚ) ≠ 0 := by positivity
  rw [Nat.cast_add, Nat.cast_div hdvd hpos, hvalue]
  push_cast
  ring

/-- An amount is read as the exact number of nanoseconds. -/
theorem parseDecimalDurationNanos_eq_ok {amount : List Char} {nanosPerUnit nanos : ℕ}
    (hamount : amount ≠ []) (h : parseDecimalDurationNanos amount nanosPerUnit = .ok nanos) :
    ∃ number, AmountDenotes amount number ∧ (nanos : ℚ) = number * nanosPerUnit := by
  cases hsplit : splitOnce? '.' amount with
  | none =>
      rw [parseDecimalDurationNanos_whole nanosPerUnit hsplit hamount] at h
      obtain ⟨hdigits, hvalue⟩ := wholeNanos_eq_ok h
      exact ⟨_, .whole hamount hdigits, hvalue⟩
  | some parts =>
      obtain ⟨whole, fraction⟩ := parts
      by_cases hempty : whole = [] ∧ fraction = []
      · unfold parseDecimalDurationNanos at h
        simp only [hsplit, hempty, reduceCtorEq, false_or, and_self, if_true] at h
        cases h
      · rw [parseDecimalDurationNanos_decimal nanosPerUnit hsplit hempty] at h
        cases hwhole : wholeNanos amount whole nanosPerUnit with
        | error error =>
            rw [hwhole] at h
            cases h
        | ok wholePart =>
            rw [hwhole] at h
            obtain ⟨hwholeDigits, hwholeValue⟩ := wholeNanos_eq_ok hwhole
            obtain ⟨hne, hdigits, hvalue⟩ := addFractionNanos_eq_ok h
            rw [eq_append_of_splitOnce? hsplit]
            refine ⟨_, .decimal hwholeDigits hne hdigits, ?_⟩
            rw [hvalue, hwholeValue, add_mul]

/-! ## Units and blanks

Where the amount ends and the unit begins is told by the characters: a unit begins with
no digit and no point.  So the cut of the parser is the only one. -/

/-- The units that are read are those that stand for something. -/
theorem unitDenotes_of_nanosPerUnit? {unit : List Char} {nanosPerUnit : ℕ}
    (h : nanosPerUnit? unit = some nanosPerUnit) : UnitDenotes unit nanosPerUnit := by
  unfold nanosPerUnit? at h
  split at h
  · rename_i hunit
    obtain rfl := Option.some.inj h
    rw [hunit, Nat.cast_one]
    exact .nanosecond
  split at h
  · rename_i hunit
    obtain rfl := Option.some.inj h
    have hfactor : ((1000 : ℕ) : ℚ) = 10 ^ 3 := by norm_num
    rw [hfactor]
    obtain rfl | rfl | rfl := hunit
    · exact .microsecond
    · exact .microSign
    · exact .greekMu
  split at h
  · rename_i hunit
    obtain rfl := Option.some.inj h
    have hfactor : ((1000000 : ℕ) : ℚ) = 10 ^ 6 := by norm_num
    rw [hunit, hfactor]
    exact .millisecond
  split at h
  · rename_i hunit
    obtain rfl := Option.some.inj h
    have hfactor : ((1000000000 : ℕ) : ℚ) = 10 ^ 9 := by norm_num
    rw [hunit, hfactor]
    exact .second
  · cases h

theorem UnitDenotes.nanosPerUnit? {unit : List Char} {factor : ℚ} (h : UnitDenotes unit factor) :
    ∃ nanosPerUnit : ℕ, nanosPerUnit? unit = some nanosPerUnit ∧
      factor = nanosPerUnit := by
  cases h with
  | nanosecond => exact ⟨1, by decide, by norm_num⟩
  | microsecond => exact ⟨1000, by decide, by norm_num⟩
  | microSign => exact ⟨1000, by decide, by norm_num⟩
  | greekMu => exact ⟨1000, by decide, by norm_num⟩
  | millisecond => exact ⟨1000000, by decide, by norm_num⟩
  | second => exact ⟨1000000000, by decide, by norm_num⟩

/-- A unit begins with no digit and no point, and it ends with no blank. -/
theorem UnitDenotes.edges {unit : List Char} {factor : ℚ} (h : UnitDenotes unit factor) :
    unit ≠ [] ∧ (∀ c ∈ unit.head?, isAmountChar c = false) ∧
      ∀ c ∈ unit.getLast?, isWhitespace c = false := by
  cases h <;>
    exact ⟨List.cons_ne_nil _ _, by rintro c ⟨⟩; rfl, by rintro c ⟨⟩; rfl⟩

theorem AmountDenotes.isAmountChar {amount : List Char} {number : ℚ}
    (h : AmountDenotes amount number) : ∀ c ∈ amount, isAmountChar c = true := by
  have hdigit : ∀ {c : Char}, c.isDigit = true → Scenario.isAmountChar c = true := by
    intro c hc
    rw [Scenario.isAmountChar, hc, Bool.true_or]
  cases h with
  | whole _ hdigits => exact fun c hc => hdigit (hdigits c hc)
  | decimal hwhole _ hfraction =>
      intro c hc
      obtain hc | hc := List.mem_append.mp hc
      · exact hdigit (hwhole c hc)
      · obtain rfl | hc := List.mem_cons.mp hc
        · rfl
        · exact hdigit (hfraction c hc)

theorem AmountDenotes.ne_nil {amount : List Char} {number : ℚ} (h : AmountDenotes amount number) :
    amount ≠ [] := by
  cases h with
  | whole hne _ => exact hne
  | decimal _ _ _ => simp

/-- What is trimmed away is blank. -/
theorem exists_blanks_around_trim (text : List Char) :
    ∃ before after, text = before ++ trim text ++ after ∧
      (∀ c ∈ before, isWhitespace c = true) ∧ ∀ c ∈ after, isWhitespace c = true := by
  let rest := text.dropWhile isWhitespace
  refine ⟨text.takeWhile isWhitespace, (rest.reverse.takeWhile isWhitespace).reverse, ?_,
    fun c hc => List.mem_takeWhile_imp hc,
    fun c hc => List.mem_takeWhile_imp (List.mem_reverse.mp hc)⟩
  have hrest : trim text ++ (rest.reverse.takeWhile isWhitespace).reverse = rest := by
    rw [trim, ← List.reverse_append, List.takeWhile_append_dropWhile, List.reverse_reverse]
  rw [List.append_assoc, hrest, List.takeWhile_append_dropWhile]

/-! ## Texts

What is read is what is denoted, and since the parts of a text are determined, it is
denoted by no other reading. -/

/-- A text that is read as a duration is an amount and a unit between blanks. -/
theorem exists_amount_unit {text : String} {nanos : Duration}
    (h : parseRustScenarioBenchmarkDuration text = .ok nanos) :
    nanos < 2 ^ 64 ∧ ∃ before amount unit after nanosPerUnit,
      text.toList = before ++ (amount ++ unit) ++ after ∧
        (∀ c ∈ before, isWhitespace c = true) ∧ (∀ c ∈ after, isWhitespace c = true) ∧
        amount ≠ [] ∧ nanosPerUnit? unit = some nanosPerUnit ∧
        parseDecimalDurationNanos amount nanosPerUnit = .ok nanos := by
  obtain ⟨before, after, htext, hbefore, hafter⟩ := exists_blanks_around_trim text.toList
  unfold parseRustScenarioBenchmarkDuration at h
  dsimp only at h
  split at h
  · cases h
  split at h
  · cases h
  split at h
  · cases h
  rename_i hamount
  split at h
  · cases h
  rename_i nanosPerUnit hunit
  cases hparsed : parseDecimalDurationNanos ((trim text.toList).takeWhile isAmountChar)
      nanosPerUnit with
  | error error =>
      rw [hparsed] at h
      cases h
  | ok value =>
      rw [hparsed] at h
      dsimp only [bind, Except.bind] at h
      split at h
      · rename_i hsmall
        obtain rfl := Except.ok.inj h
        refine ⟨hsmall, before, _, _, after, nanosPerUnit, ?_, hbefore, hafter, hamount, hunit,
          hparsed⟩
        rwa [List.takeWhile_append_dropWhile]
      · cases h

/-- A text that is read stands for the number it is read as, and for no other. -/
theorem denotes_iff_of_parse {text : String} {nanos : Duration}
    (h : parseRustScenarioBenchmarkDuration text = .ok nanos) (value : ℚ) :
    Denotes text.toList value ↔ value = nanos := by
  constructor
  · rintro ⟨before, amount, unit, after, hdenotes⟩
    obtain ⟨number, factor, hnumber, hfactor, rfl⟩ := hdenotes.value
    obtain ⟨nanosPerUnit, hunit, rfl⟩ := hfactor.nanosPerUnit?
    obtain ⟨hunitNe, hhead, hlast⟩ := (unitDenotes_of_nanosPerUnit? hunit).edges
    rw [parse_amount_unit hdenotes.text hdenotes.before hdenotes.after hnumber.ne_nil
      hnumber.isAmountChar hunit hunitNe hhead hlast] at h
    cases hparsed : parseDecimalDurationNanos amount nanosPerUnit with
    | error error =>
        rw [hparsed] at h
        cases h
    | ok parsed =>
        rw [hparsed] at h
        dsimp only [Except.bind] at h
        split at h
        · obtain rfl := Except.ok.inj h
          obtain ⟨other, hother, hvalue⟩ :=
            parseDecimalDurationNanos_eq_ok hnumber.ne_nil hparsed
          rw [hvalue, hnumber.eq_amountValue, hother.eq_amountValue]
        · cases h
  · rintro rfl
    obtain ⟨-, before, amount, unit, after, nanosPerUnit, htext, hbefore, hafter, hne, hunit,
      hparsed⟩ := exists_amount_unit h
    obtain ⟨number, hnumber, hvalue⟩ := parseDecimalDurationNanos_eq_ok hne hparsed
    exact ⟨before, amount, unit, after, htext, hbefore, hafter, number, nanosPerUnit, hnumber,
      unitDenotes_of_nanosPerUnit? hunit, hvalue⟩

/-! ## The debug format

The format of the standard library, as it is documented: the largest unit with a whole
part, and the digits of the fraction without the zeros at its end. -/

/-- The digits of a fraction, until nothing is left of it or the buffer is full. -/
def fractionDigits : ℕ → ℕ → ℕ → List Char
  | 0, _, _ => []
  | room + 1, fractionalPart, divisor =>
      if fractionalPart = 0 then []
      else
        Nat.digitChar (fractionalPart / divisor) ::
          fractionDigits room (fractionalPart % divisor) (divisor / 10)

/-- A decimal number as the standard library writes it when no precision is asked for. -/
def fmtDecimal (integerPart fractionalPart divisor : ℕ) (suffix : String) : String :=
  let digits := fractionDigits 9 fractionalPart divisor
  toString integerPart ++ (if digits = [] then "" else "." ++ String.ofList digits) ++ suffix

/-- The debug format of a duration. -/
def debugDuration (duration : Duration) : String :=
  let secs := duration / 1000000000
  let nanos := duration % 1000000000
  if 0 < secs then fmtDecimal secs nanos 100000000 "s"
  else if 1000000 ≤ nanos then fmtDecimal (nanos / 1000000) (nanos % 1000000) 100000 "ms"
  else if 1000 ≤ nanos then fmtDecimal (nanos / 1000) (nanos % 1000) 100 "\u00b5s"
  else fmtDecimal nanos 0 1 "ns"

/-- How a contract shows a duration. -/
def displayDuration (duration : Duration) : String := debugDuration duration

example : displayDuration 1200000 = "1.2ms" ∧ displayDuration 75 = "75ns" := by decide

/-- The digits stand for the fraction, with the zeros at their end left out. -/
structure FractionOf (places fractionalPart : ℕ) (digits : List Char) : Prop where
  isDigits : IsDigits digits
  length : digits.length ≤ places
  value : Nat.ofDigitChars 10 digits 0 * 10 ^ (places - digits.length) = fractionalPart

theorem fractionOf_fractionDigits {places : ℕ} : ∀ {room fractionalPart : ℕ}, places ≤ room →
    fractionalPart < 10 ^ places →
    FractionOf places fractionalPart (fractionDigits room fractionalPart (10 ^ places / 10)) := by
  have hnil : ∀ places, FractionOf places 0 [] := by
    intro places
    refine ⟨fun c hc => absurd hc List.not_mem_nil, Nat.zero_le _, ?_⟩
    rw [Nat.ofDigitChars_nil, Nat.zero_mul]
  induction places with
  | zero =>
      intro room fractionalPart _ hsmall
      obtain rfl : fractionalPart = 0 := by omega
      cases room with
      | zero => exact hnil 0
      | succ room => exact hnil 0
  | succ places ih =>
      intro room fractionalPart hroom hsmall
      obtain ⟨room, rfl⟩ : ∃ smaller, room = smaller + 1 := ⟨room - 1, by omega⟩
      by_cases hzero : fractionalPart = 0
      · rw [hzero, fractionDigits, if_pos rfl]
        exact hnil _
      · have hpos : 0 < 10 ^ places := by positivity
        have hdivisor : 10 ^ (places + 1) / 10 = 10 ^ places := by
          rw [pow_succ, Nat.mul_div_cancel _ (by decide)]
        have hdigit : fractionalPart / 10 ^ places < 10 := by
          rw [Nat.div_lt_iff_lt_mul hpos, mul_comm, ← pow_succ]
          exact hsmall
        obtain ⟨hdigits, hlength, hvalue⟩ :=
          ih (Nat.le_of_succ_le_succ hroom) (Nat.mod_lt fractionalPart hpos)
        rw [fractionDigits, if_neg hzero, hdivisor]
        refine ⟨?_, by rw [List.length_cons]; omega, ?_⟩
        · intro c hc
          obtain rfl | hc := List.mem_cons.mp hc
          · rw [Nat.isDigit_digitChar, decide_eq_true hdigit]
          · exact hdigits c hc
        · -- the first digit weighs as much as all the places behind it
          rw [Nat.ofDigitChars_cons_digitChar_of_lt_ten hdigit,
            Nat.ofDigitChars_eq_ofDigitChars_zero, List.length_cons, Nat.add_sub_add_right,
            Nat.add_mul, hvalue, mul_zero, zero_add, mul_right_comm, ← pow_add,
            Nat.add_sub_cancel' hlength]
          exact Nat.div_add_mod fractionalPart (10 ^ places)

/-! ## Reading a shown duration

A shown duration is split at its unit, and the fraction that was written is exact, since
a nanosecond has at most nine digits after the point of any unit. -/

theorem isDigits_toDigits (n : ℕ) : IsDigits (Nat.toDigits 10 n) :=
  fun _ hc => Nat.isDigit_of_mem_toDigits (by decide) (by decide) hc

theorem checked_of_lt {value : ℕ} (h : value < 2 ^ 128) : checked value = some value := if_pos h

theorem wholeNanos_toDigits {n nanosPerUnit : ℕ} (amount : List Char) (hpos : 0 < nanosPerUnit)
    (hsmall : n * nanosPerUnit < 2 ^ 128) :
    wholeNanos amount (Nat.toDigits 10 n) nanosPerUnit = .ok (n * nanosPerUnit) := by
  have hle : n ≤ n * nanosPerUnit := Nat.le_mul_of_pos_right n hpos
  rw [wholeNanos, if_neg Nat.toDigits_ne_nil, parseU128_toDigits, checked_of_lt (by omega)]
  simp only [checked_of_lt hsmall]

/-- The fraction of a whole number of nanoseconds is added exactly. -/
theorem addFractionNanos_of_fractionOf {amount digits : List Char}
    {places fractionalPart nanos : ℕ} (h : FractionOf places fractionalPart digits)
    (hne : digits ≠ []) (hplaces : places ≤ 9) (hfraction : fractionalPart < 10 ^ places)
    (hsmall : nanos + fractionalPart < 2 ^ 128) :
    addFractionNanos amount digits (10 ^ places) nanos = .ok (nanos + fractionalPart) := by
  have hplacesPow : 10 ^ places ≤ 10 ^ 9 := Nat.pow_le_pow_right (by decide) hplaces
  have hlengthPow : 10 ^ digits.length ≤ 10 ^ 9 :=
    Nat.pow_le_pow_right (by decide) (h.length.trans hplaces)
  -- the digits weigh as much as the fraction, in units of their last place
  have hexact : Nat.ofDigitChars 10 digits 0 * 10 ^ places =
      fractionalPart * 10 ^ digits.length := by
    rw [← h.value, mul_assoc, ← pow_add, Nat.sub_add_cancel h.length]
  have hunits : Nat.ofDigitChars 10 digits 0 ≤ fractionalPart := by
    rw [← h.value]
    exact Nat.le_mul_of_pos_right _ (by positivity)
  have hscale : 0 < 10 ^ digits.length := by positivity
  have hproduct : fractionalPart * 10 ^ digits.length ≤ 10 ^ 9 * 10 ^ 9 :=
    Nat.mul_le_mul (hfraction.le.trans hplacesPow) hlengthPow
  have hparsed : parseU128 digits = some (Nat.ofDigitChars 10 digits 0) := by
    rw [parseU128, if_pos ⟨hne, List.all_eq_true.mpr h.isDigits⟩, checked_of_lt (by omega)]
  have hdigits : ¬ (digits = [] ∨ ¬ digits.all Char.isDigit = true) := by
    rw [not_or, not_not]
    exact ⟨hne, List.all_eq_true.mpr h.isDigits⟩
  rw [addFractionNanos, if_neg hdigits, checked_of_lt (by omega)]
  simp only [hparsed, hexact]
  rw [checked_of_lt (by omega)]
  simp only [Nat.mul_mod_left, ne_eq, not_true_eq_false, if_false,
    Nat.mul_div_cancel fractionalPart hscale, checked_of_lt hsmall]

/-- An amount and a unit with nothing around them are read as that amount. -/
theorem parse_plain {text : String} {amount unit : List Char} {number : ℚ} {nanosPerUnit : ℕ}
    (htext : text.toList = amount ++ unit) (hnumber : AmountDenotes amount number)
    (hunit : nanosPerUnit? unit = some nanosPerUnit) :
    parseRustScenarioBenchmarkDuration text =
      (parseDecimalDurationNanos amount nanosPerUnit).bind fun nanos =>
        if nanos < 2 ^ 64 then .ok nanos else .error .outOfRange := by
  have hblank : ∀ c ∈ ([] : List Char), isWhitespace c = true :=
    fun c hc => absurd hc List.not_mem_nil
  obtain ⟨hunitNe, hhead, hlast⟩ := (unitDenotes_of_nanosPerUnit? hunit).edges
  refine parse_amount_unit ?_ hblank hblank hnumber.ne_nil hnumber.isAmountChar hunit hunitNe hhead
    hlast
  rw [htext, List.nil_append, List.append_nil]

/-- A decimal number of a unit is read back. -/
theorem parse_fmtDecimal {integerPart fractionalPart places : ℕ} {unit : String}
    (hunit : nanosPerUnit? unit.toList = some (10 ^ places)) (hplaces : places ≤ 9)
    (hfraction : fractionalPart < 10 ^ places)
    (hsmall : integerPart * 10 ^ places + fractionalPart < 2 ^ 64) :
    parseRustScenarioBenchmarkDuration
        (fmtDecimal integerPart fractionalPart (10 ^ places / 10) unit) =
      .ok (integerPart * 10 ^ places + fractionalPart) := by
  have hpos : 0 < 10 ^ places := by positivity
  have hspec := fractionOf_fractionDigits hplaces hfraction
  have hwhole : ∀ amount, wholeNanos amount (Nat.toDigits 10 integerPart) (10 ^ places) =
      .ok (integerPart * 10 ^ places) := fun amount => wholeNanos_toDigits amount hpos (by omega)
  unfold fmtDecimal
  generalize fractionDigits 9 fractionalPart (10 ^ places / 10) = digits at hspec
  dsimp only
  by_cases hempty : digits = []
  · have hnumber := AmountDenotes.whole Nat.toDigits_ne_nil (isDigits_toDigits integerPart)
    have htext : (toString integerPart ++ (if digits = [] then "" else "." ++ String.ofList digits) ++
        unit).toList = Nat.toDigits 10 integerPart ++ unit.toList := by
      simp [hempty]
    have hzero : fractionalPart = 0 := by
      rw [← hspec.value, hempty, Nat.ofDigitChars_nil, Nat.zero_mul]
    have hsplit := splitOnce?_dot_of_isDigits (isDigits_toDigits integerPart)
    rw [parse_plain htext hnumber hunit,
      parseDecimalDurationNanos_whole _ hsplit Nat.toDigits_ne_nil, hwhole]
    subst hzero
    dsimp only [Except.bind]
    rw [Nat.add_zero] at hsmall ⊢
    rw [if_pos hsmall]
  · have hnumber := AmountDenotes.decimal (isDigits_toDigits integerPart) hempty hspec.isDigits
    have htext : (toString integerPart ++ (if digits = [] then "" else "." ++ String.ofList digits) ++
        unit).toList = (Nat.toDigits 10 integerPart ++ '.' :: digits) ++ unit.toList := by
      simp [hempty]
    have hsplit : splitOnce? '.' (Nat.toDigits 10 integerPart ++ '.' :: digits) =
        some (Nat.toDigits 10 integerPart, digits) :=
      splitOnce?_dot_append (isDigits_toDigits integerPart)
    rw [parse_plain htext hnumber hunit,
      parseDecimalDurationNanos_decimal _ hsplit (fun h => hempty h.2), hwhole]
    dsimp only [Except.bind]
    rw [addFractionNanos_of_fractionOf hspec hempty hplaces hfraction (by omega)]
    dsimp only
    rw [if_pos hsmall]

/-- A number of nanoseconds split into a whole number of a unit and a rest is read back. -/
theorem parse_fmtDecimal_split {nanos nanosPerUnit divisor places : ℕ} {unit : String}
    (hunit : nanosPerUnit? unit.toList = some nanosPerUnit) (hpow : 10 ^ places = nanosPerUnit)
    (hdivisor : nanosPerUnit / 10 = divisor) (hplaces : places ≤ 9) (hsmall : nanos < 2 ^ 64) :
    parseRustScenarioBenchmarkDuration
        (fmtDecimal (nanos / nanosPerUnit) (nanos % nanosPerUnit) divisor unit) =
      .ok nanos := by
  subst hpow hdivisor
  have hpos : 0 < 10 ^ places := by positivity
  have hsplit : nanos / 10 ^ places * 10 ^ places + nanos % 10 ^ places = nanos :=
    Nat.div_add_mod' nanos (10 ^ places)
  have hparse := parse_fmtDecimal hunit hplaces (Nat.mod_lt nanos hpos)
    (by rw [hsplit]; exact hsmall)
  rwa [hsplit] at hparse

/-- What a contract shows is read back. -/
theorem parse_displayDuration {nanos : ℕ} (hsmall : nanos < 2 ^ 64) :
    parseRustScenarioBenchmarkDuration (displayDuration nanos) = .ok nanos := by
  unfold displayDuration debugDuration
  dsimp only
  split
  · have hunit : nanosPerUnit? "s".toList = some 1000000000 := by decide
    have hpow : 10 ^ 9 = 1000000000 := by norm_num
    exact parse_fmtDecimal_split hunit hpow (by norm_num) (by decide) hsmall
  -- below a second nothing is left out by the remainder
  rename_i hbelow
  have hsecs : ¬ 0 < nanos / 1000000000 := hbelow
  have hrest : nanos % 1000000000 = nanos := by omega
  rw [hrest]
  split
  · have hunit : nanosPerUnit? "ms".toList = some 1000000 := by decide
    have hpow : 10 ^ 6 = 1000000 := by norm_num
    exact parse_fmtDecimal_split hunit hpow (by norm_num) (by decide) hsmall
  split
  · have hunit : nanosPerUnit? "\u00b5s".toList = some 1000 := by decide
    have hpow : 10 ^ 3 = 1000 := by norm_num
    exact parse_fmtDecimal_split hunit hpow (by norm_num) (by decide) hsmall
  · have hunit : nanosPerUnit? "ns".toList = some (10 ^ 0) := by decide
    have hparse : parseRustScenarioBenchmarkDuration (fmtDecimal nanos 0 (10 ^ 0 / 10) "ns") =
        .ok (nanos * 10 ^ 0 + 0) := parse_fmtDecimal hunit (by decide) (by decide) (by omega)
    rw [pow_zero, Nat.mul_one] at hparse
    exact hparse

/-- **The duration grammar.**  A text that is read as a number of nanoseconds stands for
exactly that number, which has 64 bits.  Every number of 64 bits is read back from the text
that a contract shows for it and from the text that the runner writes for it. -/
theorem duration_grammar :
    (∀ (text : String) (nanos : Duration),
      parseRustScenarioBenchmarkDuration text = .ok nanos →
        nanos < 2 ^ 64 ∧ ∀ value : ℚ, Denotes text.toList value ↔ value = nanos) ∧
    ∀ nanos : U64,
      parseRustScenarioBenchmarkDuration (displayDuration nanos) = .ok (nanos : ℕ) ∧
        parseRustScenarioBenchmarkDuration (formatDuration nanos) = .ok (nanos : ℕ) := by
  refine ⟨?_, ?_⟩
  · intro text nanos h
    exact ⟨(exists_amount_unit h).1, denotes_iff_of_parse h⟩
  · intro nanos
    refine ⟨parse_displayDuration nanos.isLt, ?_⟩
    have hformat := parse_formatDuration nanos
    rw [if_pos nanos.isLt] at hformat
    cases hparsed : parseRustScenarioBenchmarkDuration (formatDuration nanos) with
    | error error =>
        rw [hparsed] at hformat
        cases hformat
    | ok parsed =>
        rw [hparsed] at hformat
        rw [Option.some.inj hformat]

end AspRust.Scenario
