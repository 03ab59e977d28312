import AspRust.Scenario.Contract
import Mathlib.Data.List.TakeWhile

/-!
# Durations as text

The runner writes a duration as a whole number of milliseconds, microseconds or
nanoseconds, and the contract reads it back, as long as it has fewer than `2 ^ 64`
nanoseconds.  A longer one is refused.
-/

namespace AspRust.Scenario

open AspRust.Foundation

theorem trim_eq_self {text : List Char} (hfirst : ∀ c ∈ text.head?, isWhitespace c = false)
    (hlast : ∀ c ∈ text.getLast?, isWhitespace c = false) : trim text = text := by
  have hfront : text.dropWhile isWhitespace = text := by
    cases text with
    | nil => rfl
    | cons c rest => rw [List.dropWhile_cons_of_neg (by simp [hfirst c rfl])]
  have hback : text.reverse.dropWhile isWhitespace = text.reverse := by
    rw [← List.head?_reverse] at hlast
    cases hreverse : text.reverse with
    | nil => rfl
    | cons c rest =>
        rw [hreverse] at hlast
        rw [List.dropWhile_cons_of_neg (by simp [hlast c rfl])]
  rw [trim, hfront, hback, List.reverse_reverse]

theorem not_isWhitespace_of_isAmountChar {c : Char} (h : isAmountChar c = true) :
    isWhitespace c = false := by
  obtain hdigit | hdot := Bool.or_eq_true_iff.mp h
  · exact not_isWhitespace_of_isDigit hdigit
  · obtain rfl := of_decide_eq_true hdot
    rfl

/-- Blanks around a text are trimmed. -/
theorem trim_append_blanks {before text after : List Char}
    (hbefore : ∀ c ∈ before, isWhitespace c = true) (hafter : ∀ c ∈ after, isWhitespace c = true)
    (hne : text ≠ []) (hfirst : ∀ c ∈ text.head?, isWhitespace c = false)
    (hlast : ∀ c ∈ text.getLast?, isWhitespace c = false) :
    trim (before ++ text ++ after) = text := by
  have hback : ∀ c ∈ after.reverse, isWhitespace c = true :=
    fun c hc => hafter c (List.mem_reverse.mp hc)
  have hfront : (before ++ text ++ after).dropWhile isWhitespace = text ++ after := by
    rw [List.append_assoc, List.dropWhile_append_of_pos hbefore]
    obtain ⟨c, rest, rfl⟩ := List.exists_cons_of_ne_nil hne
    rw [List.cons_append, List.dropWhile_cons_of_neg (by simp [hfirst c rfl])]
  have htrimmed := trim_eq_self hfirst hlast
  unfold trim at htrimmed ⊢
  rw [hfront, List.reverse_append, List.dropWhile_append_of_pos hback]
  obtain ⟨c, rest, rfl⟩ := List.exists_cons_of_ne_nil hne
  rwa [List.dropWhile_cons_of_neg (by simp [hfirst c rfl])] at htrimmed

theorem parseU128_toDigits (n : ℕ) : parseU128 (Nat.toDigits 10 n) = checked n := by
  have hdigits : ∀ c ∈ Nat.toDigits 10 n, c.isDigit = true :=
    fun c hc => Nat.isDigit_of_mem_toDigits (by decide) (by decide) hc
  rw [parseU128, if_pos ⟨Nat.toDigits_ne_nil, List.all_eq_true.mpr hdigits⟩,
    Nat.ofDigitChars_toDigits (by decide) (by decide)]

/-- A whole amount is read as its nanoseconds, if they fit. -/
theorem parseDecimalDurationNanos_toDigits (n nanosPerUnit : ℕ) :
    (parseDecimalDurationNanos (Nat.toDigits 10 n) nanosPerUnit).toOption =
      (checked n).bind fun value => checked (value * nanosPerUnit) := by
  have hdot : '.' ∉ Nat.toDigits 10 n := by
    intro hmem
    have hdigit : ('.' : Char).isDigit = true :=
      Nat.isDigit_of_mem_toDigits (by decide) (by decide) hmem
    cases hdigit
  have hsplit : splitOnce? '.' (Nat.toDigits 10 n) = none := if_neg hdot
  rw [parseDecimalDurationNanos, hsplit]
  simp only [Nat.toDigits_ne_nil, false_and, if_false, wholeNanos, parseU128_toDigits]
  cases checked n with
  | none => rfl
  | some value =>
      simp only [Option.bind_some]
      cases checked (value * nanosPerUnit) <;> rfl

theorem checked_bind_mul (n : ℕ) {nanosPerUnit : ℕ} (hpositive : 0 < nanosPerUnit) :
    ((checked n).bind fun value => checked (value * nanosPerUnit)) =
      checked (n * nanosPerUnit) := by
  by_cases hsmall : n < 2 ^ 128
  · rw [checked, if_pos hsmall, Option.bind_some]
  · have hlarge : ¬ n * nanosPerUnit < 2 ^ 128 := by
      have hle : n ≤ n * nanosPerUnit := Nat.le_mul_of_pos_right n hpositive
      omega
    rw [checked, if_neg hsmall, checked, if_neg hlarge, Option.bind_none]

/-- A text of an amount and a unit between blanks is read as that amount. -/
theorem parse_amount_unit {text : String} {before amount unit after : List Char}
    {nanosPerUnit : ℕ} (htext : text.toList = before ++ (amount ++ unit) ++ after)
    (hbefore : ∀ c ∈ before, isWhitespace c = true) (hafter : ∀ c ∈ after, isWhitespace c = true)
    (hne : amount ≠ []) (hamount : ∀ c ∈ amount, isAmountChar c = true)
    (hunit : nanosPerUnit? unit = some nanosPerUnit) (hunitNe : unit ≠ [])
    (hhead : ∀ c ∈ unit.head?, isAmountChar c = false)
    (hlast : ∀ c ∈ unit.getLast?, isWhitespace c = false) :
    parseRustScenarioBenchmarkDuration text =
      (parseDecimalDurationNanos amount nanosPerUnit).bind fun nanos =>
        if nanos < 2 ^ 64 then .ok nanos else .error .outOfRange := by
  have hcore : amount ++ unit ≠ [] := by simp [hne]
  have htrim : trim (before ++ (amount ++ unit) ++ after) = amount ++ unit := by
    refine trim_append_blanks hbefore hafter hcore ?_ ?_
    · rw [List.head?_append_of_ne_nil _ hne]
      exact fun c hc =>
        not_isWhitespace_of_isAmountChar (hamount c (List.mem_of_mem_head? hc))
    · rw [List.getLast?_append_of_ne_nil _ hunitNe]
      exact hlast
  obtain ⟨c, rest, rfl⟩ := List.exists_cons_of_ne_nil hunitNe
  have hstop : ¬ isAmountChar c = true := by simp [hhead c rfl]
  have htake : (amount ++ c :: rest).takeWhile isAmountChar = amount := by
    rw [List.takeWhile_append_of_pos hamount, List.takeWhile_cons_of_neg hstop, List.append_nil]
  have hdrop : (amount ++ c :: rest).dropWhile isAmountChar = c :: rest := by
    rw [List.dropWhile_append_of_pos hamount, List.dropWhile_cons_of_neg hstop]
  rw [parseRustScenarioBenchmarkDuration, htext, htrim, htake, hdrop]
  simp only [hcore, hne, List.cons_ne_nil, if_false, hunit]
  rfl

/-- A whole number of a unit is read as its nanoseconds, if they fit. -/
theorem parse_amount (n : ℕ) {unit : String} {nanosPerUnit : ℕ}
    (hunit : nanosPerUnit? unit.toList = some nanosPerUnit) (hpositive : 0 < nanosPerUnit)
    (hfirst : unit.toList.head?.any isAmountChar = false)
    (hlast : unit.toList.getLast?.any isWhitespace = false) (hne : unit.toList ≠ []) :
    (parseRustScenarioBenchmarkDuration (toString n ++ unit)).toOption =
      if n * nanosPerUnit < 2 ^ 64 then some (n * nanosPerUnit) else none := by
  have hamounts : ∀ c ∈ Nat.toDigits 10 n, isAmountChar c = true := by
    intro c hc
    have hdigit : c.isDigit = true := Nat.isDigit_of_mem_toDigits (by decide) (by decide) hc
    simp [isAmountChar, hdigit]
  have htext : (toString n ++ unit).toList = [] ++ (Nat.toDigits 10 n ++ unit.toList) ++ [] := by
    rw [String.toList_append, Nat.toString_eq_ofList_toDigits, String.toList_ofList,
      List.nil_append, List.append_nil]
  have hblank : ∀ c ∈ ([] : List Char), isWhitespace c = true :=
    fun c hc => absurd hc List.not_mem_nil
  rw [parse_amount_unit htext hblank hblank Nat.toDigits_ne_nil hamounts hunit hne
    ((Option.any_eq_false isAmountChar _).mp hfirst) ((Option.any_eq_false isWhitespace _).mp hlast)]
  have hparsed := parseDecimalDurationNanos_toDigits n nanosPerUnit
  rw [checked_bind_mul n hpositive, checked] at hparsed
  cases hnanos : parseDecimalDurationNanos (Nat.toDigits 10 n) nanosPerUnit with
  | error error =>
      have hlarge : ¬ n * nanosPerUnit < 2 ^ 128 := by
        intro hsmall
        rw [hnanos, if_pos hsmall] at hparsed
        cases hparsed
      rw [if_neg (by omega)]
      rfl
  | ok nanos =>
      rw [hnanos] at hparsed
      split at hparsed
      · obtain rfl : nanos = n * nanosPerUnit := Option.some.inj hparsed
        change (if n * nanosPerUnit < 2 ^ 64 then Except.ok (n * nanosPerUnit)
          else Except.error DurationError.outOfRange : Except DurationError Duration).toOption = _
        split <;> rfl
      · cases hparsed

/-- **A duration is read back from its text** if it has fewer than `2 ^ 64` nanoseconds, and
refused otherwise. -/
theorem parse_formatDuration (duration : Duration) :
    (parseRustScenarioBenchmarkDuration (formatDuration duration)).toOption =
      if duration < 2 ^ 64 then some duration else none := by
  unfold formatDuration
  by_cases hmillis : 1000000 ≤ duration ∧ duration % 1000000 = 0
  · have hunit : nanosPerUnit? "ms".toList = some 1000000 := by decide
    have hparse := parse_amount (duration / 1000000) hunit (by decide) (by decide) (by decide)
      (by decide)
    rw [if_pos hmillis, hparse, Nat.div_mul_cancel (Nat.dvd_of_mod_eq_zero hmillis.2)]
  · rw [if_neg hmillis]
    by_cases hmicros : 1000 ≤ duration ∧ duration % 1000 = 0
    · have hunit : nanosPerUnit? "us".toList = some 1000 := by decide
      have hparse := parse_amount (duration / 1000) hunit (by decide) (by decide) (by decide)
        (by decide)
      rw [if_pos hmicros, hparse, Nat.div_mul_cancel (Nat.dvd_of_mod_eq_zero hmicros.2)]
    · have hunit : nanosPerUnit? "ns".toList = some 1 := by decide
      have hparse := parse_amount duration hunit (by decide) (by decide) (by decide) (by decide)
      rw [if_neg hmicros, hparse, Nat.mul_one]

end AspRust.Scenario
