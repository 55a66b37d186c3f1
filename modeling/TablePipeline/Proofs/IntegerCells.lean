import Mathlib
import TablePipeline.Column.Type
import TablePipeline.Proofs.DecimalTexts

/-!
Cells of integers that are decimal numerals. An integer numeral is read exactly. Every other numeral
is rounded to the nearest number first, and only then is it asked whether it is an integer: the cell
is exact where the rational that is written is a number itself, and otherwise it may hold the
integer nearest to it among the numbers. With fifteen digits and no exponent that never happens.
-/
namespace TablePipeline

open Text Numeral Binary64

namespace Numeral.DecimalText

/-- An integer numeral that is not too long to be read as one. -/
def Short (N : DecimalText) : Prop := N.Plain ∧ N.whole.length ≤ maxDigits

theorem isMissing_text (N : DecimalText) : ColumnType.isMissing (.text N.text) = false := by
  obtain ⟨c, cs, hbody, -⟩ := N.asciiBody_head
  have hsome : N.body ≠ [] := fun hnil => by simp [asciiBody, hnil] at hbody
  simpa [ColumnType.isMissing, text, N.trim_chars] using fun _ => hsome

theorem parse_int_short {N : DecimalText} (h : N.Short) :
    ∃ i : ℤ, ColumnType.int.parse (.text N.text) = .ok (.int i) ∧ (i : ℚ) = N.value := by
  obtain ⟨i, hread, hvalue⟩ := readInt_plain h.1 h.2
  refine ⟨i, ?_, hvalue⟩
  simp only [ColumnType.parse, ColumnType.toInt, N.isMissing_text, ColumnType.integerOfText, hread,
    Bool.false_eq_true, if_false]

/-- Every other numeral is rounded, and the cell holds what the number is if that is an integer. -/
theorem parse_int_rounded {N : DecimalText} (h : ¬N.Short) :
    ∃ x : Binary64, Rounded (isMinus N.sign) N.magnitude x ∧ ∀ v,
      ColumnType.int.parse (.text N.text) = .ok v ↔ ∃ i : ℤ, v = .int i ∧ x.rational? = some (i : ℚ) := by
  obtain ⟨x, hread, hrounded⟩ := readFloat?_text N
  refine ⟨x, hrounded, fun v => ?_⟩
  have hparse : ColumnType.int.parse (.text N.text) =
      x.toInt?.elim (ColumnType.refuse (.text N.text) "int") fun i => .ok (.int i) := by
    simp only [ColumnType.parse, ColumnType.toInt, N.isMissing_text, ColumnType.integerOfText, hread,
      Bool.false_eq_true, if_false]
    split
    · next i hvalue => exact absurd hvalue (readInt_not_plain h i)
    · cases x.toInt? <;> rfl
  have hrefuse : ∀ w type, ColumnType.refuse w type ≠ .ok v := by
    intro w type hrefused
    unfold ColumnType.refuse at hrefused
    cases hwritten : w.writtenLiteral <;> rw [hwritten] at hrefused <;> cases hrefused
  rw [hparse]
  simp only [← toInt?_eq_some_iff]
  cases x.toInt? with
  | none => simp [hrefuse]
  | some i =>
    constructor
    · rintro h
      exact ⟨i, (Except.ok.inj h).symm, rfl⟩
    · rintro ⟨j, rfl, hj⟩
      rw [Option.some.inj hj]
      rfl

/-- A cell that is not empty holds the integer that is written or the nearest number. -/
theorem nearest_of_parse_int {N : DecimalText} {v : Value}
    (h : ColumnType.int.parse (.text N.text) = .ok v) :
    ∃ i : ℤ, v = .int i ∧ ((i : ℚ) = N.value ∨ Nearest i N.value) := by
  by_cases hshort : N.Short
  · obtain ⟨i, hparse, hi⟩ := parse_int_short hshort
    exact ⟨i, Except.ok.inj (h.symm.trans hparse), .inl hi⟩
  · obtain ⟨x, hrounded, hparse⟩ := parse_int_rounded hshort
    obtain ⟨i, rfl, hi⟩ := (hparse v).1 h
    exact ⟨i, rfl, .inr (hrounded.nearest N.magnitude_nonneg hi)⟩

/-- Where a number is written, the cell holds it if it is an integer and is refused otherwise. -/
theorem parse_int_representable {N : DecimalText} (hrep : Representable N.value) (v : Value) :
    ColumnType.int.parse (.text N.text) = .ok v ↔ ∃ i : ℤ, v = .int i ∧ (i : ℚ) = N.value := by
  by_cases hshort : N.Short
  · obtain ⟨i, hparse, hi⟩ := parse_int_short hshort
    rw [hparse, Except.ok.injEq]
    constructor
    · rintro rfl
      exact ⟨i, rfl, hi⟩
    · rintro ⟨j, rfl, hj⟩
      rw [Int.cast_injective (hi.trans hj.symm)]
  · obtain ⟨x, hrounded, hparse⟩ := parse_int_rounded hshort
    have hmagnitude : Representable N.magnitude := by
      rw [← withSign_withSign (isMinus N.sign) N.magnitude]
      exact hrep.withSign _
    have hexact := hrounded.of_representable N.magnitude_nonneg hmagnitude
    rw [hparse v, hexact]
    simp only [Option.some.injEq, value, eq_comm]

/-- Without an exponent a numeral counts units of its last place. -/
theorem exists_units {N : DecimalText} (hexponent : N.exponent = none) :
    ∃ f ≤ N.digits.length, N.magnitude * 10 ^ f = Calendar.numberOf N.digits := by
  refine ⟨(N.fraction.getD []).length, by simp [digits], ?_⟩
  have hplace : N.place = -((N.fraction.getD []).length : ℤ) := by simp [place, hexponent]
  have hten : (0 : ℚ) < 10 ^ (N.fraction.getD []).length := by positivity
  rw [magnitude, hplace, zpow_neg, zpow_natCast, inv_mul_cancel_right₀ hten.ne']

theorem numberOf_digits_lt (N : DecimalText) : Calendar.numberOf N.digits < 10 ^ N.digits.length := by
  have hlt := natOfDigits_lt N.digits_only.asciiForm
  rwa [natOfDigits_asciiForm N.digits_only, List.length_map] at hlt

/-- Rounding moves fifteen digits by less than a unit of their last place. -/
theorem abs_sub_lt_unit {N : DecimalText} {x : Binary64} {v : ℚ} {f : ℕ}
    (hrounded : Rounded (isMinus N.sign) N.magnitude x) (hv : x.rational? = some v)
    (hdigits : N.digits.length ≤ 15) (hf : f ≤ 15)
    (hunits : N.magnitude * 10 ^ f = Calendar.numberOf N.digits) :
    |v - N.value| * 10 ^ f < 1 := by
  have hten : (0 : ℚ) < 10 ^ f := by positivity
  have hten_le : (10 : ℚ) ^ f ≤ 10 ^ 15 := pow_le_pow_right₀ (by norm_num) hf
  have hcount : (Calendar.numberOf N.digits : ℚ) < 2 ^ 53 := by
    have hless := N.numberOf_digits_lt.trans_le (Nat.pow_le_pow_right (by norm_num) hdigits)
    exact_mod_cast hless.trans (by norm_num)
  rcases hrounded.abs_sub_le hv with hle | hle
  · have hscaled : |v - N.value| * 10 ^ f * 2 ^ 53 ≤ Calendar.numberOf N.digits := by
      rw [← hunits, mul_right_comm]
      exact mul_le_mul_of_nonneg_right hle hten.le
    exact lt_of_mul_lt_mul_right ((hscaled.trans_lt hcount).trans_eq (one_mul _).symm) (by positivity)
  · have hpow : (2 : ℚ) ^ minExponent ≤ 2 ^ (-60 : ℤ) :=
      zpow_le_zpow_right₀ (by norm_num) (by decide)
    calc |v - N.value| * 10 ^ f ≤ 2 ^ (-60 : ℤ) / 2 * 10 ^ 15 :=
          mul_le_mul (hle.trans (div_le_div_of_nonneg_right hpow two_pos.le)) hten_le hten.le (by positivity)
      _ < 1 := by norm_num

/-- So many digits without an exponent are never mistaken for an integer: in units of the last place
rounding would have to move them by an integer, and moves them by less than one. -/
theorem parse_int_few_digits {N : DecimalText} (hexponent : N.exponent = none)
    (hdigits : N.digits.length ≤ 15) {v : Value}
    (h : ColumnType.int.parse (.text N.text) = .ok v) : ∃ i : ℤ, v = .int i ∧ (i : ℚ) = N.value := by
  by_cases hshort : N.Short
  · obtain ⟨i, hparse, hi⟩ := parse_int_short hshort
    exact ⟨i, Except.ok.inj (h.symm.trans hparse), hi⟩
  · obtain ⟨x, hrounded, hparse⟩ := parse_int_rounded hshort
    obtain ⟨i, rfl, hi⟩ := (hparse v).1 h
    refine ⟨i, rfl, ?_⟩
    obtain ⟨f, hf, hunits⟩ := exists_units hexponent
    have hten : (0 : ℚ) < 10 ^ f := by positivity
    obtain ⟨d, hd⟩ : ∃ d : ℤ, (i - N.value) * 10 ^ f = d := by
      refine ⟨i * 10 ^ f - (if isMinus N.sign then -1 else 1) * Calendar.numberOf N.digits, ?_⟩
      rw [sub_mul, value, withSign]
      push_cast
      rw [← hunits]
      split_ifs <;> ring
    have hsmall : |(d : ℚ)| < 1 := by
      rw [← hd, abs_mul, abs_of_pos hten]
      exact abs_sub_lt_unit hrounded hi hdigits (hf.trans hdigits) hunits
    have hzero : d = 0 := by
      rw [← Int.cast_abs] at hsmall
      exact Int.abs_lt_one_iff.1 (by exact_mod_cast hsmall)
    rw [hzero, Int.cast_zero, mul_eq_zero] at hd
    exact sub_eq_zero.1 (hd.resolve_right hten.ne')

/-- A cell of integers never holds anything but the integer that is written or the number nearest to
it. It holds what is written where that is an integer numeral of so many digits at most, and is exact
also where a number is written, or few digits without an exponent. -/
theorem parse_int_text (N : DecimalText) :
    (N.Plain → N.whole.length ≤ maxDigits → ∃ i : ℤ,
      ColumnType.int.parse (.text N.text) = .ok (.int i) ∧ (i : ℚ) = N.value) ∧
    (∀ v, ColumnType.int.parse (.text N.text) = .ok v → ∃ i : ℤ, v = .int i ∧
      ((i : ℚ) = N.value ∨ Nearest i N.value ∧ ¬Representable N.value)) ∧
    (Representable N.value ∨ N.exponent = none ∧ N.digits.length ≤ 15 → ∀ v,
      ColumnType.int.parse (.text N.text) = .ok v → ∃ i : ℤ, v = .int i ∧ (i : ℚ) = N.value) ∧
    (∀ i : ℤ, (i : ℚ) = N.value → Representable N.value →
      ColumnType.int.parse (.text N.text) = .ok (.int i)) := by
  refine ⟨fun hplain hlength => parse_int_short ⟨hplain, hlength⟩, fun v h => ?_, ?_, ?_⟩
  · by_cases hrep : Representable N.value
    · obtain ⟨i, hv, hi⟩ := (parse_int_representable hrep v).1 h
      exact ⟨i, hv, .inl hi⟩
    · obtain ⟨i, hv, hi⟩ := nearest_of_parse_int h
      exact ⟨i, hv, hi.imp_right fun hnearest => ⟨hnearest, hrep⟩⟩
  · rintro (hrep | ⟨hexponent, hdigits⟩) v h
    · exact (parse_int_representable hrep v).1 h
    · exact parse_int_few_digits hexponent hdigits h
  · intro i hi hrep
    exact (parse_int_representable hrep (.int i)).2 ⟨i, rfl, hi⟩

/-- A numeral of ASCII digits without an exponent. -/
def ofDigits (whole : List Char) (fraction : Option (List Char))
    (hwhole : Digits whole) (hfraction : Digits (fraction.getD []))
    (hsome : whole ++ fraction.getD [] ≠ []) : DecimalText :=
  ⟨[], none, whole, fraction, none, [], by simp, by simp, hwhole, hfraction, hsome⟩

def twelve : DecimalText :=
  ofDigits "12".toList none (by simp [Digits, digitValue?]) (by simp [Digits]) (by simp)

/-- The numeral `4503599627370497.5`, halfway between two numbers. -/
def halfway : DecimalText :=
  ofDigits "4503599627370497".toList (some ['5']) (by simp [Digits, digitValue?])
    (by simp [Digits, digitValue?]) (by simp)

theorem value_twelve : twelve.value = (12 : ℤ) := by
  have hdigits : Calendar.numberOf twelve.digits = 12 := by rfl
  have hplace : twelve.place = 0 := by rfl
  rw [value, magnitude, hdigits, hplace]
  norm_num [twelve, ofDigits, isMinus, withSign]

theorem value_halfway : halfway.value = 45035996273704975 / 10 := by
  have hdigits : Calendar.numberOf halfway.digits = 45035996273704975 := by rfl
  have hplace : halfway.place = -1 := by rfl
  rw [value, magnitude, hdigits, hplace]
  norm_num [halfway, ofDigits, isMinus, withSign]

theorem parse_int_twelve :
    (∃ i : ℤ, ColumnType.int.parse (.text twelve.text) = .ok (.int i) ∧ (i : ℚ) = twelve.value) ∧
    (∃ i : ℤ, (.int 4503599627370498 : Value) = .int i ∧
      ((i : ℚ) = halfway.value ∨ Nearest i halfway.value ∧ ¬Representable halfway.value)) ∧
    (∃ i : ℤ, (.int 12 : Value) = .int i ∧ (i : ℚ) = twelve.value) ∧
    ColumnType.int.parse (.text twelve.text) = .ok (.int 12) :=
  ⟨(parse_int_text twelve).1 ⟨rfl, rfl⟩ (by decide),
    (parse_int_text halfway).2.1 _ rfl,
    (parse_int_text twelve).2.2.1 (.inr ⟨rfl, by decide⟩) _ rfl,
    (parse_int_text twelve).2.2.2 12 value_twelve.symm
      (value_twelve ▸ representable_intCast (by decide))⟩

theorem parse_int_halfway :
    ¬∀ (N : DecimalText) (i : ℤ), ColumnType.int.parse (.text N.text) = .ok (.int i) → (i : ℚ) = N.value := by
  intro h
  have hparse : ColumnType.int.parse (.text halfway.text) = .ok (.int 4503599627370498) := by
    rfl
  have := h halfway _ hparse
  rw [value_halfway] at this
  norm_num at this

end Numeral.DecimalText

end TablePipeline
