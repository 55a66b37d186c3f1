import Mathlib
import TablePipeline.Calendar.Date

/-!
Days in the order of the calendar. A year, and a month in its year, begins right behind the one before,
so days are numbered in the order of their years, months and days, and no two of them alike.
-/
namespace TablePipeline

namespace Calendar

theorem daysBeforeYear_succ {year : ℕ} (h : 1 ≤ year) :
    daysBeforeYear (year + 1) = daysBeforeYear year + daysInYear year := by
  obtain ⟨y, rfl⟩ := Nat.exists_eq_add_of_le' h
  have hcentury : y / 100 ≤ y := Nat.div_le_self y 100
  have hleap : isLeap (y + 1) = true ↔ 4 ∣ y + 1 ∧ (¬100 ∣ y + 1 ∨ 400 ∣ y + 1) := by
    simp only [isLeap, Bool.and_eq_true, Bool.or_eq_true, beq_iff_eq, bne_iff_ne, ne_eq,
      Nat.dvd_iff_mod_eq_zero]
  simp only [daysBeforeYear, daysInYear, hleap, Nat.add_sub_cancel, Nat.succ_div]
  -- A year that 400 divides is divided by 100, and one that 100 divides is divided by 4.
  by_cases h400 : 400 ∣ y + 1
  · have h100 : 100 ∣ y + 1 := (by decide : 100 ∣ 400).trans h400
    have h4 : 4 ∣ y + 1 := (by decide : 4 ∣ 400).trans h400
    simp only [h400, h100, h4, if_true, not_true, or_true, and_self]
    omega
  · by_cases h100 : 100 ∣ y + 1
    · have h4 : 4 ∣ y + 1 := (by decide : 4 ∣ 100).trans h100
      simp only [h400, h100, h4, if_true, if_false, not_true, or_self, and_false]
      omega
    · by_cases h4 : 4 ∣ y + 1 <;> simp only [h400, h100, h4, if_true, if_false, not_false_iff,
        true_or, and_true, and_self] <;> omega

/-- A year is over before a later one begins. -/
theorem daysBeforeYear_add_le {year later : ℕ} (h : 1 ≤ year) (hlater : year < later) :
    daysBeforeYear year + daysInYear year ≤ daysBeforeYear later := by
  rw [← daysBeforeYear_succ h]
  induction later, hlater using Nat.le_induction with
  | base => exact le_rfl
  | succ later hle ih =>
    have hnext : daysBeforeYear later ≤ daysBeforeYear (later + 1) := by
      rw [daysBeforeYear_succ (by omega)]
      exact Nat.le_add_right _ _
    exact ih.trans hnext

theorem daysBeforeMonth_succ (year : ℕ) {month : ℕ} (h : 1 ≤ month) :
    daysBeforeMonth year (month + 1) = daysBeforeMonth year month + daysInMonth year month := by
  obtain ⟨m, rfl⟩ := Nat.exists_eq_add_of_le' h
  simp [daysBeforeMonth, List.range_succ]

/-- A month is over before a later one begins. -/
theorem daysBeforeMonth_add_le (year : ℕ) {month later : ℕ} (h : 1 ≤ month) (hlater : month < later) :
    daysBeforeMonth year month + daysInMonth year month ≤ daysBeforeMonth year later := by
  rw [← daysBeforeMonth_succ year h]
  induction later, hlater using Nat.le_induction with
  | base => exact le_rfl
  | succ later hle ih =>
    have hnext : daysBeforeMonth year later ≤ daysBeforeMonth year (later + 1) := by
      rw [daysBeforeMonth_succ year (by omega)]
      exact Nat.le_add_right _ _
    exact ih.trans hnext

/-- Twelve months make a year. -/
theorem daysBeforeMonth_thirteen (year : ℕ) : daysBeforeMonth year 13 = daysInYear year := by
  cases hleap : isLeap year <;>
    simp [daysBeforeMonth, daysInYear, daysInMonth, List.range_succ, hleap]

end Calendar

open Calendar

namespace Date

/-- The order of days by year, month and day. -/
def Before (d e : Date) : Prop :=
  d.year < e.year ∨ d.year = e.year ∧ (d.month < e.month ∨ d.month = e.month ∧ d.day < e.day)

theorem isDay_parts (d : Date) :
    1 ≤ d.year ∧ 1 ≤ d.month ∧ d.month ≤ 12 ∧ 1 ≤ d.day ∧ d.day ≤ daysInMonth d.year d.month := by
  have hvalid := d.valid
  simp only [isDay, Bool.and_eq_true, decide_eq_true_eq] at hvalid
  omega

theorem dayOfYear_bounds (d : Date) : 1 ≤ d.dayOfYear ∧ d.dayOfYear ≤ daysInYear d.year := by
  obtain ⟨-, hmonth, hmonth', hday, hday'⟩ := d.isDay_parts
  have hyear := daysBeforeMonth_add_le d.year hmonth (Nat.lt_succ_of_le hmonth')
  rw [daysBeforeMonth_thirteen] at hyear
  unfold dayOfYear
  omega

theorem ordinal_lt_of_before {d e : Date} (h : d.Before e) : d.ordinal < e.ordinal := by
  obtain ⟨hyear, hmonth, -, hday, hday'⟩ := d.isDay_parts
  obtain ⟨-, -, -, heday, -⟩ := e.isDay_parts
  rcases h with hbefore | ⟨hsame, hbefore | ⟨hsame', hbefore⟩⟩
  · have hover := daysBeforeYear_add_le hyear hbefore
    have hd := d.dayOfYear_bounds
    have he := e.dayOfYear_bounds
    unfold ordinal
    omega
  · have hover := daysBeforeMonth_add_le d.year hmonth hbefore
    unfold ordinal dayOfYear
    rw [← hsame]
    omega
  · unfold ordinal dayOfYear
    rw [← hsame, ← hsame']
    omega

/-- Of two days, one comes before the other, or they are the same. -/
theorem before_or_eq_or_before (d e : Date) : d.Before e ∨ d = e ∨ e.Before d := by
  unfold Before
  rcases lt_trichotomy d.year e.year with hyear | hyear | hyear
  · exact .inl (.inl hyear)
  · rcases lt_trichotomy d.month e.month with hmonth | hmonth | hmonth
    · exact .inl (.inr ⟨hyear, .inl hmonth⟩)
    · rcases lt_trichotomy d.day e.day with hday | hday | hday
      · exact .inl (.inr ⟨hyear, .inr ⟨hmonth, hday⟩⟩)
      · refine .inr (.inl ?_)
        cases d
        cases e
        simp_all
      · exact .inr (.inr (.inr ⟨hyear.symm, .inr ⟨hmonth.symm, hday⟩⟩))
    · exact .inr (.inr (.inr ⟨hyear.symm, .inl hmonth⟩))
  · exact .inr (.inr (.inl hyear))

theorem ordinal_lt_iff (d e : Date) : d.ordinal < e.ordinal ↔ d.Before e := by
  refine ⟨fun h => ?_, ordinal_lt_of_before⟩
  rcases d.before_or_eq_or_before e with hbefore | rfl | hafter
  · exact hbefore
  · exact absurd h (lt_irrefl _)
  · exact absurd h (ordinal_lt_of_before hafter).not_gt

theorem ordinal_inj {d e : Date} : d.ordinal = e.ordinal ↔ d = e := by
  refine ⟨fun h => ?_, congrArg ordinal⟩
  rcases d.before_or_eq_or_before e with hbefore | hsame | hafter
  · exact absurd h (ordinal_lt_of_before hbefore).ne
  · exact hsame
  · exact absurd h (ordinal_lt_of_before hafter).ne'

end Date

end TablePipeline
