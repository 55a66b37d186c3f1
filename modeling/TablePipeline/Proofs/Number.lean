import Mathlib
import TablePipeline.Datum.Equal

/-!
The order of numbers as an order of values. A finite number of either type is a rational, the two
infinities stand at the ends, and a NaN stands nowhere; comparing two numbers is comparing where
they stand. What holds of equality and order across types then follows from the values.
-/
namespace TablePipeline.Number

/-- Where a number stands among the rationals and the infinities; a NaN stands nowhere. -/
def rank? (a : Number) : Option (WithBot (WithTop ℚ)) :=
  if a.isNaN then none
  else
    match a.toDyadic? with
    | some (num, shift) => some (((num / 2 ^ shift : ℚ) : WithTop ℚ) : WithBot (WithTop ℚ))
    | none => some (if a.isNegative then ⊥ else ((⊤ : WithTop ℚ) : WithBot (WithTop ℚ)))

@[simp] theorem rank?_int (i : ℤ) :
    (int i).rank? = some (((i : ℚ) : WithTop ℚ) : WithBot (WithTop ℚ)) := by
  simp [rank?, isNaN, toDyadic?]

theorem exists_rank? {a : Number} (h : a.isNaN = false) : ∃ x, a.rank? = some x := by
  unfold rank?
  rw [if_neg (by simp [h])]
  split <;> exact ⟨_, rfl⟩

/-- Cross-multiplied numerators are ordered like the quotients. -/
theorem compare_mul_two_pow (m n : ℤ) (s t : ℕ) :
    compare (m * 2 ^ t) (n * 2 ^ s) = compare ((m : ℚ) / 2 ^ s) ((n : ℚ) / 2 ^ t) := by
  have hlt : ∀ (x y : ℤ) (p q : ℕ), (x : ℚ) / 2 ^ p < (y : ℚ) / 2 ^ q ↔ x * 2 ^ q < y * 2 ^ p := by
    intro x y p q
    rw [div_lt_div_iff₀ (by positivity) (by positivity)]
    exact_mod_cast Iff.rfl
  rcases lt_trichotomy (m * 2 ^ t) (n * 2 ^ s) with h | h | h
  · rw [compare_lt_iff_lt.2 h, compare_lt_iff_lt.2 ((hlt m n s t).2 h)]
  · have hq : (m : ℚ) / 2 ^ s = (n : ℚ) / 2 ^ t := by
      rw [div_eq_div_iff (by positivity) (by positivity)]
      exact_mod_cast h
    rw [compare_eq_iff_eq.2 h, compare_eq_iff_eq.2 hq]
  · rw [compare_gt_iff_gt.2 h, compare_gt_iff_gt.2 ((hlt n m t s).2 h)]

theorem compare_coe (x y : ℚ) :
    compare ((x : WithTop ℚ) : WithBot (WithTop ℚ)) ((y : WithTop ℚ) : WithBot (WithTop ℚ)) =
      compare x y := by
  rcases lt_trichotomy x y with h | rfl | h
  · rw [compare_lt_iff_lt.2 h, compare_lt_iff_lt.2 (by exact_mod_cast h)]
  · rw [compare_eq_iff_eq.2 rfl, compare_eq_iff_eq.2 rfl]
  · rw [compare_gt_iff_gt.2 h, compare_gt_iff_gt.2 (by exact_mod_cast h)]

/-- Comparing two numbers is comparing where they stand. -/
theorem compare?_eq (a b : Number) :
    a.compare? b = a.rank?.bind fun x => b.rank?.map fun y => compare x y := by
  unfold compare? rank?
  by_cases ha : a.isNaN = true
  · simp [ha]
  by_cases hb : b.isNaN = true
  · simp [ha, hb]
  simp only [ha, hb, Bool.or_self, Bool.false_eq_true, if_false]
  cases a.toDyadic? with
  | some p =>
    cases b.toDyadic? with
    | some q => simp [compare_mul_two_pow, compare_coe]
    | none =>
      cases b.isNegative
      · exact congrArg some (compare_lt_iff_lt.2 (WithBot.coe_lt_coe.2 (WithTop.coe_lt_top _))).symm
      · exact congrArg some (compare_gt_iff_gt.2 (by simp)).symm
  | none =>
    cases b.toDyadic? with
    | some q =>
      cases a.isNegative
      · exact congrArg some (compare_gt_iff_gt.2 (WithBot.coe_lt_coe.2 (WithTop.coe_lt_top _))).symm
      · exact congrArg some (compare_lt_iff_lt.2 (by simp)).symm
    | none =>
      cases a.isNegative <;> cases b.isNegative
      · exact congrArg some (compare_eq_iff_eq.2 rfl).symm
      · exact congrArg some (compare_gt_iff_gt.2 (by simp)).symm
      · exact congrArg some (compare_lt_iff_lt.2 (by simp)).symm
      · exact congrArg some (compare_eq_iff_eq.2 rfl).symm

theorem compare?_eq_eq_iff (a b : Number) :
    a.compare? b = some .eq ↔ ∃ x, a.rank? = some x ∧ b.rank? = some x := by
  rw [compare?_eq]
  cases a.rank? with
  | none => simp
  | some x =>
    cases b.rank? with
    | none => simp
    | some y =>
      simp only [Option.bind_some, Option.map_some, Option.some_inj, compare_eq_iff_eq]
      exact ⟨fun h => ⟨x, rfl, h.symm⟩, fun ⟨z, hx, hy⟩ => hx.trans hy.symm⟩

/-- Equality of numbers goes both ways. -/
theorem compare?_eq_symm {a b : Number} (h : a.compare? b = some .eq) :
    b.compare? a = some .eq := by
  obtain ⟨x, ha, hb⟩ := (compare?_eq_eq_iff a b).1 h
  exact (compare?_eq_eq_iff b a).2 ⟨x, hb, ha⟩

theorem compare?_eq_trans {a b c : Number} (h : a.compare? b = some .eq)
    (h' : b.compare? c = some .eq) : a.compare? c = some .eq := by
  obtain ⟨x, ha, hb⟩ := (compare?_eq_eq_iff a b).1 h
  obtain ⟨y, hb', hc⟩ := (compare?_eq_eq_iff b c).1 h'
  obtain rfl : x = y := by rw [hb] at hb'; exact Option.some_inj.1 hb'
  exact (compare?_eq_eq_iff a c).2 ⟨x, ha, hc⟩

end TablePipeline.Number
