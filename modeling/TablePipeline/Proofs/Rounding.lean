import Mathlib
import TablePipeline.Number.Binary64

/-!
Rounding to the nearest number. A quotient of naturals is rounded to a multiple of a power of two, at
which it has 53 bits unless it is among the smallest numbers. No floating-point number is nearer to
it: those at greater exponents are multiples of that power too, and those at smaller ones lie below
the first number with 53 bits.
-/
namespace TablePipeline.Binary64

/-- A rational that a floating-point number can be. -/
def Representable (y : ℚ) : Prop :=
  ∃ (m : ℕ) (e : ℤ), m < 2 ^ 53 ∧ minExponent ≤ e ∧ e ≤ maxExponent ∧ |y| = m * 2 ^ e

/-- The rational that a finite number is. -/
def rational? (x : Binary64) : Option ℚ := x.toDyadic?.map fun p => (p.1 : ℚ) / 2 ^ p.2

/-- A rational with a sign. -/
def withSign (negative : Bool) (a : ℚ) : ℚ := if negative then -a else a

@[simp] theorem abs_withSign (negative : Bool) (a : ℚ) : |withSign negative a| = |a| := by
  cases negative <;> simp [withSign]

theorem pow_toNat_div {b : ℚ} (hb : b ≠ 0) (e : ℤ) : b ^ e.toNat / b ^ (-e).toNat = b ^ e := by
  have hpow : ∀ n : ℕ, b ^ n = b ^ (n : ℤ) := fun n => (zpow_natCast _ _).symm
  rw [hpow, hpow, ← zpow_sub₀ hb]
  congr 1
  omega

@[simp] theorem rational?_finite (negative : Bool) (m : ℕ) (e : ℤ) :
    rational? (.finite negative m e) = some (withSign negative (m * 2 ^ e)) := by
  rw [← pow_toNat_div two_ne_zero e]
  cases negative <;> simp [rational?, toDyadic?, signed, withSign] <;> ring

@[simp] theorem rational?_infinite (negative : Bool) : rational? (.infinite negative) = none := rfl

@[simp] theorem rational?_nan (mark : NaNMark) : rational? (.nan mark) = none := rfl

/-- The integer that a number is. -/
theorem toInt?_eq_some_iff {x : Binary64} {i : ℤ} :
    x.toInt? = some i ↔ x.rational? = some (i : ℚ) := by
  unfold toInt? rational?
  cases x.toDyadic? with
  | none => simp
  | some p =>
    obtain ⟨num, shift⟩ := p
    have hpos : (0 : ℤ) < 2 ^ shift := by positivity
    have hvalue : ((num : ℚ) / 2 ^ shift = i) ↔ num = i * 2 ^ shift := by
      rw [div_eq_iff (by positivity)]
      exact_mod_cast Iff.rfl
    simp only [Int.pow_eq, beq_iff_eq, Option.map_some, Option.some.injEq, hvalue]
    constructor
    · intro h
      split_ifs at h with hrest
      rw [← Option.some.inj h, Int.ediv_mul_cancel (Int.dvd_of_emod_eq_zero hrest)]
    · rintro rfl
      simp [hpos.ne']

/-! ### What rounding gives -/

/-- The multiple of `2 ^ e` to which a rational is rounded. It has 53 bits, or `e` is the smallest
exponent. -/
structure RoundsAt (a v : ℚ) (e : ℤ) : Prop where
  low : minExponent ≤ e
  normal : e = minExponent ∨ 2 ^ 52 * 2 ^ e ≤ a
  multiple : ∃ k : ℕ, k ≤ 2 ^ 53 ∧ v = k * 2 ^ e
  near : |v - a| ≤ 2 ^ e / 2

/-- An integer that is at most a half away is at least as near as any other one. -/
theorem abs_sub_le_of_half {k n : ℤ} {r : ℚ} (h : |(k : ℚ) - r| ≤ 1 / 2) : |(k : ℚ) - r| ≤ |n - r| := by
  by_cases hsame : n = k
  · rw [hsame]
  · have hone : (1 : ℚ) ≤ |(n : ℚ) - k| := by exact_mod_cast Int.one_le_abs (sub_ne_zero.2 hsame)
    have htriangle : |(n : ℚ) - k| ≤ |n - r| + |k - r| := by
      rw [abs_sub_comm (k : ℚ) r]
      exact abs_sub_le _ _ _
    linarith

/-- In units of `2 ^ e` a number is an integer, or it lies below the numbers with 53 bits there. -/
theorem Representable.units {y : ℚ} (h : Representable y) (e : ℤ) :
    (∃ n : ℤ, |y| = n * 2 ^ e) ∨ minExponent < e ∧ |y| < 2 ^ 52 * 2 ^ e := by
  obtain ⟨m, e', hm, hlow, -, hy⟩ := h
  rcases le_or_gt e e' with hle | hlt
  · left
    refine ⟨m * 2 ^ (e' - e).toNat, ?_⟩
    have hsplit : (2 : ℚ) ^ e' = 2 ^ (e' - e).toNat * 2 ^ e := by
      rw [← zpow_natCast, Int.toNat_of_nonneg (by omega), ← zpow_add₀ two_ne_zero]
      congr 1
      omega
    rw [hy, hsplit]
    push_cast
    ring
  · right
    have hmant : (m : ℚ) < 2 ^ 53 := by exact_mod_cast hm
    have hpow : (2 : ℚ) ^ e' ≤ 2 ^ (e - 1) := zpow_le_zpow_right₀ (by norm_num) (by omega)
    have hhalf : (2 : ℚ) ^ (e - 1) = 2 ^ e / 2 := zpow_sub_one₀ two_ne_zero e
    refine ⟨hlow.trans_lt hlt, ?_⟩
    calc |y| = m * 2 ^ e' := hy
      _ < 2 ^ 53 * 2 ^ e' := mul_lt_mul_of_pos_right hmant (by positivity)
      _ ≤ 2 ^ 53 * (2 ^ e / 2) := by rw [← hhalf]; gcongr
      _ = 2 ^ 52 * 2 ^ e := by ring

/-- On the grid of the multiples none is nearer than the one that is half a step away at most. -/
theorem RoundsAt.nearest_multiple {a v : ℚ} {e : ℤ} (h : RoundsAt a v e) (n : ℤ) :
    |v - a| ≤ |n * 2 ^ e - a| := by
  obtain ⟨k, -, hk⟩ := h.multiple
  have hunit : (0 : ℚ) < 2 ^ e := by positivity
  have hscale : ∀ z : ℤ, |(z : ℚ) * 2 ^ e - a| = |z - a / 2 ^ e| * 2 ^ e := by
    intro z
    rw [← abs_of_pos hunit, ← abs_mul, abs_of_pos hunit, sub_mul, div_mul_cancel₀ _ hunit.ne']
  have hv : |v - a| = |((k : ℤ) : ℚ) * 2 ^ e - a| := by rw [hk, Int.cast_natCast]
  have hhalf : |((k : ℤ) : ℚ) - a / 2 ^ e| ≤ 1 / 2 := by
    have hnear := h.near
    rw [hv, hscale] at hnear
    exact le_of_mul_le_mul_right (by linarith) hunit
  rw [hv, hscale, hscale]
  exact mul_le_mul_of_nonneg_right (abs_sub_le_of_half hhalf) hunit.le

/-- No number is nearer than the one to which a rational is rounded. -/
theorem RoundsAt.nearest {a v y : ℚ} {e : ℤ} (h : RoundsAt a v e) (ha : 0 ≤ a)
    (hy : Representable y) : |v - a| ≤ |y - a| := by
  have habs : |(|y|) - a| ≤ |y - a| := by
    simpa [abs_of_nonneg ha] using abs_abs_sub_abs_le_abs_sub y a
  refine le_trans ?_ habs
  rcases hy.units e with ⟨n, hn⟩ | ⟨hlow, hbelow⟩
  · rw [hn]
    exact h.nearest_multiple n
  · have hnormal : 2 ^ 52 * 2 ^ e ≤ a := h.normal.resolve_left hlow.ne'
    have hbottom := h.nearest_multiple (2 ^ 52)
    push_cast at hbottom
    refine hbottom.trans ?_
    rw [abs_sub_comm, abs_sub_comm _ a, abs_of_nonneg (by linarith), abs_of_nonneg (by linarith)]
    linarith

/-! ### Rounding a quotient -/

/-- Rounding a quotient of naturals leaves at most a half. -/
theorem abs_roundDiv_sub_le (num : ℕ) {den : ℕ} (hden : 0 < den) :
    |(roundDiv num den : ℚ) - num / den| ≤ 1 / 2 := by
  have hsplit : (num : ℚ) / den = (num / den : ℕ) + (num % den : ℕ) / den := by
    rw [div_eq_iff (by positivity), add_mul, div_mul_cancel₀ _ (by positivity)]
    exact_mod_cast (Nat.div_add_mod' num den).symm
  have hrest : ((num % den : ℕ) : ℚ) < den := by exact_mod_cast Nat.mod_lt num hden
  have hpos : (0 : ℚ) < den := by exact_mod_cast hden
  rw [hsplit, roundDiv]
  split_ifs with hup
  · have hhalf : (den : ℚ) ≤ 2 * (num % den : ℕ) := by
      have : den ≤ 2 * (num % den) := by simp at hup; omega
      exact_mod_cast this
    have hmost : ((num % den : ℕ) : ℚ) / den ≤ 1 := (div_le_one hpos).2 hrest.le
    have hleast : 1 / 2 ≤ ((num % den : ℕ) : ℚ) / den := by
      rw [div_le_div_iff₀ two_pos hpos]
      linarith
    rw [abs_le]
    push_cast
    constructor <;> linarith
  · have hhalf : 2 * ((num % den : ℕ) : ℚ) ≤ den := by
      have : 2 * (num % den) ≤ den := by simp at hup; omega
      exact_mod_cast this
    have hleast : 0 ≤ ((num % den : ℕ) : ℚ) / den := by positivity
    have hmost : ((num % den : ℕ) : ℚ) / den ≤ 1 / 2 := by
      rw [div_le_div_iff₀ hpos two_pos]
      linarith
    rw [abs_le]
    constructor <;> linarith

/-- A quotient in units of `2 ^ e`. -/
theorem scaled_eq (num : ℕ) {den : ℕ} (hden : 0 < den) (e : ℤ) :
    0 < (scaled num den e).2 ∧
      ((scaled num den e).1 : ℚ) / (scaled num den e).2 = num / den / 2 ^ e := by
  unfold scaled
  split_ifs with he
  · refine ⟨by simp; positivity, ?_⟩
    have : (2 : ℚ) ^ e = 2 ^ e.toNat := by
      rw [← zpow_natCast, Int.toNat_of_nonneg he]
    simp [this, div_div]
  · refine ⟨hden, ?_⟩
    have : (2 : ℚ) ^ e = (2 ^ (-e).toNat)⁻¹ := by
      rw [← zpow_natCast, Int.toNat_of_nonneg (by omega), zpow_neg, inv_inv]
    simp [this]
    ring

/-- A quotient has 53 bits at most in units of `2 ^ e`. -/
theorem scaled_lt_iff (num : ℕ) {den : ℕ} (hden : 0 < den) (e : ℤ) :
    (scaled num den e).1 / (scaled num den e).2 < 2 ^ 53 ↔ (num : ℚ) / den < 2 ^ 53 * 2 ^ e := by
  obtain ⟨hpos, heq⟩ := scaled_eq num hden e
  have hpos' : (0 : ℚ) < (scaled num den e).2 := by exact_mod_cast hpos
  rw [Nat.div_lt_iff_lt_mul hpos, ← div_lt_iff₀ (by positivity), ← heq, div_lt_iff₀ hpos']
  exact_mod_cast Iff.rfl

/-- The lengths of numerator and denominator leave two exponents at which a quotient may have 53
bits. -/
theorem quotient_bounds {num den : ℕ} (hnum : 0 < num) (hden : 0 < den) :
    (2 : ℚ) ^ 52 * 2 ^ ((num.log2 : ℤ) - den.log2 - 53) ≤ num / den ∧
      (num : ℚ) / den < 2 ^ 54 * 2 ^ ((num.log2 : ℤ) - den.log2 - 53) := by
  have hlog : ∀ n : ℕ, 0 < n → (2 : ℚ) ^ n.log2 ≤ n ∧ (n : ℚ) < 2 ^ (n.log2 + 1) := fun n hn =>
    ⟨by exact_mod_cast Nat.log2_self_le hn.ne', by exact_mod_cast Nat.lt_log2_self⟩
  obtain ⟨hnum_le, hnum_lt⟩ := hlog num hnum
  obtain ⟨hden_le, hden_lt⟩ := hlog den hden
  have hpos : (0 : ℚ) < den := by exact_mod_cast hden
  have hunit : (2 : ℚ) ^ ((num.log2 : ℤ) - den.log2 - 53) = 2 ^ num.log2 / 2 ^ den.log2 / 2 ^ 53 := by
    rw [zpow_sub₀ two_ne_zero, zpow_sub₀ two_ne_zero]
    norm_cast
  rw [hunit]
  constructor
  · calc (2 : ℚ) ^ 52 * (2 ^ num.log2 / 2 ^ den.log2 / 2 ^ 53)
        = 2 ^ num.log2 / 2 ^ (den.log2 + 1) := by rw [pow_succ]; ring
      _ ≤ num / den := div_le_div₀ (by positivity) hnum_le hpos hden_lt.le
  · calc (num : ℚ) / den < 2 ^ (num.log2 + 1) / 2 ^ den.log2 :=
          div_lt_div₀ hnum_lt hden_le (by positivity) (by positivity)
      _ = 2 ^ 54 * (2 ^ num.log2 / 2 ^ den.log2 / 2 ^ 53) := by rw [pow_succ]; ring

/-- A quotient has 53 bits at the exponent that is chosen for it, unless that is the smallest one. -/
theorem exponentFor_spec {num den : ℕ} (hnum : 0 < num) (hden : 0 < den) :
    minExponent ≤ exponentFor num den ∧
      (num : ℚ) / den < 2 ^ 53 * 2 ^ exponentFor num den ∧
      (exponentFor num den = minExponent ∨
        2 ^ 52 * 2 ^ exponentFor num den ≤ (num : ℚ) / den) := by
  obtain ⟨hleast, hmost⟩ := quotient_bounds hnum hden
  have hnext : ∀ e : ℤ, (2 : ℚ) ^ (e + 1) = 2 * 2 ^ e := fun e => by
    rw [zpow_add_one₀ two_ne_zero, mul_comm]
  -- Of the two exponents the smaller one at which there are not too many bits.
  obtain ⟨e, he, hlt, hge⟩ : ∃ e : ℤ, exponentFor num den = max e minExponent ∧
      (num : ℚ) / den < 2 ^ 53 * 2 ^ e ∧ 2 ^ 52 * 2 ^ e ≤ (num : ℚ) / den := by
    simp only [exponentFor, Nat.pow_eq, decide_eq_true_iff, scaled_lt_iff num hden]
    split_ifs with hfits
    · exact ⟨_, rfl, hfits, hleast⟩
    · refine ⟨_, rfl, ?_, ?_⟩ <;> rw [hnext] <;> linarith
  rw [he]
  rcases le_total minExponent e with hle | hle
  · rw [max_eq_left hle]
    exact ⟨hle, hlt, .inr hge⟩
  · rw [max_eq_right hle]
    refine ⟨le_refl _, hlt.trans_le ?_, .inl rfl⟩
    gcongr
    norm_num

/-- What rounding makes of a quotient: the multiple that it is rounded to, or an infinity if that lies
beyond the largest number. -/
inductive Rounded (negative : Bool) (a : ℚ) : Binary64 → Prop
  | finite {m : ℕ} {e e' : ℤ} {v : ℚ} (rounds : RoundsAt a v e') (high : e' ≤ maxExponent)
      (value : v = m * 2 ^ e) (representable : Representable v) :
      Rounded negative a (.finite negative m e)
  | infinite (beyond : (2 ^ 53 - 1 / 2) * 2 ^ maxExponent ≤ a) : Rounded negative a (.infinite negative)

theorem representable_of_lt {m : ℕ} {e : ℤ} (hm : m < 2 ^ 53) (hlow : minExponent ≤ e)
    (hhigh : e ≤ maxExponent) : Representable (m * 2 ^ e) :=
  ⟨m, e, hm, hlow, hhigh, abs_of_nonneg (by positivity)⟩

/-- The mantissa that is chosen for a quotient. -/
theorem roundsAt_exponentFor {num den : ℕ} (hnum : 0 < num) (hden : 0 < den) :
    ∃ m : ℕ, roundDiv (scaled num den (exponentFor num den)).1
        (scaled num den (exponentFor num den)).2 = m ∧ m ≤ 2 ^ 53 ∧
      RoundsAt (num / den) (m * 2 ^ exponentFor num den) (exponentFor num den) := by
  obtain ⟨hlow, hlt, hnormal⟩ := exponentFor_spec hnum hden
  obtain ⟨hpos, heq⟩ := scaled_eq num hden (exponentFor num den)
  generalize exponentFor num den = e at *
  have hunit : (0 : ℚ) < 2 ^ e := by positivity
  have hhalf := abs_roundDiv_sub_le (scaled num den e).1 hpos
  rw [heq] at hhalf
  generalize roundDiv (scaled num den e).1 (scaled num den e).2 = m at hhalf
  have hmost : m ≤ 2 ^ 53 := by
    have hquot : (num : ℚ) / den / 2 ^ e < 2 ^ 53 := by rwa [div_lt_iff₀ hunit]
    have hm : (m : ℚ) < 2 ^ 53 + 1 := by linarith [(abs_le.1 hhalf).2]
    have : m < 2 ^ 53 + 1 := by exact_mod_cast hm
    omega
  refine ⟨m, rfl, hmost, hlow, hnormal, ⟨m, hmost, rfl⟩, ?_⟩
  have hscale : (m : ℚ) * 2 ^ e - num / den = (m - num / den / 2 ^ e) * 2 ^ e := by
    rw [sub_mul, div_mul_cancel₀ _ hunit.ne']
  rw [hscale, abs_mul, abs_of_pos hunit]
  linarith [mul_le_mul_of_nonneg_right hhalf hunit.le]

/-- What is at most half the smallest number is rounded to zero. -/
theorem rounded_zero (negative : Bool) {a : ℚ} (hnonneg : 0 ≤ a) (hsmall : a ≤ 2 ^ minExponent / 2) :
    Rounded negative a (zero negative) := by
  have hrounds : RoundsAt a 0 minExponent := by
    refine ⟨le_refl _, .inl rfl, ⟨0, by positivity, by simp⟩, ?_⟩
    rwa [zero_sub, abs_neg, abs_of_nonneg hnonneg]
  exact .finite hrounds (by decide) (by simp) ⟨0, minExponent, by positivity, le_refl _, by decide, by simp⟩

theorem rounded_ofRatio (negative : Bool) (num : ℕ) {den : ℕ} (hden : 0 < den) :
    Rounded negative (num / den) (ofRatio negative num den) := by
  rcases Nat.eq_zero_or_pos num with rfl | hnum
  · have hzero := rounded_zero negative (le_refl 0) (by positivity)
    simpa [ofRatio] using hzero
  · obtain ⟨m, hm, hmost, hrounds⟩ := roundsAt_exponentFor hnum hden
    have hnonzero : (num == 0) = false := by simpa using hnum.ne'
    simp only [ofRatio, hnonzero, Bool.false_eq_true, if_false, hm, Nat.pow_eq, beq_iff_eq]
    have hlow := hrounds.low
    generalize exponentFor num den = e at *
    have hgreat : ∀ e' : ℤ, e' ≤ e → (2 : ℚ) ^ e' ≤ 2 ^ e := fun e' he =>
      zpow_le_zpow_right₀ (by norm_num) he
    split_ifs with hfull hmax hmax
    · -- The last mantissa is rounded up beyond the greatest exponent.
      refine .infinite ?_
      have hnear := (abs_le.1 hrounds.near).2
      have htop := hgreat maxExponent hmax
      rw [hfull] at hnear
      push_cast at hnear
      linarith
    · have hvalue : (m : ℚ) * 2 ^ e = (2 ^ 52 : ℕ) * 2 ^ (e + 1) := by
        rw [hfull, zpow_add_one₀ two_ne_zero]
        push_cast
        ring
      refine .finite hrounds (by omega) hvalue ?_
      rw [hvalue]
      exact representable_of_lt (by norm_num) (by omega) (by omega)
    · refine .infinite ?_
      have htop := hgreat (maxExponent + 1) hmax
      rw [zpow_add_one₀ two_ne_zero] at htop
      have hnormal := hrounds.normal.resolve_left (by simp only [maxExponent, minExponent] at *; omega)
      have hpos : (0 : ℚ) < 2 ^ maxExponent := by positivity
      linarith
    · exact .finite hrounds (by omega) rfl (representable_of_lt (by omega) hlow (by omega))

/-! ### The nearest number -/

/-- A number than which no other one is nearer to a rational. -/
def Nearest (v q : ℚ) : Prop := Representable v ∧ ∀ y, Representable y → |v - q| ≤ |y - q|

theorem withSign_sub (negative : Bool) (a b : ℚ) :
    withSign negative a - withSign negative b = withSign negative (a - b) := by
  cases negative <;> simp [withSign]
  ring

theorem withSign_withSign (negative : Bool) (a : ℚ) : withSign negative (withSign negative a) = a := by
  cases negative <;> simp [withSign]

theorem Representable.withSign {y : ℚ} (h : Representable y) (negative : Bool) :
    Representable (withSign negative y) := by
  obtain ⟨m, e, hm, hlow, hhigh, hy⟩ := h
  exact ⟨m, e, hm, hlow, hhigh, by rw [abs_withSign, hy]⟩

/-- Every integer of 53 bits is a number. -/
theorem representable_intCast {i : ℤ} (h : i.natAbs < 2 ^ 53) : Representable i := by
  refine ⟨i.natAbs, 0, h, by decide, by decide, ?_⟩
  rw [zpow_zero, mul_one, Nat.cast_natAbs, Int.cast_abs]

section
variable {negative : Bool} {a v : ℚ} {x : Binary64}

/-- A finite number that is the rounding of a rational. -/
theorem Rounded.exists_roundsAt (h : Rounded negative a x) (hx : x.rational? = some v) :
    ∃ u e, v = withSign negative u ∧ RoundsAt a u e ∧ Representable u := by
  cases h with
  | infinite => simp at hx
  | finite rounds high value representable =>
    rw [rational?_finite, ← value] at hx
    exact ⟨_, _, (Option.some.inj hx).symm, rounds, representable⟩

theorem Rounded.nearest (h : Rounded negative a x) (ha : 0 ≤ a) (hx : x.rational? = some v) :
    Nearest v (withSign negative a) := by
  obtain ⟨u, e, rfl, hrounds, hrepresentable⟩ := h.exists_roundsAt hx
  refine ⟨hrepresentable.withSign negative, fun y hy => ?_⟩
  have hnearest := hrounds.nearest ha (hy.withSign negative)
  rw [withSign_sub, abs_withSign]
  calc |u - a| ≤ |withSign negative y - a| := hnearest
    _ = |withSign negative (withSign negative y - a)| := (abs_withSign _ _).symm
    _ = |y - withSign negative a| := by
        rw [← withSign_sub, withSign_withSign]

/-- A number is rounded to itself. -/
theorem Rounded.of_representable (h : Rounded negative a x) (ha : 0 ≤ a) (hrep : Representable a) :
    x.rational? = some (withSign negative a) := by
  cases h with
  | infinite beyond =>
    obtain ⟨m, e, hm, -, hhigh, heq⟩ := hrep
    have hm' : (m : ℚ) ≤ 2 ^ 53 - 1 := by
      have : m + 1 ≤ 2 ^ 53 := hm
      have : (m : ℚ) + 1 ≤ 2 ^ 53 := by exact_mod_cast this
      linarith
    have hpow : (2 : ℚ) ^ e ≤ 2 ^ maxExponent := zpow_le_zpow_right₀ (by norm_num) hhigh
    have hpos : (0 : ℚ) < 2 ^ maxExponent := by positivity
    have hmost : a ≤ (2 ^ 53 - 1) * 2 ^ maxExponent := by
      rw [← abs_of_nonneg ha, heq]
      exact mul_le_mul hm' hpow (by positivity) (by norm_num)
    linarith
  | finite rounds high value representable =>
    have hzero := rounds.nearest ha hrep
    rw [sub_self, abs_zero] at hzero
    have hsame := sub_eq_zero.1 (abs_nonpos_iff.1 hzero)
    rw [rational?_finite, ← value, hsame]

/-- Rounding changes a rational by the smallest part of 53 bits at most, or by half the smallest
number. -/
theorem Rounded.abs_sub_le (h : Rounded negative a x) (hx : x.rational? = some v) :
    |v - withSign negative a| * 2 ^ 53 ≤ a ∨ |v - withSign negative a| ≤ 2 ^ minExponent / 2 := by
  obtain ⟨u, e, rfl, hrounds, -⟩ := h.exists_roundsAt hx
  rw [withSign_sub, abs_withSign]
  have hnear := hrounds.near
  rcases hrounds.normal with rfl | hnormal
  · exact .inr hnear
  · left
    linarith

end

end TablePipeline.Binary64
