import Mathlib
import TablePipeline.Number.Numeral
import TablePipeline.Proofs.Rounding

/-!
Rounding a decimal numeral. A thousand digits decide which number is nearest: between two
neighbouring numerals of so many digits there is neither a number nor a midpoint of two numbers, so
everything between them is rounded alike, and of the digits behind it counts only whether they are
all zero.
-/
namespace TablePipeline.Numeral

open Text Binary64

/-! ### The number that digits write -/

theorem foldl_digits (ds : List Char) (n : ℕ) :
    ds.foldl (fun n d => n * 10 + (d.toNat - 48)) n = n * 10 ^ ds.length + natOfDigits ds := by
  induction ds generalizing n with
  | nil => simp [natOfDigits]
  | cons d ds ih =>
    simp only [natOfDigits, List.foldl_cons, List.length_cons]
    rw [ih, ih (0 * 10 + (d.toNat - 48))]
    ring

theorem natOfDigits_append (ds es : List Char) :
    natOfDigits (ds ++ es) = natOfDigits ds * 10 ^ es.length + natOfDigits es := by
  rw [natOfDigits, List.foldl_append, foldl_digits]
  rfl

theorem natOfDigits_cons (d : Char) (ds : List Char) :
    natOfDigits (d :: ds) = (d.toNat - 48) * 10 ^ ds.length + natOfDigits ds := by
  rw [← List.singleton_append, natOfDigits_append]
  simp [natOfDigits]

theorem isAsciiDigit_iff {c : Char} : isAsciiDigit c = true ↔ 48 ≤ c.toNat ∧ c.toNat ≤ 57 := by
  simp only [isAsciiDigit, Bool.and_eq_true, decide_eq_true_eq, Char.le_def, UInt32.le_iff_toNat_le]
  exact Iff.rfl

theorem natOfDigits_lt {ds : List Char} (h : ∀ d ∈ ds, isAsciiDigit d = true) :
    natOfDigits ds < 10 ^ ds.length := by
  induction ds with
  | nil => simp [natOfDigits]
  | cons d ds ih =>
    have htail := ih fun c hc => h c (List.mem_cons_of_mem d hc)
    have hhead : d.toNat - 48 ≤ 9 := by
      have := isAsciiDigit_iff.1 (h d List.mem_cons_self)
      omega
    rw [natOfDigits_cons, List.length_cons, pow_succ]
    have := Nat.mul_le_mul_right (10 ^ ds.length) hhead
    omega

/-- Zeros in front do not count. -/
theorem natOfDigits_dropZeros (ds : List Char) :
    natOfDigits (ds.dropWhile (· == '0')) = natOfDigits ds := by
  induction ds with
  | nil => rfl
  | cons d ds ih =>
    by_cases hd : d = '0'
    · subst hd
      simp [ih, natOfDigits_cons]
    · simp [hd]

theorem pow_le_natOfDigits {d : Char} (hdigit : isAsciiDigit d = true) (hd : d ≠ '0')
    (ds : List Char) : 10 ^ ds.length ≤ natOfDigits (d :: ds) := by
  have hpos : 1 ≤ d.toNat - 48 := by
    have hrange := isAsciiDigit_iff.1 hdigit
    have hne : d.toNat ≠ 48 := fun h => hd (Char.toNat_inj.1 h)
    omega
  rw [natOfDigits_cons]
  have := Nat.mul_le_mul_right (10 ^ ds.length) hpos
  omega

/-- The first digits of a numeral that does not begin with a zero. -/
theorem pow_le_natOfDigits_take {ds : List Char} {n : ℕ} (hdigits : ∀ d ∈ ds, isAsciiDigit d = true)
    (hfirst : ∀ d rest, ds = d :: rest → d ≠ '0') (hlong : n < ds.length) :
    10 ^ n ≤ natOfDigits (ds.take (n + 1)) := by
  cases ds with
  | nil => cases hlong
  | cons d rest =>
    have hlength : (rest.take n).length = n :=
      List.length_take_of_le (Nat.le_of_lt_succ hlong)
    have := pow_le_natOfDigits (hdigits d List.mem_cons_self) (hfirst d rest rfl) (rest.take n)
    rwa [hlength] at this

theorem ne_zero_of_dropZeros {d : Char} {ds rest : List Char}
    (h : ds.dropWhile (· == '0') = d :: rest) : d ≠ '0' := by
  have := List.head?_dropWhile_not (· == '0') ds
  simpa [h] using this

theorem natOfDigits_eq_zero {ds : List Char} (h : ds.all (· == '0') = true) : natOfDigits ds = 0 := by
  have hdrop : ds.dropWhile (· == '0') = [] := by
    simpa using h
  rw [← natOfDigits_dropZeros, hdrop]
  rfl

theorem natOfDigits_pos {ds : List Char} (hdigits : ∀ d ∈ ds, isAsciiDigit d = true)
    (h : ¬ds.all (· == '0') = true) : 0 < natOfDigits ds := by
  rw [← natOfDigits_dropZeros]
  cases hdrop : ds.dropWhile (· == '0') with
  | nil => exact absurd (by simpa using hdrop) h
  | cons d rest =>
    have hmem : d ∈ ds := (List.dropWhile_sublist _).subset (hdrop ▸ List.mem_cons_self)
    exact (Nat.pow_pos (by norm_num)).trans_le
      (pow_le_natOfDigits (hdigits d hmem) (ne_zero_of_dropZeros hdrop) rest)

/-! ### Enough digits -/

/-- Strictly between two neighbouring numerals of a thousand digits. -/
def Inside (p : ℕ) (k : ℤ) (a : ℚ) : Prop := (p : ℚ) * 10 ^ k < a ∧ a < (p + 1) * 10 ^ k

/-- Rationals that are the same or lie between the same two neighbours. -/
def Undecided (a b : ℚ) : Prop := a = b ∨ ∃ (p : ℕ) (k : ℤ), 10 ^ 999 ≤ p ∧ Inside p k a ∧ Inside p k b

/-- In units of `10 ^ k`, where these are not above `2 ^ t`, a number with few bits is an integer. -/
theorem mul_two_zpow_eq (j : ℕ) {k t : ℤ} (hk : k ≤ 0) (hkt : k ≤ t) :
    (j : ℚ) * 2 ^ t = ((j * 2 ^ (t - k).toNat * 5 ^ (-k).toNat : ℕ) : ℚ) * 10 ^ k := by
  have hfive : (5 : ℚ) ^ (-k).toNat * 10 ^ k = 2 ^ k := by
    rw [← zpow_natCast, Int.toNat_of_nonneg (by omega), zpow_neg, inv_mul_eq_div, ← div_zpow]
    norm_num
  have htwo : (2 : ℚ) ^ (t - k).toNat * 2 ^ k = 2 ^ t := by
    rw [← zpow_natCast, Int.toNat_of_nonneg (by omega), ← zpow_add₀ two_ne_zero, sub_add_cancel]
  push_cast
  rw [mul_assoc, hfive, mul_assoc, htwo]

/-- No integer lies between two neighbours. -/
theorem not_inside_integer (p n : ℕ) (k : ℤ) : ¬Inside p k (n * 10 ^ k) := by
  rintro ⟨hgreater, hless⟩
  have hten : (0 : ℚ) < 10 ^ k := by positivity
  have hbelow : p < n := by exact_mod_cast lt_of_mul_lt_mul_right hgreater hten.le
  have habove : n < p + 1 := by exact_mod_cast lt_of_mul_lt_mul_right hless hten.le
  omega

/-- Nothing with few bits lies between two neighbours: scaled to integers it would be one as well, and
where it has too many places for that it is smaller than both. -/
theorem not_inside {p j : ℕ} {k t : ℤ} (hp : 10 ^ 999 ≤ p) (hj : j ≤ 2 ^ 55) (hlow : -1075 ≤ t)
    (hhigh : t ≤ 970) : ¬Inside p k (j * 2 ^ t) := by
  intro hinside
  have hp' : (10 : ℚ) ^ (999 : ℤ) ≤ p := by exact_mod_cast hp
  have hj' : (j : ℚ) ≤ 2 ^ (55 : ℤ) := by exact_mod_cast hj
  have hleast : (10 : ℚ) ^ (999 + k) < 2 ^ (55 + t) := by
    rw [zpow_add₀ (by norm_num), zpow_add₀ two_ne_zero]
    calc (10 : ℚ) ^ (999 : ℤ) * 10 ^ k ≤ p * 10 ^ k := by gcongr
      _ < j * 2 ^ t := hinside.1
      _ ≤ 2 ^ (55 : ℤ) * 2 ^ t := by gcongr
  have hk : k < -600 := by
    by_contra hge
    have hpow : (10 : ℚ) ^ (399 : ℤ) ≤ 10 ^ (999 + k) := zpow_le_zpow_right₀ (by norm_num) (by omega)
    have htop : (2 : ℚ) ^ (55 + t) ≤ 10 ^ (399 : ℤ) :=
      calc (2 : ℚ) ^ (55 + t) ≤ 2 ^ (3 * 399 : ℤ) := zpow_le_zpow_right₀ (by norm_num) (by omega)
        _ = (2 ^ (3 : ℤ)) ^ (399 : ℤ) := zpow_mul _ _ _
        _ ≤ 10 ^ (399 : ℤ) := zpow_le_zpow_left₀ (by norm_num) (by norm_num) (by norm_num)
    linarith
  rcases le_or_gt k t with hkt | htk
  · rw [mul_two_zpow_eq j (by omega) hkt] at hinside
    exact not_inside_integer p _ k hinside
  · have hpow : (10 : ℚ) ^ (-100 : ℤ) ≤ 10 ^ (999 + k) := zpow_le_zpow_right₀ (by norm_num) (by omega)
    have htop : (2 : ℚ) ^ (55 + t) ≤ 10 ^ (-100 : ℤ) :=
      calc (2 : ℚ) ^ (55 + t) ≤ 2 ^ (-4 * 100 : ℤ) := zpow_le_zpow_right₀ (by norm_num) (by omega)
        _ = (2 ^ (-4 : ℤ)) ^ (100 : ℤ) := zpow_mul _ _ _
        _ ≤ (10 ^ (-1 : ℤ)) ^ (100 : ℤ) := zpow_le_zpow_left₀ (by norm_num) (by norm_num) (by norm_num)
        _ = 10 ^ (-100 : ℤ) := by rw [← zpow_mul]; norm_num
    linarith

/-- What has few bits is on the same side of undecided rationals. -/
theorem Undecided.sides {a b : ℚ} (h : Undecided a b) {j : ℕ} {t : ℤ} (hj : j ≤ 2 ^ 55)
    (hlow : -1075 ≤ t) (hhigh : t ≤ 970) :
    ((j : ℚ) * 2 ^ t ≤ a ↔ (j : ℚ) * 2 ^ t ≤ b) ∧ (a ≤ (j : ℚ) * 2 ^ t ↔ b ≤ (j : ℚ) * 2 ^ t) := by
  rcases h with rfl | ⟨p, k, hp, ⟨ha, ha'⟩, ⟨hb, hb'⟩⟩
  · exact ⟨Iff.rfl, Iff.rfl⟩
  · have hnot := not_inside (k := k) hp hj hlow hhigh
    simp only [Inside, not_and_or, not_lt] at hnot
    rcases hnot with hbelow | habove
    · exact ⟨iff_of_true (hbelow.trans ha.le) (hbelow.trans hb.le),
        iff_of_false (hbelow.trans_lt ha).not_ge (hbelow.trans_lt hb).not_ge⟩
    · exact ⟨iff_of_false (ha'.trans_le habove).not_ge (hb'.trans_le habove).not_ge,
        iff_of_true (ha'.le.trans habove) (hb'.le.trans habove)⟩

/-- Undecided rationals are within a half of the same numbers: the midpoints around a number have few
bits too. -/
theorem Undecided.near {a b : ℚ} (h : Undecided a b) (hb : 0 ≤ b) {k : ℕ} {e : ℤ} (hk : k ≤ 2 ^ 53)
    (hlow : -1074 ≤ e) (hhigh : e ≤ 971) (hnear : |(k : ℚ) * 2 ^ e - a| ≤ 2 ^ e / 2) :
    |(k : ℚ) * 2 ^ e - b| ≤ 2 ^ e / 2 := by
  have hhalf : (2 : ℚ) ^ e = 2 * 2 ^ (e - 1) := by
    rw [zpow_sub_one₀ two_ne_zero]
    ring
  rw [hhalf, abs_le] at hnear ⊢
  have hless : b ≤ (2 * k + 1 : ℕ) * 2 ^ (e - 1) := by
    refine (h.sides (by omega) (by omega) (by omega)).2.1 ?_
    push_cast
    linarith
  have hgreater : (2 * k : ℚ) * 2 ^ (e - 1) - 2 ^ (e - 1) ≤ b := by
    cases k with
    | zero =>
      have : (0 : ℚ) < 2 ^ (e - 1) := by positivity
      push_cast
      linarith
    | succ n =>
      have hle : ((2 * n + 1 : ℕ) : ℚ) * 2 ^ (e - 1) ≤ b := by
        refine (h.sides (by omega) (by omega) (by omega)).1.1 ?_
        push_cast at hnear ⊢
        linarith
      push_cast at hle ⊢
      linarith
  push_cast at hless
  constructor <;> linarith

/-- Undecided rationals are rounded alike. -/
theorem Undecided.rounded {a b : ℚ} {negative : Bool} {x : Binary64} (h : Undecided a b) (hb : 0 ≤ b)
    (hrounded : Rounded negative a x) : Rounded negative b x := by
  cases hrounded with
  | infinite beyond =>
    have hmiddle : ((2 : ℚ) ^ 53 - 1 / 2) * 2 ^ maxExponent =
        (2 ^ 54 - 1 : ℕ) * 2 ^ (maxExponent - 1) := by
      rw [zpow_sub_one₀ two_ne_zero]
      push_cast
      ring
    rw [hmiddle] at beyond
    refine .infinite ?_
    rw [hmiddle]
    exact (h.sides (by norm_num) (by decide) (by decide)).1.1 beyond
  | @finite m e e' v rounds high value representable =>
    obtain ⟨k, hk, hv⟩ := rounds.multiple
    have hlow := rounds.low
    refine .finite ⟨hlow, rounds.normal.imp_right fun hnormal => ?_, rounds.multiple, ?_⟩ high value
      representable
    · rw [maxExponent] at high
      rw [minExponent] at hlow
      have hbottom : (2 : ℚ) ^ 52 * 2 ^ e' = (2 ^ 53 : ℕ) * 2 ^ (e' - 1) := by
        rw [zpow_sub_one₀ two_ne_zero]
        push_cast
        ring
      rw [hbottom] at hnormal ⊢
      exact (h.sides (by norm_num) (by omega) (by omega)).1.1 hnormal
    · rw [hv]
      exact h.near hb hk hlow high (hv ▸ rounds.near)

theorem Undecided.scale {a b : ℚ} (h : Undecided a b) (place : ℤ) :
    Undecided (a * 10 ^ place) (b * 10 ^ place) := by
  rcases h with rfl | ⟨p, k, hp, ha, hb⟩
  · exact .inl rfl
  · have hten : (0 : ℚ) < 10 ^ place := by positivity
    have hscale : ∀ c : ℚ, Inside p k c → Inside p (k + place) (c * 10 ^ place) := fun c hc => by
      rw [Inside, zpow_add₀ (by norm_num), ← mul_assoc, ← mul_assoc]
      exact ⟨mul_lt_mul_of_pos_right hc.1 hten, mul_lt_mul_of_pos_right hc.2 hten⟩
    exact .inr ⟨p, k + place, hp, hscale a ha, hscale b hb⟩

/-- Of the digits behind a thousand others it is enough to keep one, a zero if they are all zeros and
else a one. -/
theorem undecided_lastDigit {p : ℕ} (hp : 10 ^ 999 ≤ p) {c : Char} {more : List Char}
    (hdigits : ∀ d ∈ c :: more, isAsciiDigit d = true) :
    Undecided ((p * 10 + natOfDigits [if (c :: more).all (· == '0') then '0' else '1'] : ℕ) *
        10 ^ more.length)
      (p * 10 ^ (more.length + 1) + natOfDigits (c :: more) : ℕ) := by
  by_cases hzeros : (c :: more).all (· == '0') = true
  · left
    have hlast : natOfDigits ['0'] = 0 := rfl
    simp only [hzeros, if_true, hlast, natOfDigits_eq_zero hzeros]
    push_cast
    ring
  · right
    have hpos := natOfDigits_pos hdigits hzeros
    have hless := natOfDigits_lt hdigits
    rw [List.length_cons] at hless
    have hlast : natOfDigits ['1'] = 1 := rfl
    simp only [hzeros, Bool.false_eq_true, if_false, hlast]
    generalize natOfDigits (c :: more) = r at *
    have hten : 0 < 10 ^ more.length := by positivity
    have hinside : ∀ n : ℕ, p * 10 ^ (more.length + 1) < n → n < (p + 1) * 10 ^ (more.length + 1) →
        Inside p (more.length + 1 : ℕ) n := fun n hlow hhigh => by
      rw [Inside, zpow_natCast]
      exact ⟨by exact_mod_cast hlow, by exact_mod_cast hhigh⟩
    have hkept := hinside ((p * 10 + 1) * 10 ^ more.length) (by rw [pow_succ 10 more.length]; linarith)
      (by rw [pow_succ 10 more.length]; linarith)
    have htrue := hinside (p * 10 ^ (more.length + 1) + r) (by omega) (by rw [add_mul]; omega)
    rw [Nat.cast_mul, Nat.cast_pow, Nat.cast_ofNat] at hkept
    exact ⟨p, _, hp, hkept, htrue⟩

/-- The digits that are kept of a numeral leave its rounding undecided. -/
theorem undecided_leadingDigits {ds : List Char} (hdigits : ∀ d ∈ ds, isAsciiDigit d = true) :
    Undecided ((leadingDigits ds).1 * 10 ^ (leadingDigits ds).2) (natOfDigits ds) := by
  rw [← natOfDigits_dropZeros ds, leadingDigits]
  have hsome : ∀ d ∈ ds.dropWhile (· == '0'), isAsciiDigit d = true :=
    fun d hd => hdigits d ((List.dropWhile_sublist _).subset hd)
  have hfirst : ∀ d rest, ds.dropWhile (· == '0') = d :: rest → d ≠ '0' :=
    fun d rest => ne_zero_of_dropZeros
  generalize ds.dropWhile (· == '0') = es at *
  cases hrest : es.drop maxDecidingDigits with
  | nil => exact .inl (by simp)
  | cons c more =>
    have hlong : maxDecidingDigits < es.length := by
      by_contra hshort
      rw [List.drop_eq_nil_of_le (not_lt.1 hshort)] at hrest
      cases hrest
    have hsplit : es = es.take maxDecidingDigits ++ c :: more := by
      rw [← hrest, List.take_append_drop]
    have htail : ∀ d ∈ c :: more, isAsciiDigit d = true := fun d hd =>
      hsome d (hsplit ▸ List.mem_append_right _ hd)
    have hmany : 10 ^ 999 ≤ natOfDigits (es.take maxDecidingDigits) :=
      pow_le_natOfDigits_take hsome hfirst (Nat.lt_of_succ_lt hlong)
    have hvalue : natOfDigits es =
        natOfDigits (es.take maxDecidingDigits) * 10 ^ (more.length + 1) + natOfDigits (c :: more) := by
      conv_lhs => rw [hsplit, natOfDigits_append, List.length_cons]
    simp only [natOfDigits_append, List.length_singleton, pow_one, hvalue]
    exact undecided_lastDigit hmany htail

/-! ### Rounding by the number of digits -/

/-- The number that a numeral without a sign stands for. -/
def Scientific.value (x : Scientific) : ℚ := x.count * 10 ^ x.place

theorem Scientific.value_nonneg (x : Scientific) : 0 ≤ x.value := by
  unfold value
  positivity

/-- A positive number has as many digits as the power of ten behind it. -/
theorem Scientific.value_bounds {x : Scientific} (h : x.count ≠ 0) :
    (10 : ℚ) ^ ((Nat.toDigits 10 x.count).length + x.place - 1) ≤ x.value ∧
      x.value < 10 ^ ((Nat.toDigits 10 x.count).length + x.place) := by
  have hpos : 0 < (Nat.toDigits 10 x.count).length := Nat.length_toDigits_pos
  have hless : x.count < 10 ^ (Nat.toDigits 10 x.count).length :=
    (Nat.length_toDigits_le_iff (by norm_num) hpos).1 (le_refl _)
  have hleast : 10 ^ ((Nat.toDigits 10 x.count).length - 1) ≤ x.count := by
    by_contra hlt
    rcases Nat.eq_zero_or_pos ((Nat.toDigits 10 x.count).length - 1) with hzero | hone
    · rw [hzero, pow_zero] at hlt
      omega
    · have := (Nat.length_toDigits_le_iff (by norm_num) hone).2 (not_le.1 hlt)
      omega
  generalize (Nat.toDigits 10 x.count).length = n at *
  have hten : (0 : ℚ) < 10 ^ x.place := by positivity
  rw [value, show ((n : ℤ) + x.place - 1) = ((n - 1 : ℕ) : ℤ) + x.place by omega,
    zpow_add₀ (by norm_num), zpow_add₀ (by norm_num), zpow_natCast, zpow_natCast]
  exact ⟨mul_le_mul_of_nonneg_right (by exact_mod_cast hleast) hten.le,
    mul_lt_mul_of_pos_right (by exact_mod_cast hless) hten⟩

theorem Scientific.rounded_toBinary64 (x : Scientific) (negative : Bool) :
    Rounded negative x.value (x.toBinary64 negative) := by
  by_cases hzero : x.count = 0
  · have hvalue : x.value = 0 := by simp [value, hzero]
    simpa [toBinary64, hzero, hvalue] using rounded_zero negative (le_refl 0) (by positivity)
  · obtain ⟨hleast, hmost⟩ := value_bounds hzero
    have hcount : (x.count == 0) = false := by simpa using hzero
    simp only [toBinary64, hcount, Bool.false_eq_true, if_false]
    split_ifs with hlarge hsmall
    · refine .infinite ?_
      calc ((2 : ℚ) ^ 53 - 1 / 2) * 2 ^ maxExponent ≤ 2 ^ (53 : ℤ) * 2 ^ maxExponent := by
            gcongr
            norm_num
        _ = 2 ^ (53 + maxExponent) := by rw [zpow_add₀ two_ne_zero]
        _ ≤ 2 ^ (205 * 5 : ℤ) := zpow_le_zpow_right₀ (by norm_num) (by decide)
        _ = (2 ^ (205 : ℤ)) ^ (5 : ℤ) := zpow_mul _ _ _
        _ ≤ (10 ^ (62 : ℤ)) ^ (5 : ℤ) :=
            zpow_le_zpow_left₀ (by norm_num) (by positivity) (by norm_num)
        _ = 10 ^ (62 * 5 : ℤ) := (zpow_mul _ _ _).symm
        _ ≤ x.value := (zpow_le_zpow_right₀ (by norm_num) (by omega)).trans hleast
    · refine rounded_zero negative x.value_nonneg ?_
      calc x.value ≤ 10 ^ (-66 * 5 : ℤ) :=
            hmost.le.trans (zpow_le_zpow_right₀ (by norm_num) (by omega))
        _ = (10 ^ (-66 : ℤ)) ^ (5 : ℤ) := zpow_mul _ _ _
        _ ≤ (2 ^ (-215 : ℤ)) ^ (5 : ℤ) :=
            zpow_le_zpow_left₀ (by norm_num) (by positivity) (by norm_num)
        _ = 2 ^ (-215 * 5 : ℤ) := (zpow_mul _ _ _).symm
        _ ≤ 2 ^ minExponent / 2 := by
            rw [div_eq_mul_inv, ← zpow_sub_one₀ two_ne_zero]
            exact zpow_le_zpow_right₀ (by norm_num) (by decide)
    · have hvalue : x.value =
          ((x.count * Nat.pow 10 x.place.toNat : ℕ) : ℚ) / (Nat.pow 10 (-x.place).toNat : ℕ) := by
        rw [value, ← pow_toNat_div (by norm_num) x.place]
        simp only [Nat.pow_eq]
        push_cast
        ring
      rw [hvalue]
      exact rounded_ofRatio negative _ (Nat.pow_pos (by norm_num))

end TablePipeline.Numeral
