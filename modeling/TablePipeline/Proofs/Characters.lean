import Mathlib
import TablePipeline.Number.Numeral
import TablePipeline.Calendar.Scan

/-!
Digits of every script and blanks. No digit is blank, so a numeral stays whole when the blanks around
it are trimmed away; and the ASCII form of a digit has its value.
-/
namespace TablePipeline.Text

/-- The blank characters as runs of code points, first and last. -/
def blankRuns : List (ℕ × ℕ) :=
  [(9, 13), (28, 32), (0x85, 0x85), (0xA0, 0xA0), (0x1680, 0x1680), (0x2000, 0x200A),
    (0x2028, 0x2029), (0x202F, 0x202F), (0x205F, 0x205F), (0x3000, 0x3000)]

theorem isBlank_iff {c : Char} :
    isBlank c = true ↔ ∃ run ∈ blankRuns, run.1 ≤ c.toNat ∧ c.toNat ≤ run.2 := by
  simp only [isBlank, blankRuns, Bool.or_eq_true, Bool.and_eq_true, decide_eq_true_eq, beq_iff_eq,
    List.mem_cons, List.not_mem_nil, or_false, exists_eq_or_imp, exists_eq_left]
  omega

/-- The digits of a script end before a run of blanks or start behind it. -/
theorem zeroDigits_apart : ∀ first ∈ zeroDigits, ∀ run ∈ blankRuns,
    first + 9 < run.1 ∨ run.2 < first := by
  decide

/-- A digit stands in the run of a script as far behind its zero as its value says. -/
theorem exists_zero_of_digitValue? {c : Char} {v : ℕ} (h : digitValue? c = some v) :
    ∃ first ∈ zeroDigits, c.toNat = first + v ∧ v ≤ 9 := by
  unfold digitValue? at h
  split_ifs at h with hascii hdigit
  · have hrange : 48 ≤ c.toNat ∧ c.toNat ≤ 57 := by
      simpa [Char.isDigit, UInt32.le_iff_toNat_le] using hdigit
    obtain rfl := Option.some.inj h
    exact ⟨48, by decide, by omega, by omega⟩
  · obtain ⟨first, hfirst, rfl⟩ := Option.map_eq_some_iff.1 h
    have hmem := List.mem_of_find?_eq_some hfirst
    have hrange := List.find?_some hfirst
    simp only [Bool.and_eq_true, decide_eq_true_eq] at hrange
    exact ⟨first, hmem, by omega, by omega⟩

theorem isBlank_of_digit {c : Char} (h : (digitValue? c).isSome = true) : isBlank c = false := by
  obtain ⟨v, hv⟩ := Option.isSome_iff_exists.1 h
  obtain ⟨first, hfirst, hc, hv9⟩ := exists_zero_of_digitValue? hv
  by_contra hblank
  obtain ⟨run, hrun, hlow, hhigh⟩ := isBlank_iff.1 (by simpa using hblank)
  have := zeroDigits_apart first hfirst run hrun
  omega

theorem trimStart_append {before cs : List Char} (h : ∀ c ∈ before, isBlank c = true) :
    trimStart (before ++ cs) = trimStart cs :=
  List.dropWhile_append_of_pos h

theorem trimStart_of_solid {c : Char} {cs : List Char} (h : isBlank c = false) :
    trimStart (c :: cs) = c :: cs := by
  simp [trimStart, h]

/-- Trimming takes away the blanks around a text without blanks. -/
theorem trim_append {before core after : List Char} (hbefore : ∀ c ∈ before, isBlank c = true)
    (hcore : ∀ c ∈ core, isBlank c = false) (hafter : ∀ c ∈ after, isBlank c = true) :
    trim (before ++ core ++ after) = core := by
  rw [trim, List.append_assoc, trimStart_append hbefore]
  cases core with
  | nil =>
    have hall : trimStart after = [] := by
      simpa [trimStart] using hafter
    rw [List.nil_append, hall]
    rfl
  | cons c cs =>
    rw [List.cons_append, trimStart_of_solid (hcore c List.mem_cons_self), ← List.cons_append,
      List.reverse_append, trimStart_append (by simpa using hafter)]
    obtain ⟨d, ds, hlast⟩ := List.exists_cons_of_ne_nil (List.reverse_ne_nil_iff.2 (List.cons_ne_nil c cs))
    have hd : isBlank d = false := hcore d (List.mem_reverse.1 (hlast ▸ List.mem_cons_self))
    rw [hlast, trimStart_of_solid hd, ← hlast, List.reverse_reverse]

theorem trim_of_solid {cs : List Char} (h : ∀ c ∈ cs, isBlank c = false) : trim cs = cs := by
  simpa using @trim_append [] cs [] (by simp) h (by simp)

theorem length_trim_le (cs : List Char) : (trim cs).length ≤ cs.length := by
  have hstart : ∀ ds : List Char, (trimStart ds).length ≤ ds.length := fun ds =>
    (List.dropWhile_sublist _).length_le
  rw [trim, List.length_reverse]
  calc (trimStart (trimStart cs).reverse).length ≤ (trimStart cs).reverse.length := hstart _
    _ = (trimStart cs).length := List.length_reverse
    _ ≤ cs.length := hstart cs

end TablePipeline.Text

namespace TablePipeline.Numeral

open Text

theorem asciiForm_digit {c : Char} (h : (digitValue? c).isSome = true) :
    isAsciiDigit (asciiForm c) = true ∧ (asciiForm c).toNat - 48 = (digitValue? c).getD 0 := by
  obtain ⟨v, hv⟩ := Option.isSome_iff_exists.1 h
  obtain ⟨-, -, -, hv9⟩ := exists_zero_of_digitValue? hv
  have hform : asciiForm c = Char.ofNat (48 + v) := by simp [asciiForm, hv]
  rw [hform, hv]
  have hall : ∀ v ≤ 9, isAsciiDigit (Char.ofNat (48 + v)) = true ∧ (Char.ofNat (48 + v)).toNat - 48 = v := by
    decide
  exact hall v hv9

/-- The ASCII forms of digits write the same number. -/
theorem natOfDigits_asciiForm {ds : List Char} (h : ∀ d ∈ ds, (digitValue? d).isSome = true) :
    natOfDigits (ds.map asciiForm) = Calendar.numberOf ds := by
  rw [natOfDigits, Calendar.numberOf, List.foldl_map]
  exact List.foldl_ext _ _ _ fun n d hd => by rw [(asciiForm_digit (h d hd)).2]

end TablePipeline.Numeral
