import Mathlib
import TablePipeline.Calendar.Scan
import TablePipeline.Proofs.Characters

/-!
Patterns of days: year, month and day, each once and in any order, with text between them that has
neither digits nor blanks nor percent signs. A day is written field by field. Month and day have two
digits; the year has as many as it needs. The text between the fields is copied up to a NUL, at which
the pattern ends.
-/
namespace TablePipeline.Calendar

open Text

/-- A field of a day. -/
inductive DayField where
  | year
  | month
  | day
  deriving DecidableEq

namespace DayField

def letter : DayField → Char
  | year => 'Y'
  | month => 'm'
  | day => 'd'

def number (d : Date) : DayField → ℕ
  | year => d.year
  | month => d.month
  | day => d.day

/-- The digits to which a field is filled up with zeros. -/
def width : DayField → ℕ
  | year => 1
  | month | day => 2

/-- A field of a day as it is written. -/
def written (d : Date) (f : DayField) : List Char := fillTo '0' f.width (Nat.toDigits 10 (f.number d))

end DayField

/-- What may stand between two fields. -/
structure Separator (cs : List Char) : Prop where
  some_char : cs ≠ []
  no_digit : ∀ c ∈ cs, digitValue? c = none
  no_blank : ∀ c ∈ cs, isBlank c = false
  no_percent : ∀ c ∈ cs, c ≠ '%'

/-- A pattern of days. -/
structure DayPattern where
  first : DayField
  second : DayField
  third : DayField
  left : List Char
  right : List Char
  each_once : [first, second, third].Perm [.year, .month, .day]
  left_separator : Separator left
  right_separator : Separator right

namespace DayPattern

def chars (P : DayPattern) : List Char :=
  '%' :: P.first.letter :: (P.left ++ '%' :: P.second.letter :: (P.right ++ ['%', P.third.letter]))

def text (P : DayPattern) : String := String.ofList P.chars

/-- A day as the pattern says, if no NUL cuts it off. -/
def written (P : DayPattern) (d : Date) : List Char :=
  P.first.written d ++ (P.left ++ (P.second.written d ++ (P.right ++ P.third.written d)))

/-- The fields are three different ones. -/
theorem distinct (P : DayPattern) : P.first ≠ P.second ∧ P.first ≠ P.third ∧ P.second ≠ P.third := by
  have hnodup : [P.first, P.second, P.third].Nodup := P.each_once.nodup_iff.2 (by decide)
  simpa [and_assoc] using hnodup

end DayPattern

/-! ### The fields as they are written -/

theorem digitValue?_of_isDigit {c : Char} (h : c.isDigit = true) : digitValue? c = some (c.toNat - 48) := by
  have hrange : 48 ≤ c.toNat ∧ c.toNat ≤ 57 := by
    simpa [Char.isDigit, UInt32.le_iff_toNat_le] using h
  have hascii : c.toNat < 128 := by omega
  simp [digitValue?, hascii, h]

namespace DayField

theorem isDigit_written (d : Date) (f : DayField) : ∀ c ∈ f.written d, c.isDigit = true := by
  intro c hc
  rcases List.mem_append.1 hc with hc | hc
  · obtain ⟨-, rfl⟩ := List.mem_replicate.1 hc
    rfl
  · exact Nat.isDigit_of_mem_toDigits (by norm_num) (by norm_num) hc

/-- A field writes its number. -/
theorem numberOf_written (d : Date) (f : DayField) : numberOf (f.written d) = f.number d := by
  have hvalue : numberOf (f.written d) = Nat.ofDigitChars 10 (f.written d) 0 := by
    refine List.foldl_ext _ _ _ fun n c hc => ?_
    rw [digitValue?_of_isDigit (f.isDigit_written d c hc), Nat.mul_comm]
    rfl
  rw [hvalue, written, fillTo, Nat.ofDigitChars_append, Nat.ofDigitChars_replicate_zero, Nat.mul_zero,
    Nat.ofDigitChars_ten_toDigits]

end DayField

theorem date_bounds (d : Date) :
    (1 ≤ d.year ∧ d.year ≤ 9999) ∧ (1 ≤ d.month ∧ d.month ≤ 12) ∧ 1 ≤ d.day ∧ d.day ≤ 31 := by
  have hvalid := d.valid
  have hmonth : daysInMonth d.year d.month ≤ 31 := by
    unfold daysInMonth
    split_ifs <;> omega
  have hmax : maxYear = 9999 := rfl
  simp only [isDay, Bool.and_eq_true, decide_eq_true_eq] at hvalid
  omega

theorem length_toDigits_le {n k : ℕ} (hk : 0 < k) (h : n < 10 ^ k) : (Nat.toDigits 10 n).length ≤ k :=
  (Nat.length_toDigits_le_iff (by norm_num) hk).2 h

theorem length_fillTo (mark : Char) (width : ℕ) (cs : List Char) :
    (fillTo mark width cs).length = max width cs.length := by
  simp only [fillTo, List.length_append, List.length_replicate]
  omega

/-- Month and day have two digits, and the year four from 1000 on and less before. -/
theorem DayField.length_written (d : Date) :
    (DayField.month.written d).length = 2 ∧ (DayField.day.written d).length = 2 ∧
      1 ≤ (DayField.year.written d).length ∧ (DayField.year.written d).length ≤ 4 ∧
      ((DayField.year.written d).length = 4 ↔ 1000 ≤ d.year) := by
  obtain ⟨⟨-, hyear⟩, ⟨-, hmonth⟩, -, hday⟩ := date_bounds d
  have hyear4 := length_toDigits_le (n := d.year) (k := 4) (by norm_num) (by omega)
  have hyear3 := Nat.length_toDigits_le_iff (b := 10) (n := d.year) (k := 3) (by norm_num) (by norm_num)
  have hmonth2 := length_toDigits_le (n := d.month) (k := 2) (by norm_num) (by omega)
  have hday2 := length_toDigits_le (n := d.day) (k := 2) (by norm_num) (by omega)
  simp only [written, length_fillTo, width, number]
  omega

theorem DayField.length_bounds (d : Date) (f : DayField) :
    1 ≤ (f.written d).length ∧ (f.written d).length ≤ 4 := by
  obtain ⟨hmonth, hday, hyear, hyear4, -⟩ := DayField.length_written d
  cases f <;> omega

theorem DayField.length_two (d : Date) {f g : DayField} (h : f ≠ g) :
    (f.written d).length + (g.written d).length ≤ 6 := by
  obtain ⟨hmonth, hday, -, hyear, -⟩ := DayField.length_written d
  cases f <;> cases g <;> first | exact absurd rfl h | omega

/-! ### Writing a day -/

section
variable {t : DateTime} {d : Date} {cs rest : List Char}

/-- The part of a text before its first NUL. -/
def untilNul (cs : List Char) : List Char := cs.takeWhile (· != '\x00')

theorem length_untilNul (h : '\x00' ∈ cs) : (untilNul cs).length < cs.length := by
  refine lt_of_le_of_ne (List.takeWhile_sublist _).length_le fun heq => ?_
  have hall := List.takeWhile_eq_self_iff.1 ((List.takeWhile_sublist _).eq_of_length heq) _ h
  simp at hall

theorem substituted_literals (hpercent : ∀ c ∈ cs, c ≠ '%') (hnul : '\x00' ∉ cs) :
    substituted t (cs ++ rest) = cs ++ substituted t rest := by
  induction cs with
  | nil => rfl
  | cons c cs ih =>
    have hc := hpercent c List.mem_cons_self
    have hnot : c ≠ '\x00' := fun h => hnul (h ▸ List.mem_cons_self)
    have htail := ih (fun x hx => hpercent x (List.mem_cons_of_mem c hx))
      fun h => hnul (List.mem_cons_of_mem c h)
    simp [substituted, hc, hnot, htail]

theorem substituted_untilNul (hpercent : ∀ c ∈ cs, c ≠ '%') (hnul : '\x00' ∈ cs) :
    substituted t (cs ++ rest) = untilNul cs := by
  induction cs with
  | nil => simp at hnul
  | cons c cs ih =>
    have hc := hpercent c List.mem_cons_self
    by_cases hnot : c = '\x00'
    · subst hnot
      simp [substituted, untilNul]
    · have htail := ih (fun x hx => hpercent x (List.mem_cons_of_mem c hx))
        ((List.mem_cons.1 hnul).resolve_left (Ne.symm hnot))
      rw [untilNul] at htail ⊢
      simp [substituted, hc, hnot, htail]

theorem substituted_field (f : DayField) :
    substituted t ('%' :: f.letter :: rest) = '%' :: f.letter :: substituted t rest := by
  cases f <;> simp [substituted, DayField.letter]

theorem formatChars_literals {room : ℕ} (hpercent : ∀ c ∈ cs, c ≠ '%') :
    formatChars room t (cs ++ rest) = cs ++ formatChars room t rest := by
  induction cs with
  | nil => rfl
  | cons c cs ih =>
    have hc := hpercent c List.mem_cons_self
    have htail := ih fun x hx => hpercent x (List.mem_cons_of_mem c hx)
    rw [List.cons_append, formatChars]
    simp [hc, htail]

theorem formatChars_untilNul {room : ℕ} (hpercent : ∀ c ∈ cs, c ≠ '%') :
    formatChars room t (untilNul cs) = untilNul cs := by
  have hliterals := @formatChars_literals t (untilNul cs) [] room
    fun c hc => hpercent c ((List.takeWhile_sublist _).subset hc)
  simpa [formatChars] using hliterals

theorem Style.take_field (room : ℕ) (f : DayField) :
    Style.take room {} (f.letter :: rest) = ({}, f.letter :: rest) := by
  cases f <;> simp [Style.take, DayField.letter]

theorem field?_dayField (f : DayField) :
    field? { date := d } {} f.letter = some (f.written d) := by
  have hwidth : ∀ (n : ℕ) (digits : ℕ),
      Style.number {} '0' digits n = fillTo '0' digits (Nat.toDigits 10 n) := fun n digits => by
    simp [Style.number, Int.not_ofNat_neg]
  cases f <;> simp only [DayField.letter, field?, hwidth] <;> rfl

theorem directive_field {room : ℕ} (f : DayField) :
    directive room { date := d } (f.letter :: rest) = (f.written d, 1) := by
  have hmodifier : (f.letter == 'E' || f.letter == 'O') = false := by cases f <;> rfl
  cases rest with
  | nil => simp [directive, Style.take_field, field?_dayField]
  | cons c rest => simp [directive, Style.take_field, hmodifier, field?_dayField]

theorem formatChars_field {room : ℕ} (f : DayField) :
    formatChars room { date := d } ('%' :: f.letter :: rest) =
      f.written d ++ formatChars room { date := d } rest := by
  rw [formatChars]
  simp [directive_field]

/-- There is room for 256 characters for each of the pattern. -/
theorem lt_roomFor {n size : ℕ} (h : n < 256 * size) : n < roomFor size := by
  unfold roomFor
  split_ifs with hsmall
  · omega
  · have hpow : 256 * size - 1 < 2 ^ ((256 * size - 1).log2 + 1) := Nat.lt_log2_self
    rw [Nat.pow_eq]
    omega

/-- What is written of a pattern whose fields and literals have been put together. -/
theorem formatTime_of_short {pattern : String} {cs text : List Char}
    (hcs : substituted t pattern.toList = cs)
    (htext : ∀ room, formatChars room t cs = text) (hshort : text.length < 256 * cs.length) :
    formatTime pattern t = String.ofList text := by
  simp only [formatTime, hcs, htext, if_pos (lt_roomFor hshort)]

end

namespace DayPattern

variable (P : DayPattern) (d : Date)

theorem toList_text : P.text.toList = P.chars := String.toList_ofList

/-- A day is written field by field with the text between them. -/
theorem formatDate_text (hleft : '\x00' ∉ P.left) (hright : '\x00' ∉ P.right) :
    formatDate P.text d = String.ofList (P.written d) := by
  refine @formatTime_of_short _ P.text P.chars (P.written d) ?_ (fun room => ?_) ?_
  · rw [toList_text, chars, substituted_field, substituted_literals P.left_separator.no_percent hleft,
      substituted_field, substituted_literals P.right_separator.no_percent hright, substituted_field]
    rfl
  · rw [chars, formatChars_field, formatChars_literals P.left_separator.no_percent,
      formatChars_field, formatChars_literals P.right_separator.no_percent, formatChars_field,
      formatChars, List.append_nil]
    rfl
  · have hfirst := P.first.length_bounds d
    have hsecond := P.second.length_bounds d
    have hthird := P.third.length_bounds d
    simp only [written, chars, List.length_append, List.length_cons, List.length_nil]
    omega

/-- After a NUL nothing is written, so what is written is shorter than any text of the pattern. -/
theorem length_formatDate (hnul : '\x00' ∈ P.left ∨ '\x00' ∈ P.right) :
    (formatDate P.text d).toList.length < P.left.length + P.right.length + 6 := by
  have hlength : ∀ cs text : List Char,
      substituted { date := d } P.text.toList = cs → (∀ room, formatChars room { date := d } cs = text) →
      text.length < 256 * cs.length → text.length < P.left.length + P.right.length + 6 →
      (formatDate P.text d).toList.length < P.left.length + P.right.length + 6 := by
    intro cs text hcs htext hshort hless
    rw [formatDate, formatTime_of_short hcs htext hshort, String.toList_ofList]
    exact hless
  have hfirst := P.first.length_bounds d
  have hsecond := P.second.length_bounds d
  by_cases hleft : '\x00' ∈ P.left
  · have huntil := length_untilNul hleft
    refine hlength ('%' :: P.first.letter :: untilNul P.left)
      (P.first.written d ++ untilNul P.left) ?_ (fun room => ?_) ?_ ?_
    · rw [toList_text, chars, substituted_field,
        substituted_untilNul P.left_separator.no_percent hleft]
    · rw [formatChars_field, formatChars_untilNul P.left_separator.no_percent]
    · simp only [List.length_append, List.length_cons]
      omega
    · simp only [List.length_append]
      omega
  · have hright := hnul.resolve_left hleft
    have huntil := length_untilNul hright
    have htwo := DayField.length_two d P.distinct.1
    refine hlength ('%' :: P.first.letter :: (P.left ++ '%' :: P.second.letter :: untilNul P.right))
      (P.first.written d ++ (P.left ++ (P.second.written d ++ untilNul P.right)))
      ?_ (fun room => ?_) ?_ ?_
    · rw [toList_text, chars, substituted_field,
        substituted_literals P.left_separator.no_percent hleft, substituted_field,
        substituted_untilNul P.right_separator.no_percent hright]
    · rw [formatChars_field, formatChars_literals P.left_separator.no_percent, formatChars_field,
        formatChars_untilNul P.right_separator.no_percent]
    · simp only [List.length_append, List.length_cons]
      omega
    · simp only [List.length_append]
      omega

end DayPattern

end TablePipeline.Calendar
