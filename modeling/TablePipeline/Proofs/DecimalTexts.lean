import Mathlib
import TablePipeline.Proofs.Characters
import TablePipeline.Proofs.DecimalRounding

/-!
Texts that are decimal numerals: blanks around them, a sign or none, digits of any script with a
fraction or without, and an exponent or none. The readers of integers and of numbers see their ASCII
form without the blanks. An integer is read exactly; a number is the nearest one to the rational that
the text writes.
-/
namespace TablePipeline.Numeral

open Text Binary64

/-- Digits of any script. -/
def Digits (ds : List Char) : Prop := ∀ d ∈ ds, (digitValue? d).isSome = true

/-- The character of a sign, where one stands. -/
def signChars : Option Bool → List Char
  | none => []
  | some true => ['-']
  | some false => ['+']

/-- Whether a sign is a minus. -/
def isMinus (sign : Option Bool) : Bool := sign.getD false

/-- The exponent of a numeral. -/
structure ExponentText where
  capital : Bool
  sign : Option Bool
  digits : List Char
  some_digit : digits ≠ []
  digits_only : Digits digits

namespace ExponentText

def mark (e : ExponentText) : Char := if e.capital then 'E' else 'e'

def chars (e : ExponentText) : List Char := e.mark :: (signChars e.sign ++ e.digits)

def value (e : ExponentText) : ℤ :=
  if isMinus e.sign then -(Calendar.numberOf e.digits : ℤ) else Calendar.numberOf e.digits

end ExponentText

/-- A decimal numeral with blanks around it. -/
structure DecimalText where
  before : List Char
  sign : Option Bool
  whole : List Char
  fraction : Option (List Char)
  exponent : Option ExponentText
  after : List Char
  before_blank : ∀ c ∈ before, isBlank c = true
  after_blank : ∀ c ∈ after, isBlank c = true
  whole_digits : Digits whole
  fraction_digits : Digits (fraction.getD [])
  some_digit : whole ++ fraction.getD [] ≠ []

namespace DecimalText

/-- The digits, as if there were no point. -/
def digits (N : DecimalText) : List Char := N.whole ++ N.fraction.getD []

def fractionChars (N : DecimalText) : List Char := (N.fraction.map ('.' :: ·)).getD []

def exponentChars (N : DecimalText) : List Char := (N.exponent.map ExponentText.chars).getD []

/-- What stands behind the sign. -/
def body (N : DecimalText) : List Char := N.whole ++ N.fractionChars ++ N.exponentChars

def chars (N : DecimalText) : List Char := N.before ++ (signChars N.sign ++ N.body) ++ N.after

def text (N : DecimalText) : String := String.ofList N.chars

/-- The power of ten by which the number of the digits is scaled. -/
def place (N : DecimalText) : ℤ :=
  (N.exponent.map ExponentText.value).getD 0 - (N.fraction.getD []).length

/-- The number without its sign. -/
def magnitude (N : DecimalText) : ℚ := Calendar.numberOf N.digits * 10 ^ N.place

def value (N : DecimalText) : ℚ := withSign (isMinus N.sign) N.magnitude

/-- Neither a fraction nor an exponent. -/
def Plain (N : DecimalText) : Prop := N.fraction = none ∧ N.exponent = none

theorem magnitude_nonneg (N : DecimalText) : 0 ≤ N.magnitude := by
  unfold magnitude
  positivity

theorem digits_only (N : DecimalText) : Digits N.digits := fun d hd =>
  (List.mem_append.1 hd).elim (N.whole_digits d) (N.fraction_digits d)

end DecimalText

/-! ### The characters that the readers see -/

/-- The ASCII form of what stands behind the sign. -/
def DecimalText.asciiBody (N : DecimalText) : List Char := N.body.map asciiForm

theorem asciiForm_signChars (sign : Option Bool) : (signChars sign).map asciiForm = signChars sign := by
  rcases sign with _ | _ | _ <;> rfl

theorem isBlank_signChars (sign : Option Bool) : ∀ c ∈ signChars sign, isBlank c = false := by
  rcases sign with _ | _ | _ <;> simp [signChars, isBlank]

theorem Digits.solid {ds : List Char} (h : Digits ds) : ∀ c ∈ ds, isBlank c = false :=
  fun c hc => isBlank_of_digit (h c hc)

theorem ExponentText.solid (e : ExponentText) : ∀ c ∈ e.chars, isBlank c = false := by
  intro c hc
  rcases List.mem_cons.1 hc with rfl | hc
  · unfold ExponentText.mark
    split_ifs <;> decide
  · exact (List.mem_append.1 hc).elim (isBlank_signChars _ c) (e.digits_only.solid c)

theorem DecimalText.solid (N : DecimalText) : ∀ c ∈ signChars N.sign ++ N.body, isBlank c = false := by
  have hfraction : ∀ c ∈ N.fractionChars, isBlank c = false := by
    unfold fractionChars
    have hdigits := N.fraction_digits.solid
    cases hf : N.fraction with
    | none => simp
    | some ds =>
      rw [hf] at hdigits
      simpa using ⟨by decide, hdigits⟩
  have hexponent : ∀ c ∈ N.exponentChars, isBlank c = false := by
    unfold exponentChars
    cases N.exponent with
    | none => simp
    | some e => exact e.solid
  simp only [body, List.mem_append]
  rintro c (hc | (hc | hc) | hc)
  · exact isBlank_signChars _ c hc
  · exact N.whole_digits.solid c hc
  · exact hfraction c hc
  · exact hexponent c hc

theorem DecimalText.trim_chars (N : DecimalText) : trim N.chars = signChars N.sign ++ N.body :=
  trim_append N.before_blank N.solid N.after_blank

theorem DecimalText.strip_text (N : DecimalText) :
    strip N.text = String.ofList (signChars N.sign ++ N.body) := by
  rw [strip, text, String.toList_ofList, trim_chars]

theorem DecimalText.asciiForms_text (N : DecimalText) :
    asciiForms (strip N.text) = signChars N.sign ++ N.asciiBody := by
  rw [strip_text, asciiForms, String.toList_ofList, trim_of_solid N.solid, List.map_append,
    asciiForm_signChars, asciiBody]

theorem Digits.asciiForm {ds : List Char} (h : Digits ds) :
    ∀ c ∈ ds.map asciiForm, isAsciiDigit c = true := by
  intro c hc
  obtain ⟨d, hd, rfl⟩ := List.mem_map.1 hc
  exact (asciiForm_digit (h d hd)).1

/-- The ASCII form of an exponent. -/
theorem ExponentText.map_chars (e : ExponentText) :
    e.chars.map Numeral.asciiForm = e.mark :: (signChars e.sign ++ e.digits.map Numeral.asciiForm) := by
  have hmark : Numeral.asciiForm e.mark = e.mark := by
    unfold mark
    split_ifs <;> rfl
  rw [chars, List.map_cons, hmark, List.map_append, asciiForm_signChars]

/-- The exponent in ASCII form. -/
def DecimalText.asciiExponent (N : DecimalText) : List Char :=
  (N.exponent.map fun e => e.mark :: (signChars e.sign ++ e.digits.map asciiForm)).getD []

/-- The fraction and the exponent in ASCII form. -/
def DecimalText.asciiTail (N : DecimalText) : List Char :=
  (N.fraction.map fun ds => '.' :: ds.map asciiForm).getD [] ++ N.asciiExponent

theorem DecimalText.asciiBody_eq (N : DecimalText) :
    N.asciiBody = N.whole.map asciiForm ++ N.asciiTail := by
  have hpoint : asciiForm '.' = '.' := rfl
  rw [asciiBody, body, fractionChars, exponentChars, asciiTail, asciiExponent, List.append_assoc,
    List.map_append]
  cases N.fraction <;> cases N.exponent <;> simp [hpoint, ExponentText.map_chars]

/-- A character of a numeral in ASCII form. -/
def Expected (c : Char) : Prop := isAsciiDigit c = true ∨ c ∈ ['.', 'e', 'E', '+', '-']

theorem expected_signChars (sign : Option Bool) : ∀ c ∈ signChars sign, Expected c := by
  rcases sign with _ | _ | _ <;> simp [signChars, Expected]

theorem DecimalText.expected (N : DecimalText) : ∀ c ∈ signChars N.sign ++ N.asciiBody, Expected c := by
  have hdigits : ∀ ds, Digits ds → ∀ c ∈ ds.map asciiForm, Expected c :=
    fun ds h c hc => .inl (h.asciiForm c hc)
  have hmark : ∀ e : ExponentText, Expected e.mark := fun e => by
    unfold ExponentText.mark
    split_ifs <;> simp [Expected]
  have hfraction := N.fraction_digits
  rw [asciiBody_eq, asciiTail, asciiExponent]
  intro c hc
  rcases List.mem_append.1 hc with hc | hc
  · exact expected_signChars _ c hc
  rcases List.mem_append.1 hc with hc | hc
  · exact hdigits _ N.whole_digits c hc
  rcases List.mem_append.1 hc with hc | hc
  · cases hf : N.fraction with
    | none => simp [hf] at hc
    | some ds =>
      rw [hf] at hc hfraction
      rcases List.mem_cons.1 hc with rfl | hc
      · simp [Expected]
      · exact hdigits _ hfraction c hc
  · cases he : N.exponent with
    | none => simp [he] at hc
    | some e =>
      rw [he] at hc
      rcases List.mem_cons.1 hc with rfl | hc
      · exact hmark e
      rcases List.mem_append.1 hc with hc | hc
      · exact expected_signChars _ c hc
      · exact hdigits _ e.digits_only c hc

theorem dropUnderscores?_of_expected {cs : List Char} (h : ∀ c ∈ cs, Expected c) :
    dropUnderscores? cs = some cs := by
  have hnot : cs.contains '_' = false := by
    by_contra hmem
    have hunder := h '_' (by simpa using hmem)
    revert hunder
    simp [Expected, isAsciiDigit]
  rw [dropUnderscores?, hnot]
  rfl

theorem takeSign_append {sign : Option Bool} {c : Char} (cs : List Char) (hminus : c ≠ '-') (hplus : c ≠ '+') :
    takeSign (signChars sign ++ c :: cs) = (isMinus sign, c :: cs) := by
  rcases sign with _ | _ | _
  · simp only [signChars, List.nil_append, isMinus, Option.getD_none]
    unfold takeSign
    split <;> simp_all
  · rfl
  · rfl

/-- A digit or a point stands first behind the sign. -/
theorem DecimalText.asciiBody_head (N : DecimalText) :
    ∃ c cs, N.asciiBody = c :: cs ∧ (isAsciiDigit c = true ∨ c = '.') := by
  rw [asciiBody_eq]
  cases hwhole : N.whole with
  | cons d ds =>
    have hd := N.whole_digits d (hwhole ▸ List.mem_cons_self)
    exact ⟨_, _, rfl, .inl (asciiForm_digit hd).1⟩
  | nil =>
    have hsome := N.some_digit
    cases hf : N.fraction with
    | none => simp [hwhole, hf] at hsome
    | some ds => exact ⟨'.', ds.map asciiForm ++ N.asciiExponent, by simp [asciiTail, hf], .inr rfl⟩

theorem DecimalText.takeSign_text (N : DecimalText) :
    takeSign (signChars N.sign ++ N.asciiBody) = (isMinus N.sign, N.asciiBody) := by
  obtain ⟨c, cs, hbody, hc⟩ := N.asciiBody_head
  rw [hbody]
  refine takeSign_append cs ?_ ?_ <;> rintro rfl <;> simp [isAsciiDigit] at hc

/-! ### The reader of integers -/

theorem DecimalText.plain_iff (N : DecimalText) : N.Plain ↔ N.asciiTail = [] := by
  unfold Plain asciiTail asciiExponent
  cases N.fraction <;> cases N.exponent <;> simp

/-- An exponent starts with a character that is no digit and no point. -/
theorem DecimalText.asciiExponent_head (N : DecimalText) {c : Char} {cs : List Char}
    (h : N.asciiExponent = c :: cs) : isAsciiDigit c = false ∧ c ≠ '.' := by
  unfold asciiExponent at h
  cases hexponent : N.exponent with
  | none => simp [hexponent] at h
  | some e =>
    rw [hexponent] at h
    obtain ⟨rfl, -⟩ := List.cons.inj h
    unfold ExponentText.mark
    split_ifs <;> decide

/-- A fraction or an exponent starts with a character that is no digit. -/
theorem DecimalText.asciiTail_head (N : DecimalText) {c : Char} {cs : List Char}
    (h : N.asciiTail = c :: cs) : isAsciiDigit c = false := by
  cases hf : N.fraction with
  | some ds =>
    rw [asciiTail, hf] at h
    obtain ⟨rfl, -⟩ := List.cons.inj h
    decide
  | none => exact (N.asciiExponent_head (by simpa [asciiTail, hf] using h)).1

theorem DecimalText.digits_of_plain {N : DecimalText} (h : N.Plain) :
    N.digits = N.whole ∧ N.place = 0 := by
  simp [digits, place, h.1, h.2]

theorem DecimalText.expected_asciiBody (N : DecimalText) : ∀ c ∈ N.asciiBody, Expected c :=
  fun c hc => N.expected c (List.mem_append_right _ hc)

/-- What the reader of integers makes of a numeral. -/
theorem readInt_text (N : DecimalText) : readInt (strip N.text) =
    if N.asciiBody.isEmpty || !N.asciiBody.all isAsciiDigit then .malformed
    else if maxDigits < N.asciiBody.length then .tooLong N.asciiBody.length
    else .value (if isMinus N.sign then -(natOfDigits N.asciiBody : ℤ) else natOfDigits N.asciiBody) := by
  simp only [readInt, N.asciiForms_text, N.takeSign_text,
    dropUnderscores?_of_expected N.expected_asciiBody]

/-- An integer numeral without too many digits is read as the integer that it writes. -/
theorem readInt_plain {N : DecimalText} (h : N.Plain) (hlength : N.whole.length ≤ maxDigits) :
    ∃ i : ℤ, readInt (strip N.text) = .value i ∧ (i : ℚ) = N.value := by
  have hbody : N.asciiBody = N.whole.map asciiForm := by
    rw [N.asciiBody_eq, N.plain_iff.1 h, List.append_nil]
  have hsome : N.whole.isEmpty = false := by simpa [h.1] using N.some_digit
  obtain ⟨hsame, hplace⟩ := DecimalText.digits_of_plain h
  rw [readInt_text, hbody, List.all_eq_true.2 N.whole_digits.asciiForm,
    natOfDigits_asciiForm N.whole_digits, DecimalText.value, DecimalText.magnitude, hplace, hsame]
  simp only [List.isEmpty_map, hsome, List.length_map, not_lt.2 hlength]
  cases isMinus N.sign <;> simp [withSign]

/-- What is no integer numeral of so many digits at most is not read as an integer. -/
theorem readInt_not_plain {N : DecimalText} (h : ¬(N.Plain ∧ N.whole.length ≤ maxDigits)) (i : ℤ) :
    readInt (strip N.text) ≠ .value i := by
  have hlong : N.asciiBody.all isAsciiDigit = true → maxDigits < N.asciiBody.length := by
    intro hall
    by_contra hshort
    rw [N.asciiBody_eq, List.all_append, Bool.and_eq_true] at hall
    have htail : N.asciiTail = [] := by
      cases hcons : N.asciiTail with
      | nil => rfl
      | cons c cs => simp [hcons, N.asciiTail_head hcons] at hall
    rw [N.asciiBody_eq, htail] at hshort
    exact h ⟨N.plain_iff.2 htail, by simpa using hshort⟩
  rw [readInt_text]
  split_ifs with hbad hmany hminus
  · exact nofun
  · exact nofun
  all_goals
    have hall : N.asciiBody.all isAsciiDigit = true := by
      revert hbad
      cases N.asciiBody.all isAsciiDigit <;> simp
    exact absurd (hlong hall) hmany

/-! ### The reader of numbers -/

theorem takeWhile_digits {ds cs : List Char} (hds : ∀ c ∈ ds, isAsciiDigit c = true)
    (hcs : ∀ c rest, cs = c :: rest → isAsciiDigit c = false) :
    (ds ++ cs).takeWhile isAsciiDigit = ds ∧ (ds ++ cs).dropWhile isAsciiDigit = cs := by
  rw [List.takeWhile_append_of_pos hds, List.dropWhile_append_of_pos hds]
  cases cs with
  | nil => simp
  | cons c rest => simp [hcs c rest rfl]

theorem readExponent?_asciiExponent (N : DecimalText) :
    readExponent? N.asciiExponent = some ((N.exponent.map ExponentText.value).getD 0) := by
  unfold DecimalText.asciiExponent
  cases N.exponent with
  | none => rfl
  | some e =>
    have hdigits := e.digits_only.asciiForm
    obtain ⟨d, ds, hcons⟩ := List.exists_cons_of_ne_nil e.some_digit
    have hd : isAsciiDigit (asciiForm d) = true :=
      hdigits _ (List.mem_map_of_mem (hcons ▸ List.mem_cons_self))
    have hsign : takeSign (signChars e.sign ++ e.digits.map asciiForm) =
        (isMinus e.sign, e.digits.map asciiForm) := by
      rw [hcons, List.map_cons]
      refine takeSign_append _ ?_ ?_ <;> intro heq <;> simp [heq, isAsciiDigit] at hd
    have hempty : (e.digits.map asciiForm).isEmpty = false := by simpa using e.some_digit
    have hmark : (e.mark == 'e' || e.mark == 'E') = true := by
      unfold ExponentText.mark
      split_ifs <;> rfl
    simp only [Option.map_some, Option.getD_some, readExponent?, hmark, if_true, hsign, hempty,
      List.all_eq_true.2 hdigits, natOfDigits_asciiForm e.digits_only, Bool.not_true, Bool.or_false,
      Bool.false_eq_true, if_false, ExponentText.value]

/-- A numeral is split into its digits, the fraction among them, and the exponent behind. -/
theorem readScientific?_asciiBody_eq (N : DecimalText) :
    readScientific? N.asciiBody = (readExponent? N.asciiExponent).map fun e =>
      ⟨(leadingDigits (N.digits.map asciiForm)).1,
        e + (leadingDigits (N.digits.map asciiForm)).2 - (N.fraction.getD []).length⟩ := by
  have hsome : N.digits.isEmpty = false := by simpa [DecimalText.digits] using N.some_digit
  have hwholeSplit := takeWhile_digits N.whole_digits.asciiForm fun c rest => N.asciiTail_head
  simp only [readScientific?, N.asciiBody_eq, hwholeSplit.1, hwholeSplit.2]
  cases hf : N.fraction with
  | none =>
    have htail : N.asciiTail = N.asciiExponent := by simp [DecimalText.asciiTail, hf]
    have hall : N.digits = N.whole := by simp [DecimalText.digits, hf]
    rw [hall] at hsome
    rw [htail, hall]
    split
    next tail hpoint => exact absurd rfl (N.asciiExponent_head hpoint).2
    next => simp [hsome]
  | some ds =>
    have hds : Digits ds := by simpa [hf] using N.fraction_digits
    have htail : N.asciiTail = '.' :: (ds.map asciiForm ++ N.asciiExponent) := by
      simp [DecimalText.asciiTail, hf]
    have hall : N.digits = N.whole ++ ds := by simp [DecimalText.digits, hf]
    have hfractionSplit := takeWhile_digits hds.asciiForm fun c rest hcons =>
      (N.asciiExponent_head hcons).1
    have hboth : (N.whole.isEmpty && ds.isEmpty) = false := by
      rw [hall] at hsome
      cases hw : N.whole <;> simp_all
    simp only [htail, hfractionSplit.1, hfractionSplit.2, List.isEmpty_map, hboth, hall,
      List.map_append, List.length_map, Option.getD_some, Bool.false_eq_true, if_false]

/-- A numeral is read as digits and a place whose rounding is that of the number it writes. -/
theorem readScientific?_asciiBody (N : DecimalText) :
    ∃ x : Scientific, readScientific? N.asciiBody = some x ∧ Undecided x.value N.magnitude := by
  rw [readScientific?_asciiBody_eq, readExponent?_asciiExponent]
  refine ⟨_, rfl, ?_⟩
  have hplace : ∀ e : ℤ, (10 : ℚ) ^ (e + (leadingDigits (N.digits.map asciiForm)).2 - (N.fraction.getD []).length) =
      10 ^ (leadingDigits (N.digits.map asciiForm)).2 * 10 ^ (e - (N.fraction.getD []).length) := fun e => by
    rw [← zpow_natCast, ← zpow_add₀ (by norm_num)]
    congr 1
    omega
  rw [Scientific.value, hplace, ← mul_assoc, DecimalText.magnitude,
    ← natOfDigits_asciiForm N.digits_only]
  exact (undecided_leadingDigits N.digits_only.asciiForm).scale _

/-- A digit or a point is no capital letter. -/
theorem toLower_of_head {c : Char} (h : isAsciiDigit c = true ∨ c = '.') : c.toLower = c := by
  have hcode : c.toNat ≤ 57 := by
    rcases h with h | rfl
    · exact (isAsciiDigit_iff.1 h).2
    · decide
  have hsmall : ¬(c.val ≥ 'A'.val ∧ c.val ≤ 'Z'.val) := by
    rintro ⟨hge, -⟩
    have : 65 ≤ c.toNat := UInt32.le_iff_toNat_le.1 hge
    omega
  unfold Char.toLower
  rw [dif_neg hsmall]

/-- A numeral is no word that starts with a letter. -/
theorem word_ne {c d : Char} (cs : List Char) (hc : isAsciiDigit c = true ∨ c = '.') (word : String)
    (hword : word.toList.head? = some d) (hd : ¬(isAsciiDigit d = true ∨ d = '.')) :
    (String.ofList ((c :: cs).map Char.toLower) == word) = false := by
  rw [beq_eq_false_iff_ne]
  rintro rfl
  rw [String.toList_ofList, List.map_cons, toLower_of_head hc] at hword
  exact hd (Option.some.inj hword ▸ hc)

/-- A numeral is read as the number nearest to the rational that it writes. -/
theorem readFloat?_text (N : DecimalText) : ∃ x : Binary64, readFloat? (strip N.text) = some x ∧
    Rounded (isMinus N.sign) N.magnitude x := by
  obtain ⟨x, hx, hundecided⟩ := readScientific?_asciiBody N
  obtain ⟨c, cs, hbody, hc⟩ := N.asciiBody_head
  refine ⟨x.toBinary64 (isMinus N.sign), ?_, ?_⟩
  · have hinf := word_ne cs hc "inf" rfl (by decide)
    have hinfinity := word_ne cs hc "infinity" rfl (by decide)
    have hnan := word_ne cs hc "nan" rfl (by decide)
    rw [← hbody] at hinf hinfinity hnan
    simp only [readFloat?, N.asciiForms_text, dropUnderscores?_of_expected N.expected,
      N.takeSign_text, hinf, hinfinity, hnan, hx, Bool.or_false, Bool.false_eq_true, if_false,
      Option.map_some]
  · exact hundecided.rounded N.magnitude_nonneg (x.rounded_toBinary64 _)

end TablePipeline.Numeral
