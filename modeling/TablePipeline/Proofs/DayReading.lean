import Mathlib
import TablePipeline.Proofs.DayPatterns
import TablePipeline.Proofs.Outcome

/-!
Reading a day by the pattern that it was written with. Month and day are read by the first spelling
that fits, which takes both digits; the year has to have four of them. So a day from the year 1000 on
is read back, and an earlier one is not: nowhere in the text are there four digits in a row.
-/
namespace TablePipeline.Calendar

open Text

/-! ### The pieces of a pattern -/

section
variable {pattern : String} {cs : List Char} {parts : List Piece}

theorem pieces_field (f : DayField) (h : pieces pattern cs = .ok parts) :
    pieces pattern ('%' :: f.letter :: cs) = .ok (.field f.letter :: parts) := by
  cases f <;> simp only [pieces, DayField.letter, compound?, spellings?, h] <;> rfl

theorem pieces_literals {separator : List Char} (hseparator : Separator separator)
    (h : pieces pattern cs = .ok parts) :
    pieces pattern (separator ++ cs) = .ok (separator.map .letter ++ parts) := by
  have hpercent := hseparator.no_percent
  have hblank := hseparator.no_blank
  clear hseparator
  induction separator with
  | nil => exact h
  | cons c separator ih =>
    have hc := hpercent c List.mem_cons_self
    have htail := ih (fun x hx => hpercent x (List.mem_cons_of_mem c hx))
      fun x hx => hblank x (List.mem_cons_of_mem c hx)
    have hc' : isBlank c = false := hblank c List.mem_cons_self
    rw [List.cons_append, pieces, htail, ok_bind]
    · simp [hc']
    · exact fun hlast => absurd hlast hc
    · exact fun letter rest hpercent => absurd hpercent hc

end

namespace DayPattern

def pieces (P : DayPattern) : List Piece :=
  .field P.first.letter :: (P.left.map .letter ++ .field P.second.letter ::
    (P.right.map .letter ++ [.field P.third.letter]))

theorem pieces_text (P : DayPattern) (pattern : String) :
    Calendar.pieces pattern P.chars = .ok P.pieces := by
  have hnil : Calendar.pieces pattern [] = .ok [] := rfl
  exact pieces_field _ (pieces_literals P.left_separator (pieces_field _
    (pieces_literals P.right_separator (pieces_field _ hnil))))

end DayPattern

/-! ### No field twice -/

section
variable {seen : List (Char × ℕ)} {groups length : ℕ} {parts : List Piece}

theorem repeatedFrom_literals (cs : List Char)
    (h : ∀ length, repeatedFrom seen groups length parts = none) :
    repeatedFrom seen groups length (cs.map .letter ++ parts) = none := by
  induction cs generalizing length with
  | nil => exact h length
  | cons c cs ih => simpa [repeatedFrom, Piece.groups] using ih

theorem repeatedFrom_field {f : DayField} (hnew : seen.lookup f.letter = none)
    (h : ∀ length, repeatedFrom ((f.letter, groups + 1) :: seen) (groups + 1) length parts = none) :
    repeatedFrom seen groups length (.field f.letter :: parts) = none := by
  have hgroups : (Piece.field f.letter).groups = 1 := by cases f <;> rfl
  simp only [repeatedFrom, hnew, hgroups, h]

end

theorem DayField.letter_beq {f g : DayField} (h : f ≠ g) : (f.letter == g.letter) = false := by
  cases f <;> cases g <;> first | exact absurd rfl h | rfl

theorem DayPattern.repeated?_pieces (P : DayPattern) : repeated? P.pieces = none := by
  obtain ⟨hsecond, hthird, hlast⟩ := P.distinct
  refine repeatedFrom_field rfl fun _ => repeatedFrom_literals _ fun _ => repeatedFrom_field ?_ fun _ =>
    repeatedFrom_literals _ fun _ => repeatedFrom_field ?_ fun _ => rfl
  · simp [List.lookup_cons, DayField.letter_beq hsecond.symm]
  · simp [List.lookup_cons, DayField.letter_beq hthird.symm, DayField.letter_beq hlast.symm]

/-! ### What the pieces take of a text -/

section
variable {parts : List Piece} {cs rest tail : List Char} {captures : Captures} {d : Date}

theorem matchPieces_literals (literals : List Char) :
    matchPieces (literals.map .letter ++ parts) (literals ++ rest) = matchPieces parts rest := by
  induction literals with
  | nil => rfl
  | cons c literals ih =>
    have hsame : sameLetter c c = true := by simp [sameLetter]
    simp [matchPieces, hsame, ih]

/-- The two digits of a month or a day are what its field takes first. -/
theorem fieldLengths_two (d : Date) {f : DayField} (hf : f ≠ .year) (rest : List Char) :
    ∃ more, fieldLengths f.letter (f.written d ++ rest) = 2 :: more := by
  obtain ⟨-, ⟨hmonth, hmonth'⟩, hday, hday'⟩ := date_bounds d
  cases f with
  | year => exact absurd rfl hf
  | month =>
    simp only [DayField.written, DayField.number, DayField.width, DayField.letter]
    interval_cases d.month <;> exact ⟨_, rfl⟩
  | day =>
    simp only [DayField.written, DayField.number, DayField.width, DayField.letter]
    interval_cases d.day <;> exact ⟨_, rfl⟩

theorem admitsAll_digits {ds : List Char} (h : ∀ c ∈ ds, c.isDigit = true) (rest : List Char) :
    admitsAll (List.replicate ds.length .digit) (ds ++ rest) = true := by
  induction ds with
  | nil => rfl
  | cons c ds ih =>
    have hc := digitValue?_of_isDigit (h c List.mem_cons_self)
    have htail := ih fun x hx => h x (List.mem_cons_of_mem c hx)
    simp [List.replicate_succ, admitsAll, Glyph.admits, hc, htail]

/-- A year of four digits is what its field takes. -/
theorem fieldLengths_year (hyear : 1000 ≤ d.year) (rest : List Char) :
    fieldLengths 'Y' (DayField.year.written d ++ rest) = [4] := by
  have hlength := (DayField.length_written d).2.2.2.2.2 hyear
  have hall := admitsAll_digits (DayField.year.isDigit_written d) rest
  rw [hlength] at hall
  simp only [List.replicate] at hall
  simp [fieldLengths, spellings?, hall]

theorem matchPieces_field {f : DayField} (hf : f = .year → 1000 ≤ d.year)
    (h : matchPieces parts rest = some (captures, tail)) :
    matchPieces (.field f.letter :: parts) (f.written d ++ rest) =
      some ((f.letter, f.written d) :: captures, tail) := by
  obtain ⟨more, hlengths⟩ : ∃ more,
      fieldLengths f.letter (f.written d ++ rest) = (f.written d).length :: more := by
    obtain ⟨hmonth, hday, -, -, hyear⟩ := DayField.length_written d
    cases f with
    | year => exact ⟨[], by rw [hyear.2 (hf rfl)]; exact fieldLengths_year (hf rfl) rest⟩
    | month => exact hmonth ▸ fieldLengths_two d (by decide) rest
    | day => exact hday ▸ fieldLengths_two d (by decide) rest
  simp [matchPieces, hlengths, h]

end

/-- The fields that a text of the pattern gives. -/
def DayPattern.captures (P : DayPattern) (d : Date) : Captures :=
  [(P.first.letter, P.first.written d), (P.second.letter, P.second.written d),
    (P.third.letter, P.third.written d)]

theorem DayPattern.matchPieces_written (P : DayPattern) {d : Date} (hyear : 1000 ≤ d.year) :
    matchPieces P.pieces (P.written d) = some (P.captures d, []) := by
  have hnil : matchPieces [] [] = some ([], []) := rfl
  have hthird := matchPieces_field (f := P.third) (d := d) (fun _ => hyear) hnil
  rw [List.append_nil] at hthird
  refine matchPieces_field (fun _ => hyear) ?_
  rw [matchPieces_literals]
  refine matchPieces_field (fun _ => hyear) ?_
  rw [matchPieces_literals]
  exact hthird

/-! ### The day that the fields say -/

/-- What is known once a field has been read. -/
def Findings.withField (d : Date) (known : Findings) : DayField → Findings
  | .year => { known with year := some d.year }
  | .month => { known with month := d.month }
  | .day => { known with day := d.day }

theorem Findings.add_written (d : Date) (known : Findings) (f : DayField) :
    known.add f.letter (f.written d) = .ok (known.withField d f) := by
  have hnumber := f.numberOf_written d
  cases f <;> simp only [Findings.add, DayField.letter, hnumber] <;> rfl

/-- A day is made of its year, its month and its day of the month, in whichever order they come. -/
theorem DayPattern.ofCaptures_captures (P : DayPattern) (d : Date) :
    Findings.ofCaptures (P.captures d) =
      .ok { year := some d.year, month := d.month, day := d.day } := by
  obtain ⟨hsecond, hthird, hlast⟩ := P.distinct
  simp only [Findings.ofCaptures, captures, List.foldlM_cons, List.foldlM_nil, Findings.add_written,
    ok_bind]
  revert hsecond hthird hlast
  generalize P.first = a
  generalize P.second = b
  generalize P.third = c
  rintro hsecond hthird hlast
  cases a <;> cases b <;> cases c <;>
    first | rfl | exact absurd rfl hsecond | exact absurd rfl hthird | exact absurd rfl hlast

theorem Findings.toDate_parts (d : Date) :
    Findings.toDate { year := some d.year, month := d.month, day := d.day } = .ok d := by
  obtain ⟨⟨hpos, hmax⟩, -, -⟩ := date_bounds d
  have hparts : Date.ofParts? d.year d.month d.day = some d := by
    simp [Date.ofParts?, d.valid]
  have hrange : ¬d.year = 0 ∧ d.year ≤ maxYear := ⟨by omega, hmax⟩
  simpa [toDate, check, place, d.valid, hparts] using hrange

/-- A day from the year 1000 on is read from what is written of it. -/
theorem DayPattern.scanDate_written (P : DayPattern) {d : Date} (hyear : 1000 ≤ d.year) :
    scanDate P.text (String.ofList (P.written d)) = .ok d := by
  rw [scanDate, toList_text, P.pieces_text, ok_bind, P.repeated?_pieces, String.toList_ofList,
    P.matchPieces_written hyear]
  simp [P.ofCaptures_captures, Findings.toDate_parts]

/-! ### Texts that are not read -/

/-- A field that is matched took the head of the text, and the rest was matched behind it. -/
theorem matchPieces_field_eq_some {letter : Char} {parts : List Piece} {cs tail : List Char}
    {captures : Captures} (h : matchPieces (.field letter :: parts) cs = some (captures, tail)) :
    ∃ n ∈ fieldLengths letter cs, ∃ more, matchPieces parts (cs.drop n) = some (more, tail) := by
  obtain ⟨n, hn, hmatch⟩ := List.exists_of_findSome?_eq_some h
  obtain ⟨⟨more, rest⟩, hmore, heq⟩ := Option.map_eq_some_iff.1 hmatch
  obtain ⟨-, rfl⟩ := Prod.mk.inj heq
  exact ⟨n, hn, more, hmore⟩

theorem admitsAll_length {glyphs : List Glyph} {cs : List Char} (h : admitsAll glyphs cs = true) :
    glyphs.length ≤ cs.length := by
  induction glyphs generalizing cs with
  | nil => exact Nat.zero_le _
  | cons g glyphs ih =>
    cases cs with
    | nil => simp [admitsAll] at h
    | cons c cs =>
      simp only [admitsAll, Bool.and_eq_true] at h
      exact Nat.succ_le_succ (ih h.2)

/-- The fewest characters that a field takes. -/
def DayField.least : DayField → ℕ
  | year => 4
  | month | day => 1

/-- A field takes no more than there is, and some of it. -/
theorem le_of_mem_fieldLengths {f : DayField} {cs : List Char} {n : ℕ}
    (h : n ∈ fieldLengths f.letter cs) : f.least ≤ n ∧ n ≤ cs.length := by
  have hforms : ∃ forms, spellings? f.letter = some forms ∧ ∀ form ∈ forms, f.least ≤ form.length := by
    cases f <;> exact ⟨_, rfl, by simp [DayField.least]⟩
  obtain ⟨forms, hspellings, hleast⟩ := hforms
  simp only [fieldLengths, hspellings, List.mem_map, List.mem_filter] at h
  obtain ⟨form, ⟨hform, hadmits⟩, rfl⟩ := h
  exact ⟨hleast form hform, admitsAll_length hadmits⟩

/-- A year takes four digits. -/
theorem digits_of_fieldLengths_year {cs : List Char} {n : ℕ} (h : n ∈ fieldLengths 'Y' cs) :
    ∃ four rest, cs = four ++ rest ∧ four.length = 4 ∧ ∀ c ∈ four, (digitValue? c).isSome = true := by
  have hadmits : admitsAll [.digit, .digit, .digit, .digit] cs = true := by
    simp only [fieldLengths, spellings?, List.mem_map, List.mem_filter] at h
    obtain ⟨form, ⟨hform, hadmits⟩, -⟩ := h
    rwa [List.mem_singleton.1 hform] at hadmits
  have hlength := admitsAll_length hadmits
  rcases cs with _ | ⟨a, _ | ⟨b, _ | ⟨c, _ | ⟨d, rest⟩⟩⟩⟩
  case cons.cons.cons.cons =>
    refine ⟨[a, b, c, d], rest, rfl, rfl, ?_⟩
    simpa [admitsAll, Glyph.admits] using hadmits
  all_goals simp at hlength

section
variable {parts : List Piece} {cs tail : List Char} {captures : Captures}

theorem matchPieces_literals_eq_some (literals : List Char)
    (h : matchPieces (literals.map .letter ++ parts) cs = some (captures, tail)) :
    literals.length ≤ cs.length ∧ matchPieces parts (cs.drop literals.length) = some (captures, tail) := by
  induction literals generalizing cs with
  | nil => exact ⟨Nat.zero_le _, h⟩
  | cons c literals ih =>
    cases cs with
    | nil => simp [matchPieces] at h
    | cons d rest =>
      simp only [List.map_cons, List.cons_append, matchPieces] at h
      split_ifs at h
      obtain ⟨hlength, hmatch⟩ := ih h
      exact ⟨Nat.succ_le_succ hlength, hmatch⟩

theorem length_of_matchPieces_field {f : DayField}
    (h : matchPieces (.field f.letter :: parts) cs = some (captures, tail)) :
    ∃ n more, f.least ≤ n ∧ n ≤ cs.length ∧ matchPieces parts (cs.drop n) = some (more, tail) := by
  obtain ⟨n, hn, more, hmore⟩ := matchPieces_field_eq_some h
  obtain ⟨hleast, hmost⟩ := le_of_mem_fieldLengths hn
  exact ⟨n, more, hleast, hmost, hmore⟩

/-- Pieces that match take some of the text for every character between the fields and for every
field, and four characters for the year. -/
theorem DayPattern.length_of_matchPieces (P : DayPattern)
    (h : matchPieces P.pieces cs = some (captures, tail)) :
    P.left.length + P.right.length + 6 ≤ cs.length := by
  obtain ⟨a, _, ha, ha', h⟩ := length_of_matchPieces_field h
  obtain ⟨hleft, h⟩ := matchPieces_literals_eq_some P.left h
  obtain ⟨b, _, hb, hb', h⟩ := length_of_matchPieces_field h
  obtain ⟨hright, h⟩ := matchPieces_literals_eq_some P.right h
  obtain ⟨c, _, hc, hc', -⟩ := length_of_matchPieces_field h
  have hsum : P.first.least + P.second.least + P.third.least = 6 := by
    have := (P.each_once.map DayField.least).sum_eq
    simpa [DayField.least, add_assoc] using this
  simp only [List.length_drop] at hleft hb' hright hc'
  omega

/-- Where the year is matched there are four digits in a row. -/
theorem infix_of_matchPieces (hyear : .field 'Y' ∈ parts)
    (h : matchPieces parts cs = some (captures, tail)) :
    ∃ four, four <:+: cs ∧ four.length = 4 ∧ ∀ c ∈ four, (digitValue? c).isSome = true := by
  have hdrop : ∀ {ds : List Char} {n : ℕ},
      (∃ four, four <:+: ds.drop n ∧ four.length = 4 ∧ ∀ c ∈ four, (digitValue? c).isSome = true) →
      ∃ four, four <:+: ds ∧ four.length = 4 ∧ ∀ c ∈ four, (digitValue? c).isSome = true := by
    rintro ds n ⟨four, hfour, hdigits⟩
    exact ⟨four, hfour.trans (List.drop_suffix n ds).isInfix, hdigits⟩
  induction parts generalizing cs captures with
  | nil => simp at hyear
  | cons piece parts ih =>
    cases piece with
    | letter c =>
      cases cs with
      | nil => simp [matchPieces] at h
      | cons d rest =>
        simp only [matchPieces] at h
        split_ifs at h
        exact hdrop (n := 1) (ih (by simpa using hyear) h)
    | blanks =>
      obtain ⟨n, -, hmatch⟩ := List.exists_of_findSome?_eq_some h
      exact hdrop (ih (by simpa using hyear) hmatch)
    | field letter =>
      obtain ⟨n, hn, more, hmore⟩ := matchPieces_field_eq_some h
      by_cases hletter : letter = 'Y'
      · subst hletter
        obtain ⟨four, rest, rfl, hlength, hdigits⟩ := digits_of_fieldLengths_year hn
        exact ⟨four, (List.prefix_append four rest).isInfix, hlength, hdigits⟩
      · have hmem : .field 'Y' ∈ parts := by simpa [Ne.symm hletter] using hyear
        exact hdrop (ih hmem hmore)

end

/-- What stands in a row without a certain character stands on one side of it. -/
theorem infix_of_notMem {four xs ys : List Char} {c : Char} (hc : c ∉ four) (h : four <:+: xs ++ c :: ys) :
    four <:+: xs ∨ four <:+: ys := by
  obtain ⟨pre, post, heq⟩ := h
  rcases List.append_eq_append_iff.1 heq with ⟨between, rfl, -⟩ | ⟨between, hxs, hys⟩
  · exact .inl ⟨pre, between, rfl⟩
  · cases between with
    | nil => exact .inl ⟨pre, [], by simpa using hxs⟩
    | cons c' between =>
      obtain ⟨rfl, rfl⟩ := List.cons.inj hys
      rcases List.append_eq_append_iff.1 hxs with ⟨front, -, rfl⟩ | ⟨front, -, hfront⟩
      · exact absurd (List.mem_append_right front List.mem_cons_self) hc
      · cases front with
        | nil =>
          rw [List.nil_append] at hfront
          exact absurd (hfront ▸ List.mem_cons_self) hc
        | cons c' front =>
          obtain ⟨-, rfl⟩ := List.cons.inj hfront
          exact .inr ⟨front, post, rfl⟩

/-- Digits in a row stand on one side of a separator. -/
theorem infix_of_separated {four xs ys separator : List Char} (hseparator : Separator separator)
    (hdigits : ∀ c ∈ four, (digitValue? c).isSome = true) (h : four <:+: xs ++ (separator ++ ys)) :
    four <:+: xs ∨ four <:+: ys := by
  have hnot : ∀ c ∈ separator, c ∉ four := fun c hc hfour => by
    have := hdigits c hfour
    simp [hseparator.no_digit c hc] at this
  have hskip : ∀ cs : List Char, (∀ c ∈ cs, c ∉ four) → four <:+: cs ++ ys → four <:+: ys := by
    intro cs hcs hinfix
    induction cs with
    | nil => exact hinfix
    | cons c cs ih =>
      rcases @infix_of_notMem four [] _ c (hcs c List.mem_cons_self) hinfix with hnil | htail
      · rw [List.infix_nil.1 hnil]
        exact List.nil_infix
      · exact ih (fun x hx => hcs x (List.mem_cons_of_mem c hx)) htail
  obtain ⟨c, rest, rfl⟩ := List.exists_cons_of_ne_nil hseparator.some_char
  exact (infix_of_notMem (hnot c List.mem_cons_self) h).imp_right
    (hskip rest fun x hx => hnot x (List.mem_cons_of_mem c hx))

/-- A year before 1000 leaves no four digits in a row. -/
theorem DayPattern.not_infix_written (P : DayPattern) {d : Date} (hyear : d.year < 1000)
    {four : List Char} (hlength : four.length = 4) (hdigits : ∀ c ∈ four, (digitValue? c).isSome = true) :
    ¬four <:+: P.written d := by
  intro h
  have hshort : ∀ f : DayField, (f.written d).length < 4 := by
    obtain ⟨hmonth, hday, -, hmost, hfour⟩ := DayField.length_written d
    intro f
    cases f <;> omega
  have hnot : ∀ f : DayField, ¬four <:+: f.written d := fun f hf => by
    have := hf.length_le
    have := hshort f
    omega
  rcases infix_of_separated P.left_separator hdigits h with h | h
  · exact hnot _ h
  rcases infix_of_separated P.right_separator hdigits h with h | h
  · exact hnot _ h
  · exact hnot _ h

theorem DayPattern.matchPieces_early (P : DayPattern) {d : Date} (hyear : d.year < 1000) :
    matchPieces P.pieces (P.written d) = none := by
  by_contra hsome
  obtain ⟨⟨captures, tail⟩, h⟩ := Option.ne_none_iff_exists'.1 hsome
  have hmem : Piece.field 'Y' ∈ P.pieces := by
    have hfield : DayField.year ∈ [P.first, P.second, P.third] := P.each_once.mem_iff.2 (by decide)
    have hletter : DayField.year.letter = 'Y' := rfl
    simp only [List.mem_cons, List.not_mem_nil, or_false] at hfield
    rw [← hletter, pieces]
    rcases hfield with hfield | hfield | hfield <;> simp [hfield]
  obtain ⟨four, hinfix, hlength, hdigits⟩ := infix_of_matchPieces hmem h
  exact P.not_infix_written hyear hlength hdigits hinfix

/-- A day before the year 1000 is not read from what is written of it. -/
theorem DayPattern.scanDate_early (P : DayPattern) {d : Date} (hyear : d.year < 1000) :
    scanDate P.text (String.ofList (P.written d)) =
      .error (.mismatch (String.ofList (P.written d)) P.text) := by
  rw [scanDate, toList_text, P.pieces_text, ok_bind, P.repeated?_pieces, String.toList_ofList,
    P.matchPieces_early hyear]

/-- A text that is too short is not read. -/
theorem DayPattern.scanDate_short (P : DayPattern) {s : String}
    (hshort : s.toList.length < P.left.length + P.right.length + 6) (d : Date) :
    scanDate P.text s ≠ .ok d := by
  have hnone : matchPieces P.pieces s.toList = none := by
    by_contra hsome
    obtain ⟨⟨captures, tail⟩, h⟩ := Option.ne_none_iff_exists'.1 hsome
    exact absurd (P.length_of_matchPieces h) (by omega)
  rw [scanDate, toList_text, P.pieces_text, ok_bind, P.repeated?_pieces, hnone]
  exact nofun

end TablePipeline.Calendar
