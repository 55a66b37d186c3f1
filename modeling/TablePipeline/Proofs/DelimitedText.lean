import Mathlib
import TablePipeline.Delimited.Reader
import TablePipeline.Delimited.Writer
import TablePipeline.Proofs.Outcome

/-!
Delimited text that is read back. A field is written in quotes if it holds the delimiter, a quote or
part of a line end, and then each of its quotes is written twice. The machine that reads comes to
the end of a written field with the field's characters and those alone, in one of a few modes, all
of which take the delimiter or the end of the line in the same way. So a row is read back field by
field, and a text row by row; where the text was cut into lines makes no difference.
-/
namespace TablePipeline.Delimited

/-! ### Lines -/

/-- What is cut off first. -/
theorem lines_eq (cs : List Char) : lines cs =
    match cs.drop (cs.takeWhile fun c => !isLineEnd c).length with
    | [] => if (cs.takeWhile fun c => !isLineEnd c).isEmpty then [] else
        [cs.takeWhile fun c => !isLineEnd c]
    | c :: rest =>
      if c == '\r' && rest.head? == some '\n' then
        ((cs.takeWhile fun c => !isLineEnd c) ++ ['\r', '\n']) :: lines (rest.drop 1)
      else ((cs.takeWhile fun c => !isLineEnd c) ++ [c]) :: lines rest := by
  rw [lines]
  split <;> simp [*]

@[simp] theorem lines_nil : lines [] = [] := by
  rw [lines_eq]
  rfl

theorem lines_end {c : Char} (hc : isLineEnd c = true) (cs : List Char) : lines (c :: cs) =
    if c == '\r' && cs.head? == some '\n' then ['\r', '\n'] :: lines (cs.drop 1)
    else [c] :: lines cs := by
  rw [lines_eq]
  simp [hc]

theorem lines_ordinary {c : Char} (hc : isLineEnd c = false) (cs : List Char) : lines (c :: cs) =
    match lines cs with
    | [] => [[c]]
    | line :: rest => (c :: line) :: rest := by
  rw [lines_eq, lines_eq cs]
  simp only [hc, List.takeWhile_cons, Bool.not_false, if_true, List.length_cons,
    List.drop_succ_cons]
  split
  · cases List.takeWhile (fun c => !isLineEnd c) cs <;> rfl
  · split_ifs <;> rfl

theorem lines_ne_nil (c : Char) (cs : List Char) : lines (c :: cs) ≠ [] := by
  cases hc : isLineEnd c with
  | true =>
    rw [lines_end hc]
    split_ifs <;> simp
  | false =>
    rw [lines_ordinary hc]
    split <;> simp

/-- What comes before a text joins its first line, if it does not end a line itself. -/
theorem lines_cons (c : Char) (cs : List Char) :
    (∃ line rest, lines cs = line :: rest ∧ lines (c :: cs) = (c :: line) :: rest) ∨
      ((isLineEnd c = true ∨ cs = []) ∧ lines (c :: cs) = [c] :: lines cs) := by
  cases hc : isLineEnd c with
  | true =>
    rw [lines_end hc]
    split_ifs with hpair
    · obtain ⟨rfl, hlf⟩ : c = '\r' ∧ cs.head? = some '\n' := by simpa using hpair
      obtain ⟨cs, rfl⟩ := List.head?_eq_some_iff.1 hlf
      exact .inl ⟨['\n'], lines cs, by rw [lines_end (by decide)]; rfl, rfl⟩
    · exact .inr ⟨.inl rfl, rfl⟩
  | false =>
    rw [lines_ordinary hc]
    cases cs with
    | nil => exact .inr ⟨.inr rfl, by simp⟩
    | cons d cs =>
      obtain ⟨line, rest, hlines⟩ := List.exists_cons_of_ne_nil (lines_ne_nil d cs)
      exact .inl ⟨line, rest, hlines, by rw [hlines]⟩

/-! ### The machine on a text -/

/-- The rows of a text, read on from a machine that is in the middle of a row. -/
def readOn (d : Dialect) (m : Machine) (cs : List Char) : Feed Row := readRows d none m (lines cs)

namespace Machine

theorem readLine_cons {d : Dialect} {m m' : Machine} {c : Char}
    (h : m.step d (some c) = .ok m') (line : List Char) :
    m.readLine d (c :: line) = m'.readLine d line := by
  simp only [readLine, List.foldlM_cons, h, ok_bind]

end Machine

variable {d : Dialect} {m m' : Machine} {c : Char} {cs : List Char}

theorem readRows_cons (h : m.step d (some c) = .ok m') (line : List Char) (rest : List (List Char)) :
    readRows d none m ((c :: line) :: rest) = readRows d none m' (line :: rest) := by
  simp only [readRows, Machine.readLine_cons h]

/-- A character that ends no line, where the text goes on. -/
theorem readOn_cons (hc : isLineEnd c = false) (hcs : cs ≠ []) (h : m.step d (some c) = .ok m') :
    readOn d m (c :: cs) = readOn d m' cs := by
  rcases lines_cons c cs with ⟨line, rest, hcs, hlines⟩ | ⟨hnot, -⟩
  · rw [readOn, readOn, hlines, hcs, readRows_cons h]
  · simp [hc, hcs] at hnot

/-- A character after which the machine is between quotes: the end of a line there is only a
character of the field. -/
theorem readOn_quoted (hm' : m'.mode = .inQuotes) (h : m.step d (some c) = .ok m') :
    readOn d m (c :: cs) = readOn d m' cs := by
  rcases lines_cons c cs with ⟨line, rest, hcs, hlines⟩ | ⟨-, hlines⟩
  · rw [readOn, readOn, hlines, hcs, readRows_cons h]
  · have hline : m'.readLine d [] = .ok m' := by simp [Machine.readLine, Machine.step, hm']
    rw [readOn, readOn, hlines, readRows_cons h, readRows, hline]
    simp [hm']

/-- The end of a row. -/
theorem readOn_end (h : m.step d (some '\r') = .ok m') (hm' : m'.mode = .lineEnd) :
    readOn d m ('\r' :: '\n' :: cs) = .cons m'.row (readOn d {} cs) := by
  have hlf : m'.step d (some '\n') = .ok m' := by simp [Machine.step, hm']
  have hline : m'.readLine d [] = .ok { m' with mode := .startRow } := by
    simp [Machine.readLine, Machine.step, hm']
  have hlines : lines ('\r' :: '\n' :: cs) = ['\r', '\n'] :: lines cs := by
    rw [lines_end (by decide)]
    rfl
  rw [readOn, hlines, readRows_cons h, readRows_cons hlf, readRows, hline]
  simp [Machine.row, readOn]

/-! ### What is written -/

/-- The usual dialect with a delimiter. -/
abbrev separatedBy (delimiter : Char) : Dialect := { delimiter }

/-- A text between quotes, each of its own quotes twice. -/
def quoted (cs : List Char) : List Char :=
  '"' :: (cs.flatMap fun c => if c = '"' then ['"', '"'] else [c]) ++ ['"']

/-- A text as a field. -/
def fieldOf (sep : Char) (cs : List Char) : List Char :=
  if cs.any (isSpecial (separatedBy sep)) then quoted cs else cs

/-- Texts as the fields of a row, and the end of the row. -/
def rowOf (sep : Char) (row : List (List Char)) : List Char :=
  if row = [[]] then quoted [] ++ ['\r', '\n']
  else [sep].intercalate (row.map (fieldOf sep)) ++ ['\r', '\n']

variable {sep : Char}

theorem toList_terminator : "\r\n".toList = ['\r', '\n'] := by decide

theorem isSpecial_separatedBy (sep c : Char) : isSpecial (separatedBy sep) c = true ↔
    c = sep ∨ c = '"' ∨ c = '\r' ∨ c = '\n' := by
  simp only [isSpecial, toList_terminator, Bool.or_eq_true, beq_iff_eq, List.contains_iff_mem,
    List.mem_cons, List.not_mem_nil, or_false, Option.some.injEq, or_assoc, reduceCtorEq,
    @eq_comm _ '"' c]

theorem isEscaped_separatedBy (sep c : Char) : isEscaped (separatedBy sep) c = false := by
  have h : isEscaped (separatedBy sep) c = (isSpecial (separatedBy sep) c && (false ||
      (if some '"' == some c then false else none == some c))) := rfl
  rw [h]
  split_ifs <;> simp

theorem writeChar_separatedBy (sep c : Char) :
    writeChar (separatedBy sep) c = .ok (if c = '"' then ['"', '"'] else [c]) := by
  rw [writeChar, isEscaped_separatedBy]
  by_cases hc : c = '"'
  · subst hc
    rfl
  · have hquote : ((separatedBy sep).quote? == some c) = false := by
      simpa using Ne.symm hc
    rw [hquote, if_neg hc]
    rfl

theorem flatMap_of_plain {cs : List Char} (h : cs.any (isSpecial (separatedBy sep)) = false) :
    (cs.flatMap fun c => if c = '"' then ['"', '"'] else [c]) = cs := by
  induction cs with
  | nil => rfl
  | cons c cs ih =>
    rw [List.any_cons, Bool.or_eq_false_iff] at h
    have hc : c ≠ '"' := by
      rintro rfl
      rw [(isSpecial_separatedBy sep '"').2 (by simp)] at h
      simp at h
    rw [List.flatMap_cons, ih h.2, if_neg hc]
    rfl

theorem writeField_text (sep : Char) (s : String) :
    writeField (separatedBy sep) (.text s) = .ok (fieldOf sep s.toList) := by
  have htext : fieldText (.text s) = .ok s.toList := rfl
  have hbody : s.toList.mapM (writeChar (separatedBy sep)) =
      .ok (s.toList.map fun c => if c = '"' then ['"', '"'] else [c]) := by
    rw [mapM_eq_ok_iff, List.map_map]
    exact List.map_congr_left fun c _ => writeChar_separatedBy sep c
  have halways : alwaysQuoted (separatedBy sep) (.text s) = false := rfl
  have hdemands : demandsQuotes (separatedBy sep) = isSpecial (separatedBy sep) := by
    funext c
    simp [demandsQuotes, isEscaped_separatedBy]
  rw [writeField, htext, ok_bind, hbody, ok_bind, halways, hdemands, Bool.false_or]
  cases hany : s.toList.any (isSpecial (separatedBy sep)) with
  | true => simp [fieldOf, hany, quoted, enclosed, List.flatMap]
  | false =>
    have := flatMap_of_plain hany
    rw [List.flatMap] at this
    simp [fieldOf, hany, this]

theorem fieldOf_eq_nil {cs : List Char} : fieldOf sep cs = [] ↔ cs = [] := by
  rw [fieldOf]
  split_ifs with hany
  · refine iff_of_false (by simp [quoted]) ?_
    rintro rfl
    simp at hany
  · rfl

/-- The fields of a row, one by one. -/
theorem intercalate_cons (sep : Char) (field : List Char) (fields : List (List Char)) :
    [sep].intercalate (field :: fields) = field ++ fields.flatMap (sep :: ·) := by
  induction fields generalizing field with
  | nil => simp
  | cons next fields ih => simp [ih]

/-- Nothing is written of a row only if all it has is an empty field. -/
theorem intercalate_eq_nil (sep : Char) {row : List (List Char)} (hrow : row ≠ []) :
    [sep].intercalate (row.map (fieldOf sep)) = [] ↔ row = [[]] := by
  obtain ⟨cs, rest, rfl⟩ := List.exists_cons_of_ne_nil hrow
  rw [List.map_cons, intercalate_cons, List.append_eq_nil_iff, fieldOf_eq_nil]
  cases rest <;> simp

theorem writeRow_texts {row : List String} (hrow : row ≠ []) (sep : Char) :
    writeRow (separatedBy sep) (row.map .text) = .ok (rowOf sep (row.map String.toList)) := by
  have hfields : (row.map Datum.text).mapM (writeField (separatedBy sep)) =
      .ok ((row.map String.toList).map (fieldOf sep)) := by
    rw [mapM_eq_ok_iff, List.map_map, List.map_map, List.map_map]
    exact List.map_congr_left fun s _ => writeField_text sep s
  have hsome : (row.map (Datum.text (φ := Empty))).isEmpty = false := by simpa using hrow
  have htexts : row.map String.toList ≠ [] := by simpa using hrow
  have hempty := intercalate_eq_nil sep htexts
  rw [writeRow, hfields, ok_bind, hsome, toList_terminator, rowOf]
  by_cases hlone : row.map String.toList = [[]]
  · rw [if_pos hlone, hempty.2 hlone]
    rfl
  · rw [if_neg (by simpa using mt hempty.1 hlone), if_neg hlone]

/-- A property of all characters of a row that quotes and line ends have anyway: it comes down to
those of its texts and, between two of them, the delimiter. -/
theorem forall_mem_rowOf {p : Char → Prop} (hquote : p '"') (hcr : p '\r') (hlf : p '\n')
    {row : List (List Char)} (hrow : row ≠ []) :
    (∀ c ∈ rowOf sep row, p c) ↔
      (∀ cs ∈ row, ∀ c ∈ cs, p c) ∧ (row.length = 1 ∨ p sep) := by
  have htwice : ∀ c, (∀ x ∈ (if c = '"' then ['"', '"'] else [c]), p x) ↔ p c := by
    intro c
    split_ifs with hc <;> simp [hc, hquote]
  have hquoted : ∀ cs, (∀ c ∈ quoted cs, p c) ↔ ∀ c ∈ cs, p c := by
    intro cs
    rw [quoted, List.forall_mem_append, List.forall_mem_cons, List.forall_mem_flatMap]
    simp [htwice, hquote]
  have hfield : ∀ cs, (∀ c ∈ fieldOf sep cs, p c) ↔ ∀ c ∈ cs, p c := by
    intro cs
    rw [fieldOf]
    split_ifs
    · exact hquoted cs
    · rfl
  have hend : ∀ c ∈ ['\r', '\n'], p c := by simp [hcr, hlf]
  rw [rowOf]
  split_ifs with hlone
  · subst hlone
    rw [List.forall_mem_append, hquoted]
    simp [hend]
  · obtain ⟨cs, rest, rfl⟩ := List.exists_cons_of_ne_nil hrow
    rw [List.forall_mem_append, List.map_cons, intercalate_cons, List.forall_mem_append, hfield,
      List.flatMap_map, List.forall_mem_flatMap]
    simp only [List.forall_mem_cons, hfield]
    cases rest with
    | nil => simp [hcr, hlf]
    | cons next rest =>
      simp only [List.forall_mem_cons, List.length_cons]
      constructor
      · rintro ⟨⟨hcs, ⟨hsep, hnext⟩, hrest⟩, -⟩
        exact ⟨⟨hcs, hnext, fun cs hmem => (hrest cs hmem).2⟩, .inr hsep⟩
      · rintro ⟨⟨hcs, hnext, hrest⟩, hlength | hsep⟩
        · omega
        · exact ⟨⟨hcs, ⟨hsep, hnext⟩, fun cs hmem => ⟨hsep, hrest cs hmem⟩⟩, hcr, hlf, by simp⟩

/-! ### What is read -/

namespace Machine

/-- The machine has read a field and is where the field may end. -/
structure Holds (m : Machine) (cs : List Char) (before : List Value) : Prop where
  mode : m.mode = .startRow ∨ m.mode = .startField ∨ m.mode = .inField ∨ m.mode = .afterQuote
  field : m.field = cs.reverse
  numeric : m.numeric = false
  fields : m.fields = before

variable {before : List Value}

theorem isEnd_some (c : Char) : isEnd (some c) = isLineEnd c := by
  simp [isEnd, isLineEnd]

theorem save_of_holds (h : m.Holds cs before) (mode : Mode) :
    m.save mode = .ok { mode, fields := .text (String.ofList cs) :: before } := by
  simp [save, fieldValue, h.field, h.numeric, h.fields]

/-- The delimiter ends a field. -/
theorem step_delimiter (hquote : sep ≠ '"') (hend : isLineEnd sep = false) (h : m.Holds cs before) :
    m.step (separatedBy sep) (some sep) =
      .ok { mode := .startField, fields := .text (String.ofList cs) :: before } := by
  rw [← save_of_holds h]
  rcases h.mode with hm | hm | hm | hm
  · simp [step, hm, atFieldStart, isEnd_some, hend, hquote.symm]
  · simp [step, hm, atFieldStart, isEnd_some, hend, hquote.symm]
  · simp [step, hm, inside, isEnd_some, hend]
  · simp [step, hm, afterQuote, hquote.symm]

/-- The end of a line ends a field, unless the row has not begun. -/
theorem step_end (hsep : sep ≠ '\r') (hm : m.mode ≠ .startRow) (h : m.Holds cs before) :
    m.step (separatedBy sep) (some '\r') =
      .ok { mode := .lineEnd, fields := .text (String.ofList cs) :: before } := by
  rw [← save_of_holds h]
  rcases h.mode with hm' | hm' | hm' | hm'
  · exact absurd hm' hm
  · simp [step, hm', atFieldStart, isEnd, ended]
  · simp [step, hm', inside, isEnd, ended]
  · simp [step, hm', afterQuote, isEnd, ended, hsep.symm]

/-- A machine between quotes or in a field without quotes, where it has read some characters. -/
def reading (mode : Mode) (cs : List Char) (before : List Value) : Machine where
  mode := mode
  field := cs.reverse
  size := cs.length
  fields := before

theorem step_inQuotes (hc : c ≠ '"') (hsize : cs.length < fieldLimit) :
    (reading .inQuotes cs before).step (separatedBy sep) (some c) =
      .ok (reading .inQuotes (cs ++ [c]) before) := by
  simp [reading, step, addChar, hc.symm, Nat.not_le.2 hsize]

theorem step_quote :
    (reading .inQuotes cs before).step (separatedBy sep) (some '"') =
      .ok (reading .afterQuote cs before) := by
  simp [reading, step]

theorem step_second (hsize : cs.length < fieldLimit) :
    (reading .afterQuote cs before).step (separatedBy sep) (some '"') =
      .ok (reading .inQuotes (cs ++ ['"']) before) := by
  simp [reading, step, afterQuote, addChar, Nat.not_le.2 hsize]

/-- A machine at the start of a field. -/
def AtStart (mode : Mode) : Prop := mode = .startRow ∨ mode = .startField

theorem step_open {mode : Mode} (hmode : AtStart mode) :
    (reading mode [] before).step (separatedBy sep) (some '"') =
      .ok (reading .inQuotes [] before) := by
  rcases hmode with rfl | rfl <;> simp [reading, step, atFieldStart, isEnd]

theorem step_first {mode : Mode} (hmode : AtStart mode) (hsep : c ≠ sep) (hquote : c ≠ '"')
    (hend : isLineEnd c = false) :
    (reading mode [] before).step (separatedBy sep) (some c) =
      .ok (reading .inField [c] before) := by
  have hlimit : ¬fieldLimit = 0 := by decide
  rcases hmode with rfl | rfl <;>
    simp [reading, step, atFieldStart, addChar, isEnd_some, hend, hsep, hquote.symm, hlimit]

theorem step_inField (hsep : c ≠ sep) (hend : isLineEnd c = false) (hsize : cs.length < fieldLimit) :
    (reading .inField cs before).step (separatedBy sep) (some c) =
      .ok (reading .inField (cs ++ [c]) before) := by
  simp [reading, step, inside, addChar, isEnd_some, hend, hsep, Nat.not_le.2 hsize]

end Machine

open Machine

variable {before : List Value} {rest : List Char}

theorem plain_of_not_special (h : isSpecial (separatedBy sep) c = false) :
    c ≠ sep ∧ c ≠ '"' ∧ isLineEnd c = false := by
  have hnot : ¬(c = sep ∨ c = '"' ∨ c = '\r' ∨ c = '\n') :=
    fun hspecial => by simp [(isSpecial_separatedBy sep c).2 hspecial] at h
  push Not at hnot
  exact ⟨hnot.1, hnot.2.1, by simp [isLineEnd, hnot]⟩

/-- What is between quotes, by induction on the characters. -/
theorem readOn_inQuotes (rest more : List Char)
    (hsize : cs.length + more.length ≤ fieldLimit) :
    readOn (separatedBy sep) (reading .inQuotes cs before)
        ((more.flatMap fun c => if c = '"' then ['"', '"'] else [c]) ++ rest) =
      readOn (separatedBy sep) (reading .inQuotes (cs ++ more) before) rest := by
  induction more generalizing cs with
  | nil => simp
  | cons c more ih =>
    rw [List.length_cons] at hsize
    have hnext := @ih (cs ++ [c]) (by rw [List.length_append, List.length_singleton]; omega)
    rw [List.append_assoc, List.singleton_append] at hnext
    by_cases hc : c = '"'
    · subst hc
      rw [List.flatMap_cons, if_pos rfl, List.append_assoc, List.cons_append, List.cons_append,
        List.nil_append, readOn_cons (by decide) (by simp) step_quote,
        readOn_quoted rfl (step_second (by omega)), hnext]
    · rw [List.flatMap_cons, if_neg hc, List.append_assoc, List.singleton_append,
        readOn_quoted rfl (step_inQuotes hc (by omega)), hnext]

/-- A quoted field. -/
theorem readOn_quotedField {mode : Mode} (hmode : AtStart mode) (hsize : cs.length ≤ fieldLimit)
    (hrest : rest ≠ []) :
    readOn (separatedBy sep) (reading mode [] before) (quoted cs ++ rest) =
      readOn (separatedBy sep) (reading .afterQuote cs before) rest := by
  rw [quoted, List.cons_append, List.cons_append, List.append_assoc,
    readOn_quoted rfl (step_open hmode), List.singleton_append,
    readOn_inQuotes _ cs (by simpa using hsize), List.nil_append,
    readOn_cons (by decide) hrest step_quote]

/-- The rest of a field without quotes, by induction on the characters. -/
theorem readOn_inField (hrest : rest ≠ []) {more : List Char}
    (hmore : more.any (isSpecial (separatedBy sep)) = false)
    (hsize : cs.length + more.length ≤ fieldLimit) :
    readOn (separatedBy sep) (reading .inField cs before) (more ++ rest) =
      readOn (separatedBy sep) (reading .inField (cs ++ more) before) rest := by
  induction more generalizing cs with
  | nil => simp
  | cons c more ih =>
    rw [List.any_cons, Bool.or_eq_false_iff] at hmore
    rw [List.length_cons] at hsize
    obtain ⟨hsep, -, hend⟩ := plain_of_not_special hmore.1
    rw [List.cons_append, readOn_cons hend (by simp [hrest]) (step_inField hsep hend (by omega)),
      ih hmore.2 (by rw [List.length_append, List.length_singleton]; omega), List.append_assoc,
      List.singleton_append]

/-- A field: the machine comes to its end with its characters. -/
theorem readOn_field (sep : Char) (before : List Value) {mode : Mode} (hmode : AtStart mode)
    (hsize : cs.length ≤ fieldLimit) (rest : List Char) (hrest : rest ≠ []) :
    ∃ m : Machine, m.Holds cs before ∧ (m.mode = .startRow → mode = .startRow ∧ cs = []) ∧
      readOn (separatedBy sep) (reading mode [] before) (fieldOf sep cs ++ rest) =
        readOn (separatedBy sep) m rest := by
  rw [fieldOf]
  split_ifs with hany
  · exact ⟨_, ⟨.inr (.inr (.inr rfl)), rfl, rfl, rfl⟩, by simp [reading],
      readOn_quotedField hmode hsize hrest⟩
  · rw [Bool.not_eq_true] at hany
    cases cs with
    | nil =>
      refine ⟨reading mode [] before, ⟨?_, rfl, rfl, rfl⟩, fun h => ⟨h, rfl⟩, rfl⟩
      exact hmode.imp id .inl
    | cons c cs =>
      rw [List.any_cons, Bool.or_eq_false_iff] at hany
      obtain ⟨hsep, hquote, hend⟩ := plain_of_not_special hany.1
      refine ⟨reading .inField (c :: cs) before, ⟨.inr (.inr (.inl rfl)), rfl, rfl, rfl⟩,
        by simp [reading], ?_⟩
      rw [List.cons_append, readOn_cons hend (by simp [hrest]) (step_first hmode hsep hquote hend),
        readOn_inField hrest hany.2 (by simp at hsize ⊢; omega), List.singleton_append]

/-- The value that is read for the characters of a field. -/
def textOf (cs : List Char) : Value := .text (String.ofList cs)

/-- The fields of a row from one on, by induction on those after it. A row that has just begun and
ends at once would have no field at all. -/
theorem readOn_fields (hquote : sep ≠ '"') (hend : isLineEnd sep = false) (before : List Value)
    {mode : Mode} (hmode : AtStart mode) {row : List (List Char)}
    (hsize : ∀ field ∈ cs :: row, field.length ≤ fieldLimit)
    (hlone : ¬(mode = .startRow ∧ cs = [] ∧ row = [])) (text : List Char) :
    readOn (separatedBy sep) (reading mode [] before)
        (fieldOf sep cs ++ (row.flatMap (fun field => sep :: fieldOf sep field) ++
          '\r' :: '\n' :: text)) =
      .cons (before.reverse ++ (cs :: row).map textOf) (readOn (separatedBy sep) {} text) := by
  induction row generalizing cs mode before with
  | nil =>
    obtain ⟨m, hholds, hstart, hread⟩ := readOn_field sep before hmode
      (hsize cs List.mem_cons_self) ('\r' :: '\n' :: text) (by simp)
    have hmode' : m.mode ≠ .startRow := fun h => hlone ⟨(hstart h).1, (hstart h).2, rfl⟩
    have hsep : sep ≠ '\r' := by
      rintro rfl
      exact absurd hend (by decide)
    rw [List.flatMap_nil, List.nil_append, hread, readOn_end (step_end hsep hmode' hholds) rfl]
    simp [Machine.row, textOf]
  | cons next row ih =>
    obtain ⟨m, hholds, -, hread⟩ := readOn_field sep before hmode (hsize cs List.mem_cons_self)
      ((next :: row).flatMap (fun field => sep :: fieldOf sep field) ++ '\r' :: '\n' :: text)
      (by simp)
    have hnext := ih (textOf cs :: before) (.inr rfl : AtStart .startField)
      (fun field hfield => hsize field (List.mem_cons_of_mem cs hfield)) (by simp)
    rw [hread, List.flatMap_cons, List.append_assoc, List.cons_append,
      readOn_cons hend (by simp) (step_delimiter hquote hend hholds)]
    rw [List.reverse_cons, List.append_assoc] at hnext
    exact hnext

/-- A row, and what follows it. -/
theorem readOn_row (hquote : sep ≠ '"') (hend : isLineEnd sep = false) {row : List (List Char)}
    (hrow : row ≠ []) (hsize : ∀ field ∈ row, field.length ≤ fieldLimit) (text : List Char) :
    readOn (separatedBy sep) {} (rowOf sep row ++ text) =
      .cons (row.map textOf) (readOn (separatedBy sep) {} text) := by
  rw [rowOf]
  split_ifs with hlone
  · subst hlone
    rw [List.append_assoc]
    have hsep : sep ≠ '\r' := by
      rintro rfl
      exact absurd hend (by decide)
    have hquoted : readOn (separatedBy sep) {} (quoted [] ++ '\r' :: '\n' :: text) =
        readOn (separatedBy sep) (reading .afterQuote [] []) ('\r' :: '\n' :: text) :=
      readOn_quotedField (.inl rfl : AtStart .startRow) (by simp) (by simp)
    have hholds : (reading .afterQuote [] []).Holds [] [] :=
      ⟨.inr (.inr (.inr rfl)), rfl, rfl, rfl⟩
    exact hquoted.trans (readOn_end (step_end hsep (by simp [reading]) hholds) rfl)
  · obtain ⟨cs, row, rfl⟩ := List.exists_cons_of_ne_nil hrow
    have hfields := readOn_fields hquote hend [] (.inl rfl : AtStart .startRow) hsize
      (by simpa using hlone) text
    rw [List.map_cons, intercalate_cons, List.flatMap_map, List.append_assoc, List.append_assoc]
    exact hfields

/-- All rows, by induction. -/
theorem readOn_rows (hquote : sep ≠ '"') (hend : isLineEnd sep = false)
    {rows : List (List (List Char))} (hrows : ∀ row ∈ rows, row ≠ [])
    (hsize : ∀ row ∈ rows, ∀ field ∈ row, field.length ≤ fieldLimit) :
    readOn (separatedBy sep) {} (rows.flatMap (rowOf sep)) = ⟨rows.map (List.map textOf), none⟩ := by
  induction rows with
  | nil => simp [readOn, readRows, lastRow, Feed.empty]
  | cons row rows ih =>
    rw [List.flatMap_cons, readOn_row hquote hend (hrows row List.mem_cons_self)
      (hsize row List.mem_cons_self), ih (fun r hr => hrows r (List.mem_cons_of_mem row hr))
      (fun r hr => hsize r (List.mem_cons_of_mem row hr))]
    rfl

end TablePipeline.Delimited
