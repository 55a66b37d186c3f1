import Mathlib
import TablePipeline.Proofs.Key
import TablePipeline.Proofs.OutputFile

/-!
Marks of NaNs are not written. The text of a value does not show which of several NaNs one is, nor
whether it can still be told from others, so rows that differ in nothing but such marks make the same
file.
-/
namespace TablePipeline

namespace Datum

/-! ### Marks that are taken away -/

mutual

theorem forget_forget (all more : Bool) (a : Value) :
    forget more (forget all a) = forget (all || more) a := by
  cases a with
  | list xs => exact congrArg list (forgetItems_forgetItems all more xs)
  | tuple xs => exact congrArg tuple (forgetItems_forgetItems all more xs)
  | record fields => exact congrArg record (forgetFields_forgetFields all more fields)
  | float x =>
    cases x with
    | nan m => cases m <;> cases all <;> cases more <;> rfl
    | _ => rfl
  | _ => rfl

theorem forgetItems_forgetItems (all more : Bool) (xs : List Value) :
    forgetItems more (forgetItems all xs) = forgetItems (all || more) xs := by
  cases xs with
  | nil => rfl
  | cons x xs =>
    simp only [forgetItems, forget_forget all more x, forgetItems_forgetItems all more xs]

theorem forgetFields_forgetFields (all more : Bool) (fields : List (String × Value)) :
    forgetFields more (forgetFields all fields) = forgetFields (all || more) fields := by
  cases fields with
  | nil => rfl
  | cons field fields =>
    obtain ⟨name, a⟩ := field
    simp only [forgetFields, forget_forget all more a, forgetFields_forgetFields all more fields]

end

@[simp] theorem forget_claim (all : Bool) (number : ℕ) (a : Value) :
    forget all (a.claim number) = forget all a := by
  cases a with
  | float x =>
    cases x with
    | nan m => cases m <;> cases all <;> rfl
    | _ => rfl
  | _ => rfl

/-! ### The text of a value -/

theorem literal_list {xs ys : List Value} (h : literals xs = literals ys) :
    (list xs).literal = (list ys).literal :=
  congrArg (fun texts => "[" ++ ", ".intercalate texts ++ "]") h

theorem literal_tuple {xs ys : List Value} (h : literals xs = literals ys) :
    (tuple xs).literal = (tuple ys).literal := by
  unfold literal
  rw [h]

theorem literal_record {fields fields' : List (String × Value)}
    (h : fieldLiterals fields = fieldLiterals fields') :
    (record fields).literal = (record fields').literal :=
  congrArg (fun texts => "\x7b" ++ ", ".intercalate texts ++ "\x7d") h

mutual

theorem literal_forget (all : Bool) (a : Value) : (forget all a).literal = a.literal := by
  cases a with
  | list xs => exact literal_list (literals_forgetItems all xs)
  | tuple xs => exact literal_tuple (literals_forgetItems all xs)
  | record fields => exact literal_record (fieldLiterals_forgetFields all fields)
  | float x =>
    cases x with
    | nan m => cases m <;> cases all <;> rfl
    | _ => rfl
  | _ => rfl

theorem literals_forgetItems (all : Bool) (xs : List Value) :
    literals (forgetItems all xs) = literals xs := by
  cases xs with
  | nil => rfl
  | cons x xs =>
    exact congrArg₂ List.cons (literal_forget all x) (literals_forgetItems all xs)

theorem fieldLiterals_forgetFields (all : Bool) (fields : List (String × Value)) :
    fieldLiterals (forgetFields all fields) = fieldLiterals fields := by
  cases fields with
  | nil => rfl
  | cons field fields =>
    obtain ⟨name, a⟩ := field
    exact congrArg₂ (fun text texts => (Text.quoted name ++ ": " ++ text) :: texts)
      (literal_forget all a) (fieldLiterals_forgetFields all fields)

end

mutual

theorem hasLongInteger_forget (all : Bool) (a : Value) :
    (forget all a).hasLongInteger = a.hasLongInteger := by
  cases a with
  | list xs => exact hasLongIntegers_forgetItems all xs
  | tuple xs => exact hasLongIntegers_forgetItems all xs
  | record fields => exact hasLongFields_forgetFields all fields
  | float x =>
    cases x with
    | nan m => cases m <;> rfl
    | _ => rfl
  | _ => rfl

theorem hasLongIntegers_forgetItems (all : Bool) (xs : List Value) :
    hasLongIntegers (forgetItems all xs) = hasLongIntegers xs := by
  cases xs with
  | nil => rfl
  | cons x xs =>
    simp only [forgetItems, hasLongIntegers, hasLongInteger_forget all x,
      hasLongIntegers_forgetItems all xs]

theorem hasLongFields_forgetFields (all : Bool) (fields : List (String × Value)) :
    hasLongFields (forgetFields all fields) = hasLongFields fields := by
  cases fields with
  | nil => rfl
  | cons field fields =>
    obtain ⟨name, a⟩ := field
    simp only [forgetFields, hasLongFields, hasLongInteger_forget all a,
      hasLongFields_forgetFields all fields]

end

theorem written_forget (all : Bool) (a : Value) : (forget all a).written = a.written := by
  have hdisplay : (forget all a).display = a.display := by
    cases a with
    | list xs => exact literal_forget all (list xs)
    | tuple xs => exact literal_forget all (tuple xs)
    | record fields => exact literal_forget all (record fields)
    | float x =>
      cases x with
      | nan m => cases m <;> cases all <;> rfl
      | _ => rfl
    | _ => rfl
  rw [written, written, hasLongInteger_forget, hdisplay]

end Datum

/-! ### The file of some rows -/

namespace Delimited

theorem writeField_forget (d : Dialect) (all : Bool) (a : Value) :
    writeField d (Datum.forget all a) = writeField d a := by
  have hnumeric : isNumeric (Datum.forget all a) = isNumeric a := by
    cases a with
    | float x =>
      cases x with
      | nan m => cases m <;> rfl
      | _ => rfl
    | _ => rfl
  have htext : fieldText (Datum.forget all a) = fieldText a := by
    simp only [fieldText, Datum.isNull_forget, Datum.written_forget]
  have hquoted : alwaysQuoted d (Datum.forget all a) = alwaysQuoted d a := by
    rw [alwaysQuoted, alwaysQuoted, hnumeric]
  rw [writeField, writeField, htext, hquoted]

theorem writeRow_forgetItems (d : Dialect) (all : Bool) (row : Row) :
    writeRow d (Datum.forgetItems all row) = writeRow d row := by
  have hempty : (Datum.forgetItems all row).isEmpty = row.isEmpty := by
    rw [Datum.forgetItems_eq_map, List.isEmpty_map]
  rw [writeRow, writeRow, hempty, Datum.forgetItems_eq_map, mapM_map]
  simp only [writeField_forget]

end Delimited

namespace Sink

theorem writeRows_forgetItems (d : Dialect) (coding : Text.Coding) (policy : Text.CodingPolicy)
    (rows : List Row) (written : List Bytes) :
    writeRows d coding policy (rows.map (Datum.forgetItems true)) written =
      writeRows d coding policy rows written := by
  induction rows generalizing written with
  | nil => rfl
  | cons row rows ih => simp only [List.map_cons, writeRows, Delimited.writeRow_forgetItems, ih]

/-- Rows that differ in nothing but the marks of NaNs make the same file. -/
theorem fileOf_congr (sink : Sink) (settings : Settings) (header : Row) {rows rows' : List Row}
    (h : rows.map (Datum.forgetItems true) = rows'.map (Datum.forgetItems true)) :
    sink.fileOf settings header rows = sink.fileOf settings header rows' := by
  have hwrite : ∀ (d : Dialect) (coding : Text.Coding) (policy : Text.CodingPolicy)
      (front : List Row), writeRows d coding policy (front ++ rows) [] =
        writeRows d coding policy (front ++ rows') [] := by
    intro d coding policy front
    rw [← writeRows_forgetItems d coding policy (front ++ rows), List.map_append, h,
      ← List.map_append, writeRows_forgetItems]
  unfold fileOf fill
  cases Source.codingOf settings <;>
    cases Dialect.ofSettings (settings.without ownSettings) <;> simp only [hwrite]

theorem Holds.congr {sink : Sink} {settings : Settings} {header : Row} {rows rows' : List Row}
    {store : Store} {reported : ℕ} (hholds : sink.Holds settings header rows store reported)
    (h : rows.map (Datum.forgetItems true) = rows'.map (Datum.forgetItems true)) :
    sink.Holds settings header rows' store reported := by
  have hlength : rows.length = rows'.length := by simpa using congrArg List.length h
  exact ⟨hholds.1.trans hlength, hholds.2.trans (congrArg _ (sink.fileOf_congr settings header h))⟩

end Sink

end TablePipeline
