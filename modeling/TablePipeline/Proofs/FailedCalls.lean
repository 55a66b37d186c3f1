import Mathlib
import TablePipeline.Proofs.CatalogListing

/-!
Calls on a catalog that fail. No call alters the catalog before its last check, so there is nothing to
take back when one fails: only the list of the columns may have been made by then. Two catalogs that
differ in no more than whether they keep that list are alike, and stay so under every call. Hence a
failed call can be left out of any run of calls: what comes after it is the same without it.
-/
namespace TablePipeline

/-- A change that begins with a check that fails does not get any further. -/
theorem Change.exists_fault_of_check {α β γ : Type} {x : Except Fault α} {fault : Fault}
    (hx : x = .error fault) (rest : α → Change β) (later : β → Change γ) (c : Catalog) :
    ∃ fault, (((Change.check x >>= rest) >>= later).apply c).1 = .error fault := by
  have hcheck : (Change.check x >>= rest).apply c = (.error fault, c) := by
    rw [hx]
    exact Change.apply_ask_bind _ _ c
  exact ⟨fault, by rw [Change.apply_bind, hcheck]⟩

namespace CatalogCall

variable {listing : Catalog → List ℕ} {call : CatalogCall} {c : Catalog}

/-- A call that does not get as far as to look up columns fails. -/
theorem exists_fault_of_not_looks (h : call.looks = false) (c : Catalog)
    (listing : Catalog → List ℕ) :
    ∃ fault, ((call.change listing).apply c).1 = .error fault := by
  cases call with
  | operate func columns newName =>
    cases func with
    | func f => cases h
    | _ => exact ⟨_, rfl⟩
  | setType type column =>
    simp only [looks] at h
    cases htype : ColumnType.ofArg type with
    | ok type => rw [htype] at h; cases h
    | error fault => exact Change.exists_fault_of_check htype _ _ c
  | setParser f column =>
    cases f with
    | func f => cases h
    | _ => exact ⟨_, rfl⟩
  | setFormatter f column =>
    cases f with
    | func f => cases h
    | _ => exact ⟨_, rfl⟩
  | delete columns => cases h
  | reorder items =>
    simp only [looks] at h
    cases hitems : items.elements with
    | ok items => rw [hitems] at h; cases h
    | error fault =>
      exact Change.exists_fault_of_check (congrArg (Except.mapError Fault.eval) hitems) _ _ c
  | rename items =>
    simp only [looks] at h
    cases hitems : items.elements with
    | ok items => rw [hitems] at h; cases h
    | error fault =>
      exact Change.exists_fault_of_check (congrArg (Except.mapError Fault.eval) hitems) _ _ c

end CatalogCall

namespace ListedCatalog

variable {c c' c'' : ListedCatalog} {call : CatalogCall} {fault : Fault}

/-- A failed call leaves the catalog as it was. -/
theorem catalog_of_failed (h : (c.perform call).1 = .error fault) :
    (c.perform call).2.catalog = c.catalog :=
  Catalog.kept_change (fun _ => c.index) call c.catalog fault h

/-- The columns that are listed after a call are those that were listed before it, unless the call
takes place and drops the list. -/
theorem index_perform (c : ListedCatalog) (call : CatalogCall) :
    (c.perform call).2.index =
      if call.relists && (c.perform call).1.isOk then (c.perform call).2.catalog.live
      else c.index := by
  rw [index, listed?_perform]
  split_ifs with hdropped hlooks
  · rfl
  · rfl
  · -- nothing is looked up only when the call fails, and then there are the same columns to list
    obtain ⟨fault, hfault⟩ := CatalogCall.exists_fault_of_not_looks
      (Bool.eq_false_of_not_eq_true hlooks) c.catalog fun _ => c.index
    rw [catalog_of_failed hfault]
    rfl

/-! ### Catalogs that differ only in whether they keep a list -/

/-- Two catalogs are the same and list the same columns, though one may have to make the list. -/
structure Alike (c c' : ListedCatalog) : Prop where
  catalog : c.catalog = c'.catalog
  index : c.index = c'.index

namespace Alike

theorem refl (c : ListedCatalog) : c.Alike c := ⟨rfl, rfl⟩

theorem trans (h : c.Alike c') (h' : c'.Alike c'') : c.Alike c'' :=
  ⟨h.catalog.trans h'.catalog, h.index.trans h'.index⟩

theorem names (h : c.Alike c') : c.names = c'.names := by
  rw [ListedCatalog.names, ListedCatalog.names, h.catalog, h.index]

theorem keyIndex (h : c.Alike c') : c.keyIndex = c'.keyIndex := by
  rw [ListedCatalog.keyIndex, ListedCatalog.keyIndex, h.catalog, h.index]

/-- A call has the same outcome on both, and they are alike after it. -/
theorem perform (h : c.Alike c') (call : CatalogCall) :
    (c.perform call).1 = (c'.perform call).1 ∧ (c.perform call).2.Alike (c'.perform call).2 := by
  have houtcome : (c.perform call).1 = (c'.perform call).1 := by
    rw [outcome_perform, outcome_perform, h.catalog, h.index]
  have hcatalog : (c.perform call).2.catalog = (c'.perform call).2.catalog := by
    rw [catalog_perform, catalog_perform, h.catalog, h.index]
  refine ⟨houtcome, hcatalog, ?_⟩
  rw [index_perform, index_perform, houtcome, hcatalog, h.index]

end Alike

theorem alike_of_failed (h : (c.perform call).1 = .error fault) : (c.perform call).2.Alike c := by
  refine ⟨catalog_of_failed h, ?_⟩
  rw [index_perform, h]
  simp [Except.isOk, Except.toBool]

/-! ### Runs of calls -/

/-- The outcomes of calls, one after the other, and the catalog after them. -/
def performAll (c : ListedCatalog) :
    List CatalogCall → List (Except Fault (Option ℕ)) × ListedCatalog
  | [] => ([], c)
  | call :: rest =>
    let (outcome, there) := c.perform call
    let (outcomes, last) := there.performAll rest
    (outcome :: outcomes, last)

@[simp]
theorem performAll_cons (c : ListedCatalog) (call : CatalogCall) (rest : List CatalogCall) :
    c.performAll (call :: rest) = ((c.perform call).1 :: ((c.perform call).2.performAll rest).1,
      ((c.perform call).2.performAll rest).2) := rfl

/-- Of calls that are made one after the other, those that take place. -/
def done (c : ListedCatalog) : List CatalogCall → List CatalogCall
  | [] => []
  | call :: rest =>
    if (c.perform call).1.isOk then call :: (c.perform call).2.done rest
    else (c.perform call).2.done rest

theorem Alike.performAll (h : c.Alike c') (calls : List CatalogCall) :
    (c.performAll calls).1 = (c'.performAll calls).1 ∧
      (c.performAll calls).2.Alike (c'.performAll calls).2 := by
  induction calls generalizing c c' with
  | nil => exact ⟨rfl, h⟩
  | cons call rest ih =>
    obtain ⟨houtcome, hafter⟩ := h.perform call
    obtain ⟨houtcomes, hlast⟩ := ih hafter
    simp only [performAll_cons]
    exact ⟨by rw [houtcome, houtcomes], hlast⟩

/-- Without the calls that fail, a run of calls has the outcomes of the others and comes to the same
catalog. -/
theorem performAll_done (c : ListedCatalog) (calls : List CatalogCall) :
    (c.performAll (c.done calls)).1 = (c.performAll calls).1.filter (·.isOk) ∧
      (c.performAll (c.done calls)).2.Alike (c.performAll calls).2 := by
  induction calls generalizing c with
  | nil => exact ⟨rfl, .refl c⟩
  | cons call rest ih =>
    obtain ⟨houtcomes, hlast⟩ := ih (c.perform call).2
    simp only [done, performAll_cons, List.filter_cons]
    cases houtcome : (c.perform call).1 with
    | ok output =>
      simp only [Except.isOk, Except.toBool, if_true, performAll_cons, houtcome]
      exact ⟨by rw [houtcomes]; rfl, hlast⟩
    | error fault =>
      -- the failed call has left the catalog as it was for the calls of the rest that take place
      obtain ⟨hsame, halike⟩ :=
        (alike_of_failed houtcome).performAll ((c.perform call).2.done rest)
      simp only [Except.isOk, Except.toBool, Bool.false_eq_true, if_false]
      exact ⟨hsame.symm.trans (by rw [houtcomes]; rfl), ⟨halike.catalog.symm.trans hlast.catalog,
        halike.index.symm.trans hlast.index⟩⟩

/-- A call that fails leaves the slots, the order, the operations, the formatters and the width of the
catalog as they were, whatever the state of the catalog, whatever its arguments are and whichever of
them are at fault. The columns that are looked up, their names and their slots are the same, and so
are the outcomes of all later calls and the catalog that these come to; a copy from before the call
has nothing to give back. -/
theorem unchanged_of_failed (c : ListedCatalog) (call : CatalogCall) (fault : Fault)
    (h : (c.perform call).1 = .error fault) :
    let after := (c.perform call).2
    (after.catalog.slots = c.catalog.slots ∧ after.catalog.order = c.catalog.order ∧
      after.catalog.operations = c.catalog.operations ∧
      after.catalog.formatters = c.catalog.formatters ∧
      after.catalog.width = c.catalog.width ∧ after.catalog.sourceWidth = c.catalog.sourceWidth) ∧
    (after.index = c.index ∧ after.names = c.names ∧ after.keyIndex = c.keyIndex) ∧
    (∀ later : List CatalogCall, (after.performAll later).1 = (c.performAll later).1 ∧
      (after.performAll later).2.catalog = (c.performAll later).2.catalog) ∧
    (c.Fresh → after.Alike c.clone) := by
  intro after
  have halike : after.Alike c := alike_of_failed h
  refine ⟨?_, ⟨halike.index, halike.names, halike.keyIndex⟩, fun later => ?_, fun hfresh => ?_⟩
  · rw [halike.catalog]
    exact ⟨rfl, rfl, rfl, rfl, rfl, rfl⟩
  · obtain ⟨houtcomes, hlast⟩ := halike.performAll later
    exact ⟨houtcomes, hlast.catalog⟩
  · exact halike.trans ⟨rfl, hfresh⟩

end ListedCatalog

/-- A catalog of two columns, the second of which is one that an operation makes. -/
def doubled : ListedCatalog where
  catalog := {
    slots := [{ name := .text "a" }, { name := .text "b", type := .raw, source := false }]
    order := [1, 0]
    sourceWidth := 1
    operations := [{ func := .unary "same" .ok, inputs := [0], output := 1 }]
    formatters := [(1, .unary "same" .ok)] }

/-- The first column is there to be deleted, but the second is not. -/
theorem unchanged_of_failed_delete :
    (∃ fault, (doubled.perform (.delete (.list [.text "a", .text "gone"]))).1 = .error fault) ∧
    (doubled.perform (.delete (.list [.text "a", .text "gone"]))).2.catalog.slots =
      doubled.catalog.slots ∧
    (doubled.perform (.delete (.list [.text "a", .text "gone"]))).2.names =
      [.text "b", .text "a"] := by
  have hfails : ∃ fault,
      (doubled.perform (.delete (.list [.text "a", .text "gone"]))).1 = .error fault := ⟨_, rfl⟩
  obtain ⟨fault, hfault⟩ := hfails
  obtain ⟨⟨hslots, -⟩, ⟨-, hnames, -⟩, -⟩ :=
    doubled.unchanged_of_failed (.delete (.list [.text "a", .text "gone"])) fault hfault
  exact ⟨⟨fault, hfault⟩, hslots, hnames⟩

end TablePipeline
