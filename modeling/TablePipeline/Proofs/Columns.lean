import Mathlib
import TablePipeline.Proofs.Outcome
import TablePipeline.Group.Plan

/-!
Columns that are picked from a row. A plan cuts rows down to the slots it needs and refers to places
in what is left; picking by place from the shorter row is picking by slot from the whole one.
-/
namespace TablePipeline

theorem mem_ascending {numbers : List ℕ} {n : ℕ} : n ∈ ascending numbers ↔ n ∈ numbers := by
  rw [ascending, List.mem_eraseDups, List.mem_mergeSort]

namespace Row

theorem cell_eq_ok_iff {row : Row} {slot : ℕ} {v : Value} :
    row.cell slot = .ok v ↔ row[slot]? = some v := by
  unfold cell
  cases row[slot]? <;> simp

/-- Cells can be picked if and only if the row is long enough. -/
theorem exists_cells_iff {row : Row} {slots : List ℕ} :
    (∃ vs, row.cells slots = .ok vs) ↔ ∀ slot ∈ slots, slot < row.length := by
  rw [cells, exists_mapM_ok_iff]
  refine forall₂_congr fun slot _ => ⟨fun ⟨v, hv⟩ => ?_, fun hslot => ?_⟩
  · exact (List.getElem?_eq_some_iff.1 (cell_eq_ok_iff.1 hv)).1
  · exact ⟨row.getD slot .null, by simp [cell_eq_ok_iff, hslot]⟩

/-- A cell of a row that was made item by item. -/
theorem cell_of_mapM {α : Type} {f : α → Except Fault Value} {as : List α} {row : Row}
    (h : as.mapM f = .ok row) {i : ℕ} {a : α} (ha : as[i]? = some a) : row.cell i = f a := by
  have hmap := congrArg (·[i]?) (mapM_eq_ok_iff.1 h)
  simp only [List.getElem?_map, ha, Option.map_some] at hmap
  obtain ⟨v, hv, hfa⟩ := Option.map_eq_some_iff.1 hmap.symm
  rw [← hfa, cell_eq_ok_iff, hv]

/-- Picked cells are values of the row. -/
theorem eq_map_of_cells {row vs : Row} {slots : List ℕ} (h : row.cells slots = .ok vs) :
    vs = slots.map fun slot => row.getD slot .null := by
  apply map_ok_injective
  rw [← mapM_eq_ok_iff.1 h, List.map_map]
  apply List.map_congr_left
  intro slot hslot
  have hlt := exists_cells_iff.1 ⟨vs, h⟩ slot hslot
  simp [cell_eq_ok_iff, hlt]

/-- Picking from a row whose values were all changed. -/
theorem cells_map (f : Value → Value) (row : Row) (slots : List ℕ) :
    cells (row.map f) slots = (row.cells slots).map (List.map f) := by
  have hcell : ∀ slot, cell (row.map f) slot = (row.cell slot).map f := by
    intro slot
    unfold cell
    rw [List.getElem?_map]
    cases row[slot]? <;> rfl
  induction slots with
  | nil => rfl
  | cons slot slots ih =>
    have hcons : ∀ row : Row, cells row (slot :: slots) =
        row.cell slot >>= fun v => row.cells slots >>= fun vs => pure (v :: vs) :=
      fun _ => List.mapM_cons
    rw [hcons, hcons, hcell, ih]
    cases row.cell slot with
    | error stop => rfl
    | ok v => cases row.cells slots <;> rfl

/-- A value in a shorter row, by the place of what stands for it. -/
theorem cell_placeOf {α : Type} [BEq α] [LawfulBEq α] {items : List α} {value : α → Value} {a : α}
    (h : a ∈ items) : cell (items.map value) (placeOf items a) = .ok (value a) := by
  have hlt := List.idxOf_lt_length_of_mem h
  rw [cell_eq_ok_iff, List.getElem?_map, placeOf, List.getElem?_eq_getElem hlt,
    List.getElem_idxOf, Option.map_some]

/-- Picking by place from a shorter row. -/
theorem cells_placeOf {α : Type} [BEq α] [LawfulBEq α] {items chosen : List α} {value : α → Value}
    (h : ∀ a ∈ chosen, a ∈ items) :
    cells (items.map value) (chosen.map (placeOf items)) = .ok (chosen.map value) := by
  rw [cells, mapM_eq_ok_iff, List.map_map, List.map_map]
  exact List.map_congr_left fun a ha => cell_placeOf (h a ha)

end Row

end TablePipeline
