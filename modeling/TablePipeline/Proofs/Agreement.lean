import Mathlib
import TablePipeline.Proofs.RowAccounting
import TablePipeline.Proofs.SlotUse

/-!
Rows that agree on some slots. A step sees nothing of a row but the slots that it reads, so two rows
that agree on these have the same fate in the step, and agree on what it writes as well. Hence steps
that read only what is filled do not depend on what stands in the other slots when they begin, nor
on how many of them there are.
-/
namespace TablePipeline

open Declaration (writes)

/-- Two rows have the same values in some slots, all of which both of them have. -/
def Row.Agree (on : ℕ → Prop) (row row' : Row) : Prop :=
  ∀ slot, on slot → ∃ v, row[slot]? = some v ∧ row'[slot]? = some v

namespace Row.Agree

variable {on on' : ℕ → Prop} {row row' : Row}

theorem mono (h : row.Agree on row') (hsub : ∀ slot, on' slot → on slot) : row.Agree on' row' :=
  fun slot hslot => h slot (hsub slot hslot)

theorem symm (h : row.Agree on row') : row'.Agree on row := fun slot hslot => by
  obtain ⟨v, hv, hv'⟩ := h slot hslot
  exact ⟨v, hv', hv⟩

theorem lt_length (h : row.Agree on row') {slot : ℕ} (hslot : on slot) : slot < row.length := by
  obtain ⟨v, hv, -⟩ := h slot hslot
  exact (List.getElem?_eq_some_iff.1 hv).1

/-- Rows that agree show the same in the slots on which they do. -/
theorem cells (h : row.Agree on row') {slots : List ℕ} (hslots : ∀ slot ∈ slots, on slot) :
    ∃ vs, row.cells slots = .ok vs ∧ row'.cells slots = .ok vs := by
  refine ⟨_, Row.cells_eq_ok fun slot hslot => h.lt_length (hslots slot hslot), ?_⟩
  rw [Row.cells_eq_ok fun slot hslot => h.symm.lt_length (hslots slot hslot)]
  refine congrArg _ (List.map_congr_left fun slot hslot => ?_)
  obtain ⟨v, hv, hv'⟩ := h slot (hslots slot hslot)
  rw [List.getD_eq_getElem?_getD, List.getD_eq_getElem?_getD, hv, hv']

/-- A slot into which the same value is put. -/
theorem set (h : row.Agree on row') {slot : ℕ} (hlt : slot < row.length) (hlt' : slot < row'.length)
    (v : Value) :
    Row.Agree (fun there => on there ∨ there = slot) (row.set slot v) (row'.set slot v) := by
  intro there hthere
  by_cases hsame : slot = there
  · subst hsame
    exact ⟨v, List.getElem?_set_self hlt, List.getElem?_set_self hlt'⟩
  · rw [List.getElem?_set_ne hsame, List.getElem?_set_ne hsame]
    exact h there (hthere.resolve_right (Ne.symm hsame))

/-- A slot into which different values may be put. -/
theorem set_apart (h : row.Agree on row') (slot : ℕ) (v v' : Value) :
    Row.Agree (fun there => on there ∧ there ≠ slot) (row.set slot v) (row'.set slot v') := by
  rintro there ⟨hthere, hother⟩
  rw [List.getElem?_set_ne hother.symm, List.getElem?_set_ne hother.symm]
  exact h there hthere

end Row.Agree

/-- Two rows agree on the slots of a row that is the beginning of both. -/
theorem Row.agree_append (fields more more' : Row) :
    Row.Agree (· < fields.length) (fields ++ more) (fields ++ more') := by
  intro slot hslot
  rw [List.getElem?_append_left hslot, List.getElem?_append_left hslot]
  exact ⟨fields[slot], List.getElem?_eq_getElem hslot, List.getElem?_eq_getElem hslot⟩

/-- Rows of the same length that agree on all of their slots are the same. -/
theorem Row.Agree.eq {row row' : Row} (h : row.Agree (· < row.length) row')
    (hlength : row.length = row'.length) : row = row' := by
  apply List.ext_getElem?
  intro slot
  rcases Nat.lt_or_ge slot row.length with hlt | hge
  · obtain ⟨v, hv, hv'⟩ := h slot hlt
    rw [hv, hv']
  · rw [List.getElem?_eq_none hge, List.getElem?_eq_none (hlength ▸ hge)]

/-! ### Rows that have the same fate -/

/-- Two rows fail in the same way, are both rejected, or are both kept and agree on some slots. -/
inductive SameFate (on : ℕ → Prop) :
    Except Fault (Option Row) → Except Fault (Option Row) → Prop
  | failed (fault : Fault) : SameFate on (.error fault) (.error fault)
  | rejected : SameFate on (.ok none) (.ok none)
  | kept {row row' : Row} (h : row.Agree on row') : SameFate on (.ok (some row)) (.ok (some row'))

namespace SameFate

variable {on on' : ℕ → Prop} {x x' : Except Fault (Option Row)}

theorem mono (h : SameFate on x x') (hsub : ∀ slot, on' slot → on slot) : SameFate on' x x' := by
  cases h with
  | failed fault => exact .failed fault
  | rejected => exact .rejected
  | kept h => exact .kept (h.mono hsub)

/-- Fates that are the same stay so when what comes next treats both rows alike. -/
theorem bind (h : SameFate on x x') {f f' : Row → Except Fault (Option Row)}
    (hf : ∀ row row', x = .ok (some row) → x' = .ok (some row') → row.Agree on row' →
      SameFate on' (f row) (f' row')) :
    SameFate on' (do match ← x with | some row => f row | none => .ok none)
      (do match ← x' with | some row => f' row | none => .ok none) := by
  cases h with
  | failed fault => exact .failed fault
  | rejected => exact .rejected
  | kept h => exact hf _ _ rfl rfl h

end SameFate

namespace Row.Agree

open RowTransform (runSteps length_apply)

variable {on : ℕ → Prop} {row row' : Row}

/-- One step on two rows that agree on what it reads. -/
theorem sameFate_apply (h : row.Agree on row') {step : RowStep}
    (hreads : ∀ slot ∈ step.declaration.reads, on slot)
    (hwrites : ∀ slot ∈ writes [step.declaration], slot < row.length ∧ slot < row'.length)
    (number : ℕ) :
    SameFate (fun slot => on slot ∨ slot ∈ writes [step.declaration])
      (step.apply number row) (step.apply number row') := by
  obtain ⟨args, hargs, hargs'⟩ := h.cells hreads
  cases step with
  | operation op =>
    obtain ⟨hlt, hlt'⟩ := hwrites op.output (List.mem_singleton_self _)
    simp only [RowStep.declaration, Declaration.reads] at hargs hargs'
    simp only [RowStep.apply, hargs, hargs', ok_bind]
    cases op.func.apply args with
    | error fault => exact .failed fault
    | ok v =>
      simp only [ok_bind, Row.put, if_pos hlt, if_pos hlt']
      refine .kept ((h.set hlt hlt' (v.claim number)).mono fun slot hslot => ?_)
      exact hslot.imp_right List.mem_singleton.1
  | filter f =>
    simp only [RowStep.declaration, Declaration.reads] at hargs hargs'
    simp only [RowStep.apply, hargs, hargs', ok_bind]
    cases f.predicate.apply args with
    | error fault => exact .failed fault
    | ok v =>
      cases hv : v.truth with
      | false => simpa [hv] using SameFate.rejected
      | true =>
        simp only [ok_bind, hv, if_true]
        exact .kept (h.mono fun slot hslot => hslot.resolve_right List.not_mem_nil)

/-- Steps on two rows that agree on what they read, apart from what they have written before. By
induction on the steps: the rows agree on ever more slots. -/
theorem sameFate_runSteps {steps : List RowStep} (h : row.Agree on row')
    (hreads : ∀ before step rest, steps = before ++ step :: rest →
      ∀ slot ∈ step.declaration.reads, on slot ∨ slot ∈ writes (before.map RowStep.declaration))
    (hwrites : ∀ slot ∈ writes (steps.map RowStep.declaration),
      slot < row.length ∧ slot < row'.length) (number : ℕ) :
    SameFate (fun slot => on slot ∨ slot ∈ writes (steps.map RowStep.declaration))
      (runSteps number steps row) (runSteps number steps row') := by
  induction steps generalizing on row row' number with
  | nil => exact .kept (h.mono fun slot hslot => hslot.resolve_right List.not_mem_nil)
  | cons step steps ih =>
    have hsplit : ∀ steps : List RowStep, writes ((step :: steps).map RowStep.declaration) =
        writes [step.declaration] ++ writes (steps.map RowStep.declaration) :=
      fun steps => Declaration.writes_append [step.declaration] _
    have hstep := h.sameFate_apply
      (fun slot hslot => (hreads [] step steps rfl slot hslot).resolve_right List.not_mem_nil)
      (fun slot hslot => hwrites slot (hsplit steps ▸ List.mem_append_left _ hslot)) number
    refine hstep.bind fun next next' hnext hnext' hagree => ?_
    refine (ih hagree (fun before there rest hthere slot hslot => ?_) (fun slot hslot => ?_)
      (number + 1)).mono fun slot hslot => ?_
    · have := hreads (step :: before) there rest (by rw [hthere]; rfl) slot hslot
      rw [hsplit, List.mem_append] at this
      exact or_assoc.2 this
    · rw [length_apply hnext, length_apply hnext']
      exact hwrites slot (hsplit steps ▸ List.mem_append_right _ hslot)
    · rw [hsplit, List.mem_append] at hslot
      exact or_assoc.2 hslot

end Row.Agree

end TablePipeline
