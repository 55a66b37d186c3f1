import Mathlib
import TablePipeline.Proofs.Agreement
import TablePipeline.Proofs.Formatting
import TablePipeline.Proofs.GroupSelection
import TablePipeline.Proofs.LaterEdits

/-!
Rows and their slots. A row of the file may be too short or too long, but the row of slots that is
made of it has its full length from the start; a step finds every slot that it names, and what it
reads is a field of the file or was written by an operation before it. So it makes no difference what
the other slots hold at first. What cuts a row down afterwards, for the output, for the groups or for
a join, finds its slots as well. Nothing but a function that was given can make a row fail.
-/
namespace TablePipeline

open Declaration (writes)

/-- The function that a step calls. -/
def RowStep.func : RowStep → Func
  | operation op => op.func
  | filter f => f.predicate

namespace RowTransform

variable {p : RowTransform} {values row : Row} {fault : Fault}

/-! ### The row that reaches a step -/

/-- The transform that stops after some of its first steps. -/
def upTo (p : RowTransform) (before : List RowStep) : RowTransform := { p with steps := before }

theorem kept_upTo_append (p : RowTransform) (before more : List RowStep) (values : Row) :
    (p.upTo (before ++ more)).kept values = (do
      match ← (p.upTo before).kept values with
      | some row => runSteps (p.parsers.length + before.length) more row
      | none => .ok none) := by
  simp only [kept, upTo, runSteps_append]
  cases parseFields 0 p.parsers values <;> rfl

/-- The row that is left by one step more. -/
theorem kept_upTo_concat {before : List RowStep} {step : RowStep}
    (h : (p.upTo (before ++ [step])).kept values = .ok (some row)) :
    ∃ there, (p.upTo before).kept values = .ok (some there) ∧
      step.apply (p.parsers.length + before.length) there = .ok (some row) := by
  rw [kept_upTo_append] at h
  obtain ⟨there?, hthere, h⟩ := bind_eq_ok.1 h
  cases there? with
  | none => cases h
  | some there =>
    obtain ⟨row?, hrow, h⟩ := bind_eq_ok.1 h
    cases row? with
    | none => cases h
    | some row' =>
      obtain rfl := Option.some.inj (Except.ok.inj h)
      exact ⟨there, hthere, hrow⟩

/-- A value in a row is what an operation among some first steps has made of the row that reached it:
the last of them that writes the slot. -/
def Written (p : RowTransform) (before : List RowStep) (values row : Row) (slot : ℕ) : Prop :=
  ∃ front op back there args v, before = front ++ .operation op :: back ∧ op.output = slot ∧
    slot ∉ writes (back.map RowStep.declaration) ∧
    (p.upTo front).kept values = .ok (some there) ∧ there.cells op.inputs = .ok args ∧
    op.func.apply args = .ok v ∧ row.cell slot = .ok (v.claim (p.parsers.length + front.length))

theorem Written.concat {before : List RowStep} {step : RowStep} {there : Row} {slot : ℕ}
    (h : p.Written before values there slot) (hslot : slot ∉ writes [step.declaration])
    (hcell : row.cell slot = there.cell slot) : p.Written (before ++ [step]) values row slot := by
  obtain ⟨front, op, back, first, args, v, rfl, houtput, hlast, hfront, hargs, hv, hthere⟩ := h
  refine ⟨front, op, back ++ [step], first, args, v, by simp, houtput, ?_, hfront, hargs, hv,
    hcell.trans hthere⟩
  rw [List.map_append, Declaration.writes_append, List.mem_append, not_or]
  exact ⟨hlast, hslot⟩

/-- Every slot that steps write has been written in a row that has come through all of them. -/
theorem written_of_kept {before : List RowStep} (h : (p.upTo before).kept values = .ok (some row))
    {slot : ℕ} (hslot : slot ∈ writes (before.map RowStep.declaration)) :
    p.Written before values row slot := by
  induction before using List.reverseRecOn generalizing row with
  | nil => exact absurd hslot List.not_mem_nil
  | append_singleton before step ih =>
    obtain ⟨there, hthere, hstep⟩ := kept_upTo_concat h
    rw [List.map_append, Declaration.writes_append, List.mem_append] at hslot
    cases step with
    | filter f =>
      obtain rfl := kept_of_filter hstep
      exact (ih hthere (hslot.resolve_right List.not_mem_nil)).concat List.not_mem_nil rfl
    | operation op =>
      obtain ⟨args, v, hargs, hv, hlt, rfl⟩ := kept_of_operation hstep
      by_cases houtput : op.output = slot
      · subst houtput
        refine ⟨before, op, [], there, args, v, rfl, rfl, List.not_mem_nil, hthere, hargs, hv, ?_⟩
        rw [Row.cell_eq_ok_iff, List.getElem?_set_self hlt]
      · have hother : slot ∉ writes [(RowStep.operation op).declaration] := fun hmem =>
          houtput (List.mem_singleton.1 hmem).symm
        refine (ih hthere (hslot.resolve_right hother)).concat hother ?_
        rw [Row.cell, Row.cell, List.getElem?_set_ne houtput]

/-! ### Transforms that find their slots -/

/-- Why a row fails: the parser of a field does not take it, or a step has come by all that it reads
and its function does not take that. -/
inductive FailsBy (p : RowTransform) (values : Row) (fault : Fault) : Prop
  | parser (place : ℕ) (f : Func) (hparser : p.parsers[place]? = some (some f))
    (hfault : f.apply [values.getD place .null] = .error fault)
  | step (before : List RowStep) (step : RowStep) (rest : List RowStep) (row args : Row)
    (hsteps : p.steps = before ++ step :: rest)
    (hrow : (p.upTo before).kept values = .ok (some row))
    (hargs : row.cells step.declaration.reads = .ok args)
    (hfault : step.func.apply args = .error fault)

/-- What a transform says of its slots: there are at least as many as the file has fields, a step
names only those, and what it reads is filled by then. -/
structure Ready (p : RowTransform) : Prop where
  parsers : p.parsers.length ≤ p.width
  slots : ∀ step ∈ p.steps, ∀ slot ∈ step.declaration.slots, slot < p.width
  ordered : Declaration.Ordered p.parsers.length (p.steps.map RowStep.declaration)
  filled : ∀ slot < p.width,
    Declaration.Filled p.parsers.length (p.steps.map RowStep.declaration) slot

/-- What comes of that for each row of the file, whatever its length. -/
structure Safe (p : RowTransform) : Prop where
  /-- A row that is accepted has one value in each slot. -/
  length : ∀ values row, p.run values = .ok (some row) → row.length = p.width
  /-- A row that reaches a step has the slots that the step names, and what is read is a field of the
  file or was written in the same run. -/
  step : ∀ before step rest, p.steps = before ++ step :: rest →
    ∀ values row, (p.upTo before).kept values = .ok (some row) →
      row.length = p.width ∧ (∀ slot ∈ step.declaration.slots, slot < row.length) ∧
        ∀ slot ∈ step.declaration.reads,
          slot < p.parsers.length ∨ p.Written before values row slot
  /-- What the slots hold before the first step is never seen. -/
  blank : ∀ fields first : Row, fields.length = p.parsers.length →
    first.length = p.width - p.parsers.length →
    runSteps p.parsers.length p.steps (fields ++ first) = runSteps p.parsers.length p.steps
      (fields ++ List.replicate (p.width - p.parsers.length) .null)
  fault : ∀ values fault, p.run values = .error fault → p.FailsBy values fault

theorem length_of_kept (hparsers : p.parsers.length ≤ p.width)
    (h : p.kept values = .ok (some row)) : row.length = p.width := by
  obtain ⟨fields, hfields, hkept⟩ := bind_eq_ok.1 h
  rw [length_runSteps hkept, List.length_append, length_parseFields hfields, List.length_replicate]
  omega

theorem exists_parser_of_parseFields {number : ℕ} {parsers : List (Option Func)}
    (h : parseFields number parsers values = .error fault) :
    ∃ (place : ℕ) (f : Func), parsers[place]? = some (some f) ∧
      f.apply [values.getD place .null] = .error fault := by
  induction parsers generalizing number values with
  | nil => cases h
  | cons parser? parsers ih =>
    rcases bind_eq_error.1 h with hfield | ⟨v, -, h⟩
    · cases parser? with
      | none => cases hfield
      | some f =>
        refine ⟨0, f, rfl, ?_⟩
        cases values <;> exact hfield
    · rcases bind_eq_error.1 h with hrest | ⟨_, -, h⟩
      · obtain ⟨place, f, hplace, hfault⟩ := ih hrest
        refine ⟨place + 1, f, hplace, ?_⟩
        cases values with
        | nil => simpa using hfault
        | cons v values => simpa using hfault
      · cases h

/-- A step that finds its slots fails only as its function does. -/
theorem apply_eq_error {number : ℕ} {step : RowStep}
    (hslots : ∀ slot ∈ step.declaration.slots, slot < row.length)
    (h : step.apply number row = .error fault) :
    ∃ args, row.cells step.declaration.reads = .ok args ∧ step.func.apply args = .error fault := by
  refine ⟨_, Row.cells_eq_read fun slot hslot =>
    hslots slot (Declaration.reads_subset_slots _ hslot), ?_⟩
  rw [RowStep.apply_eq hslots] at h
  cases step with
  | operation op =>
    rcases bind_eq_error.1 h with h | ⟨v, -, h⟩
    · exact h
    · cases h
  | filter f =>
    rcases bind_eq_error.1 h with h | ⟨v, -, h⟩
    · exact h
    · cases h

/-- A row that fails in the steps from some step on, fails by one of them: by induction on these
steps, each of which the row has reached. -/
theorem failsBy_of_runSteps (hparsers : p.parsers.length ≤ p.width)
    (hslots : ∀ step ∈ p.steps, ∀ slot ∈ step.declaration.slots, slot < p.width)
    {before rest : List RowStep} (hsteps : p.steps = before ++ rest)
    (hrow : (p.upTo before).kept values = .ok (some row))
    (h : runSteps (p.parsers.length + before.length) rest row = .error fault) :
    p.FailsBy values fault := by
  induction rest generalizing before row with
  | nil => cases h
  | cons step rest ih =>
    rcases bind_eq_error.1 h with hstep | ⟨next?, hnext, h⟩
    · have hlength : row.length = p.width := length_of_kept (p := p.upTo before) hparsers hrow
      obtain ⟨args, hargs, hfault⟩ := apply_eq_error
        (fun slot hslot => hlength ▸ hslots step (by simp [hsteps]) slot hslot) hstep
      exact .step before step rest row args hsteps hrow hargs hfault
    · cases next? with
      | none => cases h
      | some next =>
        have hreached : (p.upTo (before ++ [step])).kept values = .ok (some next) := by
          simp only [kept_upTo_append, hrow, ok_bind, runSteps, hnext]
        exact ih (by simp [hsteps]) hreached (by simpa [Nat.add_assoc] using h)

/-- Steps that find their slots filled come to the same whatever the slots behind the fields hold at
first, as in the end all of them have been written. -/
theorem Ready.runSteps_blank (h : p.Ready) {fields first : Row}
    (hfields : fields.length = p.parsers.length)
    (hfirst : first.length = p.width - p.parsers.length) :
    runSteps p.parsers.length p.steps (fields ++ first) = runSteps p.parsers.length p.steps
      (fields ++ List.replicate (p.width - p.parsers.length) .null) := by
  have hwidth : ∀ more : Row, more.length = p.width - p.parsers.length →
      (fields ++ more).length = p.width := fun more hmore => by
    rw [List.length_append, hfields, hmore]
    exact Nat.add_sub_cancel' h.parsers
  have hstart := hwidth first hfirst
  have hblank := hwidth (List.replicate (p.width - p.parsers.length) .null) List.length_replicate
  have hwrites : ∀ slot ∈ writes (p.steps.map RowStep.declaration), slot < p.width :=
    fun slot => Declaration.lt_of_mem_writes h.slots
  have hagree : Row.Agree (· < p.parsers.length) (fields ++ first)
      (fields ++ List.replicate (p.width - p.parsers.length) .null) :=
    hfields ▸ Row.agree_append fields first _
  have hfate := hagree.sameFate_runSteps
    (fun before step rest hsteps slot hslot => h.ordered (before.map RowStep.declaration)
      step.declaration (rest.map RowStep.declaration) (by simp [hsteps]) slot hslot)
    (fun slot hslot => ⟨(hwrites slot hslot).trans_eq hstart.symm,
      (hwrites slot hslot).trans_eq hblank.symm⟩)
    p.parsers.length
  generalize hx : runSteps p.parsers.length p.steps (fields ++ first) = x at hfate ⊢
  generalize hy : runSteps p.parsers.length p.steps
    (fields ++ List.replicate (p.width - p.parsers.length) .null) = y at hfate ⊢
  cases hfate with
  | failed | rejected => rfl
  | kept hrows =>
    have hlength := (length_runSteps hx).trans hstart
    have hlength' := (length_runSteps hy).trans hblank
    have hall := hrows.mono fun slot hslot => h.filled slot (hlength ▸ hslot)
    rw [hall.eq (hlength.trans hlength'.symm)]

theorem Ready.safe (h : p.Ready) : p.Safe where
  length values row hrun := by
    obtain ⟨kept?, hkept, hrun⟩ := bind_eq_ok.1 hrun
    obtain ⟨kept, rfl, rfl⟩ := Option.map_eq_some_iff.1 (Except.ok.inj hrun)
    rw [Datum.forgetItems_eq_map, List.length_map]
    exact length_of_kept h.parsers hkept
  step before step rest hsteps values row hrow := by
    have hlength : row.length = p.width := length_of_kept (p := p.upTo before) h.parsers hrow
    refine ⟨hlength, fun slot hslot => ?_, fun slot hslot => ?_⟩
    · exact hlength ▸ h.slots step (by simp [hsteps]) slot hslot
    · refine (h.ordered (before.map RowStep.declaration) step.declaration
        (rest.map RowStep.declaration) (by simp [hsteps]) slot hslot).imp_right ?_
      exact written_of_kept hrow
  blank fields first hfields hfirst := h.runSteps_blank hfields hfirst
  fault values fault hrun := by
    rcases bind_eq_error.1 hrun with hkept | ⟨_, -, hrun⟩
    · rcases bind_eq_error.1 hkept with hfields | ⟨fields, hfields, hsteps⟩
      · obtain ⟨place, f, hplace, hfault⟩ := exists_parser_of_parseFields hfields
        exact .parser place f hplace hfault
      · have hstart : (p.upTo []).kept values = .ok (some
            (fields ++ List.replicate (p.width - p.parsers.length) .null)) :=
          bind_eq_ok.2 ⟨fields, hfields, rfl⟩
        exact failsBy_of_runSteps h.parsers h.slots (List.nil_append _).symm hstart hsteps
    · cases hrun

end RowTransform

/-! ### What is cut from a row of slots -/

/-- Why a row that was accepted does not come into the groups: the collation of a key does not take
the value that is carried in its place. -/
def GroupPlan.FailsBy (g : GroupPlan) (row : Row) (fault : Fault) : Prop :=
  ∃ carried, row.cells g.index = .ok carried ∧ ∃ place f v, (place, some f) ∈ g.keys ∧
    carried.cell place = .ok v ∧ f.apply [v] = .error fault

/-- Why a row that was accepted does not come into a join: the collation of a key or the formatter of
a column that is brought along does not take the value in its slot. -/
def JoinSide.FailsBy (s : JoinSide) (row : Row) (fault : Fault) : Prop :=
  ∃ slot f v, (slot, some f) ∈ s.keys ++ s.carry ∧ row.cell slot = .ok v ∧
    f.apply [v] = .error fault

/-- The side of a join finds its slots in every row, and a row fails only by a function. -/
structure JoinSide.Safe (s : JoinSide) : Prop where
  transform : s.transform.Safe
  within : ∀ values row, s.transform.run values = .ok (some row) →
    (∀ part ∈ s.keys ++ s.carry, part.1 < row.length) ∧
      ∀ slot, s.roll? = some slot → slot < row.length
  fault : ∀ values fault, s.recordOf values = .error fault → s.transform.FailsBy values fault ∨
    ∃ row, s.transform.run values = .ok (some row) ∧ s.FailsBy row fault

/-- The same for the plan of groups. -/
structure GroupPlan.Safe (g : GroupPlan) (transform : RowTransform) : Prop where
  rows : transform.Safe
  within : ∀ values row, transform.run values = .ok (some row) → g.Spans row
  keys : ∀ key ∈ g.keys, key.1 < g.index.length
  aggregates : ∀ a ∈ g.aggregates, a.2 < g.index.length
  fault : ∀ values fault, Plan.groupStep transform g values = .error fault →
    transform.FailsBy values fault ∨
      ∃ row, transform.run values = .ok (some row) ∧ g.FailsBy row fault

/-- What is done with the rows of a plan finds every slot, and fails only by a function. -/
def PlanWork.Safe : PlanWork → Prop
  | .rows _ transform slots => transform.Safe ∧
    (∀ values row, transform.run values = .ok (some row) → ∀ slot ∈ slots, slot < row.length) ∧
    ∀ values fault, Plan.rowStep transform slots values = .error fault →
      transform.FailsBy values fault
  | .groups _ transform g => g.Safe transform
  | .join p => p.a.Safe ∧ p.b.Safe

theorem Plan.safe_rows {source : Source} {transform : RowTransform} {slots : List ℕ}
    (h : transform.Safe) (hslots : ∀ slot ∈ slots, slot < transform.width) :
    (PlanWork.rows source transform slots).Safe := by
  refine ⟨h, fun values row hrow slot hslot => ?_, fun values fault hfault => ?_⟩
  · exact h.length values row hrow ▸ hslots slot hslot
  · rw [Plan.rowStep_eq hslots] at hfault
    refine h.fault values fault ?_
    cases hrun : transform.run values with
    | error stop => rw [hrun] at hfault; exact congrArg _ (Except.error.inj hfault)
    | ok kept? => rw [hrun] at hfault; cases hfault

theorem GroupPlan.safe_of_picks {t : Table} {g : GroupPlan} {transform : RowTransform}
    {formatted : Bool} {positions : List ℕ} (h : transform.Safe) (hp : g.Picks t formatted positions)
    (hindex : ∀ slot ∈ g.index, slot < transform.width) : g.Safe transform := by
  have hwithin : ∀ values row, transform.run values = .ok (some row) → g.Spans row :=
    fun values row hrow slot hslot => h.length values row hrow ▸ hindex slot hslot
  have hkeys : ∀ key ∈ g.keys, key.1 < g.index.length := by
    intro key hkey
    rw [hp.keys] at hkey
    obtain ⟨rule, hrule, rfl⟩ := List.mem_map.1 hkey
    exact List.idxOf_lt_length_of_mem (hp.keySlots rule hrule)
  refine ⟨h, hwithin, hkeys, fun a ha => ?_, fun values fault hfault => ?_⟩
  · rw [hp.aggregates] at ha
    obtain ⟨rule, hrule, rfl⟩ := List.mem_map.1 ha
    exact List.idxOf_lt_length_of_mem (hp.sources rule hrule)
  · rcases bind_eq_error.1 hfault with hrun | ⟨kept?, hrun, hfault⟩
    · exact .inl (h.fault values fault hrun)
    · cases kept? with
      | none => cases hfault
      | some row =>
        refine .inr ⟨row, hrun, ?_⟩
        have hcells := Row.cells_eq_ok (hwithin values row hrun)
        rcases bind_eq_error.1 hfault with hrecord | ⟨_, -, hfault⟩
        · rw [GroupPlan.record, hcells, ok_bind] at hrecord
          rcases bind_eq_error.1 hrecord with hkey | ⟨_, -, hrecord⟩
          · obtain ⟨⟨place, collation?⟩, hmem, hkey⟩ := exists_of_mapM_eq_error hkey
            have hplace := hkeys _ hmem
            obtain ⟨v, hv⟩ : ∃ v, Row.cell (g.index.map fun slot => row.getD slot .null) place =
                .ok v := ⟨_, Row.cell_eq_ok_iff.2 (List.getElem?_eq_getElem (by simpa using hplace))⟩
            rw [GroupPlan.keyPart, hv, ok_bind] at hkey
            cases collation? with
            | none => cases hkey
            | some f => exact ⟨_, hcells, place, f, v, hmem, hv, hkey⟩
          · cases hrecord
        · cases hfault

namespace JoinSide

variable {s : JoinSide}

/-- A value that is there fails to come through only as its function does. -/
theorem of_through_error {row : Row} {part : ℕ × Option Func} {fault : Fault}
    (hpart : part ∈ s.keys ++ s.carry) (hlt : part.1 < row.length)
    (h : through row part = .error fault) : s.FailsBy row fault := by
  obtain ⟨slot, f?⟩ := part
  have hcell : row.cell slot = .ok row[slot] := Row.cell_eq_ok_iff.2 (List.getElem?_eq_getElem hlt)
  rw [through, hcell, ok_bind] at h
  cases f? with
  | none => cases h
  | some f => exact ⟨slot, f, _, hpart, hcell, h⟩

/-- A record fails to be made only where a part of its key or a column fails to come through. -/
theorem of_record_error {row : Row} {fault : Fault}
    (hroll : ∀ slot, s.roll? = some slot → slot < row.length)
    (h : s.record row = .error fault) :
    ∃ part ∈ s.keys ++ s.carry, through row part = .error fault := by
  rcases bind_eq_error.1 h with hkeys | ⟨key, -, h⟩
  · obtain ⟨part, hpart, hfault⟩ := exists_of_mapM_eq_error hkeys
    exact ⟨part, List.mem_append_left _ hpart, hfault⟩
  · have hcarry : s.carry.mapM (through row) = .error fault := by
      cases hslot : s.roll? with
      | none =>
        simp only [hslot, ok_bind] at h
        rcases bind_eq_error.1 h with hcarry | ⟨_, -, h⟩
        · exact hcarry
        · cases h
      | some slot =>
        have hcell : row.cell slot = .ok (row.getD slot .null) := by
          simp [Row.cell_eq_ok_iff, hroll slot hslot]
        simp only [hslot, hcell, ok_bind] at h
        rcases bind_eq_error.1 h with hcarry | ⟨_, -, h⟩
        · exact hcarry
        · cases h
    obtain ⟨part, hpart, hfault⟩ := exists_of_mapM_eq_error hcarry
    exact ⟨part, List.mem_append_right _ hpart, hfault⟩

theorem safe_of_lt (h : s.transform.Safe)
    (hparts : ∀ part ∈ s.keys ++ s.carry, part.1 < s.transform.width)
    (hroll : ∀ slot, s.roll? = some slot → slot < s.transform.width) : s.Safe := by
  have hwithin : ∀ values row, s.transform.run values = .ok (some row) →
      (∀ part ∈ s.keys ++ s.carry, part.1 < row.length) ∧
        ∀ slot, s.roll? = some slot → slot < row.length := by
    intro values row hrow
    rw [h.length values row hrow]
    exact ⟨hparts, hroll⟩
  refine ⟨h, hwithin, fun values fault hfault => ?_⟩
  rcases bind_eq_error.1 hfault with hrun | ⟨kept?, hrun, hfault⟩
  · exact .inl (h.fault values fault hrun)
  · cases kept? with
    | none => cases hfault
    | some row =>
      obtain ⟨hlt, hlast⟩ := hwithin values row hrun
      rcases bind_eq_error.1 hfault with hrecord | ⟨_, -, hfault⟩
      · obtain ⟨part, hpart, hpartFault⟩ := of_record_error hlast hrecord
        exact .inr ⟨row, hrun, of_through_error hpart (hlt part hpart) hpartFault⟩
      · cases hfault

end JoinSide

/-! ### Tables that come about -/

namespace Table

variable {t : Table} {ds : List Declaration}

/-- What is read by a formatter was filled by the operations. -/
theorem Fills.ready (h : t.Fills ds) (formatted : Bool) :
    (RowTransform.ofTable t.catalog t.rules formatted).Ready := by
  have hsteps := h.declaration_steps formatted
  have hparsers : (RowTransform.ofTable t.catalog t.rules formatted).parsers.length =
      t.catalog.sourceWidth := Catalog.length_parsers h.source
  refine ⟨hparsers.trans_le h.source, fun step hstep => ?_, ?_, fun slot hslot => ?_⟩
  · exact h.slots_program formatted _ (hsteps ▸ List.mem_map_of_mem hstep)
  · rw [hparsers, hsteps]
    refine h.ordered.append fun d hd slot hslot => h.filled slot ?_
    exact h.slots_program formatted d (List.mem_append_right _ hd) slot
      (Declaration.reads_subset_slots d hslot)
  · rw [hparsers, hsteps]
    exact (h.filled slot hslot).append _

theorem Reachable.safe (h : t.Reachable) (formatted : Bool) :
    (RowTransform.ofTable t.catalog t.rules formatted).Safe := by
  obtain ⟨ds, hds⟩ := h.exists_fills
  exact (hds.ready formatted).safe

theorem Reachable.safe_plan (h : t.Reachable) {options : RunOptions} {formatted : Bool} {p : Plan}
    (hp : t.plan options formatted = .ok p) : p.work.Safe := by
  obtain ⟨-, select, ⟨-, hgroups⟩ | ⟨-, hrows⟩⟩ := plan_eq_ok hp
  · obtain ⟨positions, g, -, hwork, hpicks⟩ := groupWork_eq_ok hgroups
    rw [hwork]
    refine GroupPlan.safe_of_picks (h.safe false) hpicks fun slot hslot => ?_
    obtain ⟨planned, hplan, hplanned⟩ := bind_eq_ok.1 hgroups
    have hindex : planned.index = g.index := by
      rw [hwork] at hplanned
      obtain ⟨-, hgroups⟩ := Prod.mk.inj (Except.ok.inj hplanned)
      obtain ⟨-, -, rfl⟩ := PlanWork.groups.inj hgroups
      cases formatted <;> rfl
    exact Catalog.lt_width_of_isLive (GroupSchema.isLive_of_mem_index hplan (hindex ▸ hslot))
  · obtain ⟨slots, -, hwork⟩ := rowWork_eq_ok hrows
    have hslots := (lt_width_of_plan hp hwork).2
    rw [hwork]
    exact Plan.safe_rows (h.safe formatted) hslots

end Table

namespace JoinSpec

variable {spec : JoinSpec}

theorem lt_width_of_rollSlots {a b : Table} {aRoll bRoll : Arg} {x y : String} {i j : ℕ}
    (h : rollSlots a b aRoll bRoll = .ok ((x, i), (y, j))) :
    i < a.catalog.width ∧ j < b.catalog.width := by
  unfold rollSlots at h
  split at h
  · split at h
    · rename_i hi hj
      obtain ⟨⟨rfl, rfl⟩, rfl, rfl⟩ : ((_, _) = (x, i)) ∧ ((_, _) = (y, j)) := by simpa using h
      exact ⟨Catalog.lt_width_of_slotNamed? hi, Catalog.lt_width_of_slotNamed? hj⟩
    · obtain ⟨_, -, h⟩ := bind_eq_ok.1 h
      obtain ⟨_, -, h⟩ := bind_eq_ok.1 h
      cases h
  · cases h

/-- The rolling columns of a join are there when it is declared. -/
theorem rolls_of_ofArgs {store : Store} {a b : Table} {args : JoinArgs}
    (h : ofArgs store a b args = .ok spec) :
    (∀ slot, spec.aRoll? = some slot → slot < a.catalog.width) ∧
      ∀ slot, spec.bRoll? = some slot → slot < b.catalog.width := by
  rcases (declaredOn_of_ofArgs h).rolls with ⟨hx, hy⟩ | ⟨x, i, y, j, hrolls, hx, hy⟩
  · simp [hx, hy]
  · simpa [hx, hy] using lt_width_of_rollSlots hrolls

theorem safe_sideFor {t : Table} (h : t.Reachable) {keys : List (ℕ × Option Func)}
    {places slots : List ℕ} {roll? : Option ℕ} (hkeys : requireLive t keys = .ok ())
    (hslots : slotsAt t.catalog places = .ok slots)
    (hroll : ∀ slot, roll? = some slot → slot < t.catalog.width) (formatted : Bool) :
    (sideFor formatted (side t keys slots roll?)).Safe := by
  have htransform : (sideFor formatted (side t keys slots roll?)).transform =
      RowTransform.ofTable t.catalog t.rules false := by cases formatted <;> rfl
  refine JoinSide.safe_of_lt (htransform ▸ h.safe false) (fun part hpart => ?_) ?_ <;>
    rw [htransform]
  · rcases List.mem_append.1 hpart with hkey | hcarry
    · have hkey : part ∈ keys := by cases formatted <;> exact hkey
      unfold requireLive at hkeys
      split_ifs at hkeys with hlive
      exact Catalog.lt_width_of_isLive (List.all_eq_true.1 hlive part hkey)
    · rw [carry_sideFor] at hcarry
      obtain ⟨slot, hslot, rfl⟩ := List.mem_map.1 hcarry
      exact lt_width_of_slotsAt hslots slot hslot
  · cases formatted <;> exact hroll

/-- A join of tables that were edited after it was declared. -/
theorem safe_plan {a b : Table} (ha : a.Reachable) (hb : b.Reachable) {declaredOn : Store}
    {args : JoinArgs} (hdeclared : ofArgs declaredOn a b args = .ok spec)
    (aHistory bHistory : List (Store × Edit)) {store : Store} {options : RunOptions}
    {formatted : Bool} {p : Plan}
    (hp : spec.plan store (a.after aHistory) (b.after bHistory) options formatted = .ok p) :
    p.work.Safe := by
  obtain ⟨names, -, hp⟩ := bind_eq_ok.1 hp
  obtain ⟨select, -, hp⟩ := bind_eq_ok.1 hp
  obtain ⟨join, hjoin, hp⟩ := bind_eq_ok.1 hp
  obtain rfl := Except.ok.inj hp
  obtain ⟨haRoll, hbRoll⟩ := rolls_of_ofArgs hdeclared
  obtain ⟨_, _, _, _, _, _, -, -, -, haKeys, hbKeys, -, haSlots, hbSlots, -, rfl⟩ :=
    joinPlan_eq_ok_iff.1 hjoin
  constructor
  · exact safe_sideFor (ha.after aHistory) haKeys haSlots (fun slot hslot =>
      (haRoll slot hslot).trans_le (Table.width_le_after aHistory a)) formatted
  · exact safe_sideFor (hb.after bHistory) hbKeys hbSlots (fun slot hslot =>
      (hbRoll slot hslot).trans_le (Table.width_le_after bHistory b)) formatted

end JoinSpec

/-- No row of a file, short, long or empty, makes a table look for a slot that is not there. However
the table was edited, its transform makes of a row that it accepts one value for each slot of the
catalog; a row that reaches a step has the slots that the step names, and what the step reads is a
field of the file or has been written by an operation earlier in the same run. Cutting the row down
for the output, for the groups or for a join, declared whenever, stays within it as well. So a row
fails only by a parser, by the function of an operation or a filter, by a formatter or by a
collation. -/
theorem Table.rows_find_slots {t : Table} (ht : t.Reachable) :
    (∀ formatted, let transform := RowTransform.ofTable t.catalog t.rules formatted
      transform.Safe ∧ transform.width = t.catalog.width ∧
        transform.parsers.length = t.catalog.sourceWidth) ∧
    (∀ (options : RunOptions) (formatted : Bool) (p : Plan),
      t.plan options formatted = .ok p → p.work.Safe) ∧
    ∀ (other : Table) (declaredOn store : Store) (args : JoinArgs) (spec : JoinSpec)
      (later otherLater : List (Store × Edit)) (options : RunOptions) (formatted : Bool) (p : Plan),
      other.Reachable → JoinSpec.ofArgs declaredOn t other args = .ok spec →
      spec.plan store (t.after later) (other.after otherLater) options formatted = .ok p →
        p.work.Safe := by
  obtain ⟨ds, hds⟩ := ht.exists_fills
  refine ⟨fun formatted => ⟨ht.safe formatted, rfl, Catalog.length_parsers hds.source⟩,
    fun _ _ _ => ht.safe_plan, ?_⟩
  intro other declaredOn store args spec later otherLater options formatted p hother hdeclared
  exact JoinSpec.safe_plan ht hother hdeclared later otherLater

/-- The sample in which the second column was marked twice and rows were filtered: a row that lacks a
field, and the join with the table as it was opened. -/
theorem rows_find_slots_sample :
    let transform := RowTransform.ofTable markedTable.catalog markedTable.rules true
    let short : Row := [.text "b", .null, .tuple [.tuple [.null, .text "!"], .text "!"]]
    (transform.run [.text "b"] = .ok (some short) ∧ short.length = transform.width) ∧
    ∃ p, sampleJoin.plan sampleStore (sampleTable.after sampleHistory) (sampleTable.after [])
        { select := some ["1_w"] } true = .ok p ∧ p.work.Safe := by
  obtain ⟨htransform, -, -⟩ := Table.rows_find_slots (reachable_sample sampleHistory)
  obtain ⟨-, -, hjoin⟩ := Table.rows_find_slots (reachable_sample [])
  rw [after_sample.1] at htransform
  have hrun : (RowTransform.ofTable markedTable.catalog markedTable.rules true).run [.text "b"] =
      .ok (some [.text "b", .null, .tuple [.tuple [.null, .text "!"], .text "!"]]) := rfl
  obtain ⟨p, hp⟩ : ∃ p, sampleJoin.plan sampleStore (sampleTable.after sampleHistory)
      (sampleTable.after []) { select := some ["1_w"] } true = .ok p := by
    rw [after_sample.1]
    refine ⟨{
      names := [.text "1_w"], options := { select := some ["1_w"] }, batchSize := 1
      work := .join { sampleJoinPlan with
        a := { sampleSide with
          transform := RowTransform.ofTable markedTable.catalog markedTable.rules false
          carry := [(2, none)] }
        b := { sampleSide with carry := [] }
        writeIndex := [0], names := [.text "1_w"] } }, ?_⟩
    simp only [Table.after, JoinSpec.plan, JoinSpec.joinPlan, JoinSpec.buildsA, markedTable,
      filteredTable, derivedTable, sampleTable, size_sample]
    cbv
  refine ⟨⟨hrun, (htransform true).1.length _ _ hrun⟩, p, hp, ?_⟩
  exact hjoin sampleTable sampleStore sampleStore _ sampleJoin sampleHistory [] _ _ p
    (reachable_sample []) ofArgs_sampleJoin hp

end TablePipeline
