import Mathlib
import TablePipeline.Proofs.FilledSlots

/-!
What a filter is given. Its position keeps a filter behind the operations that were there when it was
declared, so later edits leave the steps up to it as they are: what operations, further filters,
formatters and layouts do later, the filter does not see. Types and parsers have no position, however.
A field is parsed before the first step, and one that is parsed anew after the declaration reaches the
filter as its new parser leaves it, and so does all that was computed from it.
-/
namespace TablePipeline

/-! ### The steps up to a declaration -/

namespace Declaration

@[simp] theorem length_steps (i : ℕ) (ds : List Declaration) : (steps i ds).length = ds.length := by
  rw [← List.length_map RowStep.declaration, declaration_steps]

theorem steps_append (i : ℕ) (ds es : List Declaration) :
    steps i (ds ++ es) = steps i ds ++ steps (i + (operations ds).length) es := by
  induction ds generalizing i with
  | nil => rfl
  | cons d ds ih =>
    cases d with
    | operation func inputs output =>
      simp only [List.cons_append, steps, operations, List.length_cons, ih]
      congr 3
      omega
    | filter columns predicate => simp [steps, operations, ih]

/-- The slots whose values depend on what some slots held before declarations were carried out. -/
def derived (slots : List ℕ) : List Declaration → List ℕ
  | [] => slots
  | operation _ inputs output :: rest =>
    derived (if inputs.any slots.contains then output :: slots
      else slots.filter (· != output)) rest
  | filter _ _ :: rest => derived slots rest

end Declaration

namespace RowTransform

/-- What a step is given of a row: nothing, if an earlier filter rejects the row. -/
def given (p : RowTransform) (number : ℕ) (values : Row) : Except Fault (Option Row) := do
  match ← (p.upTo (p.steps.take number)).kept values, p.steps[number]? with
  | some row, some step => .ok (some (← row.cells step.declaration.reads))
  | _, _ => .ok none

/-- Whether a row gets past some first steps. -/
def passes (p : RowTransform) (number : ℕ) (values : Row) : Except Fault Bool := do
  .ok (← (p.upTo (p.steps.take number)).kept values).isSome

variable {p p' : RowTransform} {values : Row}

theorem kept_upTo_eq_ok {before : List RowStep} {row? : Option Row} :
    (p.upTo before).kept values = .ok row? ↔ ∃ fields, parseFields 0 p.parsers values = .ok fields ∧
      runSteps p.parsers.length before
        (fields ++ List.replicate (p.width - p.parsers.length) .null) = .ok row? :=
  bind_eq_ok

/-! ### Rows that were parsed differently -/

theorem cell_of_parseFields {parsers : List (Option Func)} {fields : Row}
    (h : parseFields 0 parsers values = .ok fields) {slot : ℕ} (hslot : slot < parsers.length) :
    fields.cell slot = (parseField parsers[slot]?.join (values.getD slot .null)).map
      (Datum.claim slot) := by
  rw [parseFields_eq] at h
  rw [Row.cell_of_mapM h (i := slot) (a := slot) (by simp [hslot]), Nat.zero_add]
  cases parseField parsers[slot]?.join (values.getD slot .null) <;> rfl

/-- Two rows of fields, of which only some slots were parsed by different functions, and which are
filled up to different lengths. -/
theorem agree_start {parsers parsers' : List (Option Func)} {fields fields' : Row} {retyped : List ℕ}
    {m m' : ℕ} (hlength : parsers'.length = parsers.length)
    (hsame : ∀ slot ∉ retyped, parsers'[slot]? = parsers[slot]?)
    (h : parseFields 0 parsers values = .ok fields)
    (h' : parseFields 0 parsers' values = .ok fields') (hm : m ≤ m') :
    Row.Agree (fun slot => slot < parsers.length + m ∧ slot ∉ retyped)
      (fields ++ List.replicate m .null) (fields' ++ List.replicate m' .null) := by
  have hfields := length_parseFields h
  have hfields' := (length_parseFields h').trans hlength
  rintro slot ⟨hslot, hkept⟩
  by_cases hfield : slot < parsers.length
  · have hcell := cell_of_parseFields h hfield
    have hcell' := cell_of_parseFields h' (hlength ▸ hfield)
    rw [hsame slot hkept, ← hcell] at hcell'
    have hv : fields.cell slot = .ok (fields.getD slot .null) := by
      simp [Row.cell_eq_ok_iff, hfields ▸ hfield]
    refine ⟨fields.getD slot .null, ?_, ?_⟩
    · rw [List.getElem?_append_left (hfields ▸ hfield)]
      exact Row.cell_eq_ok_iff.1 hv
    · rw [List.getElem?_append_left (hfields' ▸ hfield)]
      exact Row.cell_eq_ok_iff.1 (hcell'.trans hv)
  · rw [List.getElem?_append_right (by omega), List.getElem?_append_right (by omega)]
    exact ⟨.null, List.getElem?_replicate_of_lt (by omega),
      List.getElem?_replicate_of_lt (by omega)⟩

/-- One step on rows that agree on the slots that do not depend on some others. -/
theorem agree_of_apply {step : RowStep} {slots : List ℕ} {width number : ℕ}
    {row row' next next' : Row} (h : Row.Agree (fun slot => slot < width ∧ slot ∉ slots) row row')
    (hstep : ∀ slot ∈ step.declaration.reads, slot < width)
    (hnext : step.apply number row = .ok (some next))
    (hnext' : step.apply number row' = .ok (some next')) :
    Row.Agree (fun slot => slot < width ∧ slot ∉ Declaration.derived slots [step.declaration])
      next next' := by
  cases step with
  | filter f =>
    rw [kept_of_filter hnext, kept_of_filter hnext']
    exact h
  | operation op =>
    obtain ⟨args, v, hargs, hv, hlt, rfl⟩ := kept_of_operation hnext
    obtain ⟨args', v', hargs', hv', hlt', rfl⟩ := kept_of_operation hnext'
    simp only [RowStep.declaration, Declaration.derived]
    split_ifs with hreads
    · refine (h.set_apart op.output _ _).mono fun slot hslot => ?_
      simp only [List.mem_cons, not_or] at hslot
      exact ⟨⟨hslot.1, hslot.2.2⟩, hslot.2.1⟩
    · have hclean : ∀ slot ∈ op.inputs, slot < width ∧ slot ∉ slots := fun slot hslot =>
        ⟨hstep slot hslot, fun hmem => hreads (List.any_eq_true.2 ⟨slot, hslot, by simpa using hmem⟩)⟩
      obtain ⟨vs, hvs, hvs'⟩ := h.cells hclean
      obtain rfl : vs = args := Except.ok.inj (hvs.symm.trans hargs)
      obtain rfl : vs = args' := Except.ok.inj (hvs'.symm.trans hargs')
      obtain rfl : v = v' := Except.ok.inj (hv.symm.trans hv')
      refine (h.set hlt hlt' _).mono fun slot hslot => ?_
      by_cases hout : slot = op.output
      · exact .inr hout
      · exact .inl ⟨hslot.1, fun hmem => hslot.2 (List.mem_filter.2 ⟨hmem, by simpa using hout⟩)⟩

/-- Any number of steps, by induction: what the rows differ in is followed through the steps. -/
theorem agree_of_runSteps {steps : List RowStep} {slots : List ℕ} {width number : ℕ}
    {row row' next next' : Row} (h : Row.Agree (fun slot => slot < width ∧ slot ∉ slots) row row')
    (hsteps : ∀ step ∈ steps, ∀ slot ∈ step.declaration.reads, slot < width)
    (hnext : runSteps number steps row = .ok (some next))
    (hnext' : runSteps number steps row' = .ok (some next')) :
    Row.Agree (fun slot => slot < width ∧
      slot ∉ Declaration.derived slots (steps.map RowStep.declaration)) next next' := by
  induction steps generalizing slots row row' number with
  | nil =>
    obtain rfl := Option.some.inj (Except.ok.inj hnext)
    obtain rfl := Option.some.inj (Except.ok.inj hnext')
    exact h
  | cons step steps ih =>
    obtain ⟨there?, hthere, hnext⟩ := bind_eq_ok.1 hnext
    obtain ⟨then?, hthere', hnext'⟩ := bind_eq_ok.1 hnext'
    cases there? with
    | none => cases hnext
    | some there =>
      cases then? with
      | none => cases hnext'
      | some there' =>
        have hstep := agree_of_apply h (hsteps step List.mem_cons_self) hthere hthere'
        have hrest := ih hstep (fun step hstep => hsteps step (List.mem_cons_of_mem _ hstep))
          hnext hnext'
        cases hd : step.declaration <;> simpa [hd, Declaration.derived] using hrest

/-! ### Transforms that begin with the same steps -/

/-- Another transform has the same first steps. It may have more slots, and other parsers for some
fields. -/
structure SharesFront (p p' : RowTransform) (number : ℕ) (retyped : List ℕ) : Prop where
  steps : p'.steps.take number = p.steps.take number
  length : p'.parsers.length = p.parsers.length
  parsers : ∀ slot ∉ retyped, p'.parsers[slot]? = p.parsers[slot]?
  width : p.width ≤ p'.width

namespace SharesFront

variable {number k : ℕ} {retyped : List ℕ}

theorem take (h : p.SharesFront p' number retyped) (hk : k ≤ number) :
    p'.steps.take k = p.steps.take k := by
  have htake := congrArg (List.take k) h.steps
  rwa [List.take_take, List.take_take, min_eq_left hk] at htake

theorem getElem? (h : p.SharesFront p' number retyped) (hk : k < number) :
    p'.steps[k]? = p.steps[k]? := by
  rw [← List.getElem?_take_of_lt hk, h.steps, List.getElem?_take_of_lt hk]

/-- The rows with which two such transforms start agree on the slots of the first, but for the fields
that are parsed differently. -/
theorem agree (h : p.SharesFront p' number retyped) (hp : p.Ready) {fields fields' : Row}
    (hfields : parseFields 0 p.parsers values = .ok fields)
    (hfields' : parseFields 0 p'.parsers values = .ok fields') :
    Row.Agree (fun slot => slot < p.width ∧ slot ∉ retyped)
      (fields ++ List.replicate (p.width - p.parsers.length) .null)
      (fields' ++ List.replicate (p'.width - p.parsers.length) .null) := by
  have hstart := agree_start h.length h.parsers hfields hfields'
    (Nat.sub_le_sub_right h.width p.parsers.length)
  rwa [Nat.add_sub_cancel' hp.parsers] at hstart

/-- Where no field is parsed differently, rows have the same fate in the first steps. -/
theorem sameFate (h : p.SharesFront p' number []) (hp : p.Ready) (hk : k ≤ number) (values : Row) :
    SameFate (· < p.width) ((p.upTo (p.steps.take k)).kept values)
      ((p'.upTo (p'.steps.take k)).kept values) := by
  have hparsers : p'.parsers = p.parsers := List.ext_getElem? fun slot =>
    h.parsers slot List.not_mem_nil
  simp only [kept, upTo, hparsers, h.take hk]
  cases hfields : parseFields 0 p.parsers values with
  | error fault => exact .failed fault
  | ok fields =>
    have hagree := (h.agree hp hfields (hparsers ▸ hfields)).mono
      fun slot (hslot : slot < p.width) => ⟨hslot, List.not_mem_nil⟩
    have hsteps : ∀ step ∈ p.steps.take k, ∀ slot ∈ step.declaration.slots, slot < p.width :=
      fun step hstep => hp.slots step (List.mem_of_mem_take hstep)
    refine (hagree.sameFate_runSteps (fun before step rest hsplit slot hslot => .inl ?_)
      (fun slot hslot => ?_) _).mono fun slot hslot => .inl hslot
    · exact hsteps step (by simp [hsplit]) slot (Declaration.reads_subset_slots _ hslot)
    · have hlt := Declaration.lt_of_mem_writes hsteps hslot
      exact ⟨hagree.lt_length hlt, hagree.symm.lt_length hlt⟩

theorem passes_eq (h : p.SharesFront p' number []) (hp : p.Ready) (hk : k ≤ number) (values : Row) :
    p'.passes k values = p.passes k values := by
  have hfate := h.sameFate hp hk values
  unfold passes
  generalize (p.upTo (p.steps.take k)).kept values = x at hfate ⊢
  generalize (p'.upTo (p'.steps.take k)).kept values = x' at hfate ⊢
  cases hfate <;> rfl

theorem given_eq (h : p.SharesFront p' number []) (hp : p.Ready) (hk : k < number) (values : Row) :
    p'.given k values = p.given k values := by
  have hfate := h.sameFate hp hk.le values
  unfold given
  rw [h.getElem? hk]
  generalize (p.upTo (p.steps.take k)).kept values = x at hfate ⊢
  generalize (p'.upTo (p'.steps.take k)).kept values = x' at hfate ⊢
  cases hfate with
  | failed | rejected => rfl
  | kept hrows =>
    cases hstep : p.steps[k]? with
    | none => rfl
    | some step =>
      have hreads : ∀ slot ∈ step.declaration.reads, slot < p.width := fun slot hslot =>
        hp.slots step (List.mem_of_getElem? hstep) slot (Declaration.reads_subset_slots _ hslot)
      obtain ⟨args, hargs, hargs'⟩ := hrows.cells hreads
      simp only [ok_bind, hargs, hargs']

/-- What a step has got from a row if it was given something. -/
theorem of_given {args : Row} (h : p.given k values = .ok (some args)) :
    ∃ step row, p.steps[k]? = some step ∧ (p.upTo (p.steps.take k)).kept values = .ok (some row) ∧
      row.cells step.declaration.reads = .ok args := by
  obtain ⟨row?, hrow, h⟩ := bind_eq_ok.1 h
  cases row? with
  | none => cases h
  | some row =>
    cases hstep : p.steps[k]? with
    | none => simp [hstep] at h
    | some step =>
      simp only [hstep] at h
      obtain ⟨cells, hcells, h⟩ := bind_eq_ok.1 h
      obtain rfl := Option.some.inj (Except.ok.inj h)
      exact ⟨step, row, rfl, hrow, hcells⟩

/-- A step that both transforms come to is given the same by both, if it reads nothing that was
computed from a field that is parsed differently. -/
theorem given_agree (h : p.SharesFront p' number retyped) (hp : p.Ready) (hk : k < number)
    {args args' : Row} (hargs : p.given k values = .ok (some args))
    (hargs' : p'.given k values = .ok (some args'))
    (hclean : ∀ step, p.steps[k]? = some step → ∀ slot ∈ step.declaration.reads,
      slot ∉ Declaration.derived retyped ((p.steps.take k).map RowStep.declaration)) :
    args' = args := by
  obtain ⟨step, row, hstep, hrow, hcells⟩ := of_given hargs
  obtain ⟨step', row', hstep', hrow', hcells'⟩ := of_given hargs'
  obtain rfl : step = step' := Option.some.inj (hstep.symm.trans (h.getElem? hk ▸ hstep'))
  rw [h.take hk.le] at hrow'
  obtain ⟨fields, hfields, hrow⟩ := kept_upTo_eq_ok.1 hrow
  obtain ⟨fields', hfields', hrow'⟩ := kept_upTo_eq_ok.1 hrow'
  rw [h.length] at hrow'
  have hreads : ∀ step ∈ p.steps, ∀ slot ∈ step.declaration.reads, slot < p.width :=
    fun step hstep slot hslot => hp.slots step hstep slot (Declaration.reads_subset_slots _ hslot)
  have hrows := agree_of_runSteps (h.agree hp hfields hfields')
    (fun step hstep => hreads step (List.mem_of_mem_take hstep)) hrow hrow'
  obtain ⟨vs, hvs, hvs'⟩ := hrows.cells fun slot hslot =>
    ⟨hreads step (List.mem_of_getElem? hstep) slot hslot, hclean step hstep slot hslot⟩
  exact (Except.ok.inj (hvs'.symm.trans hcells')).symm.trans (Except.ok.inj (hvs.symm.trans hcells))

end SharesFront

end RowTransform

/-! ### Edits after a filter -/

/-- Whether an edit says how a field is parsed. -/
def Edit.parses : Edit → Bool
  | setType .. | setParser .. => true
  | _ => false

namespace Table

variable {t : Table} {ds : List Declaration}

/-- The slots whose fields are parsed anew by those edits that take place. -/
def retypedBy (t : Table) : List (Store × Edit) → List ℕ
  | [] => []
  | (store, e) :: rest =>
    (if (t.edit store e).1.isOk then t.retyped e else []) ++ (t.edit store e).2.retypedBy rest

theorem retyped_of_not_parses {e : Edit} (h : e.parses = false) : t.retyped e = [] := by
  cases e with
  | setType type column => cases h
  | setParser column parser => cases h
  | _ => rfl

theorem retypedBy_eq_nil {later : List (Store × Edit)} (h : ∀ call ∈ later, call.2.parses = false)
    (t : Table) : t.retypedBy later = [] := by
  induction later generalizing t with
  | nil => rfl
  | cons call rest ih =>
    rw [retypedBy, retyped_of_not_parses (h call List.mem_cons_self),
      ih fun call hcall => h call (List.mem_cons_of_mem _ hcall), ite_self, List.nil_append]

/-- Only the parsers of fields that are parsed anew change. -/
theorem Fills.parsers_after (h : t.Fills ds) (later : List (Store × Edit)) :
    ∀ slot ∉ t.retypedBy later,
      (t.after later).catalog.parsers[slot]? = t.catalog.parsers[slot]? := by
  induction later generalizing t ds with
  | nil => exact fun _ _ => rfl
  | cons call rest ih =>
    intro slot hslot
    rw [retypedBy, List.mem_append, not_or] at hslot
    refine (ih (h.edit call.1 call.2) slot hslot.2).trans ?_
    cases hedit : (t.edit call.1 call.2).1 with
    | error fault => rw [(edit_of_error hedit).1]
    | ok _ =>
      rw [hedit] at hslot
      have hkept := hslot.1
      simp only [Except.isOk, Except.toBool, if_true] at hkept
      exact (alters_of_edit h.source hedit).parsers slot hkept

/-- A table that was edited further begins with the same steps. -/
theorem Fills.sharesFront (h : t.Fills ds) (later : List (Store × Edit))
    (formatted formattedLater : Bool) :
    (RowTransform.ofTable t.catalog t.rules formatted).SharesFront
      (RowTransform.ofTable (t.after later).catalog (t.after later).rules formattedLater)
      ds.length (t.retypedBy later) := by
  have hlater := h.after later
  have hwidth := width_le_after later t
  refine ⟨?_, ?_, h.parsers_after later, hwidth⟩
  · rw [h.steps_eq, hlater.steps_eq, Declaration.steps_append, List.append_assoc,
      List.take_left' (Declaration.length_steps ..), List.take_left' (Declaration.length_steps ..)]
  · exact (Catalog.length_parsers hlater.source).trans
      ((sourceWidth_after later t).trans (Catalog.length_parsers h.source).symm)

/-- A filter that is declared has a predicate and columns that are there. -/
theorem exists_filter_of_edit {store : Store} {columns predicate : Arg}
    (h : (t.edit store (.filter columns predicate)).1 = .ok ()) :
    ∃ f slots, predicate = .func f ∧ t.catalog.resolve columns = .ok slots ∧
      t.declaredBy store (.filter columns predicate) = [.filter slots f] := by
  obtain ⟨f, slots, rfl, hslots, -⟩ := Edit.ends_addFilter.1 (steps_of_edit h)
  exact ⟨f, slots, rfl, hslots, by simp only [declaredBy, h, declared, hslots]⟩

/-- The filter that was declared last comes right after the steps of what was declared before it. -/
theorem Fills.getElem?_filter {slots : List ℕ} {f : Func} (h : t.Fills (ds ++ [.filter slots f]))
    (formatted : Bool) :
    (RowTransform.ofTable t.catalog t.rules formatted).steps[ds.length]? = some (.filter
      { columns := slots, predicate := f, position := (Declaration.operations ds).length }) := by
  rw [h.steps_eq formatted, Declaration.steps_append, List.append_assoc,
    List.getElem?_append_right (Declaration.length_steps ..).le, Declaration.length_steps,
    Nat.sub_self, Nat.zero_add]
  rfl

/-- However a table is edited after a filter was declared, the steps up to the filter stay as they
are, whether formatters follow or not. While no field is parsed anew, every row of the file comes to
the filter with the same values as right after the declaration, or fails or is rejected before it in
the same way; so the filter accepts the same rows. If some fields are parsed anew, this still holds of
the rows that come to the filter both times, unless a column of the filter is one of those or was
computed from them. -/
theorem filter_after_edits (ht : t.Reachable) {store : Store} {columns predicate : Arg}
    (hfilter : (t.edit store (.filter columns predicate)).1 = .ok ())
    (later : List (Store × Edit)) (formatted formattedLater : Bool) :
    let filtered := (t.edit store (.filter columns predicate)).2
    let made := filtered.after later
    let early := RowTransform.ofTable filtered.catalog filtered.rules formatted
    let late := RowTransform.ofTable made.catalog made.rules formattedLater
    let number := (RowTransform.ofTable t.catalog t.rules false).steps.length
    ∃ f slots, predicate = .func f ∧ t.catalog.resolve columns = .ok slots ∧
      early.steps[number]? = some (.filter
        { columns := slots, predicate := f, position := t.catalog.operations.length }) ∧
      late.steps.take (number + 1) = early.steps.take (number + 1) ∧
      (filtered.retypedBy later = [] → ∀ values,
        late.given number values = early.given number values ∧
          late.passes (number + 1) values = early.passes (number + 1) values) ∧
      ∀ values args args', early.given number values = .ok (some args) →
        late.given number values = .ok (some args') →
        (∀ slot ∈ slots, slot ∉ Declaration.derived (filtered.retypedBy later)
          ((early.steps.take number).map RowStep.declaration)) → args' = args := by
  intro filtered made early late number
  obtain ⟨ds, hds⟩ := ht.exists_fills
  obtain ⟨f, slots, rfl, hslots, hdeclared⟩ := exists_filter_of_edit hfilter
  have hfiltered : filtered.Fills (ds ++ [.filter slots f]) := hdeclared ▸ hds.edit store _
  have hready : early.Ready := hfiltered.ready formatted
  have hnumber : number = ds.length := by
    simp only [number, hds.steps_eq, Bool.false_eq_true, if_false, List.append_nil,
      Declaration.length_steps]
  have hfront : early.SharesFront late (number + 1) (filtered.retypedBy later) := by
    have hshares := hfiltered.sharesFront later formatted formattedLater
    rwa [List.length_append, List.length_singleton, ← hnumber] at hshares
  have hstep : early.steps[number]? = some (.filter
      { columns := slots, predicate := f, position := t.catalog.operations.length }) := by
    rw [hnumber, hds.operations]
    exact hfiltered.getElem?_filter formatted
  refine ⟨f, slots, rfl, hslots, hstep, hfront.steps, fun hretyped values => ?_,
    fun values args args' hargs hargs' hclean => ?_⟩
  · rw [hretyped] at hfront
    exact ⟨hfront.given_eq hready (Nat.lt_succ_self _) values, hfront.passes_eq hready le_rfl values⟩
  · refine hfront.given_agree hready (Nat.lt_succ_self _) hargs hargs' fun step hthere => ?_
    obtain rfl := Option.some.inj (hstep.symm.trans hthere)
    exact hclean

end Table

/-! ### A filter of the sample -/

def isOne : Func := .unary "is_one" fun v => .ok (.bool (Datum.equal v (.text "1")))

/-- The rows of the sample with a one in the second column. -/
def onesTable : Table :=
  { sampleTable with rules := { filters := [{ columns := [1], predicate := isOne, position := 0 }] } }

theorem edit_isOne : sampleTable.edit sampleStore (.filter (.text "v") (.func isOne)) =
    (.ok (), onesTable) :=
  Table.edit_of_steps rfl (dryRun_sample rfl rfl rfl)

/-- The column of the filter is replaced afterwards. -/
theorem filter_after_edits_sample :
    let made := onesTable.after [(sampleStore, .operate (.func marked) (.text "v") .null)]
    let late := RowTransform.ofTable made.catalog made.rules true
    late.given 0 [.text "a", .text "1"] = .ok (some [.text "1"]) ∧
      late.passes 1 [.text "a", .text "1"] = .ok true ∧
      late.passes 1 [.text "b", .text "2"] = .ok false := by
  have hfilter : (sampleTable.edit sampleStore (.filter (.text "v") (.func isOne))).1 = .ok () := by
    rw [edit_isOne]
  have hretyped : onesTable.retypedBy [(sampleStore, .operate (.func marked) (.text "v") .null)] =
      [] := Table.retypedBy_eq_nil (by simp [Edit.parses]) _
  obtain ⟨f, slots, -, -, -, -, hsame, -⟩ := Table.filter_after_edits (reachable_sample [])
    hfilter [(sampleStore, .operate (.func marked) (.text "v") .null)] false true
  simp only [Table.after, edit_isOne] at hsame
  have hone := hsame hretyped [.text "a", .text "1"]
  have htwo := hsame hretyped [.text "b", .text "2"]
  exact ⟨hone.1.trans rfl, hone.2.trans rfl, htwo.2.trans rfl⟩

/-- The same rows, whose second column is parsed as a number after the filter was declared. -/
def numberedTable : Table :=
  { onesTable with
    catalog := {
      slots := [{ name := .text "k" },
        { name := .text "v", type := .int, parser? := some ColumnType.int.parser }]
      order := [0, 1]
      sourceWidth := 2
      formatters := [(1, ColumnType.int.formatter)] } }

theorem edit_numbered : onesTable.edit sampleStore (.setType (.text "v") (.text "int")) =
    (.ok (), numberedTable) :=
  Table.edit_of_steps rfl (dryRun_sample rfl rfl rfl)

/-- A filter was declared for texts, and the type that was set afterwards makes it see numbers: the
first row of the sample, which it accepted, is rejected. -/
theorem filter_given_number :
    sampleTable.Reachable ∧
    sampleTable.edit sampleStore (.filter (.text "v") (.func isOne)) = (.ok (), onesTable) ∧
    onesTable.edit sampleStore (.setType (.text "v") (.text "int")) = (.ok (), numberedTable) ∧
    let early := RowTransform.ofTable onesTable.catalog onesTable.rules false
    let late := RowTransform.ofTable numberedTable.catalog numberedTable.rules false
    (early.given 0 [.text "a", .text "1"] = .ok (some [.text "1"]) ∧
      late.given 0 [.text "a", .text "1"] = .ok (some [.int 1])) ∧
    early.run [.text "a", .text "1"] = .ok (some [.text "a", .text "1"]) ∧
      late.run [.text "a", .text "1"] = .ok none :=
  ⟨reachable_sample [], edit_isOne, edit_numbered, ⟨rfl, rfl⟩, rfl, rfl⟩

end TablePipeline
