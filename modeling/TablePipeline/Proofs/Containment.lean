import Mathlib
import TablePipeline.Proofs.EmptiedSource
import TablePipeline.Proofs.Failures
import TablePipeline.Proofs.GroupColumns
import TablePipeline.Proofs.SourceText
import TablePipeline.Workspace

/-!
Failures are contained, but for keys. A run that reports ends with a report that lists every row,
group, bucket and row of a bucket that failed, and one that raises ends with the first entry of this
list. Two things are not contained: a key that cannot be looked up ends the run with its own failure
where records are set apart, and so does a value that cannot be written.
-/
namespace TablePipeline

/-- The sizes of the batches in which a plan reads its sources. -/
def Plan.batchSizes (p : Plan) : List ℕ :=
  match p.work with
  | .rows .. | .groups .. => [p.batchSize]
  | .join join => [join.build.batchSize, join.probe.batchSize]

namespace PlanWork

/-- The rows that are read: those of the one source, or those of the side that is built and those of
the side that probes. -/
def rowsRead (store : Store) : PlanWork → List NumberedRow × List NumberedRow
  | .rows source _ _ | .groups source _ _ => ((source.rows store).numbered.items, [])
  | .join p =>
    ((p.build.source.rows store).numbered.items, (p.probe.source.rows store).numbered.items)

/-- What rows make, as far as they do not fail. -/
def madeOf {α : Type} (step : Row → Except Fault (List α)) (rows : Feed Row) : List α :=
  rows.items.flatMap fun row => made (step row)

/-- The keys by which records are set apart. -/
def keys (store : Store) : PlanWork → List Key
  | .rows .. => []
  | .groups source transform p =>
    if p.isWhole then []
    else (madeOf (Plan.groupStep transform p) (source.rows store)).map fun r => r.key
  | .join p =>
    (madeOf p.build.recordOf (p.build.source.rows store) ++
      madeOf p.probe.recordOf (p.probe.source.rows store)).map fun r => r.key

/-- Whether the places of aggregates are places of the rows that are carried. -/
def Covers : PlanWork → Prop
  | .groups _ _ p => ∀ place ∈ p.aggregates.map (·.2), place < p.index.length
  | _ => True

end PlanWork

/-- A table plans groups if it makes groups, else rows. -/
theorem Table.plan_eq_ok {t : Table} {options : RunOptions} {formatted : Bool} {p : Plan}
    (h : t.plan options formatted = .ok p) :
    p.batchSize = t.batchSize ∧ ∃ select,
      t.rules.makesGroups = true ∧ t.groupWork select formatted = .ok (p.names, p.work) ∨
        t.rules.makesGroups = false ∧ t.rowWork select formatted = .ok (p.names, p.work) := by
  obtain ⟨_, -, h⟩ := bind_eq_ok.1 h
  obtain ⟨select, -, h⟩ := bind_eq_ok.1 h
  cases hgroups : t.rules.makesGroups with
  | true =>
    simp only [hgroups, if_true] at h
    obtain ⟨⟨names, work⟩, hwork, h⟩ := bind_eq_ok.1 h
    obtain rfl := Except.ok.inj h
    exact ⟨rfl, select, .inl ⟨rfl, hwork⟩⟩
  | false =>
    simp only [hgroups, Bool.false_eq_true, if_false] at h
    obtain ⟨⟨names, work⟩, hwork, h⟩ := bind_eq_ok.1 h
    obtain rfl := Except.ok.inj h
    exact ⟨rfl, select, .inr ⟨rfl, hwork⟩⟩

theorem Table.rowWork_eq_ok {t : Table} {select : Option (List Value)} {formatted : Bool}
    {names : List Value} {work : PlanWork} (h : t.rowWork select formatted = .ok (names, work)) :
    ∃ slots, Table.chosenSlots t.catalog select = .ok slots ∧
      work = .rows t.source (RowTransform.ofTable t.catalog t.rules formatted) slots := by
  obtain ⟨slots, hslots, h⟩ := bind_eq_ok.1 h
  obtain ⟨-, h⟩ := guard_eq_ok.1 h
  exact ⟨slots, hslots, (Prod.mk.inj (Except.ok.inj h)).2.symm⟩

/-- What a table or a join plans covers its aggregates. -/
theorem Subject.covers_of_plan {store : Store} {s : Subject} {options : RunOptions}
    {formatted : Bool} {p : Plan} (h : s.plan store options formatted = .ok p) : p.work.Covers := by
  cases s with
  | joined spec a b =>
    obtain ⟨_, -, h⟩ := bind_eq_ok.1 h
    obtain ⟨_, -, h⟩ := bind_eq_ok.1 h
    obtain ⟨_, -, h⟩ := bind_eq_ok.1 h
    obtain rfl := Except.ok.inj h
    trivial
  | table t =>
    obtain ⟨-, select, ⟨-, hwork⟩ | ⟨-, hwork⟩⟩ := Table.plan_eq_ok h
    · obtain ⟨positions, group, -, hgroup, hpicks⟩ := Table.groupWork_eq_ok hwork
      rw [hgroup]
      intro place hplace
      rw [hpicks.aggregates, List.map_map] at hplace
      obtain ⟨a, ha, rfl⟩ := List.mem_map.1 hplace
      exact List.idxOf_lt_length_of_mem (hpicks.sources a ha)
    · obtain ⟨slots, -, hrows⟩ := Table.rowWork_eq_ok hwork
      rw [hrows]
      trivial

/-- A record has a key of all its parts and a row of all places that are carried. -/
theorem Plan.lengths_of_groupStep {transform : RowTransform} {p : GroupPlan} {row : Row}
    {records : List GroupRecord} (h : Plan.groupStep transform p row = .ok records) :
    ∀ r ∈ records, r.key.length = p.keys.length ∧ r.carried.length = p.index.length := by
  obtain ⟨kept, -, h⟩ := bind_eq_ok.1 h
  cases kept with
  | none =>
    obtain rfl := Except.ok.inj h
    simp
  | some cells =>
    obtain ⟨r, hr, h⟩ := bind_eq_ok.1 h
    obtain rfl := Except.ok.inj h
    obtain ⟨carried, hcarried, hr⟩ := bind_eq_ok.1 hr
    obtain ⟨key, hkey, hr⟩ := bind_eq_ok.1 hr
    obtain rfl := Except.ok.inj hr
    have hkeys := congrArg List.length (mapM_eq_ok_iff.1 hkey)
    have hcells := congrArg List.length (mapM_eq_ok_iff.1 hcarried)
    simpa using And.intro hkeys.symm hcells.symm

theorem EvalFault.ofStorage_coding (stop : Text.CodingFault) :
    (EvalFault.coding stop).kind.ofStorage = false := by
  cases stop <;> rfl

theorem EvalFault.ofStorage_dialect (stop : DialectFault) :
    (EvalFault.dialect stop).kind.ofStorage = false := by
  cases stop <;> rfl

theorem Source.ofStorage_of_codingOf {settings : Settings} {stop : EvalFault}
    (h : codingOf settings = .error stop) : stop.kind.ofStorage = false := by
  have htext : ∀ {name : String}, codingText settings name = .error stop →
      stop.kind.ofStorage = false := by
    intro name hname
    unfold codingText at hname
    split at hname
    · cases hname
    · cases hname
    · obtain rfl := Except.error.inj hname
      rfl
  rcases bind_eq_error.1 h with hname | ⟨encoding?, -, h⟩
  · exact htext hname
  rcases bind_eq_error.1 h with hname | ⟨policy?, -, h⟩
  · exact htext hname
  rcases bind_eq_error.1 h with hname | ⟨_, -, h⟩
  · cases hencoding : Text.Encoding.ofName (encoding?.getD "utf-8") with
    | ok _ => simp [hencoding, Except.mapError] at hname
    | error reason =>
      rw [hencoding] at hname
      obtain rfl := Except.error.inj hname
      exact EvalFault.ofStorage_coding reason
  · cases h

/-- A row that cannot be written has a value or a text that cannot. -/
theorem Delimited.ofStorage_of_writeRow {d : Dialect} {row : Row} {stop : EvalFault}
    (h : writeRow d row = .error stop) : stop.kind.ofStorage = false := by
  have hchar : ∀ {c : Char}, writeChar d c = .error stop → stop.kind.ofStorage = false := by
    intro c hc
    unfold writeChar at hc
    split_ifs at hc
    split at hc
    · cases hc
    · obtain rfl := Except.error.inj hc
      rfl
  have htext : ∀ {v : Value}, fieldText v = .error stop → stop.kind.ofStorage = false := by
    intro v hv
    unfold fieldText Datum.written at hv
    split_ifs at hv
    · obtain rfl := Except.error.inj hv
      rfl
    · cases hv
  rcases bind_eq_error.1 h with hfields | ⟨fields, -, hrow⟩
  · obtain ⟨v, -, hv⟩ := exists_of_mapM_eq_error hfields
    rcases bind_eq_error.1 hv with hv | ⟨cs, -, hv⟩
    · exact htext hv
    · rcases bind_eq_error.1 hv with hbody | ⟨_, -, hdone⟩
      · obtain ⟨c, -, hc⟩ := exists_of_mapM_eq_error hbody
        exact hchar hc
      · cases hdone
  · dsimp only at hrow
    split_ifs at hrow
    obtain rfl := Except.error.inj hrow
    rfl

namespace Sink

variable {sink : Sink} {header : Row} {opened : Store × Settings}

/-- Whether the header and rows can be written into an open file. -/
def Writes (header : Row) (rows : List Row) (opened : Store × Settings) : Prop :=
  (fill opened.2 header ⟨rows, none⟩).2 = none

theorem writeRows_of_append {d : Dialect} {coding : Text.Coding} {policy : Text.CodingPolicy}
    {rows more : List Row} {written : List Bytes}
    (h : (writeRows d coding policy (rows ++ more) written).2 = none) :
    (writeRows d coding policy rows written).2 = none := by
  induction rows generalizing written with
  | nil => rfl
  | cons row rows ih =>
    rw [List.cons_append, writeRows] at h
    rw [writeRows]
    cases hrow : Delimited.writeRow d row with
    | error stop => simp [hrow] at h
    | ok text =>
      cases hcode : coding.encode policy text with
      | error stop => simp [hrow, hcode] at h
      | ok bytes =>
        simp only [hrow, hcode] at h ⊢
        exact ih h

/-- Writing fails for a reason of its own, which is nothing of the storage. -/
theorem reason_of_writeRows {d : Dialect} {coding : Text.Coding} {policy : Text.CodingPolicy}
    {rows : List Row} {written : List Bytes} {fault : Fault}
    (h : (writeRows d coding policy rows written).2 = some fault) :
    ∃ stop, fault = .eval stop ∧ stop.kind.ofStorage = false := by
  induction rows generalizing written with
  | nil => cases h
  | cons row rows ih =>
    rw [writeRows] at h
    cases hrow : Delimited.writeRow d row with
    | error stop =>
      simp only [hrow] at h
      exact ⟨stop, (Option.some.inj h).symm, Delimited.ofStorage_of_writeRow hrow⟩
    | ok text =>
      cases hcode : coding.encode policy text with
      | error stop =>
        simp only [hrow, hcode] at h
        exact ⟨_, (Option.some.inj h).symm, EvalFault.ofStorage_coding stop⟩
      | ok bytes =>
        simp only [hrow, hcode] at h
        exact ih h

/-- Rows are written up to the failure of the stage that hands them out, if they can be written. -/
theorem fill_of_writes {all : List Row} {rows : Feed Row} (h : Writes header all opened)
    (hrows : rows.items <+: all) : (fill opened.2 header rows).2 = rows.fault := by
  obtain ⟨more, rfl⟩ := hrows
  unfold Writes fill at h
  unfold fill
  cases hcoding : Source.codingOf opened.2 with
  | error stop => simp [hcoding] at h
  | ok coding =>
    cases hdialect : Dialect.ofSettings (opened.2.without ownSettings) with
    | error stop => simp [hcoding, hdialect] at h
    | ok dialect =>
      simp only [hcoding, hdialect, Option.orElse_eq_orElse, Option.orElse_eq_or,
        Option.or_none] at h ⊢
      rw [← List.append_assoc] at h
      rw [writeRows_of_append h, Option.none_or]

theorem reason_of_not_writes {rows : Feed Row} (h : ¬Writes header rows.items opened) :
    ∃ stop, (fill opened.2 header rows).2 = some (.eval stop) ∧ stop.kind.ofStorage = false := by
  unfold Writes fill at h
  unfold fill
  cases hcoding : Source.codingOf opened.2 with
  | error stop => exact ⟨stop, rfl, Source.ofStorage_of_codingOf hcoding⟩
  | ok coding =>
    cases hdialect : Dialect.ofSettings (opened.2.without ownSettings) with
    | error stop => exact ⟨_, rfl, EvalFault.ofStorage_dialect stop⟩
    | ok dialect =>
      simp only [hcoding, hdialect, Option.orElse_eq_orElse, Option.orElse_eq_or,
        Option.or_none] at h ⊢
      obtain ⟨fault, hfault⟩ := Option.ne_none_iff_exists'.1 h
      obtain ⟨stop, rfl, hplain⟩ := reason_of_writeRows hfault
      exact ⟨stop, by rw [hfault, Option.some_or], hplain⟩

theorem fill_of_not_writes {rows : Feed Row} (h : ¬Writes header rows.items opened) :
    ∃ stop, (fill opened.2 header rows).2 = some (.eval stop) := by
  obtain ⟨stop, hstop, -⟩ := reason_of_not_writes h
  exact ⟨stop, hstop⟩

end Sink

/-- What holds of all sources of a join holds of the one that is built and of the one that probes. -/
theorem PlanWork.sources_join {p : JoinPlan} {P : Source → Prop}
    (h : ∀ source ∈ (PlanWork.join p).sources, P source) :
    P p.build.source ∧ P p.probe.source := by
  have ha : P p.a.source := h _ (by simp [sources])
  have hb : P p.b.source := h _ (by simp [sources])
  unfold JoinPlan.build JoinPlan.probe
  cases p.firstIsBuilt
  · exact ⟨hb, ha⟩
  · exact ⟨ha, hb⟩

theorem lengths_of_mem_madeOf {transform : RowTransform} {p : GroupPlan} {rows : Feed Row}
    {r : GroupRecord} (h : r ∈ PlanWork.madeOf (Plan.groupStep transform p) rows) :
    r.key.length = p.keys.length ∧ r.carried.length = p.index.length := by
  obtain ⟨row, -, hr⟩ := List.mem_flatMap.1 h
  cases hstep : Plan.groupStep transform p row with
  | error stop => simp [hstep] at hr
  | ok records =>
    rw [hstep] at hr
    exact Plan.lengths_of_groupStep hstep r hr

namespace Backend

/-- Everything that fails in a run, stage by stage, if the rows are taken in some order. -/
def failuresOf (b : Backend) (work : PlanWork) (first second : List NumberedRow) :
    List RowFailure :=
  match work with
  | .rows _ transform slots => (singlePass .rows (Plan.rowStep transform slots) first).failures
  | .groups _ transform p =>
    let records := singlePass .group (Plan.groupStep transform p) first
    records.failures ++ (b.recordSets p records.items).flatMap (Groups.failures p)
  | .join p =>
    let built := singlePass .joinBuild p.build.recordOf first
    let probed := singlePass .joinProbe p.probe.recordOf second
    built.failures ++ probed.failures ++ b.bucketNumbers.flatMap fun number =>
      bucketFailures p number (b.readBack built.items number) (b.readBack probed.items number)

variable {b : Backend} {store : Store} {p : Plan}

/-- A side or source that is read in batches, in the order in which these are taken. -/
theorem exists_order {α : Type} (hworkers : 0 < b.workers) (hw : 0 < b.window) {size : ℕ}
    (hs : 0 < size) {rows : Feed Row} (hrows : rows.fault = none) (stage : Stage)
    (step : Row → Except Fault (List α)) :
    ∃ order : List NumberedRow, order.Perm rows.numbered.items ∧
      (b.InOrder → order = rows.numbered.items) ∧
      b.reporting.workThrough stage size step rows = singlePass stage step order ∧
      (b.raising.workThrough stage size step rows).Contained
        (b.reporting.workThrough stage size step rows) := by
  obtain ⟨batches, hcourse, -, hreports, hcontained⟩ :=
    workThrough_contained b hworkers hw size hrows stage step
  obtain ⟨hperm, hsame⟩ := hcourse.order_perm
  have hflatten : (rows.numbered.batches size).items.flatten = rows.numbered.items :=
    Feed.batches_flatten hs hrows
  exact ⟨batches.flatten, hflatten ▸ hperm.flatten,
    fun horder => by rw [hsame horder, hflatten], hreports, hcontained⟩

/-- What is made in some order is made of the rows of the source. -/
theorem mem_singlePass {α : Type} {stage : Stage} {step : Row → Except Fault (List α)}
    {order : List NumberedRow} {rows : Feed Row} (h : order.Perm rows.numbered.items) {a : α} :
    a ∈ (singlePass stage step order).items ↔ a ∈ PlanWork.madeOf step rows := by
  have hvalues := h.map fun row => row.values
  rw [rows.numbered_values] at hvalues
  have hperm := hvalues.flatMap_right fun row => made (step row)
  rw [List.flatMap_map] at hperm
  exact hperm.mem_iff

/-- What the group stage makes can be collected if its keys can be looked up. Without keys there is
nothing to look up. -/
theorem collectable_singlePass {source : Source} {transform : RowTransform} {group : GroupPlan}
    (hcovers : (PlanWork.groups source transform group).Covers)
    (hkeys : ∀ key ∈ (PlanWork.groups source transform group).keys store, key.check = .ok ())
    {order : List NumberedRow} (hperm : order.Perm (source.rows store).numbered.items) :
    Groups.Collectable group
      (singlePass .group (Plan.groupStep transform group) order).items := by
  intro r hr
  have hmade := (mem_singlePass hperm).1 hr
  obtain ⟨hkey, hcarried⟩ := lengths_of_mem_madeOf hmade
  constructor
  · cases hwhole : group.isWhole with
    | true =>
      have hnil : r.key = [] := by
        rw [← List.length_eq_zero_iff, hkey]
        simpa [GroupPlan.isWhole] using hwhole
      rw [hnil]
      rfl
    | false =>
      refine hkeys r.key ?_
      rw [PlanWork.keys, hwhole]
      exact List.mem_map_of_mem hmade
  · intro place hplace
    rw [hcarried]
    exact hcovers place hplace

/-- What the two sides of a join make has keys that can be looked up. -/
theorem check_singlePass {join : JoinPlan}
    (hkeys : ∀ key ∈ (PlanWork.join join).keys store, key.check = .ok ())
    {first second : List NumberedRow}
    (hfirst : first.Perm (join.build.source.rows store).numbered.items)
    (hsecond : second.Perm (join.probe.source.rows store).numbered.items) :
    ∀ r ∈ (singlePass .joinBuild join.build.recordOf first).items ++
      (singlePass .joinProbe join.probe.recordOf second).items, r.key.check = .ok () := by
  intro r hr
  refine hkeys r.key (List.mem_map_of_mem ?_)
  rw [List.mem_append, mem_singlePass hfirst, mem_singlePass hsecond] at hr
  exact List.mem_append.2 hr

/-- A run whose keys can all be looked up lists everything that fails, and raised it stops at the
first entry of this list. -/
theorem output_contained (hworkers : 0 < b.workers) (hw : 0 < b.window)
    (hu : b.partitioning.fault? = none ∧ 0 < b.partitioning.count)
    (hsizes : ∀ size ∈ p.batchSizes, 0 < size) (hcovers : p.work.Covers)
    (hread : ∀ source ∈ p.work.sources, (source.rows store).fault = none)
    (hkeys : ∀ key ∈ p.work.keys store, key.check = .ok ()) :
    (b.raising.output store p).Contained (b.reporting.output store p) ∧
      ∃ first second : List NumberedRow,
        first.Perm (p.work.rowsRead store).1 ∧ second.Perm (p.work.rowsRead store).2 ∧
        (b.InOrder → (first, second) = p.work.rowsRead store) ∧
        (b.reporting.output store p).failures = b.failuresOf p.work first second := by
  unfold output
  cases hwork : p.work with
  | rows source transform slots =>
    simp only [hwork, PlanWork.sources, List.mem_singleton, forall_eq] at hread
    obtain ⟨order, hperm, hsame, hreports, hcontained⟩ := exists_order hworkers hw
      (hsizes p.batchSize (by simp [Plan.batchSizes, hwork])) hread .rows
      (Plan.rowStep transform slots)
    refine ⟨hcontained, order, [], hperm, .refl _, fun horder => ?_, congrArg _ hreports⟩
    rw [hsame horder]
    rfl
  | groups source transform group =>
    simp only [hwork, PlanWork.sources, List.mem_singleton, forall_eq] at hread
    obtain ⟨order, hperm, hsame, hreports, hcontained⟩ := exists_order hworkers hw
      (hsizes p.batchSize (by simp [Plan.batchSizes, hwork])) hread .group
      (Plan.groupStep transform group)
    rw [hreports] at hcontained
    rw [hwork] at hcovers hkeys
    obtain ⟨hgroups, hfailures⟩ := groupAll_contained (fun _ => hu) hcontained
      (collectable_singlePass hcovers hkeys hperm)
    simp only [hreports]
    refine ⟨hgroups, order, [], hperm, .refl _, fun horder => ?_, hfailures⟩
    rw [hsame horder]
    rfl
  | join join =>
    simp only [Plan.batchSizes, hwork, List.mem_cons, List.not_mem_nil, or_false,
      forall_eq_or_imp, forall_eq] at hsizes
    obtain ⟨hbuild, hprobe⟩ := PlanWork.sources_join (hwork ▸ hread)
    obtain ⟨first, hfirst, hfirstSame, hbuilt, hbuiltContained⟩ :=
      exists_order hworkers hw hsizes.1 hbuild .joinBuild join.build.recordOf
    obtain ⟨second, hsecond, hsecondSame, hprobed, hprobedContained⟩ :=
      exists_order hworkers hw hsizes.2 hprobe .joinProbe join.probe.recordOf
    rw [hbuilt] at hbuiltContained
    rw [hprobed] at hprobedContained
    rw [hwork] at hkeys
    obtain ⟨hjoin, hfailures⟩ := joinAll_contained (p := join) hu hbuiltContained
      hprobedContained (check_singlePass hkeys hfirst hsecond)
    simp only [recordsOfSide, hbuilt, hprobed]
    refine ⟨hjoin, first, second, hfirst, hsecond, fun horder => ?_, hfailures⟩
    rw [hfirstSame horder, hsecondSame horder]
    rfl

/-- A key that cannot be looked up ends a run before its first row is put out. -/
theorem output_of_unhashable (hworkers : 0 < b.workers) (hw : 0 < b.window)
    (hu : b.partitioning.fault? = none ∧ 0 < b.partitioning.count)
    (hsizes : ∀ size ∈ p.batchSizes, 0 < size)
    (hread : ∀ source ∈ p.work.sources, (source.rows store).fault = none)
    (hkeys : ∃ key ∈ p.work.keys store, key.check ≠ .ok ()) :
    ∃ kind, (b.reporting.output store p).toFeed = .failed (.eval (.unhashable kind)) := by
  obtain ⟨key, hkey, hcheck⟩ := hkeys
  unfold output
  cases hwork : p.work with
  | rows source transform slots => simp [hwork, PlanWork.keys] at hkey
  | groups source transform group =>
    simp only [hwork, PlanWork.sources, List.mem_singleton, forall_eq] at hread
    obtain ⟨order, hperm, -, hreports, -⟩ := exists_order hworkers hw
      (hsizes p.batchSize (by simp [Plan.batchSizes, hwork])) hread .group
      (Plan.groupStep transform group)
    cases hwhole : group.isWhole with
    | true => simp [hwork, PlanWork.keys, hwhole] at hkey
    | false =>
      simp only [hwork, PlanWork.keys, hwhole, Bool.false_eq_true, if_false] at hkey
      obtain ⟨r, hr, rfl⟩ := List.mem_map.1 hkey
      simp only [hreports]
      exact groupAll_of_unhashable hwhole hu ⟨r, (mem_singlePass hperm).2 hr, hcheck⟩
  | join join =>
    simp only [Plan.batchSizes, hwork, List.mem_cons, List.not_mem_nil, or_false,
      forall_eq_or_imp, forall_eq] at hsizes
    obtain ⟨hbuild, hprobe⟩ := PlanWork.sources_join (hwork ▸ hread)
    obtain ⟨first, hfirst, -, hbuilt, -⟩ :=
      exists_order hworkers hw hsizes.1 hbuild .joinBuild join.build.recordOf
    obtain ⟨second, hsecond, -, hprobed, -⟩ :=
      exists_order hworkers hw hsizes.2 hprobe .joinProbe join.probe.recordOf
    rw [hwork, PlanWork.keys] at hkey
    obtain ⟨r, hr, rfl⟩ := List.mem_map.1 hkey
    simp only [recordsOfSide, hbuilt, hprobed]
    refine joinAll_of_unhashable hu rfl ⟨r, ?_, hcheck⟩
    rw [List.mem_append, mem_singlePass hfirst, mem_singlePass hsecond]
    exact List.mem_append.1 hr

variable {sink : Sink} {opened : Store × Settings}

theorem execute_eq (hopen : sink.opened store = .ok opened) :
    (b.execute p sink store).1 =
      match (Sink.fill opened.2 p.names (b.output opened.1 p).toFeed).2 with
      | some fault => .error (Sink.blame sink.uri fault)
      | none => .ok { output := sink.uri, rowsWritten := (b.output opened.1 p).items.length,
                      failures := (b.output opened.1 p).failures } := by
  unfold execute
  simp only [hopen, Sink.filled]
  cases (Sink.fill opened.2 p.names (b.output opened.1 p).toFeed).2 <;> rfl

end Backend

/-! ### Groups by a collation that fails, or that gives lists -/

/-- The sample, counted for every value that a collation makes of the first column. -/
def collatedTable (f : Func) : Table :=
  { sampleTable with rules := {
      keys := [{ slot := 0, collation? := some f }]
      aggregates := [{ func := .aggregate "agg_count" Aggregate.count, source := 1,
                       name := .text "count_v" }] } }

def collatedPlan (f : Func) : Plan where
  names := [.text "k", .text "count_v"]
  options := {}
  batchSize := 1
  work := .groups sampleSource (RowTransform.ofTable sampleTable.catalog {} false) {
    index := [0, 1]
    keys := [(0, some f)]
    aggregates := [(.aggregate "agg_count" Aggregate.count, 1)]
    writeIndex := [0, 1]
    names := [.text "k", .text "count_v"]
    formatters := [] }

/-- A collation that fails on the second row. -/
def failsOnB : Func := .unary "fails_on_b" fun v =>
  if v.isMatch (.text "b") then .error (.eval .badCount) else .ok v

/-- A collation that makes a list of the second row. -/
def listsB : Func := .unary "lists_b" fun v =>
  .ok (if v.isMatch (.text "b") then .list [v] else v)

def targetSink : Sink := { uri := "o.csv", settings := .named [("encoding", .text "locale")] }

/-- The sample with the open output beside it. -/
def targetOpened : Store × Settings :=
  (sampleStore.put ["o.csv"] [], [("encoding", .text "locale")])

theorem plan_collated (f : Func) :
    (Subject.table (collatedTable f)).plan sampleStore {} true = .ok (collatedPlan f) := by
  cbv

theorem parts_target : Path.parts "o.csv" = ["o.csv"] := by
  rw [Path.parts, String.splitOn, if_neg (by decide)]
  iterate 6 rw [String.splitOnAux]
  rfl

theorem walk_target : sampleStore.walk "o.csv" = .free ["o.csv"] := by
  have hu : (Path.unwritable? "o.csv").isNone = true := by decide +kernel
  rw [Store.walk_name (Option.isNone_iff_eq_none.1 hu) parts_target (by cbv) (by decide) (by decide)]
  rfl

theorem opened_target : targetSink.opened sampleStore = .ok targetOpened := by
  have hwrite : sampleStore.write "o.csv" [] = .ok (sampleStore.put ["o.csv"] []) := by
    rw [Store.write, walk_target]
  have huri : targetSink.uri = "o.csv" := rfl
  simp only [Sink.opened, huri, hwrite]
  rfl

theorem rows_target : sampleSource.rows targetOpened.1 = sampleSource.rows sampleStore := by
  refine Source.rows_put_of_elsewhere ?_ []
  have huri : sampleSource.uri = "a.csv" := rfl
  rw [Store.place?, huri, sampleStore, walk_sample]
  simp [Spot.place?]

theorem output_target (b : Backend) (f : Func) :
    b.output targetOpened.1 (collatedPlan f) = b.output sampleStore (collatedPlan f) :=
  Backend.output_congr fun source hsource => by
    obtain rfl : source = sampleSource := by simpa [collatedPlan, PlanWork.sources] using hsource
    exact rows_target

theorem output_failsOnB : twoBuckets.reporting.output sampleStore (collatedPlan failsOnB) =
    { items := [[.text "a", .int 1]]
      failures := [{ stage := .group, place := .row 1, fault := .eval .badCount }] } := by
  simp only [Backend.output, collatedPlan, Backend.workThrough, batches_sample]
  rfl

theorem output_listsB {b : Backend} (hb : b = twoBuckets ∨ b = twoBuckets.raising) :
    (b.output sampleStore (collatedPlan listsB)).toFeed = .failed (.eval (.unhashable "list")) := by
  rcases hb with rfl | rfl <;>
  · simp only [Backend.output, collatedPlan, Backend.workThrough, batches_sample]
    rfl

end TablePipeline
