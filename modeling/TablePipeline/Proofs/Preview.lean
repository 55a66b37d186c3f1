import Mathlib
import TablePipeline.Proofs.Containment
import TablePipeline.Proofs.Grouping
import TablePipeline.Proofs.ReadBackIndex

/-!
A preview shows what a run puts out. Nothing is set apart in a preview, and everything in it is done
in one pass; if nothing fails, a run in buckets comes to the same rows, with one bucket in the same
order. Two things are read back in a run and not in a preview, the records of groups and those of
joins, so they must not depend on which of several NaNs one is.
-/
namespace TablePipeline

namespace PlanWork

/-- Whether records are set apart by their keys. -/
def setsApart : PlanWork → Bool
  | .rows .. => false
  | .groups _ _ p => !p.isWhole
  | .join _ => true

/-- The values that are looked at once records have been set apart and read back: the columns of
aggregates, and rolling values. -/
def lookedAt (store : Store) : PlanWork → List Value
  | .rows .. => []
  | .groups source transform p =>
    if p.isWhole then []
    else (madeOf (Plan.groupStep transform p) (source.rows store)).flatMap fun r =>
      (p.aggregates.map (·.2)).map fun place => r.carried.getD place .null
  | .join p =>
    (madeOf p.build.recordOf (p.build.source.rows store) ++
      madeOf p.probe.recordOf (p.probe.source.rows store)).map fun r => r.roll

/-- A row of the output as a run puts it out: the rows of a join are made of columns that have been
read back. -/
def asRead : PlanWork → Row → Row
  | .join _, row => Datum.forgetItems true row
  | _, row => row

/-- No row, group, index or probe fails, and no key. -/
def NoneFails (store : Store) : PlanWork → Prop
  | .rows source transform slots =>
    ∀ row ∈ (source.rows store).items, ∃ rows, Plan.rowStep transform slots row = .ok rows
  | .groups source transform p =>
    (∀ row ∈ (source.rows store).items, ∃ records, Plan.groupStep transform p row = .ok records) ∧
      ∃ groups, Groups.collect p (madeOf (Plan.groupStep transform p) (source.rows store)) =
          .ok groups ∧
        ∀ group ∈ groups.finished p, ∃ row, p.finish group.1 group.2 = .ok row
  | .join p =>
    let built := madeOf p.build.recordOf (p.build.source.rows store)
    let probed := madeOf p.probe.recordOf (p.probe.source.rows store)
    (∀ row ∈ (p.build.source.rows store).items, ∃ records, p.build.recordOf row = .ok records) ∧
      (∀ row ∈ (p.probe.source.rows store).items, ∃ records, p.probe.recordOf row = .ok records) ∧
      (∀ r ∈ built ++ probed, r.key.check = .ok ()) ∧
      ∃ index, JoinIndex.ofRecords p built = .ok index ∧
        ∀ r ∈ probed, ∃ rows, index.probe p r = .ok rows

end PlanWork

/-! ### The sample -/

theorem Source.sample_eq {store : Store} {source : Source} {n : ℕ} (hn : n ≤ maxCount)
    (hfault : (source.rows store).fault = none) (hfits : (source.rows store).items.length ≤ n) :
    source.sample store n = .ok (source.rows store).items := by
  rw [sample, if_neg (by omega), firstOf, Feed.take]
  split_ifs with h
  · rw [List.take_of_length_le hfits]
    rfl
  · simp [Feed.toExcept, hfault]

/-- Taking in what rows make row by row is taking in what all of them make. -/
theorem foldlM_of_ok {α σ : Type} {step : Row → Except Fault (List α)}
    {add : σ → α → Except Fault σ}
    {rows : List Row} (h : ∀ row ∈ rows, ∃ items, step row = .ok items) (s : σ) :
    rows.foldlM (fun s row => do (← step row).foldlM add s) s =
      (rows.flatMap fun row => made (step row)).foldlM add s := by
  induction rows generalizing s with
  | nil => rfl
  | cons row rows ih =>
    obtain ⟨items, hitems⟩ := h row (by simp)
    simp only [List.foldlM_cons, List.flatMap_cons, List.foldlM_append, hitems, ok_bind, made_ok]
    congr 1
    funext s
    exact ih (fun row hrow => h row (by simp [hrow])) s

theorem GroupPlan.sample_eq {p : GroupPlan} {transform : RowTransform} {rows : List Row}
    {groups : Groups} (h : ∀ row ∈ rows, ∃ records, Plan.groupStep transform p row = .ok records)
    (hgroups : Groups.collect p (rows.flatMap fun row => made (Plan.groupStep transform p row)) =
      .ok groups)
    (hfinish : ∀ group ∈ groups.finished p, ∃ row, p.finish group.1 group.2 = .ok row) :
    p.sample transform rows = ⟨p.rowsOf (groups.finished p), none⟩ := by
  rw [sample, foldlM_of_ok h]
  rw [Groups.collect] at hgroups
  simp only [hgroups]
  refine Feed.traverse_of_ok none fun group hgroup => ?_
  obtain ⟨row, hrow⟩ := hfinish group hgroup
  exact ⟨[row], by rw [hrow, ok_bind]⟩

theorem JoinPlan.sample_eq {p : JoinPlan} {builtRows probedRows : List Row} {index : JoinIndex}
    (hbuilt : ∀ row ∈ builtRows, ∃ records, p.build.recordOf row = .ok records)
    (hprobed : ∀ row ∈ probedRows, ∃ records, p.probe.recordOf row = .ok records)
    (hindex : JoinIndex.ofRecords p (builtRows.flatMap fun row => made (p.build.recordOf row)) =
      .ok index)
    (hprobe : ∀ r ∈ probedRows.flatMap fun row => made (p.probe.recordOf row),
      ∃ rows, index.probe p r = .ok rows) :
    p.sample builtRows (.ok probedRows) =
      ⟨(probedRows.flatMap fun row => made (p.probe.recordOf row)).flatMap fun r =>
        made (index.probe p r), none⟩ := by
  have heach : ∀ row ∈ probedRows, (do
      let records ← p.probe.recordOf row
      .ok (← records.mapM (index.probe p)).flatten : Except Fault (List Row)) =
        .ok ((made (p.probe.recordOf row)).flatMap fun r => made (index.probe p r)) := by
    intro row hrow
    obtain ⟨records, hrecords⟩ := hprobed row hrow
    have hall : ∀ r ∈ records, ∃ rows, index.probe p r = .ok rows := fun r hr =>
      hprobe r (List.mem_flatMap.2 ⟨row, hrow, by rwa [hrecords]⟩)
    have hmap : records.mapM (index.probe p) =
        .ok (records.map fun r => made (index.probe p r)) := by
      rw [mapM_eq_ok_iff, List.map_map]
      apply List.map_congr_left
      intro r hr
      obtain ⟨rows, hrows⟩ := hall r hr
      simp [hrows]
    rw [hrecords, ok_bind, hmap, ok_bind, made_ok, List.flatMap_def]
  rw [JoinIndex.ofRecords] at hindex
  simp only [sample, foldlM_of_ok hbuilt, hindex]
  rw [Feed.flatMapM, Feed.traverse_of_ok none fun row hrow => ⟨_, heach row hrow⟩, List.flatMap_assoc]
  congr 1
  exact List.flatMap_congr fun row hrow => by rw [heach row hrow, made_ok]

/-! ### The run -/

namespace Groups

/-- Groups of records whose keys and columns are read back as they were. -/
theorem ofRecords_kept {places : List ℕ} {records : List GroupRecord}
    (hkey : ∀ r ∈ records, r.putAside.key = r.key)
    (hcolumns : ∀ r ∈ records, ∀ place ∈ places,
      (r.carried.getD place .null).forget true = r.carried.getD place .null) :
    ofRecords places (records.map GroupRecord.putAside) = ofRecords places records := by
  have hkeys : (records.map GroupRecord.putAside).map (fun r => r.key) =
      records.map fun r => r.key := by
    rw [List.map_map]
    exact List.map_congr_left hkey
  have hmembers : ∀ members : List GroupRecord, members ⊆ records →
      columnsOf places (members.map GroupRecord.putAside) = columnsOf places members := by
    intro members hsub
    apply List.map_congr_left
    intro place hplace
    rw [List.map_map]
    apply List.map_congr_left
    intro r hr
    exact (Datum.getD_forgetItems true r.carried place).trans (hcolumns r (hsub hr) place hplace)
  rw [ofRecords, ofRecords, hkeys]
  apply List.map_congr_left
  intro key _
  rw [having_putAside hkey, hmembers (having key records) (fun r hr => List.mem_of_mem_filter hr)]

end Groups

theorem made_map {ε α β : Type} (f : α → β) (x : Except ε (List α)) :
    made (x.map (List.map f)) = (made x).map f := by
  cases x <;> rfl

namespace Backend

variable {b : Backend}

/-- A stage of which nothing fails hands out what the rows make, in the order of the rows if batches
keep theirs. -/
theorem workThrough_of_none_fails {α : Type} (stage : Stage) {size : ℕ}
    {step : Row → Except Fault (List α)} {rows : Feed Row} (hworkers : 0 < b.workers)
    (hw : 0 < b.window) (hs : 0 < size) (hrows : rows.fault = none)
    (h : ∀ row ∈ rows.items, ∃ items, step row = .ok items) :
    ∃ items, b.workThrough stage size step rows = { items } ∧
      items.Perm (PlanWork.madeOf step rows) ∧ (b.InOrder → items = PlanWork.madeOf step rows) := by
  obtain ⟨order, hperm, hsame, hreports, hcontained⟩ := exists_order hworkers hw hs hrows stage step
  have hmade : PlanWork.madeOf step rows =
      rows.numbered.items.flatMap fun row => made (step row.values) := by
    rw [PlanWork.madeOf, ← rows.numbered_values, List.flatMap_map]
  have hpass : b.reporting.workThrough stage size step rows =
      { items := order.flatMap fun row => made (step row.values) } := by
    have hnone : order.filterMap (rowFailure? stage step) = [] := by
      rw [List.filterMap_eq_nil_iff]
      intro row hrow
      refine rowFailure?_eq_none_iff.2 (h row.values ?_)
      rw [← rows.numbered_values]
      exact List.mem_map_of_mem (hperm.mem_iff.1 hrow)
    rw [hreports, singlePass, hnone]
  rw [hmade]
  refine ⟨_, ?_, hperm.flatMap_right _, fun horder => by rw [hsame horder]⟩
  cases hb : b.raiseOnError with
  | false => rw [eq_reporting hb, hpass]
  | true =>
    rw [eq_raising hb, hcontained.stops.eq_of_clean (by rw [hpass]; exact ⟨rfl, rfl⟩), hpass]

theorem workThrough_of_ok {α : Type} (stage : Stage) {size : ℕ}
    {step : Row → Except Fault (List α)} {rows : Feed Row} (hworkers : 0 < b.workers)
    (hw : 0 < b.window) (horder : b.InOrder) (hs : 0 < size) (hrows : rows.fault = none)
    (h : ∀ row ∈ rows.items, ∃ items, step row = .ok items) :
    b.workThrough stage size step rows = { items := PlanWork.madeOf step rows } := by
  obtain ⟨items, hall, -, hsame⟩ := workThrough_of_none_fails stage hworkers hw hs hrows h
  rw [hall, hsame horder]

section Groups

variable {p : GroupPlan} {records : List GroupRecord}

/-- The groups of one bucket. -/
def groupsOf (b : Backend) (p : GroupPlan) (records : List GroupRecord) (number : ℕ) : Groups :=
  Groups.ofRecords (p.aggregates.map (·.2))
    ((records.filter fun r => b.partitioning.numberOf r.key == number).map GroupRecord.putAside)

theorem groupRecords_bucket (hkeyed : p.isWhole = false) (h : Groups.Collectable p records)
    (hnan : ∀ r ∈ records, r.key.hasNaN = false) (number : ℕ)
    (hfinish : ∀ group ∈ b.groupsOf p records number, ∃ row, p.finish group.1 group.2 = .ok row) :
    b.groupRecords p ((records.filter fun r => b.partitioning.numberOf r.key == number).map
        GroupRecord.putAside) = { items := p.rowsOf (b.groupsOf p records number) } := by
  obtain ⟨groups, hgroups⟩ := Groups.exists_foldlM_add
    (h.filter fun r => b.partitioning.numberOf r.key == number) []
  have hcollect : Groups.collect p _ = .ok groups := hgroups
  obtain ⟨-, rfl⟩ := Groups.collect_eq_ok (fun r hr => by
    obtain ⟨s, hs, rfl⟩ := List.mem_map.1 hr
    exact (Key.hasNaN_forget true s.key).trans (hnan s (List.mem_of_mem_filter hs))) hgroups
  have hsame : (b.groupsOf p records number).finished p = b.groupsOf p records number := by
    simp [Groups.finished, hkeyed]
  simp only [groupRecords, hcollect]
  rw [← groupsOf, finishGroups_of_ok (by rwa [hsame]), hsame]

/-- Groups of which nothing fails are the groups of all records, one bucket after the other. -/
theorem groupAll_of_none_fails {groups : Groups}
    (hu : p.isWhole = false → b.partitioning.fault? = none ∧ 0 < b.partitioning.count)
    (hhash : p.isWhole = false → b.partitioning.Consistent (records.map fun r => r.key)
      (records.map fun r => r.key))
    (hnan : p.isWhole = false → ∀ r ∈ records, r.key.hasNaN = false)
    (hcolumns : p.isWhole = false → ∀ r ∈ records, ∀ place ∈ p.aggregates.map (·.2),
      (r.carried.getD place .null).forget true = r.carried.getD place .null)
    (hgroups : Groups.collect p records = .ok groups)
    (hfinish : ∀ group ∈ groups.finished p, ∃ row, p.finish group.1 group.2 = .ok row) :
    (b.groupAll p { items := records }).Clean ∧
      (b.groupAll p { items := records }).items.Perm (p.rowsOf (groups.finished p)) ∧
      (p.isWhole = true ∨ b.partitioning.count = 1 →
        (b.groupAll p { items := records }).items = p.rowsOf (groups.finished p)) := by
  cases hwhole : p.isWhole with
  | true =>
    have hall : b.groupAll p { items := records } = { items := p.rowsOf (groups.finished p) } := by
      simp only [groupAll, hwhole, if_true, groupRecords, hgroups, finishGroups_of_ok hfinish]
      rfl
    rw [hall]
    exact ⟨⟨rfl, rfl⟩, .refl _, fun _ => rfl⟩
  | false =>
    obtain ⟨hchecked, rfl⟩ := Groups.collect_eq_ok (hnan hwhole) hgroups
    have hcheck : ∀ r ∈ records, r.key.check = .ok () := fun r hr => (hchecked r hr).1
    have hkept := Groups.ofRecords_kept
      (fun r hr => Key.forget_of_hasNaN true (hcheck r hr) (hnan hwhole r hr)) (hcolumns hwhole)
    have hbuckets : (b.bucketNumbers.flatMap (b.groupsOf p records)).Perm _ ∧
        (b.partitioning.count = 1 → b.bucketNumbers.flatMap (b.groupsOf p records) = _) :=
      Groups.ofRecords_buckets (fun r hr => ⟨hcheck r hr, (hu hwhole).2⟩) (hhash hwhole) _
    rw [hkept] at hbuckets
    obtain ⟨hperm, hone⟩ := hbuckets
    have hsame : ∀ groups : Groups, groups.finished p = groups := by
      simp [Groups.finished, hwhole]
    rw [hsame] at hfinish ⊢
    have hset : ∀ number ∈ b.bucketNumbers, b.groupRecords p ((records.filter fun r =>
        b.partitioning.numberOf r.key == number).map GroupRecord.putAside) =
          { items := p.rowsOf (b.groupsOf p records number) } := by
      intro number hnumber
      refine groupRecords_bucket hwhole hchecked (hnan hwhole) number fun group hgroup => ?_
      exact hfinish group (hperm.mem_iff.1 (List.mem_flatMap.2 ⟨number, hnumber, hgroup⟩))
    have hall : b.groupAll p { items := records } =
        { items := p.rowsOf (b.bucketNumbers.flatMap (b.groupsOf p records)) } := by
      rw [groupAll_of_checked hu rfl hcheck, recordSets, if_neg (by simp [hwhole]), List.map_map,
        List.map_congr_left (g := fun number => { items := p.rowsOf (b.groupsOf p records number) })
          hset, Outcome.concat_of_ok (by simp)]
      simp [List.flatMap_map, GroupPlan.rowsOf, List.flatMap_assoc]
    rw [hall]
    refine ⟨⟨rfl, rfl⟩, hperm.flatMap_right _, fun hcount => ?_⟩
    exact congrArg p.rowsOf (hone (hcount.resolve_left (by simp)))

end Groups

/-- A join of which nothing fails is the join of all records, read back, one bucket after the
other. -/
theorem joinAll_of_none_fails {p : JoinPlan} {built probed : List JoinRecord} {index : JoinIndex}
    (hu : b.partitioning.fault? = none ∧ 0 < b.partitioning.count)
    (hhash : b.partitioning.Consistent ((built ++ probed).map fun r => r.key)
      ((built ++ probed).map fun r => r.key))
    (hkept : ∀ r ∈ built ++ probed, r.Kept) (hindex : JoinIndex.ofRecords p built = .ok index)
    (hprobe : ∀ r ∈ probed, ∃ rows, index.probe p r = .ok rows) :
    (b.joinAll p { items := built } { items := probed }).Clean ∧
      (b.joinAll p { items := built } { items := probed }).items.Perm
        ((probed.flatMap fun r => made (index.probe p r)).map (Datum.forgetItems true)) ∧
      (b.partitioning.count = 1 → (b.joinAll p { items := built } { items := probed }).items =
        (probed.flatMap fun r => made (index.probe p r)).map (Datum.forgetItems true)) := by
  have hanswer : ∀ r ∈ probed, p.answer (b.beside built r) r.putAside =
      (index.probe p r).map (List.map (Datum.forgetItems true)) := by
    intro r hr
    refine answer_beside (fun s hs => hkept s (by simp [hs])) (hkept r (by simp [hr])) ?_ hindex
    intro k hk l hl
    refine hhash k (by simp only [List.map_append, List.mem_append]; exact .inl hk) l ?_
    rcases List.mem_append.1 hl with hl | hl
    · simp only [List.map_append, List.mem_append]
      exact .inl hl
    · rw [List.mem_singleton.1 hl]
      exact List.mem_map_of_mem (List.mem_append_right _ hr)
  have hbuilt : b.Separable { items := built } :=
    ⟨rfl, hu.1, fun r hr => ⟨(hkept r (List.mem_append_left _ hr)).checked, hu.2⟩⟩
  have hprobed : b.Separable { items := probed } :=
    ⟨rfl, hu.1, fun r hr => ⟨(hkept r (List.mem_append_right _ hr)).checked, hu.2⟩⟩
  have hok : ∀ r ∈ probed, ∃ found, p.answer (b.beside built r) r.putAside = .ok found := by
    intro r hr
    obtain ⟨found, hfound⟩ := hprobe r hr
    exact ⟨_, by rw [hanswer r hr, hfound]; rfl⟩
  have hrows : (probed.flatMap fun r => made (p.answer (b.beside built r) r.putAside)) =
      (probed.flatMap fun r => made (index.probe p r)).map (Datum.forgetItems true) := by
    rw [List.flatMap_congr fun r hr => by rw [hanswer r hr, made_map], List.map_flatMap]
  obtain ⟨hfault, hfailures, hperm⟩ := joinAll_of_ok hbuilt hprobed hok
  rw [hrows] at hperm
  refine ⟨⟨hfault, hfailures⟩, hperm, fun hone => ?_⟩
  rw [joinAll_of_one hbuilt hprobed hone hok, hrows]

end Backend

/-! ### The sample in two buckets, and one NaN that a caller hands out again and again -/

def oneBucket : Backend := { partitioning := { count := 1 } }

def givenNaN : Value := .float (.nan (.given 0))

def constantly (v : Value) : Func := .unary "constantly" fun _ => .ok v

/-- Puts the NaN before a value. -/
def withNaN : Func := .unary "with_nan" fun v => .ok (.tuple [givenNaN, v])

/-- The sample in groups by a collation, with the greatest of what a parser makes of the second
column. -/
def greatestPlan (collation : Func) (parser? : Option Func) : Plan where
  names := [.text "k", .text "max_v"]
  options := {}
  batchSize := 1
  work := .groups sampleSource { parsers := [none, parser?], width := 2, steps := [] } {
    index := [0, 1]
    keys := [(0, some collation)]
    aggregates := [(.aggregate "agg_max" Aggregate.max, 1)]
    writeIndex := [0, 1]
    names := [.text "k", .text "max_v"]
    formatters := [] }

def pairedSide : JoinSide where
  source := sampleSource
  transform := { parsers := [none, some withNaN], width := 2, steps := [] }
  keys := [(0, some (constantly (.text "g")))]
  carry := [(0, none), (1, none)]
  roll? := some 1
  batchSize := 1

/-- The sample with the nearest of its own rows, under one key. -/
def pairedJoin : JoinPlan where
  kind := .forward
  a := pairedSide
  b := pairedSide
  firstIsBuilt := false
  limit? := none
  dropUnmatched := .bool false
  writeIndex := [0, 3]
  names := [.text "k", .text "v"]

def pairedPlan : Plan where
  names := pairedJoin.names
  options := {}
  batchSize := 1
  work := .join pairedJoin

theorem build_paired : pairedJoin.build = pairedSide := rfl

theorem probe_paired : pairedJoin.probe = pairedSide := rfl

theorem sample_paired : pairedPlan.sample sampleStore 2 =
    ⟨[[.text "a", .tuple [givenNaN, .text "1"]], [.text "b", .tuple [givenNaN, .text "2"]]], none⟩ := by
  have hwork : pairedPlan.work = .join pairedJoin := rfl
  have hrows : pairedSide.source.rows sampleStore = _ := rows_sample
  have hsample : pairedSide.source.sample sampleStore 2 =
      .ok [[.text "a", .text "1"], [.text "b", .text "2"]] := by
    rw [Source.sample, hrows]
    rfl
  simp only [Plan.sample, hwork, build_paired, probe_paired, hsample]
  cbv

theorem output_paired : oneBucket.output sampleStore pairedPlan =
    { items := [[.text "a", .tuple [.float .nan, .text "1"]],
        [.text "b", .tuple [.float .nan, .text "1"]]] } := by
  have hwork : pairedPlan.work = .join pairedJoin := rfl
  have hbatches : (pairedSide.source.rows sampleStore).numbered.batches pairedSide.batchSize = _ :=
    batches_sample
  simp only [Backend.output, hwork, build_paired, probe_paired, Backend.recordsOfSide,
    Backend.workThrough, hbatches]
  cbv

end TablePipeline
