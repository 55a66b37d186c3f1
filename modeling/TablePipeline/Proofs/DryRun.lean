import Mathlib
import TablePipeline.Proofs.Evaluable
import TablePipeline.Proofs.Formatting
import TablePipeline.Proofs.Preview

/-!
What a dry run tells. After every edit the plan without formatters is run on the first ten rows of the
file. If this ends well, none of these rows fails and no group of them does, although no more than ten
records are taken: a row makes one record or group at most, so none of them stands behind the last one
that is taken. What the dry run leaves out is formatting. So a run over a file that has no more rows
reports what formatters do not take, and nothing else.
-/
namespace TablePipeline

/-! ### Taking as many items as there are steps -/

namespace Feed

variable {α β : Type} {f : α → Except Fault (List β)} {as : List α}

/-- When one of some steps fails that make one item at most, fewer items have been made than there
are steps. -/
theorem length_lt_of_traverse (hone : ∀ a bs, f a = .ok bs → bs.length ≤ 1)
    (h : (traverse f as none).fault ≠ none) : (traverse f as none).items.length < as.length := by
  induction as with
  | nil => exact absurd rfl h
  | cons a as ih =>
    cases hf : f a with
    | error stop => simp [traverse, hf, failed]
    | ok bs =>
      have hbs := hone a bs hf
      simp only [traverse, hf, List.length_append, List.length_cons] at h ⊢
      have hrest := ih h
      omega

theorem ok_of_take (hone : ∀ a bs, f a = .ok bs → bs.length ≤ 1) {n : ℕ} (hn : as.length ≤ n)
    {items : List β} (h : ((traverse f as none).take n).toExcept = .ok items) :
    ∀ a ∈ as, ∃ bs, f a = .ok bs := by
  have hended : (traverse f as none).fault = none := by
    by_contra hfault
    have hlt := length_lt_of_traverse hone hfault
    obtain ⟨fault, hsome⟩ := Option.ne_none_iff_exists'.1 hfault
    rw [take, if_neg (by omega), toExcept, hsome] at h
    cases h
  exact (ok_of_traverse hended).2

end Feed

theorem Source.length_of_sample {store : Store} {source : Source} {n : ℕ} {rows : List Row}
    (h : source.sample store n = .ok rows) : rows.length ≤ n := by
  unfold sample at h
  split_ifs at h with hcount
  simp only [firstOf, Feed.take] at h
  split_ifs at h with hmore
  · rw [← Except.ok.inj h]
    simp
  · unfold Feed.toExcept at h
    cases hfault : (source.rows store).fault with
    | some fault => simp [hfault] at h
    | none =>
      simp only [hfault] at h
      rw [← Except.ok.inj h]
      omega

namespace Groups

theorem length_insert_le (key : Key) (vs : List Value) (groups : Groups) :
    (groups.insert key vs).length ≤ groups.length + 1 := by
  induction groups with
  | nil => simp [insert]
  | cons group groups ih =>
    unfold insert
    split_ifs <;> simp [ih]

/-- Each record adds one group at most. -/
theorem length_foldlM_add_le {p : GroupPlan} {records : List GroupRecord} {groups groups' : Groups}
    (h : records.foldlM (add p) groups = .ok groups') :
    groups'.length ≤ groups.length + records.length := by
  induction records generalizing groups with
  | nil => simp [Except.ok.inj h]
  | cons r records ih =>
    obtain ⟨next, hnext, h⟩ := bind_eq_ok.1 h
    obtain ⟨-, -, rfl⟩ := add_eq_ok hnext
    have hrest := ih h
    have hone := length_insert_le r.key
      ((p.aggregates.map (·.2)).map fun place => r.carried.getD place .null) groups
    simp only [List.length_cons]
    omega

theorem length_finished_le (p : GroupPlan) (groups : Groups) :
    (groups.finished p).length ≤ max 1 groups.length := by
  unfold finished
  split_ifs <;> simp

end Groups

namespace Plan

variable {transform : RowTransform} {values : Row}

theorem length_rowStep {slots : List ℕ} {rows : List Row}
    (h : rowStep transform slots values = .ok rows) : rows.length ≤ 1 := by
  obtain ⟨kept?, -, h⟩ := bind_eq_ok.1 h
  cases kept? with
  | none => simp [← Except.ok.inj h]
  | some row =>
    obtain ⟨cells, -, h⟩ := bind_eq_ok.1 h
    simp [← Except.ok.inj h]

theorem length_groupStep {p : GroupPlan} {records : List GroupRecord}
    (h : groupStep transform p values = .ok records) : records.length ≤ 1 := by
  obtain ⟨kept?, -, h⟩ := bind_eq_ok.1 h
  cases kept? with
  | none => simp [← Except.ok.inj h]
  | some row =>
    obtain ⟨record, -, h⟩ := bind_eq_ok.1 h
    simp [← Except.ok.inj h]

end Plan

/-- Where what rows make has been taken in row by row, every row has made something. -/
theorem ok_of_foldlM {α σ : Type} {step : Row → Except Fault (List α)}
    {add : σ → α → Except Fault σ} {rows : List Row} {s out : σ}
    (h : rows.foldlM (fun s row => do (← step row).foldlM add s) s = .ok out) :
    ∀ row ∈ rows, ∃ items, step row = .ok items := by
  induction rows generalizing s with
  | nil => simp
  | cons row rows ih =>
    obtain ⟨next, hnext, h⟩ := bind_eq_ok.1 h
    obtain ⟨items, hitems, -⟩ := bind_eq_ok.1 hnext
    exact List.forall_mem_cons.2 ⟨⟨items, hitems⟩, ih h⟩

/-! ### Rows on which the dry run ends well -/

namespace GroupPlan

/-- No row fails on its way into the groups of a plan, and no group of such rows fails. -/
structure Takes (p : GroupPlan) (transform : RowTransform) (rows : List Row) : Prop where
  records : ∀ values ∈ rows, ∃ records, Plan.groupStep transform p values = .ok records
  groups : ∃ groups,
    Groups.collect p (rows.flatMap fun values => made (Plan.groupStep transform p values)) =
        .ok groups ∧
      ∀ group ∈ groups.finished p, ∃ row, p.finish group.1 group.2 = .ok row

/-- Groups of a sample of which as many can be taken as there are rows. -/
theorem takes_of_sample {p : GroupPlan} {transform : RowTransform} {rows shown : List Row} {n : ℕ}
    (hpos : 0 < n) (hn : rows.length ≤ n)
    (h : ((p.sample transform rows).take n).toExcept = .ok shown) : p.Takes transform rows := by
  unfold sample at h
  cases hgroups : rows.foldlM (fun groups values => do
      (← Plan.groupStep transform p values).foldlM (Groups.add p) groups) [] with
  | error fault => simp [hgroups, Feed.failed, Feed.take, Feed.toExcept, hpos.ne'] at h
  | ok groups =>
    simp only [hgroups] at h
    have hrecords := ok_of_foldlM hgroups
    rw [foldlM_of_ok hrecords] at hgroups
    have hmade : (rows.flatMap fun values => made (Plan.groupStep transform p values)).length ≤
        rows.length := by
      rw [List.length_flatMap]
      refine (List.sum_le_card_nsmul _ 1 fun length hlength => ?_).trans (by simp)
      obtain ⟨values, hvalues, rfl⟩ := List.mem_map.1 hlength
      obtain ⟨records, hstep⟩ := hrecords values hvalues
      rw [hstep]
      exact Plan.length_groupStep hstep
    have hfew : (Groups.finished p groups).length ≤ n := by
      have hlength := Groups.length_foldlM_add_le hgroups
      have hfinished := Groups.length_finished_le p groups
      simp only [List.length_nil] at hlength
      omega
    have hone : ∀ (group : Key × List (List Value)) bs, (do .ok [← p.finish group.1 group.2] :
        Except Fault (List Row)) = .ok bs → bs.length ≤ 1 := by
      intro group bs hbs
      obtain ⟨row, -, hrow⟩ := bind_eq_ok.1 hbs
      simp [← Except.ok.inj hrow]
    refine ⟨hrecords, groups, hgroups, fun group hgroup => ?_⟩
    obtain ⟨bs, hbs⟩ := Feed.ok_of_take hone hfew h group hgroup
    obtain ⟨row, hrow, -⟩ := bind_eq_ok.1 hbs
    exact ⟨row, hrow⟩

end GroupPlan

namespace Table

variable {t : Table} {store : Store}

/-- The plan of all columns. -/
theorem plan_default {formatted : Bool} {p : Plan} (h : t.plan {} formatted = .ok p) :
    p.batchSize = t.batchSize ∧
      if t.rules.makesGroups then
        ∃ g, GroupSchema.plan t.catalog t.rules none = .ok g ∧
          p.work = .groups t.source (RowTransform.ofTable t.catalog t.rules false)
            (if formatted then g else { g with formatters := [] })
      else p.work =
        .rows t.source (RowTransform.ofTable t.catalog t.rules formatted) t.catalog.live := by
  obtain ⟨all, -, h⟩ := bind_eq_ok.1 h
  rw [chosenNames_default, ok_bind] at h
  cases hgroups : t.rules.makesGroups with
  | true =>
    simp only [hgroups, if_true] at h
    obtain ⟨⟨names, work⟩, hwork, h⟩ := bind_eq_ok.1 h
    obtain ⟨g, hg, hwork⟩ := bind_eq_ok.1 hwork
    obtain rfl := Except.ok.inj h
    exact ⟨rfl, by simpa using ⟨g, hg, (Prod.mk.inj (Except.ok.inj hwork)).2.symm⟩⟩
  | false =>
    simp only [hgroups, Bool.false_eq_true, if_false] at h
    obtain ⟨⟨names, work⟩, hwork, h⟩ := bind_eq_ok.1 h
    obtain ⟨slots, hslots, hrows⟩ := rowWork_eq_ok hwork
    obtain rfl := Except.ok.inj hslots
    obtain rfl := Except.ok.inj h
    exact ⟨rfl, by simpa using hrows⟩

theorem sources_default {formatted : Bool} {p : Plan} (h : t.plan {} formatted = .ok p) :
    p.work.sources = [t.source] := by
  obtain ⟨-, hwork⟩ := plan_default h
  cases hgroups : t.rules.makesGroups with
  | true =>
    rw [if_pos hgroups] at hwork
    obtain ⟨g, -, hwork⟩ := hwork
    rw [hwork]
    rfl
  | false =>
    rw [if_neg (by simp [hgroups])] at hwork
    rw [hwork]
    rfl

/-- A table whose dry run ends well on some rows: it has a plan, and without formatters none of the
rows fails and no group of them. -/
structure Rehearsed (t : Table) (rows : List Row) : Prop where
  evaluable : t.Evaluable
  ends : if t.rules.makesGroups then
      ∃ p, GroupSchema.plan t.catalog t.rules none = .ok p ∧
        GroupPlan.Takes { p with formatters := [] }
          (RowTransform.ofTable t.catalog t.rules false) rows
    else ∀ values ∈ rows, ∃ row?,
      (RowTransform.ofTable t.catalog t.rules false).run values = .ok row?

theorem rehearsed_of_preview {p : Plan} {shown : List Record} (hplan : t.plan {} false = .ok p)
    (h : p.preview store {} = .ok shown) :
    ∃ rows, t.source.sample store 10 = .ok rows ∧ t.Rehearsed rows := by
  obtain ⟨-, hwork⟩ := plan_default hplan
  unfold Plan.preview at h
  obtain ⟨-, h⟩ := guard_eq_ok.1 h
  obtain ⟨records, hrecords, -⟩ := bind_eq_ok.1 h
  have hevaluable := evaluable_of_plan hplan
  unfold Plan.sample at hrecords
  cases hgroups : t.rules.makesGroups with
  | true =>
    simp only [hgroups, if_true, Bool.false_eq_true, if_false] at hwork
    obtain ⟨g, hg, hwork⟩ := hwork
    simp only [hwork] at hrecords
    cases hrows : t.source.sample store 10 with
    | error fault => simp [hrows, Feed.failed, Feed.take, Feed.toExcept] at hrecords
    | ok rows =>
      simp only [hrows] at hrecords
      have htakes := GroupPlan.takes_of_sample (by decide) (Source.length_of_sample hrows) hrecords
      exact ⟨rows, rfl, hevaluable, by rw [if_pos hgroups]; exact ⟨g, hg, htakes⟩⟩
  | false =>
    simp only [hgroups, Bool.false_eq_true, if_false] at hwork
    simp only [hwork] at hrecords
    cases hrows : t.source.sample store 10 with
    | error fault => simp [hrows, Feed.failed, Feed.take, Feed.toExcept] at hrecords
    | ok rows =>
      simp only [hrows] at hrecords
      refine ⟨rows, rfl, hevaluable, ?_⟩
      rw [if_neg (by simp [hgroups])]
      intro values hvalues
      obtain ⟨out, hout⟩ := Feed.ok_of_take (fun _ _ => Plan.length_rowStep)
        (Source.length_of_sample hrows) hrecords values hvalues
      obtain ⟨row?, hrow, -⟩ := bind_eq_ok.1 hout
      exact ⟨row?, hrow⟩

/-! ### Edits -/

theorem frame_edit (t : Table) (store : Store) (e : Edit) :
    (t.edit store e).2.source = t.source ∧ (t.edit store e).2.batchSize = t.batchSize := by
  obtain ⟨catalog, rules, hframed⟩ := framed_edit t store e
  rw [hframed]
  exact ⟨rfl, rfl⟩

theorem frame_after (t : Table) (history : List (Store × Edit)) :
    (t.after history).source = t.source ∧ (t.after history).batchSize = t.batchSize := by
  induction history generalizing t with
  | nil => exact ⟨rfl, rfl⟩
  | cons call rest ih =>
    obtain ⟨hsource, hsize⟩ := ih (t.edit call.1 call.2).2
    exact ⟨hsource.trans (frame_edit t call.1 call.2).1, hsize.trans (frame_edit t call.1 call.2).2⟩

theorem rehearsed_of_edit {e : Edit} (h : (t.edit store e).1 = .ok ()) :
    ∃ rows, t.source.sample store 10 = .ok rows ∧ (t.edit store e).2.Rehearsed rows := by
  have hdry := dryRun_of_edit h
  obtain ⟨p, hp⟩ := exists_plan_of_dryRun hdry
  rw [← (frame_edit t store e).1]
  rw [dryRun, hp] at hdry
  cases hpreview : p.preview store {} with
  | error fault => simp [Except.bind, hpreview] at hdry
  | ok shown => exact rehearsed_of_preview hp hpreview

/-- Edits of which one took place: whatever else is tried, the table is one on which the dry run has
ended well. -/
theorem rehearsed_after {edits : List Edit}
    (h : t.taken (edits.map fun e => (store, e)) ≠ [] ∨
      ∃ rows, t.source.sample store 10 = .ok rows ∧ t.Rehearsed rows) :
    ∃ rows, t.source.sample store 10 = .ok rows ∧
      (t.after (edits.map fun e => (store, e))).Rehearsed rows := by
  induction edits generalizing t with
  | nil => exact h.resolve_left (by simp [taken])
  | cons e edits ih =>
    cases hedit : (t.edit store e).1 with
    | ok _ =>
      have hrest := ih (t := (t.edit store e).2) (.inr (by
        rw [(frame_edit t store e).1]
        exact rehearsed_of_edit hedit))
      rwa [(frame_edit t store e).1] at hrest
    | error fault =>
      have hsame := edit_eq_of_error hedit
      have htaken : t.taken ((e :: edits).map fun e => (store, e)) =
          t.taken (edits.map fun e => (store, e)) := by
        simp only [List.map_cons, taken, hedit, hsame]
      rw [htaken] at h
      have hrest := ih h
      simpa only [List.map_cons, after, hsame] using hrest

end Table

/-! ### What formatters do not take -/

namespace Table

/-- The failure of the first formatter that does not take its part of a group's key. -/
def keyFault? (t : Table) (key : Key) : Option Fault :=
  (t.rules.keys.zip key).findSome? fun (rule, v) =>
    Fault.of? (shownPart rule.collation? (t.catalog.formatter? rule.slot.toNat) v)

/-- What the groups of a table are made of is the same once it has been set apart and read back: keys
find their buckets and hold no NaN, and what aggregates are applied to bears no mark of a NaN. -/
structure ReadsBack (t : Table) (store : Store) (p : Partitioning) : Prop where
  buckets : p.fault? = none ∧ 0 < p.count
  hash : p.Consistent ((t.members store).items.map fun m => m.key)
    ((t.members store).items.map fun m => m.key)
  keys : ∀ m ∈ (t.members store).items, m.key.hasNaN = false
  values : ∀ m ∈ (t.members store).items, ∀ a ∈ t.rules.aggregates,
    (m.carried.getD a.source.toNat .null).forget true = m.carried.getD a.source.toNat .null

/-- What formatters do not take of the rows or the groups of a table, as it is reported. -/
def formatFailures (t : Table) (store : Store) : List RowFailure :=
  if t.rules.makesGroups then
    (t.groupKeys store).filterMap fun key =>
      (t.keyFault? key).map fun fault => { stage := .aggregate, place := .group, fault }
  else
    (t.source.rows store).items.zipIdx.filterMap fun (values, number) =>
      (t.formatFault? values).map fun fault => { stage := .rows, place := .row number, fault }

end Table

namespace GroupPlan

variable {p : GroupPlan} {key : Key} {columns : List (List Value)} {row : Row}

/-- Where a group can be finished without formatters, it fails as they do. -/
theorem of?_finish (h : GroupPlan.finish { p with formatters := [] } key columns = .ok row) :
    Fault.of? (p.finish key columns) =
      (p.keys.zip key).findSome? fun (place, v) => Fault.of? (p.keyValue place v) := by
  obtain ⟨plain, hplain, h⟩ := bind_eq_ok.1 h
  obtain ⟨results, hresults, hcells⟩ := bind_eq_ok.1 h
  rw [← Fault.of?_mapM fun part : (ℕ × Option Func) × Value => p.keyValue part.1 part.2, finish]
  cases hkeys : (p.keys.zip key).mapM fun part => p.keyValue part.1 part.2 with
  | error fault => rfl
  | ok keys =>
    have hlength : ∀ {f : (ℕ × Option Func) × Value → Except Fault Value} {vs : List Value},
        (p.keys.zip key).mapM f = .ok vs → vs.length = (p.keys.zip key).length := by
      intro f vs hvs
      simpa using (congrArg List.length (mapM_eq_ok_iff.1 hvs)).symm
    have hslots := Row.exists_cells_iff.1 ⟨row, hcells⟩
    rw [List.length_append, hlength hplain, ← hlength hkeys, ← List.length_append] at hslots
    obtain ⟨shown, hshown⟩ := Row.exists_cells_iff.2 hslots
    simp only [ok_bind, hresults, hshown]
    rfl

/-- Formatters take the parts of a key as the table says. -/
theorem findSome?_keyValue {t : Table} {positions : List ℕ} (hp : p.Picks t true positions)
    (key : Key) :
    ((p.keys.zip key).findSome? fun (place, v) => Fault.of? (p.keyValue place v)) =
      t.keyFault? key := by
  rw [Table.keyFault?, ← List.head?_filterMap, ← List.head?_filterMap, hp.keys, List.zip_map_left,
    List.filterMap_map]
  refine congrArg List.head? (List.filterMap_congr fun part hpart => ?_)
  have hrule := hp.keySlots part.1 (List.of_mem_zip hpart).1
  simp only [Function.comp_apply, Prod.map, keyValue_eq, hp.formatters _ hrule, if_true, id]

end GroupPlan

namespace Backend

variable {b : Backend} {p : GroupPlan} {records : List GroupRecord}

/-- Groups of records that can be collected are finished one after the other, in some order. -/
theorem groupAll_eq_eachReport {groups : Groups}
    (hu : p.isWhole = false → b.partitioning.fault? = none ∧ 0 < b.partitioning.count)
    (hhash : p.isWhole = false → b.partitioning.Consistent (records.map fun r => r.key)
      (records.map fun r => r.key))
    (hnan : p.isWhole = false → ∀ r ∈ records, r.key.hasNaN = false)
    (hcolumns : p.isWhole = false → ∀ r ∈ records, ∀ place ∈ p.aggregates.map (·.2),
      (r.carried.getD place .null).forget true = r.carried.getD place .null)
    (hgroups : Groups.collect p records = .ok groups) :
    ∃ order : Groups, order.Perm (groups.finished p) ∧
      (p.isWhole = true → order = groups.finished p) ∧
      b.reporting.groupAll p { items := records } = eachReport .aggregate .group
        (fun group => do .ok [← p.finish group.1 group.2]) order := by
  cases hwhole : p.isWhole with
  | true =>
    refine ⟨_, .refl _, fun _ => rfl, ?_⟩
    simp only [groupAll, hwhole, if_true, groupRecords, hgroups, finishGroups, eachOf_reporting]
    rfl
  | false =>
    obtain ⟨hchecked, rfl⟩ := Groups.collect_eq_ok (hnan hwhole) hgroups
    have hcheck : ∀ r ∈ records, r.key.check = .ok () := fun r hr => (hchecked r hr).1
    have hkept := Groups.ofRecords_kept
      (fun r hr => Key.forget_of_hasNaN true (hcheck r hr) (hnan hwhole r hr)) (hcolumns hwhole)
    have hbuckets : (b.bucketNumbers.flatMap (b.groupsOf p records)).Perm _ :=
      (Groups.ofRecords_buckets (fun r hr => ⟨hcheck r hr, (hu hwhole).2⟩) (hhash hwhole) _).1
    rw [hkept] at hbuckets
    have hsame : ∀ groups : Groups, groups.finished p = groups := by
      simp [Groups.finished, hwhole]
    refine ⟨b.bucketNumbers.flatMap (b.groupsOf p records), by rwa [hsame], by simp, ?_⟩
    have hset : ∀ number ∈ b.bucketNumbers, b.reporting.groupRecords p ((records.filter fun r =>
        b.partitioning.numberOf r.key == number).map GroupRecord.putAside) =
          eachReport .aggregate .group (fun group => do .ok [← p.finish group.1 group.2])
            (b.groupsOf p records number) := by
      intro number _
      obtain ⟨groups, hcollect⟩ := Groups.exists_foldlM_add
        (Groups.Collectable.filter hchecked fun r => b.partitioning.numberOf r.key == number) []
      have hcollect : Groups.collect p _ = .ok groups := hcollect
      obtain ⟨-, rfl⟩ := Groups.collect_eq_ok (fun r hr => by
        obtain ⟨s, hs, rfl⟩ := List.mem_map.1 hr
        exact (Key.hasNaN_forget true s.key).trans (hnan hwhole s (List.mem_of_mem_filter hs)))
        hcollect
      simp only [groupRecords, hcollect, finishGroups, eachOf_reporting, hsame]
      rfl
    have hsets : b.reporting.recordSets p records = b.bucketNumbers.map fun number =>
        (records.filter fun r => b.partitioning.numberOf r.key == number).map
          GroupRecord.putAside := by
      rw [recordSets, if_neg (by simp [hwhole])]
      rfl
    rw [groupAll_of_checked (b := b.reporting) hu rfl hcheck, hsets, List.map_map]
    simp only [Function.comp_def]
    rw [List.map_congr_left hset, Outcome.concat_of_ok (by simp [eachReport])]
    simp [eachReport, List.flatMap_map, List.flatMap_assoc, List.filterMap_flatMap]

/-! ### Tables on which the dry run has ended well -/

variable {t : Table} {store : Store} {p : Plan}

/-- A run whose stages end well returns its report if its rows can be written. -/
theorem exists_report_iff {sink : Sink} {opened : Store × Settings}
    (hopen : sink.opened store = .ok opened) (hended : (b.output opened.1 p).fault = none) :
    (∃ report, (b.execute p sink store).1 = .ok report) ↔
      Sink.Writes p.names (b.output opened.1 p).items opened := by
  rw [execute_eq hopen]
  by_cases hwrites : Sink.Writes p.names (b.output opened.1 p).items opened
  · rw [Sink.fill_of_writes hwrites List.prefix_rfl, hended]
    exact ⟨fun _ => hwrites, fun _ => ⟨_, rfl⟩⟩
  · obtain ⟨stop, hstop⟩ := Sink.fill_of_not_writes hwrites
    rw [hstop]
    refine ⟨fun h => ?_, fun h => absurd h hwrites⟩
    obtain ⟨report, hreport⟩ := h
    cases hreport

/-- A run over rows puts out the accepted ones and reports those on which the transform fails. -/
theorem output_of_rows {formatted : Bool} (hrows : t.rules.makesGroups = false)
    (hplan : t.plan {} formatted = .ok p) (hread : (t.source.rows store).fault = none)
    (hsize : 0 < t.batchSize) (hworkers : 0 < b.workers) (hwindow : 0 < b.window)
    (horder : b.InOrder) :
    let transform := RowTransform.ofTable t.catalog t.rules formatted
    let rows := (t.source.rows store).items
    b.reporting.output store p =
      { items := (transform.accepted rows).map fun row =>
          t.catalog.live.map fun slot => row.getD slot .null
        failures := (transform.failing 0 rows).map fun failing =>
          { stage := .rows, place := .row failing.1, fault := failing.2 } } := by
  obtain ⟨hbatch, hwork⟩ := Table.plan_default hplan
  rw [if_neg (by simp [hrows])] at hwork
  have hslots := (Table.lt_width_of_plan hplan hwork).2
  obtain ⟨order, -, hsame, hreports, -⟩ := exists_order hworkers hwindow (hbatch ▸ hsize) hread .rows
    (Plan.rowStep (RowTransform.ofTable t.catalog t.rules formatted) t.catalog.live)
  have hfeed : t.source.rows store = ⟨(t.source.rows store).items, none⟩ := by rw [← hread]
  have hitems := items_singlePass hslots (t.source.rows store).items
  have hfailures := failures_singlePass hslots (t.source.rows store).items
  rw [← hfeed] at hitems hfailures
  simp only [output, hwork]
  rw [hreports, hsame horder]
  exact congrArg₂ (fun items failures => ({ items, failures } : Outcome Row)) hitems hfailures

/-- A run over rows that have been rehearsed reports those that formatters do not take. -/
theorem output_of_rehearsed_rows (hrows : t.rules.makesGroups = false)
    (hformats : t.catalog.Formats) (hplan : t.plan {} true = .ok p)
    (hread : (t.source.rows store).fault = none)
    (hrehearsed : t.Rehearsed (t.source.rows store).items) (hsize : 0 < t.batchSize)
    (hworkers : 0 < b.workers) (hwindow : 0 < b.window) (horder : b.InOrder) :
    (b.reporting.output store p).fault = none ∧
      (b.reporting.output store p).failures = t.formatFailures store := by
  have hends := hrehearsed.ends
  rw [if_neg (by simp [hrows])] at hends
  rw [output_of_rows hrows hplan hread hsize hworkers hwindow horder]
  refine ⟨rfl, ?_⟩
  rw [Table.formatFailures, if_neg (by simp [hrows]), RowTransform.failing, List.map_filterMap]
  refine List.filterMap_congr ?_
  rintro ⟨values, number⟩ hnumbered
  obtain ⟨row?, hrun⟩ := hends values (List.fst_mem_of_mem_zipIdx hnumbered)
  simp only [← Table.of?_run_formatted hformats hrun]
  cases (RowTransform.ofTable t.catalog t.rules true).run values <;> rfl

/-- The finished groups of the members of a table are those of its keys. -/
theorem keys_finished {group : GroupPlan} {positions : List ℕ} {groups : Groups}
    (hp : group.Picks t true positions)
    (hmembers : ∀ m ∈ (t.members store).items, m.key.length = t.rules.keys.length)
    (hnan : t.rules.isGrouped = true → ∀ m ∈ (t.members store).items, m.key.hasNaN = false)
    (hgroups : Groups.collect group ((t.members store).items.map group.cut) = .ok groups) :
    (groups.finished group).map (fun group => group.1) = t.groupKeys store := by
  have hkeys : ((t.members store).items.map group.cut).map (fun r => r.key) =
      (t.members store).items.map fun m => m.key := by
    rw [List.map_map]
    rfl
  cases hkeyed : t.rules.isGrouped with
  | false =>
    have hnone : t.rules.keys = [] := by simpa [RowRules.isGrouped] using hkeyed
    have hwhole : group.isWhole = true := by simp [GroupPlan.isWhole, hp.keys, hnone]
    have hempty : ∀ r ∈ (t.members store).items.map group.cut, r.key = [] := by
      intro r hr
      obtain ⟨m, hm, rfl⟩ := List.mem_map.1 hr
      exact List.length_eq_zero_iff.1 (by simpa [hnone] using hmembers m hm)
    obtain ⟨-, rfl⟩ := Groups.collect_eq_ok (fun r hr => by rw [hempty r hr]; rfl) hgroups
    rw [Groups.finished_of_whole hwhole hempty, Table.groupKeys, if_neg (by simp [hkeyed])]
    rfl
  | true =>
    have hwhole : group.isWhole = false := by
      simpa [GroupPlan.isWhole, hp.keys, RowRules.isGrouped] using hkeyed
    have hnan' : ∀ r ∈ (t.members store).items.map group.cut, r.key.hasNaN = false := by
      intro r hr
      obtain ⟨m, hm, rfl⟩ := List.mem_map.1 hr
      exact hnan hkeyed m hm
    obtain ⟨-, rfl⟩ := Groups.collect_eq_ok hnan' hgroups
    have hsame : ∀ groups : Groups, groups.finished group = groups := by
      simp [Groups.finished, hwhole]
    rw [hsame, Table.groupKeys, if_pos hkeyed, Groups.ofRecords, List.map_map, hkeys]
    exact List.map_id _

/-- Rows that have been rehearsed make groups that can be finished without formatters, of the members
of the table. -/
theorem groups_of_rehearsed (hgroups : t.rules.makesGroups = true)
    (hplan : t.plan {} true = .ok p) (hread : (t.source.rows store).fault = none)
    (hrehearsed : t.Rehearsed (t.source.rows store).items) :
    let transform := RowTransform.ofTable t.catalog t.rules false
    ∃ (group : GroupPlan) (positions : List ℕ) (groups : Groups),
      p.work = .groups t.source transform group ∧ group.Picks t true positions ∧
      (∀ values ∈ (t.source.rows store).items, ∃ records,
        Plan.groupStep transform group values = .ok records) ∧
      PlanWork.madeOf (Plan.groupStep transform group) (t.source.rows store) =
        (t.members store).items.map group.cut ∧
      (∀ m ∈ (t.members store).items, m.key.length = t.rules.keys.length) ∧
      Groups.collect group ((t.members store).items.map group.cut) = .ok groups ∧
      ∀ made ∈ groups.finished group, ∃ row,
        GroupPlan.finish { group with formatters := [] } made.1 made.2 = .ok row := by
  intro transform
  obtain ⟨-, hwork⟩ := Table.plan_default hplan
  rw [if_pos hgroups] at hwork
  have hends := hrehearsed.ends
  rw [if_pos hgroups] at hends
  obtain ⟨group, hgroup, hwork⟩ := hwork
  obtain ⟨_, hsame, hrecords, groups, hcollect, hfinish⟩ := hends
  obtain rfl := Except.ok.inj (hgroup.symm.trans hsame)
  rw [if_pos rfl] at hwork
  have hpicks : t.groupWork none true = .ok (group.names, p.work) := by
    rw [Table.groupWork, hgroup, hwork]
    rfl
  obtain ⟨positions, picked, -, hpicked, hp⟩ := Table.groupWork_eq_ok hpicks
  obtain rfl : picked = group := by
    rw [hwork] at hpicked
    injection hpicked with _ _ hsame
    exact hsame.symm
  -- neither the records nor the groups that are collected of them depend on formatters
  change ∀ values ∈ _, ∃ records, Plan.groupStep transform picked values = .ok records at hrecords
  change Groups.collect picked (PlanWork.madeOf (Plan.groupStep transform picked)
    (t.source.rows store)) = .ok groups at hcollect
  have hflat : (t.source.rows store).flatMapM (Plan.groupStep transform picked) =
      ⟨PlanWork.madeOf (Plan.groupStep transform picked) (t.source.rows store), none⟩ := by
    rw [Feed.flatMapM, hread]
    exact Feed.traverse_of_ok none hrecords
  obtain ⟨-, hitems, hmembers⟩ := GroupPlan.groupStep_members hp (congrArg Feed.fault hflat)
  have hmade : PlanWork.madeOf (Plan.groupStep transform picked) (t.source.rows store) =
      (t.members store).items.map picked.cut := (congrArg Feed.items hflat).symm.trans hitems
  exact ⟨picked, positions, groups, hwork, hp, hrecords, hmade, fun m hm => (hmembers m hm).2,
    hmade ▸ hcollect, hfinish⟩

/-- What aggregates are applied to is read back with the values of the table. -/
theorem cut_readsBack {group : GroupPlan} {positions : List ℕ} (hp : group.Picks t true positions)
    (hback : t.ReadsBack store b.partitioning) :
    ∀ r ∈ (t.members store).items.map group.cut, ∀ place ∈ group.aggregates.map (·.2),
      (r.carried.getD place .null).forget true = r.carried.getD place .null := by
  intro r hr place hplace
  obtain ⟨m, hm, rfl⟩ := List.mem_map.1 hr
  rw [hp.aggregates, List.map_map] at hplace
  obtain ⟨a, ha, rfl⟩ := List.mem_map.1 hplace
  simp only [Function.comp_apply, GroupPlan.getD_cut m (hp.sources a ha)]
  exact hback.values m hm a (RowRules.mem_of_neededAggregates ha)

/-- A run over groups of rows that have been rehearsed reports those that formatters do not take. -/
theorem output_of_rehearsed_groups (hgroups : t.rules.makesGroups = true)
    (hplan : t.plan {} true = .ok p) (hread : (t.source.rows store).fault = none)
    (hrehearsed : t.Rehearsed (t.source.rows store).items) (hsize : 0 < t.batchSize)
    (hworkers : 0 < b.workers) (hwindow : 0 < b.window) (horder : b.InOrder)
    (hback : t.rules.isGrouped = true → t.ReadsBack store b.partitioning) :
    (b.reporting.output store p).fault = none ∧
      (b.reporting.output store p).failures.Perm (t.formatFailures store) ∧
      (t.rules.isGrouped = false →
        (b.reporting.output store p).failures = t.formatFailures store) := by
  obtain ⟨group, positions, groups, hwork, hp, hrecords, hmade, hlengths, hcollect, hfinish⟩ :=
    groups_of_rehearsed hgroups hplan hread hrehearsed
  have hgrouped : group.isWhole = false → t.rules.isGrouped = true := by
    simp [GroupPlan.isWhole, hp.keys, RowRules.isGrouped]
  have hkeys : ((t.members store).items.map group.cut).map (fun r => r.key) =
      (t.members store).items.map fun m => m.key := by
    rw [List.map_map]
    rfl
  obtain ⟨order, hperm, hsame, hall⟩ := groupAll_eq_eachReport
    (fun hwhole => (hback (hgrouped hwhole)).buckets)
    (fun hwhole => by rw [hkeys]; exact (hback (hgrouped hwhole)).hash)
    (fun hwhole r hr => by
      obtain ⟨m, hm, rfl⟩ := List.mem_map.1 hr
      exact (hback (hgrouped hwhole)).keys m hm)
    (fun hwhole => cut_readsBack hp (hback (hgrouped hwhole))) hcollect
  have houtput : b.reporting.output store p = eachReport .aggregate .group
      (fun group' => do .ok [← group.finish group'.1 group'.2]) order := by
    simp only [output, hwork]
    rw [workThrough_of_ok (b := b.reporting) .group hworkers hwindow horder
      ((Table.plan_default hplan).1 ▸ hsize) hread hrecords, hmade, hall]
  have hreport : ∀ made ∈ groups.finished group, failed? .aggregate .group
      (do .ok [← group.finish made.1 made.2] : Except Fault (List Row)) =
        (t.keyFault? made.1).map fun fault => { stage := .aggregate, place := .group, fault } := by
    intro made hgroup
    obtain ⟨row, hrow⟩ := hfinish made hgroup
    rw [← GroupPlan.findSome?_keyValue hp, ← GroupPlan.of?_finish hrow]
    cases group.finish made.1 made.2 <;> rfl
  have hlist : ((groups.finished group).filterMap fun made => failed? .aggregate .group
      (do .ok [← group.finish made.1 made.2] : Except Fault (List Row))) =
        t.formatFailures store := by
    rw [Table.formatFailures, if_pos hgroups, List.filterMap_congr hreport,
      ← keys_finished hp hlengths (fun hkeyed => (hback hkeyed).keys) hcollect, List.filterMap_map]
    rfl
  rw [houtput, ← hlist]
  refine ⟨rfl, hperm.filterMap _, fun hwhole => ?_⟩
  rw [hsame (by simpa [GroupPlan.isWhole, hp.keys, RowRules.isGrouped] using hwhole)]
  rfl

end Backend

namespace Table

variable {t : Table} {store : Store}

/-- Where there are no formatters, none of them fails. -/
theorem formatFailures_of_plain (h : t.catalog.formatters = []) : t.formatFailures store = [] := by
  have hrow : ∀ values, t.formatFault? values = none := by
    intro values
    unfold formatFault?
    split
    · simp [Catalog.formatFault?, Catalog.faultAmong?, h]
    · rfl
  have hkey : ∀ key, t.keyFault? key = none := by
    intro key
    refine List.findSome?_eq_none_iff.2 ?_
    rintro ⟨rule, v⟩ -
    have hnone : t.catalog.formatter? rule.slot.toNat = none := by rw [Catalog.formatter?, h]; rfl
    simp only [hnone]
    cases rule.collation? <;> rfl
  simp [formatFailures, hrow, hkey]

theorem batchSize_of_ofArgs {path haveHeader batchSize : Arg} {settings : FileSettings}
    (h : ofArgs store path haveHeader batchSize settings = .ok t) : 0 < t.batchSize := by
  obtain ⟨source, -, h⟩ := bind_eq_ok.1 h
  obtain ⟨size, hsize, h⟩ := bind_eq_ok.1 h
  obtain ⟨names, -, h⟩ := bind_eq_ok.1 h
  obtain ⟨catalog, -, h⟩ := bind_eq_ok.1 h
  obtain rfl := Except.ok.inj h
  unfold batchSizeOf at hsize
  split at hsize
  · split_ifs at hsize with hpos
    rw [← Except.ok.inj hsize]
    exact Int.pos_iff_toNat_pos.1 hpos
  · cases hsize

/-- What the dry runs of edits leave to be found. Once an edit has taken place no row among the first
ten of the file fails without formatters, and no group of them does. If the file has no more rows, a
run reports what formatters do not take and nothing else, so nothing where there are none; for rows
this is under their numbers and in their order. The run ends with its report exactly if its rows can
be written. -/
theorem failures_after_edits {path haveHeader batchSize : Arg} {settings : FileSettings}
    (hopen : ofArgs store path haveHeader batchSize settings = .ok t) (edits : List Edit)
    (hsome : t.taken (edits.map fun e => (store, e)) ≠ [])
    (hread : (t.source.rows store).fault = none) {b : Backend} {sink : Sink}
    {opened : Store × Settings} (hsink : sink.opened store = .ok opened)
    (hsame : t.source.rows opened.1 = t.source.rows store) (hworkers : 0 < b.workers)
    (hwindow : 0 < b.window) (horder : b.InOrder) (hreports : b.raiseOnError = false)
    (hback : (t.after (edits.map fun e => (store, e))).rules.isGrouped = true →
      (t.after (edits.map fun e => (store, e))).ReadsBack store b.partitioning) :
    let edited := t.after (edits.map fun e => (store, e))
    (∃ rows, t.source.sample store 10 = .ok rows ∧ edited.Rehearsed rows) ∧
    ((t.source.rows store).items.length ≤ 10 → ∃ p, edited.plan {} true = .ok p ∧
      let outcome := b.output opened.1 p
      outcome.fault = none ∧
      outcome.failures.Perm (edited.formatFailures store) ∧
      (edited.rules.isGrouped = false → outcome.failures = edited.formatFailures store) ∧
      (edited.catalog.formatters = [] → outcome.failures = []) ∧
      (∀ report, (b.execute p sink store).1 = .ok report → report.failures = outcome.failures) ∧
      ((∃ report, (b.execute p sink store).1 = .ok report) ↔
        Sink.Writes p.names outcome.items opened)) := by
  intro edited
  obtain ⟨hsource, hsize⟩ := frame_after t (edits.map fun e => (store, e))
  have hbatch : 0 < edited.batchSize := hsize ▸ batchSize_of_ofArgs hopen
  obtain ⟨hcatalog, hrules⟩ := catalog_of_ofArgs hopen
  have hformats : edited.catalog.Formats :=
    ((declares_of_opened hcatalog hrules).after (edits.map fun e => (store, e))).formats
  obtain ⟨rows, hrows, hrehearsed⟩ := rehearsed_after (.inl hsome)
  refine ⟨⟨rows, hrows, hrehearsed⟩, fun hfew => ?_⟩
  obtain rfl : _ = rows := Except.ok.inj
    ((Source.sample_eq (by decide) hread hfew).symm.trans hrows)
  rw [← hsource] at hread hrehearsed hsame
  obtain ⟨p, hp, -⟩ := hrehearsed.evaluable.plan true
  have houtput : b.output opened.1 p = b.reporting.output store p := by
    rw [← Backend.eq_reporting hreports]
    refine Backend.output_congr fun source hmem => ?_
    rw [sources_default hp, List.mem_singleton] at hmem
    rw [hmem, hsame]
  have hreported : (b.reporting.output store p).fault = none ∧
      (b.reporting.output store p).failures.Perm (edited.formatFailures store) ∧
      (edited.rules.isGrouped = false →
        (b.reporting.output store p).failures = edited.formatFailures store) := by
    cases hgroups : edited.rules.makesGroups with
    | true =>
      exact Backend.output_of_rehearsed_groups hgroups hp hread hrehearsed hbatch hworkers hwindow
        horder hback
    | false =>
      obtain ⟨hended, hlist⟩ := Backend.output_of_rehearsed_rows hgroups hformats hp hread hrehearsed
        hbatch hworkers hwindow horder
      exact ⟨hended, .of_eq hlist, fun _ => hlist⟩
  rw [← houtput] at hreported
  obtain ⟨hended, hperm, hlist⟩ := hreported
  refine ⟨p, hp, hended, hperm, hlist, fun hplain => ?_, fun report hreport =>
    (Backend.report_of_execute hsink hreport).2, Backend.exists_report_iff hsink hended⟩
  rw [formatFailures_of_plain hplain] at hperm
  exact hperm.eq_nil

end Table

/-! ### A formatter that fails on the second of two rows -/

def showing : Edit := .setFormatter (.text "k") (.func failsOnB)

/-- The sample with the formatter. -/
def shownTable : Table :=
  { sampleTable with catalog := { sampleTable.catalog with formatters := [(0, failsOnB)] } }

def shownPlan : Plan where
  names := [.text "k", .text "v"]
  options := {}
  batchSize := 1
  work := .rows sampleSource (RowTransform.ofTable shownTable.catalog {} true) [0, 1]

theorem edit_showing : sampleTable.edit sampleStore showing = (.ok (), shownTable) :=
  Table.edit_of_steps rfl (dryRun_sample rfl rfl rfl)

theorem plan_shown : shownTable.plan {} true = .ok shownPlan := rfl

theorem output_shown : (Backend.ofOptions {}).output targetOpened.1 shownPlan =
    { items := [[.text "a", .text "1"]]
      failures := [{ stage := .rows, place := .row 1, fault := .eval .badCount }] } := by
  simp only [Backend.output, shownPlan, Backend.workThrough, rows_target, batches_sample]
  rfl

/-- The edit that sets the formatter takes place, although the formatter fails on one of the two rows,
and a run with the usual options reports the row. -/
theorem failure_after_showing :
    sampleTable.edit sampleStore showing = (.ok (), shownTable) ∧
      (sampleSource.rows sampleStore).items = [[.text "a", .text "1"], [.text "b", .text "2"]] ∧
      shownTable.plan {} true = .ok shownPlan ∧
      ((Backend.ofOptions {}).execute shownPlan targetSink sampleStore).1 =
        .ok { output := "o.csv", rowsWritten := 1,
              failures := [{ stage := .rows, place := .row 1, fault := .eval .badCount }] } := by
  refine ⟨edit_showing, by rw [rows_sample], plan_shown, ?_⟩
  have hwrites : Sink.Writes shownPlan.names [[.text "a", .text "1"]] targetOpened :=
    Option.isNone_iff_eq_none.1 (by decide +kernel)
  rw [Backend.execute_eq opened_target, output_shown,
    Sink.fill_of_writes hwrites List.prefix_rfl]
  rfl

/-- Nothing else is reported than what the formatter does not take. -/
theorem failures_after_edits_showing :
    (sampleTable.after [(sampleStore, showing)]).formatFailures sampleStore =
        [{ stage := .rows, place := .row 1, fault := .eval .badCount }] ∧
      ∃ p, (sampleTable.after [(sampleStore, showing)]).plan {} true = .ok p ∧
        ((Backend.ofOptions {}).output targetOpened.1 p).failures =
          [{ stage := .rows, place := .row 1, fault := .eval .badCount }] := by
  have hafter : sampleTable.after [(sampleStore, showing)] = shownTable := by
    rw [Table.after, edit_showing]
    rfl
  have hlist : shownTable.formatFailures sampleStore =
      [{ stage := .rows, place := .row 1, fault := .eval .badCount }] := by
    have hrows : shownTable.source.rows sampleStore = _ := rows_sample
    rw [Table.formatFailures, if_neg (by decide), hrows]
    rfl
  have hrows : sampleTable.source.rows sampleStore = _ := rows_sample
  have htaken : sampleTable.taken ([showing].map fun e => (sampleStore, e)) ≠ [] := by
    simp [Table.taken, edit_showing]
  obtain ⟨-, hrun⟩ := Table.failures_after_edits (b := Backend.ofOptions {}) ofArgs_sample [showing]
    htaken (by rw [hrows]) opened_target rows_target (by decide) (by decide) (.inl rfl) rfl
    (fun hgrouped => by
      rw [List.map_singleton, hafter] at hgrouped
      cases hgrouped)
  rw [List.map_singleton, hafter] at hrun
  rw [hafter]
  obtain ⟨p, hp, -, -, hsame, -⟩ := hrun (by rw [hrows]; decide)
  exact ⟨hlist, p, hp, (hsame rfl).trans hlist⟩

end TablePipeline
