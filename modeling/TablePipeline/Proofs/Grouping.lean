import Mathlib
import TablePipeline.Proofs.Buckets
import TablePipeline.Proofs.GroupColumns
import TablePipeline.Proofs.Scheduling
import TablePipeline.Proofs.SourceText

/-!
Groups, whatever the buckets. Setting records apart by the hash of their keys divides no group, and
keeps the records of a group in their order; so a run of which nothing fails puts out one row for
every distinct key, made of the rows with that key. Where all rows make one group it puts out one
row, also for no rows at all.
-/
namespace TablePipeline

namespace Groups

/-- Whether a record has the key of another one once both have been put aside. -/
def sameAside (r there : GroupRecord) : Bool := Key.equal there.putAside.key r.putAside.key

/-- The group of a record among all records, as they are read back. -/
def groupOf (places : List ℕ) (records : List GroupRecord) (r : GroupRecord) :
    Key × List (List Value) :=
  (r.putAside.key, columnsOf places (having r.putAside.key (records.map GroupRecord.putAside)))

theorem ofRecords_putAside (places : List ℕ) (records : List GroupRecord) :
    ofRecords places (records.map GroupRecord.putAside) =
      (records.eraseDupsBy sameAside).map (groupOf places records) := by
  have hfirsts : Key.distinct ((records.map GroupRecord.putAside).map fun r => r.key) =
      (records.eraseDupsBy sameAside).map fun r => r.putAside.key := by
    rw [List.map_map]
    exact eraseDupsBy_map _ records
  rw [ofRecords, hfirsts, List.map_map]
  rfl

theorem having_putAside {members : List GroupRecord} (h : ∀ m ∈ members, m.putAside.key = m.key)
    (key : Key) :
    having key (members.map GroupRecord.putAside) =
      (having key members).map GroupRecord.putAside := by
  rw [having, having, List.filter_map]
  congr 1
  apply List.filter_congr
  intro m hm
  rw [Function.comp_apply, h m hm]

variable {p : Partitioning} {records : List GroupRecord}

/-- Records with the same key once they are read back have been in one bucket. -/
theorem numberOf_eq_of_sameAside (hcheck : ∀ r ∈ records, r.key.check = .ok ())
    (hhash : p.Consistent (records.map fun r => r.key) (records.map fun r => r.key))
    {r s : GroupRecord} (hr : r ∈ records) (hs : s ∈ records) (h : sameAside r s = true) :
    p.numberOf s.key = p.numberOf r.key := by
  have hequal := Key.equal_of_forget (hcheck s hs) h
  rw [Partitioning.numberOf, Partitioning.numberOf,
    hhash s.key (List.mem_map_of_mem hs) r.key (List.mem_map_of_mem hr) hequal]

/-- The groups of a bucket are those of all records whose key lands in it, whole. -/
theorem ofRecords_bucket (hcheck : ∀ r ∈ records, r.key.check = .ok ())
    (hhash : p.Consistent (records.map fun r => r.key) (records.map fun r => r.key))
    (places : List ℕ) (number : ℕ) :
    ofRecords places
        ((records.filter fun r => p.numberOf r.key == number).map GroupRecord.putAside) =
      ((records.eraseDupsBy sameAside).filter fun r => p.numberOf r.key == number).map
        (groupOf places records) := by
  have hfirsts : (records.filter fun r => p.numberOf r.key == number).eraseDupsBy sameAside =
      (records.eraseDupsBy sameAside).filter fun r => p.numberOf r.key == number := by
    apply eraseDupsBy_filter
    intro r hr s hs h
    rw [numberOf_eq_of_sameAside hcheck hhash hr hs h]
  rw [ofRecords_putAside, hfirsts]
  apply List.map_congr_left
  intro r hr
  obtain ⟨hr, hnumber⟩ := List.mem_filter.1 hr
  have hwhole : having r.putAside.key
        ((records.filter fun r => p.numberOf r.key == number).map GroupRecord.putAside) =
      having r.putAside.key (records.map GroupRecord.putAside) := by
    rw [having, having, List.filter_map, List.filter_map, List.filter_filter]
    congr 1
    apply List.filter_congr
    intro s hs
    by_cases h : sameAside s r = true
    · have hsame := numberOf_eq_of_sameAside hcheck hhash hs (mem_of_mem_eraseDupsBy hr) h
      simp only [beq_iff_eq] at hnumber
      simp [← hsame, hnumber]
    · have hno : Key.equal r.putAside.key s.putAside.key = false := by simpa [sameAside] using h
      simp [hno]
  rw [groupOf, groupOf, hwhole]

/-- The groups of all buckets, one bucket after the other. -/
theorem ofRecords_buckets (hcheck : ∀ r ∈ records, r.key.check = .ok () ∧ 0 < p.count)
    (hhash : p.Consistent (records.map fun r => r.key) (records.map fun r => r.key))
    (places : List ℕ) :
    ((List.range p.count).flatMap fun number => ofRecords places
        ((records.filter fun r => p.numberOf r.key == number).map GroupRecord.putAside)).Perm
      (ofRecords places (records.map GroupRecord.putAside)) ∧
    (p.count = 1 →
      ((List.range p.count).flatMap fun number => ofRecords places
        ((records.filter fun r => p.numberOf r.key == number).map GroupRecord.putAside)) =
      ofRecords places (records.map GroupRecord.putAside)) := by
  constructor
  · have hplaced : ∀ r ∈ records.eraseDupsBy sameAside, p.numberOf r.key < p.count :=
      fun r hr => Partitioning.numberOf_lt (hcheck r (mem_of_mem_eraseDupsBy hr)).2 r.key
    rw [ofRecords_putAside, List.flatMap_congr fun number _ =>
      ofRecords_bucket (fun r hr => (hcheck r hr).1) hhash places number, ← List.map_flatMap]
    exact (Buckets.flatMap_buckets_perm hplaced).map _
  · intro hone
    have hall : (records.filter fun r => p.numberOf r.key == 0) = records :=
      List.filter_eq_self.2 fun r _ => by simp [Partitioning.numberOf, hone, Nat.mod_one]
    simp [hone, hall]

/-- Where all rows make one group, there is one with all of them, also if there are none. -/
theorem finished_of_whole {p : GroupPlan} (hwhole : p.isWhole = true) {records : List GroupRecord}
    (hkeys : ∀ r ∈ records, r.key = []) :
    (ofRecords (p.aggregates.map (·.2)) records).finished p =
      [([], columnsOf (p.aggregates.map (·.2)) records)] := by
  cases records with
  | nil => simp [ofRecords, Key.distinct, finished, hwhole, columnsOf, Function.comp_def]
  | cons r records =>
    have hhaving : having [] (r :: records) = r :: records :=
      List.filter_eq_self.2 fun s hs => by rw [hkeys s hs]; rfl
    have hone : Key.distinct ((r :: records).map fun s => s.key) = [[]] := by
      have hnone : ((records.map fun s => s.key).filter fun k => Key.equal [] k = false) = [] := by
        rw [List.filter_eq_nil_iff]
        intro k hk
        obtain ⟨s, hs, rfl⟩ := List.mem_map.1 hk
        rw [hkeys s (by simp [hs])]
        decide
      rw [List.map_cons, hkeys r (by simp), Key.distinct, List.eraseDupsBy_cons, hnone]
      rfl
    rw [ofRecords, hone, List.map_singleton, hhaving]
    simp [finished]

end Groups

namespace Table

/-- The keys of the groups, in the order in which they are first seen; without group keys there is
one group. -/
def groupKeys (t : Table) (store : Store) : List Key :=
  if t.rules.isGrouped then Key.distinct ((t.members store).items.map fun m => m.key) else [[]]

/-- The rows of a group as its aggregates get them: in a table with keys they have been put aside and
read back. -/
def gathered (t : Table) (store : Store) (key : Key) : List GroupRecord :=
  let members := Groups.having key (t.members store).items
  if t.rules.isGrouped then members.map GroupRecord.putAside else members

end Table

/-- The rows of groups that can be finished. -/
def GroupPlan.rowsOf (p : GroupPlan) (groups : Groups) : List Row :=
  groups.flatMap fun group => made (do .ok [← p.finish group.1 group.2] : Except Fault (List Row))

/-- Groups that can all be finished have one row each. -/
theorem GroupPlan.map_rowsOf {p : GroupPlan} {groups : Groups}
    (h : ∀ group ∈ groups, ∃ row, p.finish group.1 group.2 = .ok row) :
    (p.rowsOf groups).map .ok = groups.map fun group => p.finish group.1 group.2 := by
  rw [rowsOf, List.map_flatMap, List.map_eq_flatMap]
  refine List.flatMap_congr fun group hgroup => ?_
  obtain ⟨row, hrow⟩ := h group hgroup
  rw [hrow]
  rfl

namespace Backend

variable {b : Backend} {p : GroupPlan}

theorem finishGroups_of_ok {groups : Groups}
    (h : ∀ group ∈ groups.finished p, ∃ row, p.finish group.1 group.2 = .ok row) :
    b.finishGroups p groups = { items := p.rowsOf (groups.finished p) } := by
  refine eachOf_of_ok fun group hgroup => ?_
  obtain ⟨row, hrow⟩ := h group hgroup
  exact ⟨[row], by simp only [hrow, ok_bind]⟩

/-- Clean groups have been finished one by one. -/
theorem finishGroups_clean {groups : Groups} (h : (b.finishGroups p groups).Clean) :
    (b.finishGroups p groups).items.map .ok =
      (groups.finished p).map fun group => p.finish group.1 group.2 := by
  have hok : ∀ group ∈ groups.finished p, ∃ row, p.finish group.1 group.2 = .ok row := by
    intro group hgroup
    obtain ⟨rows, hrows⟩ := ok_of_eachOf_clean h group hgroup
    obtain ⟨row, hrow, -⟩ := bind_eq_ok.1 hrows
    exact ⟨row, hrow⟩
  rw [finishGroups_of_ok hok, GroupPlan.map_rowsOf hok]

/-- Clean groups of one set of records are the finished groups by distinct keys. -/
theorem groupRecords_clean {records : List GroupRecord}
    (hnan : ∀ r ∈ records, r.key.hasNaN = false) (h : (b.groupRecords p records).Clean) :
    (b.groupRecords p records).items.map .ok =
      ((Groups.ofRecords (p.aggregates.map (·.2)) records).finished p).map fun group =>
        p.finish group.1 group.2 := by
  cases hcollect : Groups.collect p records with
  | error fault => simp [groupRecords, hcollect, Outcome.failed, Outcome.Clean] at h
  | ok groups =>
    obtain ⟨-, rfl⟩ := Groups.collect_eq_ok hnan hcollect
    simp only [groupRecords, hcollect] at h ⊢
    exact finishGroups_clean h

/-- Without keys, a clean group stage finishes one group of all records. -/
theorem groupAll_of_whole {records : Outcome GroupRecord} (hwhole : p.isWhole = true)
    (hkeys : ∀ r ∈ records.items, r.key = []) (h : (b.groupAll p records).Clean) :
    (b.groupAll p records).items.map .ok =
      [p.finish [] (Groups.columnsOf (p.aggregates.map (·.2)) records.items)] := by
  cases hfault : records.fault with
  | some fault => simp [groupAll, hwhole, hfault, Outcome.failed, Outcome.Clean] at h
  | none =>
    simp only [groupAll, hwhole, hfault, if_true, Outcome.Clean, List.append_eq_nil_iff] at h ⊢
    rw [groupRecords_clean (fun r hr => by rw [hkeys r hr]; rfl) ⟨h.1, h.2.2⟩,
      Groups.finished_of_whole hwhole hkeys]
    rfl

/-- With keys, a clean group stage finishes one group for every distinct key; with one bucket, in the
order in which they are first seen. -/
theorem groupAll_of_keyed {records : Outcome GroupRecord} (hkeyed : p.isWhole = false)
    (hnan : ∀ r ∈ records.items, r.key.hasNaN = false)
    (hhash : b.partitioning.Consistent (records.items.map fun r => r.key)
      (records.items.map fun r => r.key))
    (h : (b.groupAll p records).Clean) :
    let groups := Groups.ofRecords (p.aggregates.map (·.2)) (records.items.map GroupRecord.putAside)
    (∀ r ∈ records.items, r.key.check = .ok ()) ∧
      ((b.groupAll p records).items.map .ok).Perm
        (groups.map fun group => p.finish group.1 group.2) ∧
      (b.partitioning.count = 1 → (b.groupAll p records).items.map .ok =
        groups.map fun group => p.finish group.1 group.2) := by
  intro groups
  cases hspill : b.spill (·.key) GroupRecord.putAside records with
  | error fault => simp [groupAll, hkeyed, hspill, Outcome.failed, Outcome.Clean] at h
  | ok buckets =>
    obtain ⟨-, hbuckets⟩ := spill_eq_ok_iff.1 hspill
    obtain ⟨-, hcheck, rfl⟩ := Buckets.ofRecords_eq_ok_iff.1 hbuckets
    simp only [groupAll, hkeyed, hspill, Bool.false_eq_true, if_false, Outcome.Clean,
      List.append_eq_nil_iff, Buckets.bucket_map] at h ⊢
    obtain ⟨hclean, hitems⟩ := Outcome.concat_clean ⟨h.1, h.2.2⟩
    have heach : ∀ number ∈ b.bucketNumbers,
        (b.groupRecords p ((records.items.filter fun r =>
          b.partitioning.numberOf r.key == number).map GroupRecord.putAside)).items.map .ok =
        (Groups.ofRecords (p.aggregates.map (·.2)) ((records.items.filter fun r =>
          b.partitioning.numberOf r.key == number).map GroupRecord.putAside)).map fun group =>
            p.finish group.1 group.2 := by
      intro number hnumber
      rw [groupRecords_clean _ (hclean _ (List.mem_map_of_mem hnumber)), Groups.finished, hkeyed]
      · rfl
      · intro r hr
        obtain ⟨s, hs, rfl⟩ := List.mem_map.1 hr
        exact (Key.hasNaN_forget true s.key).trans (hnan s (List.mem_of_mem_filter hs))
    have hall := Groups.ofRecords_buckets hcheck hhash (p.aggregates.map (·.2))
    rw [hitems, List.flatMap_map, List.map_flatMap, List.flatMap_congr heach, ← List.map_flatMap]
    exact ⟨fun r hr => (hcheck r hr).1, hall.1.map _, fun hone => congrArg _ (hall.2 hone)⟩

theorem records_clean_of_groupAll {records : Outcome GroupRecord}
    (h : (b.groupAll p records).Clean) : records.Clean := by
  refine ⟨?_, (List.append_eq_nil_iff.1 h.2).1⟩
  by_contra hfault
  obtain ⟨fault, hfault⟩ := Option.ne_none_iff_exists'.1 hfault
  have hended := h.1
  cases hwhole : p.isWhole with
  | true => simp [groupAll, hwhole, hfault, Outcome.failed] at hended
  | false =>
    cases hspill : b.spill (·.key) GroupRecord.putAside records with
    | error fault => simp [groupAll, hwhole, hspill, Outcome.failed] at hended
    | ok buckets => simp [(spill_eq_ok_iff.1 hspill).1] at hfault

/-- The finished groups of cut records, by distinct keys. -/
theorem finish_ofRecords_cut (p : GroupPlan) (members : List GroupRecord) :
    (Groups.ofRecords (p.aggregates.map (·.2)) (members.map p.cut)).map
        (fun group => p.finish group.1 group.2) =
      (Key.distinct (members.map fun m => m.key)).map fun key => p.finish key
        (Groups.columnsOf (p.aggregates.map (·.2)) ((Groups.having key members).map p.cut)) := by
  have hkeys : (members.map p.cut).map (fun m => m.key) = members.map fun m => m.key := by
    rw [List.map_map]
    rfl
  rw [Groups.ofRecords, hkeys, List.map_map]
  apply List.map_congr_left
  intro key _
  rw [Function.comp_apply, GroupPlan.having_cut]

section Rows

variable {t : Table} {select : Option (List Value)} {formatted : Bool} {positions : List ℕ}
  {members : List GroupRecord} {records : Outcome GroupRecord}

/-- The one row of a table without group keys. -/
theorem groupAll_whole_row (hp : p.Picks t formatted positions)
    (hpositions : t.groupPositions select = .ok positions) (hwhole : t.rules.isGrouped = false)
    (hrecords : records.items = members.map p.cut)
    (hmembers : ∀ m ∈ members, p.Spans m.carried ∧ m.key.length = t.rules.keys.length)
    (h : (b.groupAll p records).Clean) :
    ∃ row, (b.groupAll p records).items = [row] ∧
      t.groupRow select formatted [] members = .ok row := by
  have hkeys : t.rules.keys = [] := by simpa [RowRules.isGrouped] using hwhole
  have hnone : ∀ r ∈ records.items, r.key = [] := by
    intro r hr
    rw [hrecords] at hr
    obtain ⟨m, hm, rfl⟩ := List.mem_map.1 hr
    exact List.length_eq_zero_iff.1 (by simpa [hkeys] using (hmembers m hm).2)
  have hitems := groupAll_of_whole (by simp [GroupPlan.isWhole, hp.keys, hkeys]) hnone h
  rw [hrecords] at hitems
  obtain ⟨row, hrow, hok⟩ := List.map_eq_singleton_iff.1 hitems
  exact ⟨row, hrow, GroupPlan.groupRow_of_finish hp hpositions (by simp [hkeys])
    (fun m hm => (hmembers m hm).1) hok.symm⟩

/-- The rows of a table with group keys. -/
theorem groupAll_keyed_rows (hp : p.Picks t formatted positions)
    (hpositions : t.groupPositions select = .ok positions) (hkeyed : t.rules.isGrouped = true)
    (hrecords : records.items = members.map p.cut)
    (hmembers : ∀ m ∈ members, p.Spans m.carried ∧ m.key.length = t.rules.keys.length)
    (hhash : b.partitioning.Consistent (members.map fun m => m.key) (members.map fun m => m.key))
    (hnan : ∀ m ∈ members, m.key.hasNaN = false) (h : (b.groupAll p records).Clean) :
    let keys := Key.distinct (members.map fun m => m.key)
    (keys.flatMap fun key => Groups.having key members).Perm members ∧
      ((b.groupAll p records).items.map .ok).Perm (keys.map fun key =>
        t.groupRow select formatted key ((Groups.having key members).map GroupRecord.putAside)) ∧
      (b.partitioning.count = 1 → (b.groupAll p records).items.map .ok = keys.map fun key =>
        t.groupRow select formatted key ((Groups.having key members).map GroupRecord.putAside)) := by
  intro keys
  have hsame : records.items.map (fun r => r.key) = members.map fun m => m.key := by
    rw [hrecords, List.map_map]
    rfl
  have hnan' : ∀ r ∈ records.items, r.key.hasNaN = false := by
    intro r hr
    rw [hrecords] at hr
    obtain ⟨m, hm, rfl⟩ := List.mem_map.1 hr
    exact hnan m hm
  obtain ⟨hchecked, hperm, hone⟩ := groupAll_of_keyed
    (by simpa [GroupPlan.isWhole, hp.keys, RowRules.isGrouped] using hkeyed) hnan'
    (by rwa [hsame]) h
  have hcheck : ∀ m ∈ members, m.key.check = .ok () :=
    fun m hm => hchecked (p.cut m) (hrecords ▸ List.mem_map_of_mem hm)
  have hread : records.items.map GroupRecord.putAside =
      (members.map GroupRecord.putAside).map p.cut := by
    rw [hrecords, List.map_map, List.map_map]
    exact List.map_congr_left fun m _ => p.putAside_cut m
  have hkept : ∀ m ∈ members, m.putAside.key = m.key :=
    fun m hm => Key.forget_of_hasNaN true (hcheck m hm) (hnan m hm)
  have hkeys : (members.map GroupRecord.putAside).map (fun m => m.key) =
      members.map fun m => m.key := by
    rw [List.map_map]
    exact List.map_congr_left hkept
  simp only [hread, finish_ofRecords_cut, hkeys, Groups.having_putAside hkept] at hperm hone
  have hrows : ∀ key ∈ keys, p.finish key (Groups.columnsOf (p.aggregates.map (·.2))
      (((Groups.having key members).map GroupRecord.putAside).map p.cut)) =
        t.groupRow select formatted key ((Groups.having key members).map GroupRecord.putAside) := by
    intro key hkey
    obtain ⟨row, -, hrow⟩ := List.mem_map.1 (hperm.mem_iff.2 (List.mem_map_of_mem hkey))
    obtain ⟨m, hm, rfl⟩ := List.mem_map.1 (Key.mem_of_mem_distinct hkey)
    rw [← hrow]
    refine (GroupPlan.groupRow_of_finish hp hpositions (hmembers m hm).2 (fun n hn => ?_)
      hrow.symm).symm
    obtain ⟨s, hs, rfl⟩ := List.mem_map.1 hn
    exact GroupPlan.spans_putAside (hmembers s (List.mem_of_mem_filter hs)).1
  rw [List.map_congr_left hrows] at hperm hone
  exact ⟨Groups.having_distinct_perm hcheck
    (fun m hm => Key.equal_refl (hcheck m hm) (hnan m hm)), hperm, hone⟩

end Rows

end Backend

/-! ### Rows counted by the first column -/

/-- The rows of the file, counted for every value of the first column. -/
def countedTable : Table :=
  { sampleTable with rules := {
      keys := [{ slot := 0 }]
      aggregates := [{ func := .aggregate "agg_count" Aggregate.count, source := 1,
                       name := .text "count_v" }] } }

def countedPlan : Plan where
  names := [.text "k", .text "count_v"]
  options := {}
  batchSize := 1
  work := .groups sampleSource (RowTransform.ofTable sampleTable.catalog {} false) {
    index := [0, 1]
    keys := [(0, none)]
    aggregates := [(.aggregate "agg_count" Aggregate.count, 1)]
    writeIndex := [0, 1]
    names := [.text "k", .text "count_v"]
    formatters := [] }

theorem groupWork_counted :
    countedTable.groupWork none false = .ok (countedPlan.names, countedPlan.work) := by
  cbv

theorem members_counted : countedTable.members sampleStore =
    ⟨[{ key := [.text "a"], carried := [.text "a", .text "1"] },
      { key := [.text "b"], carried := [.text "b", .text "2"] }], none⟩ := by
  have hrows : countedTable.source.rows sampleStore = _ := rows_sample
  rw [Table.members, hrows]
  rfl

theorem output_counted : twoBuckets.output sampleStore countedPlan =
    { items := [[.text "a", .int 1], [.text "b", .int 1]] } := by
  simp only [Backend.output, countedPlan, Backend.workThrough, batches_sample]
  rfl

end TablePipeline
