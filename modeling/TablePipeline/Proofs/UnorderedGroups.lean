import Mathlib
import TablePipeline.Proofs.GroupSelection
import TablePipeline.Proofs.IntegerAggregates

/-!
Groups in any order. Workers that hand out batches as they are finished put the records of a run
into another order, and with it the members of every group and the groups themselves; how many
buckets there are changes only which groups are finished together. If the aggregates ask only which
values there are, and equal keys are the same, the rows that come out are the same, up to their
order.
-/
namespace TablePipeline

namespace Groups

variable {records records' : List GroupRecord}

/-- Equal keys are the same. -/
def KeysAgree (records : List GroupRecord) : Prop :=
  ∀ r ∈ records, ∀ s ∈ records, Key.equal r.key s.key = true → r.key = s.key

/-! ### Dividing records in any order -/

/-- Records of a key that differs from another one are all among those that do not have that one. -/
theorem having_without {key there : Key} (hthere : there.check = .ok ()) (hkey : key.check = .ok ())
    (hdiffer : Key.equal key there = false) :
    having there (without key records) = having there records := by
  rw [having, without, List.filter_filter, having]
  refine List.filter_congr fun r hr => ?_
  cases hsame : Key.equal there r.key with
  | false => rfl
  | true =>
    have hno : Key.equal key r.key = false := by
      rw [Bool.eq_false_iff]
      intro hequal
      have hback := Key.equal_trans hkey hequal (Key.equal_symm hthere hsame)
      rw [hdiffer] at hback
      cases hback
    rw [hno]
    rfl

theorem without_comm (key there : Key) (records : List GroupRecord) :
    without key (without there records) = without there (without key records) := by
  rw [without, without, without, without, List.filter_filter, List.filter_filter]
  exact List.filter_congr fun r _ => Bool.and_comm ..

theorem having_cons (key : Key) (r : GroupRecord) (rest : List GroupRecord) :
    having key (r :: rest) =
      if Key.equal key r.key then r :: having key rest else having key rest :=
  List.filter_cons

theorem without_cons (key : Key) (r : GroupRecord) (rest : List GroupRecord) :
    without key (r :: rest) =
      if Key.equal key r.key then without key rest else r :: without key rest := by
  rw [without, List.filter_cons, ← without]
  cases Key.equal key r.key <;> rfl

theorem divided_cons (r : GroupRecord) (rest : List GroupRecord) :
    divided (r :: rest) = (r.key, r :: having r.key rest) :: divided (without r.key rest) := by
  rw [divided]

variable {β : Type} {f : Key × List GroupRecord → β}

/-- What is made of a group of records does not depend on the order of its members. -/
def OrderFree (f : Key × List GroupRecord → β) (records : List GroupRecord) : Prop :=
  ∀ key members members', (∀ m ∈ members, m ∈ records) → members.Perm members' →
    f (key, members) = f (key, members')

theorem KeysAgree.of_subset (h : KeysAgree records) (hsub : ∀ r ∈ records', r ∈ records) :
    KeysAgree records' := fun r hr s hs => h r (hsub r hr) s (hsub s hs)

theorem OrderFree.of_subset (h : OrderFree f records) (hsub : ∀ r ∈ records', r ∈ records) :
    OrderFree f records' :=
  fun key members members' hmembers => h key members members' fun m hm => hsub m (hmembers m hm)

/-- Two records that come first can be taken in either order. -/
theorem divided_swap {r s : GroupRecord} {rest : List GroupRecord}
    (hcheck : ∀ m ∈ r :: s :: rest, m.key.check = .ok ()) (hagree : KeysAgree (r :: s :: rest))
    (hf : OrderFree f (r :: s :: rest)) :
    ((divided (r :: s :: rest)).map f).Perm ((divided (s :: r :: rest)).map f) := by
  have hr := hcheck r (by simp)
  have hs := hcheck s (by simp)
  cases hequal : Key.equal r.key s.key with
  | true =>
    -- Both are in the first group, which is seen under the same key either way.
    have hback := Key.equal_symm hr hequal
    have hsame : r.key = s.key := hagree r (by simp) s (by simp) hequal
    have hgroup : f (s.key, r :: s :: having s.key rest) =
        f (s.key, s :: r :: having s.key rest) := by
      refine hf _ _ _ ?_ (.swap s r _)
      simp only [List.mem_cons, forall_eq_or_imp, true_or, or_true, true_and]
      exact fun m hm => .inr (.inr (List.mem_of_mem_filter hm))
    simp only [divided_cons, having_cons, without_cons, hequal, hback, if_true, List.map_cons]
    rw [hsame, hgroup]
  | false =>
    -- Neither takes a record from the group of the other one.
    have hback : Key.equal s.key r.key = false := by
      rw [Bool.eq_false_iff]
      intro h
      rw [Key.equal_symm hs h] at hequal
      cases hequal
    simp only [divided_cons, having_cons, without_cons, hequal, hback, Bool.false_eq_true, if_false,
      having_without hs hr hequal, having_without hr hs hback, List.map_cons]
    rw [without_comm]
    exact .swap _ _ _

/-- What does not depend on the order of the members is made of the same groups in any order of the
records. The induction is on the steps of the permutation, for any part of the records: the first
record takes its group with it, and what is left is such a part. -/
theorem divided_filter_perm (hperm : records.Perm records')
    (hcheck : ∀ r ∈ records, r.key.check = .ok ()) (hagree : KeysAgree records)
    (hf : OrderFree f records) (q : GroupRecord → Bool) :
    ((divided (records.filter q)).map f).Perm ((divided (records'.filter q)).map f) := by
  induction hperm generalizing q with
  | nil => exact .refl _
  | @cons r rest rest' hrest ih =>
    have hsub : ∀ m ∈ rest, m ∈ r :: rest := fun m hm => List.mem_cons_of_mem r hm
    have hpart := ih (fun m hm => hcheck m (hsub m hm)) (hagree.of_subset hsub) (hf.of_subset hsub)
    by_cases hq : q r = true
    · have hgroup : f (r.key, r :: having r.key (rest.filter q)) =
          f (r.key, r :: having r.key (rest'.filter q)) := by
        refine hf _ _ _ (fun m hm => ?_) (((hrest.filter q).filter _).cons r)
        rcases List.mem_cons.1 hm with rfl | hm
        · exact List.mem_cons_self
        · exact hsub m (List.mem_of_mem_filter (List.mem_of_mem_filter hm))
      rw [List.filter_cons_of_pos hq, List.filter_cons_of_pos hq, divided_cons, divided_cons,
        List.map_cons, List.map_cons, hgroup, without, without, List.filter_filter,
        List.filter_filter]
      exact (hpart _).cons _
    · rw [List.filter_cons_of_neg hq, List.filter_cons_of_neg hq]
      exact hpart q
  | swap r s rest =>
    have hsub : ∀ m ∈ s :: r :: rest.filter q, m ∈ s :: r :: rest := by
      simp only [List.mem_cons, List.mem_filter]
      tauto
    by_cases hr : q r = true <;> by_cases hs : q s = true <;>
      simp only [List.filter_cons, hr, hs, Bool.false_eq_true, if_true, if_false]
    · exact divided_swap (fun m hm => hcheck m (hsub m hm)) (hagree.of_subset hsub)
        (hf.of_subset hsub)
    all_goals exact .refl _
  | @trans start between _ hfirst hsecond ih ih' =>
    have hsub : ∀ r ∈ between, r ∈ start := fun r hr => hfirst.mem_iff.2 hr
    exact (ih hcheck hagree hf q).trans
      (ih' (fun r hr => hcheck r (hsub r hr)) (hagree.of_subset hsub) (hf.of_subset hsub) q)

theorem divided_perm (hperm : records.Perm records')
    (hcheck : ∀ r ∈ records, r.key.check = .ok ()) (hagree : KeysAgree records)
    (hf : OrderFree f records) : ((divided records).map f).Perm ((divided records').map f) := by
  simpa using divided_filter_perm hperm hcheck hagree hf fun _ => true

/-! ### Dividing records set by set -/

/-- No record has the key of one of the others. -/
def Apart (records records' : List GroupRecord) : Prop :=
  ∀ r ∈ records, ∀ s ∈ records', Key.equal r.key s.key = false

theorem divided_append (h : Apart records records') :
    divided (records ++ records') = divided records ++ divided records' := by
  induction records using divided.induct with
  | case1 => rw [divided, List.nil_append, List.nil_append]
  | case2 r rest ih =>
    have hnone := h r List.mem_cons_self
    have hhaving : having r.key (rest ++ records') = having r.key rest := by
      have hno : having r.key records' = [] :=
        List.filter_eq_nil_iff.2 fun s hs => by simp [hnone s hs]
      rw [having, List.filter_append, ← having, ← having, hno, List.append_nil]
    have hwithout : without r.key (rest ++ records') = without r.key rest ++ records' := by
      have hall : without r.key records' = records' :=
        List.filter_eq_self.2 fun s hs => by simp [hnone s hs]
      rw [without, List.filter_append, ← without, ← without, hall]
    rw [List.cons_append, divided_cons, divided_cons, hhaving, hwithout, List.cons_append,
      ih fun s hs => h s (List.mem_cons_of_mem r (List.mem_of_mem_filter hs))]

theorem divided_flatten {sets : List (List GroupRecord)} (h : sets.Pairwise Apart) :
    divided sets.flatten = sets.flatMap divided := by
  induction sets with
  | nil => rw [List.flatten_nil, divided, List.flatMap_nil]
  | cons set sets ih =>
    obtain ⟨hset, hsets⟩ := List.pairwise_cons.1 h
    have hapart : Apart set sets.flatten := by
      intro r hr s hs
      obtain ⟨there, hthere, hs⟩ := List.mem_flatten.1 hs
      exact hset there hthere r hr s hs
    rw [List.flatten_cons, divided_append hapart, ih hsets, List.flatMap_cons]

end Groups

/-! ### Finished groups -/

/-- The groups of records with the columns that the aggregates of a plan need. -/
def Groups.collected (p : GroupPlan) (records : List GroupRecord) : Groups :=
  (divided records).map fun group => (group.1, columnsOf (p.aggregates.map (·.2)) group.2)

namespace GroupPlan

variable {p : GroupPlan} {records records' : List GroupRecord}

/-- What becomes of the groups of records as they are finished. -/
def finishedRows (p : GroupPlan) (records : List GroupRecord) : List (Except Fault Row) :=
  ((Groups.collected p records).finished p).map fun group => p.finish group.1 group.2

/-- Records as groups get them: what has been set apart is read back. -/
def received (p : GroupPlan) (records : List GroupRecord) : List GroupRecord :=
  if p.isWhole then records else records.map GroupRecord.putAside

/-- Nothing that a plan makes of records depends on their order: its aggregates ask only which
values there are, all of these are integers or missing, and equal keys are the same. -/
structure Orderless (p : GroupPlan) (records : List GroupRecord) : Prop where
  funcs : ∀ a ∈ p.aggregates, ∃ name ∈ Aggregate.orderless, Aggregate.byName? name = some a.1
  values : ∀ r ∈ records, ∀ a ∈ p.aggregates, Aggregate.IsIntegral (r.carried.getD a.2 .null)
  keys : Groups.KeysAgree records

theorem Orderless.perm (h : p.Orderless records) (hperm : records.Perm records') :
    p.Orderless records' where
  funcs := h.funcs
  values r hr := h.values r (hperm.mem_iff.2 hr)
  keys := h.keys.of_subset fun _ hr => hperm.mem_iff.2 hr

/-- Reading back changes neither integers nor which keys are the same. -/
theorem Orderless.received (h : p.Orderless records)
    (hcheck : ∀ r ∈ records, r.key.check = .ok ()) : p.Orderless (p.received records) := by
  unfold GroupPlan.received
  split_ifs
  · exact h
  · refine ⟨h.funcs, fun r hr a ha => ?_, fun r hr s hs hequal => ?_⟩
    · obtain ⟨m, hm, rfl⟩ := List.mem_map.1 hr
      rw [GroupRecord.putAside, Datum.getD_forgetItems]
      rcases h.values m hm a ha with hv | ⟨i, hv⟩ <;> rw [hv]
      · exact .inl rfl
      · exact .inr ⟨i, rfl⟩
    · obtain ⟨m, hm, rfl⟩ := List.mem_map.1 hr
      obtain ⟨n, hn, rfl⟩ := List.mem_map.1 hs
      have hsame := h.keys m hm n hn (Key.equal_of_forget (hcheck m hm) hequal)
      exact congrArg (Datum.forgetItems true) hsame

theorem check_received (hcheck : ∀ r ∈ records, r.key.check = .ok ()) :
    ∀ r ∈ p.received records, r.key.check = .ok () := by
  unfold received
  split_ifs
  · exact hcheck
  · exact List.forall_mem_map.2 fun r hr => (Key.check_forget true r.key).trans (hcheck r hr)

theorem collectable_received_iff :
    Groups.Collectable p (p.received records) ↔ Groups.Collectable p records := by
  have hcheck : ∀ r : GroupRecord, r.putAside.key.check = r.key.check :=
    fun r => Key.check_forget true r.key
  have hlength : ∀ r : GroupRecord, r.putAside.carried.length = r.carried.length := fun r => by
    simp [GroupRecord.putAside, Datum.forgetItems_eq_map]
  unfold received
  split_ifs
  · rfl
  · simp only [Groups.Collectable, List.forall_mem_map, hcheck, hlength]

/-- A group is finished as the same row whatever the order of its members. -/
theorem finish_perm (h : p.Orderless records) {key : Key} {members members' : List GroupRecord}
    (hsub : ∀ m ∈ members, m ∈ records) (hperm : members.Perm members') :
    p.finish key (Groups.columnsOf (p.aggregates.map (·.2)) members) =
      p.finish key (Groups.columnsOf (p.aggregates.map (·.2)) members') := by
  have hzip : ∀ ms : List GroupRecord,
      p.aggregates.zip (Groups.columnsOf (p.aggregates.map (·.2)) ms) =
        p.aggregates.map fun a => (a, ms.map fun r => r.carried.getD a.2 .null) := by
    intro ms
    rw [Groups.columnsOf, List.map_map]
    nth_rewrite 1 [← List.map_id p.aggregates]
    exact List.zip_map' ..
  have hresults : ∀ a ∈ p.aggregates,
      a.1.apply [.list (members.map fun r => r.carried.getD a.2 .null)] =
        a.1.apply [.list (members'.map fun r => r.carried.getD a.2 .null)] := by
    intro a ha
    obtain ⟨name, hname, hfunc⟩ := h.funcs a ha
    refine Aggregate.apply_perm hname hfunc (fun v hv => ?_) (hperm.map _)
    obtain ⟨m, hm, rfl⟩ := List.mem_map.1 hv
    exact h.values m (hsub m hm) a ha
  rw [finish, finish, hzip, hzip, mapM_map, mapM_map, mapM_congr hresults]

/-- The groups are those of the records, unless there are neither records nor keys. -/
theorem finishedRows_eq (h : records ≠ [] ∨ p.isWhole = false) :
    p.finishedRows records = (Groups.divided records).map fun group =>
      p.finish group.1 (Groups.columnsOf (p.aggregates.map (·.2)) group.2) := by
  have hsame : (p.isWhole && (Groups.collected p records).isEmpty) = false := by
    rcases h with h | h
    · obtain ⟨r, rest, rfl⟩ := List.exists_cons_of_ne_nil h
      rw [Groups.collected, Groups.divided_cons, List.map_cons, List.isEmpty_cons, Bool.and_false]
    · rw [h, Bool.false_and]
  rw [finishedRows, Groups.finished, hsame, if_neg Bool.false_ne_true, Groups.collected,
    List.map_map]
  rfl

/-- The same rows are made of records in any order, up to their own order. -/
theorem finishedRows_perm (h : p.Orderless records) (hcheck : ∀ r ∈ records, r.key.check = .ok ())
    (hperm : records.Perm records') : (p.finishedRows records).Perm (p.finishedRows records') := by
  -- The one group of no records is not divided from them.
  by_cases hnone : records = []
  · subst hnone
    rw [hperm.nil_eq]
  · have hnone' : records' ≠ [] := fun hnil => hnone (hnil ▸ hperm).eq_nil
    rw [finishedRows_eq (.inl hnone), finishedRows_eq (.inl hnone')]
    exact Groups.divided_perm hperm hcheck h.keys
      fun _ _ _ hsub hmembers => finish_perm h hsub hmembers

theorem finishedRows_flatten (hkeyed : p.isWhole = false) {sets : List (List GroupRecord)}
    (h : sets.Pairwise Groups.Apart) :
    p.finishedRows sets.flatten = sets.flatMap p.finishedRows := by
  rw [finishedRows_eq (.inr hkeyed), Groups.divided_flatten h, List.map_flatMap]
  exact List.flatMap_congr fun set _ => (finishedRows_eq (.inr hkeyed)).symm

end GroupPlan

/-! ### Groups of one set after the other -/

namespace Backend

variable {b : Backend} {p : GroupPlan} {records : List GroupRecord} {rows : List Row}

/-- The sets hold all records. -/
theorem recordSets_flatten_perm (h : p.isWhole = false → ∀ r ∈ records, 0 < b.partitioning.count) :
    (b.recordSets p records).flatten.Perm (p.received records) := by
  unfold recordSets GroupPlan.received
  split_ifs with hwhole
  · rw [List.flatten_singleton]
  · have hplace : ∀ r ∈ records, b.partitioning.numberOf r.key < b.partitioning.count :=
      fun r hr => Partitioning.numberOf_lt (h (by simpa using hwhole) r hr) r.key
    rw [← List.flatMap_def, ← List.map_flatMap]
    exact (Buckets.flatMap_buckets_perm hplace).map _

/-- Equal keys that are the same are hashed to the same bucket, whatever the hash. -/
theorem recordSets_apart (hagree : Groups.KeysAgree records)
    (hcheck : ∀ r ∈ records, r.key.check = .ok ()) :
    (b.recordSets p records).Pairwise Groups.Apart := by
  unfold recordSets
  split_ifs
  · exact List.pairwise_singleton _ _
  · refine List.pairwise_map.2 (List.nodup_range.imp fun {m n} hmn _ hleft _ hright => ?_)
    obtain ⟨r, hr, rfl⟩ := List.mem_map.1 hleft
    obtain ⟨s, hs, rfl⟩ := List.mem_map.1 hright
    obtain ⟨hr, hm⟩ := List.mem_filter.1 hr
    obtain ⟨hs, hn⟩ := List.mem_filter.1 hs
    rw [Bool.eq_false_iff]
    intro hequal
    -- Keys that are equal once they are read back have been equal before, when they were hashed.
    have hsame := hagree r hr s hs (Key.equal_of_forget (hcheck r hr) hequal)
    rw [beq_iff_eq] at hm hn
    exact hmn (by rw [← hm, ← hn, hsame])

/-- Finishing the groups of one set after the other gives the rows of the groups of all records. -/
theorem finishedRows_recordSets (h : p.Orderless records)
    (hcheck : ∀ r ∈ records, r.key.check = .ok ())
    (hcount : p.isWhole = false → ∀ r ∈ records, 0 < b.partitioning.count) :
    ((b.recordSets p records).flatMap p.finishedRows).Perm
      (p.finishedRows (p.received records)) := by
  have hsets := recordSets_flatten_perm hcount
  have hflatten : (b.recordSets p records).flatMap p.finishedRows =
      p.finishedRows (b.recordSets p records).flatten := by
    cases hwhole : p.isWhole with
    | true => simp [recordSets, hwhole]
    | false => exact (GroupPlan.finishedRows_flatten hwhole (recordSets_apart h.keys hcheck)).symm
  rw [hflatten]
  exact (GroupPlan.finishedRows_perm (h.received hcheck) (GroupPlan.check_received hcheck)
    hsets.symm).symm

theorem groupRecords_of_rows (h : Groups.Collectable p records)
    (hrows : p.finishedRows records = rows.map .ok) :
    b.groupRecords p records = { items := rows } := by
  have hcollect : Groups.collect p records = .ok (Groups.collected p records) :=
    Groups.collect_eq_ok_iff.2 ⟨h, rfl⟩
  have hfinish : ∀ group ∈ (Groups.collected p records).finished p,
      ∃ row, p.finish group.1 group.2 = .ok row := by
    intro group hgroup
    have hmem : p.finish group.1 group.2 ∈ p.finishedRows records := List.mem_map_of_mem hgroup
    rw [hrows] at hmem
    obtain ⟨row, -, hrow⟩ := List.mem_map.1 hmem
    exact ⟨row, hrow.symm⟩
  obtain rfl : p.rowsOf ((Groups.collected p records).finished p) = rows :=
    map_ok_injective ((GroupPlan.map_rowsOf hfinish).trans hrows)
  rw [groupRecords, hcollect]
  exact finishGroups_of_ok hfinish

theorem rows_of_groupRecords (h : (b.groupRecords p records).Clean) :
    Groups.Collectable p records ∧
      p.finishedRows records = (b.groupRecords p records).items.map .ok := by
  cases hcollect : Groups.collect p records with
  | error fault => simp [groupRecords, hcollect, Outcome.failed, Outcome.Clean] at h
  | ok groups =>
    obtain ⟨hrecords, rfl⟩ := Groups.collect_eq_ok_iff.1 hcollect
    simp only [groupRecords, hcollect] at h ⊢
    exact ⟨hrecords, (finishGroups_clean h).symm⟩

theorem concat_groupRecords {sets : List (List GroupRecord)}
    (h : ∀ set ∈ sets, Groups.Collectable p set)
    (hrows : sets.flatMap p.finishedRows = rows.map .ok) :
    Outcome.concat (sets.map (b.groupRecords p)) = { items := rows } := by
  induction sets generalizing rows with
  | nil =>
    obtain rfl : rows = [] := by simpa using hrows.symm
    rfl
  | cons set sets ih =>
    rw [List.flatMap_cons] at hrows
    obtain ⟨first, rest, rfl, hfirst, hrest⟩ := List.map_eq_append_iff.1 hrows.symm
    have hset := groupRecords_of_rows (b := b) (h set List.mem_cons_self) hfirst.symm
    have hsets := ih (fun set hset => h set (List.mem_cons_of_mem _ hset)) hrest.symm
    rw [Outcome.concat] at hsets ⊢
    rw [List.map_cons, List.foldr_cons, hset, hsets]
    rfl

theorem groupAll_of_rows
    (hu : p.isWhole = false →
      b.partitioning.fault? = none ∧ ∀ r ∈ records, 0 < b.partitioning.count)
    (h : Groups.Collectable p records)
    (hrows : (b.recordSets p records).flatMap p.finishedRows = rows.map .ok) :
    b.groupAll p { items := records } = { items := rows } := by
  have hspill : p.isWhole = false → b.spill (·.key) GroupRecord.putAside { items := records } =
      .ok (records.map fun r => (b.partitioning.numberOf r.key, r.putAside)) := fun hkeyed =>
    spill_eq_ok_iff.2 ⟨rfl, Buckets.ofRecords_eq_ok_iff.2
      ⟨(hu hkeyed).1, fun r hr => ⟨(h r hr).1, (hu hkeyed).2 r hr⟩, rfl⟩⟩
  have hsets : ∀ set ∈ b.recordSets p records, Groups.Collectable p set :=
    fun _ hset => mem_recordSets h hset
  rw [groupAll_of_spilled rfl hspill, concat_groupRecords hsets hrows]
  rfl

/-- If nothing fails, the records have been set apart as far as they are, and the groups of every
set have been finished. -/
theorem rows_of_groupAll {records : Outcome GroupRecord} (h : (b.groupAll p records).Clean) :
    (p.isWhole = false →
        b.partitioning.fault? = none ∧ ∀ r ∈ records.items, 0 < b.partitioning.count) ∧
      Groups.Collectable p records.items ∧
      (b.recordSets p records.items).flatMap p.finishedRows =
        (b.groupAll p records).items.map .ok := by
  have hrecords := records_clean_of_groupAll h
  have hspilled : p.isWhole = false → ∃ buckets,
      b.spill (·.key) GroupRecord.putAside records = .ok buckets := by
    intro hkeyed
    cases hspill : b.spill (·.key) GroupRecord.putAside records with
    | error fault => simp [groupAll, hkeyed, hspill, Outcome.failed, Outcome.Clean] at h
    | ok buckets => exact ⟨buckets, rfl⟩
  have hu : p.isWhole = false →
      b.partitioning.fault? = none ∧ ∀ r ∈ records.items, 0 < b.partitioning.count := by
    intro hkeyed
    obtain ⟨buckets, hspill⟩ := hspilled hkeyed
    obtain ⟨hfault, hall, -⟩ := Buckets.ofRecords_eq_ok_iff.1 (spill_eq_ok_iff.1 hspill).2
    exact ⟨hfault, fun r hr => (hall r hr).2⟩
  rw [groupAll_of_spilled hrecords.1 fun hkeyed => by
    obtain ⟨buckets, hspill⟩ := hspilled hkeyed
    rw [hspill, (Buckets.ofRecords_eq_ok_iff.1 (spill_eq_ok_iff.1 hspill).2).2.2]] at h ⊢
  obtain ⟨hclean, hitems⟩ := Outcome.concat_clean ⟨h.1, (List.append_eq_nil_iff.1 h.2).2⟩
  have hsets : ∀ set ∈ b.recordSets p records.items, _ :=
    fun _ hset => rows_of_groupRecords (hclean _ (List.mem_map_of_mem hset))
  refine ⟨hu, GroupPlan.collectable_received_iff.1 fun r hr => ?_, ?_⟩
  · -- What a set can collect is known of its records as they are read back.
    obtain ⟨set, hset, hr⟩ := List.mem_flatten.1
      ((recordSets_flatten_perm fun hkeyed => (hu hkeyed).2).mem_iff.2 hr)
    exact (hsets set hset).1 r hr
  · rw [hitems, List.flatMap_map, List.map_flatMap]
    exact List.flatMap_congr fun set hset => (hsets set hset).2

/-! ### Any order of a run -/

/-- A backend that can run what another one runs: it has workers if the other one has some, and
buckets if the other one has some. Whether it keeps the order of batches does not matter. -/
structure AsAble (b' b : Backend) : Prop where
  workers : 0 < b.workers → 0 < b'.workers
  window : 0 < b.window → 0 < b'.window
  folder : b.partitioning.fault? = none → b'.partitioning.fault? = none
  buckets : 0 < b.partitioning.count → 0 < b'.partitioning.count

/-- Groups of orderless records are the same in any order of the records, in any buckets. -/
theorem groupAll_perm {b' : Backend} (hb' : b'.AsAble b) {records : Outcome GroupRecord}
    {records' : List GroupRecord} (horderless : p.Orderless records.items)
    (hperm : records'.Perm records.items) (h : (b.groupAll p records).Clean) :
    ∃ rows, b'.groupAll p { items := records' } = { items := rows } ∧
      rows.Perm (b.groupAll p records).items := by
  obtain ⟨hu, hcollect, hrows⟩ := rows_of_groupAll h
  have hcheck : ∀ r ∈ records.items, r.key.check = .ok () := fun r hr => (hcollect r hr).1
  have hu' : p.isWhole = false →
      b'.partitioning.fault? = none ∧ ∀ r ∈ records', 0 < b'.partitioning.count := fun hkeyed =>
    ⟨hb'.folder (hu hkeyed).1, fun r hr => hb'.buckets ((hu hkeyed).2 r (hperm.mem_iff.1 hr))⟩
  have hcollect' : Groups.Collectable p records' := fun r hr => hcollect r (hperm.mem_iff.1 hr)
  have hreceived : (p.received records').Perm (p.received records.items) := by
    unfold GroupPlan.received
    split_ifs
    · exact hperm
    · exact hperm.map _
  have hsets : ((b'.recordSets p records').flatMap p.finishedRows).Perm
      ((b.groupAll p records).items.map .ok) := by
    rw [← hrows]
    calc
      List.Perm ((b'.recordSets p records').flatMap p.finishedRows)
          (p.finishedRows (p.received records')) :=
        finishedRows_recordSets (horderless.perm hperm.symm) (fun r hr => (hcollect' r hr).1)
          fun hkeyed => (hu' hkeyed).2
      List.Perm _ (p.finishedRows (p.received records.items)) :=
        (GroupPlan.finishedRows_perm (horderless.received hcheck) (GroupPlan.check_received hcheck)
          hreceived.symm).symm
      List.Perm _ ((b.recordSets p records.items).flatMap p.finishedRows) :=
        (finishedRows_recordSets horderless hcheck fun hkeyed => (hu hkeyed).2).symm
  obtain ⟨rows, hrows', hsame⟩ := exists_of_perm_map_ok hsets
  exact ⟨rows, groupAll_of_rows hu' hcollect' hrows', hsame⟩

/-- Without workers nothing is handed on. -/
theorem workers_pos {α : Type} {stage : Stage} {size : ℕ} {step : Row → Except Fault (List α)}
    {rows : Feed Row} (h : (b.workThrough stage size step rows).Clean) : 0 < b.workers := by
  rw [Nat.pos_iff_ne_zero]
  intro hnone
  simp [workThrough, Scheduling.run, hnone, Outcome.ofResults, Feed.failed, Outcome.Clean] at h

/-- Groups whose aggregates are orderless survive any execution. If nothing fails in a run, nothing
fails in any other one, and it puts out the same rows up to their order: with any number of workers,
any batch size, batches that are finished in any order, kept or not, and any number of buckets,
chosen by any hash. -/
theorem output_of_any_order {b' : Backend} (hb' : b'.AsAble b) (hw : 0 < b.window) {store : Store}
    {plan : Plan} {source : Source} {transform : RowTransform} {group : GroupPlan}
    (hwork : plan.work = .groups source transform group)
    (horderless : group.Orderless
      (PlanWork.madeOf (Plan.groupStep transform group) (source.rows store)))
    {size : ℕ} (hs : 0 < plan.batchSize) (hs' : 0 < size) (h : (b.output store plan).Clean) :
    (b'.output store { plan with batchSize := size }).Clean ∧
      (b'.output store { plan with batchSize := size }).items.Perm (b.output store plan).items := by
  simp only [output, hwork] at h ⊢
  have hclean := records_clean_of_groupAll h
  obtain ⟨hfault, hperm, -⟩ := workThrough_clean hw hs hclean
  obtain ⟨hended, hok⟩ := Feed.ok_of_traverse hfault
  have hmade : ((source.rows store).flatMapM (Plan.groupStep transform group)).items =
      PlanWork.madeOf (Plan.groupStep transform group) (source.rows store) := by
    rw [Feed.flatMapM, Feed.traverse_of_ok _ hok, PlanWork.madeOf]
  rw [hmade] at hperm
  obtain ⟨items, hrun, hitems, -⟩ := workThrough_of_none_fails .group
    (hb'.workers (workers_pos hclean)) (hb'.window hw) hs' hended hok
  obtain ⟨rows, hrows, hsame⟩ := groupAll_perm hb' (horderless.perm hperm.symm)
    (hitems.trans hperm.symm) h
  rw [hrun, hrows]
  exact ⟨⟨rfl, rfl⟩, hsame⟩

end Backend

/-! ### One group of which the later record comes first -/

/-- The sample with integers in the second column. -/
def parsedSample : RowTransform :=
  { parsers := [none, some ColumnType.int.parser], width := 2, steps := [] }

/-- The sum and the greatest of the second column. -/
def summedGroups : GroupPlan where
  index := [0, 1]
  keys := [(0, some (constantly (.text "g")))]
  aggregates := [(.aggregate "agg_sum" Aggregate.sum, 1), (.aggregate "agg_max" Aggregate.max, 1)]
  writeIndex := [0, 1, 2]
  names := [.text "g", .text "sum_v", .text "max_v"]
  formatters := []

def summedPlan : Plan where
  names := summedGroups.names
  options := {}
  batchSize := 1
  work := .groups sampleSource parsedSample summedGroups

/-- Three workers, of which the one with the second batch is the first to finish. -/
def latestFirst : Backend :=
  { workers := 3, preserveOrder := false, finished := fun _ => 1, partitioning := { count := 5 } }

theorem output_summed : twoBuckets.output sampleStore summedPlan =
    { items := [[.text "g", .int 3, .int 2]] } := by
  simp only [Backend.output, summedPlan, Backend.workThrough, batches_sample]
  cbv

theorem madeOf_summed :
    PlanWork.madeOf (Plan.groupStep parsedSample summedGroups) (sampleSource.rows sampleStore) =
      [{ key := [.text "g"], carried := [.text "a", .int 1] },
        { key := [.text "g"], carried := [.text "b", .int 2] }] := by
  rw [rows_sample]
  cbv

theorem orderless_summed : summedGroups.Orderless (PlanWork.madeOf
    (Plan.groupStep parsedSample summedGroups) (sampleSource.rows sampleStore)) := by
  rw [madeOf_summed]
  refine ⟨?_, ?_, ?_⟩
  · simp only [summedGroups, List.forall_mem_cons]
    exact ⟨⟨"sum", by decide, rfl⟩, ⟨"max", by decide, rfl⟩, by simp⟩
  · simp [summedGroups, Aggregate.IsIntegral]
  · simp [Groups.KeysAgree]

theorem output_of_any_order_summed :
    (latestFirst.output sampleStore { summedPlan with batchSize := 1 }).Clean ∧
      (latestFirst.output sampleStore { summedPlan with batchSize := 1 }).items =
        [[.text "g", .int 3, .int 2]] := by
  have hable : latestFirst.AsAble twoBuckets :=
    ⟨fun _ => by decide, fun _ => by decide, fun _ => rfl, fun _ => by decide⟩
  have hclean : (twoBuckets.output sampleStore summedPlan).Clean := by
    rw [output_summed]
    exact ⟨rfl, rfl⟩
  obtain ⟨hany, hperm⟩ := Backend.output_of_any_order hable (by decide) rfl orderless_summed
    (by decide) Nat.one_pos hclean
  rw [output_summed] at hperm
  exact ⟨hany, List.perm_singleton.1 hperm⟩

end TablePipeline
