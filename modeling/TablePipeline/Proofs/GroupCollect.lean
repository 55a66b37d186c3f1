import Mathlib
import TablePipeline.Proofs.Columns
import TablePipeline.Proofs.Distinct
import TablePipeline.Group.Accumulator

/-!
Collecting groups is filtering by keys. Records are added one by one to the group of their key, or
to a new group at the end; what this leaves is one group for every distinct key, and in the columns
of a group stand the values of the records with that key, in the order of the records.
-/
namespace TablePipeline.Groups

/-- What records hold in some places, place by place. -/
def columnsOf (places : List ℕ) (records : List GroupRecord) : List (List Value) :=
  places.map fun place => records.map fun r => r.carried.getD place .null

/-- The records of a key. -/
def having (key : Key) (records : List GroupRecord) : List GroupRecord :=
  records.filter fun r => Key.equal key r.key

/-- The distinct keys of records, each with the columns of its records. -/
def ofRecords (places : List ℕ) (records : List GroupRecord) : Groups :=
  (Key.distinct (records.map fun r => r.key)).map fun key => (key, columnsOf places (having key records))

theorem extend_columnsOf (places : List ℕ) (records : List GroupRecord) (r : GroupRecord) :
    extend (columnsOf places records) (places.map fun place => r.carried.getD place .null) =
      columnsOf places (records ++ [r]) := by
  simp [extend, columnsOf, List.zip_map']

theorem insert_eq_upsert (key : Key) (vs : List Value) (groups : Groups) :
    groups.insert key vs = Key.upsert key (vs.map fun v => [v]) (extend · vs) groups := by
  induction groups with
  | nil => rfl
  | cons group groups ih => rw [insert, Key.upsert, ih]

/-- Adding the values of one more record to the groups of those before it. -/
theorem insert_ofRecords {places : List ℕ} {records : List GroupRecord} {r : GroupRecord}
    (hcheck : ∀ s ∈ records ++ [r], s.key.check = .ok ())
    (hrefl : ∀ s ∈ records ++ [r], Key.equal s.key s.key = true) :
    (ofRecords places records).insert r.key (places.map fun place => r.carried.getD place .null) =
      ofRecords places (records ++ [r]) := by
  have hfresh : columnsOf places [r] =
      (places.map fun place => r.carried.getD place .null).map fun v => [v] := by
    simp [columnsOf]
  rw [insert_eq_upsert, ← hfresh]
  exact Key.upsert_grouped hcheck hrefl fun records => (extend_columnsOf places records r).symm

/-- Records that have one of some keys, and none two of them, are divided among these keys: by
induction on the keys, each of which takes its records out. -/
theorem having_perm {keys : List Key} {records : List GroupRecord}
    (hone : keys.Pairwise fun k l => ∀ r ∈ records, Key.equal k r.key = true →
      Key.equal l r.key = false)
    (hall : ∀ r ∈ records, ∃ k ∈ keys, Key.equal k r.key = true) :
    (keys.flatMap fun key => having key records).Perm records := by
  induction keys generalizing records with
  | nil =>
    have hnone : records = [] := List.eq_nil_iff_forall_not_mem.2 fun r hr => by simpa using hall r hr
    simp [hnone]
  | cons k keys ih =>
    obtain ⟨hk, hone⟩ := List.pairwise_cons.1 hone
    have hrest : (keys.flatMap fun l => having l (records.filter fun r => !Key.equal k r.key)).Perm
        (records.filter fun r => !Key.equal k r.key) := by
      apply ih
      · exact hone.imp fun h r hr => h r (List.mem_of_mem_filter hr)
      · intro r hr
        obtain ⟨hr, hno⟩ := List.mem_filter.1 hr
        obtain ⟨l, hl, hequal⟩ := hall r hr
        rcases List.mem_cons.1 hl with rfl | hl
        · simp [hequal] at hno
        · exact ⟨l, hl, hequal⟩
    have hsame : ∀ l ∈ keys, having l records =
        having l (records.filter fun r => !Key.equal k r.key) := by
      intro l hl
      rw [having, having, List.filter_filter]
      apply List.filter_congr
      intro r hr
      cases h : Key.equal k r.key with
      | true => simp [hk l hl r hr h]
      | false => simp
    rw [List.flatMap_cons, List.flatMap_congr hsame]
    exact (hrest.append_left _).trans (List.filter_append_perm _ records)

/-- Every record has exactly one of the distinct keys. -/
theorem having_distinct_perm {records : List GroupRecord}
    (hcheck : ∀ r ∈ records, r.key.check = .ok ())
    (hrefl : ∀ r ∈ records, Key.equal r.key r.key = true) :
    ((Key.distinct (records.map fun r => r.key)).flatMap fun key => having key records).Perm
      records := by
  apply having_perm
  · refine (Key.pairwise_distinct _).imp_of_mem fun {k l} hk hl hkl r hr hequal => ?_
    obtain ⟨s, hs, rfl⟩ := List.mem_map.1 (Key.mem_of_mem_distinct hk)
    rw [Bool.eq_false_iff]
    intro hlr
    obtain ⟨u, hu, rfl⟩ := List.mem_map.1 (Key.mem_of_mem_distinct hl)
    have hboth := Key.equal_trans (hcheck s hs) hequal (Key.equal_symm (hcheck u hu) hlr)
    simp [hkl] at hboth
  · intro r hr
    exact Key.exists_mem_distinct (by simpa using hrefl) (List.mem_map_of_mem hr)

/-- Adding a record succeeds if its key can be looked up and it has all places. -/
theorem add_eq_ok {p : GroupPlan} {groups groups' : Groups} {r : GroupRecord}
    (h : groups.add p r = .ok groups') :
    r.key.check = .ok () ∧ (∀ place ∈ p.aggregates.map (·.2), place < r.carried.length) ∧
      groups' = groups.insert r.key
        ((p.aggregates.map (·.2)).map fun place => r.carried.getD place .null) := by
  unfold add at h
  obtain ⟨_, hcheck, h⟩ := bind_eq_ok.1 h
  obtain ⟨vs, hvs, h⟩ := bind_eq_ok.1 h
  refine ⟨mapError_eq_ok.1 hcheck, Row.exists_cells_iff.1 ⟨vs, hvs⟩, ?_⟩
  rw [← Except.ok.inj h, Row.eq_map_of_cells hvs]

/-- Collected records make one group for every distinct key: by induction from the last record. -/
theorem collect_eq_ok {p : GroupPlan} {records : List GroupRecord} {groups : Groups}
    (hnan : ∀ r ∈ records, r.key.hasNaN = false) (h : collect p records = .ok groups) :
    (∀ r ∈ records, r.key.check = .ok () ∧
        ∀ place ∈ p.aggregates.map (·.2), place < r.carried.length) ∧
      groups = ofRecords (p.aggregates.map (·.2)) records := by
  induction records using List.reverseRecOn generalizing groups with
  | nil => exact ⟨by simp, (Except.ok.inj h).symm⟩
  | append_singleton records r ih =>
    rw [collect, List.foldlM_append] at h
    obtain ⟨before, hbefore, h⟩ := bind_eq_ok.1 h
    obtain ⟨hrecords, rfl⟩ := ih (fun s hs => hnan s (by simp [hs])) hbefore
    simp only [List.foldlM_cons, List.foldlM_nil, bind_pure] at h
    obtain ⟨hr, hplaces, rfl⟩ := add_eq_ok h
    have hall : ∀ s ∈ records ++ [r], s.key.check = .ok () ∧
        ∀ place ∈ p.aggregates.map (·.2), place < s.carried.length := by
      intro s hs
      rcases List.mem_append.1 hs with hs | hs
      · exact hrecords s hs
      · obtain rfl : s = r := by simpa using hs
        exact ⟨hr, hplaces⟩
    exact ⟨hall, insert_ofRecords (fun s hs => (hall s hs).1)
      fun s hs => Key.equal_refl (hall s hs).1 (hnan s hs)⟩

end TablePipeline.Groups
