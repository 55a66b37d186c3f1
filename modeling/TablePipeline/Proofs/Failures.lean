import Mathlib
import TablePipeline.Proofs.GroupCollect
import TablePipeline.Proofs.JoinBuckets
import TablePipeline.Proofs.SinglePass

/-!
What fails in the stages of a run. A stage that reports goes on after every failure of a row, a
group or a bucket and lists it; a stage that raises does the same up to the first of these failures
and ends with it. The one thing that ends both is a key that cannot be looked up.
-/
namespace TablePipeline

namespace Outcome

variable {α : Type}

theorem StopsAtFirst.eq_of_clean {o r : Outcome α} (h : o.StopsAtFirst r) (hr : r.Clean) : o = r := by
  obtain ⟨⟨items, fault⟩, failures⟩ := o
  obtain ⟨⟨items', fault'⟩, failures'⟩ := r
  obtain ⟨rfl, rfl⟩ := hr
  obtain rfl : failures = [] := h.failures
  obtain rfl : fault = none := h.fault
  obtain rfl : items = items' := h.whole rfl
  rfl

theorem StopsAtFirst.of_head {r : Outcome α} (failure : RowFailure) {more : List RowFailure}
    (h : r.failures = failure :: more) : (failed failure.raised).StopsAtFirst r :=
  ⟨rfl, by rw [h]; rfl, List.nil_prefix, by rw [h]; nofun⟩

theorem Contained.empty : Contained (empty : Outcome α) empty :=
  ⟨rfl, ⟨rfl, rfl, List.prefix_rfl, fun _ => rfl⟩⟩

theorem concat_singleton (o : Outcome α) : concat [o] = o := by
  obtain ⟨⟨items, fault⟩, failures⟩ := o
  cases fault <;> simp [concat, Outcome.append, Outcome.empty]

/-- What comes first decides where a chain of two stages stops. -/
theorem Contained.append {o o' r r' : Outcome α} (h : Contained o r) (h' : Contained o' r') :
    Contained (o.append o') (r.append r') := by
  have hr : r.append r' =
      { items := r.items ++ r'.items, failures := r.failures ++ r'.failures } := by
    simp [Outcome.append, h.ended, h'.ended]
  rw [hr]
  cases hfailures : r.failures with
  | nil =>
    obtain rfl := h.stops.eq_of_clean ⟨h.ended, hfailures⟩
    have ho : o.append o' =
        { items := o.items ++ o'.items, fault := o'.fault,
          failures := o.failures ++ o'.failures } := by
      simp [Outcome.append, h.ended]
    rw [ho]
    refine ⟨rfl, ⟨?_, h'.stops.fault, ?_, fun hnone => ?_⟩⟩
    · simp [hfailures, h'.stops.failures]
    · exact (List.prefix_append_right_inj _).2 h'.stops.items
    · simp only [h'.stops.whole hnone]
  | cons failure more =>
    have hfault : o.fault = some failure.raised := by rw [h.stops.fault, hfailures]; rfl
    have ho : o.append o' = o := by simp [Outcome.append, hfault]
    rw [ho]
    exact ⟨rfl, ⟨h.stops.failures, hfault, h.stops.items.trans (List.prefix_append _ _),
      fun hnone => absurd hnone (List.cons_ne_nil _ _)⟩⟩

theorem Contained.concat {ι : Type} {stages : List ι} {o r : ι → Outcome α}
    (h : ∀ i ∈ stages, Contained (o i) (r i)) :
    Contained (concat (stages.map o)) (concat (stages.map r)) := by
  induction stages with
  | nil => exact .empty
  | cons i stages ih => exact (h i (by simp)).append (ih fun i hi => h i (by simp [hi]))

/-- A stage that is fed by another one stops where that one stops, before it has begun. -/
theorem Contained.after {β : Type} {records records' : Outcome β} {o r whole : Outcome α}
    (hrecords : Contained records' records) (h : Contained o r)
    (hclean : records' = records → whole = { o with failures := records.failures ++ o.failures })
    (hstopped : ∀ fault, records'.fault = some fault → whole = failed fault) :
    Contained whole { r with failures := records.failures ++ r.failures } := by
  refine ⟨h.ended, ?_⟩
  cases hfailures : records.failures with
  | nil =>
    rw [hclean (hrecords.stops.eq_of_clean ⟨hrecords.ended, hfailures⟩), hfailures]
    exact ⟨h.stops.failures, h.stops.fault, h.stops.items, h.stops.whole⟩
  | cons failure more =>
    have hfault : records'.fault = some failure.raised := by
      rw [hrecords.stops.fault, hfailures]
      rfl
    rw [hstopped _ hfault]
    exact .of_head _ rfl

end Outcome

namespace Backend

variable {α β : Type}

variable (b : Backend)

theorem failure_reporting (stage : Stage) (place : Place) (fault : Fault) :
    b.reporting.failure stage place fault = .ok { stage, place, fault } := rfl

theorem failure_raising (stage : Stage) (place : Place) (fault : Fault) :
    b.raising.failure stage place fault = .error (.execution stage place fault) := rfl

/-! ### Groups and rows of a join -/

/-- What is reported of a step that fails at a place. -/
def failed? (stage : Stage) (place : Place) (outcome : Except Fault (List β)) :
    Option RowFailure :=
  match outcome with
  | .ok _ => none
  | .error fault => some { stage, place, fault }

/-- What steps one after the other hand out and report. -/
def eachReport (stage : Stage) (place : Place) (step : α → Except Fault (List β)) (as : List α) :
    Outcome β where
  items := as.flatMap fun a => made (step a)
  failures := as.filterMap fun a => failed? stage place (step a)

variable {stage : Stage} {place : Place} {step : α → Except Fault (List β)}

theorem eachOf_reporting (as : List α) :
    b.reporting.eachOf stage place step as = eachReport stage place step as := by
  induction as with
  | nil => rfl
  | cons a as ih =>
    cases hstep : step a with
    | ok items => simp [eachOf, hstep, ih, eachReport, Outcome.append, failed?]
    | error fault =>
      simp [eachOf, hstep, ih, eachReport, failure_reporting, Outcome.report, failed?]

theorem eachOf_contained (as : List α) :
    (b.raising.eachOf stage place step as).Contained (b.reporting.eachOf stage place step as) := by
  induction as with
  | nil => exact .empty
  | cons a as ih =>
    cases hstep : step a with
    | ok items =>
      have hone : Outcome.Contained ({ items } : Outcome β) { items } :=
        ⟨rfl, ⟨rfl, rfl, List.prefix_rfl, fun _ => rfl⟩⟩
      simp only [eachOf, hstep]
      exact hone.append ih
    | error fault =>
      simp only [eachOf, hstep, failure_reporting, failure_raising]
      exact ⟨ih.ended, .of_head { stage, place, fault } rfl⟩

end Backend

namespace Groups

/-- Records can be collected: their keys can be looked up and they have all places. -/
def Collectable (p : GroupPlan) (records : List GroupRecord) : Prop :=
  ∀ r ∈ records, r.key.check = .ok () ∧ ∀ place ∈ p.aggregates.map (·.2), place < r.carried.length

theorem exists_add {p : GroupPlan} {r : GroupRecord} (groups : Groups)
    (h : r.key.check = .ok () ∧ ∀ place ∈ p.aggregates.map (·.2), place < r.carried.length) :
    ∃ groups', groups.add p r = .ok groups' := by
  obtain ⟨vs, hvs⟩ := Row.exists_cells_iff.2 h.2
  exact ⟨_, bind_eq_ok.2 ⟨(), mapError_eq_ok.2 h.1, bind_eq_ok.2 ⟨vs, hvs, rfl⟩⟩⟩

theorem exists_foldlM_add {p : GroupPlan} {records : List GroupRecord} (h : Collectable p records)
    (groups : Groups) : ∃ groups', records.foldlM (add p) groups = .ok groups' := by
  induction records generalizing groups with
  | nil => exact ⟨groups, rfl⟩
  | cons r records ih =>
    obtain ⟨next, hnext⟩ := exists_add groups (h r (by simp))
    obtain ⟨groups', hrest⟩ := ih (fun s hs => h s (by simp [hs])) next
    exact ⟨groups', by rw [List.foldlM_cons, hnext, ok_bind, hrest]⟩

theorem Collectable.filter {p : GroupPlan} {records : List GroupRecord} (h : Collectable p records)
    (q : GroupRecord → Bool) : Collectable p ((records.filter q).map GroupRecord.putAside) := by
  intro r hr
  obtain ⟨s, hs, rfl⟩ := List.mem_map.1 hr
  obtain ⟨hcheck, hplaces⟩ := h s (List.mem_of_mem_filter hs)
  refine ⟨(Key.check_forget true s.key).trans hcheck, fun place hplace => ?_⟩
  simpa [GroupRecord.putAside, Datum.forgetItems_eq_map] using hplaces place hplace

/-- What is reported of the groups of one set of records. -/
def failures (p : GroupPlan) (records : List GroupRecord) : List RowFailure :=
  (finished p (valueOr [] (collect p records))).filterMap fun group =>
    Backend.failed? .aggregate .group (do .ok [← p.finish group.1 group.2] : Except Fault (List Row))

end Groups

namespace Backend

variable {b : Backend}

theorem groupRecords_contained {p : GroupPlan} {records : List GroupRecord}
    (h : Groups.Collectable p records) :
    (b.raising.groupRecords p records).Contained (b.reporting.groupRecords p records) ∧
      (b.reporting.groupRecords p records).failures = Groups.failures p records := by
  obtain ⟨groups, hgroups⟩ := Groups.exists_foldlM_add h []
  have hcollect : Groups.collect p records = .ok groups := hgroups
  simp only [groupRecords, hcollect, finishGroups]
  refine ⟨eachOf_contained b _, ?_⟩
  rw [eachOf_reporting, Groups.failures, hcollect]
  rfl

/-- Stages that report and end well list their failures one after the other. -/
theorem concat_failures {ι : Type} (stages : List ι) {o : ι → Outcome Row}
    (h : ∀ i ∈ stages, (o i).fault = none) :
    (Outcome.concat (stages.map o)).fault = none ∧
      (Outcome.concat (stages.map o)).failures = stages.flatMap fun i => (o i).failures := by
  rw [Outcome.concat_of_ok (by simpa using h)]
  exact ⟨rfl, List.flatMap_map ..⟩

/-! ### Setting records apart -/

section Spill

variable {key : α → Key} {records : Outcome α} (putAside : α → α)

/-- Records can be set apart by keys that can all be looked up. -/
theorem spill_of_checked (hu : b.partitioning.fault? = none ∧ 0 < b.partitioning.count)
    (hended : records.fault = none) (hcheck : ∀ r ∈ records.items, (key r).check = .ok ()) :
    b.spill key putAside records =
      .ok (records.items.map fun r => (b.partitioning.numberOf (key r), putAside r)) :=
  spill_eq_ok_iff.2 ⟨hended, Buckets.ofRecords_eq_ok_iff.2
    ⟨hu.1, fun r hr => ⟨hcheck r hr, hu.2⟩, rfl⟩⟩

/-- The failure of the stage before is met after its records have been set apart. -/
theorem spill_of_fault (hu : b.partitioning.fault? = none ∧ 0 < b.partitioning.count)
    {fault : Fault} (hfault : records.fault = some fault)
    (hcheck : ∀ r ∈ records.items, (key r).check = .ok ()) :
    b.spill key putAside records = .error fault := by
  have hbuckets : Buckets.ofRecords b.partitioning key putAside records.items = .ok _ :=
    Buckets.ofRecords_eq_ok_iff.2 ⟨hu.1, fun r hr => ⟨hcheck r hr, hu.2⟩, rfl⟩
  simp [spill, hbuckets, hfault, Except.mapError]

/-- Records cannot be set apart if one of the keys cannot be looked up. -/
theorem spill_of_unhashable (hu : b.partitioning.fault? = none ∧ 0 < b.partitioning.count)
    (h : ∃ r ∈ records.items, (key r).check ≠ .ok ()) :
    ∃ kind, b.spill key putAside records = .error (.eval (.unhashable kind)) := by
  obtain ⟨r, hr, hcheck⟩ := h
  let place (r : α) : Except EvalFault (ℕ × α) := do
    .ok (← b.partitioning.bucketOf (key r), putAside r)
  have hfails : ∀ entry, place r ≠ .ok entry := by
    intro entry hentry
    obtain ⟨number, hnumber, -⟩ := bind_eq_ok.1 hentry
    exact hcheck ((b.partitioning.bucketOf_eq_ok_iff _ _).1 hnumber).1
  obtain ⟨s, -, stop, hs, hmap⟩ := exists_of_mapM_error ⟨r, hr, hfails⟩
  by_cases hsound : (key s).check = .ok ()
  · simp [place, (b.partitioning.bucketOf_eq_ok_iff _ _).2 ⟨hsound, hu.2, rfl⟩] at hs
  · obtain ⟨kind, hkind⟩ := Key.exists_of_check_ne_ok hsound
    obtain rfl : EvalFault.unhashable kind = stop := by
      simpa [place, Partitioning.bucketOf, hkind] using hs
    have hbuckets : Buckets.ofRecords b.partitioning key putAside records.items =
        .error (.unhashable kind) := by
      simp only [Buckets.ofRecords, hu.1]
      exact hmap
    exact ⟨kind, by rw [spill, hbuckets]; rfl⟩

end Spill

/-! ### Groups -/

/-- The sets of records of which groups are made: all records in one set, or the buckets. -/
def recordSets (b : Backend) (p : GroupPlan) (records : List GroupRecord) :
    List (List GroupRecord) :=
  if p.isWhole then [records]
  else b.bucketNumbers.map fun number =>
    (records.filter fun r => b.partitioning.numberOf r.key == number).map GroupRecord.putAside

theorem mem_recordSets {p : GroupPlan} {records : List GroupRecord} (h : Groups.Collectable p records)
    {set : List GroupRecord} (hset : set ∈ b.recordSets p records) : Groups.Collectable p set := by
  unfold recordSets at hset
  split_ifs at hset
  · rwa [List.mem_singleton.1 hset]
  · obtain ⟨number, -, rfl⟩ := List.mem_map.1 hset
    exact h.filter _

/-- The groups of records that have been set apart, as far as they are, set by set. -/
theorem groupAll_of_spilled {p : GroupPlan} {records : Outcome GroupRecord}
    (hended : records.fault = none)
    (hspill : p.isWhole = false → b.spill (·.key) GroupRecord.putAside records =
      .ok (records.items.map fun r => (b.partitioning.numberOf r.key, r.putAside))) :
    b.groupAll p records =
      let groups := Outcome.concat ((b.recordSets p records.items).map (b.groupRecords p))
      { groups with failures := records.failures ++ groups.failures } := by
  cases hwhole : p.isWhole with
  | true =>
    simp only [groupAll, recordSets, hwhole, hended, if_true, List.map_singleton]
    rw [Outcome.concat_singleton]
  | false =>
    simp only [groupAll, recordSets, hwhole, Bool.false_eq_true, if_false, hspill hwhole,
      Buckets.bucket_map, List.map_map]
    rfl

/-- The groups of records of a stage that has ended well, set by set. -/
theorem groupAll_of_checked {p : GroupPlan} {records : Outcome GroupRecord}
    (hu : p.isWhole = false → b.partitioning.fault? = none ∧ 0 < b.partitioning.count)
    (hended : records.fault = none) (hcheck : ∀ r ∈ records.items, r.key.check = .ok ()) :
    b.groupAll p records =
      let groups := Outcome.concat ((b.recordSets p records.items).map (b.groupRecords p))
      { groups with failures := records.failures ++ groups.failures } :=
  groupAll_of_spilled hended fun hkeyed => spill_of_checked _ (hu hkeyed) hended hcheck

/-- The failure of the stage before ends the groups before the first of them is made. -/
theorem groupAll_of_fault {p : GroupPlan} {records : Outcome GroupRecord}
    (hu : p.isWhole = false → b.partitioning.fault? = none ∧ 0 < b.partitioning.count)
    {fault : Fault} (hfault : records.fault = some fault)
    (hcheck : ∀ r ∈ records.items, r.key.check = .ok ()) :
    b.groupAll p records = { Outcome.failed fault with failures := records.failures } := by
  cases hwhole : p.isWhole with
  | true => simp [groupAll, hwhole, hfault, Outcome.failed]
  | false =>
    simp [groupAll, hwhole, spill_of_fault _ (hu hwhole) hfault hcheck, Outcome.failed]

theorem groupAll_contained {p : GroupPlan} {records records' : Outcome GroupRecord}
    (hu : p.isWhole = false → b.partitioning.fault? = none ∧ 0 < b.partitioning.count)
    (hrecords : records'.Contained records) (h : Groups.Collectable p records.items) :
    (b.raising.groupAll p records').Contained (b.reporting.groupAll p records) ∧
      (b.reporting.groupAll p records).failures =
        records.failures ++ (b.recordSets p records.items).flatMap (Groups.failures p) := by
  have hcheck : ∀ r ∈ records.items, r.key.check = .ok () := fun r hr => (h r hr).1
  have hset : ∀ set ∈ b.recordSets p records.items, _ :=
    fun _ hset => groupRecords_contained (b := b) (mem_recordSets h hset)
  obtain ⟨hended, hfailures⟩ := concat_failures _ fun set hmem => (hset set hmem).1.ended
  have hboth : Outcome.Contained
      (Outcome.concat ((b.recordSets p records.items).map (b.raising.groupRecords p)))
      (Outcome.concat ((b.recordSets p records.items).map (b.reporting.groupRecords p))) :=
    .concat fun set hmem => (hset set hmem).1
  rw [groupAll_of_checked (b := b.reporting) hu hrecords.ended hcheck]
  constructor
  · refine hrecords.after hboth (fun hsame => ?_) fun fault hfault => ?_
    · rw [hsame]
      exact groupAll_of_checked (b := b.raising) hu hrecords.ended hcheck
    · rw [groupAll_of_fault (b := b.raising) hu hfault
        fun r hr => hcheck r (hrecords.stops.items.subset hr), hrecords.stops.failures]
      rfl
  · refine congrArg _ (hfailures.trans ?_)
    exact List.flatMap_congr fun set hmem => (hset set hmem).2

/-- A key that cannot be looked up ends the groups. -/
theorem groupAll_of_unhashable {p : GroupPlan} {records : Outcome GroupRecord}
    (hkeyed : p.isWhole = false)
    (hu : b.partitioning.fault? = none ∧ 0 < b.partitioning.count)
    (h : ∃ r ∈ records.items, r.key.check ≠ .ok ()) :
    ∃ kind, (b.groupAll p records).toFeed = .failed (.eval (.unhashable kind)) := by
  obtain ⟨kind, hkind⟩ := spill_of_unhashable GroupRecord.putAside hu h
  exact ⟨kind, by simp [groupAll, hkeyed, hkind, Outcome.failed, Feed.failed]⟩

/-! ### Joins -/

/-- What is reported of a bucket of a join: the bucket itself if it has no index, or its rows that
fail. -/
def bucketFailures (p : JoinPlan) (number : ℕ) (built probed : List JoinRecord) :
    List RowFailure :=
  if probed.isEmpty then []
  else
    match JoinIndex.ofRecords p built with
    | .error fault => [{ stage := .join, place := .bucket number, fault }]
    | .ok index => probed.filterMap fun r => failed? .join (.rowOfBucket number) (index.probe p r)

theorem joinBucket_contained (p : JoinPlan) (number : ℕ) (built probed : List JoinRecord) :
    (b.raising.joinBucket p number built probed).Contained
        (b.reporting.joinBucket p number built probed) ∧
      (b.reporting.joinBucket p number built probed).failures =
        bucketFailures p number built probed := by
  unfold joinBucket bucketFailures
  by_cases hnone : probed.isEmpty = true
  · simp only [hnone, if_true]
    exact ⟨.empty, rfl⟩
  · simp only [hnone, Bool.false_eq_true, if_false]
    cases hindex : JoinIndex.ofRecords p built with
    | error fault =>
      simp only [failure_reporting, failure_raising]
      exact ⟨⟨rfl, .of_head { stage := .join, place := .bucket number, fault } rfl⟩, rfl⟩
    | ok index =>
      simp only
      refine ⟨eachOf_contained b probed, ?_⟩
      rw [eachOf_reporting]
      rfl

section Join

variable {p : JoinPlan} {built probed : Outcome JoinRecord}

/-- The join of the buckets, once both sides have been set apart. -/
def joinBuckets (b : Backend) (p : JoinPlan) (built probed : List JoinRecord) : Outcome Row :=
  .concat (b.bucketNumbers.map fun number =>
    b.joinBucket p number (b.readBack built number) (b.readBack probed number))

theorem joinAll_of_fault_built (hu : b.partitioning.fault? = none ∧ 0 < b.partitioning.count)
    {fault : Fault} (hfault : built.fault = some fault)
    (hcheck : ∀ r ∈ built.items, r.key.check = .ok ()) :
    b.joinAll p built probed = .failed fault := by
  simp [joinAll, spill_of_fault _ hu hfault hcheck]

theorem joinAll_of_fault_probed (hu : b.partitioning.fault? = none ∧ 0 < b.partitioning.count)
    {fault : Fault} (hended : built.fault = none)
    (hbuilt : ∀ r ∈ built.items, r.key.check = .ok ()) (hfault : probed.fault = some fault)
    (hprobed : ∀ r ∈ probed.items, r.key.check = .ok ()) :
    b.joinAll p built probed = .failed fault := by
  simp [joinAll, spill_of_checked _ hu hended hbuilt, spill_of_fault _ hu hfault hprobed]

theorem joinAll_of_checked (hu : b.partitioning.fault? = none ∧ 0 < b.partitioning.count)
    (hbuilt : built.fault = none ∧ ∀ r ∈ built.items, r.key.check = .ok ())
    (hprobed : probed.fault = none ∧ ∀ r ∈ probed.items, r.key.check = .ok ()) :
    b.joinAll p built probed =
      { b.joinBuckets p built.items probed.items with
        failures := built.failures ++ probed.failures ++
          (b.joinBuckets p built.items probed.items).failures } :=
  joinAll_eq ⟨hbuilt.1, hu.1, fun r hr => ⟨hbuilt.2 r hr, hu.2⟩⟩
    ⟨hprobed.1, hu.1, fun r hr => ⟨hprobed.2 r hr, hu.2⟩⟩

theorem joinAll_contained {built' probed' : Outcome JoinRecord}
    (hu : b.partitioning.fault? = none ∧ 0 < b.partitioning.count)
    (hbuilt : built'.Contained built) (hprobed : probed'.Contained probed)
    (hcheck : ∀ r ∈ built.items ++ probed.items, r.key.check = .ok ()) :
    (b.raising.joinAll p built' probed').Contained (b.reporting.joinAll p built probed) ∧
      (b.reporting.joinAll p built probed).failures =
        built.failures ++ probed.failures ++ b.bucketNumbers.flatMap fun number =>
          bucketFailures p number (b.readBack built.items number)
            (b.readBack probed.items number) := by
  have hbuiltCheck : ∀ r ∈ built.items, r.key.check = .ok () :=
    fun r hr => hcheck r (List.mem_append_left _ hr)
  have hprobedCheck : ∀ r ∈ probed.items, r.key.check = .ok () :=
    fun r hr => hcheck r (List.mem_append_right _ hr)
  have hbucket := fun number => joinBucket_contained (b := b) p number
    (b.readBack built.items number) (b.readBack probed.items number)
  obtain ⟨hended, hfailures⟩ := concat_failures b.bucketNumbers fun number _ => (hbucket number).1.ended
  have hboth : Outcome.Contained (b.raising.joinBuckets p built.items probed.items)
      (b.reporting.joinBuckets p built.items probed.items) :=
    .concat fun number _ => (hbucket number).1
  have hreporting := joinAll_of_checked (b := b.reporting) (p := p) hu
    ⟨hbuilt.ended, hbuiltCheck⟩ ⟨hprobed.ended, hprobedCheck⟩
  rw [hreporting]
  constructor
  · rw [List.append_assoc]
    -- the side that is built decides first, then the side that probes
    cases hnone : built.failures with
    | nil =>
      obtain rfl := hbuilt.stops.eq_of_clean ⟨hbuilt.ended, hnone⟩
      refine hprobed.after hboth (fun hsame => ?_) fun fault hfault => ?_
      · rw [hsame, joinAll_of_checked (b := b.raising) hu ⟨hbuilt.ended, hbuiltCheck⟩
          ⟨hprobed.ended, hprobedCheck⟩, hnone, List.nil_append]
      · exact joinAll_of_fault_probed (b := b.raising) hu hbuilt.ended hbuiltCheck hfault
          fun r hr => hprobedCheck r (hprobed.stops.items.subset hr)
    | cons failure more =>
      have hfault : built'.fault = some failure.raised := by
        rw [hbuilt.stops.fault, hnone]
        rfl
      rw [joinAll_of_fault_built (b := b.raising) hu hfault
        fun r hr => hbuiltCheck r (hbuilt.stops.items.subset hr)]
      exact ⟨hended, .of_head _ rfl⟩
  · refine congrArg _ (hfailures.trans ?_)
    exact List.flatMap_congr fun number _ => (hbucket number).2

/-- A key that cannot be looked up ends the join. -/
theorem joinAll_of_unhashable (hu : b.partitioning.fault? = none ∧ 0 < b.partitioning.count)
    (hbuilt : built.fault = none) (h : ∃ r ∈ built.items ++ probed.items, r.key.check ≠ .ok ()) :
    ∃ kind, (b.joinAll p built probed).toFeed = .failed (.eval (.unhashable kind)) := by
  by_cases hall : ∀ r ∈ built.items, r.key.check = .ok ()
  · have hprobed : ∃ r ∈ probed.items, r.key.check ≠ .ok () := by
      obtain ⟨r, hr, hno⟩ := h
      rcases List.mem_append.1 hr with hr | hr
      · exact absurd (hall r hr) hno
      · exact ⟨r, hr, hno⟩
    obtain ⟨kind, hkind⟩ := spill_of_unhashable JoinRecord.putAside hu hprobed
    exact ⟨kind, by simp [joinAll, spill_of_checked _ hu hbuilt hall, hkind, Outcome.failed, Feed.failed]⟩
  · have hsome : ∃ r ∈ built.items, r.key.check ≠ .ok () := by simpa using hall
    obtain ⟨kind, hkind⟩ := spill_of_unhashable JoinRecord.putAside hu hsome
    exact ⟨kind, by simp [joinAll, hkind, Outcome.failed, Feed.failed]⟩

end Join

end Backend

end TablePipeline
