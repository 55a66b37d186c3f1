import Mathlib
import TablePipeline.Proofs.Buckets
import TablePipeline.Proofs.JoinIndex
import TablePipeline.Proofs.Scheduling

/-!
Joining bucket by bucket. A probe record meets the built records that landed in its bucket, as they
are read back. Those with its key are all there, so a join that looks only at records with equal
keys gives what it would give with all built records in one index.
-/
namespace TablePipeline

namespace Key

/-- Whether records with these keys match: the keys are equal and miss nothing. -/
def joins (k l : Key) : Bool := !k.hasNull && !l.hasNull && equal k l

theorem joins_symm {k l : Key} (hk : k.check = .ok ()) (h : joins k l = true) :
    joins l k = true := by
  simp only [joins, Bool.and_eq_true] at h ⊢
  exact ⟨⟨h.1.2, h.1.1⟩, equal_symm hk h.2⟩

theorem joins_comm {k l : Key} (hk : k.check = .ok ()) (hl : l.check = .ok ()) :
    joins k l = joins l k :=
  Bool.eq_iff_iff.2 ⟨joins_symm hk, joins_symm hl⟩

end Key

namespace JoinPlan

/-- What a probe record gives with the built records of its bucket. -/
def answer (p : JoinPlan) (built : List JoinRecord) (record : JoinRecord) :
    Except Fault (List Row) := do
  (← JoinIndex.ofRecords p built).probe p record

/-- The built records with the key of a probe record. -/
def partners (built : List JoinRecord) (record : JoinRecord) : List JoinRecord :=
  built.filter fun s => Key.joins s.key record.key

end JoinPlan

namespace Backend

/-- The records of a stage can be set apart: the stage ends well, every key has a hash, and there
are buckets. -/
structure Separable (b : Backend) (records : Outcome JoinRecord) : Prop where
  ended : records.fault = none
  usable : b.partitioning.fault? = none
  placed : ∀ r ∈ records.items, r.key.check = .ok () ∧ 0 < b.partitioning.count

/-- The bucket of a record. -/
def numberOf (b : Backend) (record : JoinRecord) : ℕ := b.partitioning.numberOf record.key

/-- The records of one bucket as they are read back. -/
def readBack (b : Backend) (records : List JoinRecord) (number : ℕ) : List JoinRecord :=
  (records.filter fun r => b.numberOf r == number).map JoinRecord.putAside

/-- The built records that a probe record meets. -/
def beside (b : Backend) (built : List JoinRecord) (record : JoinRecord) : List JoinRecord :=
  b.readBack built (b.numberOf record)

variable {b : Backend} {p : JoinPlan}

theorem spill_records_eq_ok_iff {records : Outcome JoinRecord} {buckets : Buckets JoinRecord} :
    b.spill (fun r => r.key) JoinRecord.putAside records = .ok buckets ↔
      b.Separable records ∧ buckets = records.items.map fun r => (b.numberOf r, r.putAside) := by
  rw [spill_eq_ok_iff, Buckets.ofRecords_eq_ok_iff]
  exact ⟨fun ⟨hf, hu, hp, he⟩ => ⟨⟨hf, hu, hp⟩, he⟩,
    fun ⟨⟨hf, hu, hp⟩, he⟩ => ⟨hf, hu, hp, he⟩⟩

theorem joinBucket_of_ok {number : ℕ} {built probed : List JoinRecord}
    (h : ∀ r ∈ probed, ∃ rows, p.answer built r = .ok rows) :
    b.joinBucket p number built probed =
      { items := probed.flatMap fun r => made (p.answer built r) } := by
  cases probed with
  | nil => rfl
  | cons first rest =>
    obtain ⟨rows, hrows⟩ := h first (by simp)
    obtain ⟨index, hindex, -⟩ := bind_eq_ok.1 hrows
    have hprobe : ∀ r, p.answer built r = index.probe p r := by
      intro r
      rw [JoinPlan.answer, hindex, ok_bind]
    simp only [hprobe] at h ⊢
    simp only [joinBucket, List.isEmpty_cons, Bool.false_eq_true, if_false, hindex]
    exact eachOf_of_ok h

/-- A bucket of which nothing is lost has an answer for each of its probe records. -/
theorem ok_of_joinBucket_clean {number : ℕ} {built probed : List JoinRecord}
    (h : (b.joinBucket p number built probed).Clean) :
    ∀ r ∈ probed, ∃ rows, p.answer built r = .ok rows := by
  intro r hr
  unfold joinBucket at h
  rw [if_neg (by simpa using List.ne_nil_of_mem hr)] at h
  cases hindex : JoinIndex.ofRecords p built with
  | error fault =>
    simp only [hindex] at h
    cases hfailure : b.failure .join (.bucket number) fault with
    | error stop => simp [hfailure, Outcome.failed, Outcome.Clean] at h
    | ok failure => simp [hfailure, Outcome.report, Outcome.Clean] at h
  | ok index =>
    simp only [hindex] at h
    simpa [JoinPlan.answer, hindex] using ok_of_eachOf_clean h r hr

/-- Reading both sides back bucket by bucket. -/
theorem joinAll_eq {built probed : Outcome JoinRecord} (hbuilt : b.Separable built)
    (hprobed : b.Separable probed) :
    b.joinAll p built probed =
      let joined : Outcome Row := .concat (b.bucketNumbers.map fun number =>
        b.joinBucket p number (b.readBack built.items number) (b.readBack probed.items number))
      { joined with failures := built.failures ++ probed.failures ++ joined.failures } := by
  simp only [joinAll, spill_records_eq_ok_iff.2 ⟨hbuilt, rfl⟩,
    spill_records_eq_ok_iff.2 ⟨hprobed, rfl⟩, Buckets.bucket_map]
  rfl

theorem mem_readBack {records : List JoinRecord} {number : ℕ} {s : JoinRecord} :
    s ∈ b.readBack records number ↔ ∃ r ∈ records, b.numberOf r = number ∧ r.putAside = s := by
  simp [readBack, and_assoc]

/-- A join in which every probe record has an answer in its bucket hands out the answers bucket by
bucket, and reports nothing of its own. -/
theorem joinAll_of_answers {built probed : Outcome JoinRecord} (hbuilt : b.Separable built)
    (hprobed : b.Separable probed)
    (h : ∀ r ∈ probed.items, ∃ rows, p.answer (b.beside built.items r) r.putAside = .ok rows) :
    b.joinAll p built probed =
      { items := b.bucketNumbers.flatMap fun number =>
          (probed.items.filter fun r => b.numberOf r == number).flatMap fun r =>
            made (p.answer (b.beside built.items r) r.putAside)
        failures := built.failures ++ probed.failures } := by
  have hbucket : ∀ number, b.joinBucket p number (b.readBack built.items number)
      (b.readBack probed.items number) =
        { items := (probed.items.filter fun r => b.numberOf r == number).flatMap fun r =>
            made (p.answer (b.beside built.items r) r.putAside) } := by
    intro number
    rw [joinBucket_of_ok]
    · simp only [readBack, List.flatMap_map]
      congr 2
      apply List.flatMap_congr
      intro r hr
      obtain ⟨-, hnumber⟩ := List.mem_filter.1 hr
      rw [beside, beq_iff_eq.1 hnumber, readBack]
    · intro s hs
      obtain ⟨r, hr, rfl, rfl⟩ := mem_readBack.1 hs
      exact h r hr
  rw [joinAll_eq hbuilt hprobed]
  simp only [hbucket]
  rw [Outcome.concat_of_ok (by simp)]
  simp [List.flatMap_map]

/-- A join in which every probe record has an answer in its bucket hands out all answers, in some
order, and reports nothing of its own. -/
theorem joinAll_of_ok {built probed : Outcome JoinRecord} (hbuilt : b.Separable built)
    (hprobed : b.Separable probed)
    (h : ∀ r ∈ probed.items, ∃ rows, p.answer (b.beside built.items r) r.putAside = .ok rows) :
    (b.joinAll p built probed).fault = none ∧
      (b.joinAll p built probed).failures = built.failures ++ probed.failures ∧
      (b.joinAll p built probed).items.Perm (probed.items.flatMap fun r =>
        made (p.answer (b.beside built.items r) r.putAside)) := by
  rw [joinAll_of_answers hbuilt hprobed h]
  refine ⟨rfl, rfl, ?_⟩
  have hlt : ∀ r ∈ probed.items, b.numberOf r < b.partitioning.count :=
    fun r hr => Partitioning.numberOf_lt (hprobed.placed r hr).2 r.key
  have hall := (Buckets.flatMap_buckets_perm hlt).flatMap_right
    fun r => made (p.answer (b.beside built.items r) r.putAside)
  rwa [List.flatMap_assoc] at hall

/-- With one bucket the answers are handed out in the order of the probe records. -/
theorem joinAll_of_one {built probed : Outcome JoinRecord} (hbuilt : b.Separable built)
    (hprobed : b.Separable probed) (hone : b.partitioning.count = 1)
    (h : ∀ r ∈ probed.items, ∃ rows, p.answer (b.beside built.items r) r.putAside = .ok rows) :
    (b.joinAll p built probed).items = probed.items.flatMap fun r =>
      made (p.answer (b.beside built.items r) r.putAside) := by
  have hlt : ∀ r ∈ probed.items, b.numberOf r < 1 :=
    fun r _ => hone ▸ Partitioning.numberOf_lt (by omega) r.key
  rw [joinAll_of_answers hbuilt hprobed h, bucketNumbers, hone, ← List.flatMap_assoc,
    Buckets.flatMap_buckets_one hlt]

/-- A join that ends well has set both of its sides apart. -/
theorem separable_of_joinAll {built probed : Outcome JoinRecord}
    (h : (b.joinAll p built probed).fault = none) : b.Separable built ∧ b.Separable probed := by
  unfold joinAll at h
  cases hbuilt : b.spill (fun r => r.key) JoinRecord.putAside built with
  | error fault => simp [hbuilt, Outcome.failed] at h
  | ok builtBuckets =>
    cases hprobed : b.spill (fun r => r.key) JoinRecord.putAside probed with
    | error fault => simp [hbuilt, hprobed, Outcome.failed] at h
    | ok probedBuckets =>
      exact ⟨(spill_records_eq_ok_iff.1 hbuilt).1, (spill_records_eq_ok_iff.1 hprobed).1⟩

/-- A join of which nothing failed had two clean sides and an answer for every probe record. -/
theorem of_joinAll_clean {built probed : Outcome JoinRecord}
    (h : (b.joinAll p built probed).Clean) :
    (b.Separable built ∧ built.failures = []) ∧ (b.Separable probed ∧ probed.failures = []) ∧
      ∀ r ∈ probed.items, ∃ rows, p.answer (b.beside built.items r) r.putAside = .ok rows := by
  obtain ⟨hbuilt, hprobed⟩ := separable_of_joinAll h.1
  rw [joinAll_eq hbuilt hprobed] at h
  obtain ⟨hfault, hfailures⟩ := h
  simp only [List.append_eq_nil_iff] at hfailures
  refine ⟨⟨hbuilt, hfailures.1.1⟩, ⟨hprobed, hfailures.1.2⟩, fun r hr => ?_⟩
  have hlt := Partitioning.numberOf_lt (hprobed.placed r hr).2 r.key
  have hclean := (Outcome.concat_clean ⟨hfault, hfailures.2⟩).1 _
    (List.mem_map_of_mem (List.mem_range.2 hlt))
  exact ok_of_joinBucket_clean hclean _ (mem_readBack.2 ⟨r, hr, rfl, rfl⟩)

/-- With a hash that agrees on equal keys, the partners of a probe record are all in its bucket, in
the order in which they were built. -/
theorem partners_beside {built : List JoinRecord} {record : JoinRecord}
    (hkeys : ∀ s ∈ built, s.key.check = .ok ())
    (hhash : ∀ s ∈ built, Key.equal s.key record.key = true →
      b.partitioning.hash s.key = b.partitioning.hash record.key) :
    JoinPlan.partners (b.beside built record) record.putAside =
      JoinPlan.partners (built.map JoinRecord.putAside) record.putAside := by
  simp only [JoinPlan.partners, beside, readBack, List.filter_map, List.filter_filter]
  congr 1
  apply List.filter_congr
  intro s hs
  by_cases hjoin : Key.joins s.putAside.key record.putAside.key = true
  · have hequal : Key.equal s.key record.key = true := by
      simp only [Key.joins, Bool.and_eq_true] at hjoin
      exact Key.equal_of_forget (hkeys s hs) hjoin.2
    have hsame : b.numberOf s = b.numberOf record := by
      simp only [numberOf, Partitioning.numberOf, hhash s hs hequal]
    simp [hsame]
  · simp [hjoin]

end Backend

end TablePipeline
