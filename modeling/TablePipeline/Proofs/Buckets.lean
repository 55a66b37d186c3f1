import Mathlib
import TablePipeline.Proofs.Outcome
import TablePipeline.Run.Backend

/-!
Buckets are a partition of what is set apart. Every record lands in exactly one of them, in the
order in which it came, and records with equal keys land in the same one, as long as the hash gives
equal keys equal numbers. So a treatment of one bucket after the other that looks only at records
with equal keys does what it would do with all records at once.
-/
namespace TablePipeline

namespace Partitioning

/-- The hash gives equal keys equal numbers. -/
def Consistent (p : Partitioning) (ks ls : List Key) : Prop :=
  ∀ k ∈ ks, ∀ l ∈ ls, Key.equal k l = true → p.hash k = p.hash l

instance (p : Partitioning) (ks ls : List Key) : Decidable (p.Consistent ks ls) :=
  inferInstanceAs (Decidable (∀ k ∈ ks, ∀ l ∈ ls, Key.equal k l = true → p.hash k = p.hash l))

/-- The number of the bucket in which a key lands. -/
def numberOf (p : Partitioning) (key : Key) : ℕ := p.hash key % p.count

theorem bucketOf_eq_ok_iff (p : Partitioning) (key : Key) (number : ℕ) :
    p.bucketOf key = .ok number ↔
      key.check = .ok () ∧ 0 < p.count ∧ number = p.numberOf key := by
  unfold bucketOf numberOf
  rw [bind_eq_ok]
  by_cases h : p.count = 0
  · simp [h]
  · simp only [beq_iff_eq, h, if_false, Nat.pos_of_ne_zero h, true_and]
    exact ⟨fun ⟨_, hc, hn⟩ => ⟨hc, (Except.ok.inj hn).symm⟩, fun ⟨hc, hn⟩ => ⟨(), hc, by rw [hn]⟩⟩

theorem numberOf_lt {p : Partitioning} (h : 0 < p.count) (key : Key) : p.numberOf key < p.count :=
  Nat.mod_lt _ h

end Partitioning

namespace Buckets

variable {α β : Type}

/-- Setting records apart succeeds if all of them have keys with hashes and there are buckets, and
then gives each record the number of its bucket. -/
theorem ofRecords_eq_ok_iff {p : Partitioning} {key : α → Key} {putAside : α → α}
    {records : List α} {buckets : Buckets α} :
    ofRecords p key putAside records = .ok buckets ↔
      p.fault? = none ∧ (∀ r ∈ records, (key r).check = .ok () ∧ 0 < p.count) ∧
        buckets = records.map fun r => (p.numberOf (key r), putAside r) := by
  unfold ofRecords
  cases hf : p.fault? with
  | some stop => simp
  | none =>
    simp only [mapM_eq_ok_iff, true_and]
    constructor
    · intro h
      have hall : ∀ r ∈ records, ∃ entry, (do .ok (← p.bucketOf (key r), putAside r) :
          Except EvalFault (ℕ × α)) = .ok entry := by
        intro r hr
        obtain ⟨entry, -, he⟩ := List.mem_map.1 (h ▸ List.mem_map_of_mem hr)
        exact ⟨entry, he.symm⟩
      have heach : ∀ r ∈ records, p.bucketOf (key r) = .ok (p.numberOf (key r)) ∧
          (key r).check = .ok () ∧ 0 < p.count := by
        intro r hr
        obtain ⟨_, hentry⟩ := hall r hr
        obtain ⟨number, hb, _⟩ := bind_eq_ok.1 hentry
        obtain ⟨hcheck, hcount, rfl⟩ := (p.bucketOf_eq_ok_iff _ _).1 hb
        exact ⟨hb, hcheck, hcount⟩
      refine ⟨fun r hr => (heach r hr).2, map_ok_injective (h.symm.trans ?_)⟩
      rw [List.map_map]
      exact List.map_congr_left fun r hr => by rw [(heach r hr).1]; rfl
    · rintro ⟨hall, rfl⟩
      rw [List.map_map]
      apply List.map_congr_left
      intro r hr
      rw [(p.bucketOf_eq_ok_iff _ _).2 ⟨(hall r hr).1, (hall r hr).2, rfl⟩]
      rfl

/-- A bucket holds the records that landed in it, in their order. -/
theorem bucket_map (place : α → ℕ) (putAside : α → β) (records : List α) (number : ℕ) :
    bucket (records.map fun r => (place r, putAside r)) number =
      (records.filter fun r => place r == number).map putAside := by
  simp [bucket, List.filter_map, Function.comp_def]

/-- The buckets up to a number hold what landed below it: by induction on the number. -/
theorem flatMap_range_perm (place : α → ℕ) (records : List α) (count : ℕ) :
    ((List.range count).flatMap fun number => records.filter fun r => place r == number).Perm
      (records.filter fun r => place r < count) := by
  induction count with
  | zero => simp
  | succ count ih =>
    have hbelow : (records.filter fun r => place r < count + 1).filter (fun r => place r < count) =
        records.filter fun r => place r < count := by
      rw [List.filter_filter]
      exact List.filter_congr fun r _ => by grind
    have hlast : (records.filter fun r => place r < count + 1).filter
        (fun r => !decide (place r < count)) = records.filter fun r => place r == count := by
      rw [List.filter_filter]
      exact List.filter_congr fun r _ => by grind
    have hcut := List.filter_append_perm (fun r => decide (place r < count))
      (records.filter fun r => place r < count + 1)
    rw [hbelow, hlast] at hcut
    rw [List.range_succ, List.flatMap_append, List.flatMap_singleton]
    exact (ih.append_right _).trans hcut

/-- All buckets together hold every record once. -/
theorem flatMap_buckets_perm {place : α → ℕ} {records : List α} {count : ℕ}
    (h : ∀ r ∈ records, place r < count) :
    ((List.range count).flatMap fun number => records.filter fun r => place r == number).Perm
      records := by
  have hall := flatMap_range_perm place records count
  rwa [List.filter_eq_self.2 fun r hr => by simpa using h r hr] at hall

/-- One bucket alone holds the records as they came. -/
theorem flatMap_buckets_one {place : α → ℕ} {records : List α} (h : ∀ r ∈ records, place r < 1) :
    ((List.range 1).flatMap fun number => records.filter fun r => place r == number) = records := by
  have hall : (records.filter fun r => place r == 0) = records :=
    List.filter_eq_self.2 fun r hr => by simpa using h r hr
  simpa using hall

end Buckets

namespace Backend

variable {α : Type}

/-- A stage is set apart once it has ended well. -/
theorem spill_eq_ok_iff {b : Backend} {key : α → Key} {putAside : α → α} {records : Outcome α}
    {buckets : Buckets α} :
    b.spill key putAside records = .ok buckets ↔
      records.fault = none ∧ Buckets.ofRecords b.partitioning key putAside records.items =
        .ok buckets := by
  unfold spill
  rw [bind_eq_ok]
  cases records.fault with
  | some fault => simp
  | none => simp [mapError_eq_ok]

end Backend

/-- A backend with two buckets. -/
def twoBuckets : Backend := { partitioning := { count := 2 } }

end TablePipeline
