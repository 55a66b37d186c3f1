import Mathlib
import TablePipeline.Proofs.Number
import TablePipeline.Proofs.Outcome
import TablePipeline.Proofs.StableSort
import TablePipeline.Join.Plan

/-!
Rolling values on a scale. Integers and points of time stand at exact places on a line, so comparing
them compares their places, their differences are the distances, and a limit bounds the distance.
-/
namespace TablePipeline

theorem Relation.holds_lt_compare {α : Type} [LinearOrder α] (a b : α) :
    Relation.lt.holds (compare a b) = decide (a < b) := by
  rw [Bool.eq_iff_iff]
  simp [holds, compare_lt_iff_lt]

theorem Relation.holds_le_compare {α : Type} [LinearOrder α] (a b : α) :
    Relation.le.holds (compare a b) = decide (a ≤ b) := by
  rw [Bool.eq_iff_iff]
  simp [holds, compare_gt_iff_gt]

/-- What the rolling values of a join are. -/
inductive RollScale where
  | integers
  | days
  | times

namespace RollScale

/-- The place of a value: an integer itself, or a point of time in microseconds. -/
def place? : RollScale → Value → Option ℤ
  | integers, v =>
    match v.number? with
    | some (.int i) => some i
    | _ => none
  | days, .date d => some (d.ordinal * Duration.perDay)
  | times, .datetime t => some t.instant
  | _, _ => none

/-- The largest distance that a limit allows. -/
def bound? : RollScale → Value → Option (WithBot (WithTop ℚ))
  | integers, limit => limit.number?.bind Number.rank?
  | _, .duration d => some (((d.microseconds : ℚ) : WithTop ℚ) : WithBot (WithTop ℚ))
  | _, _ => none

/-- A limit can be compared with distances on the scale. -/
def Suits (k : RollScale) (limit? : Option Value) : Prop :=
  ∀ limit ∈ limit?, ∃ bound, k.bound? limit = some bound

/-- A distance is within a limit, if there is one. -/
def Within (k : RollScale) (limit? : Option Value) (gap : ℤ) : Prop :=
  ∀ limit ∈ limit?, ∀ bound ∈ k.bound? limit, (((gap : ℚ) : WithTop ℚ) : WithBot (WithTop ℚ)) ≤ bound

theorem coe_le_coe_iff (m n : ℤ) :
    ((((m : ℚ) : WithTop ℚ) : WithBot (WithTop ℚ)) ≤ ((n : ℚ) : WithTop ℚ)) ↔ m ≤ n := by
  exact_mod_cast Iff.rfl

/-- What is nearer than something within the limit is within it. -/
theorem Within.mono {k : RollScale} {limit? : Option Value} {gap gap' : ℤ}
    (h : k.Within limit? gap') (hle : gap ≤ gap') : k.Within limit? gap := by
  intro limit hlimit bound hbound
  exact ((coe_le_coe_iff gap gap').2 hle).trans (h limit hlimit bound hbound)

variable {k : RollScale} {x y : Value} {i j : ℤ}

/-- Where a value on the scale stands, and what it is. -/
theorem place?_eq_some_iff :
    k.place? x = some i ↔
      match k with
      | integers => x.number? = some (.int i)
      | days => ∃ d : Date, x = .date d ∧ i = d.ordinal * Duration.perDay
      | times => ∃ t : DateTime, x = .datetime t ∧ i = t.instant := by
  cases k with
  | integers =>
    simp only [place?]
    cases hx : x.number? with
    | none => simp
    | some n => cases n <;> simp
  | days => cases x <;> simp [place?, eq_comm]
  | times => cases x <;> simp [place?, eq_comm]

@[simp] theorem place?_null (k : RollScale) : k.place? .null = none := by
  cases k <;> rfl

theorem isNull_of_place? (h : k.place? x = some i) : x.isNull = false := by
  cases x with
  | null => simp at h
  | _ => rfl

/-- Values on the scale have no marks to lose. -/
theorem place?_forget (k : RollScale) (all : Bool) (x : Value) :
    k.place? (x.forget all) = k.place? x := by
  cases x with
  | float z =>
    cases z with
    | nan m => cases m <;> cases k <;> rfl
    | _ => rfl
  | _ => cases k <;> rfl

theorem related_of_number (r : Relation) {m n : Number} (hm : x.number? = some m)
    (hn : y.number? = some n) :
    Datum.related r x y = .ok (((m.compare? n).map r.holds).getD false) := by
  have hscalar : Datum.scalarOrder? x y = some (m.compare? n) := by
    cases x <;> simp [Datum.number?] at hm <;> cases y <;> simp [Datum.number?] at hn <;>
      simp [Datum.scalarOrder?, Datum.number?, hm, hn]
  have hrelated : Datum.related r x y = Datum.scalarRelated r x y := by
    cases x <;> simp [Datum.number?] at hm <;> rfl
  rw [hrelated, Datum.scalarRelated, hscalar]
  cases m.compare? n <;> rfl

/-- Comparing two values compares their places. -/
theorem less_eq (hx : k.place? x = some i) (hy : k.place? y = some j) :
    Datum.less x y = .ok (decide (i < j)) := by
  rw [place?_eq_some_iff] at hx hy
  cases k with
  | integers =>
    rw [Datum.less, related_of_number .lt hx hy, Number.compare?_eq]
    simp [Relation.holds_lt_compare]
  | days =>
    obtain ⟨d, rfl, rfl⟩ := hx
    obtain ⟨e, rfl, rfl⟩ := hy
    have hday : 0 < Duration.perDay := by decide
    have hsame : ((d.ordinal : ℤ) * Duration.perDay < e.ordinal * Duration.perDay) ↔
        d.ordinal < e.ordinal := by rw [mul_lt_mul_iff_left₀ hday, Nat.cast_lt]
    rw [decide_eq_decide.2 hsame, ← Relation.holds_lt_compare]
    rfl
  | times =>
    obtain ⟨t, rfl, rfl⟩ := hx
    obtain ⟨u, rfl, rfl⟩ := hy
    rw [decide_eq_decide.2 Nat.cast_lt, ← Relation.holds_lt_compare]
    rfl

theorem eq_duration_of_bound? {limit : Value} {bound : WithBot (WithTop ℚ)} (hk : k ≠ integers)
    (h : k.bound? limit = some bound) :
    ∃ d : Duration, limit = .duration d ∧
      bound = (((d.microseconds : ℚ) : WithTop ℚ) : WithBot (WithTop ℚ)) := by
  cases k with
  | integers => exact absurd rfl hk
  | _ => cases limit <;> simp_all [bound?]

theorem related_duration (d e : Duration) :
    Datum.related (φ := Empty) .le (.duration d) (.duration e) =
      .ok (decide (d.microseconds ≤ e.microseconds)) := by
  rw [← Relation.holds_le_compare]
  rfl

theorem sub_integers (hx : integers.place? x = some i) (hy : integers.place? y = some j) :
    Datum.sub x y = .ok (.int (i - j)) := by
  rw [place?_eq_some_iff] at hx hy
  have harith : Datum.sub x y = Datum.arithmetic "-" Number.sub x y := by
    cases x <;> simp [Datum.number?] at hx <;> rfl
  rw [harith, Datum.arithmetic, hx, hy]
  rfl

/-- The difference of two values is their distance, and a limit that suits the scale bounds it. -/
theorem gap_related {limit : Value} {bound : WithBot (WithTop ℚ)} (hx : k.place? x = some i)
    (hy : k.place? y = some j) (hlimit : k.bound? limit = some bound) :
    ∃ gap near, Datum.sub x y = .ok gap ∧ Datum.related .le gap limit = .ok near ∧
      (near = true ↔ ((((i - j : ℤ) : ℚ) : WithTop ℚ) : WithBot (WithTop ℚ)) ≤ bound) := by
  cases k with
  | integers =>
    obtain ⟨m, hm, hrank⟩ := Option.bind_eq_some_iff.1 hlimit
    refine ⟨_, _, sub_integers hx hy, related_of_number .le rfl hm, ?_⟩
    rw [Number.compare?_eq, hrank]
    simp [Relation.holds_le_compare]
  | days =>
    obtain ⟨d, rfl, rfl⟩ := place?_eq_some_iff.1 hx
    obtain ⟨e, rfl, rfl⟩ := place?_eq_some_iff.1 hy
    obtain ⟨l, rfl, rfl⟩ := eq_duration_of_bound? (by simp) hlimit
    refine ⟨_, _, rfl, related_duration _ _, ?_⟩
    have hparts : (Duration.ofParts ((d.ordinal : ℤ) - e.ordinal) 0 0).microseconds =
        d.ordinal * Duration.perDay - e.ordinal * Duration.perDay := by
      simp only [Duration.ofParts]
      ring
    rw [hparts, decide_eq_true_iff]
    exact (coe_le_coe_iff _ _).symm
  | times =>
    obtain ⟨t, rfl, rfl⟩ := place?_eq_some_iff.1 hx
    obtain ⟨u, rfl, rfl⟩ := place?_eq_some_iff.1 hy
    obtain ⟨l, rfl, rfl⟩ := eq_duration_of_bound? (by simp) hlimit
    refine ⟨_, _, rfl, related_duration _ _, ?_⟩
    rw [decide_eq_true_iff]
    exact (coe_le_coe_iff _ _).symm

end RollScale

namespace JoinPlan

/-- How far a built value lies from a probe value, in the direction in which a join looks. -/
def gap (p : JoinPlan) (probed built : ℤ) : ℤ :=
  if p.kind = .forward then built - probed else probed - built

/-- Whether two values are near enough is whether their distance is within the limit. -/
theorem isNear_eq {p : JoinPlan} {k : RollScale} {probed built : Value} {y x : ℤ}
    (hy : k.place? probed = some y) (hx : k.place? built = some x) (hlimit : k.Suits p.limit?) :
    ∃ near, p.isNear probed built = .ok near ∧
      (near = true ↔ k.Within p.limit? (p.gap y x)) := by
  unfold isNear gap RollScale.Within
  cases hl : p.limit? with
  | none => exact ⟨true, rfl, by simp⟩
  | some limit =>
    obtain ⟨bound, hbound⟩ := hlimit limit (by rw [hl]; rfl)
    by_cases hforward : p.kind = .forward
    · obtain ⟨gap, near, hgap, hnear, hiff⟩ := RollScale.gap_related hx hy hbound
      exact ⟨near, by simp [hforward, hgap, hnear], by simpa [hforward, hbound] using hiff⟩
    · obtain ⟨gap, near, hgap, hnear, hiff⟩ := RollScale.gap_related hy hx hbound
      exact ⟨near, by simp [hforward, hgap, hnear], by simpa [hforward, hbound] using hiff⟩

end JoinPlan

end TablePipeline
