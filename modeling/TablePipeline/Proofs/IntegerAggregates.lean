import Mathlib
import TablePipeline.Func.Aggregate
import TablePipeline.Proofs.Outcome

/-!
Aggregates of integers. Of integers and missing values, the built-in aggregates that leave missing
values out come to the least and the greatest of the integers, their sum, their mean and their
number. None of these depends on the order of the values, so neither do the aggregates.
-/
namespace TablePipeline.Aggregate

/-- An integer or a missing value. -/
def IsIntegral (v : Value) : Prop := v = .null ∨ ∃ i : ℤ, v = .int i

/-- The integers among values. -/
def integers (vs : List Value) : List ℤ :=
  vs.filterMap fun v =>
    match v with
    | .int i => some i
    | _ => none

/-- The integers are what is there. -/
theorem present_eq {vs : List Value} (h : ∀ v ∈ vs, IsIntegral v) :
    present vs = (integers vs).map .int := by
  induction vs with
  | nil => rfl
  | cons v vs ih =>
    have hrest := ih fun w hw => h w (List.mem_cons_of_mem v hw)
    rcases h v List.mem_cons_self with rfl | ⟨i, rfl⟩
    · exact hrest
    · exact congrArg (.int i :: ·) hrest

theorem isEmpty_present {vs : List Value} (h : ∀ v ∈ vs, IsIntegral v) :
    (present vs).isEmpty = (integers vs).isEmpty := by
  rw [present_eq h, List.isEmpty_map]

/-! ### The least and the greatest -/

/-- Integers have the order of their values. -/
theorem related_int (r : Relation) (i j : ℤ) :
    Datum.related r (.int i : Value) (.int j) = .ok (r.holds (compare i j)) := by
  simp [Datum.related, Datum.scalarRelated, Datum.scalarOrder?, Datum.number?, Number.compare?,
    Number.isNaN, Number.toDyadic?]

/-- A scan for what stands first in a relation keeps the better of two integers at every step. -/
theorem foldlM_extreme {r : Relation} {better : ℤ → ℤ → ℤ}
    (hbetter : ∀ i j : ℤ, (if r.holds (compare j i) then j else i) = better i j) (is : List ℤ)
    (i : ℤ) :
    (is.map .int).foldlM (fun best w => do
        if ← Datum.related r w best then pure w else pure best) (.int i : Value) =
      .ok (.int (is.foldl better i)) := by
  induction is generalizing i with
  | nil => rfl
  | cons j is ih =>
    rw [List.map_cons, List.foldlM_cons, related_int, ok_bind, List.foldl_cons, ← hbetter]
    split_ifs <;> exact ih _

/-- What stands first in a relation among integers is what a fold of the better one of two comes
to. -/
theorem extreme_eq {r : Relation} {better : ℤ → ℤ → ℤ} {best? : List ℤ → Option ℤ}
    (hbetter : ∀ i j : ℤ, (if r.holds (compare j i) then j else i) = better i j)
    (hnone : best? [] = none) (hsome : ∀ i is, best? (i :: is) = some (is.foldl better i))
    (is : List ℤ) : extreme r (is.map .int) = .ok ((best? is).elim .null .int) := by
  cases is with
  | nil => rw [hnone]; rfl
  | cons i is => rw [hsome, List.map_cons, extreme, foldlM_extreme hbetter]; rfl

theorem min_eq {vs : List Value} (h : ∀ v ∈ vs, IsIntegral v) :
    min vs = .ok ((integers vs).min?.elim .null .int) := by
  have hbetter : ∀ i j : ℤ, (if Relation.lt.holds (compare j i) then j else i) = Min.min i j := by
    intro i j
    simp only [Relation.holds, beq_iff_eq, compare_lt_iff_lt]
    omega
  rw [min, present_eq h]
  exact extreme_eq hbetter rfl (fun _ _ => List.min?_cons') _

theorem max_eq {vs : List Value} (h : ∀ v ∈ vs, IsIntegral v) :
    max vs = .ok ((integers vs).max?.elim .null .int) := by
  have hbetter : ∀ i j : ℤ, (if Relation.gt.holds (compare j i) then j else i) = Max.max i j := by
    intro i j
    simp only [Relation.holds, beq_iff_eq, compare_gt_iff_gt]
    omega
  rw [max, present_eq h]
  exact extreme_eq hbetter rfl (fun _ _ => List.max?_cons') _

/-! ### Sum, mean and number -/

theorem foldlM_add (is : List ℤ) (i : ℤ) :
    (is.map .int).foldlM Datum.add (.int i : Value) = .ok (.int (i + is.sum)) := by
  induction is generalizing i with
  | nil => simp
  | cons j is ih =>
    have hadd : Datum.add (.int i : Value) (.int j) = .ok (.int (i + j)) := rfl
    rw [List.map_cons, List.foldlM_cons, hadd, ok_bind, ih, List.sum_cons, add_assoc]

theorem total_eq (is : List ℤ) : total (is.map .int) = .ok (.int is.sum) := by
  rw [total, foldlM_add, zero_add]

theorem sum_eq {vs : List Value} (h : ∀ v ∈ vs, IsIntegral v) :
    sum vs = .ok (if (integers vs).isEmpty then .null else .int (integers vs).sum) := by
  rw [sum, isEmpty_present h, present_eq h, total_eq]
  split_ifs <;> rfl

/-- The mean is the sum of the integers, divided by how many there are; nothing of none. -/
theorem avg_eq {vs : List Value} (h : ∀ v ∈ vs, IsIntegral v) :
    avg vs = if (integers vs).isEmpty then .ok .null else
      ((Number.int (integers vs).sum).divCount (integers vs).length).map Datum.ofNumber := by
  rw [avg, isEmpty_present h, present_eq h, total_eq, List.length_map]
  rfl

theorem count_eq {vs : List Value} (h : ∀ v ∈ vs, IsIntegral v) :
    count vs = .ok (.int (integers vs).length) := by
  rw [count, present_eq h, List.length_map]

/-! ### Any order -/

theorem integers_perm {vs vs' : List Value} (h : vs.Perm vs') : (integers vs).Perm (integers vs') :=
  h.filterMap _

theorem min?_perm {is js : List ℤ} (h : is.Perm js) : is.min? = js.min? := by
  ext i
  simp only [List.min?_eq_some_iff, h.mem_iff]

theorem max?_perm {is js : List ℤ} (h : is.Perm js) : is.max? = js.max? := by
  ext i
  simp only [List.max?_eq_some_iff, h.mem_iff]

/-- The names of the built-in aggregates that ask only which values there are. -/
def orderless : List String := ["min", "max", "sum", "avg", "mean", "count"]

theorem apply_aggregate (name : String) (apply : List Value → Except EvalFault Value)
    (vs : List Value) :
    (Func.aggregate name apply).apply [.list vs] = (apply vs).mapError Fault.eval := rfl

/-- An aggregate that asks only which values there are comes to the same in any order of integers
and missing values. -/
theorem apply_perm {name : String} (hname : name ∈ orderless) {f : Func}
    (hf : byName? name = some f) {vs vs' : List Value} (h : ∀ v ∈ vs, IsIntegral v)
    (hperm : vs.Perm vs') : f.apply [.list vs] = f.apply [.list vs'] := by
  have h' : ∀ v ∈ vs', IsIntegral v := fun v hv => h v (hperm.mem_iff.2 hv)
  have hintegers := integers_perm hperm
  have hempty : (integers vs).isEmpty = (integers vs').isEmpty := by
    rw [Bool.eq_iff_iff, List.isEmpty_iff_length_eq_zero, List.isEmpty_iff_length_eq_zero,
      hintegers.length_eq]
  have havg : avg vs = avg vs' := by
    rw [avg_eq h, avg_eq h', hempty, hintegers.sum_eq, hintegers.length_eq]
  -- Each name stands for one function, which is settled by what it comes to of integers.
  simp only [orderless, List.mem_cons, List.not_mem_nil, or_false] at hname
  rcases hname with rfl | rfl | rfl | rfl | rfl | rfl
  · obtain rfl : Func.aggregate "agg_min" min = f := Option.some.inj hf
    rw [apply_aggregate, apply_aggregate, min_eq h, min_eq h', min?_perm hintegers]
  · obtain rfl : Func.aggregate "agg_max" max = f := Option.some.inj hf
    rw [apply_aggregate, apply_aggregate, max_eq h, max_eq h', max?_perm hintegers]
  · obtain rfl : Func.aggregate "agg_sum" sum = f := Option.some.inj hf
    rw [apply_aggregate, apply_aggregate, sum_eq h, sum_eq h', hempty, hintegers.sum_eq]
  · obtain rfl : Func.aggregate "agg_avg" avg = f := Option.some.inj hf
    rw [apply_aggregate, apply_aggregate, havg]
  · obtain rfl : Func.aggregate "agg_avg" avg = f := Option.some.inj hf
    rw [apply_aggregate, apply_aggregate, havg]
  · obtain rfl : Func.aggregate "agg_count" count = f := Option.some.inj hf
    rw [apply_aggregate, apply_aggregate, count_eq h, count_eq h', hintegers.length_eq]

end TablePipeline.Aggregate
