import Mathlib
import TablePipeline.Proofs.StableSort
import TablePipeline.Sorting.External
import TablePipeline.Sorting.Order
import TablePipeline.Source

/-!
Sorting in chunks is stable sorting. Each chunk is sorted stably, and a merge that prefers the
earlier run keeps, of every class of equal items, those of the earlier chunk first. So whatever the
size of the chunks, the result is the one stable sort of all items; only whether the rows were put
aside on the way, and came back as copies, depends on it.
-/
namespace TablePipeline.Sorting

variable {α : Type} {less : α → α → Except Fault Bool} {le : α → α → Bool}

/-! ### Merging two runs -/

/-- A merge by a comparison that decides an order meets no failure. -/
theorem merge_eq {xs ys : List α} (hless : Decides less le (xs ++ ys)) :
    merge less xs ys none = ⟨List.merge xs ys le, none⟩ := by
  induction xs generalizing ys with
  | nil => simp [merge]
  | cons x xs ihx =>
    induction ys with
    | nil => simp [merge]
    | cons y ys ihy =>
      have hyx : less y x = .ok !le x y := hless y (by simp) x (by simp)
      rw [merge, hyx, List.cons_merge_cons]
      cases hxy : le x y with
      | true =>
        have hrest : Decides less le (xs ++ y :: ys) := hless.mono (by simp)
        simp [ihx hrest, Feed.cons]
      | false =>
        have hrest : Decides less le (x :: xs ++ ys) := hless.mono (by
          intro a ha
          simp only [List.mem_append, List.mem_cons] at ha ⊢
          tauto)
        simp [ihy hrest, Feed.cons]

section Order

variable (htotal : ∀ a b, (le a b || le b a) = true)
  (htrans : ∀ a b c, le a b = true → le b c = true → le a c = true)

include htrans in
/-- Of every class of equal items, a merge hands out those of the first run first: an item of the
second run goes ahead only of items that are all greater, and so in other classes. -/
theorem filter_merge {xs : List α} (hxs : xs.Pairwise fun a b => le a b = true) (ys : List α)
    (a : α) :
    (List.merge xs ys le).filter (alike le a) =
      xs.filter (alike le a) ++ ys.filter (alike le a) := by
  induction xs generalizing ys with
  | nil => simp
  | cons x xs ihx =>
    obtain ⟨hx, hrest⟩ := List.pairwise_cons.1 hxs
    induction ys with
    | nil => simp
    | cons y ys ihy =>
      rw [List.cons_merge_cons]
      cases hxy : le x y with
      | true =>
        simp only [if_true, List.filter_cons (x := x), ihx hrest]
        cases alike le a x <;> simp
      | false =>
        simp only [Bool.false_eq_true, if_false, List.filter_cons (x := y), ihy]
        cases hay : alike le a y with
        | false => simp
        | true =>
          have hnone : (x :: xs).filter (alike le a) = [] := by
            rw [List.filter_eq_nil_iff]
            intro b hb hab
            have hxb : le x b = true := by
              rcases List.mem_cons.1 hb with rfl | hb
              · simp only [alike, Bool.and_eq_true] at hab
                exact htrans b a b hab.2 hab.1
              · exact hx b hb
            simp only [alike, Bool.and_eq_true] at hab hay
            rw [htrans x b y hxb (htrans b a y hab.2 hay.1)] at hxy
            cases hxy
          simp [hnone]

include htotal htrans in
/-- Merging stable sorts of two lists is sorting the lists, one after the other, stably. -/
theorem isStableSort_merge {xs ys front more : List α} (hxs : IsStableSort le xs front)
    (hys : IsStableSort le ys more) : IsStableSort le (List.merge xs ys le) (front ++ more) where
  sorted := List.pairwise_merge htrans htotal xs ys hxs.sorted hys.sorted
  kept a := by
    rw [filter_merge htrans hxs.sorted, hxs.kept a, hys.kept a, List.filter_append]

/-! ### Merging all runs -/

include htotal htrans in
/-- Merging the stable sorts of some lists: by induction on the runs, the last of which are merged
first. -/
theorem mergeAll_eq {runs : List (List α)} (hless : Decides less le runs.flatten) :
    ∃ result : List α, mergeAll less (runs.map (List.mergeSort · le)) = ⟨result, none⟩ ∧
      IsStableSort le result runs.flatten := by
  induction runs with
  | nil => exact ⟨[], rfl, by simp, by simp⟩
  | cons run runs ih =>
    rw [List.flatten_cons] at hless
    obtain ⟨rest, hmerged, hrest⟩ := ih (hless.mono (List.subset_append_right run _))
    have hrun := isStableSort_mergeSort htotal htrans run
    have hsub : run.mergeSort le ++ rest ⊆ run ++ runs.flatten := by
      intro a ha
      rw [List.mem_append, (hrun.perm htotal).mem_iff, (hrest.perm htotal).mem_iff] at ha
      exact List.mem_append.2 ha
    refine ⟨List.merge (run.mergeSort le) rest le, ?_, ?_⟩
    · rw [mergeAll] at hmerged
      rw [mergeAll, List.map_cons, List.foldr_cons, hmerged]
      exact merge_eq (hless.mono hsub)
    · rw [List.flatten_cons]
      exact isStableSort_merge htotal htrans hrun hrest

include htotal htrans in
/-- The chunks of a feed that does not break off, each of them sorted. -/
theorem mapM_sort_eq {runs : List (List α)} (hless : Decides less le runs.flatten) :
    runs.mapM (sort less) = .ok (runs.map (List.mergeSort · le)) := by
  rw [mapM_eq_ok_iff, List.map_map]
  apply List.map_congr_left
  intro run hrun
  exact sort_eq_mergeSort htotal htrans (hless.mono fun a ha => List.mem_flatten.2 ⟨run, hrun, ha⟩)

end Order

/-! ### Runs that were put aside -/

section Aside

variable {putAside : α → α}

/-- Merging runs of copies that compare like the items. -/
theorem merge_map {xs ys : List α} (fault : Option Fault)
    (hcopy : ∀ a ∈ xs ++ ys, ∀ b ∈ xs ++ ys, less (putAside a) (putAside b) = less a b) :
    merge less (xs.map putAside) (ys.map putAside) fault =
      (merge less xs ys fault).map putAside := by
  induction xs generalizing ys with
  | nil => simp [merge, Feed.map]
  | cons x xs ihx =>
    induction ys with
    | nil => cases fault <;> simp [merge, Feed.map, Feed.failed]
    | cons y ys ihy =>
      have hyx := hcopy y (by simp) x (by simp)
      rw [List.map_cons, List.map_cons, merge, merge, hyx]
      cases less y x with
      | error stop => rfl
      | ok first =>
        cases first with
        | true =>
          have hrest := ihy fun a ha b hb => hcopy a (by simp_all; tauto) b (by simp_all; tauto)
          rw [List.map_cons] at hrest
          simp only [hrest]
          rfl
        | false =>
          have hrest := @ihx (y :: ys) fun a ha b hb =>
            hcopy a (List.mem_cons_of_mem _ ha) b (List.mem_cons_of_mem _ hb)
          rw [List.map_cons] at hrest
          simp only [hrest]
          rfl

variable (htotal : ∀ a b, (le a b || le b a) = true)
  (htrans : ∀ a b c, le a b = true → le b c = true → le a c = true)

include htotal htrans in
theorem mergeAll_map {runs : List (List α)} (hless : Decides less le runs.flatten)
    (hcopy : ∀ a ∈ runs.flatten, ∀ b ∈ runs.flatten,
      less (putAside a) (putAside b) = less a b) :
    mergeAll less ((runs.map (List.mergeSort · le)).map (List.map putAside)) =
      (mergeAll less (runs.map (List.mergeSort · le))).map putAside := by
  induction runs with
  | nil => rfl
  | cons run runs ih =>
    rw [List.flatten_cons] at hless hcopy
    have hless' := hless.mono (List.subset_append_right run _)
    have hcopy' := ih hless' fun a ha b hb =>
      hcopy a (List.mem_append_right _ ha) b (List.mem_append_right _ hb)
    obtain ⟨rest, hmerged, hrest⟩ := mergeAll_eq htotal htrans hless'
    have hmem : ∀ a ∈ run.mergeSort le ++ rest, a ∈ run ++ runs.flatten := by
      intro a ha
      have hrun := isStableSort_mergeSort htotal htrans run
      rw [List.mem_append, (hrun.perm htotal).mem_iff, (hrest.perm htotal).mem_iff] at ha
      exact List.mem_append.2 ha
    have hstep : merge less ((run.mergeSort le).map putAside) (rest.map putAside) none =
        (merge less (run.mergeSort le) rest none).map putAside :=
      merge_map none fun a ha b hb => hcopy a (hmem a ha) b (hmem b hb)
    rw [hmerged, mergeAll, List.map_map] at hcopy'
    rw [mergeAll] at hmerged
    simp only [mergeAll, List.map_cons, List.foldr_cons, hmerged, List.map_map, hcopy']
    exact hstep

include htotal htrans in
/-- Items that are sorted stably chunk by chunk and then merged are sorted stably. Copies have to
compare like the items only where items are put aside, which they are if they fill a chunk. -/
theorem externalSort_eq {size : ℕ} (hsize : 0 < size) {items : List α}
    (hless : Decides less le items)
    (hcopy : size ≤ items.length →
      ∀ a ∈ items, ∀ b ∈ items, less (putAside a) (putAside b) = less a b) :
    externalSort less putAside size ⟨items, none⟩ =
      ⟨(items.mergeSort le).map (if items.length < size then id else putAside), none⟩ := by
  have hflat : (Feed.pieces size items).flatten = items := Feed.pieces_flatten hsize items
  have hbatches : (Feed.batches size ⟨items, none⟩).items = Feed.pieces size items := rfl
  rw [← hflat] at hless
  obtain ⟨result, hmerged, hstable⟩ := mergeAll_eq htotal htrans hless
  have hresult : items.mergeSort le = result := by
    rw [hstable.eq_mergeSort htotal htrans, hflat]
  rw [externalSort, sortChunks, hbatches, mapM_sort_eq htotal htrans hless, hresult]
  rcases Nat.lt_or_ge items.length size with hshort | hlong
  · simp only [ok_bind, hshort, if_true, pure_eq_ok, hmerged, List.map_id]
  · have hcopies := hcopy hlong
    rw [← hflat] at hcopies
    have haside := mergeAll_map htotal htrans hless hcopies
    rw [hmerged] at haside
    simp only [ok_bind, Nat.not_lt.2 hlong, if_false, pure_eq_ok, haside]
    rfl

end Aside

/-! ### Comparisons -/

section Compare

variable {compare : α → α → Ordering} [Std.TransCmp compare]

/-- A comparison that is passed on gives an order. -/
theorem isLE_total (a b : α) : ((compare a b).isLE || (compare b a).isLE) = true := by
  have hswap : compare b a = (compare a b).swap := Std.OrientedCmp.eq_swap
  rw [hswap]
  cases compare a b <;> rfl

theorem alike_isLE (a : α) :
    alike (fun x y => (compare x y).isLE) a = fun b => compare a b == .eq := by
  funext b
  have hswap : compare b a = (compare a b).swap := Std.OrientedCmp.eq_swap
  rw [alike, hswap]
  cases compare a b <;> rfl

theorem lt_eq_not_isLE (a b : α) : (compare a b == .lt) = !(compare b a).isLE := by
  have hswap : compare b a = (compare a b).swap := Std.OrientedCmp.eq_swap
  rw [hswap]
  cases compare a b <;> rfl

end Compare

/-- A list is another one sorted stably by a comparison: with the same items, none of them greater
than a later one, and equal ones in their old order. -/
structure SortedStably (compare : α → α → Ordering) (result items : List α) : Prop where
  perm : result.Perm items
  sorted : result.Pairwise fun a b => compare a b ≠ .gt
  kept : ∀ a, result.filter (fun b => compare a b == .eq) = items.filter fun b => compare a b == .eq

theorem sortedStably_iff {compare : α → α → Ordering} [Std.TransCmp compare]
    {result items : List α} :
    SortedStably compare result items ↔
      IsStableSort (fun a b => (compare a b).isLE) result items := by
  have hle : ∀ o : Ordering, o ≠ .gt ↔ o.isLE = true := by decide
  constructor
  · intro h
    exact ⟨h.sorted.imp fun hab => (hle _).1 hab, fun a => by rw [alike_isLE, h.kept a]⟩
  · intro h
    exact ⟨h.perm isLE_total, h.sorted.imp fun hab => (hle _).2 hab, fun a => by
      rw [← alike_isLE, h.kept a]⟩

theorem SortedStably.eq_mergeSort {compare : α → α → Ordering} [Std.TransCmp compare]
    {result items : List α} (h : SortedStably compare result items) :
    result = items.mergeSort fun a b => (compare a b).isLE :=
  (sortedStably_iff.1 h).eq_mergeSort isLE_total fun _ _ _ => Std.TransCmp.isLE_trans

/-- A number of items that can be asked for is any positive one up to a limit. -/
theorem chunkSizeOf_int {chunk : ℤ} (hone : 1 ≤ chunk) :
    chunkSizeOf (.int chunk) =
      if chunk ≤ Source.maxCount then .ok chunk.toNat else .error (.eval .badCount) := by
  have hle : Datum.related .le (.int chunk : Arg) (.int 0) = .ok false := by
    have hgt : Ord.compare chunk 0 = .gt := compare_gt_iff_gt.2 (by omega)
    simp [Datum.related, Datum.scalarRelated, Datum.scalarOrder?, Datum.number?, Number.compare?,
      Number.isNaN, Number.toDyadic?, Relation.holds, hgt]
  rw [chunkSizeOf, hle]
  rfl

/-- Sorting rows gives the one stable sort of the rows, for every size of the chunks that can be
asked for: the rows as they are if they do not fill a chunk, and else as they are read back, which
must not change how they compare. A greater size is refused. -/
theorem sortRowsBy_eq_stableSort {compare : Row → Row → Ordering} [Std.TransCmp compare]
    {less : Row → Row → Except Fault Bool} {rows : List Row}
    (hless : ∀ a ∈ rows, ∀ b ∈ rows, less a b = .ok (compare a b == .lt))
    {folder : Arg} (hfolder : folder.requireFolder = .ok ()) :
    ∃ sorted, SortedStably compare sorted rows ∧
      (∀ other, SortedStably compare other rows → other = sorted) ∧
      ∀ chunk : ℤ, 1 ≤ chunk →
        (chunk ≤ rows.length → ∀ a ∈ rows, ∀ b ∈ rows,
          less (Datum.forgetItems true a) (Datum.forgetItems true b) = less a b) →
        sortRowsBy less (.int chunk) folder ⟨rows, none⟩ =
          if chunk ≤ Source.maxCount then
            ⟨if (rows.length : ℤ) < chunk then sorted
              else sorted.map (Datum.forgetItems true), none⟩
          else .failed (.eval .badCount) := by
  have htotal : ∀ a b : Row, ((compare a b).isLE || (compare b a).isLE) = true := isLE_total
  have htrans : ∀ a b c : Row, (compare a b).isLE = true → (compare b c).isLE = true →
      (compare a c).isLE = true := fun a b c => Std.TransCmp.isLE_trans
  have hdecides : Decides less (fun a b => (compare a b).isLE) rows := fun a ha b hb => by
    rw [hless a ha b hb, lt_eq_not_isLE]
  have hsort := isStableSort_mergeSort htotal htrans rows
  refine ⟨_, sortedStably_iff.2 hsort, fun other hother => ?_, fun chunk hone hcopy => ?_⟩
  · have hother := sortedStably_iff.1 hother
    exact IsStableSort.unique htotal hsort.sorted
      ⟨hother.sorted, fun a => (hother.kept a).trans (hsort.kept a).symm⟩
  · have hpos : 0 < chunk.toNat := by omega
    have hfits : rows.length < chunk.toNat ↔ (rows.length : ℤ) < chunk := by omega
    have hcopies : chunk.toNat ≤ rows.length → ∀ a ∈ rows, ∀ b ∈ rows,
        less (Datum.forgetItems true a) (Datum.forgetItems true b) = less a b :=
      fun hlong => hcopy (by omega)
    rw [sortRowsBy, chunkSizeOf_int hone]
    by_cases hmax : chunk ≤ Source.maxCount
    · simp only [hmax, if_true, sortRows, hfolder,
        externalSort_eq htotal htrans hpos hdecides hcopies, hfits]
      split_ifs <;> simp
    · simp only [hmax, if_false]

/-! ### Four rows in chunks of two -/

def pairedRows : List Row := [
  [.int 1, .text "a"], [.int 2, .float (.nan (.given 0))], [.int 1, .null], [.int 2, .text "b"]]

/-- The greatest numbers in the first column come first. -/
def firstDescending : SortOrder := [⟨true, 0⟩]

def firstNumber : Row → ℤ
  | .int i :: _ => i
  | _ => 0

def compareFirst (a b : Row) : Ordering := Ord.compare (firstNumber b) (firstNumber a)

instance : Std.TransCmp compareFirst where
  eq_swap := by
    intros
    exact Std.OrientedOrd.eq_swap
  isLE_trans := by
    intro a b c hab hbc
    exact (Std.TransOrd.isLE_trans hbc hab :
      (Ord.compare (firstNumber c) (firstNumber a)).isLE = true)

/-- Equal rows keep their order, and the NaN of a row that was put aside has no mark any more. -/
theorem sortRowsBy_paired :
    sortRowsBy firstDescending.less (.int 2) .null ⟨pairedRows, none⟩ =
      ⟨[[.int 2, .float (.nan .unknown)], [.int 2, .text "b"], [.int 1, .text "a"],
        [.int 1, .null]], none⟩ := by
  have hless : ∀ a ∈ pairedRows, ∀ b ∈ pairedRows,
      firstDescending.less a b = .ok (compareFirst a b == .lt) := by
    intro a ha b hb
    fin_cases ha <;> fin_cases hb <;> rfl
  have hcopy : ∀ a ∈ pairedRows, ∀ b ∈ pairedRows,
      firstDescending.less (Datum.forgetItems true a) (Datum.forgetItems true b) =
        firstDescending.less a b := by
    intro a ha b hb
    fin_cases ha <;> fin_cases hb <;> rfl
  have hfolder : Arg.requireFolder .null = .ok () := rfl
  obtain ⟨sorted, -, hunique, hsorted⟩ := sortRowsBy_eq_stableSort hless hfolder
  have hstable : SortedStably compareFirst [[.int 2, .float (.nan (.given 0))], [.int 2, .text "b"],
      [.int 1, .text "a"], [.int 1, .null]] pairedRows := by
    refine sortedStably_iff.2 ⟨by decide, fun a => ?_⟩
    have hsame : ∀ b, (compareFirst a b == .eq) = decide (firstNumber b = firstNumber a) := by
      intro b
      rw [compareFirst, Bool.eq_iff_iff, beq_iff_eq, compare_eq_iff_eq, decide_eq_true_iff]
    simp only [alike_isLE, hsame]
    generalize firstNumber a = n
    simp only [pairedRows, List.filter_cons, List.filter_nil, firstNumber]
    by_cases hone : 1 = n
    · simp [← hone]
    · simp [hone]
  rw [hsorted 2 (by decide) fun _ => hcopy, ← hunique _ hstable]
  rfl

/-! ### Two rows that hold one NaN -/

def taggedRows : List Row := [
  [.tuple [.float (.nan (.given 0)), .int 2]], [.tuple [.float (.nan (.given 0)), .int 1]]]

def firstAscending : SortOrder := [⟨false, 0⟩]

def tag : Row → ℤ
  | .tuple [_, .int i] :: _ => i
  | _ => 0

/-- A positive size that is too great is refused. And an order of rows need not outlive their being
put aside: tuples that begin with one NaN are ordered by what follows it, but once they have been read
back there are two NaNs, and no tuple is less than the other. So the rows are sorted in a chunk that
they do not fill, and stay as they are in chunks of one row. -/
theorem sortRowsBy_ne_stableSort :
    ((1 : ℤ) ≤ 9223372036854775808 ∧
      sortRowsBy firstDescending.less (.int 9223372036854775808) .null ⟨pairedRows, none⟩ =
        .failed (.eval .badCount)) ∧
    (∀ a ∈ taggedRows, ∀ b ∈ taggedRows,
      firstAscending.less a b = .ok (compareOn tag a b == .lt)) ∧
    SortedStably (compareOn tag) taggedRows.reverse taggedRows ∧
    sortRowsBy firstAscending.less (.int 3) .null ⟨taggedRows, none⟩ =
      ⟨taggedRows.reverse, none⟩ ∧
    sortRowsBy firstAscending.less (.int 1) .null ⟨taggedRows, none⟩ =
      ⟨taggedRows.map (Datum.forgetItems true), none⟩ := by
  refine ⟨⟨by decide, ?_⟩, ?_, ?_, ?_, ?_⟩
  · rw [sortRowsBy, chunkSizeOf_int (by decide)]
    rfl
  · intro a ha b hb
    fin_cases ha <;> fin_cases hb <;> rfl
  · refine ⟨List.reverse_perm _, by decide, fun a => ?_⟩
    have hsame : ∀ b, (compareOn tag a b == .eq) = decide (tag a = tag b) := by
      intro b
      rw [compareOn, Bool.eq_iff_iff, beq_iff_eq, compare_eq_iff_eq, decide_eq_true_iff]
    simp only [hsame]
    generalize tag a = n
    simp only [taggedRows, List.reverse_cons, List.reverse_nil, List.nil_append,
      List.singleton_append, List.filter_cons, List.filter_nil, tag]
    by_cases hone : n = 1
    · simp [hone]
    · simp [hone]
  · rw [sortRowsBy, chunkSizeOf_int (by decide)]
    cbv
  · rw [sortRowsBy, chunkSizeOf_int (by decide)]
    cbv

end TablePipeline.Sorting
