import Mathlib
import TablePipeline.Proofs.JoinBuckets
import TablePipeline.Proofs.JoinColumns
import TablePipeline.Proofs.RollingIndex

/-!
Rolling joins find the nearest row. What the index of a bucket finds is the nearest of all built
records with the key of the probe record on the side in question, so it is enough to test the limit
on it alone; every probe record then has one row at most, and exactly one if unmatched ones are kept.
-/
namespace TablePipeline

namespace JoinPlan

variable {p : JoinPlan} {k : RollScale}

/-- A built record may be matched with a probe record at a distance: their keys are equal and miss
nothing, both have rolling values, the built one lies on the right side and within the limit. -/
def Reaches (p : JoinPlan) (k : RollScale) (record s : JoinRecord) (gap : ℤ) : Prop :=
  Key.joins s.key record.key = true ∧ ∃ y x, k.place? record.roll = some y ∧
    k.place? s.roll = some x ∧ gap = p.gap y x ∧ 0 ≤ gap ∧ k.Within p.limit? gap

/-- What a rolling join is to find for a probe record: a built record at the smallest distance, of
several ones the first that was built in a forward join and the last in a backward join; or nothing,
if no built record may be matched. -/
inductive Nearest (p : JoinPlan) (k : RollScale) (built : List JoinRecord) (record : JoinRecord) :
    Option JoinRecord → Prop
  | hit {before after : List JoinRecord} {s : JoinRecord} {gap : ℤ}
      (split : built = before ++ s :: after) (reaches : p.Reaches k record s gap)
      (earlier : ∀ t ∈ before, ∀ gap', p.Reaches k record t gap' →
        if p.kind = .forward then gap < gap' else gap ≤ gap')
      (later : ∀ t ∈ after, ∀ gap', p.Reaches k record t gap' →
        if p.kind = .forward then gap ≤ gap' else gap < gap') :
      Nearest p k built record (some s)
  | miss (nothing : ∀ s ∈ built, ∀ gap, ¬p.Reaches k record s gap) : Nearest p k built record none

/-- A rolling value is missing or stands on the scale. -/
def OnScale (k : RollScale) (record : JoinRecord) : Prop :=
  record.roll.isNull = true ∨ ∃ x, k.place? record.roll = some x

theorem isFound_iff (hkind : p.kind.isRolling = true) {record s : JoinRecord}
    (hs : OnScale k s) (hkey : record.key.hasNull = false) :
    JoinIndex.isFound p record.key s = true ↔
      Key.joins s.key record.key = true ∧ ∃ x, k.place? s.roll = some x := by
  have hroll : s.roll.isNull = false ↔ ∃ x, k.place? s.roll = some x := by
    constructor
    · intro hnull
      exact hs.resolve_left (by simp [hnull])
    · rintro ⟨x, hx⟩
      exact RollScale.isNull_of_place? hx
  rw [← hroll]
  simp [JoinIndex.isFound, JoinIndex.isFindable, Key.joins, hkind, hkey]
  tauto

/-- Which records may be matched, by what the index keeps of them. -/
theorem reaches_iff (hkind : p.kind.isRolling = true) {record s : JoinRecord} {y gap : ℤ}
    (hs : OnScale k s) (hkey : record.key.hasNull = false) (hy : k.place? record.roll = some y) :
    p.Reaches k record s gap ↔
      JoinIndex.isFound p record.key s = true ∧ gap = p.gap y (k.rank (JoinIndex.entryOf s)) ∧
        0 ≤ gap ∧ k.Within p.limit? gap := by
  rw [isFound_iff hkind hs hkey, Reaches, and_assoc]
  apply and_congr_right
  intro _
  constructor
  · rintro ⟨y', x, hy', hx, hgap, hrest⟩
    obtain rfl : y = y' := Option.some_inj.1 (hy.symm.trans hy')
    exact ⟨⟨x, hx⟩, by simpa [RollScale.rank, JoinIndex.entryOf, hx] using hgap, hrest⟩
  · rintro ⟨⟨x, hx⟩, hgap, hrest⟩
    exact ⟨y, x, hy, hx, by simpa [RollScale.rank, JoinIndex.entryOf, hx] using hgap, hrest⟩

/-- The entry at the border belongs to the nearest record on the right side, whatever the limit. -/
theorem border_nearest (p : JoinPlan) (k : RollScale) (built : List JoinRecord) (key : Key) (y : ℤ) :
    match k.border p (((built.filter (JoinIndex.isFound p key)).map JoinIndex.entryOf).mergeSort
      (rankLe k.rank)) y with
    | some e => ∃ before s after, built = before ++ s :: after ∧ JoinIndex.entryOf s = e ∧
        JoinIndex.isFound p key s = true ∧ 0 ≤ p.gap y (k.rank e) ∧
        (∀ t ∈ before, JoinIndex.isFound p key t = true →
          0 ≤ p.gap y (k.rank (JoinIndex.entryOf t)) →
            if p.kind = .forward then p.gap y (k.rank e) < p.gap y (k.rank (JoinIndex.entryOf t))
            else p.gap y (k.rank e) ≤ p.gap y (k.rank (JoinIndex.entryOf t))) ∧
        ∀ t ∈ after, JoinIndex.isFound p key t = true →
          0 ≤ p.gap y (k.rank (JoinIndex.entryOf t)) →
            if p.kind = .forward then p.gap y (k.rank e) ≤ p.gap y (k.rank (JoinIndex.entryOf t))
            else p.gap y (k.rank e) < p.gap y (k.rank (JoinIndex.entryOf t))
    | none => ∀ t ∈ built, JoinIndex.isFound p key t = true →
        ¬0 ≤ p.gap y (k.rank (JoinIndex.entryOf t)) := by
  have hstable := Sorting.isStableSort_mergeSort (rankLe_total k.rank) (rankLe_trans k.rank)
    ((built.filter (JoinIndex.isFound p key)).map JoinIndex.entryOf)
  have hmem : ∀ t ∈ built, JoinIndex.isFound p key t = true →
      JoinIndex.entryOf t ∈ (built.filter (JoinIndex.isFound p key)).map JoinIndex.entryOf :=
    fun t ht hfound => List.mem_map_of_mem (List.mem_filter.2 ⟨ht, hfound⟩)
  unfold RollScale.border
  by_cases hforward : p.kind = .forward
  · simp only [hforward, if_true, gap, sub_nonneg, sub_lt_sub_iff_right, sub_le_sub_iff_right]
    have hhead := head_of_stableSort k.rank hstable y
    split at hhead
    · rename_i e he
      rw [he]
      obtain ⟨hside, before, after, hsplit, hbefore, hafter⟩ := hhead
      obtain ⟨before', s, after', hbuilt, hs, rfl, hin, hin'⟩ := split_filter_map hsplit
      exact ⟨before', s, after', hbuilt, rfl, hs, hside,
        fun t ht hfound hle => hbefore _ (hin t ht hfound) hle,
        fun t ht hfound hle => hafter _ (hin' t ht hfound) hle⟩
    · rename_i he
      rw [he]
      exact fun t ht hfound => hhead _ (hmem t ht hfound)
  · simp only [hforward, if_false, gap, sub_nonneg, sub_lt_sub_iff_left, sub_le_sub_iff_left]
    have hlast := last_of_stableSort k.rank hstable y
    split at hlast
    · rename_i e he
      rw [he]
      obtain ⟨hside, before, after, hsplit, hbefore, hafter⟩ := hlast
      obtain ⟨before', s, after', hbuilt, hs, rfl, hin, hin'⟩ := split_filter_map hsplit
      exact ⟨before', s, after', hbuilt, rfl, hs, hside,
        fun t ht hfound hle => hbefore _ (hin t ht hfound) hle,
        fun t ht hfound hle => hafter _ (hin' t ht hfound) hle⟩
    · rename_i he
      rw [he]
      exact fun t ht hfound => hlast _ (hmem t ht hfound)

/-- The index of a rolling join and what it finds under a key. -/
theorem ofRecords_rolling (hkind : p.kind.isRolling = true) {built : List JoinRecord}
    (hkeys : ∀ s ∈ built, s.key.check = .ok ()) (hscale : ∀ s ∈ built, OnScale k s) :
    ∃ index, JoinIndex.ofRecords p built = .ok index ∧ ∀ key, (index.entries key).toList =
      ((built.filter (JoinIndex.isFound p key)).map JoinIndex.entryOf).mergeSort
        (rankLe k.rank) := by
  obtain ⟨index, hindex⟩ := (JoinIndex.foldlM_add JoinIndex.hashable_nil).2
    fun s hs (_ : JoinIndex.isFindable p s = true) => hkeys s hs
  obtain ⟨-, -, hentries⟩ := (JoinIndex.foldlM_add JoinIndex.hashable_nil).1 index hindex
  have hplaced : ∀ there ∈ index, ∀ e ∈ there.2, k.Placed e := by
    refine JoinIndex.forall_foldlM_add (Q := fun _ => k.Placed) (fun s hs hfindable => ?_) (by simp)
      hindex
    simp only [JoinIndex.isFindable, hkind, Bool.true_and, Bool.and_eq_true, Bool.not_eq_true']
      at hfindable
    have hplaced : k.Placed (JoinIndex.entryOf s) := (hscale s hs).resolve_left (by simp [hfindable.2])
    exact ⟨hplaced, fun _ _ => hplaced⟩
  obtain ⟨index', harrange, hsorted⟩ := JoinIndex.arrange_rolling hkind hplaced
  refine ⟨index', bind_eq_ok.2 ⟨index, hindex, harrange⟩, fun key => ?_⟩
  simpa [hentries key] using hsorted key

/-- The row of an entry, if the entry is within the limit. -/
def withinLimit (p : JoinPlan) (roll : Value) : Option (Value × Row) → Except EvalFault (Option Row)
  | none => .ok none
  | some e => do .ok (if ← p.isNear roll e.1 then some e.2 else none)

/-- What is looked up under a key is the entry at the border, if it is within the limit. -/
theorem nearest_eq_border {index : JoinIndex} {key : Key} {roll : Value} {y : ℤ}
    {entries : List (Value × Row)} (hentries : (index.entries key).toList = entries)
    (hplaced : ∀ e ∈ entries, k.Placed e)
    (hsorted : entries.Pairwise fun e f => rankLe k.rank e f = true) (hcheck : key.check = .ok ())
    (hy : k.place? roll = some y) :
    JoinIndex.nearest p index key roll = p.withinLimit roll (k.border p entries y) := by
  have hnull : roll.isNull = false := RollScale.isNull_of_place? hy
  have harray : index.entries key = entries.toArray := by rw [← hentries, Array.toArray_toList]
  obtain ⟨place?, hplace, hborder⟩ := RollScale.nearestPlace_eq (p := p) hy hplaced hsorted
  rw [JoinIndex.nearest, hcheck, ok_bind, harray]
  cases entries with
  | nil => simp [RollScale.border, withinLimit]
  | cons e rest =>
    simp only [hnull, List.isEmpty_toArray, List.isEmpty_cons, Bool.or_self, Bool.false_eq_true,
      if_false, hplace, ok_bind, hborder]
    cases k.border p (e :: rest) y <;> rfl

/-- A rolling join finds for a record the entry at the border under its key, if that is within the
limit. -/
theorem partners_eq_border (hkind : p.kind.isRolling = true) {index : JoinIndex}
    {built : List JoinRecord} {record : JoinRecord} {y : ℤ}
    (hentries : (index.entries record.key).toList =
      ((built.filter (JoinIndex.isFound p record.key)).map JoinIndex.entryOf).mergeSort
        (rankLe k.rank))
    (hscale : ∀ s ∈ built, OnScale k s) (hkey : record.key.hasNull = false)
    (hcheck : record.key.check = .ok ()) (hy : k.place? record.roll = some y) :
    index.partners p record = (do .ok (← p.withinLimit record.roll (k.border p
      (((built.filter (JoinIndex.isFound p record.key)).map JoinIndex.entryOf).mergeSort
        (rankLe k.rank)) y)).toList) := by
  have hplaced : ∀ e ∈ ((built.filter (JoinIndex.isFound p record.key)).map
      JoinIndex.entryOf).mergeSort (rankLe k.rank), k.Placed e := by
    intro e he
    obtain ⟨s, hs, rfl⟩ := List.mem_map.1 (List.mem_mergeSort.1 he)
    obtain ⟨hmem, hfound⟩ := List.mem_filter.1 hs
    exact ((isFound_iff hkind (hscale s hmem) hkey).1 hfound).2
  rw [JoinIndex.partners, if_neg (by simp [hkey]), if_pos hkind, nearest_eq_border hentries hplaced
    (List.pairwise_mergeSort (rankLe_trans k.rank) (rankLe_total k.rank) _) hcheck hy]

/-- Nothing is found for a record whose key or rolling value is missing. -/
theorem partners_of_isNull (hkind : p.kind.isRolling = true) {index : JoinIndex}
    {record : JoinRecord} (hcheck : record.key.check = .ok ())
    (hnull : record.key.hasNull = true ∨ record.roll.isNull = true) :
    index.partners p record = .ok [] := by
  unfold JoinIndex.partners
  rcases hnull with hkey | hroll
  · simp [hkey]
  · simp [hkind, JoinIndex.nearest, hcheck, hroll]

/-- Testing the limit on the entry at the border loses no match, since all others on its side lie at
least as far away. -/
theorem nearest_of_border (hkind : p.kind.isRolling = true) (hlimit : k.Suits p.limit?)
    {built : List JoinRecord} {record : JoinRecord} {y : ℤ} (hscale : ∀ s ∈ built, OnScale k s)
    (hkey : record.key.hasNull = false) (hy : k.place? record.roll = some y) :
    ∃ found, p.Nearest k built record found ∧
      p.withinLimit record.roll (k.border p (((built.filter (JoinIndex.isFound p record.key)).map
        JoinIndex.entryOf).mergeSort (rankLe k.rank)) y) = .ok (found.map fun s => s.values) := by
  have hborder := border_nearest p k built record.key y
  have hreach : ∀ s ∈ built, ∀ gap, p.Reaches k record s gap ↔
      JoinIndex.isFound p record.key s = true ∧ gap = p.gap y (k.rank (JoinIndex.entryOf s)) ∧
        0 ≤ gap ∧ k.Within p.limit? gap :=
    fun s hs gap => reaches_iff hkind (hscale s hs) hkey hy
  split at hborder
  · rename_i e he
    obtain ⟨before, s, after, hsplit, rfl, hs, hside, hbefore, hafter⟩ := hborder
    have hmem : s ∈ built := by simp [hsplit]
    obtain ⟨x, hx⟩ := ((isFound_iff hkind (hscale s hmem) hkey).1 hs).2
    obtain ⟨near, hnear, hwithin⟩ := isNear_eq hy hx hlimit
    rw [he]
    by_cases hn : near = true
    · refine ⟨some s, .hit hsplit ((hreach s hmem _).2 ⟨hs, rfl, hside, ?_⟩) ?_ ?_, ?_⟩
      · simpa [RollScale.rank, JoinIndex.entryOf, hx] using hwithin.1 hn
      · intro t ht gap' hgap'
        obtain ⟨hfound, rfl, hpos, -⟩ := (hreach t (by simp [hsplit, ht]) gap').1 hgap'
        exact hbefore t ht hfound hpos
      · intro t ht gap' hgap'
        obtain ⟨hfound, rfl, hpos, -⟩ := (hreach t (by simp [hsplit, ht]) gap').1 hgap'
        exact hafter t ht hfound hpos
      · simp [withinLimit, JoinIndex.entryOf, hnear, hn]
    · refine ⟨none, .miss fun t ht gap' hgap' => hn (hwithin.2 ?_), ?_⟩
      · obtain ⟨hfound, rfl, hpos, hwithin'⟩ := (hreach t ht gap').1 hgap'
        have hleast : p.gap y (k.rank (JoinIndex.entryOf s)) ≤
            p.gap y (k.rank (JoinIndex.entryOf t)) := by
          rw [hsplit, List.mem_append, List.mem_cons] at ht
          rcases ht with ht | rfl | ht
          · have hle := hbefore t ht hfound hpos
            split_ifs at hle
            · exact hle.le
            · exact hle
          · exact le_refl _
          · have hle := hafter t ht hfound hpos
            split_ifs at hle
            · exact hle
            · exact hle.le
        simpa [RollScale.rank, JoinIndex.entryOf, hx] using hwithin'.mono hleast
      · simp [withinLimit, JoinIndex.entryOf, hnear, hn]
  · rename_i he
    rw [he]
    refine ⟨none, .miss fun t ht gap' hgap' => ?_, rfl⟩
    obtain ⟨hfound, rfl, hpos, -⟩ := (hreach t ht gap').1 hgap'
    exact hborder t ht hfound hpos

/-- A rolling join finds the nearest record. -/
theorem exists_nearest (hkind : p.kind.isRolling = true) (hlimit : k.Suits p.limit?)
    {built : List JoinRecord} {record : JoinRecord} (hkeys : ∀ s ∈ built, s.key.check = .ok ())
    (hscale : ∀ s ∈ built, OnScale k s) (hcheck : record.key.check = .ok ())
    (hroll : OnScale k record) :
    ∃ index found, JoinIndex.ofRecords p built = .ok index ∧ p.Nearest k built record found ∧
      index.partners p record = .ok (found.toList.map fun s => s.values) := by
  obtain ⟨index, hindex, hentries⟩ := ofRecords_rolling hkind hkeys hscale
  refine ⟨index, ?_⟩
  cases hkey : record.key.hasNull with
  | true =>
    refine ⟨none, hindex, .miss fun s _ gap hgap => ?_, partners_of_isNull hkind hcheck (.inl hkey)⟩
    simp [Reaches, Key.joins, hkey] at hgap
  | false =>
    rcases hroll with hnull | ⟨y, hy⟩
    · refine ⟨none, hindex, .miss fun s _ gap hgap => ?_,
        partners_of_isNull hkind hcheck (.inr hnull)⟩
      obtain ⟨-, y, x, hy, -⟩ := hgap
      simp [RollScale.isNull_of_place? hy] at hnull
    · obtain ⟨found, hnearest, hborder⟩ := nearest_of_border hkind hlimit hscale hkey hy
      refine ⟨found, hindex, hnearest, ?_⟩
      rw [partners_eq_border hkind (hentries record.key) hscale hkey hcheck hy, hborder]
      cases found <;> rfl

/-- There is a nearest record if and only if some record may be matched. -/
theorem Nearest.isSome_iff {built : List JoinRecord} {record : JoinRecord}
    {found : Option JoinRecord} (h : p.Nearest k built record found) :
    found.isSome = true ↔ ∃ s ∈ built, ∃ gap, p.Reaches k record s gap := by
  cases h with
  | hit split reaches _ _ => simpa using ⟨_, by simp [split], _, reaches⟩
  | miss nothing => simpa using nothing

/-- There is only one nearest record: of two, the one that was built later would have to be both
nearer and not nearer than the other. -/
theorem Nearest.unique {built : List JoinRecord} {record : JoinRecord}
    {found found' : Option JoinRecord} (h : p.Nearest k built record found)
    (h' : p.Nearest k built record found') : found = found' := by
  cases h with
  | miss nothing =>
    cases h' with
    | miss _ => rfl
    | hit split reaches _ _ => exact absurd reaches (nothing _ (by simp [split]) _)
  | @hit before after s gap split reaches earlier later =>
    cases h' with
    | miss nothing => exact absurd reaches (nothing _ (by simp [split]) _)
    | @hit before' after' t gap' split' reaches' earlier' later' =>
      rcases List.append_eq_append_iff.1 (split.symm.trans split') with
        ⟨between, hbefore, hrest⟩ | ⟨between, hbefore, hrest⟩
      · rcases List.cons_eq_append_iff.1 hrest with ⟨-, hsame⟩ | ⟨between', rfl, rfl⟩
        · rw [(List.cons.inj hsame).1]
        · have hs := earlier' s (by simp [hbefore]) gap reaches
          have ht := later t (by simp) gap' reaches'
          split_ifs at hs ht <;> omega
      · rcases List.cons_eq_append_iff.1 hrest with ⟨-, hsame⟩ | ⟨between', rfl, rfl⟩
        · rw [(List.cons.inj hsame).1]
        · have hs := later' s (by simp) gap reaches
          have ht := earlier t (by simp [hbefore]) gap' reaches'
          split_ifs at hs ht <;> omega

/-- Records that may not be matched do not matter. -/
theorem Nearest.of_filter_map {built : List JoinRecord} {record : JoinRecord}
    {found : Option JoinRecord} {q : JoinRecord → Bool} {f : JoinRecord → JoinRecord}
    (hq : ∀ s ∈ built, ∀ gap, p.Reaches k record (f s) gap → q s = true)
    (h : p.Nearest k ((built.filter q).map f) record found) :
    p.Nearest k (built.map f) record found := by
  cases h with
  | hit split reaches earlier later =>
    obtain ⟨before, s, after, rfl, -, rfl, hbefore, hafter⟩ := split_filter_map split
    have hsplit : (before ++ s :: after).map f = before.map f ++ f s :: after.map f := by simp
    refine .hit hsplit reaches (fun t ht gap' ht' => ?_) fun t ht gap' ht' => ?_
    · obtain ⟨t, hmem, rfl⟩ := List.mem_map.1 ht
      exact earlier _ (hbefore t hmem (hq t (by simp [hmem]) gap' ht')) gap' ht'
    · obtain ⟨t, hmem, rfl⟩ := List.mem_map.1 ht
      exact later _ (hafter t hmem (hq t (by simp [hmem]) gap' ht')) gap' ht'
  | miss nothing =>
    refine .miss fun t ht gap hgap => ?_
    obtain ⟨s, hs, rfl⟩ := List.mem_map.1 ht
    have hkept := List.mem_filter.2 ⟨hs, hq s hs gap hgap⟩
    exact nothing _ (List.mem_map_of_mem hkept) gap hgap

/-- A rolling join puts out at most one row for a probe record, and one for each if it keeps those
without a match. -/
theorem length_rowsFor (hkind : p.kind.isRolling = true) (probed : Row)
    (found : Option JoinRecord) :
    (p.rowsFor probed (found.toList.map fun s => s.values)).length ≤ 1 ∧
      (p.dropUnmatched.truth = false →
        (p.rowsFor probed (found.toList.map fun s => s.values)).length = 1) := by
  cases found with
  | some s => simp [rowsFor]
  | none =>
    unfold rowsFor keepsUnmatched
    by_cases hkeeps : p.dropUnmatched.truth = true
    · have hleft : p.kind ≠ .left := fun hleft => by simp [hleft, JoinKind.isRolling] at hkind
      simp [hkind, hkeeps, hleft]
    · simp [hkind, hkeeps]

/-- Columns that fit can be assembled. -/
theorem exists_assemble (hfits : p.Fits) {probed : Row} {built : Option Row}
    (hprobed : probed.length = p.probe.carry.length)
    (hbuilt : ∀ row ∈ built, row.length = p.build.carry.length) :
    ∃ row, p.assemble probed built = .ok row := by
  have hwidth : (built.getD (p.build.carry.map fun _ => .null)).length =
      p.build.carry.length := by
    cases built with
    | none => simp
    | some row => simpa using hbuilt row rfl
  refine Row.exists_cells_iff.2 fun i hi => ?_
  have hlt := hfits i hi
  unfold build probe at *
  split_ifs at * with hfirst
  · rw [List.length_append, hwidth, hprobed]
    exact hlt
  · rw [List.length_append, hwidth, hprobed]
    exact hlt

end JoinPlan

namespace Backend

variable {b : Backend} {p : JoinPlan} {k : RollScale}

theorem onScale_putAside {record : JoinRecord} (h : JoinPlan.OnScale k record) :
    JoinPlan.OnScale k record.putAside := by
  simpa [JoinPlan.OnScale, JoinRecord.putAside, RollScale.place?_forget] using h

/-- Records on a scale are so as they are read back. -/
theorem onScale_records {records : Outcome JoinRecord} {count number : ℕ}
    (hrecords : b.Separable records)
    (h : ∀ r ∈ records.items, JoinPlan.OnScale k r ∧ r.values.length = count) {s : JoinRecord}
    (hs : s ∈ b.readBack records.items number) :
    s.key.check = .ok () ∧ JoinPlan.OnScale k s ∧ s.values.length = count := by
  obtain ⟨r, hr, -, rfl⟩ := mem_readBack.1 hs
  refine ⟨(Key.check_forget true r.key).trans (hrecords.placed r hr).1, onScale_putAside (h r hr).1, ?_⟩
  simpa [JoinRecord.putAside, Datum.forgetItems_eq_map] using (h r hr).2

/-- The answer of a rolling join is the row of the nearest record, or a padded one. -/
theorem answer_nearest (hkind : p.kind.isRolling = true) (hlimit : k.Suits p.limit?)
    (hfits : p.Fits) {built : List JoinRecord} {record : JoinRecord}
    (hbuilt : ∀ s ∈ built, s.key.check = .ok () ∧ JoinPlan.OnScale k s ∧
      s.values.length = p.build.carry.length)
    (hcheck : record.key.check = .ok ()) (hroll : JoinPlan.OnScale k record)
    (hwidth : record.values.length = p.probe.carry.length) :
    ∃ found rows, p.Nearest k built record found ∧ p.answer built record = .ok rows ∧
      p.rowsFor record.values (found.toList.map fun s => s.values) = rows.map .ok := by
  obtain ⟨index, found, hindex, hnearest, hpartners⟩ := JoinPlan.exists_nearest hkind hlimit
    (fun s hs => (hbuilt s hs).1) (fun s hs => (hbuilt s hs).2.1) hcheck hroll
  have hrows : ∀ outcome ∈ p.rowsFor record.values (found.toList.map fun s => s.values),
      ∃ row, outcome = .ok row := by
    intro outcome houtcome
    unfold JoinPlan.rowsFor at houtcome
    cases hnearest with
    | hit split _ _ _ =>
      obtain rfl : outcome = _ := by simpa using houtcome
      refine JoinPlan.exists_assemble hfits hwidth fun row hrow => ?_
      obtain rfl := Option.some_inj.1 hrow
      exact (hbuilt _ (by simp [split])).2.2
    | miss _ =>
      obtain ⟨-, rfl⟩ : p.keepsUnmatched = true ∧ outcome = p.assemble record.values none := by
        simpa using houtcome
      exact JoinPlan.exists_assemble hfits hwidth (by simp)
  obtain ⟨rows, hrows⟩ := exists_map_ok (f := id) hrows
  rw [List.map_id] at hrows
  exact ⟨found, rows, hnearest, bind_eq_ok.2 ⟨index, hindex,
    JoinIndex.probe_eq_ok_iff.2 ⟨_, hpartners, hrows⟩⟩, hrows⟩

/-- Every probe record of a rolling join on one scale has an answer in its bucket, which is that of
its nearest record among all that were built. -/
theorem answer_beside_nearest (hkind : p.kind.isRolling = true) (hlimit : k.Suits p.limit?)
    (hfits : p.Fits) {built probed : Outcome JoinRecord} (hbuilt : b.Separable built)
    (hprobed : b.Separable probed)
    (hbuiltRecords : ∀ s ∈ built.items,
      JoinPlan.OnScale k s ∧ s.values.length = p.build.carry.length)
    (hprobedRecords : ∀ r ∈ probed.items,
      JoinPlan.OnScale k r ∧ r.values.length = p.probe.carry.length)
    (hhash : b.partitioning.Consistent (built.items.map fun s => s.key)
      (probed.items.map fun r => r.key)) :
    ∀ r ∈ probed.items, ∃ found rows,
      p.Nearest k (built.items.map JoinRecord.putAside) r.putAside found ∧
        p.answer (b.beside built.items r) r.putAside = .ok rows ∧
          p.rowsFor r.putAside.values (found.toList.map fun s => s.values) = rows.map .ok := by
  intro r hr
  obtain ⟨hcheck, hroll, hwidth⟩ := onScale_records hprobed hprobedRecords
    (mem_readBack.2 ⟨r, hr, rfl, rfl⟩)
  obtain ⟨found, rows, hnearest, hrows, hfound⟩ := answer_nearest hkind hlimit hfits
    (fun s hs => onScale_records hbuilt hbuiltRecords hs) hcheck hroll hwidth
  refine ⟨found, rows, JoinPlan.Nearest.of_filter_map (fun s hs gap hgap => ?_) hnearest, hrows,
    hfound⟩
  have hjoin := hgap.1
  simp only [Key.joins, Bool.and_eq_true] at hjoin
  have hequal := Key.equal_of_forget (hbuilt.placed s hs).1 hjoin.2
  simp [numberOf, Partitioning.numberOf,
    hhash _ (List.mem_map_of_mem hs) _ (List.mem_map_of_mem hr) hequal]

/-- A rolling join on one scale never fails. Every probe record gives the row of its nearest built
record, or a padded row if it has none and such records are kept, or no row. -/
theorem joinAll_nearest {built probed : Outcome JoinRecord} (hkind : p.kind.isRolling = true)
    (hlimit : k.Suits p.limit?) (hfits : p.Fits) (hbuilt : b.Separable built)
    (hprobed : b.Separable probed)
    (hbuiltRecords : ∀ s ∈ built.items,
      JoinPlan.OnScale k s ∧ s.values.length = p.build.carry.length)
    (hprobedRecords : ∀ r ∈ probed.items,
      JoinPlan.OnScale k r ∧ r.values.length = p.probe.carry.length)
    (hhash : b.partitioning.Consistent (built.items.map fun s => s.key)
      (probed.items.map fun r => r.key)) :
    (b.joinAll p built probed).fault = none ∧
      (b.joinAll p built probed).failures = built.failures ++ probed.failures ∧
      ∃ found : JoinRecord → Option JoinRecord,
        (∀ r ∈ probed.items,
          p.Nearest k (built.items.map JoinRecord.putAside) r.putAside (found r) ∧
          (p.rowsFor r.putAside.values ((found r).toList.map fun s => s.values)).length ≤ 1 ∧
          (p.dropUnmatched.truth = false →
            (p.rowsFor r.putAside.values ((found r).toList.map fun s => s.values)).length = 1)) ∧
        ((b.joinAll p built probed).items.map .ok).Perm (probed.items.flatMap fun r =>
          p.rowsFor r.putAside.values ((found r).toList.map fun s => s.values)) ∧
        (b.joinAll p built probed).items.length ≤ probed.items.length ∧
        (p.dropUnmatched.truth = false →
          (b.joinAll p built probed).items.length = probed.items.length) := by
  have hanswer := answer_beside_nearest hkind hlimit hfits hbuilt hprobed hbuiltRecords
    hprobedRecords hhash
  choose! found rows hnearest hrows hfound using hanswer
  obtain ⟨hfault, hfailures, hperm⟩ := joinAll_of_ok hbuilt hprobed fun r hr => ⟨_, hrows r hr⟩
  have hmade : (probed.items.flatMap fun r =>
      made (p.answer (b.beside built.items r) r.putAside)) = probed.items.flatMap rows :=
    List.flatMap_congr fun r hr => by rw [hrows r hr, made_ok]
  rw [hmade] at hperm
  have hlength : ∀ r ∈ probed.items, (rows r).length =
      (p.rowsFor r.putAside.values ((found r).toList.map fun s => s.values)).length :=
    fun r hr => by rw [hfound r hr, List.length_map]
  refine ⟨hfault, hfailures, found, fun r hr =>
    ⟨hnearest r hr, JoinPlan.length_rowsFor hkind _ (found r)⟩, ?_, ?_, fun hdrop => ?_⟩
  · rw [List.flatMap_congr hfound, ← List.map_flatMap]
    exact hperm.map _
  · rw [hperm.length_eq, List.length_flatMap]
    refine (List.sum_le_card_nsmul _ 1 fun n hn => ?_).trans (by simp)
    obtain ⟨r, hr, rfl⟩ := List.mem_map.1 hn
    rw [hlength r hr]
    exact (JoinPlan.length_rowsFor hkind _ (found r)).1
  · rw [hperm.length_eq, List.length_flatMap, List.sum_eq_card_nsmul _ 1 fun n hn => ?_]
    · simp
    obtain ⟨r, hr, rfl⟩ := List.mem_map.1 hn
    rw [hlength r hr]
    exact (JoinPlan.length_rowsFor hkind _ (found r)).2 hdrop

end Backend

/-! ### Ticks and quotes -/

def tickSide : JoinSide where
  source := { uri := "a.csv" }
  transform := { parsers := [none, none], width := 2, steps := [] }
  keys := [(0, none)]
  carry := [(1, none)]
  roll? := some 1
  batchSize := 1

/-- Each tick with the next quote at most three later. -/
def tickJoin : JoinPlan where
  kind := .forward
  a := tickSide
  b := tickSide
  firstIsBuilt := false
  limit? := some (.int 3)
  dropUnmatched := .bool false
  writeIndex := [0, 1]
  names := [.text "1_t", .text "2_t"]

def tick (at_ : ℤ) : JoinRecord := { key := [.text "g"], roll := .int at_, values := [.int at_] }

theorem joinAll_nearest_sample :
    (Backend.joinAll {} tickJoin { items := [tick 2, tick 6, tick 30] }
      { items := [tick 1, tick 5, tick 10] }).items.length = 3 := by
  have hlimit : RollScale.Suits .integers tickJoin.limit? := by
    intro limit hl
    obtain rfl := Option.some_inj.1 hl
    exact ⟨_, rfl⟩
  have hfits : tickJoin.Fits := by
    simp only [JoinPlan.Fits]
    decide
  have hseparable : ∀ ts : List ℤ, Backend.Separable {} { items := ts.map tick } := by
    intro ts
    refine ⟨rfl, rfl, fun r hr => ?_⟩
    obtain ⟨t, -, rfl⟩ := List.mem_map.1 hr
    exact ⟨rfl, by decide⟩
  have hrecords : ∀ ts : List ℤ, ∀ r ∈ ts.map tick,
      JoinPlan.OnScale .integers r ∧ r.values.length = 1 := by
    intro ts r hr
    obtain ⟨t, -, rfl⟩ := List.mem_map.1 hr
    exact ⟨.inr ⟨t, rfl⟩, rfl⟩
  have hkeys : ∀ ts : List ℤ, ∀ key ∈ (ts.map tick).map fun r => r.key, key = [.text "g"] := by
    simp [tick]
  obtain ⟨-, -, -, -, -, -, hall⟩ := Backend.joinAll_nearest (p := tickJoin) (by decide) hlimit
    hfits (hseparable [2, 6, 30]) (hseparable [1, 5, 10]) (hrecords [2, 6, 30])
    (hrecords [1, 5, 10]) fun k hk l hl _ => by
      rw [hkeys [2, 6, 30] k hk, hkeys [1, 5, 10] l hl]
  exact hall rfl

end TablePipeline
