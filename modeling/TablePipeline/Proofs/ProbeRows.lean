import Mathlib
import TablePipeline.Proofs.IndexColumns
import TablePipeline.Proofs.OutputFile
import TablePipeline.Proofs.Preview
import TablePipeline.Proofs.RollingIndex
import TablePipeline.Proofs.RowAccounting

/-!
What becomes of the probe rows of a join that keeps the rows without a match. A probe row that its
filters let pass is in the output or has an entry of its own in the report, as long as its bucket has
an index. A bucket has none only in a rolling join, where two built records with one key have rolling
values that cannot be compared; such a bucket is reported by one entry for all of its probe rows.
-/
namespace TablePipeline

/-! ### Sorting that fails -/

namespace Sorting

variable {α ε : Type}

theorem exists_foldlM_ok {σ : Type} {step : σ → α → Except ε σ} (h : ∀ s a, ∃ s', step s a = .ok s')
    (as : List α) (s : σ) : ∃ s', as.foldlM step s = .ok s' := by
  induction as generalizing s with
  | nil => exact ⟨s, rfl⟩
  | cons a as ih =>
    obtain ⟨next, hnext⟩ := h s a
    rw [List.foldlM_cons, hnext]
    exact ih next

theorem exists_bisect {left : α → Except ε Bool} (h : ∀ a, ∃ c, left a = .ok c) (items : Array α)
    (lo hi : ℕ) : ∃ place, bisect left items lo hi = .ok place := by
  induction lo, hi using bisect.induct left items with
  | case1 lo hi hlt hnone => exact ⟨lo, by rw [bisect, if_pos hlt, hnone]⟩
  | case2 lo hi hlt a ha fault hfault =>
    obtain ⟨c, hc⟩ := h a
    rw [hfault] at hc
    cases hc
  | case3 lo hi hlt a ha hleft ih =>
    rw [bisect, if_pos hlt, ha]
    simpa only [hleft] using ih
  | case4 lo hi hlt a ha hright ih =>
    rw [bisect, if_pos hlt, ha]
    simpa only [hright] using ih
  | case5 lo hi hge => exact ⟨lo, by rw [bisect, if_neg hge]⟩

section Total

variable {less : α → α → Except ε Bool} (h : ∀ a b, ∃ c, less a b = .ok c)

include h

theorem exists_insertItem (items : Array α) (a : α) : ∃ next, insertItem less items a = .ok next := by
  obtain ⟨place, hplace⟩ := exists_bisect (h a) items 0 items.size
  exact ⟨_, by rw [insertItem, placeAfter, hplace, ok_bind]⟩

theorem exists_runFrom (descending : Bool) (last : α) (rest : List α) :
    ∃ runs, runFrom less descending last rest = .ok runs := by
  induction rest generalizing last with
  | nil => exact ⟨_, rfl⟩
  | cons a rest ih =>
    obtain ⟨c, hc⟩ := h a last
    obtain ⟨runs, hruns⟩ := ih a
    rw [runFrom, hc, ok_bind, hruns]
    split_ifs
    · exact ⟨_, rfl⟩
    · exact ⟨_, rfl⟩

theorem exists_firstRun (items : List α) : ∃ runs, firstRun less items = .ok runs := by
  match items with
  | [] => exact ⟨_, rfl⟩
  | [a] => exact ⟨_, rfl⟩
  | a :: b :: rest =>
    obtain ⟨c, hc⟩ := h b a
    obtain ⟨runs, hruns⟩ := exists_runFrom h c b rest
    rw [firstRun, hc, ok_bind, hruns]
    exact ⟨_, rfl⟩

theorem exists_sort_of_total (items : List α) : ∃ sorted, sort less items = .ok sorted := by
  obtain ⟨⟨run, more⟩, hruns⟩ := exists_firstRun h items
  obtain ⟨sorted, hsorted⟩ := exists_foldlM_ok (exists_insertItem h) more run.toArray
  exact ⟨sorted.toList, by rw [sort, hruns, ok_bind]; simp only [hsorted, ok_bind]⟩

end Total

/-- Sorting fails only at two of its items that cannot be compared. -/
theorem exists_sort {less : α → α → Except ε Bool} {items : List α}
    (h : ∀ a ∈ items, ∀ b ∈ items, ∃ c, less a b = .ok c) :
    ∃ sorted, sort less items = .ok sorted := by
  have hsort : sort less (items.attach.map Subtype.val) =
      (sort (fun x y : { b // b ∈ items } => less x y) items.attach).map (List.map Subtype.val) :=
    sort_map (fun _ _ => rfl) items.attach
  have htotal : ∀ x y : { b // b ∈ items }, ∃ c, less x y = .ok c := fun x y => h x x.2 y y.2
  obtain ⟨sorted, hsorted⟩ := exists_sort_of_total htotal items.attach
  rw [List.attach_map_subtype_val, hsorted] at hsort
  exact ⟨_, hsort⟩

end Sorting

/-! ### Built records without an index -/

namespace JoinIndex

variable {p : JoinPlan} {records : List JoinRecord}

/-- Two records that can be found under one key, with rolling values that cannot be compared. -/
def Clash (p : JoinPlan) (records : List JoinRecord) : Prop :=
  ∃ r ∈ records, ∃ s ∈ records, isFindable p r = true ∧ isFindable p s = true ∧
    (r.key = s.key ∨ Key.equal r.key s.key = true) ∧ ∀ c, Datum.less r.roll s.roll ≠ .ok c

/-- Records under one key of an index have one key. -/
theorem same_of_found {there k l : Key} (hthere : there.check = .ok ()) (hk : k.check = .ok ())
    (hl : l.check = .ok ()) (h : there = k ∨ Key.equal there k = true)
    (h' : there = l ∨ Key.equal there l = true) : k = l ∨ Key.equal k l = true := by
  rcases h with rfl | h
  · exact h'
  · rcases h' with rfl | h'
    · exact .inr (Key.equal_symm hl h)
    · exact .inr (Key.equal_trans hk (Key.equal_symm hthere h) h')

/-- Records whose keys can be looked up have an index, unless the join is a rolling one and two of
their rolling values cannot be compared. -/
theorem exists_ofRecords (hkeys : ∀ r ∈ records, r.key.check = .ok ())
    (h : p.kind.isRolling = true → ¬Clash p records) : ∃ index, ofRecords p records = .ok index := by
  obtain ⟨gathered, hgathered⟩ := (foldlM_add hashable_nil).2
    fun r hr (_ : isFindable p r = true) => hkeys r hr
  obtain ⟨-, hhashable, -⟩ := (foldlM_add hashable_nil).1 gathered hgathered
  have hfound := forall_foldlM_add
    (Q := fun there e => ∃ r ∈ records, isFindable p r = true ∧ entryOf r = e ∧
      (there = r.key ∨ Key.equal there r.key = true))
    (fun r hr hfindable => ⟨⟨r, hr, hfindable, rfl, .inl rfl⟩,
      fun there hthere => ⟨r, hr, hfindable, rfl, .inr hthere⟩⟩) (by simp) hgathered
  have hsorted : ∀ there ∈ gathered, ∃ es, arranged p there.2 = .ok es := by
    intro there hthere
    unfold arranged
    split_ifs with hrolling
    · obtain ⟨sorted, hsorted⟩ : ∃ sorted, Sorting.sort earlier there.2.toList = .ok sorted := by
        refine Sorting.exists_sort fun e he f hf => ?_
        by_contra hnone
        obtain ⟨r, hr, hrfind, rfl, hrkey⟩ := hfound there hthere e (by simpa using he)
        obtain ⟨s, hs, hsfind, rfl, hskey⟩ := hfound there hthere f (by simpa using hf)
        exact h hrolling ⟨r, hr, s, hs, hrfind, hsfind,
          same_of_found (hhashable there hthere) (hkeys r hr) (hkeys s hs) hrkey hskey,
          fun c hc => hnone ⟨c, hc⟩⟩
      exact ⟨sorted.toArray, by rw [hsorted]; rfl⟩
    · exact ⟨_, rfl⟩
  obtain ⟨index, hindex⟩ := exists_arrange gathered hsorted
  exact ⟨index, bind_eq_ok.2 ⟨gathered, hgathered, hindex⟩⟩

end JoinIndex

/-! ### What a probe row comes to -/

namespace Backend

/-- What a probe record comes to in its bucket, if the bucket has an index: its rows, or its entry in
the report. -/
def recordShare (b : Backend) (p : JoinPlan) (built : List JoinRecord) (r : JoinRecord) :
    Outcome Row :=
  match JoinIndex.ofRecords p (b.beside built r) with
  | .error _ => .empty
  | .ok index => eachReport .join (.rowOfBucket (b.numberOf r)) (index.probe p) [r.putAside]

/-- What a row of the probe side comes to: the share of its record, or its entry where it has
none. -/
def probeShare (b : Backend) (p : JoinPlan) (built : List JoinRecord) (row : NumberedRow) :
    Outcome Row where
  items := (made (p.probe.recordOf row.values)).flatMap fun r => (b.recordShare p built r).items
  failures := (rowFailure? .joinProbe p.probe.recordOf row).toList ++
    (made (p.probe.recordOf row.values)).flatMap fun r => (b.recordShare p built r).failures

/-- The one entry for the probe records of a bucket that has no index. -/
def lostBucket? (b : Backend) (p : JoinPlan) (built probed : List JoinRecord) (number : ℕ) :
    Option RowFailure :=
  if (b.readBack probed number).isEmpty then none
  else
    match JoinIndex.ofRecords p (b.readBack built number) with
    | .error fault => some { stage := .join, place := .bucket number, fault }
    | .ok _ => none

/-- The entries for the buckets that have no index. -/
def lostBuckets (b : Backend) (p : JoinPlan) (built probed : List JoinRecord) : List RowFailure :=
  b.bucketNumbers.filterMap (b.lostBucket? p built probed)

/-- Whether the bucket of a probe row has no index. -/
def isLost (b : Backend) (p : JoinPlan) (built : List JoinRecord) (row : NumberedRow) : Bool :=
  (made (p.probe.recordOf row.values)).any fun r =>
    (JoinIndex.ofRecords p (b.beside built r)).toOption.isNone

variable {b : Backend} {p : JoinPlan}

theorem eachReport_flatMap {α β : Type} {stage : Stage} {place : Place}
    {step : α → Except Fault (List β)} (as : List α) :
    eachReport stage place step as =
      { items := as.flatMap fun a => (eachReport stage place step [a]).items
        failures := as.flatMap fun a => (eachReport stage place step [a]).failures } := by
  simp only [eachReport, List.flatMap_singleton, List.filterMap_eq_flatMap_toList]

/-- A bucket comes to the shares of its probe records and, without an index, to its own entry. -/
theorem joinBucket_shares (built records : List JoinRecord) (number : ℕ) :
    b.reporting.joinBucket p number (b.readBack built number) (b.readBack records number) =
      { items := (records.filter fun r => b.numberOf r == number).flatMap fun r =>
          (b.recordShare p built r).items
        failures := (b.lostBucket? p built records number).toList ++
          (records.filter fun r => b.numberOf r == number).flatMap fun r =>
            (b.recordShare p built r).failures } := by
  have hbeside : ∀ r ∈ records.filter fun r => b.numberOf r == number,
      b.numberOf r = number ∧ b.beside built r = b.readBack built number := by
    intro r hr
    have hnumber : b.numberOf r = number := by simpa using (List.mem_filter.1 hr).2
    exact ⟨hnumber, by rw [beside, hnumber]⟩
  have hempty : (b.readBack records number).isEmpty =
      (records.filter fun r => b.numberOf r == number).isEmpty := by
    simp [readBack]
  unfold joinBucket lostBucket?
  rw [hempty]
  cases hnone : (records.filter fun r => b.numberOf r == number).isEmpty with
  | true =>
    rw [List.isEmpty_iff.1 hnone]
    rfl
  | false =>
    simp only [Bool.false_eq_true, if_false]
    cases hindex : JoinIndex.ofRecords p (b.readBack built number) with
    | error fault =>
      have hshare : ∀ r ∈ records.filter fun r => b.numberOf r == number,
          b.recordShare p built r = .empty := by
        intro r hr
        rw [recordShare, (hbeside r hr).2, hindex]
      rw [List.flatMap_congr fun r hr => congrArg (fun o : Outcome Row => o.items) (hshare r hr),
        List.flatMap_congr fun r hr => congrArg Outcome.failures (hshare r hr)]
      simp [failure_reporting, Outcome.empty, Outcome.report]
    | ok index =>
      have hshare : ∀ r ∈ records.filter fun r => b.numberOf r == number,
          b.recordShare p built r =
            eachReport .join (.rowOfBucket number) (index.probe p) [r.putAside] := by
        intro r hr
        rw [recordShare, (hbeside r hr).1, (hbeside r hr).2, hindex]
      simp only [eachOf_reporting]
      rw [eachReport_flatMap, readBack, List.flatMap_map, List.flatMap_map,
        List.flatMap_congr fun r hr => congrArg (fun o : Outcome Row => o.items) (hshare r hr),
        List.flatMap_congr fun r hr => congrArg Outcome.failures (hshare r hr)]
      rfl

/-- A join whose records can be set apart comes to the shares of the probe records and an entry for
each bucket without an index. -/
theorem joinAll_shares {built probed : Outcome JoinRecord} (hbuilt : b.Separable built)
    (hprobed : b.Separable probed) :
    (b.reporting.joinAll p built probed).fault = none ∧
      (b.reporting.joinAll p built probed).items.Perm
        (probed.items.flatMap fun r => (b.recordShare p built.items r).items) ∧
      (b.reporting.joinAll p built probed).failures.Perm
        (built.failures ++ b.lostBuckets p built.items probed.items ++
          (probed.failures ++ probed.items.flatMap fun r =>
            (b.recordShare p built.items r).failures)) := by
  have hlt : ∀ r ∈ probed.items, b.numberOf r < b.partitioning.count :=
    fun r hr => Partitioning.numberOf_lt (hprobed.placed r hr).2 r.key
  have hbuckets := Buckets.flatMap_buckets_perm hlt
  have hreports := joinAll_eq (b := b.reporting) (p := p) ⟨hbuilt.1, hbuilt.2, hbuilt.3⟩
    ⟨hprobed.1, hprobed.2, hprobed.3⟩
  have hshares := fun number => joinBucket_shares (b := b) (p := p) built.items probed.items number
  rw [hreports, Outcome.concat_of_ok (by
    intro o ho
    obtain ⟨number, -, rfl⟩ := List.mem_map.1 ho
    exact congrArg (fun o : Outcome Row => o.fault) (hshares number))]
  refine ⟨rfl, ?_, ?_⟩
  · have hitems := hbuckets.flatMap_right fun r => (b.recordShare p built.items r).items
    rw [List.flatMap_assoc] at hitems
    rw [List.flatMap_map]
    refine .trans (.of_eq ?_) hitems
    exact List.flatMap_congr fun number _ => congrArg (fun o : Outcome Row => o.items) (hshares number)
  · have hfailures := hbuckets.flatMap_right fun r => (b.recordShare p built.items r).failures
    rw [List.flatMap_assoc] at hfailures
    have hsplit : (b.bucketNumbers.flatMap fun number =>
        (b.reporting.joinBucket p number (b.readBack built.items number)
          (b.readBack probed.items number)).failures).Perm
        (b.lostBuckets p built.items probed.items ++
          probed.items.flatMap fun r => (b.recordShare p built.items r).failures) := by
      rw [List.flatMap_congr fun number _ => congrArg Outcome.failures (hshares number)]
      refine (List.flatMap_append_perm _ _ _).symm.trans ?_
      rw [lostBuckets, List.filterMap_eq_flatMap_toList]
      exact hfailures.append_left _
    simp only [List.flatMap_map]
    refine (hsplit.append_left (built.failures ++ probed.failures)).trans ?_
    rw [List.append_assoc, List.append_assoc]
    refine .append_left _ ?_
    rw [← List.append_assoc, ← List.append_assoc]
    exact List.perm_append_comm.append_right _

/-! ### No probe row is lost with its bucket's index at hand -/

/-- Whether no filter rejects a row of the probe side. -/
def passes (p : JoinPlan) (row : NumberedRow) : Bool :=
  match p.probe.transform.run row.values with
  | .ok none => false
  | _ => true

/-- Whether a row of the output is made of a row of the probe side. -/
def MadeOf (p : JoinPlan) (row : NumberedRow) (out : Row) : Prop :=
  ∃ r, p.probe.recordOf row.values = .ok [r] ∧
    ∃ built?, p.assemble r.putAside.values built? = .ok out

/-- A probe record of a join that keeps rows without a match gives a row, if it does not fail. -/
theorem exists_mem_of_probe (hkeeps : p.keepsUnmatched = true) {index : JoinIndex} {r : JoinRecord}
    {rows : List Row} (h : index.probe p r = .ok rows) :
    ∃ out ∈ rows, ∃ built?, p.assemble r.values built? = .ok out := by
  obtain ⟨found, -, hrows⟩ := JoinIndex.probe_eq_ok_iff.1 h
  unfold JoinPlan.rowsFor at hrows
  cases found with
  | nil =>
    simp only [List.isEmpty_nil, hkeeps, Bool.and_self, if_true] at hrows
    obtain ⟨out, rest, rfl, hout, -⟩ := List.map_eq_cons_iff.1 hrows.symm
    exact ⟨out, by simp, none, hout.symm⟩
  | cons first found =>
    simp only [List.isEmpty_cons, Bool.false_and, Bool.false_eq_true, if_false,
      List.map_cons] at hrows
    obtain ⟨out, rest, rfl, hout, -⟩ := List.map_eq_cons_iff.1 hrows.symm
    exact ⟨out, by simp, some first, hout.symm⟩

/-- A probe row that no filter rejects, and whose bucket has an index, gives a row of the output or
one entry of the report. -/
theorem probeShare_cases (hkeeps : p.keepsUnmatched = true) {built : List JoinRecord}
    {row : NumberedRow} (hpasses : passes p row = true) (hfound : b.isLost p built row = false) :
    (∃ out ∈ (b.probeShare p built row).items, MadeOf p row out) ∨
      ∃ failure, (b.probeShare p built row).failures = [failure] := by
  unfold probeShare isLost at *
  cases hrecord : p.probe.recordOf row.values with
  | error fault => exact .inr ⟨_, by simp [rowFailure?, hrecord]; rfl⟩
  | ok records =>
    have hone : ∃ r, records = [r] := by
      obtain ⟨cells?, hrun, hmade⟩ := bind_eq_ok.1 hrecord
      cases cells? with
      | none => simp [passes, hrun] at hpasses
      | some cells =>
        obtain ⟨r, -, hr⟩ := bind_eq_ok.1 hmade
        exact ⟨r, (Except.ok.inj hr).symm⟩
    obtain ⟨r, rfl⟩ := hone
    simp only [hrecord, made_ok, List.any_cons, List.any_nil, Bool.or_false] at hfound
    simp only [hrecord, made_ok, rowFailure?, Option.toList_none, List.nil_append,
      List.flatMap_singleton, recordShare]
    cases hindex : JoinIndex.ofRecords p (b.beside built r) with
    | error fault => simp [hindex, Except.toOption] at hfound
    | ok index =>
      cases hprobe : index.probe p r.putAside with
      | error fault => exact .inr ⟨_, by simp [eachReport, failed?, hprobe]; rfl⟩
      | ok rows =>
        obtain ⟨out, hout, hassemble⟩ := exists_mem_of_probe hkeeps hprobe
        exact .inl ⟨out, by simpa [eachReport, hprobe] using hout, r, hrecord, hassemble⟩

/-- A bucket of probe records without an index is reported, and two of its built records clash. -/
theorem lost_of_isLost {built probed : List JoinRecord} {row : NumberedRow}
    (hkeys : ∀ r ∈ built, r.key.check = .ok ())
    (hlt : ∀ r ∈ probed, b.numberOf r < b.partitioning.count)
    (hmem : ∀ r ∈ made (p.probe.recordOf row.values), r ∈ probed)
    (h : b.isLost p built row = true) :
    p.kind.isRolling = true ∧ ∃ r ∈ made (p.probe.recordOf row.values),
      JoinIndex.Clash p (b.beside built r) ∧
      ∃ fault, { stage := .join, place := .bucket (b.numberOf r), fault } ∈
        b.lostBuckets p built probed := by
  obtain ⟨r, hr, hnone⟩ := List.any_eq_true.1 h
  cases hindex : JoinIndex.ofRecords p (b.beside built r) with
  | ok index => simp [hindex, Except.toOption] at hnone
  | error fault =>
    have hbeside : ∀ s ∈ b.beside built r, s.key.check = .ok () := by
      intro s hs
      obtain ⟨t, ht, -, rfl⟩ := mem_readBack.1 hs
      exact (Key.check_forget true t.key).trans (hkeys t ht)
    have hclash : ¬(p.kind.isRolling = true → ¬JoinIndex.Clash p (b.beside built r)) := by
      intro hno
      obtain ⟨index, hok⟩ := JoinIndex.exists_ofRecords hbeside hno
      simp [hindex] at hok
    rw [Classical.not_imp, not_not] at hclash
    refine ⟨hclash.1, r, hr, hclash.2, fault, List.mem_filterMap.2
      ⟨b.numberOf r, List.mem_range.2 (hlt r (hmem r hr)), ?_⟩⟩
    have hprobed : (b.readBack probed (b.numberOf r)).isEmpty = false := by
      rw [List.isEmpty_eq_false_iff]
      exact List.ne_nil_of_mem (mem_readBack.2 ⟨r, hmem r hr, rfl, rfl⟩)
    rw [beside] at hindex
    simp [lostBucket?, hprobed, hindex]

/-- Rows that give an item or an entry each, but for some of them, are not more than the items, the
entries and those. -/
theorem length_filter_le {α β γ : Type} {q lost : α → Bool} {f : α → List β} {g : α → List γ}
    {as : List α}
    (h : ∀ a ∈ as, q a = true → lost a = false → 0 < (f a).length + (g a).length) :
    (as.filter q).length ≤
      (as.flatMap f).length + (as.flatMap g).length + (as.filter lost).length := by
  induction as with
  | nil => simp
  | cons a as ih =>
    have hrest := ih fun a ha => h a (by simp [ha])
    have hfirst := h a (by simp)
    simp only [List.filter_cons, List.flatMap_cons, List.length_append]
    cases hq : q a <;> cases hlost : lost a <;>
      simp only [if_true, if_false, Bool.false_eq_true, List.length_cons]
    case true.false =>
      have := hfirst hq hlost
      omega
    all_goals omega

/-- Rows that no filter rejects are not more than the output rows and the entries of their shares,
and the rows that are lost with their buckets. -/
theorem length_passes_le (hkeeps : p.keepsUnmatched = true) (built : List JoinRecord)
    (rows : List NumberedRow) :
    (rows.filter (passes p)).length ≤
      (rows.flatMap fun row => (b.probeShare p built row).items).length +
        (rows.flatMap fun row => (b.probeShare p built row).failures).length +
        (rows.filter (b.isLost p built)).length := by
  refine length_filter_le fun row hrow hpasses hfound => ?_
  rcases probeShare_cases hkeeps hpasses hfound with ⟨out, hout, -⟩ | ⟨failure, hfailure⟩
  · exact Nat.add_pos_left (List.length_pos_of_mem hout) _
  · simp [hfailure]

variable {plan : Plan} {join : JoinPlan} {store : Store}

/-- The output of a join that ends well, share by share. -/
theorem output_shares (hwork : plan.work = .join join) (hreports : b.raiseOnError = false)
    (hw : 0 < b.window) (hsizes : 0 < join.build.batchSize ∧ 0 < join.probe.batchSize)
    (hended : (b.output store plan).fault = none) :
    let rows := (join.probe.source.rows store).numbered.items
    let built := b.recordsOfSide store .joinBuild join.build
    let probed := b.recordsOfSide store .joinProbe join.probe
    b.Separable built ∧ b.Separable probed ∧
      probed.items.Perm (rows.flatMap fun row => made (join.probe.recordOf row.values)) ∧
      (b.output store plan).items.Perm
        (rows.flatMap fun row => (b.probeShare join built.items row).items) ∧
      (b.output store plan).failures.Perm
        (built.failures ++ b.lostBuckets join built.items probed.items ++
          rows.flatMap fun row => (b.probeShare join built.items row).failures) := by
  intro rows built probed
  have houtput : b.output store plan = b.joinAll join built probed := by simp only [output, hwork]; rfl
  rw [houtput] at hended ⊢
  obtain ⟨hbuilt, hprobed⟩ := separable_of_joinAll hended
  have hall := joinAll_shares (p := join) hbuilt hprobed
  rw [← eq_reporting hreports] at hall
  obtain ⟨-, hitems, hfailures⟩ := hall
  obtain ⟨-, hmade, hentries, -⟩ := workThrough_results hw hsizes.2 hprobed.ended
  have hrecords : probed.items.Perm
      (rows.flatMap fun row => made (join.probe.recordOf row.values)) := by
    rw [← (join.probe.source.rows store).numbered_values, List.flatMap_map] at hmade
    exact hmade
  have hshared := hrecords.flatMap_right fun r => (b.recordShare join built.items r).failures
  refine ⟨hbuilt, hprobed, hrecords, ?_, hfailures.trans (.append_left _ ?_)⟩
  · refine hitems.trans ((hrecords.flatMap_right _).trans ?_)
    rw [List.flatMap_assoc]
    rfl
  · rw [List.flatMap_assoc] at hshared
    refine (hentries.append hshared).trans ?_
    rw [List.filterMap_eq_flatMap_toList]
    exact List.flatMap_append_perm _ _ _

variable {sink : Sink} {opened : Store × Settings}

/-- No probe row of a join that keeps rows without a match is lost with the index of its bucket at
hand: a row that no filter rejects is in the output or has an entry of its own in the report. A
bucket is without an index only in a rolling join, where two built records with one key have rolling
values that cannot be compared; it is reported by one entry, and its probe rows come to nothing. -/
theorem probe_rows_kept (hwork : plan.work = .join join) (hkeeps : join.keepsUnmatched = true)
    (hreports : b.raiseOnError = false) (hworkers : 0 < b.workers) (hw : 0 < b.window)
    (hsizes : 0 < join.build.batchSize ∧ 0 < join.probe.batchSize)
    (hopen : sink.opened store = .ok opened) :
    let rows := (join.probe.source.rows opened.1).numbered.items
    let built := b.recordsOfSide opened.1 .joinBuild join.build
    let probed := b.recordsOfSide opened.1 .joinProbe join.probe
    let entries := b.lostBuckets join built.items probed.items
    let lost := rows.filter (b.isLost join built.items)
    ((∀ source ∈ plan.work.sources, (source.rows opened.1).fault = none) →
      (∀ key ∈ plan.work.keys opened.1, key.check = .ok ()) →
      b.partitioning.fault? = none ∧ 0 < b.partitioning.count →
      Sink.Writes plan.names (b.output opened.1 plan).items opened →
        ∃ report, (b.execute plan sink store).1 = .ok report) ∧
    ∀ report, (b.execute plan sink store).1 = .ok report →
      report.rowsWritten = (b.output opened.1 plan).items.length ∧
      (b.output opened.1 plan).items.Perm
        (rows.flatMap fun row => (b.probeShare join built.items row).items) ∧
      report.failures.Perm (built.failures ++ entries ++
        rows.flatMap fun row => (b.probeShare join built.items row).failures) ∧
      (∀ row ∈ rows, passes join row = true → row ∉ lost →
        (∃ out ∈ (b.probeShare join built.items row).items, MadeOf join row out) ∨
          ∃ failure, (b.probeShare join built.items row).failures = [failure]) ∧
      (∀ row ∈ lost, join.kind.isRolling = true ∧
        ∃ r ∈ made (join.probe.recordOf row.values),
          JoinIndex.Clash join (b.beside built.items r) ∧
          ∃ fault, { stage := .join, place := .bucket (b.numberOf r), fault } ∈ entries) ∧
      (rows.filter (passes join)).length + entries.length ≤
        report.rowsWritten + report.failures.length + lost.length ∧
      (join.kind = .left →
        (rows.filter (passes join)).length ≤ report.rowsWritten + report.failures.length) := by
  intro rows built probed entries lost
  constructor
  · intro hread hkeys hu hwrites
    have hbatches : ∀ size ∈ plan.batchSizes, 0 < size := by
      simpa [Plan.batchSizes, hwork] using hsizes
    obtain ⟨hcontained, -⟩ := output_contained (b := b) hworkers hw hu hbatches
      (by rw [hwork]; trivial) hread hkeys
    have hended := hcontained.ended
    rw [← eq_reporting hreports] at hended
    exact ⟨_, by rw [execute_eq hopen, Sink.fill_of_writes hwrites List.prefix_rfl, hended]⟩
  · intro report hreport
    obtain ⟨hwritten, hlisted⟩ := report_of_execute hopen hreport
    obtain ⟨hbuilt, hprobed, hrecords, hitems, hfailures⟩ :=
      output_shares hwork hreports hw hsizes (ended_of_execute hopen hreport)
    have hcases : ∀ row ∈ rows, passes join row = true → row ∉ lost →
        (∃ out ∈ (b.probeShare join built.items row).items, MadeOf join row out) ∨
          ∃ failure, (b.probeShare join built.items row).failures = [failure] := by
      intro row hrow hpasses hnot
      exact probeShare_cases hkeeps hpasses (by simpa [lost, hrow] using hnot)
    have hlost : ∀ row ∈ lost, join.kind.isRolling = true ∧
        ∃ r ∈ made (join.probe.recordOf row.values), JoinIndex.Clash join (b.beside built.items r) ∧
          ∃ fault, { stage := .join, place := .bucket (b.numberOf r), fault } ∈ entries := by
      intro row hrow
      obtain ⟨hmem, hislost⟩ := List.mem_filter.1 hrow
      exact lost_of_isLost (fun r hr => (hbuilt.placed r hr).1)
        (fun r hr => Partitioning.numberOf_lt (hprobed.placed r hr).2 r.key)
        (fun r hr => hrecords.mem_iff.2 (List.mem_flatMap.2 ⟨row, hmem, hr⟩)) hislost
    have hcount : (rows.filter (passes join)).length + entries.length ≤
        report.rowsWritten + report.failures.length + lost.length := by
      have hkept : (rows.filter (passes join)).length ≤
          (rows.flatMap fun row => (b.probeShare join built.items row).items).length +
            (rows.flatMap fun row => (b.probeShare join built.items row).failures).length +
            lost.length := length_passes_le hkeeps built.items rows
      have hout : (b.output opened.1 plan).items.length =
          (rows.flatMap fun row => (b.probeShare join built.items row).items).length :=
        hitems.length_eq
      have hall : (b.output opened.1 plan).failures.length = (built.failures ++ entries ++
          rows.flatMap fun row => (b.probeShare join built.items row).failures).length :=
        hfailures.length_eq
      rw [List.length_append, List.length_append] at hall
      rw [hwritten, hlisted]
      omega
    refine ⟨hwritten, hitems, hlisted ▸ hfailures, hcases, hlost, hcount, fun hleft => ?_⟩
    have hnone : lost = [] := by
      refine List.eq_nil_iff_forall_not_mem.2 fun row hrow => ?_
      have hrolling := (hlost row hrow).1
      rw [hleft] at hrolling
      cases hrolling
    rw [hnone, List.length_nil] at hcount
    omega

end Backend

/-! ### Two quotes, one of which is a number -/

/-- One key for all rows. -/
def sameKey : Func := .unary "same_key" fun _ => .ok (.text "g")

/-- Makes a number of the first value and leaves the second one a text. -/
def firstNumber : Func :=
  .unary "first_number" fun v => .ok (if v.isMatch (.text "1") then .int 1 else v)

def quoteSide (parser? : Option Func) : JoinSide where
  source := sampleSource
  transform := { parsers := [none, parser?], width := 2, steps := [] }
  keys := [(0, some sameKey)]
  carry := [(1, none)]
  roll? := some 1
  batchSize := 1

def quoteJoin (kind : JoinKind) (parser? : Option Func) : JoinPlan where
  kind := kind
  a := quoteSide none
  b := quoteSide parser?
  firstIsBuilt := false
  limit? := none
  dropUnmatched := .bool false
  writeIndex := [0, 1]
  names := [.text "1_v", .text "2_v"]

def quotePlan (kind : JoinKind) (parser? : Option Func) : Plan where
  names := [.text "1_v", .text "2_v"]
  options := {}
  batchSize := 1
  work := .join (quoteJoin kind parser?)

theorem output_quotes :
    oneBucket.output targetOpened.1 (quotePlan .left none) =
        { items := [[.text "1", .text "1"], [.text "1", .text "2"], [.text "2", .text "1"],
            [.text "2", .text "2"]] } ∧
      oneBucket.output targetOpened.1 (quotePlan .forward (some firstNumber)) =
        { items := []
          failures := [{ stage := .join, place := .bucket 0,
                         fault := .eval (.noOrder "<" "str" "int") }] } := by
  constructor <;>
  · simp only [Backend.output, quotePlan, Backend.recordsOfSide, Backend.workThrough, quoteJoin,
      JoinPlan.build, JoinPlan.probe, quoteSide, rows_target, batches_sample, Bool.false_eq_true,
      if_false]
    rfl

/-- Both rows pass, and both are lost with the one bucket there is: nothing is written, and the one
entry of the report is that of the bucket. -/
theorem probe_rows_lost_quotes :
    (quoteJoin .forward (some firstNumber)).keepsUnmatched = true ∧
      ∃ report, (oneBucket.execute (quotePlan .forward (some firstNumber)) targetSink
          sampleStore).1 = .ok report ∧
        report.rowsWritten = 0 ∧
        report.failures.map (fun failure => (failure.stage, failure.place)) =
          [(.join, .bucket 0)] ∧
        report.rowsWritten + report.failures.length <
          ((sampleSource.rows targetOpened.1).numbered.items.filter
            (Backend.passes (quoteJoin .forward (some firstNumber)))).length := by
  have hrun : (oneBucket.execute (quotePlan .forward (some firstNumber)) targetSink
      sampleStore).1 = .ok
        { output := "o.csv", rowsWritten := 0
          failures := [{ stage := .join, place := .bucket 0
                         fault := .eval (.noOrder "<" "str" "int") }] } := by
    rw [Backend.execute_eq opened_target, output_quotes.2,
      Sink.fill_of_writes (Option.isNone_iff_eq_none.1 (by decide +kernel)) List.prefix_rfl]
    rfl
  refine ⟨rfl, _, hrun, rfl, rfl, ?_⟩
  rw [rows_target, rows_sample]
  decide

theorem probe_rows_kept_quotes :
    ∃ report, (oneBucket.execute (quotePlan .left none) targetSink sampleStore).1 = .ok report ∧
      2 ≤ report.rowsWritten + report.failures.length := by
  obtain ⟨hreturns, hkept⟩ := Backend.probe_rows_kept (b := oneBucket)
    (rfl : (quotePlan .left none).work = .join (quoteJoin .left none)) rfl rfl (by decide)
    (by decide) (by decide) opened_target
  have hread : ∀ source ∈ (quotePlan .left none).work.sources,
      (source.rows targetOpened.1).fault = none := by
    intro source hsource
    obtain rfl : source = sampleSource := by
      simpa [quotePlan, quoteJoin, quoteSide, PlanWork.sources] using hsource
    rw [rows_target, rows_sample]
  have hkeys : ∀ key ∈ (quotePlan .left none).work.keys targetOpened.1, key.check = .ok () := by
    have hall : (quotePlan .left none).work.keys targetOpened.1 =
        List.replicate 4 [.text "g"] := by
      simp only [quotePlan, quoteJoin, quoteSide, PlanWork.keys, PlanWork.madeOf, JoinPlan.build,
        JoinPlan.probe, Bool.false_eq_true, if_false, rows_target, rows_sample]
      rfl
    rw [hall]
    intro key hkey
    rw [List.eq_of_mem_replicate hkey]
    rfl
  obtain ⟨report, hreport⟩ := hreturns hread hkeys ⟨rfl, by decide⟩
    (by rw [output_quotes.1]; exact Option.isNone_iff_eq_none.1 (by decide +kernel))
  obtain ⟨-, -, -, -, -, -, hleft⟩ := hkept report hreport
  have hrows := hleft rfl
  have hprobe : (quoteJoin .left none).probe.source = sampleSource := rfl
  rw [hprobe, rows_target, rows_sample] at hrows
  exact ⟨report, hreport, hrows⟩

end TablePipeline
