import Mathlib
import TablePipeline.Proofs.JoinBuckets
import TablePipeline.Proofs.JoinColumns
import TablePipeline.Proofs.SourceText

/-!
Inner and left joins as nested loops. Whichever side is built, whatever the number of buckets and
the hash, a join of which nothing fails puts out one row for every pair of records with equal keys
that miss nothing; a left join adds one padded row for every first record without a partner.
-/
namespace TablePipeline

namespace JoinPlan

/-- The join of two lists of records, pair by pair. -/
def nestedLoop (p : JoinPlan) (as bs : List JoinRecord) : List (Except Fault Row) :=
  (as.flatMap fun r => (bs.filter fun s => Key.joins r.key s.key).map (p.pairRow r)) ++
    if p.kind = .left then
      (as.filter fun r => !bs.any fun s => Key.joins r.key s.key).map p.paddedRow
    else []

/-- A join by keys alone answers with the rows of the partners. -/
theorem rows_of_answer {p : JoinPlan} {built : List JoinRecord} {record : JoinRecord}
    {rows : List Row} (hkind : p.kind.isRolling = false)
    (h : p.answer built record = .ok rows) :
    rows.map .ok = p.rowsFor record.values ((partners built record).map fun s => s.values) := by
  obtain ⟨index, hindex, hprobe⟩ := bind_eq_ok.1 h
  obtain ⟨found, hfound, hrows⟩ := JoinIndex.probe_eq_ok_iff.1 hprobe
  obtain ⟨index', hfold, harrange⟩ := bind_eq_ok.1 hindex
  obtain rfl : index' = index := by simpa [JoinIndex.arrange, hkind] using harrange
  obtain ⟨-, -, hentries⟩ := (JoinIndex.foldlM_add JoinIndex.hashable_nil).1 _ hfold
  rw [← hrows]
  congr 1
  unfold JoinIndex.partners at hfound
  by_cases hnull : record.key.hasNull = true
  · obtain rfl : found = [] := by simpa [hnull, eq_comm] using hfound
    simp [partners, Key.joins, hnull]
  · simp only [hnull, hkind, Bool.false_eq_true, if_false, bind_eq_ok] at hfound
    obtain ⟨-, -, hfound⟩ := hfound
    rw [← Except.ok.inj hfound, hentries]
    have hsame : built.filter (JoinIndex.isFound p record.key) = partners built record := by
      apply List.filter_congr
      intro s _
      simp [JoinIndex.isFound, JoinIndex.isFindable, hkind, Key.joins, hnull]
    simp [hsame, JoinIndex.entryOf, Function.comp_def]

end JoinPlan

section Loops

variable {α β γ : Type}

theorem map_filter_eq_flatMap (p : α → Bool) (f : α → β) (as : List α) :
    (as.filter p).map f = as.flatMap fun a => if p a then [f a] else [] := by
  induction as with
  | nil => rfl
  | cons a as ih => by_cases h : p a = true <;> simp [h, ih]

/-- Two nested loops over the same pairs, with one or the other list outside. -/
theorem flatMap_filter_perm_swap (joins : α → β → Bool) (row : α → β → γ) (as : List α)
    (bs : List β) :
    (as.flatMap fun a => (bs.filter (joins a)).map (row a)).Perm
      (bs.flatMap fun b => (as.filter fun a => joins a b).map fun a => row a b) := by
  induction as with
  | nil => simp
  | cons a as ih =>
    have hinner : ∀ b, ((a :: as).filter fun a => joins a b).map (fun a => row a b) =
        (if joins a b then [row a b] else []) ++
          (as.filter fun a => joins a b).map fun a => row a b := by
      intro b
      by_cases h : joins a b = true <;> simp [h]
    simp only [hinner, List.flatMap_cons]
    rw [map_filter_eq_flatMap (joins a)]
    exact (ih.append_left _).trans (List.flatMap_append_perm bs _ _)

/-- A loop that pads what has no partner, with the padded rows at the end. -/
theorem flatMap_padded_perm (lone : α → Bool) (pad : α → γ) (rows : α → List γ) (as : List α)
    (h : ∀ a, lone a = true → rows a = []) :
    (as.flatMap fun a => if lone a then [pad a] else rows a).Perm
      (as.flatMap rows ++ (as.filter lone).map pad) := by
  have hsplit : ∀ a, (if lone a then [pad a] else rows a) =
      rows a ++ if lone a then [pad a] else [] := by
    intro a
    by_cases hl : lone a = true
    · simp [hl, h a hl]
    · simp [hl]
  simp only [hsplit]
  rw [map_filter_eq_flatMap]
  exact (List.flatMap_append_perm as _ _).symm

end Loops

namespace JoinPlan

/-- The probe side as the outer loop: with the second side built, first records look for partners
and may be padded; with the first side built, the loops are exchanged. -/
def probeLoop (p : JoinPlan) (built probed : List JoinRecord) : List (Except Fault Row) :=
  probed.flatMap fun r => p.rowsFor r.values ((partners built r).map fun s => s.values)

theorem probeLoop_of_first_built {p : JoinPlan} {as bs : List JoinRecord}
    (hbuilt : p.firstIsBuilt = true) (hkind : p.kind = .inner) :
    (p.probeLoop as bs).Perm (p.nestedLoop as bs) := by
  have hrows : ∀ s : JoinRecord, p.rowsFor s.values ((partners as s).map fun r => r.values) =
      (as.filter fun r => Key.joins r.key s.key).map fun r => p.pairRow r s := by
    intro s
    simp [rowsFor, keepsUnmatched, hkind, JoinKind.isRolling, assemble, hbuilt, partners, pairRow]
  simp only [probeLoop, hrows, nestedLoop, hkind, reduceCtorEq, if_false, List.append_nil]
  exact (flatMap_filter_perm_swap (fun r s : JoinRecord => Key.joins r.key s.key) p.pairRow
    as bs).symm

theorem probeLoop_of_second_built {p : JoinPlan} {as bs : List JoinRecord}
    (hbuilt : p.firstIsBuilt = false) (hkind : p.kind.isRolling = false)
    (has : ∀ r ∈ as, r.key.check = .ok ()) (hbs : ∀ s ∈ bs, s.key.check = .ok ()) :
    (p.probeLoop bs as).Perm (p.nestedLoop as bs) := by
  have hpartners : ∀ r ∈ as, partners bs r = bs.filter fun s => Key.joins r.key s.key := by
    intro r hr
    exact List.filter_congr fun s hs => Key.joins_comm (hbs s hs) (has r hr)
  have hpairs : ∀ r ∈ as, (partners bs r).map (fun s => p.assemble r.values (some s.values)) =
      (bs.filter fun s => Key.joins r.key s.key).map (p.pairRow r) := by
    intro r hr
    simp [hpartners r hr, assemble, hbuilt, pairRow]
  by_cases hleft : p.kind = .left
  · have hrows : ∀ r ∈ as, p.rowsFor r.values ((partners bs r).map fun s => s.values) =
        if !bs.any fun s => Key.joins r.key s.key then [p.paddedRow r]
        else (bs.filter fun s => Key.joins r.key s.key).map (p.pairRow r) := by
      intro r hr
      have hnone : ((partners bs r).map fun s => s.values).isEmpty =
          !bs.any fun s => Key.joins r.key s.key := by
        rw [hpartners r hr, Bool.eq_iff_iff]
        simp
      rw [rowsFor, hnone, List.map_map, ← hpairs r hr]
      simp [keepsUnmatched, hleft, assemble, paddedRow, build, hbuilt, Function.comp_def]
    rw [probeLoop, List.flatMap_congr hrows, nestedLoop, if_pos hleft]
    apply flatMap_padded_perm
    intro r hr
    simpa using hr
  · have hrows : ∀ r ∈ as, p.rowsFor r.values ((partners bs r).map fun s => s.values) =
        (bs.filter fun s => Key.joins r.key s.key).map (p.pairRow r) := by
      intro r hr
      simp [rowsFor, keepsUnmatched, hleft, hkind, ← hpairs r hr]
    rw [probeLoop, List.flatMap_congr hrows, nestedLoop, if_neg hleft, List.append_nil]

end JoinPlan

namespace JoinSide

/-- The records of a side: those of its rows that pass the filters, in the order of the file. -/
def records (side : JoinSide) (store : Store) : Feed JoinRecord :=
  (side.source.rows store).flatMapM side.recordOf

/-- The keys with which a side enters a join. -/
def joinKeys (side : JoinSide) (store : Store) : List Key :=
  (side.records store).items.map fun r => r.key

end JoinSide

namespace Backend

variable {b : Backend} {p : JoinPlan}

/-- A clean join by keys is the loop of its probe side. -/
theorem joinAll_probeLoop {built probed : Outcome JoinRecord} (hkind : p.kind.isRolling = false)
    (hhash : b.partitioning.Consistent (built.items.map fun s => s.key)
      (probed.items.map fun r => r.key))
    (h : (b.joinAll p built probed).Clean) :
    ((b.joinAll p built probed).items.map .ok).Perm
      (p.probeLoop (built.items.map JoinRecord.putAside)
        (probed.items.map JoinRecord.putAside)) := by
  obtain ⟨⟨hbuilt, -⟩, ⟨hprobed, -⟩, hanswers⟩ := of_joinAll_clean h
  obtain ⟨-, -, hperm⟩ := joinAll_of_ok hbuilt hprobed hanswers
  have heach : ∀ r ∈ probed.items,
      (made (p.answer (b.beside built.items r) r.putAside)).map .ok =
        p.rowsFor r.putAside.values ((JoinPlan.partners (built.items.map JoinRecord.putAside)
          r.putAside).map fun s => s.values) := by
    intro r hr
    obtain ⟨rows, hrows⟩ := hanswers r hr
    have hpartners : JoinPlan.partners (b.beside built.items r) r.putAside =
        JoinPlan.partners (built.items.map JoinRecord.putAside) r.putAside :=
      partners_beside (fun s hs => (hbuilt.placed s hs).1)
        fun s hs => hhash _ (List.mem_map_of_mem hs) _ (List.mem_map_of_mem hr)
    rw [hrows, made_ok, JoinPlan.rows_of_answer hkind hrows, hpartners]
  rw [JoinPlan.probeLoop, List.flatMap_map, ← List.flatMap_congr heach, ← List.map_flatMap]
  exact hperm.map _

/-- What a side brings along that was set apart without a failure. -/
theorem recordsOfSide_clean {store : Store} {stage : Stage} {side : JoinSide}
    (hw : 0 < b.window) (hs : 0 < side.batchSize)
    (h : b.Separable (b.recordsOfSide store stage side))
    (hfailures : (b.recordsOfSide store stage side).failures = []) :
    ((side.records store).fault = none ∧
      ∀ r ∈ (side.records store).items, r.key.check = .ok ()) ∧
      (b.recordsOfSide store stage side).items.Perm (side.records store).items := by
  obtain ⟨hfault, hperm, -⟩ := workThrough_clean hw hs ⟨h.ended, hfailures⟩
  exact ⟨⟨hfault, fun r hr => (h.placed r (hperm.mem_iff.2 hr)).1⟩, hperm⟩

end Backend

/-- The planned sides of a join, and that the first one is built in inner joins only. -/
theorem JoinSpec.joinPlan_sides {store : Store} {spec : JoinSpec} {s t : Table}
    {select : Option (List Value)} {formatted : Bool} {p : JoinPlan}
    (h : spec.joinPlan store s t select formatted = .ok p) :
    p.kind = spec.kind.planned ∧ (p.firstIsBuilt = true → spec.kind = .inner) ∧
      p.a.batchSize = s.batchSize ∧ p.b.batchSize = t.batchSize := by
  obtain ⟨names, aNames, positions, aSlots, bSlots, first, -, -, -, -, -, -, -, -, hfirst, rfl⟩ :=
    joinPlan_eq_ok_iff.1 h
  refine ⟨rfl, fun hbuilt => ?_, ?_, ?_⟩
  · by_contra hkind
    simp_all [planned, buildsA]
  · cases formatted <;> rfl
  · cases formatted <;> rfl

namespace JoinPlan

theorem nestedLoop_perm (p : JoinPlan) {as as' bs bs' : List JoinRecord} (ha : as.Perm as')
    (hb : bs.Perm bs') : (p.nestedLoop as bs).Perm (p.nestedLoop as' bs') := by
  have hany : ∀ r : JoinRecord, (bs.any fun s => Key.joins r.key s.key) =
      bs'.any fun s => Key.joins r.key s.key := by
    intro r
    rw [Bool.eq_iff_iff, List.any_eq_true, List.any_eq_true]
    exact exists_congr fun s => and_congr_left fun _ => hb.mem_iff
  unfold nestedLoop
  apply List.Perm.append
  · exact (List.Perm.flatMap_left _ fun r _ => (hb.filter _).map _).trans (ha.flatMap_right _)
  · simp only [hany]
    split_ifs
    · exact (ha.filter _).map _
    · exact .refl _

theorem pairRow_putAside (p : JoinPlan) (r s : JoinRecord) :
    p.pairRow r.putAside s.putAside = (p.pairRow r s).map (List.map (Datum.forget true)) := by
  simp only [pairRow, JoinRecord.putAside, Datum.forgetItems_eq_map, ← List.map_append,
    Row.cells_map]

theorem paddedRow_putAside (p : JoinPlan) (r : JoinRecord) :
    p.paddedRow r.putAside = (p.paddedRow r).map (List.map (Datum.forget true)) := by
  have hnull : (p.b.carry.map fun _ => (.null : Value)) =
      (p.b.carry.map fun _ => (.null : Value)).map (Datum.forget true) := by
    simp [Datum.forget]
  simp only [paddedRow, JoinRecord.putAside, Datum.forgetItems_eq_map]
  rw [← Row.cells_map, List.map_append, ← hnull]

/-- Without NaNs in keys, joining what is read back is joining the records as they were and putting
the rows aside. -/
theorem nestedLoop_putAside (p : JoinPlan) {as bs : List JoinRecord}
    (has : ∀ r ∈ as, r.key.check = .ok () ∧ r.key.hasNaN = false)
    (hbs : ∀ s ∈ bs, s.key.check = .ok () ∧ s.key.hasNaN = false) :
    p.nestedLoop (as.map JoinRecord.putAside) (bs.map JoinRecord.putAside) =
      (p.nestedLoop as bs).map (Except.map (List.map (Datum.forget true))) := by
  have hkey : ∀ {r : JoinRecord}, r.key.check = .ok () ∧ r.key.hasNaN = false →
      r.putAside.key = r.key := fun h => Key.forget_of_hasNaN true h.1 h.2
  have hpairs : ∀ r ∈ as, ((bs.map JoinRecord.putAside).filter fun s =>
      Key.joins r.putAside.key s.key) =
        (bs.filter fun s => Key.joins r.key s.key).map JoinRecord.putAside := by
    intro r hr
    rw [List.filter_map]
    congr 1
    apply List.filter_congr
    intro s hs
    rw [Function.comp_apply, hkey (has r hr), hkey (hbs s hs)]
  have hlone : ((as.map JoinRecord.putAside).filter fun r =>
      !(bs.map JoinRecord.putAside).any fun s => Key.joins r.key s.key) =
        (as.filter fun r => !bs.any fun s => Key.joins r.key s.key).map JoinRecord.putAside := by
    rw [List.filter_map]
    congr 1
    apply List.filter_congr
    intro r hr
    rw [Function.comp_apply, List.any_map, Bool.not_inj_iff, Bool.eq_iff_iff, List.any_eq_true,
      List.any_eq_true]
    refine exists_congr fun s => and_congr_right fun hs => ?_
    rw [Function.comp_apply, hkey (has r hr), hkey (hbs s hs)]
  rw [nestedLoop, nestedLoop, hlone, List.map_append, List.flatMap_map, List.map_flatMap]
  congr 1
  · apply List.flatMap_congr
    intro r hr
    rw [hpairs r hr, List.map_map, List.map_map]
    exact List.map_congr_left fun s _ => p.pairRow_putAside r s
  · split_ifs
    · rw [List.map_map, List.map_map]
      exact List.map_congr_left fun r _ => p.paddedRow_putAside r
    · rfl

end JoinPlan

namespace Backend

variable {b : Backend} {p : JoinPlan}

/-- A join by keys is the nested loop over the records of both sides, with either side built: only
a left join must build the second one. -/
theorem output_perm_nestedLoop {store : Store} {plan : Plan} (hwork : plan.work = .join p)
    (hkind : p.kind.isRolling = false) (hfirst : p.firstIsBuilt = true → p.kind = .inner)
    (hs : 0 < p.a.batchSize) (ht : 0 < p.b.batchSize) (hw : 0 < b.window)
    (hhash : b.partitioning.Consistent (p.a.joinKeys store) (p.b.joinKeys store))
    (h : (b.output store plan).Clean) :
    ((p.a.records store).fault = none ∧ ∀ r ∈ (p.a.records store).items, r.key.check = .ok ()) ∧
      ((p.b.records store).fault = none ∧ ∀ s ∈ (p.b.records store).items, s.key.check = .ok ()) ∧
      ((b.output store plan).items.map .ok).Perm
        (p.nestedLoop ((p.a.records store).items.map JoinRecord.putAside)
          ((p.b.records store).items.map JoinRecord.putAside)) := by
  simp only [output, hwork] at h ⊢
  by_cases hside : p.firstIsBuilt = true
  · have hbuild : p.build = p.a := by rw [JoinPlan.build, if_pos hside]
    have hprobe : p.probe = p.b := by rw [JoinPlan.probe, if_pos hside]
    rw [hbuild, hprobe] at h ⊢
    obtain ⟨⟨hbuilt, hbuilt'⟩, ⟨hprobed, hprobed'⟩, -⟩ := of_joinAll_clean h
    obtain ⟨ha, hperma⟩ := recordsOfSide_clean hw hs hbuilt hbuilt'
    obtain ⟨hb, hpermb⟩ := recordsOfSide_clean hw ht hprobed hprobed'
    refine ⟨ha, hb, ?_⟩
    have hloop := joinAll_probeLoop hkind (fun k hk l hl =>
      hhash k ((hperma.map _).mem_iff.1 hk) l ((hpermb.map _).mem_iff.1 hl)) h
    exact (hloop.trans (JoinPlan.probeLoop_of_first_built hside (hfirst hside))).trans
      (p.nestedLoop_perm (hperma.map _) (hpermb.map _))
  · have hbuild : p.build = p.b := by rw [JoinPlan.build, if_neg hside]
    have hprobe : p.probe = p.a := by rw [JoinPlan.probe, if_neg hside]
    rw [hbuild, hprobe] at h ⊢
    obtain ⟨⟨hbuilt, hbuilt'⟩, ⟨hprobed, hprobed'⟩, -⟩ := of_joinAll_clean h
    obtain ⟨hb, hpermb⟩ := recordsOfSide_clean hw ht hbuilt hbuilt'
    obtain ⟨ha, hperma⟩ := recordsOfSide_clean hw hs hprobed hprobed'
    refine ⟨ha, hb, ?_⟩
    have hchecked : ∀ {records : Outcome JoinRecord}, b.Separable records →
        ∀ r ∈ records.items.map JoinRecord.putAside, r.key.check = .ok () := by
      intro records hrecords r hr
      obtain ⟨record, hrecord, rfl⟩ := List.mem_map.1 hr
      exact (Key.check_forget true record.key).trans (hrecords.placed record hrecord).1
    have hloop := joinAll_probeLoop hkind (fun k hk l hl hequal => by
      obtain ⟨s, hs, rfl⟩ := List.mem_map.1 hk
      exact (hhash l ((hperma.map _).mem_iff.1 hl) s.key
        ((hpermb.map _).mem_iff.1 hk) (Key.equal_symm (hbuilt.placed s hs).1 hequal)).symm) h
    exact (hloop.trans (JoinPlan.probeLoop_of_second_built (by simpa using hside) hkind
      (hchecked hprobed) (hchecked hbuilt))).trans
      (p.nestedLoop_perm (hperma.map _) (hpermb.map _))

/-- A planned inner or left join of which nothing fails puts out, in some order, the nested loop over
the two streams of records as they were put aside and read back. Unless there are NaNs in keys, this
is the nested loop over the records as they were. Of an inner join the same rows come out with the
other side built. -/
theorem output_equiJoin {planned store : Store} {spec : JoinSpec} {s t : Table}
    {select : Option (List Value)} {formatted : Bool} {plan : Plan}
    (hjoin : spec.joinPlan planned s t select formatted = .ok p)
    (hkind : spec.kind.isRolling = false) (hs : 0 < s.batchSize) (ht : 0 < t.batchSize)
    (hw : 0 < b.window) (hwork : plan.work = .join p)
    (hhash : b.partitioning.Consistent (p.a.joinKeys store) (p.b.joinKeys store))
    (h : (b.output store plan).Clean) :
    (p.a.records store).fault = none ∧ (p.b.records store).fault = none ∧
      ((b.output store plan).items.map .ok).Perm
        (p.nestedLoop ((p.a.records store).items.map JoinRecord.putAside)
          ((p.b.records store).items.map JoinRecord.putAside)) ∧
      ((∀ key ∈ p.a.joinKeys store ++ p.b.joinKeys store, key.hasNaN = false) →
        ((b.output store plan).items.map .ok).Perm
          ((p.nestedLoop (p.a.records store).items (p.b.records store).items).map
            (Except.map (List.map (Datum.forget true))))) ∧
      (spec.kind = .inner → ∀ other : Plan,
        other.work = .join { p with firstIsBuilt := !p.firstIsBuilt } →
          (b.output store other).Clean →
            (b.output store other).items.Perm (b.output store plan).items) := by
  obtain ⟨hplanned, hfirst, hsa, hsb⟩ := JoinSpec.joinPlan_sides hjoin
  have hroll : p.kind.isRolling = false := by
    rw [hplanned]
    cases hk : spec.kind <;> simp_all [JoinKind.planned, JoinKind.isRolling]
  have hinner : spec.kind = .inner → p.kind = .inner := fun hi => by rw [hplanned, hi]; rfl
  obtain ⟨⟨ha, hacheck⟩, ⟨hb, hbcheck⟩, hperm⟩ := output_perm_nestedLoop hwork hroll
    (fun hp => hinner (hfirst hp)) (hsa ▸ hs) (hsb ▸ ht) hw hhash h
  refine ⟨ha, hb, hperm, fun hnan => ?_, fun hi other hother hclean => ?_⟩
  · rw [← p.nestedLoop_putAside
      (fun r hr => ⟨hacheck r hr, hnan _ (List.mem_append_left _ (List.mem_map_of_mem hr))⟩)
      fun s hs => ⟨hbcheck s hs, hnan _ (List.mem_append_right _ (List.mem_map_of_mem hs))⟩]
    exact hperm
  obtain ⟨-, -, hperm'⟩ := output_perm_nestedLoop hother hroll (fun _ => hinner hi)
    (hsa ▸ hs) (hsb ▸ ht) hw hhash hclean
  exact (List.map_perm_map_iff fun _ _ => Except.ok.inj).1 (hperm'.trans hperm.symm)

end Backend

/-! ### A file joined with itself -/

def sampleJoin : JoinSpec where
  kind := .inner
  aKeys := [(0, none)]
  bKeys := [(0, none)]
  aPrefix := "1"
  bPrefix := "2"
  dropUnmatched := .bool false

def sampleSide : JoinSide where
  source := sampleSource
  transform := { parsers := [none, none], width := 2, steps := [] }
  keys := [(0, none)]
  carry := [(0, none), (1, none)]
  roll? := none
  batchSize := 1

def sampleJoinPlan : JoinPlan where
  kind := .inner
  a := sampleSide
  b := sampleSide
  firstIsBuilt := true
  limit? := none
  dropUnmatched := .bool false
  writeIndex := [0, 1, 2, 3]
  names := [.text "1_k", .text "1_v", .text "2_k", .text "2_v"]

def sampleRecords : List JoinRecord := [
  { key := [.text "a"], roll := .null, values := [.text "a", .text "1"] },
  { key := [.text "b"], roll := .null, values := [.text "b", .text "2"] }]

theorem joinPlan_sample :
    sampleJoin.joinPlan sampleStore sampleTable sampleTable none false = .ok sampleJoinPlan := by
  have hplaces : ascending [0, 1] = [0, 1] := by cbv
  have hfirst : JoinSpec.firstPlaces [0, 1, 2, 3] 2 = [0, 1] := hplaces
  have hsecond : JoinSpec.secondPlaces [0, 1, 2, 3] 2 = [0, 1] := hplaces
  have hbuilds : JoinSpec.buildsA sampleStore sampleJoin sampleTable sampleTable = .ok true := by
    simp only [JoinSpec.buildsA, sampleTable, size_sample]
    rfl
  refine JoinSpec.joinPlan_eq_ok_iff.2
    ⟨sampleJoinPlan.names, [.text "k", .text "v"], [0, 1, 2, 3], [0, 1], [0, 1], true, by rfl, by rfl,
      by simp, by rfl, by rfl, by rfl, ?_, ?_, hbuilds, ?_⟩
  · exact (congrArg _ hfirst).trans (by rfl)
  · exact (congrArg _ hsecond).trans (by rfl)
  · have hcarried : JoinSpec.carriedPlaces [0, 1, 2, 3] 2 = [0, 1, 2, 3] := by
      rw [JoinSpec.carriedPlaces, hfirst, hsecond]
      rfl
    simp only [JoinSpec.planned, List.length_cons, List.length_nil, Nat.zero_add, Nat.reduceAdd,
      hcarried]
    rfl

theorem records_sample : sampleSide.records sampleStore = ⟨sampleRecords, none⟩ := by
  have hrows : sampleSide.source.rows sampleStore = _ := rows_sample
  rw [JoinSide.records, hrows]
  rfl

theorem recordsOfSide_sample (stage : Stage) :
    twoBuckets.recordsOfSide sampleStore stage sampleSide = { items := sampleRecords } := by
  have hbatches : (sampleSide.source.rows sampleStore).numbered.batches sampleSide.batchSize = _ :=
    batches_sample
  rw [Backend.recordsOfSide, Backend.workThrough, hbatches]
  rfl

theorem output_sample {first : Bool} {plan : Plan}
    (hwork : plan.work = .join { sampleJoinPlan with firstIsBuilt := first }) :
    twoBuckets.output sampleStore plan =
      { items := [[.text "a", .text "1", .text "a", .text "1"],
          [.text "b", .text "2", .text "b", .text "2"]] } := by
  have hbuild : JoinPlan.build { sampleJoinPlan with firstIsBuilt := first } = sampleSide := by
    cases first <;> rfl
  have hprobe : JoinPlan.probe { sampleJoinPlan with firstIsBuilt := first } = sampleSide := by
    cases first <;> rfl
  simp only [Backend.output, hwork, hbuild, hprobe, recordsOfSide_sample]
  cases first <;> rfl

theorem output_equiJoin_sample :
    ((twoBuckets.output sampleStore
        { names := sampleJoinPlan.names, options := {}, batchSize := 1,
          work := .join sampleJoinPlan }).items.map .ok).Perm
      (sampleJoinPlan.nestedLoop (sampleRecords.map JoinRecord.putAside)
        (sampleRecords.map JoinRecord.putAside)) := by
  have hkeys : sampleSide.joinKeys sampleStore = [[.text "a"], [.text "b"]] := by
    rw [JoinSide.joinKeys, records_sample]
    rfl
  have hconsistent : twoBuckets.partitioning.Consistent (sampleSide.joinKeys sampleStore)
      (sampleSide.joinKeys sampleStore) := by
    rw [hkeys]
    decide +kernel
  have hclean : (twoBuckets.output sampleStore
      { names := sampleJoinPlan.names, options := {}, batchSize := 1,
        work := .join sampleJoinPlan }).Clean := by
    rw [output_sample rfl]
    exact ⟨rfl, rfl⟩
  have hjoined := Backend.output_equiJoin joinPlan_sample (by decide) (by decide) (by decide)
    (by decide) rfl hconsistent hclean
  have hrecords : (sampleSide.records sampleStore).items = sampleRecords := by rw [records_sample]
  rw [← hrecords]
  exact hjoined.2.2.1

end TablePipeline
