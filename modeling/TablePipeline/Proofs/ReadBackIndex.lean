import Mathlib
import TablePipeline.Proofs.Columns
import TablePipeline.Proofs.Distinct
import TablePipeline.Proofs.IndexColumns

/-!
The index of what is read back. Putting records aside leaves their keys and rolling values as they
were, unless these hold a NaN; so the index of a bucket finds under the keys of the bucket what the
index of all records finds there, in the same order, and a probe record that is read back gives the
rows that it would have given, with their values read back.
-/
namespace TablePipeline

/-- A record whose key and rolling value are the same once they are read back. -/
structure JoinRecord.Kept (r : JoinRecord) : Prop where
  checked : r.key.check = .ok ()
  known : r.key.hasNaN = false
  roll : r.roll.forget true = r.roll

theorem JoinRecord.Kept.putAside_eq {r : JoinRecord} (h : r.Kept) :
    r.putAside = { r with values := Datum.forgetItems true r.values } := by
  rw [JoinRecord.putAside, Key.forget_of_hasNaN true h.checked h.known, h.roll]

theorem JoinRecord.Kept.putAside {r : JoinRecord} (h : r.Kept) : r.putAside.Kept := by
  rw [h.putAside_eq]
  exact ⟨h.checked, h.known, h.roll⟩

theorem JoinPlan.assemble_forget (p : JoinPlan) (probed : Row) (built : Option Row) :
    p.assemble (Datum.forgetItems true probed) (built.map (Datum.forgetItems true)) =
      (p.assemble probed built).map (Datum.forgetItems true) := by
  have hmap : Datum.forgetItems true = List.map (Datum.forget true (φ := Empty)) :=
    funext (Datum.forgetItems_eq_map true)
  have hmissing : (built.map (Datum.forgetItems true)).getD (p.build.carry.map fun _ => .null) =
      Datum.forgetItems true (built.getD (p.build.carry.map fun _ => .null)) := by
    cases built with
    | some values => rfl
    | none => simp [hmap, Datum.forget]
  rw [assemble, assemble, hmissing, hmap, ← Row.cells_map]
  congr 1
  split_ifs <;> simp

namespace JoinIndex

variable {p : JoinPlan}

/-! ### Entries that are read back -/

/-- An entry whose columns are read back. -/
def aside (e : Value × Row) : Value × Row := (e.1, Datum.forgetItems true e.2)

theorem arranged_aside (es : Array (Value × Row)) :
    arranged p (es.map aside) = (arranged p es).map (Array.map aside) :=
  arranged_onColumns (Datum.forgetItems true) (.refl p) es

/-- A probe record that is read back gives its rows read back. -/
theorem probe_aside {index index' : JoinIndex} {r : JoinRecord} (hr : r.Kept)
    (h : index'.entries r.key = (index.entries r.key).map aside) :
    index'.probe p r.putAside = (index.probe p r).map (List.map (Datum.forgetItems true)) := by
  rw [hr.putAside_eq]
  exact probe_onColumns (.refl p) rfl rfl h fun built _ => p.assemble_forget r.values built

/-! ### The index of a bucket -/

theorem insert_eq_upsert (key : Key) (entry : Value × Row) (index : JoinIndex) :
    index.insert key entry = Key.upsert key #[entry] (·.push entry) index := by
  induction index with
  | nil => rfl
  | cons there index ih => rw [insert, Key.upsert, ih]

/-- The entries of records. -/
def entriesOf (records : List JoinRecord) : Array (Value × Row) := (records.map entryOf).toArray

/-- Records whose keys equal themselves are gathered by their distinct keys: by induction from the
last record. -/
theorem foldlM_add_eq {records : List JoinRecord} (h : ∀ r ∈ records, r.Kept) :
    records.foldlM (add p) [] =
      .ok (Key.grouped (fun r => r.key) entriesOf (records.filter (isFindable p))) := by
  induction records using List.reverseRecOn with
  | nil => rfl
  | append_singleton records r ih =>
    have hlast : add p (Key.grouped (fun r => r.key) entriesOf (records.filter (isFindable p))) r =
        .ok (Key.grouped (fun r => r.key) entriesOf ((records ++ [r]).filter (isFindable p))) := by
      rw [add_eq_ok_iff]
      refine ⟨fun _ => (h r (by simp)).checked, ?_⟩
      by_cases hf : isFindable p r = true
      · have hkept : ∀ s ∈ records.filter (isFindable p) ++ [r], s.Kept := by
          intro s hs
          rcases List.mem_append.1 hs with hs | hs
          · exact h s (by simp [List.mem_of_mem_filter hs])
          · exact h s (by simp [List.mem_singleton.1 hs])
        have hone : entriesOf [r] = #[entryOf r] := rfl
        rw [if_pos hf, List.filter_append, List.filter_singleton, hf, cond_true, insert_eq_upsert,
          ← hone]
        exact (Key.upsert_grouped (fun s hs => (hkept s hs).checked)
          (fun s hs => Key.equal_refl (hkept s hs).checked (hkept s hs).known)
          fun rs => by simp [entriesOf]).symm
      · simp [hf]
    rw [List.foldlM_append, ih fun s hs => h s (by simp [hs]), ok_bind, List.foldlM_cons, hlast]
    rfl

/-- What stands under a key of the gathered records is what is found under it. -/
theorem entries_of_mem_grouped {records : List JoinRecord} (h : ∀ r ∈ records, r.Kept)
    {there : Key × Array (Value × Row)}
    (hthere : there ∈ Key.grouped (fun r => r.key) entriesOf (records.filter (isFindable p))) :
    (∃ r ∈ records, r.key = there.1) ∧
      there.2 = entriesOf (records.filter (isFound p there.1)) := by
  obtain ⟨key, hkey, rfl⟩ := List.mem_map.1 hthere
  obtain ⟨r, hr, rfl⟩ := List.mem_map.1 (Key.mem_of_mem_distinct hkey)
  have hrecord := List.mem_of_mem_filter hr
  refine ⟨⟨r, hrecord, rfl⟩, ?_⟩
  dsimp only
  rw [List.filter_filter]
  congr 1
  apply List.filter_congr
  intro s hs
  have hsymm : Key.equal r.key s.key = Key.equal s.key r.key :=
    Bool.eq_iff_iff.2 ⟨Key.equal_symm (h r hrecord).checked, Key.equal_symm (h s hs).checked⟩
  rw [isFound, hsymm, Bool.and_comm]

theorem isFound_putAside {r : JoinRecord} (h : r.Kept) (key : Key) :
    isFound p key r.putAside = isFound p key r := by
  rw [h.putAside_eq]
  rfl

theorem entriesOf_putAside {records : List JoinRecord} (h : ∀ r ∈ records, r.Kept) :
    entriesOf (records.map JoinRecord.putAside) = (entriesOf records).map aside := by
  have hentry : ∀ r ∈ records, entryOf r.putAside = aside (entryOf r) := by
    intro r hr
    rw [(h r hr).putAside_eq]
    rfl
  simp [entriesOf, Function.comp_def]
  exact hentry

/-- What is found under a key before sorting. -/
theorem entries_of_foldlM_add {records : List JoinRecord} {raw : JoinIndex}
    (h : records.foldlM (add p) [] = .ok raw) (key : Key) :
    raw.entries key = entriesOf (records.filter (isFound p key)) := by
  have hentries := ((foldlM_add hashable_nil).1 raw h).2.2 key
  rw [entries_nil, List.nil_append] at hentries
  exact Array.toList_inj.1 hentries

/-- Under a key whose records are all among the chosen ones, reading these back finds what is found
among all records, read back. -/
theorem entriesOf_found_aside {records : List JoinRecord} (chosen : JoinRecord → Bool)
    (h : ∀ r ∈ records, r.Kept) {key : Key}
    (hkey : ∀ r ∈ records, Key.equal r.key key = true → chosen r = true) :
    entriesOf (((records.filter chosen).map JoinRecord.putAside).filter (isFound p key)) =
      (entriesOf (records.filter (isFound p key))).map aside := by
  rw [← entriesOf_putAside fun r hr => h r (List.mem_of_mem_filter hr), List.filter_map,
    List.filter_filter]
  congr 2
  apply List.filter_congr
  intro r hr
  rw [Function.comp_apply, isFound_putAside (h r hr)]
  by_cases hr' : isFound p key r = true
  · rw [hkey r hr (Bool.and_eq_true_iff.1 hr').2, Bool.and_true]
  · simp [hr']

/-- Of records that are chosen by their keys the index is the part of the index of all records that
has these keys, read back. -/
theorem exists_ofRecords_aside {records : List JoinRecord} {index : JoinIndex}
    (chosen : JoinRecord → Bool) (h : ∀ r ∈ records, r.Kept)
    (hchosen : ∀ r ∈ records, ∀ s ∈ records, Key.equal r.key s.key = true → chosen r = chosen s)
    (hindex : ofRecords p records = .ok index) :
    ∃ index', ofRecords p ((records.filter chosen).map JoinRecord.putAside) = .ok index' ∧
      ∀ key, (∀ r ∈ records, Key.equal r.key key = true → chosen r = true) →
        index'.entries key = (index.entries key).map aside := by
  have hall : ∀ r ∈ (records.filter chosen).map JoinRecord.putAside, r.Kept := by
    intro r hr
    obtain ⟨s, hs, rfl⟩ := List.mem_map.1 hr
    exact (h s (List.mem_of_mem_filter hs)).putAside
  obtain ⟨gathered, hgathered, harrange⟩ := bind_eq_ok.1 hindex
  have hpart : ∀ key, (∀ r ∈ records, Key.equal r.key key = true → chosen r = true) →
      entriesOf (((records.filter chosen).map JoinRecord.putAside).filter (isFound p key)) =
        (gathered.entries key).map aside := by
    intro key hkey
    rw [entriesOf_found_aside chosen h hkey, entries_of_foldlM_add hgathered]
  have hraw := foldlM_add_eq (p := p) hall
  obtain ⟨index', hindex'⟩ := exists_arrange (p := p)
    (Key.grouped (fun r => r.key) entriesOf
      (((records.filter chosen).map JoinRecord.putAside).filter (isFindable p))) fun there hthere => by
    obtain ⟨⟨s, hs, hskey⟩, hentries⟩ := entries_of_mem_grouped hall hthere
    obtain ⟨r, hr, rfl⟩ := List.mem_map.1 hs
    obtain ⟨hr, hrchosen⟩ := List.mem_filter.1 hr
    have hkey : ∀ s ∈ records, Key.equal s.key there.1 = true → chosen s = true := by
      intro s hs hequal
      rw [← hskey, (h r hr).putAside_eq] at hequal
      rw [hchosen s hs r hr hequal, hrchosen]
    rw [hentries, hpart there.1 hkey, arranged_aside, entries_of_arrange harrange]
    exact ⟨_, rfl⟩
  refine ⟨index', by rw [ofRecords, hraw, ok_bind, hindex'], fun key hkey => ?_⟩
  have hentries := entries_of_arrange hindex' key
  rw [entries_of_foldlM_add hraw, hpart key hkey, arranged_aside, entries_of_arrange harrange] at hentries
  exact (Except.ok.inj hentries).symm

end JoinIndex

namespace Backend

variable {b : Backend} {p : JoinPlan}

/-- The answer to a probe record in its bucket is the answer of the index of all records, read
back. -/
theorem answer_beside {built : List JoinRecord} {r : JoinRecord} {index : JoinIndex}
    (hbuilt : ∀ s ∈ built, s.Kept) (hr : r.Kept)
    (hhash : b.partitioning.Consistent (built.map fun s => s.key)
      ((built.map fun s => s.key) ++ [r.key]))
    (hindex : JoinIndex.ofRecords p built = .ok index) :
    p.answer (b.beside built r) r.putAside =
      (index.probe p r).map (List.map (Datum.forgetItems true)) := by
  have hnumber : ∀ s ∈ built, ∀ key ∈ (built.map fun s => s.key) ++ [r.key],
      Key.equal s.key key = true → b.numberOf s = b.partitioning.numberOf key := by
    intro s hs key hkey hequal
    rw [numberOf, Partitioning.numberOf, Partitioning.numberOf,
      hhash s.key (List.mem_map_of_mem hs) key hkey hequal]
  obtain ⟨index', hindex', hentries⟩ := JoinIndex.exists_ofRecords_aside
    (fun s => b.numberOf s == b.numberOf r) hbuilt
    (fun s hs t ht hequal => by
      have hsame : b.numberOf s = b.numberOf t :=
        hnumber s hs t.key (List.mem_append_left _ (List.mem_map_of_mem ht)) hequal
      rw [hsame]) hindex
  rw [JoinPlan.answer, beside, readBack, hindex', ok_bind]
  refine JoinIndex.probe_aside hr (hentries r.key fun s hs hequal => ?_)
  exact beq_iff_eq.2 (hnumber s hs r.key (by simp) hequal)

end Backend

end TablePipeline
