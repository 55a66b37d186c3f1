import Mathlib
import TablePipeline.Proofs.Key
import TablePipeline.Proofs.Outcome
import TablePipeline.Join.Index

/-!
What a join index finds. The entries of a key are the records with an equal key that can be found at
all, in the order in which they were built: equality of keys that have hashes goes both ways and is
passed on, so it does not matter which of several equal keys the index has kept.
-/
namespace TablePipeline

namespace JoinIndex

/-- Every key of the index has a hash. -/
def Hashable (index : JoinIndex) : Prop := ∀ there ∈ index, there.1.check = .ok ()

@[simp] theorem hashable_nil : Hashable [] := by simp [Hashable]

@[simp] theorem entries_nil (key : Key) : entries [] key = #[] := rfl

theorem entries_cons (there : Key) (es : Array (Value × Row)) (rest : JoinIndex) (key : Key) :
    entries ((there, es) :: rest) key =
      if Key.equal there key then es else entries rest key := by
  by_cases h : Key.equal there key <;> simp [entries, h]

theorem insert_hashable {key : Key} {entry : Value × Row} {index : JoinIndex}
    (hk : key.check = .ok ()) (h : index.Hashable) : (index.insert key entry).Hashable := by
  induction index with
  | nil => simpa [insert, Hashable] using hk
  | cons first rest ih =>
    obtain ⟨there, es⟩ := first
    obtain ⟨hthere, hrest⟩ : there.check = .ok () ∧ Hashable rest := by simpa [Hashable] using h
    rw [insert]
    split_ifs
    · simpa [Hashable] using And.intro hthere hrest
    · simpa [Hashable] using And.intro hthere (ih hrest)

/-- An entry is found behind those that were found before, and only under the keys that equal its
own. -/
theorem entries_insert {key : Key} (entry : Value × Row) {index : JoinIndex}
    (hk : key.check = .ok ()) (h : index.Hashable) (sought : Key) :
    (index.insert key entry).entries sought =
      if Key.equal key sought then (index.entries sought).push entry
      else index.entries sought := by
  induction index with
  | nil => simp [insert, entries_cons]
  | cons first rest ih =>
    obtain ⟨there, es⟩ := first
    obtain ⟨hthere, hrest⟩ : there.check = .ok () ∧ Hashable rest := by simpa [Hashable] using h
    rw [insert]
    by_cases hsame : Key.equal there key = true
    · have hboth : Key.equal there sought = Key.equal key sought := by
        apply Bool.eq_iff_iff.2
        exact ⟨Key.equal_trans hk (Key.equal_symm hthere hsame), Key.equal_trans hthere hsame⟩
      by_cases hsought : Key.equal key sought = true <;>
        simp [hsame, entries_cons, hboth, hsought]
    · by_cases hsought : Key.equal there sought = true
      · have hother : Key.equal key sought = false := by
          rw [Bool.eq_false_iff]
          exact fun hks =>
            hsame (Key.equal_trans hthere hsought (Key.equal_symm hk hks))
        simp [hsame, entries_cons, hsought, hother]
      · simp [hsame, entries_cons, hsought, ih hrest]

/-- Whether a record of the index is found under a key. -/
def isFound (p : JoinPlan) (key : Key) (record : JoinRecord) : Bool :=
  isFindable p record && Key.equal record.key key

/-- What the index keeps of a record. -/
def entryOf (record : JoinRecord) : Value × Row := (record.roll, record.values)

/-- Whether the records that can be found have keys with hashes. -/
def AllHashable (p : JoinPlan) (records : List JoinRecord) : Prop :=
  ∀ r ∈ records, isFindable p r = true → r.key.check = .ok ()

theorem add_eq_ok_iff {p : JoinPlan} {index index' : JoinIndex} {record : JoinRecord} :
    add p index record = .ok index' ↔
      (isFindable p record = true → record.key.check = .ok ()) ∧
        index' = if isFindable p record then index.insert record.key (entryOf record)
          else index := by
  unfold add
  by_cases h : isFindable p record = true
  · simp only [h, if_true, bind_eq_ok, mapError_eq_ok, forall_const, Except.ok.injEq]
    exact ⟨fun ⟨_, hc, hi⟩ => ⟨hc, hi.symm⟩, fun ⟨hc, hi⟩ => ⟨(), hc, hi.symm⟩⟩
  · simp only [h, Bool.false_eq_true, if_false, Except.ok.injEq, false_implies, true_and]
    exact eq_comm

/-- Building an index: by induction on the records, each of which goes behind those before it. -/
theorem foldlM_add {p : JoinPlan} {records : List JoinRecord} {index : JoinIndex}
    (h : index.Hashable) :
    (∀ index', records.foldlM (add p) index = .ok index' →
      AllHashable p records ∧ index'.Hashable ∧
        ∀ key, (index'.entries key).toList =
          (index.entries key).toList ++ (records.filter (isFound p key)).map entryOf) ∧
    (AllHashable p records → ∃ index', records.foldlM (add p) index = .ok index') := by
  induction records generalizing index with
  | nil =>
    refine ⟨fun index' h' => ?_, fun _ => ⟨index, rfl⟩⟩
    obtain rfl : index = index' := by simpa using h'
    exact ⟨by simp [AllHashable], h, by simp⟩
  | cons record records ih =>
    have hstep : ∀ next, add p index record = .ok next → next.Hashable ∧
        ∀ key, (next.entries key).toList =
          (index.entries key).toList ++ ([record].filter (isFound p key)).map entryOf := by
      intro next hnext
      obtain ⟨hcheck, rfl⟩ := add_eq_ok_iff.1 hnext
      by_cases hf : isFindable p record = true
      · simp only [hf, if_true]
        refine ⟨insert_hashable (hcheck hf) h, fun key => ?_⟩
        rw [entries_insert _ (hcheck hf) h]
        by_cases hk : Key.equal record.key key = true <;> simp [isFound, hf, hk]
      · simpa [hf, isFound] using h
    constructor
    · intro index' h'
      rw [List.foldlM_cons, bind_eq_ok] at h'
      obtain ⟨next, hnext, hrest⟩ := h'
      obtain ⟨hnextHashable, hfirst⟩ := hstep next hnext
      obtain ⟨hall, hhash, hentries⟩ := (ih hnextHashable).1 index' hrest
      refine ⟨?_, hhash, fun key => ?_⟩
      · simpa [AllHashable] using And.intro (add_eq_ok_iff.1 hnext).1 hall
      · rw [hentries key, hfirst key, List.append_assoc, ← List.map_append, ← List.filter_append,
          List.singleton_append]
    · intro hall
      obtain ⟨hcheck, hrest⟩ : (isFindable p record = true → record.key.check = .ok ()) ∧
        AllHashable p records := by simpa [AllHashable] using hall
      obtain ⟨hnext, -⟩ := hstep _ (add_eq_ok_iff.2 ⟨hcheck, rfl⟩)
      obtain ⟨index', hindex'⟩ := (ih hnext).2 hrest
      refine ⟨index', ?_⟩
      rw [List.foldlM_cons, bind_eq_ok]
      exact ⟨_, add_eq_ok_iff.2 ⟨hcheck, rfl⟩, hindex'⟩

end JoinIndex

namespace JoinPlan

/-- The output rows of a probe record with the columns that were found for it. -/
def rowsFor (p : JoinPlan) (probed : Row) (found : List Row) : List (Except Fault Row) :=
  if found.isEmpty && p.keepsUnmatched then [p.assemble probed none]
  else found.map fun built => p.assemble probed (some built)

end JoinPlan

namespace JoinIndex

/-- Probing assembles what was found, row by row. -/
theorem probe_eq_ok_iff {p : JoinPlan} {index : JoinIndex} {record : JoinRecord}
    {rows : List Row} :
    index.probe p record = .ok rows ↔
      ∃ found, index.partners p record = .ok found ∧
        p.rowsFor record.values found = rows.map .ok := by
  unfold probe
  rw [bind_eq_ok]
  apply exists_congr
  intro found
  rw [mapError_eq_ok]
  apply and_congr_right
  intro _
  unfold JoinPlan.rowsFor
  by_cases h : (found.isEmpty && p.keepsUnmatched) = true
  · simp only [h, if_true, bind_eq_ok, Except.ok.injEq]
    constructor
    · rintro ⟨row, hrow, rfl⟩
      rw [hrow, List.map_singleton]
    · intro hrows
      cases rows with
      | nil => cases hrows
      | cons row rest =>
        obtain ⟨hrow, hrest⟩ := List.cons.inj hrows
        exact ⟨row, hrow, by rw [List.map_eq_nil_iff.1 hrest.symm]⟩
  · simp only [h, Bool.false_eq_true, if_false]
    exact mapM_eq_ok_iff

end JoinIndex

end TablePipeline
