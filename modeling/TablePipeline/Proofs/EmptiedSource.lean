import Mathlib
import TablePipeline.Proofs.Buckets
import TablePipeline.Proofs.Scheduling
import TablePipeline.Proofs.Storage
import TablePipeline.Table.Sort

/-!
Sources over a changing storage. What a plan puts out depends on the storage through the rows of its
sources alone. A source has the same rows after some other file has been written, and none after its
own file has been emptied; and where the sources have no rows, most plans put out none.
-/
namespace TablePipeline

/-! ### Sources after a file has been put in place -/

namespace Source

/-- A source elsewhere has the same rows as before. -/
theorem rows_put_of_elsewhere {store : Store} {at_ : Location} {source : Source}
    (h : store.place? source.uri ≠ some at_) (bytes : Bytes) :
    source.rows (store.put at_ bytes) = source.rows store := by
  cases hfile : store.isFile source.uri with
  | true =>
    obtain ⟨hfile', hread⟩ := Store.read_put_of_elsewhere h bytes hfile
    simp only [rows, allRows, opening, fileRows, hfile, hfile', hread]
  | false =>
    have hfile' : (store.put at_ bytes).isFile source.uri = false := by
      rcases Store.walk_put_of_elsewhere h bytes with hwalk | ⟨-, hno⟩
      · rwa [Store.isFile, hwalk]
      · exact hno
    simp [rows, allRows, opening, hfile, hfile']

theorem readIn_nil {coding : Text.Coding} {policy : Text.CodingPolicy} {start : ℕ}
    {reading : Text.Reading}
    (h : Text.Encoding.readIn coding policy true start [] = .ok reading) : reading.text = [] := by
  rw [Text.Encoding.readIn, Text.Coding.decodeFrom, ok_bind] at h
  rw [← Except.ok.inj h]

theorem readOrdered_nil {coding : Text.ByteOrder → Text.Coding} {name : String}
    {policy : Text.CodingPolicy} {reading : Text.Reading}
    (h : Text.Encoding.readOrdered coding name policy true [] = .ok reading) :
    reading.text = [] := by
  simp only [Text.Encoding.readOrdered, List.drop_nil, Text.Coding.decodeFrom, ok_bind] at h
  split_ifs at h
  · exact readIn_nil h
  · exact readIn_nil h
  · rw [← Except.ok.inj h]

/-- No bytes are no text, with or without a mark that should come first. -/
theorem readPiece_nil {encoding : Text.Encoding} {policy : Text.CodingPolicy}
    {reading : Text.Reading} (h : encoding.readPiece policy none true [] = .ok reading) :
    reading.text = [] := by
  unfold Text.Encoding.readPiece at h
  split at h
  · cases h
  · exact readIn_nil h
  · split_ifs at h
    · exact readIn_nil h
    · split at h
      · exact readOrdered_nil h
      · exact readOrdered_nil h
      · have hmarked : reading = { text := [], kept := [], coding? := none } :=
          (Except.ok.inj h).symm
        rw [hmarked]
      · exact readIn_nil h

/-- An empty file has no text, however it is packed and encoded. -/
theorem textOf_nil (uri : String) (encoding : Text.Encoding) (policy : Text.CodingPolicy) :
    (textOf uri encoding policy []).1 = [] := by
  have hpieces : ((Compressed.Packing.ofPath uri).unpack []).1 = [] := by
    cases Compressed.Packing.ofPath uri with
    | plain => rfl
    | gzip => rfl
    | bzip2 => rfl
  have hdecode : ∀ broken : Bool, (encoding.decode policy broken []).1 = [] := by
    intro broken
    rw [Text.Encoding.decode, Text.Encoding.decodeFrom]
    split_ifs
    · rfl
    · cases h : encoding.readPiece policy none true [] with
      | error fault => rfl
      | ok reading => exact readPiece_nil h
  rw [textOf]
  dsimp only
  rw [hpieces, hdecode]

/-- Nothing is read from an empty file. -/
theorem fileRows_nil {store : Store} {uri : String} (h : store.read uri = .ok [])
    (settings : Settings) : (fileRows store uri settings).items = [] := by
  simp only [fileRows, h, textRows]
  cases codingOf settings with
  | error stop => rfl
  | ok coding =>
    cases Dialect.ofSettings (settings.without ownSettings) with
    | error stop => rfl
    | ok dialect =>
      have hlines : Delimited.lines [] = [] := by rw [Delimited.lines]; rfl
      dsimp only
      rw [textOf_nil, Delimited.read]
      cases (textOf uri coding.1 coding.2 []).2 with
      | none => simp only [Option.map_none, Option.isSome_none, hlines]; rfl
      | some stop =>
        simp only [Option.map_some, Option.isSome_some, if_true, Delimited.completeLines, hlines]
        rfl

/-- Every row of the source stands in its file: no setting puts a row in front that counts as one of
data. -/
def RowsInFile (source : Source) : Prop :=
  source.haveHeader = true ∨ ∀ (store : Store) (settings : Settings),
    source.opening store = .ok settings → settings.get "header" .null = .null

/-- Such a source has no rows in an empty file. -/
theorem rows_put_of_place {store : Store} {at_ : Location} {source : Source}
    (h : store.place? source.uri = some at_) (hrows : source.RowsInFile) :
    (source.rows (store.put at_ [])).items = [] := by
  have hempty := fileRows_nil (Store.read_put_of_place h [])
  cases hopen : source.opening (store.put at_ []) with
  | error fault =>
    simp only [rows, allRows, hopen]
    split_ifs <;> rfl
  | ok settings =>
    by_cases hnull : settings.get "header" .null = .null
    · simp only [rows, allRows, hopen, hnull]
      split_ifs <;> simp [Feed.drop, hempty]
    · have hheader : source.haveHeader = true :=
        hrows.resolve_right fun hno => hnull (hno _ _ hopen)
      rw [rows, if_pos hheader, allRows, hopen]
      dsimp only
      split
      · exact absurd ‹_› hnull
      · split
        · rfl
        · simp [Feed.drop, Feed.cons, hempty]

end Source

/-! ### Runs without rows -/

theorem Feed.batches_nil {α : Type} (size : ℕ) {feed : Feed α} (h : feed.items = []) :
    (feed.batches size).items = [] := by
  have hpieces : pieces size feed.items = [] := by
    rw [pieces, h]
    rfl
  unfold batches
  rw [hpieces]
  cases feed.fault <;> rfl

namespace Backend

variable {α : Type} {b : Backend}

theorem run_nil {β : Type} (s : Scheduling) (work : α → Except Fault β) {batches : Feed α}
    (h : batches.items = []) : (s.run work batches).items = [] := by
  unfold Scheduling.run
  split_ifs
  · rfl
  · simp [Feed.flatMapM, h, Feed.traverse]
  · rw [h, List.length_nil, Scheduling.drain]
    cases hfill : s.fill ([] : List α) [] batches.fault with
    | error fault => rfl
    | ok filled =>
      have hnone : filled = ([], []) := by
        unfold Scheduling.fill at hfill
        cases hfault : batches.fault with
        | none => simp_all
        | some fault =>
          simp only [hfault] at hfill
          split_ifs at hfill
          simpa [eq_comm] using hfill
      rw [hnone]
      rfl

theorem workThrough_nil (stage : Stage) (size : ℕ) (step : Row → Except Fault (List α))
    {rows : Feed Row} (h : rows.items = []) : (b.workThrough stage size step rows).items = [] := by
  have hnumbered : rows.numbered.items = [] := by simp [Feed.numbered, h]
  have hbatches := Feed.batches_nil size hnumbered
  simp [workThrough, Outcome.ofResults, run_nil b.toScheduling _ hbatches]

theorem concat_nil {stages : List (Outcome α)} (h : ∀ o ∈ stages, o.items = []) :
    (Outcome.concat stages).items = [] := by
  induction stages with
  | nil => rfl
  | cons o stages ih =>
    have hrest := ih fun o ho => h o (by simp [ho])
    rw [Outcome.concat] at hrest
    rw [Outcome.concat, List.foldr_cons, Outcome.append]
    cases o.fault with
    | none => simp [h o (by simp), hrest]
    | some fault => exact h o (by simp)

/-- Nothing set apart is nothing in any bucket. -/
theorem bucket_of_spill_nil {key : α → Key} {putAside : α → α} {records : Outcome α}
    {buckets : Buckets α} (hrecords : records.items = [])
    (h : b.spill key putAside records = .ok buckets) (number : ℕ) : buckets.bucket number = [] := by
  obtain ⟨-, hbuckets⟩ := spill_eq_ok_iff.1 h
  obtain ⟨-, -, rfl⟩ := Buckets.ofRecords_eq_ok_iff.1 hbuckets
  simp [hrecords, Buckets.bucket]

theorem groupAll_nil {p : GroupPlan} {records : Outcome GroupRecord} (hkeyed : p.isWhole = false)
    (h : records.items = []) : (b.groupAll p records).items = [] := by
  simp only [groupAll, hkeyed, Bool.false_eq_true, if_false]
  cases hspill : b.spill (fun r => r.key) GroupRecord.putAside records with
  | error fault => rfl
  | ok buckets =>
    apply concat_nil
    intro o ho
    obtain ⟨number, -, rfl⟩ := List.mem_map.1 ho
    rw [bucket_of_spill_nil h hspill]
    simp [groupRecords, Groups.collect, finishGroups, Groups.finished, hkeyed, eachOf,
      Outcome.empty]

theorem joinAll_nil {p : JoinPlan} (built : Outcome JoinRecord) {probed : Outcome JoinRecord}
    (h : probed.items = []) : (b.joinAll p built probed).items = [] := by
  unfold joinAll
  cases b.spill (fun r => r.key) JoinRecord.putAside built with
  | error fault => rfl
  | ok builtBuckets =>
    cases hspill : b.spill (fun r => r.key) JoinRecord.putAside probed with
    | error fault => rfl
    | ok probedBuckets =>
      apply concat_nil
      intro o ho
      obtain ⟨number, -, rfl⟩ := List.mem_map.1 ho
      rw [bucket_of_spill_nil h hspill]
      rfl

end Backend

namespace PlanWork

/-- The sources that a plan reads. -/
def sources : PlanWork → List Source
  | rows source _ _ => [source]
  | groups source _ _ => [source]
  | join p => [p.a.source, p.b.source]

/-- Whether a plan puts out nothing where its sources have no rows: all do but those whose rows make
one group. -/
def needsRows : PlanWork → Bool
  | rows .. => true
  | groups _ _ p => !p.isWhole
  | join _ => true

end PlanWork

namespace Backend

variable {b : Backend} {plan : Plan}

/-- The output depends on the storage through the rows of the sources alone. -/
theorem output_congr {store store' : Store}
    (h : ∀ source ∈ plan.work.sources, source.rows store = source.rows store') :
    b.output store plan = b.output store' plan := by
  unfold output
  cases hwork : plan.work with
  | rows source transform slots =>
    simp only [h source (by simp [hwork, PlanWork.sources])]
  | groups source transform p =>
    simp only [h source (by simp [hwork, PlanWork.sources])]
  | join p =>
    have ha := h p.a.source (by simp [hwork, PlanWork.sources])
    have hb := h p.b.source (by simp [hwork, PlanWork.sources])
    have hbuild : p.build.source.rows store = p.build.source.rows store' := by
      unfold JoinPlan.build
      split_ifs <;> assumption
    have hprobe : p.probe.source.rows store = p.probe.source.rows store' := by
      unfold JoinPlan.probe
      split_ifs <;> assumption
    simp only [recordsOfSide, hbuild, hprobe]

theorem output_nil {store : Store} (hneeds : plan.work.needsRows = true)
    (h : ∀ source ∈ plan.work.sources, (source.rows store).items = []) :
    (b.output store plan).items = [] := by
  unfold output
  cases hwork : plan.work with
  | rows source transform slots =>
    exact workThrough_nil _ _ _ (h source (by simp [hwork, PlanWork.sources]))
  | groups source transform p =>
    exact groupAll_nil (by simpa [hwork, PlanWork.needsRows] using hneeds)
      (workThrough_nil _ _ _ (h source (by simp [hwork, PlanWork.sources])))
  | join p =>
    have hprobe : (p.probe.source.rows store).items = [] := by
      unfold JoinPlan.probe
      split_ifs
      · exact h _ (by simp [hwork, PlanWork.sources])
      · exact h _ (by simp [hwork, PlanWork.sources])
    exact joinAll_nil _ (workThrough_nil _ _ _ hprobe)

end Backend

namespace Table

variable {t : Table}

theorem sortedRows_congr {store store' : Store} (h : t.source.rows store = t.source.rows store')
    (order : SortOrder) (chunk : ℕ) (folder : Arg) :
    t.sortedRows store order chunk folder = t.sortedRows store' order chunk folder := by
  simp only [sortedRows, acceptedRows, h]

theorem sortedRows_nil {store : Store} (h : (t.source.rows store).items = []) (order : SortOrder)
    (chunk : ℕ) (folder : Arg) : (t.sortedRows store order chunk folder).items = [] := by
  have haccepted : (t.acceptedRows store).items = [] := by
    simp [acceptedRows, Feed.flatMapM, h, Feed.traverse]
  have hexternal : ∀ putAside : Row → Row,
      (Sorting.externalSort (lessApart order) putAside chunk (t.acceptedRows store)).items = [] := by
    intro putAside
    simp only [Sorting.externalSort, Sorting.sortChunks, Feed.batches_nil chunk haccepted,
      List.mapM_nil, pure_eq_ok, ok_bind]
    cases (t.acceptedRows store).fault with
    | some fault => rfl
    | none => split_ifs <;> rfl
  have hsorted :
      (Sorting.sortRows (lessApart order) chunk folder (t.acceptedRows store)).items = [] := by
    unfold Sorting.sortRows
    split
    · exact hexternal _
    · split_ifs
      · exact hexternal _
      · split <;> rfl
  unfold sortedRows
  split_ifs
  · rfl
  · simp [Feed.flatMapM, hsorted, Feed.traverse]

end Table

end TablePipeline
