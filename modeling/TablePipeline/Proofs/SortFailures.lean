import Mathlib
import TablePipeline.Proofs.Containment
import TablePipeline.Proofs.SortedOutput

/-!
Where the failures of a sort come from. The rows of a sort are evaluated while the output is written:
the file is read, every row goes through its parsers, operations and filters, rows are compared, and
the sorted ones are formatted. The first failure ends the writing, and it is reported by its kind
alone. So a function that fails like a file does is taken for a failure of the output.
-/
namespace TablePipeline

/-! ### Comparisons that fail -/

namespace Sorting

section Errors

variable {α ε σ : Type} {Q : ε → Prop}

theorem error_of_foldlM {step : σ → α → Except ε σ} (h : ∀ s a e, step s a = .error e → Q e)
    {as : List α} {s : σ} {e : ε} (hfold : as.foldlM step s = .error e) : Q e := by
  induction as generalizing s with
  | nil => cases hfold
  | cons a as ih =>
    rw [List.foldlM_cons] at hfold
    rcases bind_eq_error.1 hfold with hstep | ⟨next, -, hrest⟩
    · exact h s a e hstep
    · exact ih hrest

theorem error_of_bisect {left : α → Except ε Bool} (h : ∀ a e, left a = .error e → Q e)
    {items : Array α} {lo hi : ℕ} {e : ε} (hbisect : bisect left items lo hi = .error e) : Q e := by
  induction lo, hi using bisect.induct left items with
  | case1 lo hi hlt hnone => simp [bisect, hlt, hnone] at hbisect
  | case2 lo hi hlt a ha fault hfault =>
    simp only [bisect, hlt, if_true, ha, hfault, Except.error.injEq] at hbisect
    exact hbisect ▸ h a fault hfault
  | case3 lo hi hlt a ha hleft ih =>
    rw [bisect, if_pos hlt, ha] at hbisect
    simp only [hleft] at hbisect
    exact ih hbisect
  | case4 lo hi hlt a ha hright ih =>
    rw [bisect, if_pos hlt, ha] at hbisect
    simp only [hright] at hbisect
    exact ih hbisect
  | case5 lo hi hge => simp [bisect, hge] at hbisect

variable {less : α → α → Except ε Bool} (h : ∀ a b e, less a b = .error e → Q e)

include h

theorem error_of_insertItem {items : Array α} {a : α} {e : ε}
    (hinsert : insertItem less items a = .error e) : Q e := by
  rcases bind_eq_error.1 hinsert with hplace | ⟨_, -, hdone⟩
  · exact error_of_bisect (h a) hplace
  · cases hdone

theorem error_of_runFrom {descending : Bool} {last : α} {rest : List α} {e : ε}
    (hrun : runFrom less descending last rest = .error e) : Q e := by
  induction rest generalizing last with
  | nil => cases hrun
  | cons a rest ih =>
    rcases bind_eq_error.1 hrun with hless | ⟨goesOn, -, hrun⟩
    · exact h a last e hless
    · split_ifs at hrun
      · rcases bind_eq_error.1 hrun with hrest | ⟨_, -, hdone⟩
        · exact ih hrest
        · cases hdone

theorem error_of_firstRun {items : List α} {e : ε} (hrun : firstRun less items = .error e) : Q e := by
  match items with
  | [] => cases hrun
  | [a] => cases hrun
  | a :: b :: rest =>
    rcases bind_eq_error.1 hrun with hless | ⟨descending, -, hrun⟩
    · exact h b a e hless
    · rcases bind_eq_error.1 hrun with hrest | ⟨_, -, hdone⟩
      · exact error_of_runFrom h hrest
      · cases hdone

theorem error_of_sort {items : List α} {e : ε} (hsort : sort less items = .error e) : Q e := by
  rcases bind_eq_error.1 hsort with hrun | ⟨_, -, hsort⟩
  · exact error_of_firstRun h hrun
  · rcases bind_eq_error.1 hsort with hfold | ⟨_, -, hdone⟩
    · exact error_of_foldlM (fun _ _ _ => error_of_insertItem h) hfold
    · cases hdone

end Errors

variable {α : Type}

/-- A stage that hands out some of the items it is given, and breaks off only for a cause that it is
given or because two of the items cannot be compared. -/
structure OnlyCompares (less : α → α → Except Fault Bool) (items : List α) (cause : Fault → Prop)
    (out : Feed α) : Prop where
  items_subset : out.items ⊆ items
  fault_origin : ∀ fault, out.fault = some fault →
    cause fault ∨ ∃ a ∈ items, ∃ b ∈ items, less a b = .error fault

variable {less : α → α → Except Fault Bool}

theorem OnlyCompares.failed {items : List α} {cause : Fault → Prop} {fault : Fault}
    (h : cause fault ∨ ∃ a ∈ items, ∃ b ∈ items, less a b = .error fault) :
    OnlyCompares less items cause (.failed fault) :=
  ⟨by simp [Feed.failed], fun fault' hfault => Option.some.inj hfault ▸ h⟩

theorem OnlyCompares.mono {items more : List α} {cause cause' : Fault → Prop} {out : Feed α}
    (h : OnlyCompares less items cause out) (hitems : items ⊆ more)
    (hcause : ∀ fault, cause fault → cause' fault) : OnlyCompares less more cause' out := by
  refine ⟨List.Subset.trans h.items_subset hitems, fun fault hfault => ?_⟩
  rcases h.fault_origin fault hfault with hgiven | ⟨a, ha, b, hb, hless⟩
  · exact .inl (hcause fault hgiven)
  · exact .inr ⟨a, hitems ha, b, hitems hb, hless⟩

/-- Sorting hands out items of the list, and fails only at two of them. -/
theorem onlyCompares_sort (less : α → α → Except Fault Bool) (items : List α) :
    match sort less items with
    | .ok sorted => sorted ⊆ items
    | .error fault => ∃ a ∈ items, ∃ b ∈ items, less a b = .error fault := by
  have hsort : sort less (items.attach.map Subtype.val) =
      (sort (fun x y : { b // b ∈ items } => less x y) items.attach).map (List.map Subtype.val) :=
    sort_map (fun _ _ => rfl) items.attach
  rw [List.attach_map_subtype_val] at hsort
  rw [hsort]
  cases hinside : sort (fun x y : { b // b ∈ items } => less x y) items.attach with
  | ok sorted =>
    intro a ha
    obtain ⟨x, -, rfl⟩ := List.mem_map.1 ha
    exact x.2
  | error fault =>
    exact error_of_sort (Q := fun e => ∃ a ∈ items, ∃ b ∈ items, less a b = .error e)
      (fun (x y : { b // b ∈ items }) e hless => ⟨x, x.2, y, y.2, hless⟩) hinside

/-- A merge hands out items of both runs. It fails like the second one, or at two of the items. -/
theorem onlyCompares_merge (less : α → α → Except Fault Bool) (xs ys : List α)
    (fault : Option Fault) :
    OnlyCompares less (xs ++ ys) (fun stop => fault = some stop) (merge less xs ys fault) := by
  induction xs, ys, fault using merge.induct less with
  | case1 ys fault =>
    rw [merge]
    exact ⟨by simp, fun _ hstop => .inl hstop⟩
  | case2 x xs stop =>
    rw [merge]
    exact .failed (.inl rfl)
  | case3 x xs =>
    rw [merge]
    exact ⟨by simp, fun _ hstop => .inl hstop⟩
  | case4 x xs y ys fault stop hless =>
    rw [merge, hless]
    exact .failed (.inr ⟨y, by simp, x, by simp, hless⟩)
  | case5 x xs y ys fault hless ih =>
    rw [merge, hless]
    have hsub : x :: xs ++ ys ⊆ x :: xs ++ y :: ys := by
      intro a ha
      simp only [List.mem_append, List.mem_cons] at ha ⊢
      tauto
    have hrest := ih.mono hsub fun _ h => h
    exact ⟨List.cons_subset.2 ⟨by simp, hrest.items_subset⟩, hrest.fault_origin⟩
  | case6 x xs y ys fault hless ih =>
    rw [merge, hless]
    have hrest := ih.mono (List.subset_cons_self x _) fun _ h => h
    exact ⟨List.cons_subset.2 ⟨by simp, hrest.items_subset⟩, hrest.fault_origin⟩

/-- Merging runs only compares their items. By induction on the runs, the last of which are merged
first. -/
theorem onlyCompares_mergeAll (runs : List (List α)) :
    OnlyCompares less runs.flatten (fun _ => False) (mergeAll less runs) := by
  induction runs with
  | nil => exact ⟨by simp [mergeAll, Feed.empty], fun _ hfault => by cases hfault⟩
  | cons run runs ih =>
    have hmerge := onlyCompares_merge less run (mergeAll less runs).items (mergeAll less runs).fault
    have hsub : run ++ (mergeAll less runs).items ⊆ run ++ runs.flatten :=
      List.append_subset.2 ⟨List.subset_append_left _ _,
        List.subset_append_of_subset_right _ ih.items_subset⟩
    rw [List.flatten_cons, mergeAll, List.foldr_cons]
    refine ⟨List.Subset.trans hmerge.items_subset hsub, fun fault hfault => .inr ?_⟩
    rcases hmerge.fault_origin fault hfault with hrest | ⟨a, ha, b, hb, hless⟩
    · rcases ih.fault_origin fault hrest with hnever | ⟨a, ha, b, hb, hless⟩
      · exact hnever.elim
      · exact ⟨a, List.mem_append_right _ ha, b, List.mem_append_right _ hb, hless⟩
    · exact ⟨a, hsub ha, b, hsub hb, hless⟩

/-- Batches hold items of the feed. -/
theorem subset_of_mem_batches {size : ℕ} {feed : Feed α} {batch : List α}
    (h : batch ∈ (feed.batches size).items) : batch ⊆ feed.items := by
  have hpiece : batch ∈ Feed.pieces size feed.items := by
    unfold Feed.batches at h
    cases hfault : feed.fault with
    | none => simpa [hfault] using h
    | some fault =>
      simp only [hfault] at h
      exact (List.mem_filter.1 h).1
  intro a ha
  rcases Nat.eq_zero_or_pos size with rfl | hsize
  · simp [Feed.pieces] at hpiece
  · rw [← Feed.pieces_flatten hsize feed.items]
    exact List.mem_flatten.2 ⟨batch, hpiece, ha⟩

/-- Sorting in chunks compares the items, and copies of them that were put aside. -/
theorem onlyCompares_externalSort (putAside : α → α) (size : ℕ) (feed : Feed α) :
    OnlyCompares less (feed.items ++ feed.items.map putAside) (fun stop => feed.fault = some stop)
      (externalSort less putAside size feed) := by
  unfold externalSort
  cases hchunks : sortChunks less putAside size feed with
  | error fault =>
    refine .failed ?_
    rcases bind_eq_error.1 hchunks with hruns | ⟨runs, -, hend⟩
    · obtain ⟨batch, hbatch, hsort⟩ := exists_of_mapM_eq_error hruns
      have hcompared := onlyCompares_sort less batch
      rw [hsort] at hcompared
      obtain ⟨a, ha, b, hb, hless⟩ := hcompared
      have hsub := subset_of_mem_batches hbatch
      exact .inr ⟨a, List.mem_append_left _ (hsub ha), b, List.mem_append_left _ (hsub hb), hless⟩
    · cases hfault : feed.fault with
      | none => simp [hfault] at hend
      | some stop => exact .inl (by simpa [hfault] using hend)
  | ok runs =>
    refine (onlyCompares_mergeAll runs).mono ?_ fun _ hnever => hnever.elim
    obtain ⟨sorted, hsorted, hruns⟩ := bind_eq_ok.1 hchunks
    have hsub : ∀ run ∈ sorted, run ⊆ feed.items := by
      intro run hrun
      obtain ⟨batch, hbatch, hsort⟩ := List.mem_map.1
        ((mapM_eq_ok_iff.1 hsorted).symm ▸ List.mem_map_of_mem hrun)
      have hcompared := onlyCompares_sort less batch
      rw [hsort] at hcompared
      exact List.Subset.trans hcompared (subset_of_mem_batches hbatch)
    cases hfault : feed.fault with
    | some stop => simp [hfault] at hruns
    | none =>
      simp only [hfault, pure_eq_ok, Except.ok.injEq] at hruns
      intro a ha
      split_ifs at hruns with hshort <;> subst hruns
      · obtain ⟨run, hrun, hmem⟩ := List.mem_flatten.1 ha
        exact List.mem_append_left _ (hsub run hrun hmem)
      · obtain ⟨aside, haside, hmem⟩ := List.mem_flatten.1 ha
        obtain ⟨run, hrun, rfl⟩ := List.mem_map.1 haside
        exact List.mem_append_right _ (List.map_subset putAside (hsub run hrun) hmem)

/-- Sorting rows compares them, and as they are read back. It breaks off as the rows do, or for what is
wrong with the folder. -/
theorem onlyCompares_sortRows (less : Row → Row → Except Fault Bool) (size : ℕ) (folder : Arg)
    (rows : Feed Row) :
    OnlyCompares less (rows.items ++ rows.items.map (Datum.forgetItems true))
      (fun stop => rows.fault = some stop ∨
        ∃ reason, folder.requireFolder = .error reason ∧ stop = .eval reason)
      (sortRows less size folder rows) := by
  have hsort : OnlyCompares less (rows.items ++ rows.items.map (Datum.forgetItems true))
      (fun stop => rows.fault = some stop ∨
        ∃ reason, folder.requireFolder = .error reason ∧ stop = .eval reason)
      (externalSort less (Datum.forgetItems true) size rows) :=
    (onlyCompares_externalSort _ size rows).mono (List.Subset.refl _) fun _ h => .inl h
  unfold sortRows
  cases hfolder : folder.requireFolder with
  | ok _ => simpa only [hfolder] using hsort
  | error reason =>
    rw [hfolder] at hsort
    dsimp only
    split_ifs with hshort
    · rwa [← externalSort_of_short hshort]
    · have hcompared := onlyCompares_sort less (rows.items.take size)
      split
      · rename_i fault hfirst
        rw [hfirst] at hcompared
        obtain ⟨a, ha, b, hb, hless⟩ := hcompared
        exact .failed (.inr ⟨a, List.mem_append_left _ (List.mem_of_mem_take ha), b,
          List.mem_append_left _ (List.mem_of_mem_take hb), hless⟩)
      · exact .failed (.inl (.inr ⟨reason, rfl, rfl⟩))

/-- Rows that could be sorted did not break off. -/
theorem fault_of_sortRows {less : Row → Row → Except Fault Bool} {size : ℕ} {folder : Arg}
    {rows : Feed Row} (h : (sortRows less size folder rows).fault = none) : rows.fault = none := by
  unfold sortRows at h
  split at h
  · exact fault_of_externalSort h
  · split_ifs at h
    · exact fault_of_externalSort h
    · split at h <;> cases h

end Sorting

/-! ### What evaluating rows raises -/

/-- A feed of steps breaks off as the feed before them does, or at a step that fails. -/
theorem Feed.origin_of_traverse {α β : Type} {f : α → Except Fault (List β)} {as : List α}
    {fault : Option Fault} {stop : Fault} (h : (traverse f as fault).fault = some stop) :
    fault = some stop ∨ ∃ a ∈ as, f a = .error stop := by
  induction as with
  | nil => exact .inl h
  | cons a as ih =>
    cases hstep : f a with
    | error reason =>
      obtain rfl : reason = stop := by simpa [traverse, hstep, failed] using h
      exact .inr ⟨a, by simp, hstep⟩
    | ok bs =>
      rcases ih (by simpa [traverse, hstep] using h) with hgiven | ⟨there, hthere, hfails⟩
      · exact .inl hgiven
      · exact .inr ⟨there, List.mem_cons_of_mem _ hthere, hfails⟩

namespace Table

variable {t : Table} {store : Store} {order : SortOrder} {chunk : ℕ} {folder : Arg}

/-- The rows that a sort has in hand: those that the filters let pass, and the same rows as they are
read back once they have been put aside. -/
def rowsInHand (t : Table) (store : Store) : List Row :=
  (t.acceptedRows store).items ++ (t.acceptedRows store).items.map (Datum.forgetItems true)

/-- A failure that evaluating rows for a sort raises: in the parsers, operations and filters of a row
of the file, in the comparison of two rows, or in the formatters of a row. -/
inductive Raises (t : Table) (store : Store) (order : SortOrder) (fault : Fault) : Prop
  | passing {values : Row} (row : values ∈ (t.source.rows store).items)
      (fails : (RowTransform.ofTable t.catalog t.rules false).kept values = .error fault)
  | comparing {x y : Row} (first : x ∈ t.rowsInHand store) (second : y ∈ t.rowsInHand store)
      (fails : lessApart order x y = .error fault)
  | formatting {x : Row} (row : x ∈ t.rowsInHand store)
      (fails : formattedCells t.catalog x = .error fault)

/-- What keeps a sort from its rows although none of them fails: the file cannot be read to its end,
no rows can be put aside in the folder, or the chunks are too large. -/
inductive Hinders (t : Table) (store : Store) (chunk : ℕ) (folder : Arg) (fault : Fault) : Prop
  | reading (broken : (t.source.rows store).fault = some fault)
  | putting {reason : EvalFault} (refused : folder.requireFolder = .error reason)
      (same : fault = .eval reason)
  | counting (beyond : Source.maxCount < chunk) (same : fault = .eval .badCount)

/-- The sorted rows break off at the first failure in evaluating them, unless something hinders it. -/
theorem origin_of_sortedRows {fault : Fault}
    (h : (t.sortedRows store order chunk folder).fault = some fault) :
    t.Raises store order fault ∨ t.Hinders store chunk folder fault := by
  unfold sortedRows at h
  split_ifs at h with hcount
  · exact .inr (.counting hcount (Option.some.inj h).symm)
  have hsorts := Sorting.onlyCompares_sortRows (lessApart order) chunk folder
    (t.acceptedRows store)
  rcases Feed.origin_of_traverse h with hsorting | ⟨x, hx, hformat⟩
  · rcases hsorts.fault_origin fault hsorting with (hrows | ⟨reason, hfolder, rfl⟩) |
      ⟨x, hx, y, hy, hless⟩
    · rcases Feed.origin_of_traverse hrows with hread | ⟨values, hvalues, hkept⟩
      · exact .inr (.reading hread)
      · rcases bind_eq_error.1 hkept with hfails | ⟨_, -, hdone⟩
        · exact .inl (.passing hvalues hfails)
        · cases hdone
    · exact .inr (.putting hfolder rfl)
    · exact .inl (.comparing hx hy hless)
  · rcases bind_eq_error.1 hformat with hfails | ⟨_, -, hdone⟩
    · exact .inl (.formatting (hsorts.items_subset hx) hfails)
    · cases hdone

end Table

/-! ### How a failure is reported -/

/-- How a sort reports the failure that ends it once the output is open: one with a code as it is, the
others by their kind alone. -/
theorem Table.sortFault_blame (uri : String) (fault : Fault) :
    Table.sortFault (Sink.blame uri fault) =
      match fault with
      | .eval stop =>
        if stop.kind = .permission then .sinkRefused uri fault
        else if stop.kind.ofStorage = true then .sinkFailed uri fault
        else .sorting fault
      | _ => fault := by
  cases fault with
  | eval stop =>
    simp only [Sink.blame, beq_iff_eq]
    split_ifs <;> rfl
  | _ => rfl

namespace Sink

/-- How the writing ends, once the output is open. -/
theorem write_of_opened {sink : Sink} {header : Row} {produce : Store → Feed Row} {store : Store}
    {opened : Store × Settings} (h : sink.opened store = .ok opened) :
    (sink.write header produce store).1 =
      match (fill opened.2 header (produce opened.1)).2 with
      | some fault => .error (blame sink.uri fault)
      | none => .ok (produce opened.1).items.length := by
  simp only [write, h, filled]
  rcases fill opened.2 header (produce opened.1) with ⟨bytes, _ | fault⟩ <;> rfl

end Sink

namespace Table

/-- A run that fails as an operation with a code, for a cause. -/
def FailsWith (outcome : Except Fault Report) (code : String) (cause : Fault) : Prop :=
  ∃ fault, outcome = .error fault ∧ fault.code? = some code ∧ fault.name = Blame.run.name ∧
    fault.cause = some cause

variable {t : Table} {store : Store}

/-- Arguments with which a sort of a table without groups goes on to open its output. -/
structure Sorts (t : Table) (store : Store) (order output : Arg) (options : Settings)
    (keys : SortOrder) (chunk : ℕ) (sink : Sink) : Prop where
  known : sortSignature.check options = .ok ()
  rows : t.rules.makesGroups = false
  sized : chunkOf (options.get "chunk_size" (.int Sorting.defaultChunk)) = .ok chunk
  ordered : SortOrder.ofArg t.catalog order = .ok keys
  placed : Sink.ofArgs store output (.named []) = .ok sink

section Sorts

variable {order output : Arg} {options : Settings} {keys : SortOrder} {chunk : ℕ} {sink : Sink}

theorem Sorts.sort_eq (h : t.Sorts store order output options keys chunk sink) :
    (t.sort store order output options).1 =
      ((sink.write t.catalog.names (fun opened =>
        t.sortedRows opened keys chunk (options.get "tempdir" .null)) store).1.map
          fun rows => { output := sink.uri, rowsWritten := rows }).mapError sortFault := by
  simp only [sort, h.known, h.rows, h.sized, h.ordered, h.placed, Except.mapError, ok_bind,
    Bool.false_eq_true, if_false]
  rcases sink.write t.catalog.names (fun opened =>
    t.sortedRows opened keys chunk (options.get "tempdir" .null)) store with ⟨_ | _, _⟩ <;> rfl

theorem Sorts.sort_of_refused (h : t.Sorts store order output options keys chunk sink)
    {fault : Fault} (hrefused : sink.opened store = .error fault) :
    (t.sort store order output options).1 = .error (sortFault fault) := by
  rw [h.sort_eq, Sink.write, hrefused]
  rfl

/-- Once the output is open, the first failure of its rows or in writing them ends a sort. -/
theorem Sorts.sort_of_opened (h : t.Sorts store order output options keys chunk sink)
    {opened : Store × Settings} (hopened : sink.opened store = .ok opened) :
    let rows := t.sortedRows opened.1 keys chunk (options.get "tempdir" .null)
    (t.sort store order output options).1 =
      match (Sink.fill opened.2 t.catalog.names rows).2 with
      | some fault => .error (sortFault (Sink.blame sink.uri fault))
      | none => .ok { output := sink.uri, rowsWritten := rows.items.length } := by
  intro rows
  rw [h.sort_eq, Sink.write_of_opened hopened]
  cases (Sink.fill opened.2 t.catalog.names rows).2 <;> rfl

/-- The kind of the failure that breaks off the rows decides how a sort reports it. -/
theorem failsWith_of_kind {outcome : Except Fault Report} {uri : String} {stop : EvalFault}
    (h : outcome = .error (sortFault (Sink.blame uri (.eval stop)))) :
    (stop.kind.ofStorage = false → FailsWith outcome "E_SORT" (.eval stop)) ∧
      (stop.kind = .permission → FailsWith outcome "E_SINK_NOT_WRITABLE" (.eval stop)) ∧
      (stop.kind.ofStorage = true → stop.kind ≠ .permission →
        FailsWith outcome "E_SINK_WRITE" (.eval stop)) := by
  rw [sortFault_blame] at h
  refine ⟨fun hplain => ?_, fun hrefused => ?_, fun hstorage hother => ?_⟩
  · have hother : stop.kind ≠ .permission := by
      rintro hrefused
      simp [hrefused, FaultKind.ofStorage] at hplain
    exact ⟨.sorting (.eval stop), by simpa [hother, hplain] using h, rfl, rfl, rfl⟩
  · exact ⟨.sinkRefused uri (.eval stop), by simpa [hrefused] using h, rfl, rfl, rfl⟩
  · exact ⟨.sinkFailed uri (.eval stop), by simpa [hother, hstorage] using h, rfl, rfl, rfl⟩

/-- A failure that a sort reports with a code of the output has had that code, or is of the storage. -/
theorem cause_of_code {uri : String} {fault cause : Fault}
    (h : fault = sortFault (Sink.blame uri cause))
    (hcode : fault.code? = some "E_SINK_WRITE" ∨ fault.code? = some "E_SINK_NOT_WRITABLE") :
    fault = cause ∨ fault.cause = some cause ∧
      ∃ stop, cause = .eval stop ∧ stop.kind.ofStorage = true := by
  rw [sortFault_blame] at h
  cases cause with
  | eval stop =>
    dsimp only at h
    split_ifs at h with hrefused hstorage
    · exact .inr ⟨by rw [h]; rfl, stop, rfl, by rw [hrefused]; rfl⟩
    · exact .inr ⟨by rw [h]; rfl, stop, rfl, hstorage⟩
    · simp [h, Fault.code?] at hcode
  | _ => exact .inl h

/-- Rows that were sorted and formatted have all been evaluated. -/
theorem kept_of_sortedRows {order : SortOrder} {chunk : ℕ} {folder : Arg}
    (h : (t.sortedRows store order chunk folder).fault = none) :
    ∀ values ∈ (t.source.rows store).items, ∃ row?,
      (RowTransform.ofTable t.catalog t.rules false).kept values = .ok row? := by
  unfold sortedRows at h
  split_ifs at h with hcount
  · cases h
  obtain ⟨hsorted, -⟩ := Feed.ok_of_traverse h
  have haccepted : (t.acceptedRows store).fault = none := Sorting.fault_of_sortRows hsorted
  exact (rows_of_acceptedRows haccepted).2.1

/-- The codes of the output come about in opening it, and in no other way than by what the rows break
off with. -/
theorem Sorts.origin_of_sink_code (h : t.Sorts store order output options keys chunk sink)
    {fault : Fault} (hfault : (t.sort store order output options).1 = .error fault)
    (hcode : fault.code? = some "E_SINK_WRITE" ∨ fault.code? = some "E_SINK_NOT_WRITABLE") :
    sink.opened store = .error fault ∨ ∃ opened cause, sink.opened store = .ok opened ∧
      (t.sortedRows opened.1 keys chunk (options.get "tempdir" .null)).fault = some cause ∧
      (fault = cause ∨ fault.cause = some cause ∧
        ∃ stop, cause = .eval stop ∧ stop.kind.ofStorage = true) := by
  cases hopened : sink.opened store with
  | error stop =>
    rw [h.sort_of_refused hopened, sortFault] at hfault
    split_ifs at hfault
    · exact .inl (congrArg _ (Except.error.inj hfault))
    · obtain rfl := Except.error.inj hfault
      simp [Fault.code?] at hcode
  | ok opened =>
    refine .inr ⟨opened, ?_⟩
    have hend := h.sort_of_opened hopened
    dsimp only at hend
    by_cases hwrites : Sink.Writes t.catalog.names
        (t.sortedRows opened.1 keys chunk (options.get "tempdir" .null)).items opened
    · rw [Sink.fill_of_writes hwrites List.prefix_rfl, hfault] at hend
      cases hrows : (t.sortedRows opened.1 keys chunk (options.get "tempdir" .null)).fault with
      | none => simp [hrows] at hend
      | some cause =>
        simp only [hrows, Except.error.injEq] at hend
        exact ⟨cause, rfl, rfl, cause_of_code hend hcode⟩
    · obtain ⟨stop, hstop, hplain⟩ := Sink.reason_of_not_writes hwrites
      rw [hstop] at hend
      obtain ⟨fault', hfault', hcode', -⟩ := (failsWith_of_kind hend).1 hplain
      obtain rfl : fault = fault' := Except.error.inj (hfault.symm.trans hfault')
      simp [hcode'] at hcode

end Sorts

end Table

/-! ### A formatter that fails -/

def failing (kind : FaultKind) : Func := .unary "failing" fun _ => .error (.eval (.raised kind "boom"))

/-- The sample whose first column cannot be formatted. -/
def failingTable (kind : FaultKind) : Table :=
  { sampleTable with
    catalog := { sampleTable.catalog with formatters := [(0, failing kind)] } }

theorem edit_failing (kind : FaultKind) :
    sampleTable.edit sampleStore (.setFormatter (.text "k") (.func (failing kind))) =
      (.ok (), failingTable kind) :=
  Table.edit_of_steps rfl (dryRun_sample rfl rfl rfl)

theorem sorts_failing (kind : FaultKind) : (failingTable kind).Sorts sampleStore
    (.list [.text "+", .text "k"]) (.text "o.csv") [] [⟨false, 0⟩] Sorting.defaultChunk plainSink :=
  ⟨rfl, rfl, rfl, rfl, ofArgs_plain⟩

theorem sortedRows_failing (kind : FaultKind) :
    (failingTable kind).sortedRows plainOpened.1 [⟨false, 0⟩] Sorting.defaultChunk .null =
      ⟨[], some (.eval (.raised kind "boom"))⟩ := by
  rw [Table.sortedRows_congr (t := failingTable kind) rows_plain]
  have hrows : (failingTable kind).source.rows sampleStore = _ := rows_sample
  rw [Table.sortedRows, Table.acceptedRows, hrows]
  cbv

theorem writes_failing (kind : FaultKind) :
    Sink.Writes (failingTable kind).catalog.names [] plainOpened := by
  have hnames : (failingTable kind).catalog.names = [.text "k", .text "v"] := rfl
  rw [hnames]
  exact Option.isNone_iff_eq_none.1 (by decide +kernel)

end TablePipeline
