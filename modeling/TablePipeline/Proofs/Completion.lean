import Mathlib
import TablePipeline.Proofs.Checkpoints
import TablePipeline.Proofs.SourceText

/-!
Readers that have come to an end. A reader that was put before a row owes this row and those after it.
As long as reading has not failed, what it has handed out since and what it has left are together what
it owes, so it is truly at an end when nothing is left and the feed has not broken off. A feed that has
broken off leaves nothing either: the read that fails does not claim an end, but the one after it does,
and the rows of a batch that fails are lost. An offset that is refused moves no row and no checkpoint;
it only makes a reader at its end forget this until it is read again.
-/
namespace TablePipeline

namespace Cursor

/-- What is done with a reader. -/
inductive Use where
  | next
  | batch (size : Arg)
  | recover (offset : Arg)

/-- What a use hands out, and the reader after it. -/
def use (c : Cursor) : Use → Except Fault (List NumberedRow) × Cursor
  | .next => (c.next.1.map Option.toList, c.next.2)
  | .batch size => c.nextBatchFor size
  | .recover offset =>
    (((c.recover offset).1.mapError Fault.eval).map fun _ => [], (c.recover offset).2)

/-- What a series of uses hands out one by one, each with the checkpoint after it. -/
def outcomes (c : Cursor) : List Use → List (Except Fault (List NumberedRow) × Option Value)
  | [] => []
  | u :: more => ((c.use u).1, (c.use u).2.checkpoint) :: (c.use u).2.outcomes more

/-- A reader with the row before which it was last put, what it has handed out since, and whether
reading has failed since. -/
structure Trail where
  cursor : Cursor
  start : ℕ := 0
  handed : List NumberedRow := []
  broken : Bool := false

namespace Trail

/-- What comes of reading. -/
def read (t : Trail) : Except Fault (List NumberedRow) × Cursor → Trail
  | (.ok rows, c) => { t with cursor := c, handed := t.handed ++ rows }
  | (.error _, c) => { t with cursor := c, broken := true }

/-- What comes of a use. Where a size or an offset is refused, nothing is read. -/
def step (t : Trail) : Use → Trail
  | .next => t.read (t.cursor.use .next)
  | .batch size =>
    match t.cursor.batchSizeOf size with
    | .ok n => t.read (t.cursor.nextBatch n)
    | .error _ => t
  | .recover offset =>
    match resumePoint offset with
    | .ok start => { cursor := (t.cursor.recover offset).2, start }
    | .error _ => { t with cursor := (t.cursor.recover offset).2 }

/-- What comes of a series of uses. -/
def after (t : Trail) (uses : List Use) : Trail := uses.foldl step t

/-- A fresh reader. -/
def opened (rows : Feed Row) (keeps : Bool) : Trail :=
  { cursor := { feed := rows, keepsCheckpoints := keeps } }

theorem after_cons (t : Trail) (u : Use) (uses : List Use) :
    t.after (u :: uses) = (t.step u).after uses := rfl

theorem cursor_read (t : Trail) (r : Except Fault (List NumberedRow) × Cursor) :
    (t.read r).cursor = r.2 := by
  rcases r with ⟨_ | _, _⟩ <;> rfl

theorem cursor_step (t : Trail) (u : Use) : (t.step u).cursor = (t.cursor.use u).2 := by
  cases u with
  | next => exact t.cursor_read _
  | batch size =>
    simp only [step, use, nextBatchFor]
    cases t.cursor.batchSizeOf size with
    | error stop => rfl
    | ok n => exact t.cursor_read _
  | recover offset =>
    rw [step]
    cases resumePoint offset <;> rfl

/-- The reader of a trail is the reader that was used: what the trail records changes nothing. -/
theorem cursor_after (t : Trail) (uses : List Use) :
    (t.after uses).cursor = uses.foldl (fun c u => (c.use u).2) t.cursor := by
  induction uses generalizing t with
  | nil => rfl
  | cons u uses ih => rw [after_cons, ih, cursor_step, List.foldl_cons]

section Next

variable {t : Trail} {row : NumberedRow} {rest : List NumberedRow} {fault : Fault}

theorem step_next_row (h : t.cursor.left.items = row :: rest) :
    t.step .next =
      { t with
        cursor := { t.cursor with
          left? := some ⟨rest, t.cursor.left.fault⟩
          position := t.cursor.position + 1
          given? := none }
        handed := t.handed ++ [row] } := by
  rw [step, use, next, h]
  rfl

theorem step_next_fault (h : t.cursor.left.items = []) (hfault : t.cursor.left.fault = some fault) :
    t.step .next = { t with cursor := { t.cursor with left? := some .empty }, broken := true } := by
  rw [step, use, next, h, hfault]
  rfl

theorem step_next_end (h : t.cursor.left.items = []) (hfault : t.cursor.left.fault = none) :
    t.step .next =
      { t with cursor := { t.cursor with left? := some .empty, completed := true } } := by
  rw [step, use, next, h, hfault]
  simp [read, Except.map]

end Next

/-! ### What a reader owes -/

/-- A trail over a feed: unless reading has failed, what was handed out and what is left are together
what is owed, and the feed ends as it does. A reader that has failed has nothing left and has handed
out the first of what it owes; one that says that it is at its end has read up to it. -/
structure Follows (t : Trail) (rows : Feed Row) : Prop where
  feed : t.cursor.feed = rows
  handed : t.handed <+: rows.numbered.items.drop t.start
  whole : t.broken = false →
    t.handed ++ t.cursor.left.items = rows.numbered.items.drop t.start ∧
      t.cursor.left.fault = rows.fault
  broken : t.broken = true → rows.fault ≠ none ∧ t.cursor.left = .empty
  ended : t.cursor.completed = true → t.cursor.left? = some .empty

variable {t : Trail} {rows : Feed Row}

theorem follows_opened (rows : Feed Row) (keeps : Bool) : (opened rows keeps).Follows rows where
  feed := rfl
  handed := List.nil_prefix
  whole := fun _ => ⟨by simp [opened, left], rfl⟩
  broken := fun h => nomatch h
  ended := fun h => nomatch h

namespace Follows

theorem left_of_ended (h : t.Follows rows) (hended : t.cursor.completed = true) :
    t.cursor.left = .empty := by
  rw [left, h.ended hended]
  rfl

/-- As long as anything is left, be it a row or a failure, reading has not failed. -/
theorem not_broken (h : t.Follows rows) (hleft : t.cursor.left ≠ .empty) : t.broken = false :=
  Bool.eq_false_iff.2 fun hbroken => hleft (h.broken hbroken).2

theorem not_completed (h : t.Follows rows) (hleft : t.cursor.left ≠ .empty) :
    t.cursor.completed = false :=
  Bool.eq_false_iff.2 fun hended => hleft (h.left_of_ended hended)

/-- Reading on keeps the account, by what is left: a row, a failure or the end. -/
theorem step_next (h : t.Follows rows) : (t.step .next).Follows rows := by
  cases hitems : t.cursor.left.items with
  | cons row rest =>
    have hleft : t.cursor.left ≠ .empty := fun hempty => by simp [hempty, Feed.empty] at hitems
    have hbroken := h.not_broken hleft
    have hcompleted := h.not_completed hleft
    obtain ⟨hwhole, hfault⟩ := h.whole hbroken
    have hmore : t.handed ++ [row] ++ rest = rows.numbered.items.drop t.start := by
      rw [List.append_assoc, List.singleton_append, ← hitems, hwhole]
    rw [step_next_row hitems]
    exact ⟨h.feed, ⟨rest, hmore⟩, fun _ => ⟨hmore, hfault⟩, by simp [hbroken], by simp [hcompleted]⟩
  | nil =>
    cases hfault : t.cursor.left.fault with
    | some fault =>
      have hleft : t.cursor.left ≠ .empty := fun hempty => by simp [hempty, Feed.empty] at hfault
      have hrows := (h.whole (h.not_broken hleft)).2
      rw [step_next_fault hitems hfault]
      exact ⟨h.feed, h.handed, by simp, fun _ => ⟨by simp [← hrows, hfault], rfl⟩, fun _ => rfl⟩
    | none =>
      rw [step_next_end hitems hfault]
      refine ⟨h.feed, h.handed, fun hwhole => ?_, fun hbroken => ?_, fun _ => rfl⟩
      · have hrest := h.whole hwhole
        rwa [hitems, hfault] at hrest
      · exact ⟨(h.broken hbroken).1, rfl⟩

/-- Rows that are read before a failure in the same batch are lost. -/
theorem lose {more : List NumberedRow} {c : Cursor}
    (h : Follows { t with cursor := c, handed := t.handed ++ more, broken := true } rows) :
    Follows { t with cursor := c, broken := true } rows where
  feed := h.feed
  handed := (List.prefix_append _ _).trans h.handed
  whole := fun hwhole => nomatch hwhole
  broken := h.broken
  ended := h.ended

/-- A batch is read row by row: by induction on its size, up to the first failure or the end. -/
theorem read_nextBatch (h : t.Follows rows) (size : ℕ) :
    (t.read (t.cursor.nextBatch size)).Follows rows := by
  induction size generalizing t with
  | zero => simpa [nextBatch, read] using h
  | succ size ih =>
    have hnext := h.step_next
    rw [Trail.step, use] at hnext
    rw [nextBatch]
    rcases hrow : t.cursor.next with ⟨fault | _ | row, c⟩ <;> rw [hrow] at hnext
    · exact hnext
    · exact hnext
    · have hmore := ih hnext
      simp only [Except.map, Option.toList, read] at hmore ⊢
      rcases hrest : c.nextBatch size with ⟨fault | more, d⟩ <;> simp only [hrest] at hmore ⊢
      -- The rest of the batch fails, and the row at hand goes with it.
      · exact hmore.lose
      · simpa [List.append_assoc] using hmore

theorem step_recover (h : t.Follows rows) (offset : Arg) : (t.step (.recover offset)).Follows rows := by
  simp only [step, recover]
  cases resumePoint offset with
  | ok start =>
    refine ⟨h.feed, List.nil_prefix, fun _ => ?_, by simp, by simp⟩
    simp [left, Feed.drop, h.feed, Feed.numbered]
  | error stop => exact ⟨h.feed, h.handed, h.whole, h.broken, by simp⟩

theorem step (h : t.Follows rows) (u : Use) : (t.step u).Follows rows := by
  cases u with
  | next => exact h.step_next
  | batch size =>
    rw [Trail.step]
    cases t.cursor.batchSizeOf size with
    | error stop => exact h
    | ok n => exact h.read_nextBatch n
  | recover offset => exact h.step_recover offset

theorem after (h : t.Follows rows) (uses : List Use) : (t.after uses).Follows rows := by
  induction uses generalizing t with
  | nil => exact h
  | cons u uses ih => exact ih (h.step u)

/-- Unless reading has failed, nothing is left if and only if all that is owed has been handed out. -/
theorem items_eq_nil_iff (h : t.Follows rows) (hwhole : t.broken = false) :
    t.cursor.left.items = [] ↔ t.handed = rows.numbered.items.drop t.start := by
  rw [← (h.whole hwhole).1, List.self_eq_append_right]

/-- A reader with nothing left has failed or has handed out all that it owes, and there is no more. -/
theorem left_eq_empty_iff (h : t.Follows rows) :
    t.cursor.left = .empty ↔
      t.broken = true ∨ rows.fault = none ∧ t.handed = rows.numbered.items.drop t.start := by
  cases hbroken : t.broken with
  | true => simp [(h.broken hbroken).2]
  | false =>
    have hempty : t.cursor.left = .empty ↔
        t.cursor.left.items = [] ∧ t.cursor.left.fault = none := by
      rcases t.cursor.left with ⟨items, fault⟩
      simp [Feed.empty]
    rw [hempty, h.items_eq_nil_iff hbroken, (h.whole hbroken).2]
    simp [and_comm]

/-- The next read claims the end exactly if nothing is left. -/
theorem completed_next (h : t.Follows rows) :
    t.cursor.next.2.completed = true ↔ t.cursor.left = .empty := by
  by_cases hempty : t.cursor.left = .empty
  · simp [next, hempty, Feed.empty]
  · have hnot := h.not_completed hempty
    rcases hleft : t.cursor.left with ⟨_ | ⟨row, rest⟩, _ | fault⟩
    · exact absurd hleft hempty
    all_goals simp [next, hleft, Feed.empty, hnot]

/-- The next read fails exactly if the feed breaks off behind all that was handed out, and it has not
failed before. -/
theorem next_fails_iff (h : t.Follows rows) (fault : Fault) :
    t.cursor.next.1 = .error fault ↔ t.broken = false ∧ rows.fault = some fault ∧
      t.handed = rows.numbered.items.drop t.start := by
  have hnext : t.cursor.next.1 = .error fault ↔
      t.cursor.left.items = [] ∧ t.cursor.left.fault = some fault := by
    rcases hleft : t.cursor.left with ⟨_ | ⟨row, rest⟩, _ | stop⟩ <;> simp [next, hleft]
  rw [hnext]
  cases hbroken : t.broken with
  | true => simp [(h.broken hbroken).2, Feed.empty]
  | false =>
    rw [h.items_eq_nil_iff hbroken, (h.whole hbroken).2]
    simp [and_comm]

end Follows

end Trail

/-! ### The end of a feed -/

/-- What it means that a reader says that it is at its end, whatever it has been used for. It has handed
out the first of what it owes since it was last put before a row. If it says that it is at its end, and
reading has not failed since, then the feed has ended and this was all. A read claims the end exactly
if that is so or reading has failed before. The read that fails is itself no such read, for it comes
right behind what the feed had to hand out; and where the feed does not break off, none fails. -/
theorem completed_after_uses (rows : Feed Row) (keeps : Bool) (uses : List Use) :
    let t := (Trail.opened rows keeps).after uses
    let owed := rows.numbered.items.drop t.start
    t.handed <+: owed ∧
      (t.cursor.completed = true → t.broken = true ∨ rows.fault = none ∧ t.handed = owed) ∧
      (t.cursor.next.2.completed = true ↔ t.broken = true ∨ rows.fault = none ∧ t.handed = owed) ∧
      (∀ fault, t.cursor.next.1 = .error fault ↔
        t.broken = false ∧ rows.fault = some fault ∧ t.handed = owed) ∧
      (rows.fault = none → t.broken = false) := by
  intro t owed
  have h : t.Follows rows := (Trail.follows_opened rows keeps).after uses
  refine ⟨h.handed, fun hended => ?_, ?_, h.next_fails_iff, fun hrows => ?_⟩
  · exact h.left_eq_empty_iff.1 (h.left_of_ended hended)
  · exact h.completed_next.trans h.left_eq_empty_iff
  · exact Bool.eq_false_iff.2 fun hbroken => (h.broken hbroken).1 hrows

/-- Three rows, after which the feed breaks off. -/
def brokenRows : Feed Row := { threeRows with fault := some (.eval .badCount) }

/-- A batch that fails loses its rows, and the read after it claims the end. -/
theorem completed_after_uses_lost :
    let t := (Trail.opened brokenRows true).after [.batch (.int 5), .next]
    t.cursor.completed = true ∧ t.broken = true ∧ t.handed = [] := by
  intro t
  obtain ⟨-, hended, -⟩ := completed_after_uses brokenRows true [.batch (.int 5), .next]
  have hcompleted : t.cursor.completed = true := rfl
  refine ⟨hcompleted, (hended hcompleted).resolve_right ?_, rfl⟩
  rintro ⟨hfault, -⟩
  cases hfault

/-! ### A file that breaks off -/

/-- A header, a row and a byte that is no text. -/
def brokenBytes : Bytes := [107, 10, 97, 10, 255, 10]

def brokenStore : Store := { files := [(["a.csv"], brokenBytes)] }

def brokenSource : Source := { uri := "a.csv" }

theorem rows_broken :
    ∃ stop, brokenSource.rows brokenStore = ⟨[], some (.eval (.coding stop))⟩ := by
  have hread : brokenStore.read "a.csv" = .ok brokenBytes := by
    rw [Store.read, brokenStore, walk_sample]
    rfl
  have hopen : brokenSource.opening brokenStore = .ok [] := by
    simp only [Source.opening, brokenSource, Store.isFile, brokenStore, walk_sample]
    rfl
  have hpieces : Compressed.pieces brokenBytes = [brokenBytes] := by cbv
  have hdecode : ∃ stop, Text.Encoding.decode ⟨.utf8, false⟩ .strict false [brokenBytes] =
      ([], some stop) := ⟨_, by cbv⟩
  obtain ⟨stop, hdecode⟩ := hdecode
  have htext : Source.textOf "a.csv" ⟨.utf8, false⟩ .strict brokenBytes =
      ([], some (.coding stop)) := by
    simp only [Source.textOf, ofPath_sample, Compressed.Packing.unpack, hpieces, Option.isSome_none,
      hdecode]
    rfl
  have hcoding : Source.codingOf [] = .ok (⟨.utf8, false⟩, .strict) := rfl
  have hdialect : Dialect.ofSettings (Settings.without [] Source.ownSettings) = .ok {} := rfl
  have hheader : Settings.get [] "header" .null = .null := rfl
  have hrows : Source.fileRows brokenStore "a.csv" [] = ⟨[], some (.eval (.coding stop))⟩ := by
    have hlines : Delimited.completeLines [] = [] := by cbv
    simp only [Source.fileRows, hread, Source.textRows, hcoding, hdialect, htext, Option.map_some,
      Delimited.read, Option.isSome_some, if_true, hlines]
    rfl
  refine ⟨stop, ?_⟩
  have hall : brokenSource.allRows brokenStore = ⟨[], some (.eval (.coding stop))⟩ := by
    simp only [Source.allRows, hopen, hheader]
    exact hrows
  rw [Source.rows, hall]
  rfl

/-- A reader whose first read fails claims the end at the second, with nothing handed out. -/
theorem completed_after_failure :
    ∃ fault, (brokenSource.rows brokenStore).fault = some fault ∧
      let t := (Trail.opened (brokenSource.rows brokenStore) true).after [.next, .next]
      t.cursor.completed = true ∧ t.broken = true ∧ t.handed = [] := by
  obtain ⟨stop, hrows⟩ := rows_broken
  rw [hrows]
  exact ⟨_, rfl, rfl, rfl, rfl⟩

/-! ### Offsets that are refused -/

/-- Which whole numbers are refused does not depend on the reader. -/
theorem refused_int_iff (c : Cursor) (i : ℤ) :
    (∃ stop, (c.recover (.int i)).1 = .error stop) ↔ i < 0 ∨ Source.maxCount < i := by
  have hpoint : (∃ stop, (c.recover (.int i)).1 = .error stop) ↔
      ∃ stop, resumePoint (.int i) = .error stop := by
    rw [recover]
    cases resumePoint (.int i) <;> simp
  rw [hpoint]
  cases i with
  | ofNat n =>
    rw [Int.ofNat_eq_natCast, resumePoint_natCast]
    by_cases hn : n ≤ Source.maxCount <;> simp [hn, Nat.not_lt.2, Nat.lt_of_not_le]
  | negSucc n => simp [resumePoint, Datum.truth]

theorem recover_of_refused {c : Cursor} {offset : Arg} {stop : EvalFault}
    (h : (c.recover offset).1 = .error stop) : (c.recover offset).2 = { c with completed := false } := by
  rw [recover] at h ⊢
  cases hpoint : resumePoint offset with
  | ok n => simp [hpoint] at h
  | error fault => rfl

/-! What a reader says about its end makes no difference to anything else that it does. -/

theorem next_with_completed (c : Cursor) (b : Bool) :
    ∃ b', next { c with completed := b } = (c.next.1, { c.next.2 with completed := b' }) := by
  have hleft : left { c with completed := b } = c.left := rfl
  rw [next, next, hleft]
  rcases c.left with ⟨_ | ⟨row, rest⟩, _ | fault⟩ <;> exact ⟨_, rfl⟩

theorem nextBatch_with_completed (c : Cursor) (b : Bool) (size : ℕ) :
    ∃ b', nextBatch { c with completed := b } size =
      ((c.nextBatch size).1, { (c.nextBatch size).2 with completed := b' }) := by
  induction size generalizing c b with
  | zero => exact ⟨b, rfl⟩
  | succ size ih =>
    obtain ⟨b', hnext⟩ := c.next_with_completed b
    rw [nextBatch, nextBatch, hnext]
    rcases c.next with ⟨fault | _ | row, d⟩
    · exact ⟨b', rfl⟩
    · exact ⟨b', rfl⟩
    · obtain ⟨b'', hmore⟩ := ih d b'
      simp only [hmore]
      rcases d.nextBatch size with ⟨fault | more, e⟩ <;> exact ⟨b'', rfl⟩

theorem use_with_completed (c : Cursor) (b : Bool) (u : Use) :
    ∃ b', use { c with completed := b } u = ((c.use u).1, { (c.use u).2 with completed := b' }) := by
  cases u with
  | next =>
    obtain ⟨b', hnext⟩ := c.next_with_completed b
    exact ⟨b', by rw [use, hnext, use]⟩
  | batch size =>
    have hsize : batchSizeOf { c with completed := b } size = c.batchSizeOf size := rfl
    rw [use, use, nextBatchFor, nextBatchFor, hsize]
    cases c.batchSizeOf size with
    | error stop => exact ⟨b, rfl⟩
    | ok n => exact c.nextBatch_with_completed b n
  | recover offset => exact ⟨_, rfl⟩

/-- Readers that differ in nothing else hand out the same from now on: by induction on the uses. -/
theorem outcomes_with_completed (c : Cursor) (b : Bool) (uses : List Use) :
    outcomes { c with completed := b } uses = c.outcomes uses := by
  induction uses generalizing c b with
  | nil => rfl
  | cons u uses ih =>
    obtain ⟨b', huse⟩ := c.use_with_completed b u
    rw [outcomes, huse, ih, outcomes]
    rfl

/-- What an offset that is refused leaves of a reader, whatever it has been used for. Whole numbers are
refused below zero and above the greatest count. The checkpoint, the rows that are left, and everything
that is handed out from now on are as before. Only a reader at its end does not say so any more, until
the next read finds the end again. -/
theorem after_refused_recovery (rows : Feed Row) (keeps : Bool) (uses : List Use) :
    let c := ((Trail.opened rows keeps).after uses).cursor
    (∀ i : ℤ, (∃ stop, (c.recover (.int i)).1 = .error stop) ↔ i < 0 ∨ Source.maxCount < i) ∧
      ∀ offset stop, (c.recover offset).1 = .error stop →
        let d := (c.recover offset).2
        d.checkpoint = c.checkpoint ∧ d.left = c.left ∧
          (∀ more, d.outcomes more = c.outcomes more) ∧ d.completed = false ∧
          (c.completed = false → d = c) ∧ (c.completed = true → d.next = (.ok none, c)) := by
  intro c
  have hfollows := (Trail.follows_opened rows keeps).after uses
  refine ⟨c.refused_int_iff, fun offset stop hrefused => ?_⟩
  rw [recover_of_refused hrefused]
  refine ⟨rfl, rfl, c.outcomes_with_completed false, rfl, fun hopen => by rw [← hopen], fun hended => ?_⟩
  have hleft : left { c with completed := false } = .empty := hfollows.left_of_ended hended
  -- A reader at its end has read up to it, so the next read stores nothing but the end again.
  have hsame : { c with left? := some .empty, completed := true } = c := by
    rw [← hfollows.ended hended, ← hended]
  rw [next, hleft]
  exact congrArg _ hsame

theorem after_refused_recovery_ended :
    let c := ((Trail.opened threeRows true).after [.batch (.int 4)]).cursor
    c.completed = true ∧ (c.recover (.int (-1))).2.completed = false ∧
      (c.recover (.int (-1))).2.next = (.ok none, c) := by
  intro c
  obtain ⟨hrefused, hleaves⟩ := after_refused_recovery threeRows true [.batch (.int 4)]
  obtain ⟨stop, hstop⟩ := (hrefused (-1)).2 (.inl (by decide))
  obtain ⟨-, -, -, hforgot, -, hagain⟩ := hleaves _ stop hstop
  exact ⟨rfl, hforgot, hagain rfl⟩

/-- A reader that has handed out the two rows of its file and has found their end does not say so any
more once it has refused an offset. -/
theorem completed_after_refusal :
    let c := ((Trail.opened (sampleSource.rows sampleStore) true).after [.next, .next, .next]).cursor
    c.completed = true ∧ (c.recover (.int (-1))).1 = .error .badOffset ∧
      (c.recover (.int (-1))).2.completed = false := by
  rw [rows_sample]
  exact ⟨rfl, rfl, rfl⟩

end Cursor

end TablePipeline
