import Mathlib
import TablePipeline.Proofs.SinglePass

/-!
Readers that take over from each other. A reader that keeps checkpoints stands before some row of the
feed, and its place, its checkpoint and the rows that it has left agree: every call moves all three
together, a replacement moves none of them. So whatever is asked of a chain of readers, together they
hand out the first rows of the feed in order, as a single reader would.
-/
namespace TablePipeline

namespace Feed

variable (rows : Feed Row)

theorem length_numbered : rows.numbered.items.length = rows.items.length := by simp [numbered]

theorem ids_numbered : rows.numbered.items.map NumberedRow.id = List.range rows.items.length := by
  simp only [numbered, List.map_map, List.range_eq_range', ← List.zipIdx_map_snd 0]
  rfl

end Feed

namespace Cursor

/-- What is asked of the reader at hand. -/
inductive Call where
  | next
  | batch (size : Arg)
  /-- To be replaced by a new reader, which takes over from the checkpoint. -/
  | replace

/-- Whether the reader at hand stays. -/
def Call.keepsReader : Call → Bool
  | replace => false
  | _ => true

/-- A new reader of the same rows that recovers from the checkpoint of this one. -/
def successor (c : Cursor) : Except EvalFault Unit × Cursor :=
  recover { feed := c.feed } ((c.checkpoint.map Datum.ofValue).getD .null)

/-- The rows that a call hands out, and the reader to go on with. A call that is refused hands out
nothing, and a reader that has no successor stays. -/
def call (c : Cursor) : Call → List NumberedRow × Cursor
  | .next =>
    match c.next with
    | (.ok row?, c) => (row?.toList, c)
    | (.error _, c) => ([], c)
  | .batch size => (made (c.nextBatchFor size).1, (c.nextBatchFor size).2)
  | .replace =>
    match c.successor with
    | (.ok (), new) => ([], new)
    | (.error _, _) => ([], c)

/-- Everything that a series of calls hands out, and the last reader. -/
def serve (c : Cursor) : List Call → List NumberedRow × Cursor
  | [] => ([], c)
  | a :: more => ((c.call a).1 ++ ((c.call a).2.serve more).1, ((c.call a).2.serve more).2)

/-! ### The place of a reader -/

/-- A reader stands before a row: this row and those after it are left, and its checkpoint is the
number of the rows before. -/
structure At (c : Cursor) (rows : Feed Row) (n : ℕ) : Prop where
  feed : c.feed = rows
  keeps : c.keepsCheckpoints = true
  within : n ≤ rows.items.length
  left : c.left = ⟨rows.numbered.items.drop n, none⟩
  position : c.position = n
  checkpoint : c.checkpoint = some (.int n)

variable {c : Cursor} {rows : Feed Row} {n : ℕ}

theorem at_zero (h : rows.fault = none) : At { feed := rows } rows 0 where
  feed := rfl
  keeps := rfl
  within := Nat.zero_le _
  left := by simp [left, Feed.numbered, h]
  position := rfl
  checkpoint := rfl

theorem resumePoint_natCast (n : ℕ) :
    resumePoint (.int n) = if n ≤ Source.maxCount then .ok n else .error .badOffset := by
  by_cases h0 : n = 0
  · subst h0
    rfl
  · have htruth : (Datum.int n : Arg).truth = true := by simp [Datum.truth, h0]
    by_cases hn : n ≤ Source.maxCount
    · have hle : (n : ℤ) ≤ 9223372036854775807 := by exact_mod_cast hn
      simp [resumePoint, htruth, hn, hle]
    · have hlt : ¬ (n : ℤ) ≤ 9223372036854775807 := by exact_mod_cast hn
      simp [resumePoint, htruth, hn, hlt]

/-- Whatever a reader has done before, it can be put before any row, but no further than the greatest
count. -/
theorem at_recover (hrows : rows.fault = none) (hc : c.feed = rows)
    (hkeeps : c.keepsCheckpoints = true) (hn : n ≤ rows.items.length) (hmax : n ≤ Source.maxCount) :
    ∃ d, c.recover (.int n) = (.ok (), d) ∧ d.At rows n := by
  rw [recover, resumePoint_natCast, if_pos hmax]
  refine ⟨_, rfl, hc, hkeeps, hn, ?_, rfl, ?_⟩
  · simp [left, hc, Feed.drop, Feed.numbered, hrows]
  · by_cases h0 : n = 0 <;> simp [Cursor.checkpoint, hkeeps, h0, Datum.truth, Datum.toValue?]

theorem recover_refused (hmax : Source.maxCount < n) :
    (c.recover (.int n)).1 = .error .badOffset := by
  rw [recover, resumePoint_natCast, if_neg (Nat.not_le.2 hmax)]

namespace At

theorem next_before (h : c.At rows n) (hn : n < rows.numbered.items.length) :
    ∃ d, c.next = (.ok (some rows.numbered.items[n]), d) ∧ d.At rows (n + 1) := by
  have hleft := h.left
  rw [List.drop_eq_getElem_cons hn] at hleft
  rw [Cursor.next, hleft]
  refine ⟨_, rfl, h.feed, h.keeps, by rwa [rows.length_numbered] at hn, rfl, ?_, ?_⟩
  · simp [h.position]
  · simp [Cursor.checkpoint, h.keeps, h.position]

theorem next_end (h : c.At rows rows.items.length) :
    ∃ d, c.next = (.ok none, d) ∧ d.At rows rows.items.length := by
  have hnil : rows.numbered.items.drop rows.items.length = [] := by
    rw [← rows.length_numbered, List.drop_length]
  have hleft := h.left
  rw [hnil] at hleft
  rw [Cursor.next, hleft]
  refine ⟨_, rfl, h.feed, h.keeps, le_rfl, ?_, h.position, h.checkpoint⟩
  rw [hnil]
  rfl

theorem next_eq (h : c.At rows n) :
    ∃ d, c.next = (.ok rows.numbered.items[n]?, d) ∧ d.At rows (min (n + 1) rows.items.length) := by
  rcases h.within.lt_or_eq with hn | rfl
  · have hlt : n < rows.numbered.items.length := by rwa [rows.length_numbered]
    rw [List.getElem?_eq_getElem hlt, Nat.min_eq_left hn]
    exact h.next_before hlt
  · rw [List.getElem?_eq_none rows.length_numbered.le, Nat.min_eq_right (Nat.le_succ _)]
    exact h.next_end

/-- A batch moves a reader on by as many rows as are asked for, as far as there are any: by induction
on the size, row by row. -/
theorem nextBatch_eq (h : c.At rows n) (size : ℕ) :
    ∃ d, c.nextBatch size = (.ok ((rows.numbered.items.drop n).take size), d) ∧
      d.At rows (min (n + size) rows.items.length) := by
  induction size generalizing c n with
  | zero => exact ⟨c, by simp [Cursor.nextBatch], by rwa [Nat.add_zero, Nat.min_eq_left h.within]⟩
  | succ size ih =>
    rcases h.within.lt_or_eq with hn | rfl
    · have hlt : n < rows.numbered.items.length := by rwa [rows.length_numbered]
      obtain ⟨d, hnext, hd⟩ := h.next_before hlt
      obtain ⟨e, hrest, he⟩ := ih hd
      refine ⟨e, ?_, by rwa [show n + (size + 1) = n + 1 + size by omega]⟩
      rw [Cursor.nextBatch, hnext]
      simp only [hrest]
      rw [List.drop_eq_getElem_cons hlt, List.take_succ_cons]
    · obtain ⟨d, hnext, hd⟩ := h.next_end
      have hnil : rows.numbered.items.drop rows.items.length = [] := by
        rw [← rows.length_numbered, List.drop_length]
      refine ⟨d, ?_, by rwa [Nat.min_eq_right (Nat.le_add_right _ _)]⟩
      rw [Cursor.nextBatch, hnext, hnil, List.take_nil]

/-- The successor of a reader stands where the reader stands. -/
theorem successor_eq (h : c.At rows n) (hrows : rows.fault = none) (hmax : n ≤ Source.maxCount) :
    ∃ d, c.successor = (.ok (), d) ∧ d.At rows n := by
  rw [successor, h.checkpoint, h.feed]
  exact at_recover hrows rfl rfl h.within hmax

theorem successor_refused (h : c.At rows n) (hmax : Source.maxCount < n) :
    c.successor.1 = .error .badOffset := by
  rw [successor, h.checkpoint]
  exact recover_refused hmax

/-- A call hands out the rows that come next and moves the reader behind them. -/
theorem call_prefix (h : c.At rows n) (hrows : rows.fault = none) (a : Call) :
    (c.call a).1 <+: rows.numbered.items.drop n ∧ (c.call a).2.At rows (n + (c.call a).1.length) := by
  have hwithin := h.within
  cases a with
  | next =>
    obtain ⟨d, hnext, hd⟩ := h.next_eq
    rw [call, hnext]
    rcases hwithin.lt_or_eq with hn | rfl
    · have hlt : n < rows.numbered.items.length := by rwa [rows.length_numbered]
      rw [List.getElem?_eq_getElem hlt, List.drop_eq_getElem_cons hlt]
      rw [Nat.min_eq_left hn] at hd
      exact ⟨List.prefix_append [_] _, hd⟩
    · rw [List.getElem?_eq_none rows.length_numbered.le]
      rw [Nat.min_eq_right (Nat.le_succ _)] at hd
      exact ⟨List.nil_prefix, hd⟩
  | batch size =>
    rw [call, nextBatchFor]
    cases c.batchSizeOf size with
    | error stop => exact ⟨List.nil_prefix, h⟩
    | ok size =>
      obtain ⟨d, hbatch, hd⟩ := h.nextBatch_eq size
      simp only [hbatch, made_ok]
      refine ⟨List.take_prefix _ _, ?_⟩
      have hlength : n + ((rows.numbered.items.drop n).take size).length =
          min (n + size) rows.items.length := by
        rw [List.length_take, List.length_drop, rows.length_numbered]
        omega
      rwa [hlength]
  | replace =>
    rw [call]
    by_cases hmax : n ≤ Source.maxCount
    · obtain ⟨d, hnew, hd⟩ := h.successor_eq hrows hmax
      rw [hnew]
      exact ⟨List.nil_prefix, hd⟩
    · -- A reader that cannot be replaced goes on reading.
      have hrefused := h.successor_refused (Nat.lt_of_not_le hmax)
      rcases hnew : c.successor with ⟨r, d⟩
      rw [hnew] at hrefused
      subst hrefused
      exact ⟨List.nil_prefix, h⟩

/-- Readers at one place hand out the same. -/
theorem call_congr {d : Cursor} (hc : c.At rows n) (hd : d.At rows n) {a : Call}
    (ha : a.keepsReader = true) : (c.call a).1 = (d.call a).1 := by
  cases a with
  | next =>
    obtain ⟨c', hc', -⟩ := hc.next_eq
    obtain ⟨d', hd', -⟩ := hd.next_eq
    rw [call, call, hc', hd']
  | batch size =>
    have hsize : c.batchSizeOf size = d.batchSizeOf size := by
      simp only [batchSizeOf, hc.left, hd.left]
    rw [call, call, nextBatchFor, nextBatchFor, hsize]
    cases d.batchSizeOf size with
    | error stop => rfl
    | ok size =>
      obtain ⟨c', hc', -⟩ := hc.nextBatch_eq size
      obtain ⟨d', hd', -⟩ := hd.nextBatch_eq size
      simp only [hc', hd']
  | replace => exact absurd ha Bool.false_ne_true

theorem call_replace (h : c.At rows n) (hrows : rows.fault = none) :
    (c.call .replace).1 = [] ∧ (c.call .replace).2.At rows n := by
  have hnone : (c.call .replace).1 = [] := by
    rw [call]
    split <;> rfl
  obtain ⟨-, hplace⟩ := h.call_prefix hrows .replace
  rw [hnone] at hplace
  exact ⟨hnone, hplace⟩

/-- What a chain of readers hands out is what comes next, and the last of them stands behind it: by
induction on the calls, a place being all that one call leaves to the next. -/
theorem serve_prefix (h : c.At rows n) (hrows : rows.fault = none) (calls : List Call) :
    (c.serve calls).1 <+: rows.numbered.items.drop n ∧
      (c.serve calls).2.At rows (n + (c.serve calls).1.length) := by
  induction calls generalizing c n with
  | nil => exact ⟨List.nil_prefix, h⟩
  | cons a more ih =>
    obtain ⟨⟨left, hleft⟩, hplace⟩ := h.call_prefix hrows a
    obtain ⟨hmore, hend⟩ := ih hplace
    have hrest : rows.numbered.items.drop (n + (c.call a).1.length) = left := by
      rw [← List.drop_drop, ← hleft, List.drop_left]
    rw [hrest] at hmore
    rw [serve, ← hleft, List.length_append, ← Nat.add_assoc]
    exact ⟨(List.prefix_append_right_inj _).2 hmore, hend⟩

/-- A chain of readers hands out what one reader hands out. -/
theorem serve_filter {d : Cursor} (hc : c.At rows n) (hd : d.At rows n) (hrows : rows.fault = none)
    (calls : List Call) : (c.serve calls).1 = (d.serve (calls.filter Call.keepsReader)).1 := by
  induction calls generalizing c d n with
  | nil => rfl
  | cons a more ih =>
    cases ha : a.keepsReader with
    | true =>
      obtain ⟨-, hc'⟩ := hc.call_prefix hrows a
      obtain ⟨-, hd'⟩ := hd.call_prefix hrows a
      have hsame := hc.call_congr hd ha
      rw [← hsame] at hd'
      rw [List.filter_cons_of_pos ha, serve, serve, hsame, ih hc' hd']
    | false =>
      obtain rfl : a = .replace := by
        cases a with
        | replace => rfl
        | next | batch => exact Bool.noConfusion ha
      obtain ⟨hnone, hc'⟩ := hc.call_replace hrows
      rw [List.filter_cons_of_neg (by simp [Call.keepsReader]), serve, hnone, List.nil_append,
        ih hc' hd]

end At

/-! ### Chains of readers -/

/-- What is handed out for a series of calls by a reader before a row and by those that take over from
it: the rows that come next, which one reader hands out as well. The checkpoint is the number of all
rows so far, and the next row or batch begins behind them. The reader can be replaced unless this
number is beyond the greatest count. -/
structure GoesOn (c : Cursor) (rows : Feed Row) (n : ℕ) (calls : List Call) : Prop where
  handed : (c.serve calls).1 <+: rows.numbered.items.drop n
  uninterrupted : (c.serve calls).1 = (c.serve (calls.filter Call.keepsReader)).1
  checkpoint : (c.serve calls).2.checkpoint = some (.int (n + (c.serve calls).1.length : ℕ))
  next : (c.serve calls).2.next.1 = .ok rows.numbered.items[n + (c.serve calls).1.length]?
  batch (size : ℕ) : ((c.serve calls).2.nextBatchFor (.int size)).1 =
    .ok ((rows.numbered.items.drop (n + (c.serve calls).1.length)).take size)
  replaced : (c.serve calls).2.successor.1 = .ok () ↔ n + (c.serve calls).1.length ≤ Source.maxCount

theorem At.goesOn (h : c.At rows n) (hrows : rows.fault = none) (calls : List Call) :
    c.GoesOn rows n calls := by
  obtain ⟨hserved, hplace⟩ := h.serve_prefix hrows calls
  refine ⟨hserved, h.serve_filter h hrows calls, hplace.checkpoint, ?_, fun size => ?_, ?_⟩
  · obtain ⟨d, hnext, -⟩ := hplace.next_eq
    rw [hnext]
  · obtain ⟨d, hbatch, -⟩ := hplace.nextBatch_eq size
    rw [nextBatchFor, batchSizeOf]
    simp only [Int.toNat_natCast, hbatch]
  · by_cases hmax : n + (c.serve calls).1.length ≤ Source.maxCount
    · obtain ⟨d, hnew, -⟩ := hplace.successor_eq hrows hmax
      simp [hnew, hmax]
    · simp [hplace.successor_refused (Nat.lt_of_not_le hmax), hmax]

/-- The rows of a source that can be read are numbered from 0 on. Whatever a chain of readers is asked
for, it hands out the first of them, and its checkpoint is how many these are. A used reader that is
put before a row goes on with this row. -/
theorem chain_goesOn (rows : Feed Row) (hrows : rows.fault = none) :
    rows.numbered.items.map NumberedRow.values = rows.items ∧
      rows.numbered.items.map NumberedRow.id = List.range rows.items.length ∧
      (∀ calls, GoesOn { feed := rows } rows 0 calls) ∧
      ∀ used : Cursor, used.feed = rows → used.keepsCheckpoints = true →
        ∀ k ≤ rows.items.length,
          ((used.recover (.int k)).1 = .ok () ↔ k ≤ Source.maxCount) ∧
          (k ≤ Source.maxCount → ∀ calls, (used.recover (.int k)).2.GoesOn rows k calls) := by
  refine ⟨?_, rows.ids_numbered, (at_zero hrows).goesOn hrows, ?_⟩
  · simp [Feed.numbered, Function.comp_def, List.zipIdx_map_fst]
  · intro used hfeed hkeeps k hk
    by_cases hmax : k ≤ Source.maxCount
    · obtain ⟨d, hrecover, hd⟩ := at_recover hrows hfeed hkeeps hk hmax
      rw [hrecover]
      exact ⟨by simp [hmax], fun _ => hd.goesOn hrows⟩
    · rw [recover_refused (Nat.lt_of_not_le hmax)]
      exact ⟨by simp [hmax], fun h => absurd h hmax⟩

/-- Three readers, the second of which is asked for more rows than there are. -/
def threeReaders : List Call := [.next, .replace, .batch (.int 5), .replace, .next]

theorem chain_goesOn_three :
    threeRows.fault = none ∧
      (serve { feed := threeRows } threeReaders).1 = threeRows.numbered.items ∧
      (serve { feed := threeRows } threeReaders).2.checkpoint = some (.int 3) := by
  obtain ⟨-, -, hchain, -⟩ := chain_goesOn threeRows rfl
  have hserved := hchain threeReaders
  exact ⟨rfl, rfl, hserved.checkpoint⟩

end Cursor

end TablePipeline
