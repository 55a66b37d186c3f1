import Mathlib
import TablePipeline.Proofs.JoinIndex
import TablePipeline.Proofs.Rolling

/-!
The index of a rolling join. The built records of a key are sorted by their rolling values, those
with equal values in the order in which they were built, and the search finds the border between the
two sides of the probe's value. The record at the border is the nearest one on its side.
-/
namespace TablePipeline

section Nearest

variable {α : Type} (rank : α → ℤ)

/-- The order of items by their ranks. -/
def rankLe (a b : α) : Bool := rank a ≤ rank b

theorem rankLe_total (a b : α) : (rankLe rank a b || rankLe rank b a) = true := by
  simpa [rankLe] using le_total (rank a) (rank b)

theorem rankLe_trans (a b c : α) (hab : rankLe rank a b = true) (hbc : rankLe rank b c = true) :
    rankLe rank a c = true := by
  simp only [rankLe, decide_eq_true_eq] at *
  exact hab.trans hbc

open Sorting

section Bounded

variable {sorted items rest : List α} {bound : ℤ} {a : α}

/-- The first item of a sort that is not below a bound has the least rank of those. -/
theorem rank_le_of_filter_cons (h : IsStableSort (rankLe rank) sorted items)
    (hfilter : (sorted.filter fun a => bound ≤ rank a) = a :: rest) :
    ∀ b ∈ items, bound ≤ rank b → rank a ≤ rank b := by
  intro b hb hle
  have hb' : b ∈ a :: rest := by
    rw [← hfilter]
    exact List.mem_filter.2 ⟨((h.perm (rankLe_total rank)).mem_iff).2 hb, by simpa using hle⟩
  rcases List.mem_cons.1 hb' with rfl | hrest
  · exact le_refl _
  · have hpairs := h.sorted.filter fun a => decide (bound ≤ rank a)
    rw [hfilter] at hpairs
    simpa [rankLe] using (List.pairwise_cons.1 hpairs).1 b hrest

/-- All items of the class of that first item pass the bound, so it is the first of them. -/
theorem filter_alike_of_filter_cons (h : IsStableSort (rankLe rank) sorted items)
    (hfilter : (sorted.filter fun a => bound ≤ rank a) = a :: rest) (hbound : bound ≤ rank a) :
    items.filter (alike (rankLe rank) a) = a :: rest.filter (alike (rankLe rank) a) := by
  have hpass : ∀ b ∈ sorted, (alike (rankLe rank) a b && decide (bound ≤ rank b)) =
      alike (rankLe rank) a b := by
    intro b _
    by_cases hab : alike (rankLe rank) a b = true
    · have hrank : rank a ≤ rank b := by
        simp only [alike, rankLe, Bool.and_eq_true, decide_eq_true_eq] at hab
        exact hab.1
      simp [hab, hbound.trans hrank]
    · simp [hab]
  rw [← h.kept a, ← List.filter_congr hpass, ← List.filter_filter, hfilter,
    List.filter_cons_of_pos (alike_self (rankLe_total rank) a)]

end Bounded

/-- The first item of a stable sort that is not below a bound is the first one, in the old order, of
those with the least rank not below the bound. -/
theorem head_of_stableSort {sorted items : List α} (h : IsStableSort (rankLe rank) sorted items)
    (bound : ℤ) :
    match (sorted.filter fun a => bound ≤ rank a).head? with
    | some a => bound ≤ rank a ∧ ∃ before after, items = before ++ a :: after ∧
        (∀ b ∈ before, bound ≤ rank b → rank a < rank b) ∧
        ∀ b ∈ after, bound ≤ rank b → rank a ≤ rank b
    | none => ∀ a ∈ items, ¬bound ≤ rank a := by
  cases hfilter : sorted.filter fun a => decide (bound ≤ rank a) with
  | nil =>
    intro a ha hbound
    exact List.filter_eq_nil_iff.1 hfilter a (((h.perm (rankLe_total rank)).mem_iff).2 ha)
      (by simpa using hbound)
  | cons a rest =>
    have ha : a ∈ sorted.filter fun a => decide (bound ≤ rank a) := by simp [hfilter]
    have hbound : bound ≤ rank a := by simpa using (List.mem_filter.1 ha).2
    have hleast := rank_le_of_filter_cons rank h hfilter
    obtain ⟨before, after, hsplit, hbefore, -⟩ :=
      List.filter_eq_cons_iff.1 (filter_alike_of_filter_cons rank h hfilter hbound)
    refine ⟨hbound, before, after, hsplit, fun b hb hle => ?_, fun b hb hle => ?_⟩
    · have hab : rank a ≤ rank b := hleast b (by simp [hsplit, hb]) hle
      have hother := hbefore b hb
      simp only [alike, rankLe, Bool.and_eq_true, decide_eq_true_eq, not_and, not_le] at hother
      exact hother hab
    · exact hleast b (by simp [hsplit, hb]) hle

/-- The last item of a stable sort that is not above a bound is the last one, in the old order, of
those with the greatest rank not above the bound: the lists turned round. -/
theorem last_of_stableSort {sorted items : List α} (h : IsStableSort (rankLe rank) sorted items)
    (bound : ℤ) :
    match (sorted.filter fun a => rank a ≤ bound).getLast? with
    | some a => rank a ≤ bound ∧ ∃ before after, items = before ++ a :: after ∧
        (∀ b ∈ before, rank b ≤ bound → rank b ≤ rank a) ∧
        ∀ b ∈ after, rank b ≤ bound → rank b < rank a
    | none => ∀ a ∈ items, ¬rank a ≤ bound := by
  have hround : IsStableSort (rankLe fun a => -rank a) sorted.reverse items.reverse := by
    refine ⟨List.pairwise_reverse.2 (h.sorted.imp fun {a b} hab => ?_), fun a => ?_⟩
    · simpa [rankLe] using hab
    · have hsame : alike (rankLe fun a => -rank a) a = alike (rankLe rank) a := by
        funext b
        simp [alike, rankLe, Bool.and_comm]
      rw [hsame, List.filter_reverse, List.filter_reverse, h.kept a]
  have hhead := head_of_stableSort (fun a => -rank a) hround (-bound)
  have hlast : (sorted.reverse.filter fun a => decide (-bound ≤ -rank a)).head? =
      (sorted.filter fun a => decide (rank a ≤ bound)).getLast? := by
    simp [List.filter_reverse]
  rw [hlast] at hhead
  cases hfound : (sorted.filter fun a => decide (rank a ≤ bound)).getLast? with
  | none =>
    rw [hfound] at hhead
    simpa using hhead
  | some a =>
    rw [hfound] at hhead
    obtain ⟨hbound, before, after, hsplit, hbefore, hafter⟩ := hhead
    refine ⟨by simpa using hbound, after.reverse, before.reverse, ?_, ?_, ?_⟩
    · simpa using congrArg List.reverse hsplit
    · intro b hb hle
      simpa using hafter b (by simpa using hb) (by simpa using hle)
    · intro b hb hle
      simpa using hbefore b (by simpa using hb) (by simpa using hle)

/-- A place in what is left of a list is a place in the list. -/
theorem split_filter_map {β : Type} {q : α → Bool} {f : α → β} {items : List α}
    {before after : List β} {b : β} (h : (items.filter q).map f = before ++ b :: after) :
    ∃ before' a after', items = before' ++ a :: after' ∧ q a = true ∧ f a = b ∧
      (∀ c ∈ before', q c = true → f c ∈ before) ∧ ∀ c ∈ after', q c = true → f c ∈ after := by
  obtain ⟨first, rest, hfilter, rfl, hrest⟩ := List.map_eq_append_iff.1 h
  obtain ⟨a, last, rfl, rfl, rfl⟩ := List.map_eq_cons_iff.1 hrest
  obtain ⟨front, back, rfl, rfl, hback⟩ := List.filter_eq_append_iff.1 hfilter
  obtain ⟨skipped, tail, rfl, hskipped, ha, rfl⟩ := List.filter_eq_cons_iff.1 hback
  refine ⟨front ++ skipped, a, tail, by simp, ha, rfl, fun c hc hq => ?_, fun c hc hq => ?_⟩
  · rcases List.mem_append.1 hc with hc | hc
    · exact List.mem_map_of_mem (List.mem_filter.2 ⟨hc, hq⟩)
    · exact absurd hq (hskipped c hc)
  · exact List.mem_map_of_mem (List.mem_filter.2 ⟨hc, hq⟩)

end Nearest

namespace RollScale

variable (k : RollScale)

/-- The rank of an entry is the place of its rolling value. -/
def rank (entry : Value × Row) : ℤ := (k.place? entry.1).getD 0

/-- Whether an entry stands on the scale. -/
def Placed (entry : Value × Row) : Prop := ∃ x, k.place? entry.1 = some x

variable {k}

theorem earlier_eq {e f : Value × Row} (he : k.Placed e) (hf : k.Placed f) :
    JoinIndex.earlier e f = .ok !rankLe k.rank f e := by
  obtain ⟨x, hx⟩ := he
  obtain ⟨y, hy⟩ := hf
  rw [JoinIndex.earlier, less_eq hx hy]
  congr 1
  rw [Bool.eq_iff_iff]
  simp [rankLe, rank, hx, hy]

/-- The entry at the border: the first one not before a probe's place, or the last one not after
it. -/
def border (k : RollScale) (p : JoinPlan) (entries : List (Value × Row)) (y : ℤ) :
    Option (Value × Row) :=
  if p.kind = .forward then (entries.filter fun e => y ≤ k.rank e).head?
  else (entries.filter fun e => k.rank e ≤ y).getLast?

/-- The search in sorted entries takes the one at the border. -/
theorem nearestPlace_eq {p : JoinPlan} {entries : List (Value × Row)} {roll : Value} {y : ℤ}
    (hy : k.place? roll = some y) (hplaced : ∀ e ∈ entries, k.Placed e)
    (hsorted : entries.Pairwise fun e f => rankLe k.rank e f = true) :
    ∃ place?, JoinIndex.nearestPlace p entries.toArray roll = .ok place? ∧
      (place?.bind fun place => entries.toArray[place]?) = k.border p entries y := by
  have hroll : k.Placed (roll, []) := ⟨y, hy⟩
  have hrank : k.rank (roll, []) = y := by simp [rank, hy]
  unfold JoinIndex.nearestPlace border
  by_cases hforward : p.kind = .forward
  · obtain ⟨hcut, hplace⟩ := Sorting.placeBefore_eq (rankLe_trans k.rank)
      (fun e he => earlier_eq (hplaced e he) hroll) hsorted
    refine ⟨some (entries.filter fun e => !rankLe k.rank (roll, []) e).length, ?_, ?_⟩
    · simp [hforward, hplace]
    · have hat : (entries.filter (fun e => !rankLe k.rank (roll, []) e) ++
          entries.filter (fun e => rankLe k.rank (roll, []) e))[
            (entries.filter fun e => !rankLe k.rank (roll, []) e).length]? =
          (entries.filter fun e => rankLe k.rank (roll, []) e).head? := by
        rw [List.getElem?_append_right (le_refl _), Nat.sub_self, List.head?_eq_getElem?]
      rw [hcut] at hat
      rw [if_pos hforward, Option.bind_some, List.getElem?_toArray, hat]
      simp only [rankLe, hrank]
  · obtain ⟨hcut, hplace⟩ := Sorting.placeAfter_eq (rankLe_trans k.rank)
      (fun e he => earlier_eq hroll (hplaced e he)) hsorted
    cases hleft : entries.filter fun e => rankLe k.rank e (roll, []) with
    | nil =>
      refine ⟨none, ?_, ?_⟩
      · simp [hforward, hplace, hleft]
      · have hnone : (entries.filter fun e => decide (k.rank e ≤ y)) = [] := by
          simpa [rankLe, hrank] using hleft
        simp [hforward, hnone]
    | cons e rest =>
      rw [hleft] at hcut hplace
      refine ⟨some rest.length, ?_, ?_⟩
      · simp [hforward, hplace]
      · have hsome : (entries.filter fun e => decide (k.rank e ≤ y)) = e :: rest := by
          simpa [rankLe, hrank] using hleft
        rw [if_neg hforward, Option.bind_some, List.getElem?_toArray, hsome]
        conv_lhs => rw [← hcut]
        rw [List.getElem?_append_left (by simp), List.getLast?_eq_getElem?, List.length_cons,
          Nat.add_sub_cancel]

end RollScale

namespace JoinIndex

variable {p : JoinPlan} {k : RollScale}

/-- What holds of an entry under its own key and under every equal one holds of it where an index
keeps it. -/
theorem forall_insert {Q : Key → Value × Row → Prop} {key : Key} {entry : Value × Row}
    {index : JoinIndex} (hnew : Q key entry)
    (hfound : ∀ there, Key.equal there key = true → Q there entry)
    (h : ∀ there ∈ index, ∀ e ∈ there.2, Q there.1 e) :
    ∀ there ∈ index.insert key entry, ∀ e ∈ there.2, Q there.1 e := by
  induction index with
  | nil =>
    simp only [insert, List.mem_singleton, forall_eq]
    intro e he
    obtain rfl : e = entry := by simpa using he
    exact hnew
  | cons first rest ih =>
    obtain ⟨there, es⟩ := first
    rw [insert]
    split_ifs with hsame
    · intro other hother e he
      rcases List.mem_cons.1 hother with rfl | hother
      · rcases Array.mem_push.1 he with he | rfl
        · exact h (there, es) (by simp) e he
        · exact hfound there hsame
      · exact h other (by simp [hother]) e he
    · intro other hother e he
      rcases List.mem_cons.1 hother with rfl | hother
      · exact h (there, es) (by simp) e he
      · exact ih (fun other hother => h other (by simp [hother])) other hother e he

theorem forall_foldlM_add {Q : Key → Value × Row → Prop} {records : List JoinRecord}
    {index index' : JoinIndex}
    (hrecords : ∀ r ∈ records, isFindable p r = true →
      Q r.key (entryOf r) ∧ ∀ there, Key.equal there r.key = true → Q there (entryOf r))
    (h : ∀ there ∈ index, ∀ e ∈ there.2, Q there.1 e)
    (h' : records.foldlM (add p) index = .ok index') :
    ∀ there ∈ index', ∀ e ∈ there.2, Q there.1 e := by
  induction records generalizing index with
  | nil =>
    obtain rfl : index = index' := by simpa using h'
    exact h
  | cons record records ih =>
    rw [List.foldlM_cons, bind_eq_ok] at h'
    obtain ⟨next, hnext, hrest⟩ := h'
    refine ih (fun r hr => hrecords r (by simp [hr])) ?_ hrest
    obtain ⟨-, rfl⟩ := add_eq_ok_iff.1 hnext
    split_ifs with hf
    · obtain ⟨hnew, hfound⟩ := hrecords record (by simp) hf
      exact forall_insert hnew hfound h
    · exact h

/-- The index of a rolling join with its entries sorted. -/
theorem arrange_rolling (hkind : p.kind.isRolling = true) {index : JoinIndex}
    (h : ∀ there ∈ index, ∀ e ∈ there.2, k.Placed e) :
    ∃ index', arrange p index = .ok index' ∧ ∀ key,
      (index'.entries key).toList = (index.entries key).toList.mergeSort (rankLe k.rank) := by
  refine ⟨index.map fun there => (there.1, (there.2.toList.mergeSort (rankLe k.rank)).toArray),
    ?_, fun key => ?_⟩
  · rw [arrange, if_pos hkind, mapM_eq_ok_iff, List.map_map]
    apply List.map_congr_left
    rintro ⟨there, es⟩ hthere
    have hdecides : Sorting.Decides earlier (rankLe k.rank) es.toList := fun e he f hf =>
      RollScale.earlier_eq (h _ hthere e (by simpa using he)) (h _ hthere f (by simpa using hf))
    simp only [Sorting.sort_eq_mergeSort (rankLe_total k.rank) (rankLe_trans k.rank) hdecides]
    rfl
  · induction index with
    | nil => simp
    | cons first rest ih =>
      obtain ⟨there, es⟩ := first
      rw [List.map_cons, entries_cons, entries_cons]
      split_ifs
      · rfl
      · exact ih fun other hother => h other (by simp [hother])

end JoinIndex

end TablePipeline
