import Mathlib
import TablePipeline.Proofs.Outcome
import TablePipeline.Sorting.Stable

/-!
Sorting by runs and insertion is stable sorting. Where a comparison of any two items has a result,
and "not greater" is total and passed on, a bisection finds the one place at which a sorted list
changes sides, insertion keeps the list sorted and the order of equal items, and so the result is
the one list that is sorted and has, of every class of equal items, the items in their old order.
-/
namespace TablePipeline.Sorting

variable {α ε : Type} {less : α → α → Except ε Bool} {le : α → α → Bool}

/-- The comparison has, on some items, the result that the order gives. -/
def Decides (less : α → α → Except ε Bool) (le : α → α → Bool) (items : List α) : Prop :=
  ∀ a ∈ items, ∀ b ∈ items, less a b = .ok !le b a

theorem Decides.mono {items more : List α} (h : Decides less le more) (hsub : items ⊆ more) :
    Decides less le items :=
  fun a ha b hb => h a (hsub ha) b (hsub hb)

/-- Whether neither of two items is greater. -/
def alike (le : α → α → Bool) (a b : α) : Bool := le a b && le b a

/-! ### Bisection -/

/-- A search between two places meets the place at which the items change sides: by induction on
the part that is left. -/
theorem bisect_eq {left : α → Except ε Bool} {items : Array α} {n : ℕ}
    (hbefore : ∀ i (h : i < items.size), i < n → left items[i] = .ok false)
    (hafter : ∀ i (h : i < items.size), n ≤ i → left items[i] = .ok true) {lo hi : ℕ}
    (hlo : lo ≤ n) (hhi : n ≤ hi) (hsize : hi ≤ items.size) :
    bisect left items lo hi = .ok n := by
  induction lo, hi using bisect.induct left items with
  | case1 lo hi h hnone =>
    rw [Array.getElem?_eq_none_iff] at hnone
    omega
  | case2 lo hi h a hsome fault hfault =>
    obtain ⟨hlt, rfl⟩ := Array.getElem?_eq_some_iff.1 hsome
    rcases Nat.lt_or_ge ((lo + hi) / 2) n with hm | hm
    · rw [hbefore _ hlt hm] at hfault
      cases hfault
    · rw [hafter _ hlt hm] at hfault
      cases hfault
  | case3 lo hi h a hsome htrue ih =>
    obtain ⟨hlt, rfl⟩ := Array.getElem?_eq_some_iff.1 hsome
    have hm : n ≤ (lo + hi) / 2 := by
      by_contra hm
      rw [hbefore _ hlt (by omega)] at htrue
      cases htrue
    rw [bisect, if_pos h, hsome]
    simp only [htrue]
    exact ih hlo hm (by omega)
  | case4 lo hi h a hsome hfalse ih =>
    obtain ⟨hlt, rfl⟩ := Array.getElem?_eq_some_iff.1 hsome
    have hm : (lo + hi) / 2 < n := by
      by_contra hm
      rw [hafter _ hlt (by omega)] at hfalse
      cases hfalse
    rw [bisect, if_pos h, hsome]
    simp only [hfalse]
    exact ih (by omega) hhi hsize
  | case5 lo hi h =>
    rw [bisect, if_neg h]
    congr 1
    omega

/-- Bisecting a list of which the search leaves one part to the left and the other to the right. -/
theorem bisect_append {left : α → Except ε Bool} {before after : List α}
    (hbefore : ∀ a ∈ before, left a = .ok false) (hafter : ∀ a ∈ after, left a = .ok true) :
    bisect left (before ++ after).toArray 0 (before ++ after).toArray.size =
      .ok before.length := by
  apply bisect_eq
  · intro i h hi
    simp only [List.getElem_toArray, List.getElem_append_left hi]
    exact hbefore _ (List.getElem_mem hi)
  · intro i h hi
    simp only [List.getElem_toArray, List.getElem_append_right hi]
    exact hafter _ (List.getElem_mem _)
  · omega
  · simp
  · exact le_refl _

/-- A list along which a property is never regained. -/
theorem filter_append_of_pairwise {q : α → Bool} {items : List α}
    (h : items.Pairwise fun a b => q b = true → q a = true) :
    items.filter q ++ items.filter (fun a => !q a) = items := by
  induction items with
  | nil => rfl
  | cons a items ih =>
    obtain ⟨ha, hrest⟩ := List.pairwise_cons.1 h
    by_cases hq : q a = true
    · simp [hq, ih hrest]
    · have hnone : items.filter q = [] :=
        List.filter_eq_nil_iff.2 fun b hb hqb => hq (ha b hb hqb)
      have hall := ih hrest
      simp only [hnone, List.nil_append] at hall
      simp [hq, hnone, hall]

section Order

variable (htotal : ∀ a b, (le a b || le b a) = true)
  (htrans : ∀ a b c, le a b = true → le b c = true → le a c = true)

include htrans in
/-- The place in front of all items that are not less: behind those that are. -/
theorem placeBefore_eq {items : List α} {a : α} (hless : ∀ b ∈ items, less b a = .ok !le a b)
    (hsorted : items.Pairwise fun b c => le b c = true) :
    items.filter (fun b => !le a b) ++ items.filter (fun b => le a b) = items ∧
      placeBefore less items.toArray a = .ok (items.filter fun b => !le a b).length := by
  have hcut : items.filter (fun b => !le a b) ++ items.filter (fun b => le a b) = items := by
    have hkeep : items.Pairwise fun b c => (!le a c) = true → (!le a b) = true := by
      refine hsorted.imp fun {b c} hbc hc => ?_
      by_contra hb
      have hab : le a b = true := by simpa using hb
      simp [htrans a b c hab hbc] at hc
    simpa using filter_append_of_pairwise hkeep
  refine ⟨hcut, ?_⟩
  have hplace : placeBefore less
      (items.filter (fun b => !le a b) ++ items.filter fun b => le a b).toArray a =
        .ok (items.filter fun b => !le a b).length := by
    apply bisect_append
    · intro b hb
      obtain ⟨hmem, hlt⟩ := List.mem_filter.1 hb
      have hle : le a b = false := by simpa using hlt
      simp [hless b hmem, hle]
    · intro b hb
      obtain ⟨hmem, hle⟩ := List.mem_filter.1 hb
      simp [hless b hmem, hle]
  rwa [hcut] at hplace

include htrans in
/-- The place behind all items that are not greater. -/
theorem placeAfter_eq {items : List α} {a : α} (hless : ∀ b ∈ items, less a b = .ok !le b a)
    (hsorted : items.Pairwise fun b c => le b c = true) :
    items.filter (fun b => le b a) ++ items.filter (fun b => !le b a) = items ∧
      placeAfter less items.toArray a = .ok (items.filter fun b => le b a).length := by
  have hcut : items.filter (fun b => le b a) ++ items.filter (fun b => !le b a) = items :=
    filter_append_of_pairwise (hsorted.imp fun {b c} hbc hc => htrans b c a hbc hc)
  refine ⟨hcut, ?_⟩
  have hplace : placeAfter less
      (items.filter (fun b => le b a) ++ items.filter fun b => !le b a).toArray a =
        .ok (items.filter fun b => le b a).length := by
    apply bisect_append
    · intro b hb
      obtain ⟨hmem, hle⟩ := List.mem_filter.1 hb
      simp [hless b hmem, hle]
    · intro b hb
      obtain ⟨hmem, hgt⟩ := List.mem_filter.1 hb
      have hle : le b a = false := by simpa using hgt
      simp [hless b hmem, hle]
  rwa [hcut] at hplace

end Order

/-! ### Stable sorting -/

/-- A list is sorted, and every class of equal items stands in it as in another list. -/
structure IsStableSort (le : α → α → Bool) (result items : List α) : Prop where
  sorted : result.Pairwise fun a b => le a b = true
  kept : ∀ a, result.filter (alike le a) = items.filter (alike le a)

section Order

variable (htotal : ∀ a b, (le a b || le b a) = true)
  (htrans : ∀ a b c, le a b = true → le b c = true → le a c = true)

include htotal in
theorem alike_self (a : α) : alike le a a = true := by
  simpa [alike] using htotal a a

include htotal in
/-- Nothing is lost and nothing is added: an item occurs in its own class. -/
theorem IsStableSort.perm {result items : List α} (h : IsStableSort le result items) :
    result.Perm items := by
  classical
  apply List.perm_iff_count.2
  intro a
  have hcount := congrArg (List.count a) (h.kept a)
  rwa [List.count_filter (alike_self htotal a), List.count_filter (alike_self htotal a)] at hcount

include htotal in
/-- There is only one stable sort: by induction, the first items are alike, and so they are the
first ones of their class. -/
theorem IsStableSort.unique {first second : List α}
    (hfirst : first.Pairwise fun a b => le a b = true)
    (h : IsStableSort le second first) : second = first := by
  induction first generalizing second with
  | nil => exact (h.perm htotal).eq_nil
  | cons a first ih =>
    cases second with
    | nil => exact absurd (h.perm htotal).symm.eq_nil (by simp)
    | cons b second =>
      obtain ⟨ha, hrest⟩ := List.pairwise_cons.1 hfirst
      obtain ⟨hb, hsecond⟩ := List.pairwise_cons.1 h.sorted
      have hab : alike le a b = true := by
        have hmem : b ∈ a :: first := (h.perm htotal).mem_iff.1 (by simp)
        have hmem' : a ∈ b :: second := (h.perm htotal).mem_iff.2 (by simp)
        have hle : le a b = true := by
          rcases List.mem_cons.1 hmem with rfl | hmem
          · simpa using htotal b b
          · exact ha b hmem
        have hle' : le b a = true := by
          rcases List.mem_cons.1 hmem' with rfl | hmem'
          · simpa using htotal a a
          · exact hb a hmem'
        simp [alike, hle, hle']
      have hclass := h.kept a
      rw [List.filter_cons_of_pos hab, List.filter_cons_of_pos (alike_self htotal a)] at hclass
      obtain ⟨rfl, -⟩ := List.cons.inj hclass
      refine congrArg _ (ih hrest ⟨hsecond, fun c => ?_⟩)
      have hc := h.kept c
      by_cases hcb : alike le c b = true
      · simpa [hcb] using hc
      · simpa [hcb] using hc

include htotal htrans in
theorem isStableSort_mergeSort (items : List α) : IsStableSort le (items.mergeSort le) items := by
  refine ⟨List.pairwise_mergeSort htrans htotal items, fun a => ?_⟩
  have hclass : (items.filter (alike le a)).Pairwise fun b c => le b c = true := by
    rw [List.pairwise_iff_forall_sublist]
    intro b c hbc
    have hmem := hbc.subset
    simp only [List.subset_def, List.mem_cons, List.not_mem_nil, or_false, List.mem_filter,
      alike, Bool.and_eq_true] at hmem
    exact htrans b a c (hmem (.inl rfl)).2.2 (hmem (.inr rfl)).2.1
  have hsub := (List.sublist_mergeSort htrans htotal hclass List.filter_sublist).filter (alike le a)
  rw [List.filter_filter] at hsub
  simp only [Bool.and_self] at hsub
  have hlength := ((List.mergeSort_perm items le).filter (alike le a)).length_eq
  exact (hsub.eq_of_length hlength.symm).symm

include htotal htrans in
/-- The stable sort of a list is its merge sort. -/
theorem IsStableSort.eq_mergeSort {result items : List α} (h : IsStableSort le result items) :
    result = items.mergeSort le := by
  have hsort := isStableSort_mergeSort htotal htrans items
  have hsame : IsStableSort le result (items.mergeSort le) :=
    ⟨h.sorted, fun a => (h.kept a).trans (hsort.kept a).symm⟩
  exact hsame.unique htotal hsort.sorted

include htotal htrans in
/-- Putting an item behind the items that are not greater is sorting it in. -/
theorem isStableSort_insert {items : List α} (a : α)
    (hsorted : items.Pairwise fun b c => le b c = true) :
    IsStableSort le (items.filter (fun b => le b a) ++ a :: items.filter fun b => !le b a)
      (items ++ [a]) := by
  have hafter : ∀ c ∈ items.filter (fun b => !le b a), le a c = true := by
    intro c hc
    have hca : le c a = false := by simpa using (List.mem_filter.1 hc).2
    simpa [hca] using htotal a c
  have hcut : items.filter (fun b => le b a) ++ items.filter (fun b => !le b a) = items :=
    filter_append_of_pairwise (hsorted.imp fun {b c} hbc hc => htrans b c a hbc hc)
  constructor
  case sorted =>
    rw [List.pairwise_append, List.pairwise_cons]
    refine ⟨hsorted.filter _, ⟨hafter, hsorted.filter _⟩, fun b hb c hc => ?_⟩
    have hba : le b a = true := (List.mem_filter.1 hb).2
    rcases List.mem_cons.1 hc with rfl | hc
    · exact hba
    · exact htrans b a c hba (hafter c hc)
  case kept =>
    intro c
    have hall := congrArg (List.filter (alike le c)) hcut
    rw [List.filter_append] at hall
    by_cases hca : alike le c a = true
    · have hnone : (items.filter fun b => !le b a).filter (alike le c) = [] := by
        rw [List.filter_eq_nil_iff]
        intro b hb hcb
        have hba : le b a = false := by simpa using (List.mem_filter.1 hb).2
        simp only [alike, Bool.and_eq_true] at hca hcb
        rw [htrans b c a hcb.2 hca.1] at hba
        cases hba
      rw [hnone, List.append_nil] at hall
      rw [List.filter_append, List.filter_append, List.filter_cons_of_pos hca, hnone, hall,
        List.filter_cons_of_pos hca, List.filter_nil]
    · rw [List.filter_append, List.filter_append, List.filter_cons_of_neg hca, hall,
        List.filter_cons_of_neg hca, List.filter_nil, List.append_nil]

include htotal htrans in
/-- An item goes into its place behind the items that are not greater. -/
theorem insertItem_eq {items : List α} {a : α} (hless : Decides less le (a :: items))
    (hsorted : items.Pairwise fun b c => le b c = true) :
    ∃ result : List α, insertItem less items.toArray a = .ok result.toArray ∧
      IsStableSort le result (items ++ [a]) := by
  have hbefore : ∀ b ∈ items, less a b = .ok !le b a :=
    fun b hb => hless a (by simp) b (by simp [hb])
  obtain ⟨hcut, hplace⟩ := placeAfter_eq htrans hbefore hsorted
  refine ⟨_, ?_, isStableSort_insert htotal htrans a hsorted⟩
  rw [insertItem, hplace, ok_bind]
  have htake : items.take (items.filter fun b => le b a).length =
      items.filter fun b => le b a := by
    conv_lhs => rw [← hcut]
    simp
  have hdrop : items.drop (items.filter fun b => le b a).length =
      items.filter fun b => !le b a := by
    conv_lhs => rw [← hcut]
    simp
  have hsize : (items.filter fun b => !le b a).length ≤
      items.length - (items.filter fun b => le b a).length := by
    have hlength := congrArg List.length hcut
    rw [List.length_append] at hlength
    omega
  congr 1
  apply Array.ext'
  simpa [htake, hdrop] using hsize

/-- A run goes on with the items whose comparisons with the ones before them all have one result. -/
theorem runFrom_eq {descending : Bool} {last : α} {rest : List α}
    (hless : Decides less le (last :: rest)) :
    ∃ run more : List α, runFrom less descending last rest = .ok (run, more) ∧ run ++ more = rest ∧
      (last :: run).IsChain fun a b => (!le a b) = descending := by
  induction rest generalizing last with
  | nil => exact ⟨[], [], rfl, rfl, by simp⟩
  | cons a rest ih =>
    have ha : less a last = .ok !le last a := hless a (by simp) last (by simp)
    by_cases hgoes : (!le last a) = descending
    · have hrest : Decides less le (a :: rest) := hless.mono (List.subset_cons_self last _)
      obtain ⟨run, more, hrun, hsplit, hchain⟩ := ih hrest
      refine ⟨a :: run, more, ?_, by simp [hsplit], ?_⟩
      · simp [runFrom, ha, hgoes, hrun]
      · exact List.isChain_cons_cons.2 ⟨hgoes, hchain⟩
    · refine ⟨[], a :: rest, ?_, rfl, by simp⟩
      simp [runFrom, ha, hgoes]

include htrans in
theorem isStableSort_of_ascending {items : List α}
    (h : items.IsChain fun a b => le a b = true) : IsStableSort le items items := by
  have : Trans (fun a b => le a b = true) (fun a b => le a b = true) (fun a b => le a b = true) :=
    ⟨fun {a b c} => htrans a b c⟩
  exact ⟨h.pairwise, fun _ => rfl⟩

include htotal htrans in
/-- No two items of a descending run are alike, so turning it round keeps the order within every
class. -/
theorem isStableSort_reverse {items : List α}
    (h : items.IsChain fun a b => le a b = false) : IsStableSort le items.reverse items := by
  have hstrict : ∀ a b c, le a b = false → le b c = false → le a c = false := by
    intro a b c hab hbc
    by_contra hac
    have hba : le b a = true := by simpa [hab] using htotal a b
    rw [htrans b a c hba (by simpa using hac)] at hbc
    cases hbc
  have : Trans (fun a b => le a b = false) (fun a b => le a b = false)
      (fun a b => le a b = false) := ⟨fun {a b c} => hstrict a b c⟩
  have hpairs : items.Pairwise fun a b => le a b = false := h.pairwise
  refine ⟨List.pairwise_reverse.2 (hpairs.imp fun {a b} hab => ?_), fun c => ?_⟩
  · simpa [hab] using htotal a b
  · rw [List.filter_reverse]
    have hclass := hpairs.filter (alike le c)
    cases hitems : items.filter (alike le c) with
    | nil => rfl
    | cons a rest =>
      cases rest with
      | nil => rfl
      | cons b rest =>
        have hmem : ∀ d ∈ [a, b], alike le c d = true := by
          intro d hd
          have hd' : d ∈ items.filter (alike le c) := by
            rw [hitems]
            exact List.mem_append_left rest hd
          exact (List.mem_filter.1 hd').2
        have ha := hmem a (by simp)
        have hb := hmem b (by simp)
        simp only [alike, Bool.and_eq_true] at ha hb
        rw [hitems] at hclass
        have hab := (List.pairwise_cons.1 hclass).1 b (by simp)
        rw [htrans a c b ha.2 hb.1] at hab
        cases hab

include htotal htrans in
/-- The run at the front, sorted. -/
theorem firstRun_eq {items : List α} (hless : Decides less le items) :
    ∃ run more front : List α, firstRun less items = .ok (run, more) ∧ front ++ more = items ∧
      IsStableSort le run front := by
  match items with
  | [] => exact ⟨[], [], [], rfl, rfl, by simp, by simp⟩
  | [a] => exact ⟨[a], [], [a], rfl, rfl, by simp, by simp⟩
  | a :: b :: rest =>
    have hab : less b a = .ok !le a b := hless b (by simp) a (by simp)
    have hrest : Decides less le (b :: rest) := hless.mono (List.subset_cons_self a _)
    obtain ⟨run, more, hrun, hsplit, hchain⟩ := runFrom_eq hrest
    have hwhole : (a :: b :: run).IsChain fun x y => (!le x y) = !le a b :=
      List.isChain_cons_cons.2 ⟨rfl, hchain⟩
    have hfirst : firstRun less (a :: b :: rest) =
        .ok (if !le a b then (a :: b :: run).reverse else a :: b :: run, more) := by
      simp only [firstRun, hab, ok_bind, hrun]
    rw [hfirst]
    by_cases hdescends : le a b = false
    · refine ⟨_, more, a :: b :: run, rfl, by simp [hsplit], ?_⟩
      rw [if_pos (by simp [hdescends])]
      exact isStableSort_reverse htotal htrans (hwhole.imp fun x y hxy => by simpa [hdescends] using hxy)
    · refine ⟨_, more, a :: b :: run, rfl, by simp [hsplit], ?_⟩
      rw [if_neg (by simpa using hdescends)]
      exact isStableSort_of_ascending htrans
        (hwhole.imp fun x y hxy => by simpa [hdescends] using hxy)

theorem IsStableSort.trans_append {sorted front result : List α} {a : α}
    (h : IsStableSort le sorted front) (h' : IsStableSort le result (sorted ++ [a])) :
    IsStableSort le result (front ++ [a]) :=
  ⟨h'.sorted, fun c => by rw [h'.kept c, List.filter_append, List.filter_append, h.kept c]⟩

include htotal htrans in
/-- Inserting items one by one: by induction, what has been inserted is the stable sort of what came
so far. -/
theorem foldlM_insertItem {sorted front more : List α} (hless : Decides less le (front ++ more))
    (h : IsStableSort le sorted front) :
    ∃ result : List α, more.foldlM (insertItem less) sorted.toArray = .ok result.toArray ∧
      IsStableSort le result (front ++ more) := by
  induction more generalizing sorted front with
  | nil => exact ⟨sorted, rfl, by simpa using h⟩
  | cons a more ih =>
    have hsub : a :: sorted ⊆ front ++ a :: more := by
      intro b hb
      rcases List.mem_cons.1 hb with rfl | hb
      · simp
      · simp [(h.perm htotal).mem_iff.1 hb]
    obtain ⟨next, hnext, hstable⟩ := insertItem_eq htotal htrans (hless.mono hsub) h.sorted
    obtain ⟨result, hresult, hall⟩ := ih
      (show Decides less le (front ++ [a] ++ more) by simpa using hless) (h.trans_append hstable)
    refine ⟨result, ?_, by simpa using hall⟩
    rw [List.foldlM_cons, hnext, ok_bind, hresult]

include htotal htrans in
/-- Sorting with a comparison that decides an order is merge sort by that order. -/
theorem sort_eq_mergeSort {items : List α} (hless : Decides less le items) :
    sort less items = .ok (items.mergeSort le) := by
  obtain ⟨run, more, front, hrun, rfl, hfront⟩ := firstRun_eq htotal htrans hless
  obtain ⟨result, hresult, hstable⟩ := foldlM_insertItem htotal htrans hless hfront
  rw [sort, hrun, ok_bind, ← hstable.eq_mergeSort htotal htrans]
  dsimp only
  rw [hresult, ok_bind]

end Order

/-! ### Items that are changed without changing how they compare -/

section Change

variable {β : Type} {left : α → Except ε Bool} {left' : β → Except ε Bool}
  {less' : β → β → Except ε Bool} {f : α → β}

theorem bisect_map (hleft : ∀ a, left' (f a) = left a) (items : Array α) (lo hi : ℕ) :
    bisect left' (items.map f) lo hi = bisect left items lo hi := by
  induction lo, hi using bisect.induct left items with
  | case1 lo hi h hnone =>
    conv_lhs => rw [bisect, if_pos h, Array.getElem?_map, hnone]
    conv_rhs => rw [bisect, if_pos h, hnone]
    rfl
  | case2 lo hi h a hsome fault hfault =>
    conv_lhs => rw [bisect, if_pos h, Array.getElem?_map, hsome]
    conv_rhs => rw [bisect, if_pos h, hsome]
    simp only [Option.map_some, hleft, hfault]
  | case3 lo hi h a hsome htrue ih =>
    conv_lhs => rw [bisect, if_pos h, Array.getElem?_map, hsome]
    conv_rhs => rw [bisect, if_pos h, hsome]
    simp only [Option.map_some, hleft, htrue, ih]
  | case4 lo hi h a hsome hfalse ih =>
    conv_lhs => rw [bisect, if_pos h, Array.getElem?_map, hsome]
    conv_rhs => rw [bisect, if_pos h, hsome]
    simp only [Option.map_some, hleft, hfalse, ih]
  | case5 lo hi h =>
    conv_lhs => rw [bisect, if_neg h]
    conv_rhs => rw [bisect, if_neg h]

theorem placeBefore_map {a : α} {b : β} (hless : ∀ c, less' (f c) b = less c a) (items : Array α) :
    placeBefore less' (items.map f) b = placeBefore less items a := by
  rw [placeBefore, placeBefore, Array.size_map]
  exact bisect_map (fun c => by rw [hless c]) items 0 items.size

theorem placeAfter_map {a : α} {b : β} (hless : ∀ c, less' b (f c) = less a c) (items : Array α) :
    placeAfter less' (items.map f) b = placeAfter less items a := by
  rw [placeAfter, placeAfter, Array.size_map]
  exact bisect_map hless items 0 items.size

variable (hless : ∀ a b, less' (f a) (f b) = less a b)

include hless

theorem insertItem_map (items : Array α) (a : α) :
    insertItem less' (items.map f) (f a) = (insertItem less items a).map (Array.map f) := by
  rw [insertItem, insertItem, placeAfter_map (hless a) items]
  cases placeAfter less items a with
  | error stop => rfl
  | ok place => simp [Except.map]

theorem foldlM_insertItem_map (more : List α) (items : Array α) :
    (more.map f).foldlM (insertItem less') (items.map f) =
      (more.foldlM (insertItem less) items).map (Array.map f) := by
  induction more generalizing items with
  | nil => rfl
  | cons a more ih =>
    rw [List.map_cons, List.foldlM_cons, List.foldlM_cons, insertItem_map hless]
    cases insertItem less items a with
    | error stop => rfl
    | ok next => exact ih next

theorem runFrom_map (descending : Bool) (last : α) (rest : List α) :
    runFrom less' descending (f last) (rest.map f) =
      (runFrom less descending last rest).map fun (run, more) => (run.map f, more.map f) := by
  induction rest generalizing last with
  | nil => rfl
  | cons a rest ih =>
    rw [List.map_cons, runFrom, runFrom, hless]
    cases less a last with
    | error stop => rfl
    | ok result =>
      by_cases hgoes : (result == descending) = true
      · simp only [ok_bind, hgoes, if_true, ih]
        cases runFrom less descending a rest <;> rfl
      · simp only [ok_bind, hgoes, Bool.false_eq_true, if_false]
        rfl

theorem firstRun_map (items : List α) :
    firstRun less' (items.map f) =
      (firstRun less items).map fun (run, more) => (run.map f, more.map f) := by
  match items with
  | [] => rfl
  | [a] => rfl
  | a :: b :: rest =>
    rw [List.map_cons, List.map_cons, firstRun, firstRun, hless]
    cases less b a with
    | error stop => rfl
    | ok descending =>
      simp only [ok_bind, runFrom_map hless]
      cases runFrom less descending b rest with
      | error stop => rfl
      | ok cut => cases descending <;> simp [Except.map]

/-- Sorting changed items is changing sorted items, where the change makes no difference to how they
compare. -/
theorem sort_map (items : List α) :
    sort less' (items.map f) = (sort less items).map (List.map f) := by
  rw [sort, sort, firstRun_map hless]
  cases firstRun less items with
  | error stop => rfl
  | ok cut =>
    have hinsert := foldlM_insertItem_map hless cut.2 cut.1.toArray
    simp only [List.map_toArray] at hinsert
    simp only [Except.map, ok_bind, hinsert]
    cases cut.2.foldlM (insertItem less) cut.1.toArray <;> simp

end Change

end TablePipeline.Sorting
