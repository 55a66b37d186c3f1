import Mathlib
import TablePipeline.Proofs.Outcome
import TablePipeline.Run.Batches

/-!
The turns of a run of work on batches. Between two turns every batch is unread, in flight or taken.
A turn reads a batch while there is room in the window, or takes one of the batches in flight once
the window cannot be filled any further. Turns lose no batch and never crowd the window, and there
is always another one until all batches are taken. A run is such a course of turns, whatever the
order in which batches are finished, and every course of turns is a run.
-/
namespace TablePipeline

/-- Where the batches of a run are between two turns. -/
structure Progress (α : Type) where
  taken : List α
  inFlight : List α
  unread : List α

namespace Progress

variable {α : Type}

/-- All batches: the taken ones, those in flight and the unread ones. -/
def all (p : Progress α) : List α := p.taken ++ (p.inFlight ++ p.unread)

/-- The number of turns that are left. -/
def turnsLeft (p : Progress α) : ℕ := 2 * p.unread.length + p.inFlight.length

def start (batches : List α) : Progress α := ⟨[], [], batches⟩

/-- Every batch has been taken, in an order. -/
def done (order : List α) : Progress α := ⟨order, [], []⟩

end Progress

namespace Scheduling

variable {α β : Type}

/-- Whether results are taken in the order of the batches. -/
def InOrder (s : Scheduling) : Prop := s.workers = 1 ∨ s.preserveOrder = true

/-- The most batches that are in flight at a time. A single worker has the batch it works on. -/
def capacity (s : Scheduling) : ℕ := if s.workers = 1 then 1 else s.window

/-- One turn. -/
inductive Turn (s : Scheduling) : Progress α → Progress α → Prop
  | read {taken inFlight unread : List α} {batch : α} (room : inFlight.length < s.capacity) :
      Turn s ⟨taken, inFlight, batch :: unread⟩ ⟨taken, inFlight ++ [batch], unread⟩
  | take {taken inFlight unread : List α} {batch : α} {i : ℕ} (found : inFlight[i]? = some batch)
      (filled : unread = [] ∨ s.capacity ≤ inFlight.length) (first : s.InOrder → i = 0) :
      Turn s ⟨taken, inFlight, unread⟩ ⟨taken ++ [batch], inFlight.eraseIdx i, unread⟩

/-- A course of turns. -/
def Turns (s : Scheduling) : Progress α → Progress α → Prop := Relation.ReflTransGen s.Turn

variable {s : Scheduling} {p q r : Progress α}

theorem Turns.refl (p : Progress α) : s.Turns p p := Relation.ReflTransGen.refl

theorem Turns.head (h : s.Turn p q) (hs : s.Turns q r) : s.Turns p r :=
  Relation.ReflTransGen.head h hs

/-! ### What a turn does -/

/-- What is left after one batch has been taken out of the window. -/
theorem cons_eraseIdx_perm {xs : List α} {i : ℕ} {a : α} (h : xs[i]? = some a) :
    (a :: xs.eraseIdx i).Perm xs := by
  obtain ⟨hi, rfl⟩ := List.getElem?_eq_some_iff.1 h
  exact List.getElem_cons_eraseIdx_perm hi

theorem Turn.all_perm (h : s.Turn p q) : q.all.Perm p.all := by
  cases h with
  | read => simp [Progress.all]
  | @take taken inFlight unread batch i found =>
    have hwindow := (cons_eraseIdx_perm found).append_right unread
    simpa [Progress.all] using hwindow.append_left taken

theorem Turn.all_eq (h : s.Turn p q) (horder : s.InOrder) : q.all = p.all := by
  cases h with
  | read => simp [Progress.all]
  | @take taken inFlight unread batch i found filled first =>
    obtain rfl := first horder
    obtain ⟨rest, rfl⟩ := List.head?_eq_some_iff.1 (List.head?_eq_getElem? ▸ found)
    simp [Progress.all]

theorem Turn.inFlight_le (h : s.Turn p q) (hp : p.inFlight.length ≤ s.capacity) :
    q.inFlight.length ≤ s.capacity := by
  cases h with
  | read room => simpa using room
  | take => exact (List.length_eraseIdx_le ..).trans hp

theorem Turn.turnsLeft_lt (h : s.Turn p q) : q.turnsLeft < p.turnsLeft := by
  cases h with
  | read => simp only [Progress.turnsLeft, List.length_append, List.length_cons, List.length_nil]; omega
  | take found =>
    have herase := List.length_eraseIdx_add_one (List.getElem?_eq_some_iff.1 found).1
    simp only [Progress.turnsLeft]
    omega

theorem capacity_pos (hw : 0 < s.window) : 0 < s.capacity := by
  unfold capacity
  split_ifs <;> omega

theorem capacity_le (s : Scheduling) : s.capacity ≤ max s.workers s.window := by
  unfold capacity
  split_ifs <;> omega

/-- There is another turn until every batch has been taken. -/
theorem exists_turn_or_done (hs : 0 < s.capacity) (p : Progress α) :
    (∃ q, s.Turn p q) ∨ ∃ order, p = .done order := by
  obtain ⟨taken, inFlight, unread⟩ := p
  cases inFlight with
  | nil =>
    cases unread with
    | nil => exact .inr ⟨taken, rfl⟩
    | cons batch unread => exact .inl ⟨_, .read hs⟩
  | cons first inFlight =>
    have htake : ∀ {unread}, unread = [] ∨ s.capacity ≤ (first :: inFlight).length →
        ∃ q, s.Turn ⟨taken, first :: inFlight, unread⟩ q :=
      fun filled => ⟨_, .take (i := 0) rfl filled fun _ => rfl⟩
    cases unread with
    | nil => exact .inl (htake (.inl rfl))
    | cons batch unread =>
      by_cases hroom : (first :: inFlight).length < s.capacity
      · exact .inl ⟨_, .read hroom⟩
      · exact .inl (htake (.inr (Nat.le_of_not_lt hroom)))

/-! ### What a course of turns does -/

theorem Turns.all_perm (h : s.Turns p q) : q.all.Perm p.all := by
  induction h with
  | refl => exact .refl _
  | tail _ hturn ih => exact hturn.all_perm.trans ih

theorem Turns.all_eq (h : s.Turns p q) (horder : s.InOrder) : q.all = p.all := by
  induction h with
  | refl => rfl
  | tail _ hturn ih => exact (hturn.all_eq horder).trans ih

theorem Turns.inFlight_le (h : s.Turns p q) (hp : p.inFlight.length ≤ s.capacity) :
    q.inFlight.length ≤ s.capacity := by
  induction h with
  | refl => exact hp
  | tail _ hturn ih => exact hturn.inFlight_le ih

/-- No course of turns goes on for ever. -/
theorem wellFounded_turn (s : Scheduling) :
    WellFounded fun q p : Progress α => s.Turn p q :=
  Subrelation.wf (fun h => h.turnsLeft_lt) (measure Progress.turnsLeft).wf

/-- Reading until the window is full or nothing is unread. -/
theorem turns_fill (taken inFlight unread : List α) :
    s.Turns ⟨taken, inFlight, unread⟩
      ⟨taken, inFlight ++ unread.take (s.capacity - inFlight.length),
        unread.drop (s.capacity - inFlight.length)⟩ := by
  induction unread generalizing inFlight with
  | nil => simpa using Turns.refl _
  | cons batch unread ih =>
    by_cases hroom : inFlight.length < s.capacity
    · have hleft : s.capacity - inFlight.length = s.capacity - (inFlight ++ [batch]).length + 1 := by
        simp only [List.length_append, List.length_cons, List.length_nil]
        omega
      have hrest := ih (inFlight ++ [batch])
      rw [hleft, List.take_succ_cons, List.drop_succ_cons, List.append_cons]
      exact .head (.read hroom) hrest
    · rw [Nat.sub_eq_zero_of_le (by omega)]
      simpa using Turns.refl _

/-- A single worker works on one batch after the other. -/
theorem turns_single (hone : s.workers = 1) (taken unread : List α) :
    s.Turns ⟨taken, [], unread⟩ ⟨taken ++ unread, [], []⟩ := by
  have hcapacity : s.capacity = 1 := if_pos hone
  induction unread generalizing taken with
  | nil => simpa using Turns.refl ⟨taken, [], []⟩
  | cons batch unread ih =>
    have hread : s.Turn ⟨taken, [], batch :: unread⟩ ⟨taken, [batch], unread⟩ :=
      .read (by simp [hcapacity])
    have htake : s.Turn ⟨taken, [batch], unread⟩ ⟨taken ++ [batch], [], unread⟩ :=
      .take (i := 0) rfl (.inr (by simp [hcapacity])) fun _ => rfl
    rw [List.append_cons]
    exact .head hread (.head htake (ih (taken ++ [batch])))

/-! ### Runs are courses of turns -/

/-- One result. -/
def single (work : α → Except Fault β) : α → Except Fault (List β) := fun batch => do
  .ok [← work batch]

variable {work : α → Except Fault β} {batch : α} {rest : List α} {fault : Option Fault}

theorem traverse_single_ok {result : β} (h : work batch = .ok result) :
    Feed.traverse (single work) (batch :: rest) fault =
      .cons result (Feed.traverse (single work) rest fault) := by
  simp [Feed.traverse, single, h, Feed.cons]

theorem traverse_single_error {stop : Fault} (h : work batch = .error stop) :
    Feed.traverse (single work) (batch :: rest) fault = .failed stop := by
  simp [Feed.traverse, single, h]

/-- Filling the window reads as many batches as there is room for; a feed that is to fail fails here
once its last batch has been read. -/
theorem fill_ok {inFlight unread inFlight' unread' : List α} {fault : Option Fault}
    (h : s.fill inFlight unread fault = .ok (inFlight', unread')) :
    inFlight' = inFlight ++ unread.take (s.window - inFlight.length) ∧
      unread' = unread.drop (s.window - inFlight.length) ∧
      (fault = none ∨ s.window - inFlight.length ≤ unread.length) := by
  unfold fill at h
  cases fault with
  | none => simp_all
  | some fault =>
    simp only at h
    split_ifs at h with hlt
    simp_all

theorem fill_error {inFlight unread : List α} {fault : Option Fault} {stop : Fault}
    (h : s.fill inFlight unread fault = .error stop) : fault = some stop := by
  unfold fill at h
  cases fault with
  | none => cases h
  | some fault =>
    simp only at h
    split_ifs at h
    exact congrArg some (Except.error.inj h)

/-- A window that has been filled is full unless nothing is unread. -/
theorem fill_full {inFlight unread inFlight' unread' : List α} {fault : Option Fault}
    (h : s.fill inFlight unread fault = .ok (inFlight', unread')) :
    inFlight'.length + unread'.length = inFlight.length + unread.length ∧
      (unread' = [] ∨ s.window ≤ inFlight'.length) := by
  obtain ⟨rfl, rfl, -⟩ := fill_ok h
  rw [← List.length_eq_zero_iff]
  simp only [List.length_append, List.length_take, List.length_drop]
  omega

/-- Nothing is in flight in a window that has been filled only if every batch has been taken and the
feed has been read to its end. -/
theorem fill_nil {inFlight unread unread' : List α} {fault : Option Fault} (hw : 0 < s.window)
    (h : s.fill inFlight unread fault = .ok ([], unread')) :
    inFlight = [] ∧ unread = [] ∧ fault = none := by
  obtain ⟨hlength, hfull⟩ := fill_full h
  obtain ⟨-, -, hlast⟩ := fill_ok h
  have hrest : unread' = [] := hfull.resolve_right (by simpa using hw.ne')
  simp only [hrest, List.length_nil] at hlength
  obtain rfl : inFlight = [] := List.length_eq_zero_iff.1 (by omega)
  obtain rfl : unread = [] := List.length_eq_zero_iff.1 (by omega)
  exact ⟨rfl, rfl, hlast.resolve_right (by simpa using hw.ne')⟩

theorem choice_lt (s : Scheduling) (turn : ℕ) {inFlight : ℕ} (h : 0 < inFlight) :
    s.choice turn inFlight < inFlight := by
  unfold choice
  split_ifs
  · exact h
  · exact Nat.mod_lt _ h

theorem choice_eq_zero (h : s.preserveOrder = true) (turn inFlight : ℕ) :
    s.choice turn inFlight = 0 := if_pos h

/-- A batch is taken unless none is in flight. -/
theorem eq_nil_of_choice {inFlight : List α} {turn : ℕ}
    (h : inFlight[s.choice turn inFlight.length]? = none) : inFlight = [] := by
  by_contra hne
  have hlt := s.choice_lt turn (List.length_pos_iff.2 hne)
  simp [List.getElem?_eq_getElem hlt] at h

/-- Draining takes the batches in an order that does not depend on the work, and hands out their
results in it: by induction on the turns that are left, of which there are more than batches in
flight and unread. -/
theorem drain_turns (hmany : s.workers ≠ 1) (hw : 0 < s.window) (fault : Option Fault)
    {fuel : ℕ} (turn : ℕ) {inFlight unread : List α}
    (hfuel : inFlight.length + unread.length < fuel) :
    ∃ order : List α,
      (∀ {β : Type} (work : α → Except Fault β),
        s.drain work fault fuel turn inFlight unread =
          Feed.traverse (single work) order fault) ∧
      (fault = none → ∀ taken, s.Turns ⟨taken, inFlight, unread⟩ (.done (taken ++ order))) := by
  have hcapacity : s.capacity = s.window := if_neg hmany
  induction fuel generalizing turn inFlight unread with
  | zero => omega
  | succ fuel ih =>
    cases hfill : s.fill inFlight unread fault with
    | error stop =>
      obtain rfl := fill_error hfill
      exact ⟨[], fun work => by simp [drain, hfill, Feed.traverse, Feed.failed], nofun⟩
    | ok filled =>
      obtain ⟨inFlight', unread'⟩ := filled
      obtain ⟨hlength, hfull⟩ := fill_full hfill
      cases hget : inFlight'[s.choice turn inFlight'.length]? with
      | none =>
        obtain rfl := eq_nil_of_choice hget
        obtain ⟨rfl, rfl, rfl⟩ := fill_nil hw hfill
        refine ⟨[], fun work => ?_, fun _ taken => by rw [List.append_nil]; exact .refl _⟩
        simp [drain, fill, Feed.traverse, Feed.empty]
      | some batch =>
        have herase := List.length_eraseIdx_add_one (List.getElem?_eq_some_iff.1 hget).1
        have hless : (inFlight'.eraseIdx (s.choice turn inFlight'.length)).length +
            unread'.length < fuel := by omega
        obtain ⟨order, hdrain, hcourse⟩ := ih (turn + 1) hless
        refine ⟨batch :: order, fun {β} work => ?_, fun hfault taken => ?_⟩
        · simp only [drain, hfill, hget, hdrain]
          cases hwork : work batch with
          | error stop => rw [traverse_single_error hwork]
          | ok result => rw [traverse_single_ok hwork]
        · have hfirst : s.InOrder → s.choice turn inFlight'.length = 0 :=
            fun horder => choice_eq_zero (horder.resolve_left hmany) ..
          have htake : s.Turn ⟨taken, inFlight', unread'⟩ _ :=
            .take hget (hcapacity ▸ hfull) hfirst
          obtain ⟨rfl, rfl, -⟩ := fill_ok hfill
          rw [← hcapacity] at htake hcourse
          rw [List.append_cons]
          exact (turns_fill taken inFlight unread).trans (.head htake (hcourse hfault _))

/-- The results of a run are those of work on the batches one by one, in an order that does not
depend on the work. A feed that can be read to its end is taken to its end. -/
theorem run_turns (hworkers : 0 < s.workers) (hw : 0 < s.window) (batches : Feed α) :
    ∃ order : List α,
      (∀ {β : Type} (work : α → Except Fault β),
        s.run work batches = Feed.traverse (single work) order batches.fault) ∧
      (batches.fault = none → s.Turns (.start batches.items) (.done order)) := by
  by_cases hone : s.workers = 1
  · exact ⟨batches.items, fun work => by simp [run, hone]; rfl,
      fun _ => turns_single hone [] batches.items⟩
  · have hfuel : ([] : List α).length + batches.items.length < batches.items.length + 1 := by simp
    obtain ⟨order, hdrain, hcourse⟩ := drain_turns hone hw batches.fault 0 hfuel
    refine ⟨order, fun work => ?_, fun hfault => hcourse hfault []⟩
    simp [run, hone, hworkers.ne', hdrain]

/-- A run takes every batch once, and in their order if order is kept. -/
theorem Turns.order_perm {batches order : List α} (h : s.Turns (.start batches) (.done order)) :
    order.Perm batches ∧ (s.InOrder → order = batches) := by
  refine ⟨by simpa [Progress.all, Progress.start, Progress.done] using h.all_perm, fun horder => ?_⟩
  simpa [Progress.all, Progress.start, Progress.done] using h.all_eq horder

/-! ### Courses of turns are runs -/

/-- Filling goes on where a batch has been read. -/
theorem fill_read {inFlight unread : List α} {batch : α} (hroom : inFlight.length < s.window) :
    s.fill inFlight (batch :: unread) none = s.fill (inFlight ++ [batch]) unread none := by
  have hleft : s.window - inFlight.length = s.window - (inFlight ++ [batch]).length + 1 := by
    simp only [List.length_append, List.length_cons, List.length_nil]
    omega
  simp only [fill, hleft, List.take_succ_cons, List.drop_succ_cons, List.append_assoc,
    List.singleton_append]

/-- There is nothing to fill in a window that is full, or where nothing is unread. -/
theorem fill_filled {inFlight unread : List α} (h : unread = [] ∨ s.window ≤ inFlight.length) :
    s.fill inFlight unread none = .ok (inFlight, unread) := by
  rcases h with rfl | h
  · simp [fill]
  · simp [fill, Nat.sub_eq_zero_of_le h]

/-- The same scheduler where batches are finished in another order. -/
def finishing (s : Scheduling) (finished : ℕ → ℕ) : Scheduling := { s with finished }

theorem finishing_choice {i inFlight turn : ℕ} {finished : ℕ → ℕ}
    (hfirst : s.preserveOrder = true → i = 0) (hi : i < inFlight) (hpick : finished turn = i) :
    (s.finishing finished).choice turn inFlight = i := by
  simp only [choice, finishing, hpick]
  by_cases hkeep : s.preserveOrder = true
  · rw [if_pos hkeep, hfirst hkeep]
  · rw [if_neg hkeep, Nat.mod_eq_of_lt hi]

/-- Batches can be finished so that draining follows a course of turns: by induction on the course,
collecting the places from which batches are taken. -/
theorem drain_of_turns (hmany : s.workers ≠ 1) {order : List α} (h : s.Turns p (.done order)) :
    ∃ (picks : ℕ → ℕ) (rest : List α), order = p.taken ++ rest ∧
      ∀ (fuel turn : ℕ) (finished : ℕ → ℕ), (∀ n, finished (turn + n) = picks n) →
        p.inFlight.length + p.unread.length < fuel →
        ∀ {β : Type} (work : α → Except Fault β),
          (s.finishing finished).drain work none fuel turn p.inFlight p.unread =
            Feed.traverse (single work) rest none := by
  have hcapacity : s.capacity = s.window := if_neg hmany
  induction h using Relation.ReflTransGen.head_induction_on with
  | refl =>
    refine ⟨fun _ => 0, [], by simp [Progress.done], fun fuel _ _ _ hfuel _ work => ?_⟩
    cases fuel with
    | zero => omega
    | succ fuel => simp [drain, fill, Progress.done, Feed.traverse, Feed.empty]
  | head hturn _ ih =>
    obtain ⟨picks, rest, rfl, hdrain⟩ := ih
    cases hturn with
    | @read taken inFlight unread batch room =>
      refine ⟨picks, rest, rfl, fun fuel turn finished hpicks hfuel _ work => ?_⟩
      simp only [List.length_cons, List.length_append, List.length_nil] at hfuel hdrain
      rw [← hdrain fuel turn finished hpicks (by omega) work]
      cases fuel with
      | zero => omega
      | succ fuel =>
        have hfill : (s.finishing finished).fill inFlight (batch :: unread) none = _ :=
          fill_read (hcapacity ▸ room)
        simp only [drain, hfill]
    | @take taken inFlight unread batch i found filled first =>
      have hi := (List.getElem?_eq_some_iff.1 found).1
      have herase := List.length_eraseIdx_add_one hi
      refine ⟨fun n => n.casesOn i picks, batch :: rest, by simp,
        fun fuel turn finished hpicks hfuel _ work => ?_⟩
      cases fuel with
      | zero => omega
      | succ fuel =>
        have hchoice : (s.finishing finished).choice turn inFlight.length = i :=
          finishing_choice (fun hkeep => first (.inr hkeep)) hi (hpicks 0)
        have hfill : (s.finishing finished).fill inFlight unread none = _ :=
          fill_filled (hcapacity ▸ filled)
        have hlater : ∀ n, finished (turn + 1 + n) = picks n := fun n => by
          rw [Nat.add_right_comm, Nat.add_assoc]
          exact hpicks (n + 1)
        simp only at hfuel hdrain
        have hrest := hdrain fuel (turn + 1) finished hlater (by omega) work
        simp only [drain, hfill, hchoice, found, hrest]
        cases hwork : work batch with
        | error stop => rw [traverse_single_error hwork]
        | ok result => rw [traverse_single_ok hwork]

/-- Every course of turns of several workers is a run: batches can be finished in the order that
leads to it. -/
theorem exists_run_of_turns (hmany : 1 < s.workers) {batches order : List α}
    (h : s.Turns (.start batches) (.done order)) :
    ∃ finished : ℕ → ℕ, ∀ {β : Type} (work : α → Except Fault β),
      (s.finishing finished).run work ⟨batches, none⟩ = Feed.traverse (single work) order none := by
  obtain ⟨picks, rest, rfl, hdrain⟩ := drain_of_turns hmany.ne' h
  refine ⟨picks, fun work => ?_⟩
  have hrun := hdrain (batches.length + 1) 0 picks (by simp) (by simp [Progress.start]) work
  simpa [run, finishing, hmany.ne', (Nat.zero_lt_of_lt hmany).ne', Progress.start] using hrun

end Scheduling

end TablePipeline
