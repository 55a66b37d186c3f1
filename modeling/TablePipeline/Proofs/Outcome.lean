import Mathlib
import TablePipeline.Run.Outcome

/-!
Feeds and outcomes that did not fail. A chain of fallible steps that ends well has ended well at
each step, so what a stage has handed out is what its parts have handed out, one after the other.
-/
namespace TablePipeline

section Except

variable {ε α β γ σ : Type}

@[simp] theorem ok_bind (a : α) (f : α → Except ε β) : (Except.ok a >>= f) = f a := rfl
@[simp] theorem error_bind (e : ε) (f : α → Except ε β) :
    (Except.error e >>= f) = .error e := rfl
@[simp] theorem pure_eq_ok (a : α) : (pure a : Except ε α) = .ok a := rfl
@[simp] theorem throw_eq_error (e : ε) : (throw e : Except ε α) = .error e := rfl

theorem bind_eq_ok {x : Except ε α} {f : α → Except ε β} {b : β} :
    (x >>= f) = .ok b ↔ ∃ a, x = .ok a ∧ f a = .ok b := by
  cases x <;> simp

theorem bind_eq_error {x : Except ε α} {f : α → Except ε β} {e : ε} :
    (x >>= f) = .error e ↔ x = .error e ∨ ∃ a, x = .ok a ∧ f a = .error e := by
  cases x <;> simp

/-- A check that fails ends what comes after it. -/
theorem guard_eq_ok {c : Prop} [Decidable c] {e : ε} {f : Unit → Except ε β} {b : β} :
    (if c then throw e >>= f else f ()) = .ok b ↔ ¬c ∧ f () = .ok b := by
  by_cases h : c <;> simp [h]

theorem guard_eq_error {c : Prop} [Decidable c] {e e' : ε} {f : Unit → Except ε β} :
    (if c then throw e >>= f else f ()) = .error e' ↔ c ∧ e = e' ∨ ¬c ∧ f () = .error e' := by
  by_cases h : c <;> simp [h]

theorem mapError_eq_ok {δ : Type} {x : Except ε α} {f : ε → δ} {a : α} :
    x.mapError f = .ok a ↔ x = .ok a := by
  cases x <;> simp [Except.mapError]

theorem map_eq_ok {x : Except ε α} {f : α → β} {b : β} :
    x.map f = .ok b ↔ ∃ a, x = .ok a ∧ f a = b := by
  cases x <;> simp [Except.map]

/-- A fallible map that succeeds has succeeded on every item. -/
theorem mapM_eq_ok_iff {f : α → Except ε β} {as : List α} {bs : List β} :
    as.mapM f = .ok bs ↔ as.map f = bs.map .ok := by
  induction as generalizing bs with
  | nil => cases bs <;> simp
  | cons a as ih =>
    simp only [List.mapM_cons, bind_eq_ok, List.map_cons]
    constructor
    · rintro ⟨b, hb, bs', hbs, h⟩
      obtain rfl : b :: bs' = bs := by simpa using h
      simp [hb, ih.1 hbs]
    · intro h
      cases bs with
      | nil => cases h
      | cons b bs =>
        simp only [List.map_cons, List.cons.injEq] at h
        exact ⟨b, h.1, bs, ih.2 h.2, rfl⟩

theorem mapM_congr {f g : α → Except ε β} {as : List α} (h : ∀ a ∈ as, f a = g a) :
    as.mapM f = as.mapM g := by
  induction as with
  | nil => rfl
  | cons a as ih =>
    rw [List.mapM_cons, List.mapM_cons, h a (by simp), ih fun a ha => h a (by simp [ha])]

theorem mapM_map {g : γ → α} {f : α → Except ε β} (cs : List γ) :
    (cs.map g).mapM f = cs.mapM fun c => f (g c) := by
  induction cs with
  | nil => rfl
  | cons c cs ih => rw [List.map_cons, List.mapM_cons, List.mapM_cons, ih]

/-- A fallible map of changed items, where the change is passed on to the results. -/
theorem mapM_map_map {δ : Type} {f : α → Except ε β} {k : γ → Except ε δ} {g : α → γ} {h : β → δ}
    (hf : ∀ a, k (g a) = (f a).map h) {as : List α} :
    (as.map g).mapM k = (as.mapM f).map (List.map h) := by
  induction as with
  | nil => rfl
  | cons a as ih =>
    rw [List.map_cons, List.mapM_cons, List.mapM_cons, hf, ih]
    cases f a with
    | error e => rfl
    | ok b => cases as.mapM f <;> rfl

/-- A fallible map whose results are changed. -/
theorem mapM_map_results {f : α → Except ε β} (g : β → γ) (as : List α) :
    as.mapM (fun a => (f a).map g) = (as.mapM f).map (List.map g) := by
  induction as with
  | nil => rfl
  | cons a as ih =>
    rw [List.mapM_cons, List.mapM_cons, ih]
    cases f a with
    | error e => rfl
    | ok b => cases as.mapM f <;> rfl

/-- A fallible map that fails has failed on one of the items, in the same way. -/
theorem exists_of_mapM_eq_error {f : α → Except ε β} {as : List α} {e : ε}
    (h : as.mapM f = .error e) : ∃ a ∈ as, f a = .error e := by
  induction as with
  | nil => cases h
  | cons a as ih =>
    rw [List.mapM_cons] at h
    rcases bind_eq_error.1 h with ha | ⟨b, -, h⟩
    · exact ⟨a, List.mem_cons_self, ha⟩
    · rcases bind_eq_error.1 h with has | ⟨_, -, h⟩
      · obtain ⟨there, hthere, he⟩ := ih has
        exact ⟨there, List.mem_cons_of_mem _ hthere, he⟩
      · cases h

/-- If one of the items has no result, a fallible map fails as one of them does. -/
theorem exists_of_mapM_error {f : α → Except ε β} {as : List α}
    (h : ∃ a ∈ as, ∀ b, f a ≠ .ok b) :
    ∃ a ∈ as, ∃ e, f a = .error e ∧ as.mapM f = .error e := by
  induction as with
  | nil => simp at h
  | cons a as ih =>
    cases ha : f a with
    | error e => exact ⟨a, by simp, e, ha, by rw [List.mapM_cons, ha, error_bind]⟩
    | ok b =>
      obtain ⟨c, hc, hfail⟩ := h
      rcases List.mem_cons.1 hc with rfl | hc
      · exact absurd ha (hfail b)
      · obtain ⟨c, hc, e, he, hmap⟩ := ih ⟨c, hc, hfail⟩
        exact ⟨c, by simp [hc], e, he, by rw [List.mapM_cons, ha, hmap, ok_bind, error_bind]⟩

theorem exists_map_ok {f : α → Except ε β} {as : List α} (h : ∀ a ∈ as, ∃ b, f a = .ok b) :
    ∃ bs : List β, as.map f = bs.map .ok := by
  induction as with
  | nil => exact ⟨[], rfl⟩
  | cons a as ih =>
    obtain ⟨b, hb⟩ := h a (by simp)
    obtain ⟨bs, hbs⟩ := ih fun a ha => h a (by simp [ha])
    exact ⟨b :: bs, by simp [hb, hbs]⟩

/-- A fallible map succeeds if and only if it does so on every item. -/
theorem exists_mapM_ok_iff {f : α → Except ε β} {as : List α} :
    (∃ bs, as.mapM f = .ok bs) ↔ ∀ a ∈ as, ∃ b, f a = .ok b := by
  constructor
  · rintro ⟨bs, h⟩ a ha
    obtain ⟨b, -, hb⟩ := List.mem_map.1 (mapM_eq_ok_iff.1 h ▸ List.mem_map_of_mem ha)
    exact ⟨b, hb.symm⟩
  · intro h
    exact (exists_map_ok h).imp fun bs hbs => mapM_eq_ok_iff.2 hbs

theorem map_ok_injective : Function.Injective (List.map (Except.ok : α → Except ε α)) :=
  List.map_injective_iff.2 fun _ _ h => Except.ok.inj h

/-- Results that are others in another order, all of which are there, are all there. -/
theorem exists_of_perm_map_ok {results : List (Except ε α)} {as : List α}
    (h : results.Perm (as.map .ok)) : ∃ bs : List α, results = bs.map .ok ∧ bs.Perm as := by
  have hall : ∀ result ∈ results, ∃ a : α, id result = .ok a := fun result hresult => by
    obtain ⟨a, -, ha⟩ := List.mem_map.1 (h.mem_iff.1 hresult)
    exact ⟨a, ha.symm⟩
  obtain ⟨bs, hbs⟩ := exists_map_ok hall
  rw [List.map_id] at hbs
  subst hbs
  exact ⟨bs, rfl, (List.map_perm_map_iff fun _ _ => Except.ok.inj).1 h⟩

/-- The value of a fallible step, or another one in its place. -/
def valueOr (d : β) (x : Except ε β) : β := x.toOption.getD d

theorem ok_of_map_ok {f : α → Except ε β} {as : List α} {bs : List β} (d : β)
    (h : as.map f = bs.map .ok) {a : α} (ha : a ∈ as) : .ok (valueOr d (f a)) = f a := by
  obtain ⟨b, -, hb⟩ := List.mem_map.1 (h ▸ List.mem_map_of_mem ha)
  rw [← hb]
  rfl

theorem eq_map_of_map_ok {f : α → Except ε β} {as : List α} {bs : List β} (d : β)
    (h : as.map f = bs.map .ok) : bs = as.map fun a => valueOr d (f a) := by
  apply map_ok_injective
  rw [← h, List.map_map]
  exact List.map_congr_left fun a ha => (ok_of_map_ok d h ha).symm

/-- Taking in what a step makes of each item is taking in what it makes of all of them. -/
theorem foldlM_step_eq_ok_iff {f : α → Except ε β} {g : σ → β → Except ε σ} {as : List α}
    {s out : σ} :
    as.foldlM (fun s a => do g s (← f a)) s = .ok out ↔
      ∃ bs, as.mapM f = .ok bs ∧ bs.foldlM g s = .ok out := by
  induction as generalizing s with
  | nil => simp
  | cons a as ih =>
    simp only [List.foldlM_cons, List.mapM_cons, bind_eq_ok, ih]
    constructor
    · rintro ⟨s', ⟨b, hb, hadd⟩, bs, hbs, hout⟩
      exact ⟨b :: bs, ⟨b, hb, bs, hbs, rfl⟩, by simp [hadd, hout]⟩
    · rintro ⟨_, ⟨b, hb, bs, hbs, h⟩, hout⟩
      obtain rfl := Except.ok.inj h
      rw [List.foldlM_cons] at hout
      obtain ⟨s', hadd, hout⟩ := bind_eq_ok.1 hout
      exact ⟨s', ⟨b, hb, hadd⟩, bs, hbs, hout⟩

/-- Steps that succeed exactly if others do under a condition. -/
theorem map_eq_map_ok_iff {f g : α → Except ε β} {p : α → Prop} {as : List α}
    (h : ∀ a ∈ as, ∀ b, f a = .ok b ↔ p a ∧ g a = .ok b) {bs : List β} :
    as.map f = bs.map .ok ↔ (∀ a ∈ as, p a) ∧ as.map g = bs.map .ok := by
  induction as generalizing bs with
  | nil => simp
  | cons a as ih =>
    cases bs with
    | nil => simp
    | cons b bs =>
      simp only [List.map_cons, List.cons.injEq, h a (by simp), ih fun a ha => h a (by simp [ha]),
        List.forall_mem_cons]
      tauto

/-- What is made of the results of steps can be made of their items. -/
theorem map_eq_map_of_ok {f : α → Except ε β} {g : α → γ} {made : β → γ} {as : List α}
    {bs : List β} (hf : as.map f = bs.map .ok) (h : ∀ a ∈ as, ∀ b, f a = .ok b → g a = made b) :
    as.map g = bs.map made := by
  induction as generalizing bs with
  | nil =>
    obtain rfl : bs = [] := by simpa using hf.symm
    rfl
  | cons a as ih =>
    cases bs with
    | nil => cases hf
    | cons b bs =>
      obtain ⟨ha, has⟩ := List.cons.inj hf
      rw [List.map_cons, List.map_cons, h a (by simp) b ha, ih has fun a ha => h a (by simp [ha])]

/-- What a fallible step that makes any number of items has made. -/
def made : Except ε (List α) → List α
  | .ok items => items
  | .error _ => []

@[simp] theorem made_ok (items : List α) : made (.ok items : Except ε (List α)) = items := rfl
@[simp] theorem made_error (e : ε) : made (.error e : Except ε (List α)) = [] := rfl

end Except

namespace Feed

variable {α β : Type}

/-- A feed of steps that all succeed ends as the feed before them does. -/
theorem traverse_of_ok {f : α → Except Fault (List β)} {as : List α} (fault : Option Fault)
    (h : ∀ a ∈ as, ∃ bs, f a = .ok bs) :
    traverse f as fault = ⟨as.flatMap fun a => made (f a), fault⟩ := by
  induction as with
  | nil => rfl
  | cons a as ih =>
    obtain ⟨bs, hbs⟩ := h a (by simp)
    simp [traverse, hbs, ih fun a ha => h a (by simp [ha])]

theorem ok_of_traverse {f : α → Except Fault (List β)} {as : List α} {fault : Option Fault}
    (h : (traverse f as fault).fault = none) :
    fault = none ∧ ∀ a ∈ as, ∃ bs, f a = .ok bs := by
  induction as with
  | nil => exact ⟨h, by simp⟩
  | cons a as ih =>
    cases hf : f a with
    | error stop => simp [traverse, hf, failed] at h
    | ok bs =>
      have ht := ih (by simpa [traverse, hf] using h)
      exact ⟨ht.1, by simpa using ⟨⟨bs, hf⟩, ht.2⟩⟩

theorem exists_of_mem_traverse {f : α → Except Fault (List β)} {as : List α}
    {fault : Option Fault} {b : β} (h : b ∈ (traverse f as fault).items) :
    ∃ a ∈ as, ∃ bs, f a = .ok bs ∧ b ∈ bs := by
  induction as with
  | nil => simp [traverse] at h
  | cons a as ih =>
    cases hf : f a with
    | error stop => simp [traverse, hf, failed] at h
    | ok bs =>
      simp only [traverse, hf, List.mem_append] at h
      rcases h with h | h
      · exact ⟨a, by simp, bs, hf, h⟩
      · obtain ⟨a', ha', found⟩ := ih h
        exact ⟨a', by simp [ha'], found⟩

/-- Batches hold the items of a feed in their order. -/
theorem pieces_flatten {size : ℕ} (hs : 0 < size) (items : List α) :
    (pieces size items).flatten = items := by
  induction items using pieces.induct size with
  | case1 items h =>
    have he : items = [] := by simpa [hs.ne'] using h
    simp [pieces, he]
  | case2 items h ih =>
    rw [pieces, if_neg h, List.flatten_cons, ih, List.take_append_drop]

theorem batches_fault (size : ℕ) (feed : Feed α) : (feed.batches size).fault = feed.fault := by
  unfold batches
  cases feed.fault <;> rfl

theorem batches_flatten {size : ℕ} (hs : 0 < size) {feed : Feed α} (h : feed.fault = none) :
    (feed.batches size).items.flatten = feed.items := by
  simp [batches, h, pieces_flatten hs]

end Feed

namespace Outcome

variable {α : Type}

/-- Nothing has failed: neither the stage nor any part of it. -/
def Clean (o : Outcome α) : Prop := o.fault = none ∧ o.failures = []

theorem append_clean {first second : Outcome α} (h : (first.append second).Clean) :
    first.Clean ∧ second.Clean ∧ (first.append second).items = first.items ++ second.items := by
  unfold append Clean at *
  cases hf : first.fault with
  | some fault => simp [hf] at h
  | none =>
    simp only [hf, List.append_eq_nil_iff] at h ⊢
    exact ⟨⟨trivial, h.2.1⟩, ⟨h.1, h.2.2⟩, trivial⟩

/-- Stages of which nothing failed have handed out their items one after the other. -/
theorem concat_clean {stages : List (Outcome α)} (h : (concat stages).Clean) :
    (∀ o ∈ stages, o.Clean) ∧ (concat stages).items = stages.flatMap fun o => o.items := by
  induction stages with
  | nil => exact ⟨by simp, rfl⟩
  | cons o stages ih =>
    obtain ⟨ho, hs, hi⟩ := append_clean h
    obtain ⟨hc, hitems⟩ := ih hs
    exact ⟨by simpa using ⟨ho, hc⟩, by rw [concat, List.foldr_cons, hi, List.flatMap_cons, ← hitems]; rfl⟩

/-- Stages that all end well end well one after the other. -/
theorem concat_of_ok {stages : List (Outcome α)} (h : ∀ o ∈ stages, o.fault = none) :
    concat stages =
      { items := stages.flatMap fun o => o.items
        failures := stages.flatMap fun o => o.failures } := by
  induction stages with
  | nil => rfl
  | cons o stages ih =>
    have hrest := ih fun o ho => h o (by simp [ho])
    rw [concat] at hrest
    rw [concat, List.foldr_cons, hrest]
    simp [append, h o (by simp)]

end Outcome

end TablePipeline
