import Mathlib
import TablePipeline.Names
import TablePipeline.Proofs.Key
import TablePipeline.Proofs.Outcome

/-!
Names that are looked up. On keys, matching goes both ways and is passed on, so names that are all
different stay so in any order, and an argument gives the name of one column at most.
-/
namespace TablePipeline

namespace Datum

theorem not_isMatch_nan_of_equal {a b : Value} (h : equal a b = true) (m : NaNMark) :
    a ≠ float (.nan m) ∧ b ≠ float (.nan m) := by
  constructor <;> rintro rfl
  · rw [(equal_nan m b).1] at h
    cases h
  · rw [(equal_nan m a).2] at h
    cases h

theorem isMatch_symm {a b : Value} (ha : unhashable? a = none) (h : a.isMatch b = true) :
    b.isMatch a = true := by
  simp only [isMatch, Bool.or_eq_true] at h ⊢
  exact h.imp sameNaN_symm (equal_symm ha)

theorem isMatch_trans {a b c : Value} (ha : unhashable? a = none) (h : a.isMatch b = true)
    (h' : b.isMatch c = true) : a.isMatch c = true := by
  simp only [isMatch, Bool.or_eq_true] at h h' ⊢
  rcases h with h | h <;> rcases h' with h' | h'
  · obtain ⟨m, hm, rfl, rfl⟩ := (sameNaN_iff a b).1 h
    exact .inl h'
  · obtain ⟨m, -, -, rfl⟩ := (sameNaN_iff a b).1 h
    exact absurd rfl (not_isMatch_nan_of_equal h' m).1
  · obtain ⟨m, -, rfl, -⟩ := (sameNaN_iff b c).1 h'
    exact absurd rfl (not_isMatch_nan_of_equal h m).2
  · exact .inr (equal_trans ha h h')

/-- Only a text matches a text. -/
@[simp] theorem isMatch_text {φ : Type} (d : Datum φ) (s : String) :
    d.isMatch (text s) = true ↔ d = text s := by
  cases d <;> simp [isMatch, sameNaN, equal, scalarEqual, number?]

mutual

theorem unhashable?_of_equal {a b : Value} (ha : unhashable? a = none) (h : equal a b = true) :
    unhashable? b = none := by
  cases a with
  | tuple xs =>
    cases b with
    | tuple ys => exact unhashableAmong?_of_equalItems ha h
    | _ => simp [equal] at h
  | list _ => simp [unhashable?] at ha
  | record _ => simp [unhashable?] at ha
  | _ =>
    rw [equal_of_isScalar _ rfl] at h
    have hb := isScalar_of_scalarEqual h
    cases b <;> simp_all [isScalar, unhashable?]

theorem unhashableAmong?_of_equalItems {xs ys : List Value} (hx : unhashableAmong? xs = none)
    (h : equalItems xs ys = true) : unhashableAmong? ys = none := by
  cases xs with
  | nil => cases ys <;> simp_all [equalItems]
  | cons x xs =>
    cases ys with
    | nil => simp [equalItems] at h
    | cons y ys =>
      obtain ⟨hx, hxs⟩ := (unhashableAmong?_cons x xs).1 hx
      simp only [equalItems, Bool.and_eq_true, Bool.or_eq_true] at h
      refine (unhashableAmong?_cons y ys).2 ⟨?_, unhashableAmong?_of_equalItems hxs h.2⟩
      rcases h.1 with hnan | hequal
      · obtain ⟨m, -, -, rfl⟩ := (sameNaN_iff x y).1 hnan
        rfl
      · exact unhashable?_of_equal hx hequal

end

/-- What matches a key is a key. -/
theorem unhashable?_of_isMatch {a b : Value} (ha : unhashable? a = none)
    (h : a.isMatch b = true) : unhashable? b = none := by
  simp only [isMatch, Bool.or_eq_true] at h
  rcases h with hnan | hequal
  · obtain ⟨m, -, -, rfl⟩ := (sameNaN_iff a b).1 hnan
    rfl
  · exact unhashable?_of_equal ha hequal

mutual

/-- A datum is a key if and only if it is one as the value of a cell. -/
theorem unhashable?_of_toValue? {φ : Type} {d : Datum φ} {v : Value} (h : d.toValue? = some v) :
    unhashable? d = unhashable? v := by
  cases d with
  | tuple items =>
    obtain ⟨vs, hvs, rfl⟩ := Option.map_eq_some_iff.1 h
    exact unhashableAmong?_of_toValues? hvs
  | list items =>
    obtain ⟨vs, -, rfl⟩ := Option.map_eq_some_iff.1 h
    rfl
  | record fields =>
    obtain ⟨vs, -, rfl⟩ := Option.map_eq_some_iff.1 h
    rfl
  | func f => cases h
  | _ => obtain rfl := Option.some.inj h; rfl

theorem unhashableAmong?_of_toValues? {φ : Type} {items : List (Datum φ)} {vs : List Value}
    (h : toValues? items = some vs) : unhashableAmong? items = unhashableAmong? vs := by
  cases items with
  | nil => obtain rfl := Option.some.inj h; rfl
  | cons d items =>
    obtain ⟨v, hv, h⟩ := Option.bind_eq_some_iff.1 h
    obtain ⟨rest, hrest, h⟩ := Option.bind_eq_some_iff.1 h
    obtain rfl := Option.some.inj h
    rw [unhashableAmong?, unhashableAmong?, unhashable?_of_toValue? hv,
      unhashableAmong?_of_toValues? hrest]

end

end Datum

namespace Names

variable {φ : Type}

/-- No name matches one that comes after it. -/
def Apart (names : List (Datum φ)) : Prop := names.Pairwise fun a b => a.isMatch b = false

/-- Of keys that are apart none matches another, in either order. -/
theorem Apart.symm {names : List Value} (h : Apart names)
    (hkeys : ∀ name ∈ names, Datum.unhashable? name = none) :
    names.Pairwise fun a b => a.isMatch b = false ∧ b.isMatch a = false := by
  refine h.imp_of_mem fun {a b} ha hb hab => ⟨hab, ?_⟩
  by_contra hba
  have hback := Datum.isMatch_symm (hkeys b hb) (by simpa using hba)
  rw [hab] at hback
  cases hback

/-- Keys that are apart stay apart in any order. -/
theorem Apart.perm {names names' : List Value} (h : Apart names) (hperm : names.Perm names')
    (hkeys : ∀ name ∈ names, Datum.unhashable? name = none) : Apart names' := by
  have hboth := (hperm.pairwise_iff (fun h => h.symm)).1 (h.symm hkeys)
  exact hboth.imp And.left

/-- Chosen names have places if all of them are there: each that of the first name it matches. -/
theorem places_eq_ok_iff {scope : SelectScope} {names select : List Value} {positions : List ℕ} :
    places scope names select = .ok positions ↔
      (∀ name ∈ select, contain names name = true) ∧
        positions = select.map fun name => names.findIdx (·.isMatch name) := by
  have hthere : (select.filter fun name => !contain names name).isEmpty = true ↔
      ∀ name ∈ select, contain names name = true := by
    simp [List.filter_eq_nil_iff]
  simp only [places]
  split_ifs with hmissing
  · rw [Except.ok.injEq, and_iff_right (hthere.1 hmissing), eq_comm]
  · exact iff_of_false nofun fun h => hmissing (hthere.2 h.1)

theorem findIdx_lt_length {names : List Value} {name : Value} (h : contain names name = true) :
    names.findIdx (·.isMatch name) < names.length :=
  List.findIdx_lt_length_of_exists (List.any_eq_true.1 h)

theorem lt_of_places {scope : SelectScope} {names select : List Value} {positions : List ℕ}
    (h : places scope names select = .ok positions) {i : ℕ} (hi : i ∈ positions) :
    i < names.length := by
  obtain ⟨hthere, rfl⟩ := places_eq_ok_iff.1 h
  obtain ⟨name, hname, rfl⟩ := List.mem_map.1 hi
  exact findIdx_lt_length (hthere name hname)

/-- Of texts, what is missing can be told. -/
theorem exists_texts {names : List Value} (h : ∀ name ∈ names, ∃ s, name = .text s) :
    ∃ shown, texts names = .ok shown := by
  simp only [texts, mapM_eq_ok_iff]
  refine exists_map_ok fun numbered hnumbered => ?_
  obtain ⟨s, hs⟩ := h numbered.1 (List.fst_mem_of_mem_zipIdx hnumbered)
  exact ⟨s, by simp only [hs]⟩

theorem exists_mistake_of_places {scope : SelectScope} {names select : List Value} {fault : Fault}
    (htexts : ∀ name ∈ names, ∃ s, name = .text s) (h : places scope names select = .error fault) :
    ∃ mistake, fault = .schema mistake := by
  obtain ⟨shown, hshown⟩ := exists_texts htexts
  simp only [places] at h
  split_ifs at h
  rw [blame, hshown] at h
  exact ⟨_, (Except.error.inj h).symm⟩

/-- There are no repeated names if and only if all are apart: by induction on the names that are left,
when some were seen and none was found again. -/
theorem repeats_eq_nil_iff (names : List (Datum φ)) : repeats names = [] ↔ Apart names := by
  have hfold : ∀ (names seen again : List (Datum φ)),
      (names.foldl (fun (state : List (Datum φ) × List (Datum φ)) d =>
        (d :: state.1,
          if state.1.any (Datum.isMatch · d) && !state.2.any (Datum.isMatch · d) then state.2 ++ [d]
          else state.2)) (seen, again)).2 = [] ↔
        again = [] ∧ Apart names ∧ ∀ d ∈ names, ∀ s ∈ seen, s.isMatch d = false := by
    intro names
    induction names with
    | nil => simp [Apart]
    | cons d names ih =>
      intro seen again
      rw [List.foldl_cons, ih]
      by_cases hagain : again = []
      · subst hagain
        by_cases hseen : seen.any (Datum.isMatch · d) = true
        · obtain ⟨s, hs, hmatch⟩ := List.any_eq_true.1 hseen
          simp only [hseen, List.any_nil, Bool.not_false, Bool.and_self, if_true]
          constructor
          · rintro ⟨h, -⟩
            simp at h
          · rintro ⟨-, -, h⟩
            rw [h d (by simp) s hs] at hmatch
            cases hmatch
        · have hnone : ∀ s ∈ seen, s.isMatch d = false := by simpa using hseen
          simp only [hseen, Bool.false_and, Apart, List.pairwise_cons, List.mem_cons, forall_eq_or_imp,
            true_and]
          constructor
          · rintro ⟨-, hrest, hall⟩
            exact ⟨⟨fun e he => (hall e he).1, hrest⟩, hnone, fun e he => (hall e he).2⟩
          · rintro ⟨⟨hd, hrest⟩, -, hall⟩
            exact ⟨rfl, hrest, fun e he => ⟨hd e he, hall e he⟩⟩
      · simp only [hagain, false_and, iff_false, not_and]
        intro h
        split_ifs at h <;> simp_all
  simpa [repeats] using hfold names [] []

theorem forM_requireKey_eq_ok [FunctionText φ] {names : List (Datum φ)} {u : Unit} :
    names.forM Datum.requireKey = .ok u ↔ ∀ name ∈ names, Datum.unhashable? name = none := by
  induction names with
  | nil => simp
  | cons name names ih =>
    have hname : ∀ {v : Unit}, name.requireKey = .ok v ↔ Datum.unhashable? name = none := by
      intro v
      unfold Datum.requireKey
      cases Datum.unhashable? name <;> simp
    have hcons : (name :: names).forM Datum.requireKey =
        (name.requireKey >>= fun _ => names.forM Datum.requireKey) := rfl
    rw [hcons, bind_eq_ok, List.forall_mem_cons]
    exact ⟨fun ⟨_, h, hrest⟩ => ⟨hname.1 h, ih.1 hrest⟩, fun ⟨h, hrest⟩ => ⟨(), hname.2 h, ih.2 hrest⟩⟩

theorem distinct_eq_ok [FunctionText φ] {names names' : List (Datum φ)} :
    distinct names = .ok names' ↔
      names = names' ∧ (∀ name ∈ names, Datum.unhashable? name = none) ∧ Apart names := by
  simp only [distinct, bind_eq_ok, mapError_eq_ok, forM_requireKey_eq_ok]
  rw [← repeats_eq_nil_iff]
  cases hrepeats : repeats names with
  | nil => simp [and_comm]
  | cons _ _ => simp

/-- Whether a name is the one that an argument gives. -/
def isNamed (name : Value) (item : Arg) : Bool := item.toValue?.any fun d => name.isMatch d

theorem isNamed_text (name : Value) (s : String) :
    isNamed name (.text s) = true ↔ name = .text s := by
  simp [isNamed, Datum.toValue?]

/-- Two names that one argument gives match. -/
theorem isMatch_of_isNamed {a b : Value} {item : Arg} (ha : Datum.unhashable? a = none)
    (hb : Datum.unhashable? b = none) (h : isNamed a item = true) (h' : isNamed b item = true) :
    a.isMatch b = true := by
  obtain ⟨v, hv, ha'⟩ := (Option.any_eq_true _ _).1 h
  obtain ⟨w, hw, hb'⟩ := (Option.any_eq_true _ _).1 h'
  obtain rfl : v = w := Option.some.inj (hv.symm.trans hw)
  exact Datum.isMatch_trans ha ha' (Datum.isMatch_symm hb hb')

end Names

end TablePipeline
