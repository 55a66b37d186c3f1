import Mathlib
import TablePipeline.Datum.Key
import TablePipeline.Datum.Mark
import TablePipeline.Proofs.Number

/-!
Keys match like values. On keys that have a hash, being equal goes both ways and is passed on, NaNs
left out: a NaN that has lost its mark matches nothing, so keys that are equal after they were put
aside and read back were equal before. What keys are missing, and whether they have a hash, does not
change on the way.
-/
namespace TablePipeline
namespace Datum

/-- A datum without parts. -/
def isScalar : Value → Bool
  | list _ | tuple _ | record _ => false
  | _ => true

/-- Data without parts are equal if they are numbers of one value, or the same. -/
theorem scalarEqual_iff (a b : Value) :
    scalarEqual a b = true ↔
      (∃ m n, a.number? = some m ∧ b.number? = some n ∧ m.compare? n = some .eq) ∨
      (a = b ∧ a.number? = none ∧ a.isScalar = true) := by
  cases a <;> cases b <;> simp [scalarEqual, number?, isScalar]
  exact nomatch ‹Empty›

theorem isScalar_of_number? {a : Value} {m : Number} (h : a.number? = some m) :
    a.isScalar = true := by
  cases a <;> simp_all [number?, isScalar]

theorem isScalar_of_scalarEqual {a b : Value} (h : scalarEqual a b = true) :
    b.isScalar = true := by
  rcases (scalarEqual_iff a b).1 h with ⟨m, n, _, hb, _⟩ | ⟨rfl, _, ha⟩
  · exact isScalar_of_number? hb
  · exact ha

theorem scalarEqual_symm {a b : Value} (h : scalarEqual a b = true) : scalarEqual b a = true := by
  rcases (scalarEqual_iff a b).1 h with ⟨m, n, ha, hb, hc⟩ | ⟨rfl, _, _⟩
  · exact (scalarEqual_iff b a).2 (.inl ⟨n, m, hb, ha, Number.compare?_eq_symm hc⟩)
  · exact h

theorem scalarEqual_trans {a b c : Value} (h : scalarEqual a b = true)
    (h' : scalarEqual b c = true) : scalarEqual a c = true := by
  rcases (scalarEqual_iff a b).1 h with ⟨m, n, ha, hb, hc⟩ | ⟨rfl, _, _⟩
  · rcases (scalarEqual_iff b c).1 h' with ⟨n', k, hb', hk, hc'⟩ | ⟨rfl, _, _⟩
    · obtain rfl : n = n' := Option.some_inj.1 (hb.symm.trans hb')
      exact (scalarEqual_iff a c).2 (.inl ⟨m, k, ha, hk, Number.compare?_eq_trans hc hc'⟩)
    · exact h
  · exact h'

theorem equal_of_isScalar {a : Value} (b : Value) (h : a.isScalar = true) :
    equal a b = scalarEqual a b := by
  cases a <;> simp_all [isScalar, equal]

theorem sameNaN_iff (a b : Value) :
    sameNaN a b = true ↔ ∃ m : NaNMark, m ≠ .unknown ∧ a = float (.nan m) ∧ b = float (.nan m) := by
  constructor
  · intro h
    unfold sameNaN at h
    split at h
    · rename_i m n
      simp only [Bool.and_eq_true, bne_iff_ne, beq_iff_eq] at h
      exact ⟨m, h.1, rfl, by rw [h.2]⟩
    · cases h
  · rintro ⟨m, hm, rfl, rfl⟩
    simpa [sameNaN] using hm

/-- A NaN equals nothing. -/
theorem equal_nan (m : NaNMark) (a : Value) :
    equal (float (.nan m)) a = false ∧ equal a (float (.nan m)) = false := by
  cases a <;>
    simp [equal, scalarEqual, number?, Number.compare?, Number.isNaN, Binary64.isNaN]

theorem sameNaN_symm {a b : Value} (h : sameNaN a b = true) : sameNaN b a = true := by
  obtain ⟨m, hm, ha, hb⟩ := (sameNaN_iff a b).1 h
  exact (sameNaN_iff b a).2 ⟨m, hm, hb, ha⟩

theorem unhashableAmong?_cons (a : Value) (rest : List Value) :
    unhashableAmong? (a :: rest) = none ↔ unhashable? a = none ∧ unhashableAmong? rest = none := by
  rw [unhashableAmong?]
  cases unhashable? a <;> simp

mutual

theorem equal_symm {a b : Value} (ha : unhashable? a = none) (h : equal a b = true) :
    equal b a = true := by
  cases a with
  | tuple xs =>
    cases b with
    | tuple ys => exact equalItems_symm ha h
    | _ => simp [equal] at h
  | list _ => simp [unhashable?] at ha
  | record _ => simp [unhashable?] at ha
  | _ =>
    rw [equal_of_isScalar _ rfl] at h
    rw [equal_of_isScalar _ (isScalar_of_scalarEqual h)]
    exact scalarEqual_symm h

theorem equalItems_symm {xs ys : List Value} (hx : unhashableAmong? xs = none)
    (h : equalItems xs ys = true) : equalItems ys xs = true := by
  cases xs with
  | nil => cases ys <;> simp_all [equalItems]
  | cons x xs =>
    cases ys with
    | nil => simp [equalItems] at h
    | cons y ys =>
      obtain ⟨hx, hxs⟩ := (unhashableAmong?_cons x xs).1 hx
      simp only [equalItems, Bool.and_eq_true, Bool.or_eq_true] at h ⊢
      exact ⟨h.1.imp sameNaN_symm (equal_symm hx), equalItems_symm hxs h.2⟩

end

mutual

theorem equal_trans {a b c : Value} (ha : unhashable? a = none) (h : equal a b = true)
    (h' : equal b c = true) : equal a c = true := by
  cases a with
  | tuple xs =>
    cases b with
    | tuple ys =>
      cases c with
      | tuple zs => exact equalItems_trans ha h h'
      | _ => simp [equal] at h'
    | _ => simp [equal] at h
  | list _ => simp [unhashable?] at ha
  | record _ => simp [unhashable?] at ha
  | _ =>
    rw [equal_of_isScalar _ rfl] at h ⊢
    rw [equal_of_isScalar _ (isScalar_of_scalarEqual h)] at h'
    exact scalarEqual_trans h h'

theorem equalItems_trans {xs ys zs : List Value} (hx : unhashableAmong? xs = none)
    (h : equalItems xs ys = true) (h' : equalItems ys zs = true) : equalItems xs zs = true := by
  cases xs with
  | nil => cases ys <;> simp_all [equalItems]
  | cons x xs =>
    cases ys with
    | nil => simp [equalItems] at h
    | cons y ys =>
      cases zs with
      | nil => simp [equalItems] at h'
      | cons z zs =>
        obtain ⟨hx, hxs⟩ := (unhashableAmong?_cons x xs).1 hx
        simp only [equalItems, Bool.and_eq_true, Bool.or_eq_true] at h h' ⊢
        refine ⟨?_, equalItems_trans hxs h.2 h'.2⟩
        rcases h.1 with hm | he
        · obtain ⟨m, _, rfl, rfl⟩ := (sameNaN_iff x y).1 hm
          exact h'.1.imp_right fun he => absurd he (by simp [(equal_nan m z).1])
        · rcases h'.1 with hm | he'
          · obtain ⟨m, _, rfl, rfl⟩ := (sameNaN_iff y z).1 hm
            exact absurd he (by simp [(equal_nan m x).2])
          · exact .inr (equal_trans hx he he')

end

/-! ### Putting aside -/

mutual

theorem unhashable?_forget (all : Bool) (a : Value) :
    unhashable? (forget all a) = unhashable? a := by
  cases a with
  | tuple xs => exact unhashableAmong?_forgetItems all xs
  | float x =>
    cases x with
    | nan m => cases m <;> rfl
    | _ => rfl
  | _ => rfl

theorem unhashableAmong?_forgetItems (all : Bool) (xs : List Value) :
    unhashableAmong? (forgetItems all xs) = unhashableAmong? xs := by
  cases xs with
  | nil => rfl
  | cons x xs =>
    simp only [forgetItems, unhashableAmong?]
    rw [unhashable?_forget all x, unhashableAmong?_forgetItems all xs]

end

@[simp] theorem isNull_forget (all : Bool) (a : Value) : (forget all a).isNull = a.isNull := by
  cases a with
  | float x =>
    cases x with
    | nan m => cases m <;> rfl
    | _ => rfl
  | _ => rfl

theorem forgetItems_eq_map (all : Bool) (xs : List Value) :
    forgetItems all xs = xs.map (forget all) := by
  induction xs with
  | nil => rfl
  | cons x xs ih => rw [forgetItems, ih]; rfl

theorem getD_forgetItems (all : Bool) (xs : List Value) (i : ℕ) :
    (forgetItems all xs).getD i .null = forget all (xs.getD i .null) := by
  rw [forgetItems_eq_map, List.getD_eq_getElem?_getD, List.getD_eq_getElem?_getD,
    List.getElem?_map]
  cases xs[i]? <;> rfl

theorem isScalar_forget (all : Bool) (a : Value) : (forget all a).isScalar = a.isScalar := by
  cases a with
  | float x =>
    cases x with
    | nan m => cases m <;> rfl
    | _ => rfl
  | _ => rfl

/-- Only a NaN is another datum once its mark is forgotten. -/
theorem forget_of_isScalar {a : Value} (ha : a.isScalar = true) :
    forget true a = a ∨ forget true a = float (.nan .unknown) := by
  cases a with
  | float x =>
    cases x with
    | nan m => cases m <;> simp [forget]
    | _ => simp [forget]
  | _ => simp_all [forget, isScalar]

theorem scalarEqual_of_forget {a b : Value} (ha : a.isScalar = true)
    (h : equal (forget true a) (forget true b) = true) : equal a b = true := by
  have hb : b.isScalar = true := by
    rw [equal_of_isScalar _ (by rw [isScalar_forget, ha])] at h
    simpa [isScalar_forget] using isScalar_of_scalarEqual h
  rcases forget_of_isScalar ha with ha | ha
  · rcases forget_of_isScalar hb with hb | hb
    · rwa [ha, hb] at h
    · simp [hb, (equal_nan .unknown _).2] at h
  · simp [ha, (equal_nan .unknown _).1] at h

theorem not_sameNaN_forget (a b : Value) : sameNaN (forget true a) (forget true b) = false := by
  rw [Bool.eq_false_iff]
  intro h
  obtain ⟨m, hm, ha, _⟩ := (sameNaN_iff _ _).1 h
  cases a with
  | float x =>
    cases x with
    | nan m' => cases m' <;> simp_all [forget]
    | _ => simp [forget] at ha
  | _ => simp [forget] at ha

mutual

/-- What is equal without marks is equal with them. -/
theorem equal_of_forget {a b : Value} (ha : unhashable? a = none)
    (h : equal (forget true a) (forget true b) = true) : equal a b = true := by
  cases a with
  | tuple xs =>
    cases b with
    | tuple ys => exact equalItems_of_forgetItems ha h
    | float x =>
      cases x with
      | nan m => cases m <;> simp [equal, forget] at h
      | _ => simp [equal, forget] at h
    | _ => simp [equal, forget] at h
  | list _ => simp [unhashable?] at ha
  | record _ => simp [unhashable?] at ha
  | _ => exact scalarEqual_of_forget rfl h

theorem equalItems_of_forgetItems {xs ys : List Value} (hx : unhashableAmong? xs = none)
    (h : equalItems (forgetItems true xs) (forgetItems true ys) = true) :
    equalItems xs ys = true := by
  cases xs with
  | nil => cases ys <;> simp_all [equalItems, forgetItems]
  | cons x xs =>
    cases ys with
    | nil => simp [equalItems, forgetItems] at h
    | cons y ys =>
      obtain ⟨hx, hxs⟩ := (unhashableAmong?_cons x xs).1 hx
      simp only [equalItems, forgetItems, not_sameNaN_forget, Bool.false_or, Bool.and_eq_true,
        Bool.or_eq_true] at h ⊢
      exact ⟨.inr (equal_of_forget hx h.1), equalItems_of_forgetItems hxs h.2⟩

end

/-! ### NaNs -/

mutual

/-- Whether a datum is a NaN, or a tuple with one in it. -/
def holdsNaN : Value → Bool
  | float x => x.isNaN
  | tuple items => anyHoldsNaN items
  | _ => false

def anyHoldsNaN : List Value → Bool
  | [] => false
  | d :: rest => holdsNaN d || anyHoldsNaN rest

end

theorem scalarEqual_refl {a : Value} (ha : a.isScalar = true) (hnan : holdsNaN a = false) :
    scalarEqual a a = true := by
  cases a with
  | bool b => simp [scalarEqual, number?, Number.compare?_eq]
  | int i => simp [scalarEqual, number?, Number.compare?_eq]
  | float x =>
    obtain ⟨y, hy⟩ := Number.exists_rank? (a := .float x) hnan
    simp [scalarEqual, number?, Number.compare?_eq, hy]
  | list _ => simp [isScalar] at ha
  | tuple _ => simp [isScalar] at ha
  | record _ => simp [isScalar] at ha
  | func f => exact f.elim
  | _ => simp [scalarEqual]

mutual

/-- What can be looked up and has no NaN in it equals itself. -/
theorem equal_refl {a : Value} (ha : unhashable? a = none) (hnan : holdsNaN a = false) :
    equal a a = true := by
  cases a with
  | tuple xs => exact equalItems_refl ha hnan
  | list _ => simp [unhashable?] at ha
  | record _ => simp [unhashable?] at ha
  | _ => exact (equal_of_isScalar _ rfl).trans (scalarEqual_refl rfl hnan)

theorem equalItems_refl {xs : List Value} (hx : unhashableAmong? xs = none)
    (hnan : anyHoldsNaN xs = false) : equalItems xs xs = true := by
  cases xs with
  | nil => rfl
  | cons x xs =>
    obtain ⟨hx, hxs⟩ := (unhashableAmong?_cons x xs).1 hx
    obtain ⟨hn, hns⟩ : holdsNaN x = false ∧ anyHoldsNaN xs = false := by
      simpa [anyHoldsNaN] using hnan
    simp [equalItems, equal_refl hx hn, equalItems_refl hxs hns]

end

mutual

/-- What can be looked up and has no NaN in it is read back as it was. -/
theorem forget_of_holdsNaN {a : Value} (all : Bool) (ha : unhashable? a = none)
    (hnan : holdsNaN a = false) : forget all a = a := by
  cases a with
  | tuple xs => exact congrArg tuple (forgetItems_of_anyHoldsNaN all ha hnan)
  | list _ => simp [unhashable?] at ha
  | record _ => simp [unhashable?] at ha
  | float x =>
    cases x with
    | nan m => simp [holdsNaN, Binary64.isNaN] at hnan
    | _ => rfl
  | _ => rfl

theorem forgetItems_of_anyHoldsNaN {xs : List Value} (all : Bool)
    (hx : unhashableAmong? xs = none) (hnan : anyHoldsNaN xs = false) :
    forgetItems all xs = xs := by
  cases xs with
  | nil => rfl
  | cons x xs =>
    obtain ⟨hx, hxs⟩ := (unhashableAmong?_cons x xs).1 hx
    obtain ⟨hn, hns⟩ : holdsNaN x = false ∧ anyHoldsNaN xs = false := by
      simpa [anyHoldsNaN] using hnan
    rw [forgetItems, forget_of_holdsNaN all hx hn, forgetItems_of_anyHoldsNaN all hxs hns]

end

mutual

theorem holdsNaN_forget (all : Bool) (a : Value) : holdsNaN (forget all a) = holdsNaN a := by
  cases a with
  | tuple xs => exact anyHoldsNaN_forgetItems all xs
  | float x =>
    cases x with
    | nan m => cases m <;> cases all <;> rfl
    | _ => rfl
  | _ => rfl

theorem anyHoldsNaN_forgetItems (all : Bool) (xs : List Value) :
    anyHoldsNaN (forgetItems all xs) = anyHoldsNaN xs := by
  cases xs with
  | nil => rfl
  | cons x xs =>
    simp only [forgetItems, anyHoldsNaN]
    rw [holdsNaN_forget all x, anyHoldsNaN_forgetItems all xs]

end

theorem holdsNaN_of_scalarEqual {a b : Value} (h : scalarEqual a b = true) :
    holdsNaN a = false ∧ holdsNaN b = false := by
  have hkind : ∀ {c : Value}, holdsNaN c = true → c.isScalar = true → ∃ m, c = float (.nan m) := by
    intro c hnan hscalar
    cases c with
    | float x => cases x <;> simp_all [holdsNaN, Binary64.isNaN]
    | _ => simp_all [holdsNaN, isScalar]
  have hb := isScalar_of_scalarEqual h
  have ha := isScalar_of_scalarEqual (scalarEqual_symm h)
  have hequal : equal a b = true := (equal_of_isScalar b ha).trans h
  constructor
  · by_contra hnan
    obtain ⟨m, rfl⟩ := hkind (by simpa using hnan) ha
    simp [(equal_nan m b).1] at hequal
  · by_contra hnan
    obtain ⟨m, rfl⟩ := hkind (by simpa using hnan) hb
    simp [(equal_nan m a).2] at hequal

mutual

/-- Equal data have NaNs in them alike. -/
theorem holdsNaN_of_equal {a b : Value} (ha : unhashable? a = none) (h : equal a b = true) :
    holdsNaN a = holdsNaN b := by
  cases a with
  | tuple xs =>
    cases b with
    | tuple ys => exact anyHoldsNaN_of_equalItems ha h
    | _ => simp [equal] at h
  | list _ => simp [unhashable?] at ha
  | record _ => simp [unhashable?] at ha
  | _ =>
    obtain ⟨hfirst, hsecond⟩ := holdsNaN_of_scalarEqual ((equal_of_isScalar b rfl).symm.trans h)
    rw [hfirst, hsecond]

theorem anyHoldsNaN_of_equalItems {xs ys : List Value} (hx : unhashableAmong? xs = none)
    (h : equalItems xs ys = true) : anyHoldsNaN xs = anyHoldsNaN ys := by
  cases xs with
  | nil =>
    cases ys with
    | nil => rfl
    | cons _ _ => simp [equalItems] at h
  | cons x xs =>
    cases ys with
    | nil => simp [equalItems] at h
    | cons y ys =>
      obtain ⟨hx, hxs⟩ := (unhashableAmong?_cons x xs).1 hx
      simp only [equalItems, Bool.and_eq_true, Bool.or_eq_true] at h
      have hfirst : holdsNaN x = holdsNaN y := by
        rcases h.1 with hsame | hequal
        · obtain ⟨m, -, rfl, rfl⟩ := (sameNaN_iff x y).1 hsame
          rfl
        · exact holdsNaN_of_equal hx hequal
      rw [anyHoldsNaN, anyHoldsNaN, hfirst, anyHoldsNaN_of_equalItems hxs h.2]

end

end Datum

namespace Key

theorem check_eq_ok_iff (key : Key) :
    key.check = .ok () ↔ Datum.unhashableAmong? key = none := by
  simp only [check, Datum.requireKey, Datum.unhashable?]
  cases Datum.unhashableAmong? key <;> simp

theorem exists_of_check_ne_ok {key : Key} (h : key.check ≠ .ok ()) :
    ∃ kind, key.check = .error (.unhashable kind) := by
  simp only [check, Datum.requireKey] at h ⊢
  cases hkind : (Datum.tuple key).unhashable? with
  | none => simp [hkind] at h
  | some kind => exact ⟨kind, rfl⟩

theorem equal_symm {a b : Key} (ha : a.check = .ok ()) (h : equal a b = true) :
    equal b a = true :=
  Datum.equalItems_symm ((check_eq_ok_iff a).1 ha) h

theorem equal_trans {a b c : Key} (ha : a.check = .ok ()) (h : equal a b = true)
    (h' : equal b c = true) : equal a c = true :=
  Datum.equalItems_trans ((check_eq_ok_iff a).1 ha) h h'

@[simp] theorem check_forget (all : Bool) (key : Key) :
    check (Datum.forgetItems all key) = check key := by
  simp only [check, Datum.requireKey, Datum.unhashable?, Datum.unhashableAmong?_forgetItems]

@[simp] theorem hasNull_forget (all : Bool) (key : Key) :
    hasNull (Datum.forgetItems all key) = hasNull key := by
  simp [hasNull, Datum.forgetItems_eq_map, List.any_map, Function.comp_def]

theorem equal_of_forget {a b : Key} (ha : a.check = .ok ())
    (h : equal (Datum.forgetItems true a) (Datum.forgetItems true b) = true) :
    equal a b = true :=
  Datum.equalItems_of_forgetItems ((check_eq_ok_iff a).1 ha) h

/-- Whether a part of a key is a NaN. -/
def hasNaN (key : Key) : Bool := Datum.anyHoldsNaN key

theorem equal_refl {a : Key} (ha : a.check = .ok ()) (hnan : a.hasNaN = false) :
    equal a a = true :=
  Datum.equalItems_refl ((check_eq_ok_iff a).1 ha) hnan

theorem forget_of_hasNaN {key : Key} (all : Bool) (h : key.check = .ok ())
    (hnan : key.hasNaN = false) : Datum.forgetItems all key = key :=
  Datum.forgetItems_of_anyHoldsNaN all ((check_eq_ok_iff key).1 h) hnan

@[simp] theorem hasNaN_forget (all : Bool) (key : Key) :
    hasNaN (Datum.forgetItems all key) = hasNaN key :=
  Datum.anyHoldsNaN_forgetItems all key

theorem hasNaN_of_equal {a b : Key} (ha : a.check = .ok ()) (h : equal a b = true) :
    a.hasNaN = b.hasNaN :=
  Datum.anyHoldsNaN_of_equalItems ((check_eq_ok_iff a).1 ha) h

end Key

end TablePipeline
