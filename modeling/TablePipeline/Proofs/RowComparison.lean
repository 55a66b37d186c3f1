import Mathlib
import TablePipeline.Proofs.DayOrder
import TablePipeline.Proofs.Rolling
import TablePipeline.Proofs.RowOrder

/-!
Comparing rows by an order that was declared. In columns that hold integers, texts or days, or are
missing a value, rows have a total order: they are compared at the first column in which they differ, a
missing value comes before every other one, and a descending column goes the other way round. So
comparing goes both ways, is passed on, and ends in a tie only for rows that agree in all columns.
-/
namespace TablePipeline

/-! ### Texts by their codes -/

namespace Text

theorem codeOf_of_surrogate {c : Char} (h : isSurrogate (c.toNat - surrogatePlane) = true) :
    codeOf c = c.toNat - surrogatePlane := by
  rw [codeOf, surrogate?, if_pos h, Option.getD_some]

theorem codeOf_of_plain {c : Char} (h : ¬isSurrogate (c.toNat - surrogatePlane) = true) :
    codeOf c = c.toNat := by
  rw [codeOf, surrogate?, if_neg h, Option.getD_none]

/-- No character has the code of half of a pair, so the two kinds of codes are apart. -/
theorem codeOf_ne_of_plain {c d : Char} (hc : isSurrogate (c.toNat - surrogatePlane) = true)
    (hd : ¬isSurrogate (d.toNat - surrogatePlane) = true) : codeOf c ≠ codeOf d := by
  rw [codeOf_of_surrogate hc, codeOf_of_plain hd]
  intro hsame
  rw [hsame, isSurrogate, Bool.and_eq_true, decide_eq_true_iff, decide_eq_true_iff] at hc
  have hvalid : d.toNat < 0xD800 ∨ 0xDFFF < d.toNat ∧ d.toNat < 0x110000 := d.valid
  omega

theorem surrogatePlane_lt {c : Char} (h : isSurrogate (c.toNat - surrogatePlane) = true) :
    surrogatePlane < c.toNat := by
  rw [isSurrogate, Bool.and_eq_true, decide_eq_true_iff, decide_eq_true_iff] at h
  omega

theorem codeOf_injective : Function.Injective codeOf := by
  intro c d hsame
  apply Char.toNat_inj.1
  by_cases hc : isSurrogate (c.toNat - surrogatePlane) = true <;>
    by_cases hd : isSurrogate (d.toNat - surrogatePlane) = true
  · rw [codeOf_of_surrogate hc, codeOf_of_surrogate hd] at hsame
    have hcplane := surrogatePlane_lt hc
    have hdplane := surrogatePlane_lt hd
    omega
  · exact absurd hsame (codeOf_ne_of_plain hc hd)
  · exact absurd hsame.symm (codeOf_ne_of_plain hd hc)
  · rwa [codeOf_of_plain hc, codeOf_of_plain hd] at hsame

theorem codes_inj {s t : String} : codes s = codes t ↔ s = t :=
  ((List.map_injective_iff.2 codeOf_injective).eq_iff).trans String.toList_inj

theorem compare_lt_iff (xs ys : List ℕ) : compare xs ys = .lt ↔ xs < ys := by
  induction xs generalizing ys with
  | nil => cases ys <;> simp
  | cons x xs ih =>
    cases ys with
    | nil => simp
    | cons y ys =>
      simp [List.compare_cons_cons, Ordering.then_eq_lt, ih, List.cons_lt_cons_iff, compare_lt_iff_lt]

end Text

/-! ### Values of one kind -/

/-- What a column holds where it is not missing a value. -/
inductive ColumnKind where
  | integers
  | texts
  | days

/-- A value of a kind, or a missing one. -/
inductive ColumnKind.Holds : ColumnKind → Value → Prop
  | missing (k : ColumnKind) : Holds k .null
  | integer (i : ℤ) : Holds .integers (.int i)
  | text (s : String) : Holds .texts (.text s)
  | day (d : Date) : Holds .days (.date d)

/-- What comes before what in an ascending column: a missing value before every other one, integers by
size, texts by their codes, days by year, month and day. -/
inductive Datum.Before : Value → Value → Prop
  | missing {v : Value} (h : v.isNull = false) : Before .null v
  | integers {i j : ℤ} (h : i < j) : Before (.int i) (.int j)
  | texts {s t : String} (h : Text.codes s < Text.codes t) : Before (.text s) (.text t)
  | days {d e : Date} (h : d.Before e) : Before (.date d) (.date e)

namespace Datum

theorem before_null {v : Value} : Before .null v ↔ v.isNull = false :=
  ⟨fun | .missing h => h, .missing⟩

theorem not_before_null {v : Value} : ¬v.Before .null := by
  rintro ⟨h⟩
  cases h

theorem before_int {i j : ℤ} : Before (.int i) (.int j) ↔ i < j :=
  ⟨fun | .integers h => h, .integers⟩

theorem before_text {s t : String} : Before (.text s) (.text t) ↔ Text.codes s < Text.codes t :=
  ⟨fun | .texts h => h, .texts⟩

theorem before_date {d e : Date} : Before (.date d) (.date e) ↔ d.Before e :=
  ⟨fun | .days h => h, .days⟩

end Datum

namespace ColumnKind

/-- The order of the values of a kind. -/
def order : ColumnKind → Value → Value → Ordering
  | integers => compareOn fun v => match v with | .int i => i | _ => 0
  | texts => compareOn fun v => Text.codes (v.text?.getD "")
  | days => compareOn fun v => match v with | .date d => d.ordinal | _ => 0

instance (k : ColumnKind) : Std.TransCmp k.order := by
  cases k <;> exact inferInstanceAs (Std.TransCmp (compareOn _))

variable {k : ColumnKind} {x y : Value}

theorem Holds.forget (h : k.Holds x) (all : Bool) : x.forget all = x := by
  cases h <;> rfl

/-- Values of one kind can be compared, and are compared by its order. -/
theorem orderedBy_order {vs : List Value} (h : ∀ v ∈ vs, k.Holds v) : OrderedBy k.order vs := by
  intro x hx y hy hxnull hynull
  rw [(h x hx).forget, (h y hy).forget]
  cases h x hx with
  | missing => cases hxnull
  | integer i =>
    cases h y hy with
    | missing => cases hynull
    | integer j =>
      rw [RollScale.less_eq (k := .integers) rfl rfl, ← Relation.holds_lt_compare]
      rfl
  | text s =>
    cases h y hy with
    | missing => cases hynull
    | text t => rfl
  | day d =>
    cases h y hy with
    | missing => cases hynull
    | day e => rfl

theorem missingFirst_eq_iff (hx : k.Holds x) (hy : k.Holds y) :
    missingFirst k.order x y = .eq ↔ x = y := by
  cases hx with
  | missing => cases hy <;> simp [missingFirst, Datum.isNull]
  | integer i => cases hy <;> simp [missingFirst, Datum.isNull, order, compareOn]
  | text s =>
    cases hy <;> simp [missingFirst, Datum.isNull, order, compareOn, Datum.text?, Text.codes_inj]
  | day d => cases hy <;> simp [missingFirst, Datum.isNull, order, compareOn, Date.ordinal_inj]

theorem missingFirst_lt_iff (hx : k.Holds x) (hy : k.Holds y) :
    missingFirst k.order x y = .lt ↔ x.Before y := by
  cases hx with
  | missing => cases hy <;> simp [missingFirst, Datum.isNull, Datum.before_null]
  | integer i =>
    cases hy <;> simp [missingFirst, Datum.isNull, order, compareOn, Datum.before_int,
      compare_lt_iff_lt, Datum.not_before_null]
  | text s =>
    cases hy <;> simp [missingFirst, Datum.isNull, order, compareOn, Datum.text?, Datum.before_text,
      Text.compare_lt_iff, Datum.not_before_null]
  | day d =>
    cases hy <;> simp [missingFirst, Datum.isNull, order, compareOn, Datum.before_date,
      compare_lt_iff_lt, Date.ordinal_lt_iff, Datum.not_before_null]

end ColumnKind

/-! ### Rows of such values -/

/-- A row that an order can compare: it has all columns of the order, and in each of them a value of the
column's kind or a missing one. -/
def SortOrder.Fits (order : SortOrder) (kinds : ℕ → ColumnKind) (row : Row) : Prop :=
  ∀ key ∈ order, ∃ v, row[key.slot]? = some v ∧ (kinds key.slot).Holds v

/-- Whether a key puts one row before another. A descending key is the reverse of an ascending one. -/
def SortKey.Puts (key : SortKey) (a b : Row) : Prop :=
  ∃ x y, a[key.slot]? = some x ∧ b[key.slot]? = some y ∧
    if key.descending then y.Before x else x.Before y

/-- The lexicographic order: whether the first key for which two rows do not agree puts one before the
other. -/
def SortOrder.Puts : SortOrder → Row → Row → Prop
  | [], _, _ => False
  | key :: rest, a, b => key.Puts a b ∨ a[key.slot]? = b[key.slot]? ∧ SortOrder.Puts rest a b

/-- Whether comparing finds one row before another, or a tie. -/
def SortOrder.AtMost (order : SortOrder) (a b : Row) : Prop :=
  ∃ o, order.compare a b = .ok o ∧ o.isLE = true

/-- The key in the other direction. -/
def SortKey.reversed (key : SortKey) : SortKey := { key with descending := !key.descending }

/-- The order of each column. -/
def columnOrder (kinds : ℕ → ColumnKind) (slot : ℕ) : Value → Value → Ordering := (kinds slot).order

section Rows

variable {kinds : ℕ → ColumnKind} {a b : Row}

instance (slot : ℕ) : Std.TransCmp (columnOrder kinds slot) :=
  inferInstanceAs (Std.TransCmp (kinds slot).order)

namespace SortKey

variable {key : SortKey} {x y : Value}

theorem rowOrder_of_values (hx : a[key.slot]? = some x) (hy : b[key.slot]? = some y) :
    key.rowOrder (columnOrder kinds) a b =
      if key.descending then (missingFirst (kinds key.slot).order x y).swap
      else missingFirst (kinds key.slot).order x y := by
  rw [rowOrder, List.getD_eq_getElem?_getD, List.getD_eq_getElem?_getD, hx, hy]
  rfl

/-- Values of one kind are always compared, and by its order. -/
theorem compare_of_values (hx : a[key.slot]? = some x) (hy : b[key.slot]? = some y)
    (hxkind : (kinds key.slot).Holds x) (hykind : (kinds key.slot).Holds y) :
    key.compare a b = .ok (key.rowOrder (columnOrder kinds) a b) := by
  have hkinds : ∀ v ∈ [x, y], (kinds key.slot).Holds v := by
    simp [hxkind, hykind]
  have hvalues := compareMissingFirst_eq (ColumnKind.orderedBy_order hkinds) List.mem_cons_self
    (by simp : y ∈ [x, y])
  rw [hxkind.forget, hykind.forget] at hvalues
  rw [rowOrder_of_values hx hy]
  simp only [compare, Row.cell, hx, hy, ok_bind, hvalues, Except.mapError]

theorem rowOrder_reversed (key : SortKey) (a b : Row) :
    key.reversed.rowOrder (columnOrder kinds) a b = key.rowOrder (columnOrder kinds) b a := by
  have hswap : ∀ x y, missingFirst (columnOrder kinds key.slot) x y =
    (missingFirst (columnOrder kinds key.slot) y x).swap := fun _ _ => Std.OrientedCmp.eq_swap
  rcases key with ⟨_ | _, slot⟩
  · exact (hswap _ _).symm
  · exact hswap _ _

theorem compare_reversed (hx : a[key.slot]? = some x) (hy : b[key.slot]? = some y)
    (hxkind : (kinds key.slot).Holds x) (hykind : (kinds key.slot).Holds y) :
    key.reversed.compare a b = key.compare b a := by
  have hreversed : key.reversed.compare a b = .ok (key.reversed.rowOrder (columnOrder kinds) a b) :=
    compare_of_values hx hy hxkind hykind
  rw [hreversed, compare_of_values hy hx hykind hxkind, rowOrder_reversed]

theorem rowOrder_eq_iff (hx : a[key.slot]? = some x) (hy : b[key.slot]? = some y)
    (hxkind : (kinds key.slot).Holds x) (hykind : (kinds key.slot).Holds y) :
    key.rowOrder (columnOrder kinds) a b = .eq ↔ a[key.slot]? = b[key.slot]? := by
  rw [rowOrder_of_values hx hy, hx, hy, Option.some_inj, ← ColumnKind.missingFirst_eq_iff hxkind hykind]
  cases key.descending <;> simp

theorem rowOrder_lt_iff (hx : a[key.slot]? = some x) (hy : b[key.slot]? = some y)
    (hxkind : (kinds key.slot).Holds x) (hykind : (kinds key.slot).Holds y) :
    key.rowOrder (columnOrder kinds) a b = .lt ↔ key.Puts a b := by
  have hputs : key.Puts a b ↔ if key.descending then y.Before x else x.Before y := by
    simp [Puts, hx, hy]
  rw [rowOrder_of_values hx hy, hputs, ← ColumnKind.missingFirst_lt_iff hxkind hykind,
    ← ColumnKind.missingFirst_lt_iff hykind hxkind]
  have hswap : missingFirst (kinds key.slot).order y x =
    (missingFirst (kinds key.slot).order x y).swap := Std.OrientedCmp.eq_swap
  rw [hswap]
  cases key.descending <;> simp

end SortKey

namespace SortOrder

variable {order : SortOrder}

theorem Fits.tail {key : SortKey} (h : Fits (key :: order) kinds a) : order.Fits kinds a :=
  fun k hk => h k (List.mem_cons_of_mem key hk)

theorem rowOrder_eq_iff (ha : order.Fits kinds a) (hb : order.Fits kinds b) :
    order.rowOrder (columnOrder kinds) a b = .eq ↔
      ∀ key ∈ order, a[key.slot]? = b[key.slot]? := by
  induction order with
  | nil => simp [rowOrder]
  | cons key rest ih =>
    obtain ⟨x, hx, hxkind⟩ := ha key List.mem_cons_self
    obtain ⟨y, hy, hykind⟩ := hb key List.mem_cons_self
    rw [rowOrder, compareLex_eq_eq, SortKey.rowOrder_eq_iff hx hy hxkind hykind, ih ha.tail hb.tail,
      List.forall_mem_cons]

/-- By induction on the keys: the first decides, or it ends in a tie and the others do. -/
theorem rowOrder_lt_iff (ha : order.Fits kinds a) (hb : order.Fits kinds b) :
    order.rowOrder (columnOrder kinds) a b = .lt ↔ order.Puts a b := by
  induction order with
  | nil => simp [rowOrder, Puts]
  | cons key rest ih =>
    obtain ⟨x, hx, hxkind⟩ := ha key List.mem_cons_self
    obtain ⟨y, hy, hykind⟩ := hb key List.mem_cons_self
    rw [rowOrder, compareLex, Ordering.then_eq_lt, SortKey.rowOrder_lt_iff hx hy hxkind hykind,
      SortKey.rowOrder_eq_iff hx hy hxkind hykind, ih ha.tail hb.tail, Puts]

/-- Comparing rows that fit does not fail, and follows the order of their columns: by induction on the
keys. -/
theorem Fits.compare_eq (ha : order.Fits kinds a) (hb : order.Fits kinds b) :
    order.compare a b = .ok (order.rowOrder (columnOrder kinds) a b) := by
  induction order with
  | nil => rfl
  | cons key rest ih =>
    obtain ⟨x, hx, hxkind⟩ := ha key List.mem_cons_self
    obtain ⟨y, hy, hykind⟩ := hb key List.mem_cons_self
    rw [compare, SortKey.compare_of_values hx hy hxkind hykind, ok_bind, ih ha.tail hb.tail, rowOrder,
      compareLex]
    cases key.rowOrder (columnOrder kinds) a b <;> rfl

end SortOrder

end Rows

/-! ### Comparing by a declared order -/

namespace SortOrder

variable {c : Catalog} {order : SortOrder}

/-- What comparing means, for an order that was declared by signs and names of columns. Rows that fit it
are always compared, and the other way round with the opposite result. The result is that of the first
column in which they differ, and a tie only if they agree in all of them; a column that descends is the
exact reverse of one that ascends, where a missing value comes first. A row that is at most a second one,
which is at most a third, is at most the third. -/
theorem compare_lexicographic {arg : Arg} (harg : ofArg c arg = .ok order) (kinds : ℕ → ColumnKind) :
    (order ≠ [] ∧ ∃ columns : List (SortKey × String), columns.map Prod.fst = order ∧
      arg.items? = some (columns.flatMap fun column => declared column.1 column.2) ∧
      ∀ column ∈ columns, c.slotNamed? column.2 = some column.1.slot) ∧
    ∀ a b, order.Fits kinds a → order.Fits kinds b →
      (∃ o, order.compare a b = .ok o ∧ order.compare b a = .ok o.swap ∧
        (o = .lt ↔ order.Puts a b) ∧ (o = .gt ↔ order.Puts b a) ∧
        (o = .eq ↔ ∀ key ∈ order, a[key.slot]? = b[key.slot]?)) ∧
      (∀ key ∈ order, key.reversed.compare a b = key.compare b a) ∧
      ∀ d, order.Fits kinds d → order.AtMost a b → order.AtMost b d → order.AtMost a d := by
  refine ⟨columns_of_ofArg harg, fun a b ha hb => ⟨?_, fun key hkey => ?_, fun d hd hab hbd => ?_⟩⟩
  · have hswap : order.rowOrder (columnOrder kinds) b a =
      (order.rowOrder (columnOrder kinds) a b).swap := Std.OrientedCmp.eq_swap
    refine ⟨_, ha.compare_eq hb, (hb.compare_eq ha).trans (congrArg _ hswap), rowOrder_lt_iff ha hb,
      ?_, rowOrder_eq_iff ha hb⟩
    rw [← rowOrder_lt_iff hb ha, hswap, Ordering.swap_eq_lt]
  · obtain ⟨x, hx, hxkind⟩ := ha key hkey
    obtain ⟨y, hy, hykind⟩ := hb key hkey
    exact SortKey.compare_reversed hx hy hxkind hykind
  · obtain ⟨o, hao, hle⟩ := hab
    obtain ⟨p, hbp, hle'⟩ := hbd
    obtain rfl := Except.ok.inj ((ha.compare_eq hb).symm.trans hao)
    obtain rfl := Except.ok.inj ((hb.compare_eq hd).symm.trans hbp)
    exact ⟨_, ha.compare_eq hd, Std.TransCmp.isLE_trans hle hle'⟩

/-! ### Numbers that ascend and texts that descend -/

def numbersAndTexts : Catalog where
  slots := [{ name := .text "n" }, { name := .text "t" }]
  order := [0, 1]
  sourceWidth := 2

def numbersThenTexts : ℕ → ColumnKind
  | 0 => .integers
  | _ => .texts

/-- Rows that are missing values in different columns. A missing text comes last where texts descend. -/
theorem compare_lexicographic_missing :
    let order : SortOrder := [⟨false, 0⟩, ⟨true, 1⟩]
    ofArg numbersAndTexts (.list [.text "+", .text "n", .text "-", .text "t"]) = .ok order ∧
      order.compare [.int 1, .text "a"] [.int 1, .null] = .ok .lt ∧
      order.AtMost [.null, .text "b"] [.int 1, .null] := by
  intro order
  have hdeclared : ofArg numbersAndTexts (.list [.text "+", .text "n", .text "-", .text "t"]) =
    .ok order := rfl
  obtain ⟨-, hcompare⟩ := compare_lexicographic hdeclared numbersThenTexts
  have hfits : ∀ x y, ColumnKind.integers.Holds x → ColumnKind.texts.Holds y →
      order.Fits numbersThenTexts [x, y] := by
    intro x y hx hy
    simp only [Fits, order, List.forall_mem_cons]
    exact ⟨⟨x, rfl, hx⟩, ⟨y, rfl, hy⟩, by simp⟩
  have hfirst := hfits _ _ (.missing _) (.text "b")
  have hsecond := hfits _ _ (.integer 1) (.text "a")
  have hthird := hfits _ _ (.integer 1) (.missing _)
  -- The numbers are the same, and of the texts the missing one comes last.
  obtain ⟨⟨o, ho, -, hlt, -⟩, -⟩ := hcompare _ _ hsecond hthird
  obtain rfl := hlt.2 (.inr ⟨rfl, .inl ⟨_, _, rfl, rfl, .missing rfl⟩⟩)
  -- A missing number comes before every other one.
  obtain ⟨⟨p, hp, -, hlt', -⟩, -, htrans⟩ := hcompare _ _ hfirst hsecond
  obtain rfl := hlt'.2 (.inl ⟨_, _, rfl, rfl, .missing rfl⟩)
  exact ⟨hdeclared, ho, htrans _ hthird ⟨_, hp, rfl⟩ ⟨_, ho, rfl⟩⟩

end SortOrder

end TablePipeline
