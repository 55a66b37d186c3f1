import Mathlib
import TablePipeline.Proofs.Editing
import TablePipeline.Proofs.ExternalSort
import TablePipeline.Proofs.Key
import TablePipeline.Table.Sort

/-!
The order of rows. Values of a column that are missing or that an order compares give, column by
column and each ascending or descending, an order of rows; and the sort of a feed that ends is the one
stable sort of its rows by this order. Rows are compared apart: a NaN that was made from one of them is
not the same as any in the other. An order is declared by signs and names of columns in turn.
-/
namespace TablePipeline

/-! ### Orders of values -/

/-- Values that are missing or that an order compares with each other. -/
def OrderedBy (cmp : Value → Value → Ordering) (vs : List Value) : Prop :=
  ∀ x ∈ vs, ∀ y ∈ vs, x.isNull = false → y.isNull = false →
    Datum.less (x.forget false) (y.forget false) = .ok (cmp x y == .lt)

/-- An order of values with a missing value before all others. -/
def missingFirst (cmp : Value → Value → Ordering) (x y : Value) : Ordering :=
  if x.isNull then if y.isNull then .eq else .lt
  else if y.isNull then .gt else cmp x y

theorem compareMissingFirst_of_null {x y : Value} (h : x.isNull = true ∨ y.isNull = true) :
    compareMissingFirst x y =
      .ok (if x.isNull then if y.isNull then .eq else .lt else .gt) := by
  cases x <;> cases y <;> simp_all [compareMissingFirst, Datum.isNull]

theorem compareMissingFirst_of_some {x y : Value} (hx : x.isNull = false) (hy : y.isNull = false) :
    compareMissingFirst x y = (do
      if ← Datum.less x y then .ok .lt
      else if ← Datum.less y x then .ok .gt
      else .ok .eq) := by
  unfold compareMissingFirst
  split
  · cases hx
  · cases hx
  · cases hy
  · rfl

section Values

variable {cmp : Value → Value → Ordering} [Std.TransCmp cmp]

instance : Std.TransCmp (missingFirst cmp) where
  eq_swap := by
    intro x y
    have hswap : cmp x y = (cmp y x).swap := Std.OrientedCmp.eq_swap
    unfold missingFirst
    cases x.isNull <;> cases y.isNull <;> simp [hswap]
  isLE_trans := by
    intro x y z hxy hyz
    unfold missingFirst at *
    cases hx : x.isNull <;> cases hy : y.isNull <;> cases hz : z.isNull <;>
      simp [hx, hy, hz] at hxy hyz ⊢
    exact Std.TransCmp.isLE_trans hxy hyz

/-- Values that an order compares are put into it, with a missing one first. -/
theorem compareMissingFirst_eq {vs : List Value} (h : OrderedBy cmp vs) {x y : Value} (hx : x ∈ vs)
    (hy : y ∈ vs) : compareMissingFirst (x.forget false) (y.forget false) =
      .ok (missingFirst cmp x y) := by
  cases hnull : x.isNull || y.isNull with
  | true =>
    have hnull := Bool.or_eq_true_iff.1 hnull
    rw [compareMissingFirst_of_null (by simpa using hnull)]
    unfold missingFirst
    rcases hnull with hnull | hnull <;> simp [hnull]
  | false =>
    obtain ⟨hxs, hys⟩ := Bool.or_eq_false_iff.1 hnull
    have hswap : cmp y x = (cmp x y).swap := Std.OrientedCmp.eq_swap
    rw [compareMissingFirst_of_some (by simpa using hxs) (by simpa using hys), h x hx y hy hxs hys,
      h y hy x hx hys hxs, hswap, missingFirst, hxs, hys]
    cases cmp x y <;> rfl

end Values

/-! ### Orders of rows -/

section Rows

variable (cmp : ℕ → Value → Value → Ordering)

/-- The order of rows by one column. -/
def SortKey.rowOrder (key : SortKey) (a b : Row) : Ordering :=
  let o := missingFirst (cmp key.slot) (a.getD key.slot .null) (b.getD key.slot .null)
  if key.descending then o.swap else o

namespace SortOrder

/-- The order of rows by the columns of an order, the first of them first. -/
def rowOrder : SortOrder → Row → Row → Ordering
  | [] => fun _ _ => .eq
  | key :: rest => compareLex (key.rowOrder cmp) (rowOrder rest)

/-- Rows that are put in order: they have all columns by which they are compared, and in each of these
the order of the column compares their values. -/
structure Orders (order : SortOrder) (rows : List Row) : Prop where
  slots : ∀ key ∈ order, ∀ row ∈ rows, key.slot < row.length
  values : ∀ key ∈ order, OrderedBy (cmp key.slot) (rows.map fun row => row.getD key.slot .null)

end SortOrder

variable {cmp} [∀ slot, Std.TransCmp (cmp slot)]

instance (key : SortKey) : Std.TransCmp (key.rowOrder cmp) where
  eq_swap := by
    intro a b
    have hswap : missingFirst (cmp key.slot) (a.getD key.slot .null) (b.getD key.slot .null) =
      (missingFirst (cmp key.slot) (b.getD key.slot .null) (a.getD key.slot .null)).swap :=
        Std.OrientedCmp.eq_swap
    unfold SortKey.rowOrder
    rw [hswap]
    cases key.descending <;> simp
  isLE_trans := by
    intro a b c hab hbc
    have hswap : ∀ x y, (missingFirst (cmp key.slot) x y).swap = missingFirst (cmp key.slot) y x :=
      fun _ _ => Std.OrientedCmp.eq_swap.symm
    unfold SortKey.rowOrder at *
    cases hdesc : key.descending with
    | false =>
      simp only [hdesc, Bool.false_eq_true, if_false] at hab hbc ⊢
      exact Std.TransCmp.isLE_trans hab hbc
    | true =>
      simp only [hdesc, if_true, hswap] at hab hbc ⊢
      exact Std.TransCmp.isLE_trans hbc hab

namespace SortOrder

instance (order : SortOrder) : Std.TransCmp (order.rowOrder cmp) := by
  induction order with
  | nil => exact { eq_swap := rfl, isLE_trans := fun _ _ => rfl }
  | cons key rest ih => exact inferInstanceAs (Std.TransCmp (compareLex _ _))

end SortOrder

theorem cell_forgetItems (all : Bool) (row : Row) (slot : ℕ) :
    Row.cell (Datum.forgetItems all row) slot = (row.cell slot).map (Datum.forget all) := by
  unfold Row.cell
  rw [Datum.forgetItems_eq_map, List.getElem?_map]
  cases row[slot]? <;> rfl

theorem cell_eq_ok {row : Row} {slot : ℕ} (h : slot < row.length) :
    row.cell slot = .ok (row.getD slot .null) := by
  simp [Row.cell, h]

theorem SortKey.compare_eq {key : SortKey} {a b : Row} {vs : List Value}
    (h : OrderedBy (cmp key.slot) vs) (ha : key.slot < a.length) (hb : key.slot < b.length)
    (hx : a.getD key.slot .null ∈ vs) (hy : b.getD key.slot .null ∈ vs) :
    key.compare (Datum.forgetItems false a) (Datum.forgetItems false b) =
      .ok (key.rowOrder cmp a b) := by
  have hvalues := compareMissingFirst_eq h hx hy
  simp only [SortKey.compare, cell_forgetItems, cell_eq_ok ha, cell_eq_ok hb, Except.map, ok_bind,
    hvalues]
  rfl

namespace SortOrder

variable {order : SortOrder} {rows : List Row}

/-- Rows that are put in order are compared by it: by induction on the columns. -/
theorem Orders.compare_eq (h : order.Orders cmp rows) {a b : Row} (ha : a ∈ rows) (hb : b ∈ rows) :
    order.compare (Datum.forgetItems false a) (Datum.forgetItems false b) =
      .ok (order.rowOrder cmp a b) := by
  induction order with
  | nil => rfl
  | cons key rest ih =>
    have hkey : key ∈ key :: rest := List.mem_cons_self
    have hrest := ih ⟨fun k hk => h.slots k (List.mem_cons_of_mem key hk),
      fun k hk => h.values k (List.mem_cons_of_mem key hk)⟩
    have hvalue : ∀ row ∈ rows,
        row.getD key.slot .null ∈ rows.map fun row => row.getD key.slot .null :=
      fun row hrow => List.mem_map.2 ⟨row, hrow, rfl⟩
    rw [compare, SortKey.compare_eq (h.values key hkey) (h.slots key hkey a ha)
      (h.slots key hkey b hb) (hvalue a ha) (hvalue b hb), hrest, ok_bind, rowOrder, compareLex]
    cases key.rowOrder cmp a b <;> rfl

theorem Orders.decides (h : order.Orders cmp rows) :
    Sorting.Decides (Table.lessApart order) (fun a b => (order.rowOrder cmp a b).isLE) rows := by
  intro a ha b hb
  rw [Table.lessApart, less, h.compare_eq ha hb, ← Sorting.lt_eq_not_isLE]
  rfl

end SortOrder

end Rows

namespace SortOrder

variable {c : Catalog} {order : SortOrder}

/-- Rows are compared by nothing but the columns of an order. -/
theorem compare_congr {a a' b b' : Row} (ha : ∀ key ∈ order, a.cell key.slot = a'.cell key.slot)
    (hb : ∀ key ∈ order, b.cell key.slot = b'.cell key.slot) :
    order.compare a b = order.compare a' b' := by
  induction order with
  | nil => rfl
  | cons key rest ih =>
    have hrest := ih (fun k hk => ha k (List.mem_cons_of_mem key hk))
      fun k hk => hb k (List.mem_cons_of_mem key hk)
    rw [compare, compare, SortKey.compare, SortKey.compare, ha key List.mem_cons_self,
      hb key List.mem_cons_self, hrest]

/-! ### Orders that are declared -/

/-- What declares a key: its sign, and the name of its column. -/
def declared (key : SortKey) (name : String) : List Arg :=
  [.text (if key.descending then "-" else "+"), .text name]

theorem eq_of_descending? {sign : Arg} {descending : Bool} (h : descending? sign = some descending) :
    sign = .text (if descending then "-" else "+") := by
  unfold descending? at h
  split at h <;> cases h <;> rfl

theorem eq_of_text? {name : Arg} {text : String} (h : name.text? = some text) : name = .text text := by
  cases name <;> simp_all [Datum.text?]

/-- An order is made of nothing but signs and names of columns in turn. -/
theorem columns_of_keysOf {bad : Fault} {items : List Arg} (h : keysOf c bad items = .ok order) :
    ∃ columns : List (SortKey × String), columns.map Prod.fst = order ∧
      items = columns.flatMap (fun column => declared column.1 column.2) ∧
      ∀ column ∈ columns, c.slotNamed? column.2 = some column.1.slot := by
  induction items using keysOf.induct c generalizing order with
  | case1 =>
    cases h
    exact ⟨[], rfl, rfl, by simp⟩
  | case2 => cases h
  | case3 sign name rest descending text hname hsign slot hslot ih =>
    simp only [keysOf, hsign, hname, hslot] at h
    obtain ⟨more, hmore, h⟩ := bind_eq_ok.1 h
    obtain rfl := Except.ok.inj h
    obtain ⟨columns, rfl, rfl, hcolumns⟩ := ih hmore
    refine ⟨(⟨descending, slot⟩, text) :: columns, rfl, ?_, List.forall_mem_cons.2 ⟨hslot, hcolumns⟩⟩
    rw [eq_of_descending? hsign, eq_of_text? hname]
    rfl
  | case4 sign name rest descending text hname hsign hslot => simp [keysOf, hsign, hname, hslot] at h
  | case5 sign name rest hother =>
    rw [keysOf] at h
    split at h
    · rename_i hsign hname
      exact (hother _ _ hsign hname).elim
    · cases h

theorem columns_of_ofArg {arg : Arg} (h : ofArg c arg = .ok order) :
    order ≠ [] ∧ ∃ columns : List (SortKey × String), columns.map Prod.fst = order ∧
      arg.items? = some (columns.flatMap fun column => declared column.1 column.2) ∧
      ∀ column ∈ columns, c.slotNamed? column.2 = some column.1.slot := by
  unfold ofArg at h
  split at h
  · rename_i items hitems
    dsimp only at h
    split_ifs at h with hbad
    obtain ⟨columns, hkeys, hdeclared, hcolumns⟩ := columns_of_keysOf h
    refine ⟨?_, columns, hkeys, hitems.trans (congrArg some hdeclared), hcolumns⟩
    rintro rfl
    obtain rfl := List.map_eq_nil_iff.1 hkeys
    simp [hdeclared] at hbad
  · cases h

/-- The columns of an order are columns of the catalog. -/
theorem lt_width_of_ofArg {arg : Arg} (h : ofArg c arg = .ok order) :
    ∀ key ∈ order, key.slot < c.width := by
  obtain ⟨-, columns, rfl, -, hcolumns⟩ := columns_of_ofArg h
  exact List.forall_mem_map.2 fun column hcolumn =>
    Catalog.lt_width_of_slotNamed? (hcolumns column hcolumn)

end SortOrder

/-! ### Sorting a feed that ends -/

namespace Sorting

variable {α β γ : Type} {less : α → α → Except Fault Bool}

theorem transCmp_fst {compare : α → α → Ordering} [Std.TransCmp compare] :
    Std.TransCmp fun x y : α × β => compare x.1 y.1 where
  eq_swap := Std.OrientedCmp.eq_swap
  isLE_trans := Std.TransCmp.isLE_trans

/-- Items that are sorted stably along with what was made of them. -/
theorem exists_sortedStably_zip (compare : α → α → Ordering) [Std.TransCmp compare]
    {items : List α} {made : List β} {f : α → γ} {g : β → γ} (h : items.map f = made.map g) :
    ∃ pairs : List (α × β),
      SortedStably (fun x y => compare x.1 y.1) pairs (items.zip made) ∧
      (pairs.map fun pair => pair.2).Perm made ∧
      (pairs.map fun pair => g pair.2) =
        (items.mergeSort fun a b => (compare a b).isLE).map f := by
  have hlength : items.length = made.length := by simpa using congrArg List.length h
  have hfst : (items.zip made).map (fun pair => pair.1) = items := List.map_fst_zip hlength.le
  have hsnd : (items.zip made).map (fun pair => pair.2) = made := List.map_snd_zip hlength.ge
  have hpairs : ∀ pair ∈ items.zip made, f pair.1 = g pair.2 := by
    apply List.map_inj_left.1
    calc (items.zip made).map (fun pair => f pair.1) = items.map f := by
          rw [← hfst, List.map_map, hfst]
          rfl
      _ = made.map g := h
      _ = (items.zip made).map fun pair => g pair.2 := by
          rw [← hsnd, List.map_map, hsnd]
          rfl
  have hperm := List.mergeSort_perm (items.zip made) fun x y => (compare x.1 y.1).isLE
  have : Std.TransCmp fun x y : α × β => compare x.1 y.1 := transCmp_fst
  refine ⟨_, sortedStably_iff.2 (isStableSort_mergeSort isLE_total
    (fun _ _ _ => Std.TransCmp.isLE_trans) _), (hperm.map _).trans (.of_eq hsnd), ?_⟩
  have hsort : ((items.zip made).mergeSort fun x y => (compare x.1 y.1).isLE).map
      (fun pair => pair.1) = items.mergeSort fun a b => (compare a b).isLE := by
    rw [List.map_mergeSort (s := fun a b => (compare a b).isLE) fun _ _ _ _ => rfl, hfst]
  rw [← hsort, List.map_map]
  exact List.map_congr_left fun pair hpair => (hpairs pair (hperm.mem_iff.1 hpair)).symm

theorem fault_of_externalSort {putAside : α → α} {size : ℕ} {feed : Feed α}
    (h : (externalSort less putAside size feed).fault = none) : feed.fault = none := by
  unfold externalSort at h
  cases hchunks : sortChunks less putAside size feed with
  | error fault => simp [hchunks, Feed.failed] at h
  | ok runs =>
    obtain ⟨_, -, hruns⟩ := bind_eq_ok.1 hchunks
    cases hfault : feed.fault with
    | none => rfl
    | some fault => simp [hfault] at hruns

/-- Items that do not fill a chunk are not put aside. -/
theorem externalSort_of_short {putAside : α → α} {size : ℕ} {feed : Feed α}
    (h : feed.items.length < size) :
    externalSort less putAside size feed = externalSort less id size feed := by
  simp only [externalSort, sortChunks, h, if_true]

/-- Rows that could be sorted are sorted stably; where they fill a chunk they have been put aside, and
copies of them are handed out. The copies must compare like the rows. -/
theorem sortRows_eq_of_ended {compare : Row → Row → Ordering} [Std.TransCmp compare]
    {less : Row → Row → Except Fault Bool} {size : ℕ} {folder : Arg} {rows : Feed Row}
    (hended : (sortRows less size folder rows).fault = none) (hsize : 0 < size)
    (hless : Decides less (fun a b => (compare a b).isLE) rows.items)
    (hcopy : size ≤ rows.items.length → ∀ a ∈ rows.items, ∀ b ∈ rows.items,
      less (Datum.forgetItems true a) (Datum.forgetItems true b) = less a b) :
    rows.fault = none ∧ (sortRows less size folder rows).items =
      (rows.items.mergeSort fun a b => (compare a b).isLE).map
        (if rows.items.length < size then id else Datum.forgetItems true) := by
  have htotal : ∀ a b : Row, ((compare a b).isLE || (compare b a).isLE) = true := isLE_total
  have htrans : ∀ a b c : Row, (compare a b).isLE = true → (compare b c).isLE = true →
      (compare a c).isLE = true := fun a b c => Std.TransCmp.isLE_trans
  -- What is wrong with the folder does not show as long as no chunk is full.
  have hsort : sortRows less size folder rows =
      externalSort less (Datum.forgetItems true) size rows := by
    unfold sortRows at hended ⊢
    cases hfolder : folder.requireFolder with
    | ok _ => rfl
    | error stop =>
      simp only [hfolder] at hended ⊢
      split_ifs at hended ⊢ with hshort
      · exact (externalSort_of_short hshort).symm
      · cases hfirst : sort less (rows.items.take size) <;> simp [hfirst, Feed.failed] at hended
  rw [hsort] at hended ⊢
  have hfault := fault_of_externalSort hended
  have hfeed : rows = ⟨rows.items, none⟩ := by rw [← hfault]
  refine ⟨hfault, ?_⟩
  rw [hfeed, externalSort_eq htotal htrans hsize hless hcopy]

end Sorting

end TablePipeline
