import Mathlib
import TablePipeline.Column.Listing
import TablePipeline.Proofs.ColumnNames
import TablePipeline.Proofs.Distinct
import TablePipeline.Proofs.Editing

/-!
The columns of a catalog as a list of slots with names. Slots are kept when their columns are deleted,
names may be given anew, and the order lists deleted slots together with the others; but what is shown
of all this is a list to which a call appends a column, from which it removes some, or which it puts
into another order or under other names.
-/
namespace TablePipeline

namespace Catalog

variable {c c' : Catalog}

/-! ### What a catalog shows -/

/-- The columns in their order: their slots with their names. -/
def columns (c : Catalog) : List (ℕ × Value) := c.live.map fun slot => (slot, c.nameOf slot)

@[simp] theorem map_fst_columns (c : Catalog) : c.columns.map Prod.fst = c.live := by
  simp [columns, Function.comp_def]

@[simp] theorem map_snd_columns (c : Catalog) : c.columns.map Prod.snd = c.names := by
  simp [columns, names, Function.comp_def]

theorem isLive_iff {slot : ℕ} :
    c.isLive slot = true ↔ ∃ s, c.slots[slot]? = some s ∧ s.deleted = false := by
  unfold isLive
  cases c.slots[slot]? <;> simp

theorem mem_live {slot : ℕ} : slot ∈ c.live ↔ slot ∈ c.order ∧ c.isLive slot = true := by
  simp [live]

/-- The catalogs that calls can lead to. -/
structure Valid (c : Catalog) : Prop where
  /-- The order lists every slot once. -/
  order : c.order.Perm (List.range c.width)
  /-- The columns have different names. -/
  apart : Names.Apart c.names
  keys : ∀ name ∈ c.names, Datum.unhashable? name = none
  /-- The first slots are those of the columns of the file. -/
  sourceWidth : c.sourceWidth ≤ c.width
  source : ∀ (slot : ℕ) (s : Slot), c.slots[slot]? = some s →
    s.source = decide (slot < c.sourceWidth)
  /-- What operations read and write are slots that there are, and so is what is formatted. -/
  operations : ∀ op ∈ c.operations, ∀ slot ∈ op.output :: op.inputs, slot < c.width
  formats : c.Formats

/-- Slots stay where they are, with the same origin, and those of deleted columns stay as they are. -/
structure Grows (c c' : Catalog) : Prop where
  width : c.width ≤ c'.width
  source : ∀ (slot : ℕ) (s : Slot), c.slots[slot]? = some s →
    ∃ s' : Slot, c'.slots[slot]? = some s' ∧ s'.source = s.source
  dead : ∀ (slot : ℕ) (s : Slot), c.slots[slot]? = some s → s.deleted = true →
    c'.slots[slot]? = some s

theorem Grows.refl (c : Catalog) : c.Grows c :=
  ⟨le_rfl, fun _ s h => ⟨s, h, rfl⟩, fun _ _ h _ => h⟩

theorem Grows.trans {c'' : Catalog} (h : c.Grows c') (h' : c'.Grows c'') : c.Grows c'' where
  width := h.width.trans h'.width
  source slot s hs := by
    obtain ⟨s', hs', hsource⟩ := h.source slot s hs
    obtain ⟨s'', hs'', hsource'⟩ := h'.source slot s' hs'
    exact ⟨s'', hs'', hsource'.trans hsource⟩
  dead slot s hs hdead := h'.dead slot s (h.dead slot s hs hdead) hdead

theorem grows_of_slots (h : c'.slots = c.slots) : c.Grows c' where
  width := by rw [width, width, h]
  source _ s hs := ⟨s, h ▸ hs, rfl⟩
  dead _ _ hs _ := h ▸ hs

/-- A change that makes no slot: it shows other columns of those that there are, in some order. -/
structure Reshapes (c c' : Catalog) (columns : List (ℕ × Value)) : Prop where
  columns : c'.columns = columns
  order : c'.order.Perm c.order
  width : c'.width = c.width
  grows : c.Grows c'

theorem Valid.nodup_order (h : c.Valid) : c.order.Nodup := h.order.nodup_iff.2 List.nodup_range

theorem Valid.nodup_live (h : c.Valid) : c.live.Nodup := h.nodup_order.filter _

theorem nameOf_mem_names {slot : ℕ} (h : slot ∈ c.live) : c.nameOf slot ∈ c.names :=
  List.mem_map_of_mem h

/-- Columns whose names match are the same. -/
theorem Valid.eq_of_isMatch (h : c.Valid) {slot slot' : ℕ} (hslot : slot ∈ c.live)
    (hslot' : slot' ∈ c.live) (hmatch : (c.nameOf slot).isMatch (c.nameOf slot') = true) :
    slot = slot' := by
  have hboth := List.pairwise_map.1 (h.apart.symm h.keys)
  by_contra hne
  have : Std.Symm fun a b => (c.nameOf a).isMatch (c.nameOf b) = false ∧
      (c.nameOf b).isMatch (c.nameOf a) = false := ⟨fun _ _ h => h.symm⟩
  rw [(hboth.forall hslot hslot' hne).1] at hmatch
  cases hmatch

/-! ### Slots that are changed in place -/

section Retouched

variable {g : ℕ → Slot → Slot}

theorem slots_setSlot (c : Catalog) (slot : ℕ) (f : Slot → Slot) :
    (c.setSlot slot f).slots = c.slots.mapIdx fun j s => if slot = j then f s else s := by
  apply List.ext_getElem?
  intro j
  simp [setSlot, List.getElem?_modify, List.getElem?_mapIdx]

theorem slots_foldl_setSlot {α : Type} (slot : α → ℕ) (f : α → Slot → Slot) (as : List α)
    (c : Catalog) :
    (as.foldl (fun c a => c.setSlot (slot a) (f a)) c).slots =
      c.slots.mapIdx fun j s => as.foldl (fun s a => if slot a = j then f a s else s) s := by
  induction as generalizing c with
  | nil =>
    apply List.ext_getElem?
    simp
  | cons a as ih =>
    rw [List.foldl_cons, ih, slots_setSlot]
    apply List.ext_getElem?
    simp [Function.comp_def]

@[simp] theorem order_foldl_setSlot {α : Type} (slot : α → ℕ) (f : α → Slot → Slot) (as : List α)
    (c : Catalog) : (as.foldl (fun c a => c.setSlot (slot a) (f a)) c).order = c.order := by
  induction as generalizing c with
  | nil => rfl
  | cons a as ih => exact ih (c.setSlot (slot a) (f a))

theorem width_of_mapIdx (hslots : c'.slots = c.slots.mapIdx g) : c'.width = c.width := by
  rw [width, width, hslots, List.length_mapIdx]

theorem isLive_of_mapIdx (hslots : c'.slots = c.slots.mapIdx g) (slot : ℕ) :
    c'.isLive slot = match c.slots[slot]? with
      | some s => !(g slot s).deleted
      | none => false := by
  rw [isLive, hslots, List.getElem?_mapIdx]
  cases c.slots[slot]? <;> rfl

theorem nameOf_of_mapIdx (hslots : c'.slots = c.slots.mapIdx g) (slot : ℕ) :
    c'.nameOf slot = (c.slots[slot]?.map fun s => (g slot s).name).getD .null := by
  rw [nameOf, hslots, List.getElem?_mapIdx, Option.map_map]
  rfl

theorem grows_of_mapIdx (hslots : c'.slots = c.slots.mapIdx g)
    (hsource : ∀ j s, (g j s).source = s.source)
    (hdead : ∀ j s, c.slots[j]? = some s → s.deleted = true → g j s = s) : c.Grows c' where
  width := (width_of_mapIdx hslots).ge
  source slot s hs := ⟨g slot s, by rw [hslots, List.getElem?_mapIdx, hs]; rfl, hsource slot s⟩
  dead slot s hs h := by rw [hslots, List.getElem?_mapIdx, hs, Option.map_some, hdead slot s hs h]

/-- Slots that are deleted as before show the same columns, perhaps with other names. -/
theorem live_of_mapIdx (horder : c'.order = c.order) (hslots : c'.slots = c.slots.mapIdx g)
    (hdeleted : ∀ j s, (g j s).deleted = s.deleted) : c'.live = c.live := by
  have hlive : c'.isLive = c.isLive := funext fun slot => by
    rw [isLive_of_mapIdx hslots, isLive]
    cases c.slots[slot]? <;> simp [hdeleted]
  rw [live, live, horder, hlive]

theorem columns_of_mapIdx (horder : c'.order = c.order) (hslots : c'.slots = c.slots.mapIdx g)
    (hdeleted : ∀ j s, (g j s).deleted = s.deleted) (hname : ∀ j s, (g j s).name = s.name) :
    c'.columns = c.columns := by
  have hnames : ∀ slot, c'.nameOf slot = c.nameOf slot := fun slot => by
    rw [nameOf_of_mapIdx hslots, nameOf]
    simp [hname]
  simp only [columns, live_of_mapIdx horder hslots hdeleted, hnames]

end Retouched

/-! ### Changes that take place -/

/-- An argument is resolved if its items are texts that name columns; the slots are those of the
columns. -/
theorem found_of_resolve {φ : Type} [FunctionText φ] {columns : Datum φ} {slots : List ℕ}
    (hslots : c.resolve columns = .ok slots) :
    slots = columns.asList.filterMap (fun d => d.text?.bind fun name => c.slotNamed? name) ∧
      ∀ item ∈ columns.asList, ∃ name there, item = .text name ∧ c.slotNamed? name = some there := by
  simp only [resolve] at hslots
  split_ifs at hslots with hmissing
  obtain rfl := Except.ok.inj hslots
  refine ⟨by rw [List.filterMap_map]; rfl, fun item hitem => ?_⟩
  rw [List.isEmpty_iff, List.map_eq_nil_iff, List.filter_eq_nil_iff] at hmissing
  have hsome := hmissing _ (List.mem_map_of_mem hitem)
  rw [Option.isNone_iff_eq_none, ← ne_eq, Option.ne_none_iff_exists'] at hsome
  obtain ⟨there, hthere⟩ := hsome
  obtain ⟨name, hname, hthere⟩ := Option.bind_eq_some_iff.1 hthere
  refine ⟨name, there, ?_, hthere⟩
  cases item <;> simp_all [Datum.text?]

theorem of_slotNamed? {name : String} {slot : ℕ} (h : c.slotNamed? name = some slot) :
    slot ∈ c.live ∧ c.nameOf slot = .text name := by
  have hmatch : (c.nameOf slot).isMatch (.text name) = true :=
    List.find?_some (p := fun slot => (c.nameOf slot).isMatch (.text name)) h
  exact ⟨List.mem_of_find?_eq_some h, (Datum.isMatch_text _ _).1 hmatch⟩

/-- The slots that an argument names are those of the columns with these names. -/
theorem Valid.mem_resolve_iff (h : c.Valid) {φ : Type} [FunctionText φ] {columns : Datum φ}
    {slots : List ℕ} (hslots : c.resolve columns = .ok slots) {slot : ℕ} :
    slot ∈ slots ↔
      slot ∈ c.live ∧ ∃ name, .text name ∈ columns.asList ∧ c.nameOf slot = .text name := by
  obtain ⟨rfl, hfound⟩ := found_of_resolve hslots
  rw [List.mem_filterMap]
  constructor
  · rintro ⟨item, hitem, hslot⟩
    obtain ⟨name, there, rfl, hthere⟩ := hfound item hitem
    obtain rfl : there = slot := by simpa [Datum.text?, hthere] using hslot
    obtain ⟨hlive, hname⟩ := of_slotNamed? hthere
    exact ⟨hlive, name, hitem, hname⟩
  · rintro ⟨hlive, name, hitem, hname⟩
    obtain ⟨_, there, hsame, hthere⟩ := hfound _ hitem
    obtain rfl := Datum.text.inj hsame
    obtain ⟨hlive', hname'⟩ := of_slotNamed? hthere
    have hmatch : (c.nameOf slot).isMatch (c.nameOf there) = true := by
      rw [hname', Datum.isMatch_text, hname]
    obtain rfl := h.eq_of_isMatch hlive hlive' hmatch
    exact ⟨_, hitem, hthere⟩

theorem Valid.mem_resolve (h : c.Valid) {columns : Arg} {slots : List ℕ}
    (hslots : c.resolve columns = .ok slots) {slot : ℕ} :
    slot ∈ slots ↔
      slot ∈ c.live ∧ columns.asList.any (Names.isNamed (c.nameOf slot)) = true := by
  obtain ⟨-, hfound⟩ := found_of_resolve hslots
  rw [h.mem_resolve_iff hslots, List.any_eq_true]
  refine and_congr_right fun _ => ?_
  constructor
  · rintro ⟨name, hitem, hname⟩
    exact ⟨_, hitem, (Names.isNamed_text _ _).2 hname⟩
  · rintro ⟨item, hitem, hname⟩
    obtain ⟨name, -, rfl, -⟩ := hfound item hitem
    exact ⟨name, hitem, (Names.isNamed_text _ _).1 hname⟩

theorem slots_foldl_delete (slots : List ℕ) (c : Catalog) :
    (slots.foldl (fun c slot => c.setSlot slot fun s => { s with deleted := true }) c).slots =
      c.slots.mapIdx fun j s => if j ∈ slots then { s with deleted := true } else s := by
  have hfold : ∀ (slots : List ℕ) (j : ℕ) (s : Slot),
      slots.foldl (fun s a => if id a = j then { s with deleted := true } else s) s =
        if j ∈ slots then { s with deleted := true } else s := by
    intro slots j
    induction slots with
    | nil => simp
    | cons a slots ih =>
      intro s
      rw [List.foldl_cons, ih]
      by_cases ha : a = j
      · simp [ha]
      · have hne : ¬j = a := fun h => ha h.symm
        simp [ha, hne]
  have hslots := slots_foldl_setSlot id (fun _ s => { s with deleted := true }) slots c
  simp only [hfold] at hslots
  exact hslots

/-- Deleting takes away the columns of the slots that are named. -/
theorem reshapes_of_delete {φ : Type} [FunctionText φ] {columns : Datum φ} {u : Unit}
    (hends : Ends (delete columns) c u c') :
    ∃ slots, c.resolve columns = .ok slots ∧
      c.Reshapes c' (c.columns.filter fun column => decide (column.1 ∉ slots)) := by
  obtain ⟨slots, hresolve, hc'⟩ := ends_delete.1 hends
  have hslots : c'.slots = _ := hc' ▸ slots_foldl_delete slots c
  have horder : c'.order = c.order := hc' ▸ order_foldl_setSlot id _ slots c
  refine ⟨slots, hresolve, ?_, .of_eq horder, width_of_mapIdx hslots,
    grows_of_mapIdx hslots ?_ ?_⟩
  · have hlive : ∀ slot, c'.isLive slot = (decide (slot ∉ slots) && c.isLive slot) := by
      intro slot
      rw [isLive_of_mapIdx hslots, isLive]
      cases c.slots[slot]? with
      | none => simp
      | some s => by_cases hslot : slot ∈ slots <;> simp [hslot]
    have hname : ∀ slot, c'.nameOf slot = c.nameOf slot := by
      intro slot
      rw [nameOf_of_mapIdx hslots, nameOf]
      congr 2
      funext s
      split_ifs <;> rfl
    have hkept : c'.live = c.live.filter fun slot => decide (slot ∉ slots) := by
      rw [live, live, horder, List.filter_filter, funext hlive]
    simp only [Catalog.columns, hkept, hname, List.filter_map, Function.comp_def]
  · intro j s
    split_ifs <;> rfl
  · intro j s _ hdead
    split_ifs
    · rw [← hdead]
    · rfl

/-- Deleting takes away the named columns. -/
theorem Valid.reshapes_delete (h : c.Valid) {columns : Arg} {u : Unit}
    (hends : Ends (delete columns) c u c') :
    c.Reshapes c' (c.columns.filter fun column => !columns.asList.any (Names.isNamed column.2)) := by
  obtain ⟨slots, hresolve, hreshapes⟩ := reshapes_of_delete hends
  have hkept : (c.columns.filter fun column => decide (column.1 ∉ slots)) =
      c.columns.filter fun column => !columns.asList.any (Names.isNamed column.2) := by
    refine List.filter_congr fun column hcolumn => ?_
    obtain ⟨slot, hslot, rfl⟩ := List.mem_map.1 hcolumn
    rw [Bool.eq_iff_iff, decide_eq_true_iff, h.mem_resolve hresolve]
    simp [hslot]
  rwa [hkept] at hreshapes

theorem slotOfItem?_eq (c : Catalog) (index : List ℕ) (item : Arg) :
    c.slotOfItem? index item = index.find? fun slot => Names.isNamed (c.nameOf slot) item := by
  unfold slotOfItem? Names.isNamed
  cases item.toValue? with
  | none => exact (List.find?_eq_none.2 (by simp)).symm
  | some v => rfl

/-- Where every item names a column, the front is made of these columns. -/
theorem forall₂_front {items : List Arg} (h : (c.front items).length = items.length) :
    List.Forall₂ (fun item slot => c.slotOfItem? c.live item = some slot) items (c.front items) := by
  have hsome := List.filterMap_length_eq_length.1 h
  clear h
  induction items with
  | nil => exact .nil
  | cons item items ih =>
    obtain ⟨slot, hslot⟩ := Option.isSome_iff_exists.1 (hsome item (by simp))
    rw [front, List.filterMap_cons_some hslot]
    exact .cons hslot (ih fun item hitem => hsome item (by simp [hitem]))

/-- Items that name columns one by one, in an order of the names. -/
def NamedBy (items : List Arg) (names : List Value) : Prop :=
  List.Forall₂ (fun item name => Names.isNamed name item = true) items names

/-- Texts name themselves only. -/
theorem namedBy_texts {texts : List String} {names : List Value} :
    NamedBy (texts.map .text) names ↔ names = texts.map .text := by
  induction texts generalizing names with
  | nil => simp [NamedBy]
  | cons s texts ih =>
    rw [List.map_cons, List.map_cons, NamedBy, List.forall₂_cons_left_iff]
    constructor
    · rintro ⟨name, rest, hname, hrest, rfl⟩
      rw [(Names.isNamed_text name s).1 hname, ih.1 hrest]
    · rintro rfl
      exact ⟨_, _, (Names.isNamed_text _ s).2 rfl, ih.2 rfl, rfl⟩

theorem NamedBy.exists_name {items : List Arg} {names : List Value} (h : NamedBy items names)
    {item : Arg} (hitem : item ∈ items) : ∃ name ∈ names, Names.isNamed name item = true := by
  induction h with
  | nil => cases hitem
  | cons hname _ ih =>
    rcases List.mem_cons.1 hitem with rfl | hitem
    · exact ⟨_, List.mem_cons_self .., hname⟩
    · obtain ⟨name, hthere, hname⟩ := ih hitem
      exact ⟨name, List.mem_cons_of_mem _ hthere, hname⟩

/-- Slots under the names that items give are different if the items name names that are apart. -/
theorem NamedBy.nodup {items : List Arg} {names : List Value} (h : NamedBy items names)
    (hapart : Names.Apart names) (hkeys : ∀ name ∈ names, Datum.unhashable? name = none)
    {slots : List ℕ} (hslots : NamedBy items (slots.map c.nameOf))
    (hslotKeys : ∀ slot ∈ slots, Datum.unhashable? (c.nameOf slot) = none) : slots.Nodup := by
  have hlength := h.length_eq
  have hlength' := hslots.length_eq
  rw [List.length_map] at hlength'
  refine List.pairwise_iff_getElem.2 fun i j hi hj hij hsame => ?_
  have hnames : ∀ k (hk : k < slots.length),
      names[k].isMatch (c.nameOf slots[k]) = true := by
    intro k hk
    have hname := (List.forall₂_iff_get.1 h).2 k (by omega) (by omega)
    have hslot := (List.forall₂_iff_get.1 hslots).2 k (by omega) (by simpa using hk)
    simp only [List.get_eq_getElem, List.getElem_map] at hname hslot
    exact Names.isMatch_of_isNamed (hkeys _ (List.getElem_mem _)) (hslotKeys _ (List.getElem_mem _))
      hname hslot
  have hmatch : names[i].isMatch names[j] = true := by
    refine Datum.isMatch_trans (hkeys _ (List.getElem_mem _)) (hnames i hi) ?_
    rw [hsame]
    exact Datum.isMatch_symm (hkeys _ (List.getElem_mem _)) (hnames j hj)
  rw [List.pairwise_iff_getElem.1 hapart i j (by omega) (by omega) hij] at hmatch
  cases hmatch

theorem namedBy_front {items : List Arg} (h : (c.front items).length = items.length) :
    NamedBy items ((c.front items).map c.nameOf) := by
  refine List.forall₂_map_right_iff.2 ((forall₂_front h).imp fun item slot hslot => ?_)
  rw [slotOfItem?_eq] at hslot
  exact List.find?_some (p := fun slot => Names.isNamed (c.nameOf slot) item) hslot

theorem front_subset_live (c : Catalog) (items : List Arg) : c.front items ⊆ c.live := by
  intro slot hslot
  obtain ⟨item, -, hitem⟩ := List.mem_filterMap.1 hslot
  rw [slotOfItem?_eq] at hitem
  exact List.mem_of_find?_eq_some hitem

/-- A front of different slots, as many as there are columns, is an order of the columns. -/
theorem front_perm_live {items : List Arg} (hlength : items.length = c.live.length)
    (hall : (c.front items).length = items.length) (honce : (c.front items).Nodup) :
    (c.front items).Perm c.live :=
  (List.subperm_of_subset honce (front_subset_live c items)).perm_of_length_le
    (by rw [hall, hlength])

/-- With the front before all slots of deleted columns, the columns are those of the front. -/
theorem live_front (c : Catalog) (items : List Arg) :
    Catalog.live { c with
      order := c.front items ++ c.order.filter fun slot => !c.isLive slot } = c.front items := by
  have hfront : (c.front items).filter c.isLive = c.front items :=
    List.filter_eq_self.2 fun slot hslot => (mem_live.1 (front_subset_live c items hslot)).2
  have hdead : (c.order.filter fun slot => !c.isLive slot).filter c.isLive = [] := by
    rw [List.filter_filter, List.filter_eq_nil_iff]
    simp
  calc (c.front items ++ c.order.filter fun slot => !c.isLive slot).filter c.isLive
      = c.front items ++ [] := by rw [List.filter_append, hfront, hdead]
    _ = c.front items := List.append_nil _

/-- Reordering puts the columns into the order in which the items name them. -/
theorem reshapes_reorder {newOrder : Arg} {u : Unit} (hends : Ends (reorder newOrder) c u c') :
    ∃ items, newOrder.elements = .ok items ∧
      c.Reshapes c' (items.filterMap fun item =>
        c.columns.find? fun column => Names.isNamed column.2 item) ∧
      NamedBy items c'.names ∧ c'.names.Perm c.names := by
  obtain ⟨items, helements, hlength, -, hall, honce, rfl⟩ := ends_reorder.1 hends
  have hperm := front_perm_live hlength hall honce
  have hlive := live_front c items
  have hnames : Catalog.names { c with
      order := c.front items ++ c.order.filter fun slot => !c.isLive slot } =
        (c.front items).map c.nameOf := congrArg (List.map c.nameOf) hlive
  refine ⟨items, helements, ⟨?_, ?_, rfl, grows_of_slots rfl⟩, ?_, ?_⟩
  · calc Catalog.columns { c with
          order := c.front items ++ c.order.filter fun slot => !c.isLive slot }
        = (c.front items).map (fun slot => (slot, c.nameOf slot)) :=
          congrArg (List.map fun slot => (slot, c.nameOf slot)) hlive
      _ = _ := by
          rw [front, List.map_filterMap]
          congr 1
          funext item
          rw [slotOfItem?_eq, columns, List.find?_map]
          rfl
  · exact (hperm.append_right _).trans (List.filter_append_perm c.isLive c.order)
  · rw [hnames]
    exact namedBy_front hall
  · rw [hnames]
    exact hperm.map c.nameOf

/-- Columns can be reordered if and only if items name each of them once. -/
theorem Valid.exists_reorder_iff (h : c.Valid) {newOrder : Arg} :
    (∃ c', Ends (reorder newOrder) c () c') ↔
      ∃ items names, newOrder.elements = .ok items ∧ names.Perm c.names ∧ NamedBy items names := by
  constructor
  · rintro ⟨c', hends⟩
    obtain ⟨items, helements, -, hnamed, hperm⟩ := reshapes_reorder hends
    exact ⟨items, c'.names, helements, hperm, hnamed⟩
  · rintro ⟨items, names, helements, hperm, hnamed⟩
    have hkeys : ∀ name ∈ names, Datum.unhashable? name = none :=
      fun name hname => h.keys name (hperm.mem_iff.1 hname)
    have hlength : items.length = c.live.length := by
      rw [hnamed.length_eq, hperm.length_eq, Catalog.names, List.length_map]
    have hall : (c.front items).length = items.length := by
      refine List.filterMap_length_eq_length.2 fun item hitem => ?_
      obtain ⟨name, hname, hnames⟩ := hnamed.exists_name hitem
      obtain ⟨slot, hslot, rfl⟩ := List.mem_map.1 (hperm.mem_iff.1 hname)
      rw [slotOfItem?_eq, List.find?_isSome]
      exact ⟨slot, hslot, hnames⟩
    have honce : (c.front items).Nodup :=
      hnamed.nodup (h.apart.perm hperm.symm h.keys) hkeys (namedBy_front hall)
        (fun slot hslot => h.keys _ (nameOf_mem_names (front_subset_live c items hslot)))
    have hitems : ∀ item ∈ items, Datum.unhashable? item = none := by
      intro item hitem
      obtain ⟨name, hname, hnames⟩ := hnamed.exists_name hitem
      obtain ⟨v, hv, hmatch⟩ := (Option.any_eq_true _ _).1 hnames
      rw [Datum.unhashable?_of_toValue? hv]
      exact Datum.unhashable?_of_isMatch (hkeys name hname) hmatch
    exact ⟨_, ends_reorder.2 ⟨items, helements, hlength, hitems, hall, honce, rfl⟩⟩

theorem newNames?_eq_some {items : List Arg} {names : List String} (h : newNames? items = some names) :
    items = names.map .text := by
  induction items generalizing names with
  | nil =>
    obtain rfl := Option.some.inj h
    rfl
  | cons item items ih =>
    rw [newNames?, List.mapM_cons] at h
    obtain ⟨name, hname, h⟩ := Option.bind_eq_some_iff.1 h
    obtain ⟨rest, hrest, h⟩ := Option.bind_eq_some_iff.1 h
    obtain rfl := Option.some.inj h
    cases item with
    | text s =>
      by_cases hs : s = ""
      · simp [hs] at hname
      · obtain rfl : s = name := by simpa [hs] using hname
        rw [List.map_cons, ih hrest]
    | _ => cases hname

/-- A slot after slots were given new names. -/
def relabel (relabels : List (ℕ × String)) (j : ℕ) (s : Slot) : Slot :=
  relabels.foldl (fun s a => if a.1 = j then { s with name := .text a.2 } else s) s

theorem relabel_of_notMem {relabels : List (ℕ × String)} {j : ℕ} (h : j ∉ relabels.map Prod.fst)
    (s : Slot) : relabel relabels j s = s := by
  induction relabels with
  | nil => rfl
  | cons a relabels ih =>
    rw [List.map_cons, List.mem_cons, not_or] at h
    rw [relabel, List.foldl_cons, if_neg (Ne.symm h.1)]
    exact ih h.2

/-- Of different slots each is given its own new name. -/
theorem relabel_of_mem {relabels : List (ℕ × String)} (honce : (relabels.map Prod.fst).Nodup)
    {j : ℕ} {name : String} (h : (j, name) ∈ relabels) (s : Slot) :
    relabel relabels j s = { s with name := .text name } := by
  induction relabels with
  | nil => cases h
  | cons a relabels ih =>
    rw [List.map_cons, List.nodup_cons] at honce
    rw [relabel, List.foldl_cons]
    rcases List.mem_cons.1 h with rfl | h
    · rw [if_pos rfl]
      exact relabel_of_notMem honce.1 _
    · have hne : a.1 ≠ j := fun hj => honce.1 (hj ▸ List.mem_map_of_mem h)
      rw [if_neg hne]
      exact ih honce.2 h

theorem relabel_kept {relabels : List (ℕ × String)} (honce : (relabels.map Prod.fst).Nodup) (j : ℕ)
    (s : Slot) : (relabel relabels j s).deleted = s.deleted ∧
      (relabel relabels j s).source = s.source := by
  by_cases hj : j ∈ relabels.map Prod.fst
  · obtain ⟨a, ha, rfl⟩ := List.mem_map.1 hj
    simp [relabel_of_mem honce ha]
  · simp [relabel_of_notMem hj]

section Relabelled

variable {names : List String}

theorem nodup_relabels (h : c.Valid) (hlength : names.length = c.live.length) :
    ((c.live.zip names).map Prod.fst).Nodup := by
  rw [List.map_fst_zip hlength.ge]
  exact h.nodup_live

/-- Columns whose slots are given new names are shown under these. -/
theorem columns_of_relabel (h : c.Valid) (hlength : names.length = c.live.length)
    (horder : c'.order = c.order) (hslots : c'.slots = c.slots.mapIdx (relabel (c.live.zip names))) :
    c'.columns = c.live.zip (names.map .text) := by
  have honce := nodup_relabels h hlength
  have hlive := live_of_mapIdx horder hslots fun j s => (relabel_kept honce j s).1
  have hnames : ∀ a ∈ c.live.zip names, c'.nameOf a.1 = .text a.2 := by
    intro a ha
    obtain ⟨s, hs, -⟩ := isLive_iff.1 (mem_live.1 (List.of_mem_zip ha).1).2
    rw [nameOf_of_mapIdx hslots, hs, Option.map_some, relabel_of_mem honce ha, Option.getD_some]
  have hpairs : c'.columns = ((c.live.zip names).map Prod.fst).map fun slot =>
      (slot, c'.nameOf slot) := by rw [List.map_fst_zip hlength.ge, columns, hlive]
  rw [hpairs, List.map_map, List.zip_map_right]
  exact List.map_congr_left fun a ha => congrArg (Prod.mk a.1) (hnames a ha)

theorem grows_of_relabel (h : c.Valid) (hlength : names.length = c.live.length)
    (hslots : c'.slots = c.slots.mapIdx (relabel (c.live.zip names))) : c.Grows c' := by
  refine grows_of_mapIdx hslots (fun j s => (relabel_kept (nodup_relabels h hlength) j s).2) ?_
  intro j s hs hdeleted
  refine relabel_of_notMem (fun hj => ?_) s
  rw [List.map_fst_zip hlength.ge] at hj
  obtain ⟨s', hs', hlive⟩ := isLive_iff.1 (mem_live.1 hj).2
  obtain rfl : s = s' := Option.some.inj (hs.symm.trans hs')
  rw [hdeleted] at hlive
  cases hlive

end Relabelled

/-- Renaming puts the columns under the given names, in their order. -/
theorem Valid.reshapes_rename (h : c.Valid) {newNames : Arg} {u : Unit}
    (hends : Ends (rename newNames) c u c') :
    ∃ names : List String, newNames.elements = .ok (names.map .text) ∧
      c'.names = names.map .text ∧ Names.Apart c'.names ∧
      c.Reshapes c' (c.live.zip (names.map .text)) := by
  obtain ⟨items, names, kept, helements, hlength, hnames, hdistinct, hc'⟩ := ends_rename.1 hends
  obtain rfl := newNames?_eq_some hnames
  have hlength : names.length = c.live.length := by simpa using hlength
  have hslots : c'.slots = c.slots.mapIdx (relabel (c.live.zip names)) :=
    hc' ▸ slots_foldl_setSlot Prod.fst (fun a s => { s with name := .text a.2 }) _ c
  have horder : c'.order = c.order := hc' ▸ order_foldl_setSlot Prod.fst _ _ c
  have hcolumns := columns_of_relabel h hlength horder hslots
  have hshown : c'.names = names.map .text := by
    rw [← map_snd_columns, hcolumns, List.map_snd_zip]
    simp [hlength]
  refine ⟨names, helements, hshown, ?_, hcolumns, .of_eq horder,
    width_of_mapIdx hslots, grows_of_relabel h hlength hslots⟩
  have hapart := (Names.distinct_eq_ok.1 hdistinct).2.2
  rw [hshown]
  refine List.pairwise_map.2 ((List.pairwise_map.1 hapart).imp fun {a b} hab => ?_)
  simpa [Bool.eq_false_iff] using hab

/-- A column that keeps its name and its origin is shown as before. -/
theorem reshapes_setSlot {slot : ℕ} {f : Slot → Slot} (hslots : c'.slots = (c.setSlot slot f).slots)
    (horder : c'.order = c.order) (hlive : c.isLive slot = true)
    (hf : ∀ s, (f s).name = s.name ∧ (f s).deleted = s.deleted ∧ (f s).source = s.source) :
    c.Reshapes c' c.columns := by
  rw [slots_setSlot] at hslots
  refine ⟨columns_of_mapIdx horder hslots ?_ ?_, .of_eq horder, width_of_mapIdx hslots,
    grows_of_mapIdx hslots ?_ ?_⟩
  · intro j s
    split_ifs <;> simp [hf]
  · intro j s
    split_ifs <;> simp [hf]
  · intro j s
    split_ifs <;> simp [hf]
  · intro j s hs hdead
    rw [if_neg]
    rintro rfl
    obtain ⟨s', hs', hlive⟩ := isLive_iff.1 hlive
    obtain rfl : s = s' := Option.some.inj (hs.symm.trans hs')
    rw [hdead] at hlive
    cases hlive

theorem isLive_of_slotOf {arg : Arg} {slot : ℕ} (h : c.slotOf arg = .ok slot) :
    c.isLive slot = true := by
  unfold slotOf at h
  cases hslot : arg.text?.bind fun name => c.slotNamed? name with
  | none => simp [hslot] at h
  | some there =>
    obtain ⟨name, -, hname⟩ := Option.bind_eq_some_iff.1 hslot
    obtain rfl : there = slot := by simpa [hslot] using h
    exact (mem_live.1 (List.mem_of_find?_eq_some hname)).2

/-! Types, parsers and formatters leave the columns as they are. -/

theorem reshapes_setType {type column : Arg} {u : Unit} (h : Ends (setType type column) c u c') :
    c.Reshapes c' c.columns := by
  obtain ⟨kind, slot, -, hslot, -, hc'⟩ := ends_setType.1 h
  have hslots : c'.slots = (c.setSlot slot fun s =>
      { s with type := kind, parser? := some kind.parser }).slots := hc' ▸ rfl
  exact reshapes_setSlot hslots (hc' ▸ rfl) (isLive_of_slotOf hslot) fun _ => ⟨rfl, rfl, rfl⟩

theorem reshapes_setParser {parser column : Arg} {u : Unit}
    (h : Ends (setParser parser column) c u c') : c.Reshapes c' c.columns := by
  obtain ⟨f, slot, -, hslot, -, hc'⟩ := ends_setParser.1 h
  have hslots : c'.slots = (c.setSlot slot fun s =>
      { s with type := .raw, parser? := some f }).slots := hc' ▸ rfl
  exact reshapes_setSlot hslots (hc' ▸ rfl) (isLive_of_slotOf hslot) fun _ => ⟨rfl, rfl, rfl⟩

theorem reshapes_setFormatter {formatter column : Arg} {u : Unit}
    (h : Ends (setFormatter formatter column) c u c') : c.Reshapes c' c.columns := by
  obtain ⟨f, slot, -, -, rfl⟩ := ends_setFormatter.1 h
  exact ⟨rfl, .refl _, rfl, grows_of_slots rfl⟩

theorem Valid.columns_withDerived (h : c.Valid) (name : String) :
    (c.withDerived name).columns = c.columns ++ [(c.width, .text name)] ∧
      c.Grows (c.withDerived name) := by
  have hold : ∀ slot < c.width, (c.withDerived name).slots[slot]? = c.slots[slot]? :=
    fun slot hslot => List.getElem?_append_left hslot
  have hnew : (c.withDerived name).slots[c.width]? =
      some { name := .text name, type := .raw, source := false } := by
    simp [withDerived, width]
  have hlt : ∀ slot ∈ c.order, slot < c.width :=
    fun slot hslot => List.mem_range.1 (h.order.mem_iff.1 hslot)
  have hlive : (c.withDerived name).live = c.live ++ [c.width] := by
    have hkept : c.order.filter (c.withDerived name).isLive = c.order.filter c.isLive :=
      List.filter_congr fun slot hslot => by rw [isLive, isLive, hold slot (hlt slot hslot)]
    have hadded : (c.withDerived name).isLive c.width = true := isLive_iff.2 ⟨_, hnew, rfl⟩
    calc (c.order ++ [c.width]).filter (c.withDerived name).isLive
        = c.order.filter c.isLive ++ [c.width] := by simp [hkept, hadded]
      _ = c.live ++ [c.width] := rfl
  refine ⟨?_, ?_, ?_, ?_⟩
  · have hkept : c.live.map (fun slot => (slot, (c.withDerived name).nameOf slot)) = c.columns :=
      List.map_congr_left fun slot hslot => by
        rw [nameOf, nameOf, hold slot (lt_width_of_isLive (mem_live.1 hslot).2)]
    rw [Catalog.columns, hlive, List.map_append, hkept, List.map_singleton, nameOf, hnew]
    rfl
  · rw [width_withDerived]
    exact Nat.le_succ _
  · intro slot s hs
    exact ⟨s, (hold slot (List.getElem?_eq_some_iff.1 hs).1).trans hs, rfl⟩
  · intro slot s hs _
    exact (hold slot (List.getElem?_eq_some_iff.1 hs).1).trans hs

end Catalog

/-! ### Calls that take place -/

/-- What a catalog shows: its columns, and how many slots it has had so far. -/
structure Shown where
  columns : List (ℕ × Value)
  made : ℕ

def Catalog.shown (c : Catalog) : Shown := { columns := c.columns, made := c.width }

namespace CatalogCall

/-- The items of an argument that has some. -/
def itemsOf (arg : Arg) : List Arg := arg.elements.toOption.getD []

theorem itemsOf_of_elements {arg : Arg} {items : List Arg} (h : arg.elements = .ok items) :
    itemsOf arg = items := by
  rw [itemsOf, h]
  rfl

/-- What is shown after the call has taken place. A new column comes last, named columns go, and the
others come in the order of the names, or under the new names. -/
def reshape (s : Shown) : CatalogCall → Shown
  | operate _ _ (.text name) =>
    { columns := s.columns ++ [(s.made, .text name)], made := s.made + 1 }
  | delete columns =>
    { s with columns := s.columns.filter fun column =>
        !columns.asList.any (Names.isNamed column.2) }
  | reorder newOrder =>
    { s with columns := (itemsOf newOrder).filterMap fun item =>
        s.columns.find? fun column => Names.isNamed column.2 item }
  | rename newNames =>
    { s with columns := (s.columns.zip (itemsOf newNames)).map fun (column, item) =>
        (column.1, item.toValue?.getD .null) }
  | _ => s

end CatalogCall

namespace Catalog

variable {c c' : Catalog}

/-- What a catalog must keep for its extension to be valid, the new slots being those of columns that
operations make. -/
theorem Valid.of_extends {added : List Operation} (h : c.Valid) (hextends : c.Extends c' added)
    (hadded : ∀ op ∈ added, ∀ slot ∈ op.output :: op.inputs, slot < c'.width) (hgrows : c.Grows c')
    (hnew : ∀ (slot : ℕ) (s : Slot), c.width ≤ slot → c'.slots[slot]? = some s → s.source = false)
    (horder : c'.order.Perm (List.range c'.width)) (hapart : Names.Apart c'.names)
    (hkeys : ∀ name ∈ c'.names, Datum.unhashable? name = none) : c'.Valid where
  order := horder
  apart := hapart
  keys := hkeys
  sourceWidth := hextends.sourceWidth.trans_le (h.sourceWidth.trans hextends.width)
  source slot s hs := by
    rw [hextends.sourceWidth]
    by_cases hslot : slot < c.width
    · obtain ⟨s', hs', hsource⟩ := hgrows.source slot _ (List.getElem?_eq_getElem hslot)
      obtain rfl : s = s' := Option.some.inj (hs.symm.trans hs')
      rw [hsource, h.source slot _ (List.getElem?_eq_getElem hslot)]
    · have hsource := h.sourceWidth
      rw [hnew slot s (not_lt.1 hslot) hs, eq_comm, decide_eq_false_iff_not]
      omega
  operations op hop slot hslot := by
    rw [hextends.operations] at hop
    rcases List.mem_append.1 hop with hop | hop
    · exact (h.operations op hop slot hslot).trans_le hextends.width
    · exact hadded op hop slot hslot
  formats := hextends.formats h.formats

/-- A change that makes no slot leaves a valid catalog if the names that it shows are. -/
theorem Valid.of_reshapes {added : List Operation} {columns : List (ℕ × Value)} (h : c.Valid)
    (hreshapes : c.Reshapes c' columns) (hextends : c.Extends c' added)
    (hadded : ∀ op ∈ added, ∀ slot ∈ op.output :: op.inputs, slot < c'.width)
    (hapart : Names.Apart c'.names) (hkeys : ∀ name ∈ c'.names, Datum.unhashable? name = none) :
    c'.Valid := by
  refine h.of_extends hextends hadded hreshapes.grows ?_ ?_ hapart hkeys
  · intro slot s hslot hs
    have hlt : slot < c'.width := (List.getElem?_eq_some_iff.1 hs).1
    rw [hreshapes.width] at hlt
    omega
  · rw [hreshapes.width]
    exact hreshapes.order.trans h.order

/-- Names that stay are as good as before. -/
theorem Valid.of_reshapes_same {added : List Operation} (h : c.Valid)
    (hreshapes : c.Reshapes c' c.columns) (hextends : c.Extends c' added)
    (hadded : ∀ op ∈ added, ∀ slot ∈ op.output :: op.inputs, slot < c'.width) : c'.Valid := by
  have hnames : c'.names = c.names := by
    rw [← map_snd_columns, hreshapes.columns, map_snd_columns]
  exact h.of_reshapes hreshapes hextends hadded (hnames ▸ h.apart) (hnames ▸ h.keys)

/-- What a call that takes place makes of a catalog: a valid one, which shows something else. -/
structure Becomes (c c' : Catalog) (shown : Shown) : Prop where
  valid : c'.Valid
  grows : c.Grows c'
  shown : c'.shown = shown
  sourceWidth : c'.sourceWidth = c.sourceWidth

theorem Reshapes.shown {columns : List (ℕ × Value)} (h : c.Reshapes c' columns) :
    c'.shown = { c.shown with columns } := by
  rw [Catalog.shown, Catalog.shown, h.columns, h.width]

/-- A new column whose name no other column has keeps the names apart. -/
theorem Valid.apart_concat (h : c.Valid) {name : String} (hfresh : c.slotNamed? name = none) :
    Names.Apart (c.names ++ [.text name]) := by
  refine List.pairwise_append.2 ⟨h.apart, List.pairwise_singleton _ _, ?_⟩
  intro a ha b hb
  obtain rfl := List.mem_singleton.1 hb
  obtain ⟨slot, hslot, rfl⟩ := List.mem_map.1 ha
  exact Bool.eq_false_iff.2 (List.find?_eq_none.1 hfresh slot hslot)

theorem Valid.keys_concat (h : c.Valid) (name : String) :
    ∀ item ∈ c.names ++ [.text name], Datum.unhashable? item = none := by
  intro item hitem
  rcases List.mem_append.1 hitem with hitem | hitem
  · exact h.keys item hitem
  · rw [List.mem_singleton.1 hitem]
    rfl

theorem Valid.step_operate (h : c.Valid) {func columns newName : Arg} {output : ℕ}
    (hends : Ends (operate func columns newName) c output c') :
    c.Becomes c' ((CatalogCall.operate func columns newName).reshape c.shown) := by
  obtain ⟨_, _, -, -, -, hextends, hslots⟩ := extends_operate hends
  obtain ⟨f, inputs, made, -, -, hmade, hc'⟩ := ends_operate.1 hends
  rcases ends_outputSlot.1 hmade with ⟨rfl, -, rfl⟩ | ⟨name, rfl, -, hfresh, -, rfl⟩
  · have hreshapes : c.Reshapes c' c.columns := hc' ▸ ⟨rfl, .refl _, rfl, grows_of_slots rfl⟩
    exact ⟨h.of_reshapes_same hreshapes hextends (by simpa using hslots), hreshapes.grows,
      hreshapes.shown, hextends.sourceWidth⟩
  · obtain ⟨hcolumns, hgrows⟩ := h.columns_withDerived name
    have hcolumns : c'.columns = c.columns ++ [(c.width, .text name)] := hc' ▸ hcolumns
    have hwidth : c'.width = c.width + 1 := hc' ▸ width_withDerived c name
    have hgrows : c.Grows c' := hgrows.trans (grows_of_slots (hc' ▸ rfl))
    have hnames : c'.names = c.names ++ [.text name] := by
      rw [← map_snd_columns, hcolumns, List.map_append, map_snd_columns]
      rfl
    have horder : c'.order = c.order ++ [c.width] := hc' ▸ rfl
    refine ⟨h.of_extends hextends (by simpa using hslots) hgrows ?_ ?_ ?_ ?_, hgrows, ?_,
      hextends.sourceWidth⟩
    · intro slot s hslot hs
      have hlt : slot < c'.width := (List.getElem?_eq_some_iff.1 hs).1
      obtain rfl : slot = c.width := by omega
      have hlast : c'.slots[c.width]? = some { name := .text name, type := .raw, source := false } := by
        rw [← hc']
        simp [withDerived, width]
      rw [Option.some.inj (hs.symm.trans hlast)]
    · rw [horder, hwidth, List.range_succ]
      exact h.order.append_right _
    · exact hnames ▸ h.apart_concat hfresh
    · exact hnames ▸ h.keys_concat name
    · rw [Catalog.shown, hcolumns, hwidth]
      rfl

theorem Valid.of_delete {φ : Type} [FunctionText φ] (h : c.Valid) {columns : Datum φ} {u : Unit}
    (hends : Ends (delete columns) c u c') : c'.Valid := by
  obtain ⟨slots, -, hreshapes⟩ := reshapes_of_delete hends
  have hnames : c'.names.Sublist c.names := by
    rw [← map_snd_columns, hreshapes.columns, ← map_snd_columns]
    exact List.filter_sublist.map Prod.snd
  exact h.of_reshapes hreshapes (extends_delete hends) (by simp) (h.apart.sublist hnames)
    fun name hname => h.keys name (hnames.subset hname)

theorem Valid.step_delete (h : c.Valid) {columns : Arg} {u : Unit}
    (hends : Ends (delete columns) c u c') :
    c.Becomes c' ((CatalogCall.delete columns).reshape c.shown) := by
  have hreshapes := h.reshapes_delete hends
  exact ⟨h.of_delete hends, hreshapes.grows, hreshapes.shown, (extends_delete hends).sourceWidth⟩

theorem Valid.step_reorder (h : c.Valid) {newOrder : Arg} {u : Unit}
    (hends : Ends (reorder newOrder) c u c') :
    c.Becomes c' ((CatalogCall.reorder newOrder).reshape c.shown) := by
  obtain ⟨items, helements, hreshapes, -, hperm⟩ := reshapes_reorder hends
  refine ⟨h.of_reshapes hreshapes (extends_reorder hends) (by simp) (h.apart.perm hperm.symm h.keys)
    (fun name hname => h.keys name (hperm.mem_iff.1 hname)), hreshapes.grows, ?_,
    (extends_reorder hends).sourceWidth⟩
  rw [hreshapes.shown, CatalogCall.reshape, CatalogCall.itemsOf_of_elements helements]
  rfl

theorem Valid.step_rename (h : c.Valid) {newNames : Arg} {u : Unit}
    (hends : Ends (rename newNames) c u c') :
    c.Becomes c' ((CatalogCall.rename newNames).reshape c.shown) := by
  obtain ⟨names, helements, hnames, hapart, hreshapes⟩ := h.reshapes_rename hends
  refine ⟨h.of_reshapes hreshapes (extends_rename hends) (by simp) hapart ?_, hreshapes.grows, ?_,
    (extends_rename hends).sourceWidth⟩
  · rw [hnames]
    intro name hname
    obtain ⟨_, -, rfl⟩ := List.mem_map.1 hname
    rfl
  · rw [hreshapes.shown, CatalogCall.reshape, CatalogCall.itemsOf_of_elements helements]
    simp only [shown, columns, List.zip_map_left, List.zip_map_right, List.map_map]
    rfl

/-- A call that makes no column and leaves those that there are. -/
theorem Valid.step_same (h : c.Valid) (hreshapes : c.Reshapes c' c.columns)
    (hextends : c.Extends c' []) : c.Becomes c' c.shown :=
  ⟨h.of_reshapes_same hreshapes hextends (by simp), hreshapes.grows, hreshapes.shown,
    hextends.sourceWidth⟩

/-- A call that takes place leads from a valid catalog to a valid one, in which the old slots are
where they were, and does to the columns that are shown what it is to do. -/
theorem Valid.step (h : c.Valid) {call : CatalogCall} {output : Option ℕ}
    (hends : Ends (call.change live) c output c') : c.Becomes c' (call.reshape c.shown) := by
  cases call
  all_goals
    simp only [CatalogCall.change, ends_bind, ends_pure] at hends
    obtain ⟨_, _, hends, -, rfl⟩ := hends
  case operate => exact h.step_operate hends
  case setType => exact h.step_same (reshapes_setType hends) (extends_setType hends)
  case setParser => exact h.step_same (reshapes_setParser hends) (extends_setParser hends)
  case setFormatter => exact h.step_same (reshapes_setFormatter hends) (extends_setFormatter hends)
  case delete => exact h.step_delete hends
  case reorder => exact h.step_reorder hends
  case rename => exact h.step_rename hends

/-- Different names that are keys make a catalog, in which they stand in their order. -/
theorem exists_ofNames {names : List Value} (hapart : Names.Apart names)
    (hkeys : ∀ name ∈ names, Datum.unhashable? name = none) :
    ∃ c, ofNames names = .ok c ∧ c.Valid ∧ c.sourceWidth = names.length ∧
      c.shown = { columns := (List.range names.length).zip names, made := names.length } := by
  have hdistinct : Names.distinct names = .ok names := Names.distinct_eq_ok.2 ⟨rfl, hkeys, hapart⟩
  let c : Catalog := {
    slots := names.map fun name => { name }
    order := List.range names.length
    sourceWidth := names.length }
  have hwidth : c.width = names.length := by simp [c, width]
  have hslots : ∀ slot (hslot : slot < names.length), c.slots[slot]? = some { name := names[slot] } :=
    fun slot hslot => by simp [c, hslot]
  have hlive : c.live = List.range names.length :=
    List.filter_eq_self.2 fun slot hslot =>
      isLive_iff.2 ⟨_, hslots slot (List.mem_range.1 hslot), rfl⟩
  have hcolumns : c.columns = (List.range names.length).zip names := by
    rw [columns, hlive]
    apply List.ext_getElem (by simp)
    intro i hi _
    have hi : i < names.length := by simpa using hi
    simp [nameOf, hslots i hi]
  have hnames : c.names = names := by
    rw [← map_snd_columns, hcolumns, List.map_snd_zip (by simp)]
  refine ⟨c, by rw [ofNames, hdistinct]; rfl, ?_, rfl, by rw [shown, hcolumns, hwidth]⟩
  refine ⟨by rw [hwidth], hnames ▸ hapart, hnames ▸ hkeys, hwidth.ge, ?_, by simp [c], ?_⟩
  · intro slot s hs
    have hlt : slot < names.length := hwidth ▸ (List.getElem?_eq_some_iff.1 hs).1
    rw [hslots slot hlt] at hs
    obtain rfl := Option.some.inj hs
    exact (decide_eq_true hlt).symm
  · exact ⟨List.nodup_nil, by simp [c]⟩

end Catalog

end TablePipeline
