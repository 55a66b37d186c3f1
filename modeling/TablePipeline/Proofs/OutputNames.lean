import Mathlib
import TablePipeline.Proofs.LaterEdits
import TablePipeline.Proofs.Reopening

/-!
The names of the output columns of a table, after any edits. The columns of the rows always have
different names, and so have the aggregates, which are named once and for all. The columns of groups
are named after both: a key has the name that its column has now, and nothing compares that name with
those of the aggregates, or with those of the other keys, when a column is made, renamed or grouped
by. So groups have different names as long as no column is a key twice and no key has taken the
name of an aggregate. Names that are different can be chosen one by one, and make a file that can be
opened again; names of which one is repeated make a file that cannot.
-/
namespace TablePipeline

/-! ### What an edit does to names -/

namespace Edit

variable {t t' : Table} {u : Unit}

/-- What an edit does to the names of columns, keys and aggregates. -/
structure Naming (t t' : Table) : Prop where
  /-- A column is there as before, or it has a text as its name. -/
  columns : ∀ column ∈ t'.catalog.columns,
    column ∈ t.catalog.columns ∨ ∃ s : String, column.2 = .text s
  /-- Keys stay, or they are set anew to columns that are named by texts. -/
  keys : t'.rules.keys = t.rules.keys ∨ ∀ key ∈ t'.rules.keys,
    ∃ s : String, t'.catalog.nameOf key.slot.toNat = .text s
  /-- New aggregates have texts as their names, which are different and not taken. -/
  aggregates : ∃ added : List String,
    t'.rules.aggregateNames = t.rules.aggregateNames ++ textRow added ∧ added.Nodup ∧
      ∀ s ∈ added, s ≠ "" ∧ Datum.text s ∉ t.catalog.names ++ t.rules.aggregateNames

theorem Naming.refl (t : Table) : Naming t t where
  columns _ hcolumn := .inl hcolumn
  keys := .inl rfl
  aggregates := ⟨[], by simp [textRow]⟩

/-- A change of the catalog alone. -/
theorem names_onCatalog {α : Type} {change : Change α} {a : α}
    (hchange : ∀ c, Ends change t.catalog a c → ∀ column ∈ c.columns,
      column ∈ t.catalog.columns ∨ ∃ s : String, column.2 = .text s)
    (h : Ends (onCatalog change) t a t') : Naming t t' := by
  obtain ⟨c, hc, rfl⟩ := ends_onCatalog.1 h
  exact ⟨hchange c hc, .inl rfl, (Naming.refl t).aggregates⟩

theorem columns_of_delete {φ : Type} [FunctionText φ] {c c' : Catalog} {columns : Datum φ}
    (h : Ends (Catalog.delete columns) c u c') :
    ∀ column ∈ c'.columns, column ∈ c.columns ∨ ∃ s : String, column.2 = .text s := by
  obtain ⟨slots, -, hreshapes⟩ := Catalog.reshapes_of_delete h
  intro column hcolumn
  rw [hreshapes.columns] at hcolumn
  exact .inl (List.mem_of_mem_filter hcolumn)

/-- Columns that are resolved are named by texts. -/
theorem text_of_resolve {φ : Type} [FunctionText φ] {c : Catalog} {arg : Datum φ} {slots : List ℕ}
    (h : c.resolve arg = .ok slots) : ∀ slot ∈ slots, ∃ s : String, c.nameOf slot = .text s := by
  intro slot hslot
  obtain ⟨rfl, -⟩ := Catalog.found_of_resolve h
  obtain ⟨item, -, hitem⟩ := List.mem_filterMap.1 hslot
  obtain ⟨name, -, hname⟩ := Option.bind_eq_some_iff.1 hitem
  exact ⟨name, (Catalog.of_slotNamed? hname).2⟩

/-- The keys of a grouping are columns that are named by texts. -/
theorem names_groupBy {keys : Arg} (h : Ends (setKeys keys) t u t') : Naming t t' := by
  obtain ⟨entries, slots, -, hslots, rfl⟩ := ends_setKeys.1 h
  refine ⟨fun _ => .inl, .inr fun key hkey => ?_, (Naming.refl t).aggregates⟩
  obtain ⟨entry, hentry, rfl⟩ := List.mem_map.1 hkey
  exact text_of_resolve hslots _ (List.of_mem_zip hentry).2

/-- Fresh names are different texts, none of which is empty or taken. -/
theorem areFresh_iff {names : List Arg} {taken : List Value} :
    areFresh names taken = true ↔ ∃ texts : List String, names = texts.map .text ∧ texts.Nodup ∧
      ∀ s ∈ texts, s ≠ "" ∧ Datum.text s ∉ taken := by
  have hcontain : ∀ s : String, Names.contain taken (.text s) = false ↔
      Datum.text s ∉ taken := by
    intro s
    rw [← Bool.not_eq_true, Names.contain, List.any_eq_true]
    simp
  rw [areFresh, Bool.and_eq_true, List.all_eq_true, List.isEmpty_iff,
    Names.repeats_eq_nil_iff]
  constructor
  · rintro ⟨hnew, hapart⟩
    obtain ⟨texts, rfl⟩ : names ∈ Set.range (List.map (Datum.text : String → Arg)) := by
      rw [Set.range_list_map]
      intro name hname
      have hname := hnew name hname
      split at hname
      · exact ⟨_, rfl⟩
      · cases hname
    refine ⟨texts, rfl, Names.apart_texts.1 hapart, fun s hs => ?_⟩
    simpa [hcontain] using hnew _ (List.mem_map_of_mem hs)
  · rintro ⟨texts, rfl, hnodup, hnew⟩
    refine ⟨fun name hname => ?_, Names.apart_texts.2 hnodup⟩
    obtain ⟨s, hs, rfl⟩ := List.mem_map.1 hname
    simpa [hcontain] using hnew s hs

/-- New aggregates have fresh names. -/
theorem names_aggregate {func columns newNames : Arg}
    (h : Ends (addAggregates func columns newNames) t u t') : Naming t t' := by
  obtain ⟨f, slots, names, -, -, -, hcount, hfresh, rfl⟩ := ends_addAggregates.1 h
  obtain ⟨texts, rfl, hnodup, hnew⟩ := areFresh_iff.1 hfresh
  have hback : (texts.map (Datum.text : String → Arg)).filterMap Datum.text? = texts := by
    simp [List.filterMap_map, Datum.text?, Function.comp_def]
  have hlength : texts.length = slots.length := by simpa using hcount
  rw [hback]
  refine ⟨fun _ => .inl, .inl rfl, texts, ?_, hnodup, hnew⟩
  have hnames : (slots.zip texts).map (fun a => (Datum.text a.2 : Value)) = textRow texts := by
    rw [textRow]
    nth_rewrite 2 [← List.map_snd_zip hlength.le]
    rw [List.map_map]
    rfl
  simp [RowRules.aggregateNames, ← hnames]

/-- A made column has the text that it was asked for as its name, or the table stays as it was. -/
theorem names_operate {func columns newName : Arg} (hvalid : t.catalog.Valid)
    (h : Ends (Edit.operate func columns newName).steps t u t') : Naming t t' := by
  obtain ⟨output, c, hoperate, rfl⟩ := ends_operate.1 h
  refine ⟨fun column hcolumn => ?_, .inl rfl, (Naming.refl t).aggregates⟩
  have hcolumns : c.columns = _ := congrArg Shown.columns (hvalid.step_operate hoperate).shown
  change column ∈ c.columns at hcolumn
  rw [hcolumns] at hcolumn
  cases newName with
  | text name =>
    rcases List.mem_append.1 hcolumn with hold | hnew
    · exact .inl hold
    · exact .inr ⟨name, by rw [List.mem_singleton.1 hnew]⟩
  | _ => exact .inl hcolumn

/-- Columns that are given another order are those that were there. -/
theorem columns_of_reorder {c c' : Catalog} {names : Arg} (h : Ends (Catalog.reorder names) c u c') :
    ∀ column ∈ c'.columns, column ∈ c.columns ∨ ∃ s : String, column.2 = .text s := by
  intro column hcolumn
  obtain ⟨items, -, hreshapes, -⟩ := Catalog.reshapes_reorder h
  rw [hreshapes.columns] at hcolumn
  obtain ⟨item, -, hfound⟩ := List.mem_filterMap.1 hcolumn
  exact .inl (List.mem_of_find?_eq_some hfound)

/-- Columns that are renamed all have texts as their names. -/
theorem columns_of_rename {c c' : Catalog} {names : Arg} (hvalid : c.Valid)
    (h : Ends (Catalog.rename names) c u c') :
    ∀ column ∈ c'.columns, column ∈ c.columns ∨ ∃ s : String, column.2 = .text s := by
  intro column hcolumn
  obtain ⟨texts, -, -, -, hreshapes⟩ := hvalid.reshapes_rename h
  rw [hreshapes.columns] at hcolumn
  obtain ⟨s, -, hs⟩ := List.mem_map.1 (List.of_mem_zip hcolumn).2
  exact .inr ⟨s, hs.symm⟩

theorem names_of_steps {e : Edit} (hvalid : t.catalog.Valid) (h : Ends e.steps t u t') :
    Naming t t' := by
  cases e with
  | operate func columns newName => exact names_operate hvalid h
  | setType column type =>
    rw [steps] at h
    refine names_onCatalog (fun c hc column hcolumn => .inl ?_) h
    rwa [(Catalog.reshapes_setType hc).columns] at hcolumn
  | setParser column parser =>
    rw [steps] at h
    refine names_onCatalog (fun c hc column hcolumn => .inl ?_) h
    rwa [(Catalog.reshapes_setParser hc).columns] at hcolumn
  | setFormatter column formatter =>
    rw [steps] at h
    refine names_onCatalog (fun c hc column hcolumn => .inl ?_) h
    rwa [(Catalog.reshapes_setFormatter hc).columns] at hcolumn
  | filter columns predicate =>
    obtain ⟨f, slots, -, -, rfl⟩ := ends_addFilter.1 h
    exact { Naming.refl t with }
  | groupBy keys => exact names_groupBy h
  | aggregate func columns newNames => exact names_aggregate h
  | delete columns => exact names_onCatalog (fun _ => columns_of_delete) h
  | select columns =>
    obtain ⟨keep, drop, -, -, ⟨-, rfl⟩ | ⟨-, h⟩⟩ := ends_keepOnly.1 h
    · exact .refl t
    · exact names_onCatalog (fun _ => columns_of_delete) h
  | reorder names => exact names_onCatalog (fun _ => columns_of_reorder) h
  | rename names => exact names_onCatalog (fun _ => columns_of_rename hvalid) h

end Edit

/-! ### The names of a table -/

namespace Table

/-- The names of the output columns: a key has the name of its column, and aggregates have their
own. -/
def outputNames (t : Table) : List Value :=
  if t.rules.makesGroups then
    t.rules.keys.map (fun key => t.catalog.nameOf key.slot.toNat) ++ t.rules.aggregateNames
  else t.catalog.names

/-- What holds of the names of a table after any edits. -/
structure Named (t : Table) : Prop where
  valid : t.catalog.Valid
  keys : ∀ key ∈ t.rules.keys, ∃ s : String, t.catalog.nameOf key.slot.toNat = .text s
  aggregates : ∃ texts : List String,
    t.rules.aggregateNames = textRow texts ∧ texts.Nodup ∧ ∀ s ∈ texts, s ≠ ""
  /-- A table that makes groups has come from an edit that took place. -/
  evaluable : t.rules.makesGroups = true → t.Evaluable

variable {t t' : Table}

theorem named_of_ofArgs {store : Store} {path haveHeader batchSize : Arg} {settings : FileSettings}
    (h : ofArgs store path haveHeader batchSize settings = .ok t) : t.Named := by
  obtain ⟨-, hrules⟩ := catalog_of_ofArgs h
  refine ⟨valid_of_ofArgs h, by simp [hrules], ⟨[], by simp [hrules, RowRules.aggregateNames, textRow]⟩,
    fun hgroups => ?_⟩
  rw [hrules] at hgroups
  cases hgroups

/-- A key is the slot of a column. -/
theorem Evaluable.mem_live (h : t.Evaluable) (hvalid : t.catalog.Valid) {key : GroupKey}
    (hkey : key ∈ t.rules.keys) :
    key.slot = key.slot.toNat ∧ key.slot.toNat ∈ t.catalog.live := by
  have hlive := h.keys key hkey
  rw [Catalog.isLiveAt, Bool.and_eq_true, decide_eq_true_iff] at hlive
  refine ⟨(Int.toNat_of_nonneg hlive.1).symm, Catalog.mem_live.2 ⟨?_, hlive.2⟩⟩
  rw [hvalid.order.mem_iff, List.mem_range]
  exact Catalog.lt_width_of_isLive hlive.2

theorem Named.edit (h : t.Named) (store : Store) (e : Edit) : (t.edit store e).2.Named := by
  cases hedit : (t.edit store e).1 with
  | error fault => rwa [edit_eq_of_error hedit]
  | ok _ =>
    have hvalid := valid_edit h.valid store e
    have hnaming := Edit.names_of_steps h.valid (steps_of_edit hedit)
    have hevaluable := evaluable_of_edit hedit
    refine ⟨hvalid, fun key hkey => ?_, ?_, fun _ => hevaluable⟩
    · rcases hnaming.keys with hsame | hset
      · obtain ⟨s, hs⟩ := h.keys key (hsame ▸ hkey)
        obtain ⟨-, hlive⟩ := hevaluable.mem_live hvalid hkey
        obtain hold | ⟨s', hs'⟩ := hnaming.columns _ (List.mem_map_of_mem hlive)
        · obtain ⟨slot, -, hslot⟩ := List.mem_map.1 hold
          obtain ⟨rfl, hname⟩ := Prod.mk.inj hslot
          exact ⟨s, hname.symm.trans hs⟩
        · exact ⟨s', hs'⟩
      · exact hset key hkey
    · obtain ⟨texts, htexts, hnodup, hsome⟩ := h.aggregates
      obtain ⟨added, hadded, haddedNodup, hfresh⟩ := hnaming.aggregates
      refine ⟨texts ++ added, by rw [hadded, htexts, textRow, textRow, textRow, List.map_append], ?_,
        fun s hs => ?_⟩
      · refine hnodup.append haddedNodup fun s hs hs' => ?_
        refine (hfresh s hs').2 (List.mem_append_right _ ?_)
        rw [htexts]
        exact List.mem_map_of_mem hs
      · rcases List.mem_append.1 hs with hs | hs
        · exact hsome s hs
        · exact (hfresh s hs).1

theorem Named.after (h : t.Named) (history : List (Store × Edit)) : (t.after history).Named := by
  induction history generalizing t with
  | nil => exact h
  | cons call rest ih => exact ih (h.edit call.1 call.2)

/-- The name of a column that is there. -/
theorem Catalog.nameAt_of_live {c : Catalog} {slot : ℕ} (h : slot ∈ c.live) :
    c.nameAt slot = .ok (c.nameOf slot) := by
  obtain ⟨s, hs, -⟩ := Catalog.isLive_iff.1 (Catalog.mem_live.1 h).2
  have hplace : ¬(slot : ℤ) < 0 := by omega
  simp only [Catalog.nameAt, Catalog.nameOf, if_neg hplace, Int.toNat_natCast, hs]
  rfl

theorem Named.names_eq (h : t.Named) : t.names = .ok t.outputNames := by
  cases hgroups : t.rules.makesGroups with
  | false => simp [names, outputNames, hgroups]
  | true =>
    have hkeys : t.rules.keys.mapM (fun key => t.catalog.nameAt key.slot) =
        .ok (t.rules.keys.map fun key => t.catalog.nameOf key.slot.toNat) := by
      rw [mapM_eq_ok_iff, List.map_map]
      refine List.map_congr_left fun key hkey => ?_
      obtain ⟨hslot, hlive⟩ := (h.evaluable hgroups).mem_live h.valid hkey
      rw [hslot, Catalog.nameAt_of_live hlive, Function.comp_apply, hslot, Int.toNat_natCast]
    simp [names, outputNames, hgroups, GroupSchema.names, hkeys, Except.mapError]

/-- The columns have different names unless a column is a key twice or a key has the name of an
aggregate. -/
theorem Named.apart_iff (h : t.Named) : Names.Apart t.outputNames ↔
    (t.rules.keys.map (·.slot)).Nodup ∧
      ∀ key ∈ t.rules.keys, t.catalog.nameOf key.slot.toNat ∉ t.rules.aggregateNames := by
  cases hgroups : t.rules.makesGroups with
  | false =>
    obtain ⟨hkeys, -⟩ : t.rules.keys = [] ∧ t.rules.aggregates = [] := by
      simpa [RowRules.makesGroups, RowRules.isGrouped, RowRules.isAggregate] using hgroups
    simpa [outputNames, hgroups, hkeys] using h.valid.apart
  | true =>
    have hkeys : Names.Apart (t.rules.keys.map fun key => t.catalog.nameOf key.slot.toNat) ↔
        (t.rules.keys.map (·.slot)).Nodup := by
      rw [Names.Apart, List.Nodup, List.pairwise_map, List.pairwise_map]
      refine List.Pairwise.iff_of_mem fun {a b} ha hb => ?_
      obtain ⟨haslot, halive⟩ := (h.evaluable hgroups).mem_live h.valid ha
      obtain ⟨hbslot, hblive⟩ := (h.evaluable hgroups).mem_live h.valid hb
      rw [← Bool.not_eq_true, not_iff_not]
      constructor
      · intro hmatch
        rw [haslot, hbslot, h.valid.eq_of_isMatch halive hblive hmatch]
      · intro hslot
        obtain ⟨s, hs⟩ := h.keys b hb
        rw [hslot, hs, Datum.isMatch_text]
    obtain ⟨texts, htexts, hnodup, -⟩ := h.aggregates
    have haggregates : Names.Apart t.rules.aggregateNames := by
      rw [htexts]
      exact Names.apart_texts.2 hnodup
    have hbetween : (∀ a ∈ t.rules.keys.map (fun key => t.catalog.nameOf key.slot.toNat),
        ∀ b ∈ t.rules.aggregateNames, a.isMatch b = false) ↔
          ∀ key ∈ t.rules.keys, t.catalog.nameOf key.slot.toNat ∉ t.rules.aggregateNames := by
      rw [List.forall_mem_map]
      refine forall₂_congr fun key _ => ?_
      rw [htexts]
      simp only [textRow, List.forall_mem_map, ← Bool.not_eq_true, Datum.isMatch_text]
      simp [eq_comm]
    rw [outputNames, if_pos hgroups, Names.Apart, List.pairwise_append, hbetween]
    exact ⟨fun h => ⟨hkeys.1 h.1, h.2.2⟩, fun h => ⟨hkeys.2 h.1, haggregates, h.2⟩⟩

/-! ### Columns that are chosen by their names -/

/-- A plan that puts out the columns in some places, in this order. -/
def PutsOut (t : Table) (formatted : Bool) (places : List ℕ) (p : Plan) : Prop :=
  p.names = places.map (fun i => t.outputNames.getD i .null) ∧
    p.work =
      if t.rules.makesGroups then
        let group := GroupSchema.planned t.catalog t.rules t.outputNames places
        .groups t.source (RowTransform.ofTable t.catalog t.rules false)
          (if formatted then group else { group with formatters := [] })
      else
        .rows t.source (RowTransform.ofTable t.catalog t.rules formatted)
          (places.filterMap fun i => t.catalog.live[i]?)

/-- The columns in some places have the names in these places. -/
theorem map_nameOf_live {c : Catalog} {places : List ℕ} (h : ∀ i ∈ places, i < c.live.length) :
    (places.filterMap fun i => c.live[i]?).map c.nameOf =
      places.map fun i => c.names.getD i .null := by
  induction places with
  | nil => rfl
  | cons i places ih =>
    have hi := List.getElem?_eq_getElem (h i List.mem_cons_self)
    rw [List.filterMap_cons, hi, List.map_cons, List.map_cons,
      ih fun j hj => h j (List.mem_cons_of_mem i hj), List.getD_eq_getElem?_getD, Catalog.names,
      List.getElem?_map, hi]
    rfl

section Places

variable {options : RunOptions} {select : List Value} {places : List ℕ}

/-- Columns of groups that have places can be put out. -/
theorem Named.exists_plan_of_groups (h : t.Named) (hgroups : t.rules.makesGroups = true)
    (hchosen : options.chosenNames t.outputNames = .ok (some select))
    (hplaces : ∀ scope, Names.places scope t.outputNames select = .ok places) (hsome : places ≠ [])
    (formatted : Bool) : ∃ p, t.plan options formatted = .ok p ∧ t.PutsOut formatted places p := by
  have hnames := h.names_eq
  have hevaluable := h.evaluable hgroups
  have hall : GroupSchema.names t.catalog t.rules = .ok t.outputNames := by
    simpa [names, hgroups] using hnames
  have hpositions : GroupSchema.positions t.outputNames (some select) = .ok places :=
    hplaces .group
  have hplan : GroupSchema.plan t.catalog t.rules (some select) =
      .ok (GroupSchema.planned t.catalog t.rules t.outputNames places) :=
    (GroupSchema.plan_eq_ok_iff hall hpositions).2 ⟨hsome, hevaluable.keys,
      fun a ha => hevaluable.sources a (RowRules.mem_of_neededAggregates ha), rfl⟩
  refine ⟨_, by simp only [plan, hnames, ok_bind, hchosen, hgroups, if_true, groupWork, hplan]; rfl,
    ?_, ?_⟩
  · cases formatted <;> rfl
  · rw [if_pos hgroups]

/-- Columns of rows that have places can be put out. -/
theorem Named.exists_plan_of_rows (h : t.Named) (hgroups : t.rules.makesGroups = false)
    (hchosen : options.chosenNames t.outputNames = .ok (some select))
    (hplaces : ∀ scope, Names.places scope t.outputNames select = .ok places) (hsome : places ≠ [])
    (formatted : Bool) : ∃ p, t.plan options formatted = .ok p ∧ t.PutsOut formatted places p := by
  have hnames := h.names_eq
  have hall : t.outputNames = t.catalog.names := by simp [outputNames, hgroups]
  have hslots : chosenSlots t.catalog (some select) =
      .ok (places.filterMap fun i => t.catalog.live[i]?) := by
    rw [chosenSlots, ← hall, hplaces, ok_bind]
  have hbound : ∀ i ∈ places, i < t.catalog.live.length := by
    intro i hi
    have hlt := Names.lt_of_places (hplaces .table) hi
    rwa [hall, Catalog.length_names] at hlt
  have hmap := map_nameOf_live hbound
  have hslot : (places.filterMap fun i => t.catalog.live[i]?).isEmpty = false := by
    rw [← Bool.not_eq_true, List.isEmpty_iff, ← List.map_eq_nil_iff (f := t.catalog.nameOf), hmap,
      List.map_eq_nil_iff]
    exact hsome
  have hwork : t.rowWork (some select) formatted = .ok
      ((places.filterMap fun i => t.catalog.live[i]?).map t.catalog.nameOf,
        .rows t.source (RowTransform.ofTable t.catalog t.rules formatted)
          (places.filterMap fun i => t.catalog.live[i]?)) := by
    rw [rowWork, hslots, ok_bind, hslot]
    rfl
  refine ⟨_, by simp only [plan, hnames, ok_bind, hchosen, hgroups, hwork]; rfl, ?_, ?_⟩
  · rw [hall]
    exact hmap
  · rw [if_neg (by simp [hgroups])]

/-- Columns that have places can be put out. -/
theorem Named.exists_plan (h : t.Named)
    (hchosen : options.chosenNames t.outputNames = .ok (some select))
    (hplaces : ∀ scope, Names.places scope t.outputNames select = .ok places) (hsome : places ≠ [])
    (formatted : Bool) : ∃ p, t.plan options formatted = .ok p ∧ t.PutsOut formatted places p := by
  cases hgroups : t.rules.makesGroups with
  | true => exact h.exists_plan_of_groups hgroups hchosen hplaces hsome formatted
  | false => exact h.exists_plan_of_rows hgroups hchosen hplaces hsome formatted

end Places

/-- Names that are chosen bring out their columns: each stands in one place only, and the columns in
these places are put out under these names. -/
def BringsOut (t : Table) (chosen : List String) (formatted : Bool) : Prop :=
  ∃ (options : RunOptions) (p : Plan) (places : List ℕ),
    RunOptions.ofSettings [("select", .list (chosen.map .text))] = .ok options ∧
      t.plan options formatted = .ok p ∧ t.PutsOut formatted places p ∧ p.names = textRow chosen ∧
      List.Forall₂ (fun s i => ∀ j, t.outputNames[j]? = some (.text s) ↔ j = i) chosen places

/-- Names that are not empty are taken as a choice. -/
theorem ofSettings_select {chosen : List String} (hsome : chosen ≠ []) (htexts : ∀ s ∈ chosen, s ≠ "") :
    RunOptions.ofSettings [("select", .list (chosen.map .text))] =
      .ok { select := some chosen } := by
  have hread : ∀ read : Arg → Option String, (∀ s ∈ chosen, read (.text s) = some s) →
      (chosen.map .text).mapM read = some chosen := by
    intro read
    clear hsome htexts
    induction chosen with
    | nil => exact fun _ => rfl
    | cons s rest ih =>
      intro h
      rw [List.map_cons, List.mapM_cons, h s List.mem_cons_self,
        ih fun s' hs' => h s' (List.mem_cons_of_mem s hs')]
      rfl
  have hnames : RunOptions.namesOf "select" (.list (chosen.map .text)) = .ok (some chosen) := by
    simp only [RunOptions.namesOf, Datum.items?]
    rw [hread _ fun s hs => by simp [htexts s hs]]
  generalize (Datum.list (chosen.map .text) : Arg) = arg at hnames ⊢
  have hcheck : RunOptions.signature.check [("select", arg)] = .ok () := rfl
  have hworkers : RunOptions.workersOf (Settings.get [("select", arg)] "num_workers" (.int 1)) =
      .ok 1 := rfl
  have hraise : RunOptions.flagOf "raise_on_error"
      (Settings.get [("select", arg)] "raise_on_error" (.bool false)) = .ok false := rfl
  have horder : RunOptions.flagOf "preserve_order"
      (Settings.get [("select", arg)] "preserve_order" (.bool true)) = .ok true := rfl
  have hselect : Settings.get [("select", arg)] "select" .null = arg := rfl
  have hexclude : RunOptions.namesOf "exclude" (Settings.get [("select", arg)] "exclude" .null) =
      .ok none := rfl
  have hfolder : Settings.get [("select", arg)] "tempdir" .null = .null := rfl
  rw [RunOptions.ofSettings, hcheck, hworkers, hraise, horder, hselect, hnames, hexclude, hfolder]
  simp [Except.mapError, ok_bind, hsome]

/-- Of names that are apart a text stands in the place where it is found, and nowhere else. -/
theorem getElem?_eq_text_iff {names : List Value} (hapart : Names.Apart names) {s : String}
    (hs : Datum.text s ∈ names) (j : ℕ) :
    names[j]? = some (.text s) ↔ j = names.findIdx (·.isMatch (.text s)) := by
  have hfound : names.findIdx (·.isMatch (.text s)) < names.length :=
    List.findIdx_lt_length_of_exists ⟨_, hs, (Datum.isMatch_text _ _).2 rfl⟩
  have hthere := (Datum.isMatch_text _ _).1 (List.findIdx_getElem (w := hfound))
  constructor
  · intro hj
    obtain ⟨hlt, hj⟩ := List.getElem?_eq_some_iff.1 hj
    rcases lt_trichotomy j (names.findIdx (·.isMatch (.text s))) with hless | rfl | hmore
    · have hmatch := List.pairwise_iff_getElem.1 hapart _ _ hlt hfound hless
      rw [hj, hthere, (Datum.isMatch_text _ _).2 rfl] at hmatch
      cases hmatch
    · rfl
    · have hmatch := List.pairwise_iff_getElem.1 hapart _ _ hfound hlt hmore
      rw [hj, hthere, (Datum.isMatch_text _ _).2 rfl] at hmatch
      cases hmatch
  · rintro rfl
    rw [List.getElem?_eq_getElem hfound, hthere]

theorem Named.bringsOut (h : t.Named) (hapart : Names.Apart t.outputNames) {chosen : List String}
    (hsome : chosen ≠ []) (htexts : ∀ s ∈ chosen, s ≠ "" ∧ Datum.text s ∈ t.outputNames)
    (formatted : Bool) : t.BringsOut chosen formatted := by
  have hplaces : ∀ scope, Names.places scope t.outputNames (textRow chosen) =
      .ok ((textRow chosen).map fun name => t.outputNames.findIdx (·.isMatch name)) := by
    intro scope
    refine Names.places_eq_ok_iff.2 ⟨fun name hname => ?_, rfl⟩
    obtain ⟨s, hs, rfl⟩ := mem_textRow hname
    exact List.any_eq_true.2 ⟨_, (htexts s hs).2, (Datum.isMatch_text _ _).2 rfl⟩
  have hchosen : RunOptions.chosenNames { select := some chosen } t.outputNames =
      .ok (some (textRow chosen)) := rfl
  obtain ⟨p, hp, hputs⟩ := h.exists_plan hchosen hplaces (by simpa [textRow] using hsome) formatted
  have hone : ∀ s ∈ chosen, ∀ j, t.outputNames[j]? = some (.text s) ↔
      j = t.outputNames.findIdx (·.isMatch (.text s)) :=
    fun s hs => getElem?_eq_text_iff hapart (htexts s hs).2
  refine ⟨_, p, _, ofSettings_select hsome fun s hs => (htexts s hs).1, hp, hputs, ?_, ?_⟩
  · rw [hputs.1, textRow, List.map_map, List.map_map]
    refine List.map_congr_left fun s hs => ?_
    have hthere := (hone s hs _).2 rfl
    simp only [Function.comp_apply, List.getD_eq_getElem?_getD, hthere, Option.getD_some]
  · rw [textRow, List.map_map, List.forall₂_map_right_iff, List.forall₂_same]
    exact hone

end Table

/-- The names of a table after any edits. The columns of its rows have different names, and so have
its aggregates; whether all output columns have different names comes down to whether no column is a
key twice and no key has, by now, the name of an aggregate. If they do, every column can be chosen by
its name; and what a run of the table has written can be opened as a table if and only if they do. -/
theorem Table.names_after_edits {store : Store} {path haveHeader batchSize : Arg}
    {settings : FileSettings} {opened : Table}
    (hopen : ofArgs store path haveHeader batchSize settings = .ok opened)
    (history : List (Store × Edit)) :
    let t := opened.after history
    t.names = .ok t.outputNames ∧
    Names.Apart t.catalog.names ∧
    (∃ texts : List String, t.rules.aggregateNames = textRow texts ∧ texts.Nodup ∧
      ∀ s ∈ texts, s ≠ "") ∧
    (Names.Apart t.outputNames ↔ (t.rules.keys.map (·.slot)).Nodup ∧
      ∀ key ∈ t.rules.keys, t.catalog.nameOf key.slot.toNat ∉ t.rules.aggregateNames) ∧
    (Names.Apart t.outputNames → ∀ chosen : List String, chosen ≠ [] →
      (∀ s ∈ chosen, s ≠ "" ∧ Datum.text s ∈ t.outputNames) →
        ∀ formatted, t.BringsOut chosen formatted) ∧
    ∀ header : List String, t.outputNames = textRow header →
      (Names.Apart t.outputNames ↔ header.Nodup) ∧
      ((∀ name ∈ header, name.length ≤ 131072) →
        ∀ (b : Backend) (p : Plan) (output : Arg) (sink : Sink) (before after : Store)
          (report : Report) (size : Arg) (n : ℕ), t.plan {} true = .ok p →
          Sink.ofArgs before output (.named []) = .ok sink →
          b.execute p sink before = (.ok report, after) → batchSizeOf size = .ok n →
          OpensIfDistinct after output size header) := by
  intro t
  have h : t.Named := (named_of_ofArgs hopen).after history
  refine ⟨h.names_eq, h.valid.apart, h.aggregates, h.apart_iff,
    fun hapart chosen hsome htexts formatted => h.bringsOut hapart hsome htexts formatted,
    fun header hheader => ⟨by rw [hheader]; exact Names.apart_texts, ?_⟩⟩
  intro hfields b p output sink before after report size n hplan hsink hrun hsize
  obtain ⟨q, hq, hnames, hsome⟩ := (evaluable_of_plan hplan).plan true
  obtain rfl : p = q := Except.ok.inj (hplan.symm.trans hq)
  have hpnames : p.names = textRow header := by
    rw [← hheader]
    exact Except.ok.inj (hnames.symm.trans h.names_eq)
  refine opens_of_execute hpnames (fun hnone => hsome ?_) hfields hsink hrun hsize
  rw [hpnames, hnone, textRow, List.map_nil]

/-! ### A key that takes the name of an aggregate -/

/-- The groups of the second column, and how many rows each of them has. -/
def sizedTable : Table :=
  { groupedTable with rules := { groupedTable.rules with
      aggregates := [
        { func := .aggregate "agg_count" Aggregate.count, source := 0, name := .text "n" }] } }

/-- The same with another name for the second column. -/
def collidedTable : Table :=
  { sizedTable with catalog := sizedTable.catalog.setSlot 1 ({ · with name := .text "n" }) }

theorem edit_count :
    groupedTable.edit sampleStore (.aggregate (.text "count") (.text "k") (.text "n")) =
      (.ok (), sizedTable) := by
  have hsample : ∃ p, sizedTable.plan {} false = .ok p ∧
      p.sample sampleStore 10 = ⟨[[.text "1", .int 1], [.text "2", .int 1]], none⟩ := by
    refine ⟨_, rfl, ?_⟩
    simp only [Plan.sample, sizedTable, groupedTable, sampleTable, sample_ten]
    cbv
  obtain ⟨p, hplan, hsample⟩ := hsample
  exact Table.edit_of_steps rfl (dryRun_of_sample hplan hsample)

theorem edit_collide :
    sizedTable.edit sampleStore (.rename (.list [.text "k", .text "n"])) =
      (.ok (), collidedTable) := by
  have hsample : ∃ p, collidedTable.plan {} false = .ok p ∧
      p.sample sampleStore 10 = ⟨[[.text "1", .int 1], [.text "2", .int 1]], none⟩ := by
    refine ⟨_, rfl, ?_⟩
    simp only [Plan.sample, collidedTable, sizedTable, groupedTable, sampleTable, sample_ten]
    cbv
  obtain ⟨p, hplan, hsample⟩ := hsample
  exact Table.edit_of_steps rfl (dryRun_of_sample hplan hsample)

/-- Rows are grouped by a column and counted, and then the column is given the name of the count. Each
edit takes place, and both output columns have one name. Choosing it twice brings out the key twice,
and what a run has written cannot be opened. -/
theorem names_repeated_after_rename :
    sampleTable.edit sampleStore (.groupBy (.text "v")) = (.ok (), groupedTable) ∧
      groupedTable.edit sampleStore (.aggregate (.text "count") (.text "k") (.text "n")) =
        (.ok (), sizedTable) ∧
      sizedTable.edit sampleStore (.rename (.list [.text "k", .text "n"])) =
        (.ok (), collidedTable) ∧
      collidedTable.names = .ok [.text "n", .text "n"] ∧
      Names.places .group [.text "n", .text "n"] [.text "n", .text "n"] = .ok [0, 0] ∧
      ∀ (b : Backend) (p : Plan) (output : Arg) (sink : Sink) (before after : Store)
        (report : Report), collidedTable.plan {} true = .ok p →
        Sink.ofArgs before output (.named []) = .ok sink →
        b.execute p sink before = (.ok report, after) →
          ∃ shown, Table.ofArgs after output (.bool true) (.int 300) (.named []) =
            .error (.schema (.duplicateNames shown)) := by
  refine ⟨edit_groupBy, edit_count, edit_collide, rfl, rfl, ?_⟩
  intro b p output sink before after report hplan hsink hrun
  have hnames : p.names = textRow ["n", "n"] := by
    obtain rfl := Except.ok.inj hplan
    rfl
  exact (Table.opens_of_execute hnames (by decide) (by decide) hsink hrun rfl).2 (by decide)

/-- The table before the last edit has different names, each of which brings out its column. -/
theorem names_after_edits_counted :
    let t := sampleTable.after [
      (sampleStore, .groupBy (.text "v")),
      (sampleStore, .aggregate (.text "count") (.text "k") (.text "n"))]
    Names.Apart t.outputNames ∧ t.BringsOut ["n", "v"] true := by
  obtain ⟨-, -, -, hapart, hbrings, -⟩ := Table.names_after_edits ofArgs_sample [
    (sampleStore, .groupBy (.text "v")),
    (sampleStore, .aggregate (.text "count") (.text "k") (.text "n"))]
  simp only [Table.after, edit_groupBy, edit_count] at hapart hbrings ⊢
  have hnames : sizedTable.outputNames = [.text "v", .text "n"] := rfl
  have hdiffer : Names.Apart sizedTable.outputNames :=
    hapart.2 ⟨by decide, by simp [sizedTable, groupedTable, sampleTable, Catalog.nameOf,
      RowRules.aggregateNames]⟩
  exact ⟨hdiffer, hbrings hdiffer ["n", "v"] (by decide) (by simp [hnames]) true⟩

end TablePipeline
