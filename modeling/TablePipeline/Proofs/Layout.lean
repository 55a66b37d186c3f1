import Mathlib
import TablePipeline.Proofs.ChangedItems
import TablePipeline.Proofs.OutputNames
import TablePipeline.Proofs.RowAccounting

/-!
Edits of the layout: columns are deleted, selected, put into another order or given other names. What
is done with a row refers to slots, and none of these edits touches what is done in a slot; so the
transform of the rows stays the same, and whatever it computes or reports. Only the list of the slots
that are put out changes, or the names above it.
-/
namespace TablePipeline

/-! ### Catalogs that do the same work -/

namespace Catalog

variable {c c' : Catalog}

/-- Another catalog does the same with a row: it may show other columns, under other names. -/
structure SameWork (c c' : Catalog) : Prop where
  parsers : c'.slots.map (·.parser?) = c.slots.map (·.parser?)
  sourceWidth : c'.sourceWidth = c.sourceWidth
  operations : c'.operations = c.operations
  formatters : c'.formatters = c.formatters

theorem SameWork.refl (c : Catalog) : c.SameWork c := ⟨rfl, rfl, rfl, rfl⟩

theorem SameWork.trans {c'' : Catalog} (h : c.SameWork c') (h' : c'.SameWork c'') : c.SameWork c'' :=
  ⟨h'.parsers.trans h.parsers, h'.sourceWidth.trans h.sourceWidth,
    h'.operations.trans h.operations, h'.formatters.trans h.formatters⟩

theorem SameWork.width (h : c.SameWork c') : c'.width = c.width := by
  have hlength := congrArg List.length h.parsers
  rwa [List.length_map, List.length_map] at hlength

/-- A transform says nothing about names, order and deletion. -/
theorem SameWork.ofTable (h : c.SameWork c') (rules : RowRules) (formatted : Bool) :
    RowTransform.ofTable c' rules formatted = RowTransform.ofTable c rules formatted := by
  have hparsers : c'.parsers = c.parsers := by
    simp only [Catalog.parsers, List.map_take, h.parsers, h.sourceWidth]
  have hformats : c'.formatOperations = c.formatOperations := by
    rw [formatOperations, formatOperations, h.formatters]
  rw [RowTransform.ofTable, RowTransform.ofTable, hparsers, hformats, h.width, h.operations]

theorem sameWork_setSlot (c : Catalog) (slot : ℕ) {f : Slot → Slot}
    (hf : ∀ s, (f s).parser? = s.parser?) : c.SameWork (c.setSlot slot f) where
  parsers := by
    apply List.ext_getElem?
    intro i
    rw [setSlot, List.getElem?_map, List.getElem?_map, List.getElem?_modify]
    cases c.slots[i]? with
    | none => rfl
    | some s => by_cases hi : slot = i <;> simp [hi, hf]
  sourceWidth := rfl
  operations := rfl
  formatters := rfl

theorem sameWork_foldl_setSlot {α : Type} (slot : α → ℕ) (f : α → Slot → Slot)
    (hf : ∀ a s, (f a s).parser? = s.parser?) (as : List α) (c : Catalog) :
    c.SameWork (as.foldl (fun c a => c.setSlot (slot a) (f a)) c) := by
  induction as generalizing c with
  | nil => exact .refl c
  | cons a as ih => exact (sameWork_setSlot c (slot a) (hf a)).trans (ih _)

theorem sameWork_delete {φ : Type} [FunctionText φ] {columns : Datum φ} {u : Unit}
    (h : Ends (delete columns) c u c') : c.SameWork c' := by
  obtain ⟨slots, -, rfl⟩ := ends_delete.1 h
  exact sameWork_foldl_setSlot id (fun _ s => { s with deleted := true }) (fun _ _ => rfl) slots c

theorem sameWork_reorder {newOrder : Arg} {u : Unit} (h : Ends (reorder newOrder) c u c') :
    c.SameWork c' := by
  obtain ⟨items, -, -, -, -, -, rfl⟩ := ends_reorder.1 h
  exact ⟨rfl, rfl, rfl, rfl⟩

theorem sameWork_rename {newNames : Arg} {u : Unit} (h : Ends (rename newNames) c u c') :
    c.SameWork c' := by
  obtain ⟨items, names, kept, -, -, -, -, rfl⟩ := ends_rename.1 h
  exact sameWork_foldl_setSlot Prod.fst (fun a s => { s with name := .text a.2 }) (fun _ _ => rfl) _ c

end Catalog

namespace Edit

variable {t t' : Table} {u : Unit}

/-- Whether an edit says only which columns there are, in which order and under which names. -/
def isLayout : Edit → Bool
  | delete _ | select _ | reorder _ | rename _ => true
  | _ => false

/-- An edit of the layout changes the catalog alone, and not what is done with a row. -/
theorem sameWork_of_steps {e : Edit} (he : e.isLayout = true) (h : Ends e.steps t u t') :
    ∃ c, t' = { t with catalog := c } ∧ t.catalog.SameWork c := by
  cases e with
  | delete columns =>
    rw [steps, ends_onCatalog] at h
    obtain ⟨c, hc, rfl⟩ := h
    exact ⟨c, rfl, Catalog.sameWork_delete hc⟩
  | reorder names =>
    rw [steps, ends_onCatalog] at h
    obtain ⟨c, hc, rfl⟩ := h
    exact ⟨c, rfl, Catalog.sameWork_reorder hc⟩
  | rename names =>
    rw [steps, ends_onCatalog] at h
    obtain ⟨c, hc, rfl⟩ := h
    exact ⟨c, rfl, Catalog.sameWork_rename hc⟩
  | select columns =>
    obtain ⟨keep, drop, -, -, ⟨-, rfl⟩ | ⟨-, h⟩⟩ := ends_keepOnly.1 h
    · exact ⟨t.catalog, rfl, .refl _⟩
    · obtain ⟨c, hc, rfl⟩ := ends_onCatalog.1 h
      exact ⟨c, rfl, Catalog.sameWork_delete hc⟩
  | _ => cases he

end Edit

/-! ### Columns that are picked -/

/-- Picking cells of some slots is taking the cells of the slots that are picked. -/
theorem Row.picked_map {places slots : List ℕ} (h : ∀ i ∈ places, i < slots.length) (f : ℕ → Value) :
    Row.picked places (slots.map f) = (places.map fun i => slots.getD i 0).map f := by
  rw [Row.picked, List.map_map]
  refine List.map_congr_left fun i hi => ?_
  have hi := h i hi
  simp [hi]

/-- The items for which something holds are those in the places in which it holds. -/
theorem filter_eq_map_getD {α : Type} (q : α → Bool) (as : List α) (default : α) :
    as.filter q =
      ((List.range as.length).filter fun i => q (as.getD i default)).map fun i => as.getD i default := by
  have hall : as = (List.range as.length).map fun i => as.getD i default := by
    apply List.ext_getElem
    · simp
    · intro i hi _
      simp [hi]
  conv_lhs => rw [hall]
  rw [List.filter_map]
  rfl

namespace Catalog

variable {c c' : Catalog} {places : List ℕ}

/-- Another catalog shows the columns in some places. -/
structure Takes (c c' : Catalog) (places : List ℕ) : Prop where
  bound : ∀ i ∈ places, i < c.live.length
  columns : c'.columns = places.map fun i => c.columns.getD i (0, .null)

theorem Takes.live (h : c.Takes c' places) : c'.live = places.map fun i => c.live.getD i 0 := by
  rw [← map_fst_columns, h.columns, List.map_map]
  refine List.map_congr_left fun i hi => ?_
  have hi := h.bound i hi
  simp [Catalog.columns, hi]

theorem Takes.names (h : c.Takes c' places) : c'.names = Row.picked places c.names := by
  rw [← map_snd_columns, h.columns, List.map_map, Row.picked]
  refine List.map_congr_left fun i hi => ?_
  have hi := h.bound i hi
  simp [Catalog.columns, Catalog.names, hi]

/-- The places of the columns whose names have a property. -/
def placesOf (c : Catalog) (q : Value → Bool) : List ℕ :=
  (List.range c.names.length).filter fun i => q (c.names.getD i .null)

/-- Columns of which those with some names stay, in their order. -/
theorem takes_of_filter {q : Value → Bool}
    (h : c'.columns = c.columns.filter fun column => q column.2) : c.Takes c' (c.placesOf q) where
  bound i hi := by simpa [Catalog.names] using List.mem_of_mem_filter hi
  columns := by
    have hlength : c.columns.length = c.names.length := by simp [columns, Catalog.names]
    have hname : ∀ i, (c.columns.getD i (0, .null)).2 = c.names.getD i .null := by
      intro i
      rw [← map_snd_columns]
      exact (List.getD_map ..).symm
    rw [h, filter_eq_map_getD _ c.columns (0, .null), hlength, placesOf]
    simp only [hname]

/-- A new order shows all columns, in the places of a permutation. -/
theorem takes_of_reorder (hvalid : c.Valid) {newOrder : Arg} {u : Unit}
    (h : Ends (reorder newOrder) c u c') :
    ∃ items places, newOrder.elements = .ok items ∧ NamedBy items c'.names ∧
      places.Perm (List.range c.names.length) ∧ c.Takes c' places := by
  obtain ⟨items', helements', -, hnamed, -⟩ := reshapes_reorder h
  obtain ⟨items, helements, hlength, -, hall, honce, rfl⟩ := ends_reorder.1 h
  obtain rfl : items' = items := Except.ok.inj (helements'.symm.trans helements)
  have hperm := front_perm_live hlength hall honce
  refine ⟨items', (c.front items').map fun slot => c.live.idxOf slot, helements, hnamed, ?_, ?_, ?_⟩
  · have hplaces : c.live.map (fun slot => c.live.idxOf slot) = List.range c.names.length := by
      refine List.ext_getElem (by simp [Catalog.names]) fun i hi _ => ?_
      simp [hvalid.nodup_live.idxOf_getElem]
    exact (hperm.map _).trans (.of_eq hplaces)
  · rintro _ hi
    obtain ⟨slot, hslot, rfl⟩ := List.mem_map.1 hi
    exact List.idxOf_lt_length_of_mem (hperm.mem_iff.1 hslot)
  · rw [columns, live_front, List.map_map]
    refine List.map_congr_left fun slot hslot => ?_
    have hlt := List.idxOf_lt_length_of_mem (hperm.mem_iff.1 hslot)
    simp [columns, hlt]
    rfl

/-- Names that are given to columns in their order are those that the columns are shown under. -/
theorem names_of_rename (hvalid : c.Valid) {newNames : Arg} {u : Unit}
    (h : Ends (rename newNames) c u c') :
    ∃ texts : List String, newNames.elements = .ok (texts.map .text) ∧
      texts.length = c.names.length ∧ c'.live = c.live ∧ c'.names = textRow texts := by
  obtain ⟨texts, helements, hnames, -, hreshapes⟩ := hvalid.reshapes_rename h
  obtain ⟨items, _, _, hitems, hcount, -, -, -⟩ := ends_rename.1 h
  obtain rfl : items = texts.map .text := Except.ok.inj (hitems.symm.trans helements)
  have hlength : texts.length = c.live.length := by simpa using hcount
  refine ⟨texts, helements, by simpa [Catalog.names] using hlength, ?_, hnames⟩
  rw [← map_fst_columns, hreshapes.columns, List.map_fst_zip]
  simp [hlength]

end Catalog

/-! ### Plans and runs -/

namespace Table

variable {t t' : Table} {options : RunOptions}

/-- The plan of a table of rows whose columns are all put out. -/
theorem plan_of_rows (hrows : t.rules.makesGroups = false) (hlive : t.catalog.live ≠ [])
    (hselect : options.select = none) (hexclude : options.exclude = none) (formatted : Bool) :
    t.plan options formatted = .ok
      { names := t.catalog.names, options, batchSize := t.batchSize
        work := .rows t.source (RowTransform.ofTable t.catalog t.rules formatted) t.catalog.live } := by
  simp [plan, names, hrows, RunOptions.chosenNames, hselect, hexclude, rowWork, chosenSlots, hlive,
    Catalog.names]

end Table

namespace Plan

/-- Another plan puts out the rows that a plan puts out, changed; whatever else happens on the way is
the same. So its file holds the changed rows, under its own names, and the report lists the same
failures. -/
structure Recasts (p p' : Plan) (change : Row → Row) : Prop where
  sources : p'.work.sources = p.work.sources
  output : ∀ (b : Backend) (store : Store), b.output store p' = (b.output store p).map change
  files : ∀ (b : Backend) (sink sink' : Sink) (store store' after after' : Store)
    (report report' : Report),
    b.execute p sink store = (.ok report, after) → b.execute p' sink' store' = (.ok report', after') →
    (∀ source ∈ p.work.sources, store.place? sink.uri ≠ store.place? source.uri ∧
      store'.place? sink'.uri ≠ store'.place? source.uri ∧
      source.rows store = source.rows store') →
    ∃ settings settings', sink.opening = .ok settings ∧ sink'.opening = .ok settings' ∧
      sink.Holds settings p.names (b.output store p).items after report.rowsWritten ∧
      sink'.Holds settings' p'.names ((b.output store p).items.map change) after'
        report'.rowsWritten ∧
      report'.failures = report.failures

theorem recasts_of_output {p p' : Plan} {change : Row → Row}
    (hsources : p'.work.sources = p.work.sources)
    (houtput : ∀ (b : Backend) (store : Store), b.output store p' = (b.output store p).map change) :
    p.Recasts p' change := by
  refine ⟨hsources, houtput, ?_⟩
  intro b sink sink' store store' after after' report report' hrun hrun' hsame
  obtain ⟨hfailures, settings, hopening, hholds⟩ :=
    Backend.holds_of_execute hrun fun source hsource => (hsame source hsource).1
  obtain ⟨hfailures', settings', hopening', hholds'⟩ :=
    Backend.holds_of_execute hrun' fun source hsource => (hsame source (hsources ▸ hsource)).2.1
  have hrows : b.output store p = b.output store' p :=
    Backend.output_congr fun source hsource => (hsame source hsource).2.2
  rw [houtput, ← hrows] at hholds' hfailures'
  exact ⟨settings, settings', hopening, hopening', hholds, hholds', by rw [hfailures', hfailures]; rfl⟩

end Plan

/-- As long as no columns are chosen, another table is run as a table is, with its rows changed and
under other names. -/
def Table.Recasts (t t' : Table) (names : List Value) (change : Row → Row) : Prop :=
  ∀ (options : RunOptions) (formatted : Bool), options.select = none → options.exclude = none →
    ∃ p p', t.plan options formatted = .ok p ∧ t'.plan options formatted = .ok p' ∧
      p.names = t.outputNames ∧ p'.names = names ∧ p.Recasts p' change

namespace Table

variable {t t' : Table} {c : Catalog}

/-- A table of rows that shows some columns of another one. -/
theorem recasts_of_takes {places : List ℕ} (hrows : t.rules.makesGroups = false)
    (hwork : t.catalog.SameWork c) (htakes : t.catalog.Takes c places) (hlive : c.live ≠ []) :
    t.Recasts { t with catalog := c } (Row.picked places t.catalog.names) (Row.picked places) := by
  have hbefore : t.catalog.live ≠ [] := by
    intro hnil
    obtain ⟨i, hi⟩ := List.exists_mem_of_ne_nil places fun hnone =>
      hlive (by rw [htakes.live, hnone]; rfl)
    have hlt := htakes.bound i hi
    simp [hnil] at hlt
  intro options formatted hselect hexclude
  refine ⟨_, _, plan_of_rows hrows hbefore hselect hexclude formatted,
    plan_of_rows (t := { t with catalog := c }) hrows hlive hselect hexclude formatted,
    by simp [outputNames, hrows], htakes.names, Plan.recasts_of_output rfl fun b store => ?_⟩
  have hslots : ∀ slot ∈ t.catalog.live,
      slot < (RowTransform.ofTable t.catalog t.rules formatted).width :=
    fun slot hslot => Catalog.lt_width_of_isLive (Catalog.mem_live.1 hslot).2
  have hslots' : ∀ slot ∈ c.live, slot < (RowTransform.ofTable t.catalog t.rules formatted).width := by
    intro slot hslot
    rw [htakes.live] at hslot
    obtain ⟨i, hi, rfl⟩ := List.mem_map.1 hslot
    have hlt := htakes.bound i hi
    rw [List.getD_eq_getElem _ _ hlt]
    exact hslots _ (List.getElem_mem hlt)
  simp only [Backend.output, hwork.ofTable]
  refine Backend.workThrough_map fun row _ => ?_
  rw [Plan.rowStep_eq hslots, Plan.rowStep_eq hslots', htakes.live]
  cases (RowTransform.ofTable t.catalog t.rules formatted).run row with
  | error fault => rfl
  | ok kept? =>
    simp only [Except.map, List.map_map, Function.comp_def, List.map_map]
    congr 2
    funext values
    rw [Row.picked_map htakes.bound fun slot => values.getD slot .null, List.map_map]
    rfl

/-- The same rows under other names. -/
theorem recasts_of_rename {texts : List String} (hrows : t.rules.makesGroups = false)
    (hwork : t.catalog.SameWork c) (hsame : c.live = t.catalog.live) (hlive : c.live ≠ [])
    (hnames : c.names = textRow texts) :
    t.Recasts { t with catalog := c } (textRow texts) id := by
  intro options formatted hselect hexclude
  refine ⟨_, _, plan_of_rows hrows (hsame ▸ hlive) hselect hexclude formatted,
    plan_of_rows (t := { t with catalog := c }) hrows hlive hselect hexclude formatted,
    by simp [outputNames, hrows], hnames, Plan.recasts_of_output rfl fun b store => ?_⟩
  simp only [Backend.output, hwork.ofTable, hsame]
  exact (Outcome.map_id _).symm

/-! ### Groups -/

/-- The plan of all columns of the groups of a table. -/
def allGroups (t : Table) : GroupPlan :=
  GroupSchema.planned t.catalog t.rules t.outputNames (List.range t.outputNames.length)

theorem Named.plan_of_groups (h : t.Named) (hgroups : t.rules.makesGroups = true)
    (hselect : options.select = none) (hexclude : options.exclude = none) (formatted : Bool) :
    t.plan options formatted = .ok
      { names := t.outputNames, options, batchSize := t.batchSize
        work := .groups t.source (RowTransform.ofTable t.catalog t.rules false)
          (if formatted then t.allGroups else { t.allGroups with formatters := [] }) } := by
  have hevaluable := h.evaluable hgroups
  have hall : GroupSchema.names t.catalog t.rules = .ok t.outputNames := by
    simpa [names, hgroups] using h.names_eq
  have hsome : List.range t.outputNames.length ≠ [] := by
    obtain ⟨p, -, hnames, hsome⟩ := hevaluable.plan true
    rw [← Except.ok.inj (h.names_eq.symm.trans hnames)] at hsome
    simpa using hsome
  have hplan : GroupSchema.plan t.catalog t.rules none = .ok t.allGroups :=
    (GroupSchema.plan_eq_ok_iff hall rfl).2 ⟨hsome, hevaluable.keys,
      fun a ha => hevaluable.sources a (RowRules.mem_of_neededAggregates ha), rfl⟩
  have hnames : t.allGroups.names = t.outputNames :=
    List.ext_getElem (by simp [allGroups, GroupSchema.planned]) fun i hi _ => by
      simp_all [allGroups, GroupSchema.planned]
  simp only [plan, h.names_eq, ok_bind, RunOptions.chosenNames, hselect, hexclude, hgroups, if_true,
    groupWork, hplan]
  cases formatted <;> simp [hnames]

/-- A new order of the columns leaves the plan of the groups as it is. -/
theorem plan_of_order (hgroups : t.rules.makesGroups = true) (order : List ℕ) (options : RunOptions)
    (formatted : Bool) :
    Table.plan { t with catalog := { t.catalog with order } } options formatted =
      t.plan options formatted := by
  simp only [plan, names, hgroups, if_true]
  rfl

/-- Where the columns of a table are renamed, its keys are. -/
theorem Named.outputNames_of_rename (h : t.Named) (hgroups : t.rules.makesGroups = true)
    {texts : List String} (hsame : c.live = t.catalog.live) (hnames : c.names = textRow texts) :
    Table.outputNames { t with catalog := c } =
      t.rules.keys.map (fun key =>
        (textRow texts).getD (t.catalog.live.idxOf key.slot.toNat) .null) ++
        t.rules.aggregateNames := by
  rw [outputNames, if_pos hgroups]
  refine congrArg (· ++ t.rules.aggregateNames) (List.map_congr_left fun key hkey => ?_)
  obtain ⟨-, hlive⟩ := (h.evaluable hgroups).mem_live h.valid hkey
  have hlt := List.idxOf_lt_length_of_mem hlive
  rw [← hnames, Catalog.names, hsame]
  simp [hlt]

/-- Groups whose keys have been renamed are the same groups. -/
theorem recasts_of_groups (h : t.Named) (h' : Table.Named { t with catalog := c })
    (hgroups : t.rules.makesGroups = true) (hwork : t.catalog.SameWork c) :
    t.Recasts { t with catalog := c } (Table.outputNames { t with catalog := c }) id := by
  have hlength : (Table.outputNames { t with catalog := c }).length = t.outputNames.length := by
    simp [outputNames, hgroups]
  have hsame : Table.allGroups { t with catalog := c } =
      { t.allGroups with names := (Table.allGroups { t with catalog := c }).names } := by
    simp only [allGroups, GroupSchema.planned, hlength, hwork.formatters]
  intro options formatted hselect hexclude
  refine ⟨_, _, h.plan_of_groups hgroups hselect hexclude formatted,
    h'.plan_of_groups hgroups hselect hexclude formatted, rfl, rfl,
    Plan.recasts_of_output rfl fun b store => ?_⟩
  rw [Outcome.map_id]
  simp only [Backend.output, hwork.ofTable]
  rw [hsame]
  cases formatted <;> rfl

end Table

/-! ### Edits -/

/-- Deleting the columns of some slots by their names takes away just these. -/
theorem Catalog.Valid.mem_resolve_names {c : Catalog} (hvalid : c.Valid) {keep slots : List ℕ}
    (hslots : c.resolve (Datum.list ((c.live.filter fun slot => !keep.contains slot).map c.nameOf) :
      Value) = .ok slots) {slot : ℕ} (hlive : slot ∈ c.live) : slot ∈ slots ↔ slot ∉ keep := by
  have hitems : ∀ name : Value, name ∈ Datum.asList (Datum.list
      ((c.live.filter fun slot => !keep.contains slot).map c.nameOf) : Value) ↔
        ∃ there ∈ c.live, there ∉ keep ∧ c.nameOf there = name := by
    intro name
    simp [Datum.asList, Datum.items?, and_assoc]
  rw [hvalid.mem_resolve_iff hslots]
  constructor
  · rintro ⟨-, name, hitem, hname⟩
    obtain ⟨there, hthere, hdropped, hsame⟩ := (hitems _).1 hitem
    have hmatch : (c.nameOf slot).isMatch (c.nameOf there) = true := by
      rw [hsame, Datum.isMatch_text, hname]
    rwa [hvalid.eq_of_isMatch hlive hthere hmatch]
  · intro hdropped
    have hitem := (hitems (c.nameOf slot)).2 ⟨slot, hlive, hdropped, rfl⟩
    obtain ⟨name, -, hname, -⟩ := (found_of_resolve hslots).2 _ hitem
    exact ⟨hlive, name, hname ▸ hitem, hname⟩

/-- Selecting takes away all other columns. -/
theorem Edit.columns_of_keepOnly {t t' : Table} {u : Unit} {columns : Arg}
    (hvalid : t.catalog.Valid) (h : Ends (keepOnly columns) t u t') :
    t'.catalog.columns =
      t.catalog.columns.filter fun column => columns.asList.any (Names.isNamed column.2) := by
  obtain ⟨keep, drop, hkeep, rfl, h⟩ := ends_keepOnly.1 h
  have hnamed : ∀ slot ∈ t.catalog.live,
      (slot ∈ keep ↔ columns.asList.any (Names.isNamed (t.catalog.nameOf slot)) = true) :=
    fun slot hslot => (hvalid.mem_resolve hkeep).trans (and_iff_right hslot)
  rcases h with ⟨hnone, rfl⟩ | ⟨-, h⟩
  · -- No column is left over, so all of them have been selected.
    refine (List.filter_eq_self.2 fun column hcolumn => ?_).symm
    obtain ⟨slot, hslot, rfl⟩ := List.mem_map.1 hcolumn
    rw [← hnamed slot hslot]
    rw [List.map_eq_nil_iff, List.filter_eq_nil_iff] at hnone
    simpa using hnone slot hslot
  · obtain ⟨c, hc, rfl⟩ := ends_onCatalog.1 h
    obtain ⟨slots, hslots, hreshapes⟩ := Catalog.reshapes_of_delete hc
    rw [hreshapes.columns]
    refine List.filter_congr fun column hcolumn => ?_
    obtain ⟨slot, hslot, rfl⟩ := List.mem_map.1 hcolumn
    rw [Bool.eq_iff_iff, decide_eq_true_iff, hvalid.mem_resolve_names hslots hslot, not_not,
      hnamed slot hslot]

theorem Edit.ends_onCatalog_with {α : Type} {change : Change α} {t : Table} {a : α} {c : Catalog} :
    Ends (onCatalog change) t a { t with catalog := c } ↔ Ends change t.catalog a c := by
  rw [ends_onCatalog]
  constructor
  · rintro ⟨c', hc', hsame⟩
    rwa [← show c' = c from congrArg Table.catalog hsame]
  · exact fun h => ⟨c, h, rfl⟩

namespace Table

variable {t : Table} {store : Store} {e : Edit}

/-- An edit of the layout that takes place leaves another catalog, which does the same work and shows
a column. -/
theorem exists_catalog_of_edit (he : e.isLayout = true) (hedit : (t.edit store e).1 = .ok ()) :
    ∃ c, (t.edit store e).2 = { t with catalog := c } ∧
      Ends e.steps t () { t with catalog := c } ∧ t.catalog.SameWork c ∧
      (t.rules.makesGroups = false → c.live ≠ []) := by
  obtain ⟨c, hc, hwork⟩ := Edit.sameWork_of_steps he (steps_of_edit hedit)
  refine ⟨c, hc, hc ▸ steps_of_edit hedit, hwork, fun hrows hnone => ?_⟩
  obtain ⟨p, -, hnames, hsome⟩ := (evaluable_of_edit hedit).plan true
  rw [hc] at hnames
  have hshown : c.names = p.names := by simpa [names, hrows] using hnames
  exact hsome (by rw [← hshown, Catalog.names, hnone, List.map_nil])

/-- Edits of the layout, of a table that has been edited before in any way. None of them changes what
is done with a row. While the table puts out rows, a new order puts the cells of every row into the
order of the given names, new names stand above the same cells, and columns that are deleted or not
selected are cut out, with the others in the order that they had; nothing else changes in the output
or in the report, for any backend. Where the table puts out groups, a new order changes nothing, and
new names change the names of the keys alone. -/
theorem recasts_of_layout {store : Store} {path haveHeader batchSize : Arg} {settings : FileSettings}
    {opened : Table} (hopen : ofArgs store path haveHeader batchSize settings = .ok opened)
    (history : List (Store × Edit)) :
    let t := opened.after history
    (∀ store e, e.isLayout = true → (t.edit store e).1 = .ok () → ∀ formatted,
      RowTransform.ofTable (t.edit store e).2.catalog (t.edit store e).2.rules formatted =
        RowTransform.ofTable t.catalog t.rules formatted) ∧
    (t.rules.makesGroups = false → ∀ store,
      (∀ names, (t.edit store (.reorder names)).1 = .ok () →
        ∃ items places, names.elements = .ok items ∧
          Catalog.NamedBy items (Row.picked places t.catalog.names) ∧
          places.Perm (List.range t.catalog.names.length) ∧
          t.Recasts (t.edit store (.reorder names)).2 (Row.picked places t.catalog.names)
            (Row.picked places)) ∧
      (∀ names, (t.edit store (.rename names)).1 = .ok () →
        ∃ texts : List String, names.elements = .ok (texts.map .text) ∧
          texts.length = t.catalog.names.length ∧
          t.Recasts (t.edit store (.rename names)).2 (textRow texts) id) ∧
      (∀ columns, (t.edit store (.delete columns)).1 = .ok () →
        let places := t.catalog.placesOf fun name => !columns.asList.any (Names.isNamed name)
        t.Recasts (t.edit store (.delete columns)).2 (Row.picked places t.catalog.names)
          (Row.picked places)) ∧
      ∀ columns, (t.edit store (.select columns)).1 = .ok () →
        let places := t.catalog.placesOf fun name => columns.asList.any (Names.isNamed name)
        t.Recasts (t.edit store (.select columns)).2 (Row.picked places t.catalog.names)
          (Row.picked places)) ∧
    (t.rules.makesGroups = true → ∀ store,
      (∀ names, (t.edit store (.reorder names)).1 = .ok () → ∀ options formatted,
        (t.edit store (.reorder names)).2.plan options formatted = t.plan options formatted) ∧
      ∀ names, (t.edit store (.rename names)).1 = .ok () →
        ∃ texts : List String, names.elements = .ok (texts.map .text) ∧
          texts.length = t.catalog.names.length ∧
          t.Recasts (t.edit store (.rename names)).2
            (t.rules.keys.map (fun key =>
              (textRow texts).getD (t.catalog.live.idxOf key.slot.toNat) .null) ++
              t.rules.aggregateNames) id) := by
  intro t
  have h : t.Named := (named_of_ofArgs hopen).after history
  refine ⟨?_, fun hrows store => ⟨?_, ?_, ?_, ?_⟩, fun hgroups store => ⟨?_, ?_⟩⟩
  · intro store e he hedit formatted
    obtain ⟨c, hc, -, hwork, -⟩ := exists_catalog_of_edit he hedit
    rw [hc]
    exact hwork.ofTable _ formatted
  · intro names hedit
    obtain ⟨c, hc, hends, hwork, hlive⟩ := exists_catalog_of_edit rfl hedit
    obtain ⟨items, places, helements, hnamed, hperm, htakes⟩ :=
      Catalog.takes_of_reorder h.valid (Edit.ends_onCatalog_with.1 hends)
    rw [hc]
    exact ⟨items, places, helements, htakes.names ▸ hnamed, hperm,
      recasts_of_takes hrows hwork htakes (hlive hrows)⟩
  · intro names hedit
    obtain ⟨c, hc, hends, hwork, hlive⟩ := exists_catalog_of_edit rfl hedit
    obtain ⟨texts, helements, hlength, hsame, hnames⟩ :=
      Catalog.names_of_rename h.valid (Edit.ends_onCatalog_with.1 hends)
    rw [hc]
    exact ⟨texts, helements, hlength, recasts_of_rename hrows hwork hsame (hlive hrows) hnames⟩
  · intro columns hedit
    obtain ⟨c, hc, hends, hwork, hlive⟩ := exists_catalog_of_edit rfl hedit
    have hreshapes := h.valid.reshapes_delete (Edit.ends_onCatalog_with.1 hends)
    rw [hc]
    exact recasts_of_takes hrows hwork (Catalog.takes_of_filter hreshapes.columns) (hlive hrows)
  · intro columns hedit
    obtain ⟨c, hc, hends, hwork, hlive⟩ := exists_catalog_of_edit rfl hedit
    have hcolumns := Edit.columns_of_keepOnly h.valid hends
    rw [hc]
    exact recasts_of_takes hrows hwork (Catalog.takes_of_filter hcolumns) (hlive hrows)
  · intro names hedit options formatted
    obtain ⟨c, hc, hends, -, -⟩ := exists_catalog_of_edit rfl hedit
    obtain ⟨items, -, -, -, -, -, rfl⟩ :=
      Catalog.ends_reorder.1 (Edit.ends_onCatalog_with.1 hends)
    rw [hc]
    exact plan_of_order hgroups _ options formatted
  · intro names hedit
    obtain ⟨c, hc, hends, hwork, -⟩ := exists_catalog_of_edit rfl hedit
    obtain ⟨texts, helements, hlength, hsame, hnames⟩ :=
      Catalog.names_of_rename h.valid (Edit.ends_onCatalog_with.1 hends)
    refine ⟨texts, helements, hlength, ?_⟩
    have hafter := h.edit store (.rename names)
    rw [hc] at hafter ⊢
    rw [← h.outputNames_of_rename hgroups hsame hnames]
    exact recasts_of_groups h hafter hgroups hwork

end Table

/-! ### A column that another one is made of -/

/-- The sample with its third column, without the second one. -/
def withoutSource : Table :=
  { derivedTable with catalog := derivedTable.catalog.setSlot 1 ({ · with deleted := true }) }

theorem edit_withoutSource :
    derivedTable.edit sampleStore (.delete (.text "v")) = (.ok (), withoutSource) :=
  Table.edit_of_steps rfl (dryRun_sample rfl rfl rfl)

/-- The second column is deleted and the third one, which is made of it, stays as it was; and the
groups of the second column stay what they were when it takes the name of their count. -/
theorem recasts_of_layout_derived :
    ((derivedTable.edit sampleStore (.delete (.text "v"))).1 = .ok () ∧
      derivedTable.Recasts withoutSource [.text "k", .text "w"] (Row.picked [0, 2])) ∧
    (sizedTable.edit sampleStore (.rename (.list [.text "k", .text "n"]))).1 = .ok () ∧
      sizedTable.Recasts collidedTable [.text "n", .text "n"] id := by
  have hderived : sampleTable.edit sampleStore
      (.operate (.func marked) (.text "v") (.text "w")) = (.ok (), derivedTable) :=
    Table.edit_of_steps rfl (dryRun_sample rfl rfl rfl)
  obtain ⟨-, hrows, -⟩ := Table.recasts_of_layout ofArgs_sample [
    (sampleStore, .operate (.func marked) (.text "v") (.text "w"))]
  obtain ⟨-, -, hgroups⟩ := Table.recasts_of_layout ofArgs_sample [
    (sampleStore, .groupBy (.text "v")),
    (sampleStore, .aggregate (.text "count") (.text "k") (.text "n"))]
  simp only [Table.after, hderived] at hrows
  simp only [Table.after, edit_groupBy, edit_count] at hgroups
  refine ⟨⟨by rw [edit_withoutSource], ?_⟩, by rw [edit_collide], ?_⟩
  · have hdelete := (hrows rfl sampleStore).2.2.1 (.text "v") (by rw [edit_withoutSource])
    have hplaces : derivedTable.catalog.placesOf
        (fun name => !(Datum.text "v" : Arg).asList.any (Names.isNamed name)) = [0, 2] := by
      cbv
    simp only [edit_withoutSource, hplaces] at hdelete
    rw [hderived] at hdelete
    exact hdelete
  · obtain ⟨texts, htexts, -, hrename⟩ := (hgroups rfl sampleStore).2
      (.list [.text "k", .text "n"]) (by rw [edit_collide])
    have htexts : ["k", "n"].map Datum.text = texts.map (Datum.text : String → Arg) :=
      Except.ok.inj htexts
    obtain rfl := List.map_injective_iff.2 (fun _ _ h => Datum.text.inj h) htexts
    rw [edit_collide] at hrename
    exact hrename

end TablePipeline
