import Mathlib
import TablePipeline.Proofs.ColumnNames
import TablePipeline.Proofs.GroupCollect
import TablePipeline.Table.Basic

/-!
The columns of groups. A table says by the slots of its rows what the keys and the aggregates of a
group are; its plan cuts the rows down to the slots that are needed and counts places in what is
left. A finished group has, in the columns that are asked for, what the table says of its rows.
-/
namespace TablePipeline

namespace RowRules

/-- The group key of a row of all slots. -/
def keyOf (rules : RowRules) (row : Row) : Except Fault Key :=
  rules.keys.mapM fun key => GroupPlan.keyPart row (key.slot.toNat, key.collation?)

/-- The aggregates that chosen columns need, in the order in which they are chosen first. -/
def neededAggregates (rules : RowRules) (positions : List ℕ) : List AggregateRule :=
  (GroupSchema.chosenAggregates rules.keys.length positions).filterMap fun i => rules.aggregates[i]?

/-- The slots that chosen columns of the groups need. -/
def neededSlots (rules : RowRules) (positions : List ℕ) : List ℕ :=
  ascending (rules.keys.map (·.slot.toNat) ++
    (rules.neededAggregates positions).map (·.source.toNat))

end RowRules

namespace Table

/-- A row that passes the filters, whole and with its group key. -/
def member (t : Table) (values : Row) : Except Fault (List GroupRecord) := do
  match ← (RowTransform.ofTable t.catalog t.rules false).run values with
  | some row => .ok [{ key := ← t.rules.keyOf row, carried := row }]
  | none => .ok []

/-- The rows of a table that pass its filters, whole and with their group keys. -/
def members (t : Table) (store : Store) : Feed GroupRecord :=
  (t.source.rows store).flatMapM t.member

/-- The chosen columns among those of the groups. -/
def groupPositions (t : Table) (select : Option (List Value)) : Except Fault (List ℕ) := do
  GroupSchema.positions (← GroupSchema.names t.catalog t.rules) select

/-- A part of a key as it is put out: formatted, unless it was collated. -/
def shownPart (collation? formatter? : Option Func) (v : Value) : Except Fault Value :=
  match collation?, formatter? with
  | none, some f => f.apply [v]
  | _, _ => .ok v

/-- A column of a group: a part of its key, or an aggregate of the values that its members have in
one slot. -/
def groupCell (t : Table) (formatted : Bool) (key : Key) (members : List GroupRecord) (i : ℕ) :
    Except Fault Value :=
  match t.rules.keys[i]? with
  | some rule => do
    shownPart rule.collation? (if formatted then t.catalog.formatter? rule.slot.toNat else none)
      (← Row.cell key i)
  | none =>
    match t.rules.aggregates[i - t.rules.keys.length]? with
    | some rule => do
      rule.func.apply [.list (← members.mapM fun m => m.carried.cell rule.source.toNat)]
    | none => .error (.eval .indexOutOfRange)

/-- The row of a group in the chosen columns. -/
def groupRow (t : Table) (select : Option (List Value)) (formatted : Bool) (key : Key)
    (members : List GroupRecord) : Except Fault Row := do
  (← t.groupPositions select).mapM (t.groupCell formatted key members)

end Table

namespace GroupSchema

theorem length_of_names {c : Catalog} {rules : RowRules} {names : List Value}
    (h : GroupSchema.names c rules = .ok names) :
    names.length = rules.keys.length + rules.aggregates.length := by
  obtain ⟨keys, hkeys, h⟩ := bind_eq_ok.1 h
  have hlength := congrArg List.length (mapM_eq_ok_iff.1 (mapError_eq_ok.1 hkeys))
  simp only [List.length_map] at hlength
  rw [← Except.ok.inj h, List.length_append, ← hlength, RowRules.aggregateNames, List.length_map]

/-- Chosen columns are columns that there are. -/
theorem lt_of_positions {names : List Value} {select : Option (List Value)} {positions : List ℕ}
    (h : GroupSchema.positions names select = .ok positions) {i : ℕ} (hi : i ∈ positions) :
    i < names.length := by
  cases select with
  | none =>
    rw [← Except.ok.inj h] at hi
    exact List.mem_range.1 hi
  | some select => exact Names.lt_of_places h hi

/-- The plan of chosen columns, as it is made once nothing stands in its way. -/
def planned (c : Catalog) (rules : RowRules) (names : List Value) (positions : List ℕ) :
    GroupPlan where
  index := rules.neededSlots positions
  keys := rules.keys.map fun key =>
    (placeOf (rules.neededSlots positions) key.slot.toNat, key.collation?)
  aggregates := (rules.neededAggregates positions).map fun a =>
    (a.func, placeOf (rules.neededSlots positions) a.source.toNat)
  writeIndex := positions.map fun i =>
    if i < rules.keys.length then i
    else rules.keys.length +
      placeOf (chosenAggregates rules.keys.length positions) (i - rules.keys.length)
  names := positions.map fun i => names.getD i .null
  formatters := (c.formatters.filter fun (slot, _) =>
    (rules.neededSlots positions).contains slot).map fun (slot, f) =>
      (placeOf (rules.neededSlots positions) slot, f)

variable {c : Catalog} {rules : RowRules} {select : Option (List Value)} {names : List Value}
  {positions : List ℕ} {p : GroupPlan}

/-- Planning looks up the names and the chosen places first. -/
theorem exists_positions_of_plan (h : plan c rules select = .ok p) :
    ∃ (names : List Value) (positions : List ℕ),
      GroupSchema.names c rules = .ok names ∧ GroupSchema.positions names select = .ok positions := by
  unfold plan at h
  obtain ⟨-, h⟩ := guard_eq_ok.1 h
  obtain ⟨names, hnames, h⟩ := bind_eq_ok.1 h
  obtain ⟨positions, hpositions, -⟩ := bind_eq_ok.1 h
  exact ⟨names, positions, hnames, hpositions⟩

/-- There is a name for every key and every aggregate, so a table of which columns can be chosen
makes groups. -/
theorem makesGroups_of_positions (hnames : GroupSchema.names c rules = .ok names)
    (hpositions : GroupSchema.positions names select = .ok positions) (hsome : positions ≠ []) :
    rules.makesGroups = true := by
  obtain ⟨i, rest, rfl⟩ := List.exists_cons_of_ne_nil hsome
  have hlt := lt_of_positions hpositions (List.mem_cons_self ..)
  rw [length_of_names hnames] at hlt
  cases hk : rules.keys with
  | cons key keys => simp [RowRules.makesGroups, RowRules.isGrouped, hk]
  | nil =>
    cases ha : rules.aggregates with
    | cons a as => simp [RowRules.makesGroups, RowRules.isAggregate, ha]
    | nil => simp [hk, ha] at hlt

/-- Chosen columns have a plan exactly if there is one and no key and no aggregate that they need
reads a column that is deleted. -/
theorem plan_eq_ok_iff (hnames : GroupSchema.names c rules = .ok names)
    (hpositions : GroupSchema.positions names select = .ok positions) :
    plan c rules select = .ok p ↔
      positions ≠ [] ∧ (∀ key ∈ rules.keys, c.isLiveAt key.slot = true) ∧
        (∀ a ∈ rules.neededAggregates positions, c.isLiveAt a.source = true) ∧
        p = planned c rules names positions := by
  have hkeys : (rules.keys.filter fun key => !c.isLiveAt key.slot).isEmpty = true ↔
      ∀ key ∈ rules.keys, c.isLiveAt key.slot = true := by
    simp
  have hsources : ((rules.neededAggregates positions).filter
      fun a => !c.isLiveAt a.source).isEmpty = true ↔
        ∀ a ∈ rules.neededAggregates positions, c.isLiveAt a.source = true := by
    simp
  rw [← hkeys, ← hsources]
  constructor
  · intro h
    unfold plan at h
    obtain ⟨-, h⟩ := guard_eq_ok.1 h
    rw [hnames, ok_bind, hpositions, ok_bind] at h
    obtain ⟨hsome, h⟩ := guard_eq_ok.1 h
    by_cases hlive : (rules.keys.filter fun key => !c.isLiveAt key.slot).isEmpty = true
    · simp only [hlive, Bool.not_true, Bool.false_eq_true, if_false] at h
      obtain ⟨hlives, h⟩ := guard_eq_ok.1 h
      rw [Bool.not_eq_true, Bool.not_eq_false'] at hlives
      exact ⟨by simpa using hsome, hlive, hlives, (Except.ok.inj h).symm⟩
    · simp only [hlive, Bool.not_false, if_true] at h
      obtain ⟨_, -, h⟩ := bind_eq_ok.1 h
      cases h
  · rintro ⟨hsome, hlive, hlives, rfl⟩
    have hgroups := makesGroups_of_positions hnames hpositions hsome
    have hchosen : positions.isEmpty = false := by simpa using hsome
    rw [RowRules.neededAggregates] at hlives
    simp only [plan, hgroups, hnames, hpositions, hchosen, hlive, hlives, ok_bind]
    rfl

end GroupSchema

/-- What a plan of groups must hold for its rows to be those of a table: its places are those of the
slots that the table names, and a place has the formatter of its slot. -/
structure GroupPlan.Picks (p : GroupPlan) (t : Table) (formatted : Bool) (positions : List ℕ) :
    Prop where
  keys : p.keys = t.rules.keys.map fun key => (placeOf p.index key.slot.toNat, key.collation?)
  aggregates : p.aggregates = (t.rules.neededAggregates positions).map fun a =>
    (a.func, placeOf p.index a.source.toNat)
  writeIndex : p.writeIndex = positions.map fun i =>
    if i < t.rules.keys.length then i
    else t.rules.keys.length +
      placeOf (GroupSchema.chosenAggregates t.rules.keys.length positions) (i - t.rules.keys.length)
  formatters : ∀ slot ∈ p.index, p.formatters.lookup (placeOf p.index slot) =
    if formatted then t.catalog.formatter? slot else none
  keySlots : ∀ key ∈ t.rules.keys, key.slot.toNat ∈ p.index
  sources : ∀ a ∈ t.rules.neededAggregates positions, a.source.toNat ∈ p.index
  bounds : ∀ i ∈ positions, i < t.rules.keys.length + t.rules.aggregates.length

/-- Looking up by the place of a slot, where only slots with a place are kept. -/
theorem lookup_placeOf {α : Type} (index : List ℕ) (entries : List (ℕ × α)) {slot : ℕ}
    (h : slot ∈ index) :
    ((entries.filter fun (there, _) => index.contains there).map fun (there, a) =>
      (placeOf index there, a)).lookup (placeOf index slot) = entries.lookup slot := by
  induction entries with
  | nil => rfl
  | cons entry entries ih =>
    obtain ⟨there, a⟩ := entry
    by_cases hsame : slot = there
    · subst hsame
      simp [h]
    · by_cases hthere : there ∈ index
      · have hplace : placeOf index slot ≠ placeOf index there := by
          intro he
          exact hsame ((List.idxOf_inj h).1 he)
        simp only [List.lookup_cons, beq_eq_false_iff_ne.2 hsame, ← ih]
        simp [hthere, List.lookup_cons, beq_eq_false_iff_ne.2 hplace]
      · simp only [List.lookup_cons, beq_eq_false_iff_ne.2 hsame, ← ih]
        simp [hthere]

/-- The work of a table that makes groups picks what the table says. -/
theorem Table.groupWork_eq_ok {t : Table} {select : Option (List Value)} {formatted : Bool}
    {names : List Value} {work : PlanWork} (h : t.groupWork select formatted = .ok (names, work)) :
    ∃ (positions : List ℕ) (p : GroupPlan), t.groupPositions select = .ok positions ∧
      work = .groups t.source (RowTransform.ofTable t.catalog t.rules false) p ∧
      p.Picks t formatted positions := by
  obtain ⟨planned, hplan, h⟩ := bind_eq_ok.1 h
  obtain ⟨all, positions, hall, hpositions⟩ := GroupSchema.exists_positions_of_plan hplan
  obtain ⟨-, -, -, rfl⟩ := (GroupSchema.plan_eq_ok_iff hall hpositions).1 hplan
  refine ⟨positions, _, bind_eq_ok.2 ⟨all, hall, hpositions⟩, (Prod.mk.inj (Except.ok.inj h)).2.symm, ?_⟩
  have hslots : ∀ slot, slot ∈ t.rules.neededSlots positions ↔
      slot ∈ t.rules.keys.map (·.slot.toNat) ++
        (t.rules.neededAggregates positions).map (·.source.toNat) := fun _ => mem_ascending
  have hbounds : ∀ i ∈ positions, i < t.rules.keys.length + t.rules.aggregates.length := by
    intro i hi
    rw [← GroupSchema.length_of_names hall]
    exact GroupSchema.lt_of_positions hpositions hi
  cases formatted
  all_goals
    refine ⟨rfl, rfl, rfl, fun slot hslot => ?_, fun key hkey => ?_, fun a ha => ?_, hbounds⟩
  · rfl
  · exact (hslots _).2 (List.mem_append_left _ (List.mem_map_of_mem hkey))
  · exact (hslots _).2 (List.mem_append_right _ (List.mem_map_of_mem ha))
  · exact lookup_placeOf _ _ hslot
  · exact (hslots _).2 (List.mem_append_left _ (List.mem_map_of_mem hkey))
  · exact (hslots _).2 (List.mem_append_right _ (List.mem_map_of_mem ha))

namespace GroupPlan

/-- A member cut down to what a plan carries. -/
def cut (p : GroupPlan) (m : GroupRecord) : GroupRecord :=
  { m with carried := p.index.map fun slot => m.carried.getD slot .null }

@[simp] theorem key_cut (p : GroupPlan) (m : GroupRecord) : (p.cut m).key = m.key := rfl

/-- Whether a row has every slot that a plan carries. -/
def Spans (p : GroupPlan) (row : Row) : Prop := ∀ slot ∈ p.index, slot < row.length

/-- A row that has a slot has it also when it is cut down. -/
theorem cell_cut {p : GroupPlan} {row : Row} (hrow : p.Spans row) {slot : ℕ}
    (hslot : slot ∈ p.index) :
    Row.cell (p.index.map fun slot => row.getD slot .null) (placeOf p.index slot) =
      row.cell slot := by
  rw [Row.cell_placeOf hslot, eq_comm, Row.cell_eq_ok_iff]
  simp [hrow slot hslot]

theorem getD_cut {p : GroupPlan} (m : GroupRecord) {slot : ℕ} (hslot : slot ∈ p.index) :
    (p.cut m).carried.getD (placeOf p.index slot) .null = m.carried.getD slot .null := by
  have hcell : Row.cell (p.index.map fun slot => m.carried.getD slot .null) (placeOf p.index slot) =
      .ok (m.carried.getD slot .null) := Row.cell_placeOf hslot
  rw [cut, List.getD_eq_getElem?_getD, Row.cell_eq_ok_iff.1 hcell, Option.getD_some]

theorem putAside_cut (p : GroupPlan) (m : GroupRecord) :
    (p.cut m).putAside = p.cut m.putAside := by
  simp only [cut, GroupRecord.putAside, Datum.forgetItems_eq_map, List.map_map]
  congr 1
  apply List.map_congr_left
  intro slot _
  simp only [Function.comp_apply, List.getD_eq_getElem?_getD, List.getElem?_map]
  cases m.carried[slot]? <;> rfl

theorem spans_putAside {p : GroupPlan} {m : GroupRecord} (h : p.Spans m.carried) :
    p.Spans m.putAside.carried := by
  intro slot hslot
  simpa [GroupRecord.putAside, Datum.forgetItems_eq_map] using h slot hslot

theorem having_cut (p : GroupPlan) (key : Key) (members : List GroupRecord) :
    Groups.having key (members.map p.cut) = (Groups.having key members).map p.cut := by
  rw [Groups.having, Groups.having, List.filter_map]
  rfl

variable {p : GroupPlan} {t : Table} {formatted : Bool} {positions : List ℕ}

/-- The record of a row is the row with its key, cut down. -/
theorem record_eq_ok (hp : p.Picks t formatted positions) {row : Row} {r : GroupRecord}
    (h : p.record row = .ok r) :
    p.Spans row ∧ ∃ key, t.rules.keyOf row = .ok key ∧ r = p.cut { key, carried := row } := by
  obtain ⟨carried, hcarried, h⟩ := bind_eq_ok.1 h
  obtain ⟨key, hkey, h⟩ := bind_eq_ok.1 h
  have hspans : p.Spans row := Row.exists_cells_iff.1 ⟨carried, hcarried⟩
  refine ⟨hspans, key, ?_, ?_⟩
  · rw [RowRules.keyOf, mapM_eq_ok_iff, ← mapM_eq_ok_iff.1 hkey, hp.keys, List.map_map,
      Row.eq_map_of_cells hcarried]
    apply List.map_congr_left
    intro rule hrule
    simp only [Function.comp_apply, keyPart, cell_cut hspans (hp.keySlots rule hrule)]
  · rw [← Except.ok.inj h, Row.eq_map_of_cells hcarried]
    rfl

/-- What a row brings into the group stage is the member that it makes, cut down. -/
theorem groupStep_eq_ok (hp : p.Picks t formatted positions) {values : Row}
    {records : List GroupRecord}
    (h : Plan.groupStep (RowTransform.ofTable t.catalog t.rules false) p values = .ok records) :
    ∃ members, t.member values = .ok members ∧ records = members.map p.cut ∧
      ∀ m ∈ members, p.Spans m.carried ∧ m.key.length = t.rules.keys.length := by
  obtain ⟨kept, hkept, h⟩ := bind_eq_ok.1 h
  cases kept with
  | none => exact ⟨[], by rw [Table.member, hkept]; rfl, (Except.ok.inj h).symm, by simp⟩
  | some row =>
    obtain ⟨r, hr, h⟩ := bind_eq_ok.1 h
    obtain ⟨hspans, key, hkey, rfl⟩ := record_eq_ok hp hr
    have hlength := congrArg List.length (mapM_eq_ok_iff.1 hkey)
    simp only [List.length_map] at hlength
    refine ⟨[{ key, carried := row }], ?_, (Except.ok.inj h).symm, by simpa using ⟨hspans, hlength.symm⟩⟩
    rw [Table.member, hkept, ok_bind]
    exact bind_eq_ok.2 ⟨key, hkey, rfl⟩

/-- The records of the group stage are the members of the table, cut down. -/
theorem groupStep_members (hp : p.Picks t formatted positions) {store : Store}
    (h : ((t.source.rows store).flatMapM
      (Plan.groupStep (RowTransform.ofTable t.catalog t.rules false) p)).fault = none) :
    (t.members store).fault = none ∧
      ((t.source.rows store).flatMapM
        (Plan.groupStep (RowTransform.ofTable t.catalog t.rules false) p)).items =
          (t.members store).items.map p.cut ∧
      ∀ m ∈ (t.members store).items, p.Spans m.carried ∧ m.key.length = t.rules.keys.length := by
  obtain ⟨hfault, hok⟩ := Feed.ok_of_traverse h
  have hmembers : ∀ values ∈ (t.source.rows store).items, ∃ members, t.member values = .ok members := by
    intro values hvalues
    obtain ⟨records, hrecords⟩ := hok values hvalues
    obtain ⟨members, hm, -⟩ := groupStep_eq_ok hp hrecords
    exact ⟨members, hm⟩
  rw [Table.members, Feed.flatMapM, Feed.flatMapM, Feed.traverse_of_ok _ hok,
    Feed.traverse_of_ok _ hmembers]
  refine ⟨hfault, ?_, ?_⟩
  · rw [List.map_flatMap]
    apply List.flatMap_congr
    intro values hvalues
    obtain ⟨records, hrecords⟩ := hok values hvalues
    obtain ⟨members, hm, rfl, -⟩ := groupStep_eq_ok hp hrecords
    rw [hrecords, hm, made_ok, made_ok]
  · intro m hm
    obtain ⟨values, hvalues, hm⟩ := List.mem_flatMap.1 hm
    obtain ⟨records, hrecords⟩ := hok values hvalues
    obtain ⟨members, hmembers, -, hall⟩ := groupStep_eq_ok hp hrecords
    rw [hmembers] at hm
    exact hall m hm

theorem keyValue_eq (p : GroupPlan) (place : ℕ) (collation? : Option Func) (v : Value) :
    p.keyValue (place, collation?) v =
      Table.shownPart collation? (p.formatters.lookup place) v := by
  cases hformatter : p.formatters.lookup place <;> cases collation? <;>
    simp [keyValue, Table.shownPart, hformatter]

/-- A part of a key gives in the output what the table says. -/
theorem keyValue_zip (hp : p.Picks t formatted positions) {key : Key} (members : List GroupRecord)
    (hkey : key.length = t.rules.keys.length) {i : ℕ} (hi : i < t.rules.keys.length) :
    ∃ part, (p.keys.zip key)[i]? = some part ∧
      p.keyValue part.1 part.2 = t.groupCell formatted key members i := by
  have hrule := List.getElem?_eq_getElem hi
  have hv := List.getElem?_eq_getElem (hkey ▸ hi)
  refine ⟨((placeOf p.index t.rules.keys[i].slot.toNat, t.rules.keys[i].collation?), key[i]), ?_, ?_⟩
  · simp [List.getElem?_zip_eq_some, hp.keys, hrule, hv]
  · rw [keyValue_eq, hp.formatters _ (hp.keySlots _ (List.getElem_mem hi))]
    simp only [Table.groupCell, hrule, Row.cell_eq_ok_iff.2 hv, ok_bind]

/-- A finished key has, part by part, what the table says. -/
theorem cell_keys (hp : p.Picks t formatted positions) {key : Key} {keys : List Value}
    (members : List GroupRecord) (hkey : key.length = t.rules.keys.length)
    (h : ((p.keys.zip key).mapM fun (place, v) => p.keyValue place v) = .ok keys) {i : ℕ}
    (hi : i < t.rules.keys.length) :
    Row.cell keys i = t.groupCell formatted key members i := by
  obtain ⟨part, hpart, hvalue⟩ := keyValue_zip hp members hkey hi
  rw [← hvalue]
  exact Row.cell_of_mapM h hpart

/-- Where every item gives something, what is given stands in the place of its item. -/
theorem filterMap_getElem? {α β : Type} {f : α → Option β} {as : List α}
    (h : ∀ a ∈ as, (f a).isSome = true) (k : ℕ) : (as.filterMap f)[k]? = as[k]?.bind f := by
  induction as generalizing k with
  | nil => simp
  | cons a as ih =>
    obtain ⟨b, hb⟩ := Option.isSome_iff_exists.1 (h a (by simp))
    cases k with
    | zero => simp [hb]
    | succ k => simpa [hb] using ih (fun a ha => h a (by simp [ha])) k

/-- The aggregates of a plan stand in the places of the chosen ones. -/
theorem neededAggregates_getElem? (hp : p.Picks t formatted positions) {i : ℕ} (hi : i ∈ positions)
    (hkeys : t.rules.keys.length ≤ i) :
    (t.rules.neededAggregates positions)[placeOf
        (GroupSchema.chosenAggregates t.rules.keys.length positions) (i - t.rules.keys.length)]? =
      t.rules.aggregates[i - t.rules.keys.length]? := by
  have hchosen : ∀ j ∈ GroupSchema.chosenAggregates t.rules.keys.length positions,
      t.rules.aggregates[j]?.isSome = true := by
    intro j hj
    obtain ⟨i, hi, rfl⟩ := List.mem_map.1 (List.mem_eraseDups.1 hj)
    obtain ⟨hmem, hle⟩ := List.mem_filter.1 hi
    have hbound := hp.bounds i hmem
    have hlt : i - t.rules.keys.length < t.rules.aggregates.length := by
      simp only [decide_eq_true_eq] at hle
      omega
    rw [List.getElem?_eq_getElem hlt, Option.isSome_some]
  have hmem : i - t.rules.keys.length ∈
      GroupSchema.chosenAggregates t.rules.keys.length positions :=
    List.mem_eraseDups.2 (List.mem_map_of_mem (List.mem_filter.2 ⟨hi, by simpa using hkeys⟩))
  rw [RowRules.neededAggregates, filterMap_getElem? hchosen, placeOf, List.getElem?_idxOf hmem,
    Option.bind_some]

/-- An aggregate that a chosen column needs is applied to what the members have in its slot. -/
theorem groupCell_of_aggregate (hp : p.Picks t formatted positions) (key : Key)
    {members : List GroupRecord} (hspans : ∀ m ∈ members, p.Spans m.carried) {i : ℕ}
    (hi : i ∈ positions) (hkeys : t.rules.keys.length ≤ i) {rule : AggregateRule}
    (hrule : t.rules.aggregates[i - t.rules.keys.length]? = some rule) :
    t.groupCell formatted key members i =
      rule.func.apply [.list (members.map fun m => m.carried.getD rule.source.toNat .null)] := by
  have hneeded := (neededAggregates_getElem? hp hi hkeys).trans hrule
  have hsource := hp.sources rule (List.mem_of_getElem? hneeded)
  have hvalues : (members.mapM fun m => m.carried.cell rule.source.toNat) =
      .ok (members.map fun m => m.carried.getD rule.source.toNat .null) := by
    rw [mapM_eq_ok_iff, List.map_map]
    apply List.map_congr_left
    intro m hm
    simp [Row.cell_eq_ok_iff, hspans m hm _ hsource]
  rw [Table.groupCell, List.getElem?_eq_none hkeys, hrule]
  simp only [hvalues, ok_bind]

/-- What the aggregates of a plan are applied to is what the members have in their slots. -/
theorem zip_columnsOf (hp : p.Picks t formatted positions) (members : List GroupRecord) :
    p.aggregates.zip (Groups.columnsOf (p.aggregates.map (·.2)) (members.map p.cut)) =
      (t.rules.neededAggregates positions).map fun a =>
        ((a.func, placeOf p.index a.source.toNat),
          members.map fun m => m.carried.getD a.source.toNat .null) := by
  rw [Groups.columnsOf, List.map_map, hp.aggregates, List.map_map, List.zip_map']
  refine List.map_congr_left fun a ha => ?_
  simp only [Function.comp_apply, List.map_map, Prod.mk.injEq, true_and]
  exact List.map_congr_left fun m _ => getD_cut m (hp.sources a ha)

/-- A finished aggregate is what the table says of the members. -/
theorem cell_results (hp : p.Picks t formatted positions) (key : Key) {results : List Value}
    {members : List GroupRecord} (hspans : ∀ m ∈ members, p.Spans m.carried)
    (h : ((p.aggregates.zip (Groups.columnsOf (p.aggregates.map (·.2)) (members.map p.cut))).mapM
      fun ((f, _), vs) => f.apply [.list vs]) = .ok results) {i : ℕ} (hi : i ∈ positions)
    (hkeys : t.rules.keys.length ≤ i) :
    Row.cell results (placeOf (GroupSchema.chosenAggregates t.rules.keys.length positions)
      (i - t.rules.keys.length)) = t.groupCell formatted key members i := by
  obtain ⟨rule, hrule⟩ : ∃ rule, t.rules.aggregates[i - t.rules.keys.length]? = some rule := by
    have hbound := hp.bounds i hi
    exact ⟨_, List.getElem?_eq_getElem (by omega)⟩
  rw [zip_columnsOf hp, mapM_map] at h
  rw [groupCell_of_aggregate hp key hspans hi hkeys hrule]
  exact Row.cell_of_mapM h ((neededAggregates_getElem? hp hi hkeys).trans hrule)

/-- A finished group has, in the chosen columns, what the table says of its members. -/
theorem groupRow_of_finish (hp : p.Picks t formatted positions) {select : Option (List Value)}
    (hpositions : t.groupPositions select = .ok positions) {key : Key} {members : List GroupRecord}
    {row : Row} (hkey : key.length = t.rules.keys.length)
    (hspans : ∀ m ∈ members, p.Spans m.carried)
    (h : p.finish key (Groups.columnsOf (p.aggregates.map (·.2)) (members.map p.cut)) = .ok row) :
    t.groupRow select formatted key members = .ok row := by
  obtain ⟨keys, hkeys, h⟩ := bind_eq_ok.1 h
  obtain ⟨results, hresults, h⟩ := bind_eq_ok.1 h
  have hlength : keys.length = t.rules.keys.length := by
    simpa [hp.keys, hkey] using (congrArg List.length (mapM_eq_ok_iff.1 hkeys)).symm
  rw [Table.groupRow, hpositions, ok_bind, mapM_eq_ok_iff, ← mapM_eq_ok_iff.1 h, hp.writeIndex,
    List.map_map]
  apply List.map_congr_left
  intro i hi
  rw [Function.comp_apply]
  split_ifs with hlt
  · rw [← cell_keys hp members hkey hkeys hlt, Row.cell, Row.cell,
      List.getElem?_append_left (hlength ▸ hlt)]
  · rw [← cell_results hp key hspans hresults hi (by omega), Row.cell, Row.cell,
      List.getElem?_append_right (by omega), hlength, Nat.add_sub_cancel_left]

end GroupPlan

end TablePipeline
