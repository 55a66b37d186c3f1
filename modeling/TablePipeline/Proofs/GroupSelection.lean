import Mathlib
import TablePipeline.Proofs.Evaluable
import TablePipeline.Proofs.Preview
import TablePipeline.Proofs.RowAccounting

/-!
Chosen columns of groups. A plan of some columns carries the slots that their keys and aggregates
need, counts places in what it carries and puts the chosen columns together at the end. Whatever is
chosen, in any order and as often as one likes, each cell is what the table says of the group: the
same cell that a plan of all columns puts out. Columns that are not chosen make no difference.
-/
namespace TablePipeline

/-! ### Groups in the order in which they are first seen -/

/-- What stands under a key can be changed before or after it is put there. -/
theorem Key.upsert_map {α β : Type} (f : α → β) (key : Key) (fresh : α) (grow : α → α)
    (grown : β → β) (hgrow : ∀ a, f (grow a) = grown (f a)) (table : List (Key × α)) :
    (upsert key fresh grow table).map (fun entry => (entry.1, f entry.2)) =
      upsert key (f fresh) grown (table.map fun entry => (entry.1, f entry.2)) := by
  induction table with
  | nil => rfl
  | cons entry table ih =>
    rw [List.map_cons, upsert, upsert]
    split_ifs
    · rw [List.map_cons, hgrow]
    · rw [List.map_cons, ih]

namespace Groups

/-- The records of other keys. -/
def without (key : Key) (records : List GroupRecord) : List GroupRecord :=
  records.filter fun r => !Key.equal key r.key

/-- Records divided by their keys: the first one takes with it every later one that has its key. -/
def divided : List GroupRecord → List (Key × List GroupRecord)
  | [] => []
  | r :: rest => (r.key, r :: having r.key rest) :: divided (without r.key rest)
  termination_by records => records.length
  decreasing_by exact Nat.lt_succ_of_le (List.length_filter_le _ _)

/-- One more record joins the first group that has its key, or makes a new one. -/
theorem divided_append_singleton (records : List GroupRecord) (r : GroupRecord) :
    divided (records ++ [r]) = Key.upsert r.key [r] (· ++ [r]) (divided records) := by
  induction records using divided.induct with
  | case1 => simp [divided, Key.upsert, having, without]
  | case2 s rest ih =>
    rw [List.cons_append, divided, divided, Key.upsert, having, without, List.filter_append,
      List.filter_append, ← having, ← without]
    cases h : Key.equal s.key r.key with
    | true => simp [h]
    | false => simp [h, ih]

/-- The members of a group are records, and one of them has brought its key. -/
theorem of_mem_divided {records : List GroupRecord} {group : Key × List GroupRecord}
    (h : group ∈ divided records) :
    (∃ r ∈ records, r.key = group.1) ∧ ∀ r ∈ group.2, r ∈ records := by
  induction records using divided.induct with
  | case1 => simp [divided] at h
  | case2 r rest ih =>
    rw [divided] at h
    rcases List.mem_cons.1 h with rfl | h
    · refine ⟨⟨r, by simp, rfl⟩, fun s hs => ?_⟩
      rcases List.mem_cons.1 hs with rfl | hs
      · simp
      · exact List.mem_cons_of_mem _ (List.mem_of_mem_filter hs)
    · obtain ⟨⟨s, hs, hkey⟩, hall⟩ := ih h
      exact ⟨⟨s, List.mem_cons_of_mem _ (List.mem_of_mem_filter hs), hkey⟩,
        fun s hs => List.mem_cons_of_mem _ (List.mem_of_mem_filter (hall s hs))⟩

/-- Dividing records and cutting them down to what a plan carries can be done in either order. -/
theorem divided_cut (p : GroupPlan) (members : List GroupRecord) :
    divided (members.map p.cut) =
      (divided members).map fun group => (group.1, group.2.map p.cut) := by
  induction members using List.reverseRecOn with
  | nil => simp [divided]
  | append_singleton members m ih =>
    have hgrow : ∀ ms : List GroupRecord, (ms ++ [m]).map p.cut = ms.map p.cut ++ [p.cut m] := by
      simp
    rw [List.map_append, List.map_singleton, divided_append_singleton, divided_append_singleton, ih,
      GroupPlan.key_cut]
    exact (Key.upsert_map (List.map p.cut) m.key [m] (· ++ [m]) (· ++ [p.cut m]) hgrow _).symm

theorem add_eq_ok_iff {p : GroupPlan} {groups groups' : Groups} {r : GroupRecord} :
    groups.add p r = .ok groups' ↔
      (r.key.check = .ok () ∧ ∀ place ∈ p.aggregates.map (·.2), place < r.carried.length) ∧
        groups' = groups.insert r.key
          ((p.aggregates.map (·.2)).map fun place => r.carried.getD place .null) := by
  refine ⟨fun h => ?_, fun ⟨⟨hcheck, hplaces⟩, hgroups⟩ => ?_⟩
  · obtain ⟨hcheck, hplaces, hgroups⟩ := add_eq_ok h
    exact ⟨⟨hcheck, hplaces⟩, hgroups⟩
  · rw [add, hcheck, Row.cells_eq_ok hplaces, hgroups]
    rfl

/-- Collecting records divides them by their keys and keeps what the aggregates need: by induction
from the last record. -/
theorem collect_eq_ok_iff {p : GroupPlan} {records : List GroupRecord} {groups : Groups} :
    collect p records = .ok groups ↔
      (∀ r ∈ records, r.key.check = .ok () ∧
        ∀ place ∈ p.aggregates.map (·.2), place < r.carried.length) ∧
      groups = (divided records).map fun group =>
        (group.1, columnsOf (p.aggregates.map (·.2)) group.2) := by
  induction records using List.reverseRecOn generalizing groups with
  | nil =>
    have hnil : divided [] = [] := by rw [divided]
    simp [collect, hnil, eq_comm]
  | append_singleton records r ih =>
    have hone : columnsOf (p.aggregates.map (·.2)) [r] =
        ((p.aggregates.map (·.2)).map fun place => r.carried.getD place .null).map fun v => [v] := by
      simp [columnsOf]
    have hinsert : insert r.key
        ((p.aggregates.map (·.2)).map fun place => r.carried.getD place .null)
        ((divided records).map fun group => (group.1, columnsOf (p.aggregates.map (·.2)) group.2)) =
          (divided (records ++ [r])).map fun group =>
            (group.1, columnsOf (p.aggregates.map (·.2)) group.2) := by
      rw [insert_eq_upsert, divided_append_singleton, ← hone]
      exact (Key.upsert_map (columnsOf _) r.key [r] (· ++ [r]) (extend · _)
        (fun rs => (extend_columnsOf _ rs r).symm) _).symm
    have hlast : collect p (records ++ [r]) = collect p records >>= fun groups => groups.add p r := by
      rw [collect, List.foldlM_append]
      simp only [List.foldlM_cons, List.foldlM_nil, bind_pure]
      rfl
    rw [hlast, bind_eq_ok]
    constructor
    · rintro ⟨before, hbefore, hadd⟩
      obtain ⟨hall, rfl⟩ := ih.1 hbefore
      obtain ⟨hr, rfl⟩ := add_eq_ok_iff.1 hadd
      refine ⟨fun s hs => ?_, hinsert⟩
      rcases List.mem_append.1 hs with hs | hs
      · exact hall s hs
      · rwa [List.mem_singleton.1 hs]
    · rintro ⟨hall, rfl⟩
      refine ⟨_, ih.2 ⟨fun s hs => hall s (by simp [hs]), rfl⟩, add_eq_ok_iff.2 ⟨hall r (by simp), ?_⟩⟩
      exact hinsert.symm

end Groups

/-! ### What the table says of its groups -/

namespace Table

variable {t : Table}

/-- A row of all slots with its group key. -/
def keyed (t : Table) (row : Row) : Except Fault GroupRecord := do
  .ok { key := ← t.rules.keyOf row, carried := row }

/-- The groups of rows: without group keys there is one, even without rows. -/
def groupsOf (t : Table) (members : List GroupRecord) : List (Key × List GroupRecord) :=
  if t.rules.keys.isEmpty then [([], members)] else Groups.divided members

theorem keyed_eq_ok {row : Row} {m : GroupRecord} (h : t.keyed row = .ok m) :
    m.carried = row ∧ m.key.length = t.rules.keys.length := by
  obtain ⟨key, hkey, h⟩ := bind_eq_ok.1 h
  obtain rfl := Except.ok.inj h
  have hlength := congrArg List.length (mapM_eq_ok_iff.1 hkey)
  exact ⟨rfl, by simpa using hlength.symm⟩

/-- The rows with their keys are as long as the rows, and the keys as long as the list of keys. -/
theorem of_mapM_keyed {rows : List Row} {members : List GroupRecord}
    (h : rows.mapM t.keyed = .ok members) {m : GroupRecord} (hm : m ∈ members) :
    m.carried ∈ rows ∧ m.key.length = t.rules.keys.length := by
  obtain ⟨row, hrow, hok⟩ := List.mem_map.1
    (mapM_eq_ok_iff.1 h ▸ List.mem_map_of_mem hm : Except.ok m ∈ rows.map t.keyed)
  obtain ⟨hcarried, hlength⟩ := keyed_eq_ok hok
  exact ⟨hcarried ▸ hrow, hlength⟩

theorem of_mem_groupsOf {members : List GroupRecord} {group : Key × List GroupRecord}
    (hkeys : ∀ m ∈ members, m.key.length = t.rules.keys.length) (h : group ∈ t.groupsOf members) :
    group.1.length = t.rules.keys.length ∧ ∀ m ∈ group.2, m ∈ members := by
  unfold groupsOf at h
  split_ifs at h with hwhole
  · obtain rfl := List.mem_singleton.1 h
    exact ⟨by simp [List.isEmpty_iff.1 hwhole], fun m hm => hm⟩
  · obtain ⟨⟨m, hm, hkey⟩, hall⟩ := Groups.of_mem_divided h
    exact ⟨hkey ▸ hkeys m hm, hall⟩

end Table

namespace GroupPlan

variable {p : GroupPlan} {t : Table} {formatted : Bool} {positions : List ℕ}

/-- The record of a row that has all slots is the row with its key, cut down. -/
theorem record_eq (hp : p.Picks t formatted positions) {row : Row} (hrow : p.Spans row) :
    p.record row = (t.keyed row).map p.cut := by
  have hparts : p.keys.mapM (keyPart (p.index.map fun slot => row.getD slot .null)) =
      t.rules.keyOf row := by
    rw [hp.keys, mapM_map, RowRules.keyOf]
    refine mapM_congr fun rule hrule => ?_
    simp only [keyPart, cell_cut hrow (hp.keySlots rule hrule)]
  rw [record, Row.cells_eq_ok hrow, ok_bind, hparts, Table.keyed]
  cases t.rules.keyOf row <;> rfl

/-- Finished groups of cut records are those of the records. -/
theorem finished_cut (hp : p.Picks t formatted positions) {members : List GroupRecord}
    (hkeys : ∀ m ∈ members, m.key.length = t.rules.keys.length) :
    Groups.finished p ((Groups.divided (members.map p.cut)).map fun group =>
        (group.1, Groups.columnsOf (p.aggregates.map (·.2)) group.2)) =
      (t.groupsOf members).map fun group =>
        (group.1, Groups.columnsOf (p.aggregates.map (·.2)) (group.2.map p.cut)) := by
  have hwhole : p.isWhole = t.rules.keys.isEmpty := by simp [isWhole, hp.keys]
  rw [Groups.finished, hwhole, Table.groupsOf, Groups.divided_cut]
  cases hkeyed : t.rules.keys.isEmpty with
  | false => simp
  | true =>
    have hnone : ∀ m ∈ members, m.key = [] := fun m hm =>
      List.length_eq_zero_iff.1 (by rw [hkeys m hm, List.isEmpty_iff.1 hkeyed]; rfl)
    cases members with
    | nil => simp [Groups.divided, Groups.columnsOf, Function.comp_def]
    | cons m members =>
      have hsame : ∀ n ∈ members, Key.equal m.key n.key = true := by
        intro n hn
        rw [hnone m (by simp), hnone n (by simp [hn])]
        rfl
      have hhaving : Groups.having m.key members = members := List.filter_eq_self.2 hsame
      have hwithout : Groups.without m.key members = [] :=
        List.filter_eq_nil_iff.2 fun n hn => by simp [hsame n hn]
      rw [Groups.divided, hhaving, hwithout, hnone m (by simp), Groups.divided]
      rfl

theorem placeOf_lt {index : List ℕ} {slot : ℕ} (h : slot ∈ index) :
    placeOf index slot < index.length := List.idxOf_lt_length_of_mem h

/-! ### Finishing a group -/

/-- What a finished key is put together from. -/
theorem exists_keyValues (hp : p.Picks t formatted positions) {key : Key}
    {members : List GroupRecord} (hkey : key.length = t.rules.keys.length)
    (h : ∀ i < t.rules.keys.length, ∃ v, t.groupCell formatted key members i = .ok v) :
    ∃ keys, ((p.keys.zip key).mapM fun (place, v) => p.keyValue place v) = .ok keys := by
  have heach : ∀ part ∈ p.keys.zip key, ∃ v, p.keyValue part.1 part.2 = .ok v := by
    intro part hpart
    obtain ⟨i, hi, hpart⟩ := List.mem_iff_getElem.1 hpart
    have hlt : i < t.rules.keys.length := by
      simp only [List.length_zip, hp.keys, List.length_map] at hi
      omega
    obtain ⟨v, hv⟩ := h i hlt
    obtain ⟨there, hthere, hvalue⟩ := keyValue_zip hp members hkey hlt
    obtain rfl : part = there := by simpa [List.getElem?_eq_getElem hi, hpart] using hthere
    exact ⟨v, hvalue.trans hv⟩
  exact exists_mapM_ok_iff.2 heach

/-- An aggregate is needed because a chosen column is its result. -/
theorem exists_position_of_needed {rules : RowRules} {positions : List ℕ} {a : AggregateRule}
    (h : a ∈ rules.neededAggregates positions) :
    ∃ i ∈ positions, rules.keys.length ≤ i ∧ rules.aggregates[i - rules.keys.length]? = some a := by
  obtain ⟨j, hj, ha⟩ := List.mem_filterMap.1 h
  obtain ⟨i, hi, rfl⟩ := List.mem_map.1 (List.mem_eraseDups.1 hj)
  obtain ⟨hmem, hle⟩ := List.mem_filter.1 hi
  exact ⟨i, hmem, by simpa using hle, ha⟩

/-- The results of a group that are needed are there if the chosen columns are. -/
theorem exists_results (hp : p.Picks t formatted positions) (key : Key) {members : List GroupRecord}
    (hspans : ∀ m ∈ members, p.Spans m.carried)
    (h : ∀ i ∈ positions, ∃ v, t.groupCell formatted key members i = .ok v) :
    ∃ results, ((p.aggregates.zip (Groups.columnsOf (p.aggregates.map (·.2))
      (members.map p.cut))).mapM fun ((f, _), vs) => f.apply [.list vs]) = .ok results := by
  have heach : ∀ a ∈ t.rules.neededAggregates positions, ∃ v, a.func.apply
      [.list (members.map fun m => m.carried.getD a.source.toNat .null)] = .ok v := by
    intro a ha
    obtain ⟨i, hi, hkeys, hrule⟩ := exists_position_of_needed ha
    rw [← groupCell_of_aggregate hp key hspans hi hkeys hrule]
    exact h i hi
  rw [zip_columnsOf hp, mapM_map]
  exact exists_mapM_ok_iff.2 heach

/-- The output columns are picked among the keys and the results that there are. -/
theorem writeIndex_lt (hp : p.Picks t formatted positions) {i : ℕ} (hi : i ∈ p.writeIndex) :
    i < p.keys.length + p.aggregates.length := by
  rw [hp.writeIndex] at hi
  obtain ⟨chosen, hchosen, rfl⟩ := List.mem_map.1 hi
  have hkeys : p.keys.length = t.rules.keys.length := by rw [hp.keys, List.length_map]
  have hbound := hp.bounds chosen hchosen
  split_ifs with hlt
  · omega
  · have hrule := List.getElem?_eq_getElem
      (show chosen - t.rules.keys.length < t.rules.aggregates.length by omega)
    have hplace := (List.getElem?_eq_some_iff.1
      ((neededAggregates_getElem? hp hchosen (by omega)).trans hrule)).1
    rw [hkeys, hp.aggregates, List.length_map]
    omega

/-- A group can be finished if and only if its keys and its chosen columns can be made, and then it
has the chosen columns. -/
theorem finish_eq_ok_iff (hp : p.Picks t formatted positions) {select : Option (List Value)}
    (hpositions : t.groupPositions select = .ok positions) {key : Key} {members : List GroupRecord}
    {row : Row} (hkey : key.length = t.rules.keys.length)
    (hspans : ∀ m ∈ members, p.Spans m.carried) :
    p.finish key (Groups.columnsOf (p.aggregates.map (·.2)) (members.map p.cut)) = .ok row ↔
      (∀ i < t.rules.keys.length, ∃ v, t.groupCell formatted key members i = .ok v) ∧
        positions.mapM (t.groupCell formatted key members) = .ok row := by
  have hmade : ∀ {row}, p.finish key (Groups.columnsOf (p.aggregates.map (·.2))
      (members.map p.cut)) = .ok row →
        positions.mapM (t.groupCell formatted key members) = .ok row := by
    intro row h
    have hrow := groupRow_of_finish hp hpositions hkey hspans h
    rwa [Table.groupRow, hpositions, ok_bind] at hrow
  constructor
  · intro h
    refine ⟨fun i hi => ?_, hmade h⟩
    obtain ⟨keys, hkeys, -⟩ := bind_eq_ok.1 h
    rw [← cell_keys hp members hkey hkeys hi]
    have hlength : keys.length = t.rules.keys.length := by
      simpa [hp.keys, hkey] using (congrArg List.length (mapM_eq_ok_iff.1 hkeys)).symm
    exact ⟨_, Row.cell_eq_ok_iff.2 (List.getElem?_eq_getElem (hlength ▸ hi))⟩
  · rintro ⟨hkeys, hcells⟩
    obtain ⟨keys, hkeys⟩ := exists_keyValues hp hkey hkeys
    obtain ⟨results, hresults⟩ :=
      exists_results hp key hspans (exists_mapM_ok_iff.1 ⟨_, hcells⟩)
    have hkeysLength := congrArg List.length (mapM_eq_ok_iff.1 hkeys)
    have hresultsLength := congrArg List.length (mapM_eq_ok_iff.1 hresults)
    simp only [List.length_map, List.length_zip, hp.keys, hkey, Nat.min_self] at hkeysLength
    simp only [zip_columnsOf hp, List.length_map] at hresultsLength
    obtain ⟨made, hfinish⟩ : ∃ made, Row.cells (keys ++ results) p.writeIndex = .ok made := by
      refine Row.exists_cells_iff.2 fun i hi => ?_
      have hlt := writeIndex_lt hp hi
      simp only [hp.keys, hp.aggregates, List.length_map] at hlt
      simp only [List.length_append]
      omega
    have hwhole : p.finish key (Groups.columnsOf (p.aggregates.map (·.2))
        (members.map p.cut)) = .ok made := by
      rw [finish, hkeys, ok_bind, hresults, ok_bind, hfinish]
    rw [hwhole]
    exact congrArg _ (Except.ok.inj ((hmade hwhole).symm.trans hcells))

/-! ### The results of an accumulator -/

/-- What an accumulator makes of rows of all slots: their records are added one by one, then the
groups are finished one by one. -/
def results (p : GroupPlan) (rows : List Row) : Except Fault (List Row) := do
  let groups ← rows.foldlM (fun groups row => do Groups.add p groups (← p.record row)) []
  (Groups.finished p groups).mapM fun group => p.finish group.1 group.2

/-- Nothing fails on the groups of members: their keys can be looked up and be put out. -/
structure Smooth (t : Table) (formatted : Bool) (members : List GroupRecord) : Prop where
  hashable : ∀ m ∈ members, m.key.check = .ok ()
  keys : ∀ group ∈ t.groupsOf members, ∀ i < t.rules.keys.length,
    ∃ v, t.groupCell formatted group.1 group.2 i = .ok v

/-- The results of rows are the chosen columns of their groups, and there are results exactly if
nothing fails. -/
theorem results_eq_ok_iff (hp : p.Picks t formatted positions) {select : Option (List Value)}
    (hpositions : t.groupPositions select = .ok positions) {rows : List Row}
    (hspans : ∀ row ∈ rows, p.Spans row) {out : List Row} :
    p.results rows = .ok out ↔ ∃ members, rows.mapM t.keyed = .ok members ∧
      Smooth t formatted members ∧ (t.groupsOf members).map (fun group =>
        positions.mapM (t.groupCell formatted group.1 group.2)) = out.map .ok := by
  have hrecords : rows.mapM p.record = (rows.mapM t.keyed).map (List.map p.cut) := by
    rw [mapM_congr fun row hrow => record_eq hp (hspans row hrow), mapM_map_results]
  have hplaces : ∀ m : GroupRecord, ∀ place ∈ p.aggregates.map (·.2),
      place < (p.cut m).carried.length := by
    intro m place hplace
    rw [hp.aggregates, List.map_map] at hplace
    obtain ⟨a, ha, rfl⟩ := List.mem_map.1 hplace
    simpa [cut] using placeOf_lt (hp.sources a ha)
  have hfinish : ∀ members, rows.mapM t.keyed = .ok members →
      ∀ group ∈ t.groupsOf members, ∀ row,
        p.finish group.1 (Groups.columnsOf (p.aggregates.map (·.2)) (group.2.map p.cut)) = .ok row ↔
          (∀ i < t.rules.keys.length, ∃ v, t.groupCell formatted group.1 group.2 i = .ok v) ∧
            positions.mapM (t.groupCell formatted group.1 group.2) = .ok row := by
    intro members hmembers group hgroup row
    obtain ⟨hkey, hall⟩ :=
      Table.of_mem_groupsOf (fun m hm => (Table.of_mapM_keyed hmembers hm).2) hgroup
    exact finish_eq_ok_iff hp hpositions hkey fun m hm =>
      hspans _ (Table.of_mapM_keyed hmembers (hall m hm)).1
  rw [results, bind_eq_ok]
  simp only [foldlM_step_eq_ok_iff, hrecords, map_eq_ok]
  constructor
  · rintro ⟨groups, ⟨records, ⟨members, hmembers, rfl⟩, hcollect⟩, hout⟩
    obtain ⟨hall, rfl⟩ := Groups.collect_eq_ok_iff.1 hcollect
    rw [finished_cut hp fun m hm => (Table.of_mapM_keyed hmembers hm).2, mapM_eq_ok_iff,
      List.map_map] at hout
    obtain ⟨hkeys, hcells⟩ := (map_eq_map_ok_iff (hfinish members hmembers)).1 hout
    exact ⟨members, hmembers, ⟨fun m hm => (hall _ (List.mem_map_of_mem hm)).1, hkeys⟩, hcells⟩
  · rintro ⟨members, hmembers, hsmooth, hcells⟩
    refine ⟨_, ⟨_, ⟨members, hmembers, rfl⟩, Groups.collect_eq_ok_iff.2 ⟨?_, rfl⟩⟩, ?_⟩
    · intro r hr
      obtain ⟨m, hm, rfl⟩ := List.mem_map.1 hr
      exact ⟨hsmooth.hashable m hm, hplaces m⟩
    · rw [finished_cut hp fun m hm => (Table.of_mapM_keyed hmembers hm).2, mapM_eq_ok_iff,
        List.map_map]
      exact (map_eq_map_ok_iff (hfinish members hmembers)).2 ⟨hsmooth.keys, hcells⟩

/-- Adding the records of a sample is adding those of the rows that pass the transform. -/
theorem foldlM_groupStep (p : GroupPlan) {transform : RowTransform} {values : List Row}
    {kept : List (Option Row)} (hkept : values.mapM transform.run = .ok kept) (groups : Groups) :
    values.foldlM (fun groups values => do
        (← Plan.groupStep transform p values).foldlM (Groups.add p) groups) groups =
      kept.reduceOption.foldlM (fun groups row => do Groups.add p groups (← p.record row))
        groups := by
  induction values generalizing kept groups with
  | nil =>
    obtain rfl := Except.ok.inj hkept
    rfl
  | cons row values ih =>
    rw [List.mapM_cons] at hkept
    obtain ⟨kept?, hrow, hkept⟩ := bind_eq_ok.1 hkept
    obtain ⟨rest, hrest, hkept⟩ := bind_eq_ok.1 hkept
    obtain rfl := Except.ok.inj hkept
    rw [List.foldlM_cons]
    cases kept? with
    | none =>
      have hnone : Plan.groupStep transform p row = .ok [] := by rw [Plan.groupStep, hrow]; rfl
      rw [hnone, List.reduceOption_cons_of_none, ← ih hrest]
      rfl
    | some cells =>
      have hsome : Plan.groupStep transform p row = (do .ok [← p.record cells]) := by
        rw [Plan.groupStep, hrow]; rfl
      rw [hsome, List.reduceOption_cons_of_some, List.foldlM_cons]
      cases p.record cells with
      | error fault => rfl
      | ok record =>
        simp only [ok_bind, List.foldlM_cons, List.foldlM_nil, bind_pure]
        exact bind_congr fun groups => ih hrest groups

/-- Some of all cells that a step makes are picked from the row of them. -/
theorem mapM_eq_cells {f : ℕ → Except Fault Value} {n : ℕ} {row : Row}
    (h : (List.range n).mapM f = .ok row) {positions : List ℕ} (hlt : ∀ i ∈ positions, i < n) :
    positions.mapM f = row.cells positions := by
  refine mapM_congr fun i hi => ?_
  rw [Row.cell_of_mapM h (List.getElem?_range (hlt i hi))]

/-- The groups of a sample are the results of the rows that pass the transform. -/
theorem sample_of_results {transform : RowTransform} {values : List Row} {kept : List (Option Row)}
    (hkept : values.mapM transform.run = .ok kept) {out : List Row}
    (h : p.results kept.reduceOption = .ok out) : p.sample transform values = ⟨out, none⟩ := by
  obtain ⟨groups, hgroups, hout⟩ := bind_eq_ok.1 h
  have hmap := mapM_eq_ok_iff.1 hout
  have heach : ∀ group ∈ Groups.finished p groups, ∃ row,
      p.finish group.1 group.2 = .ok row := fun group hgroup => by
    obtain ⟨row, -, hrow⟩ := List.mem_map.1 (hmap ▸ List.mem_map_of_mem hgroup)
    exact ⟨row, hrow.symm⟩
  have hitems : p.rowsOf (Groups.finished p groups) = out :=
    map_ok_injective ((map_rowsOf heach).trans hmap)
  rw [sample, foldlM_groupStep p hkept, hgroups, ← hitems]
  refine Feed.traverse_of_ok none fun group hgroup => ?_
  obtain ⟨row, hrow⟩ := heach group hgroup
  exact ⟨[row], bind_eq_ok.2 ⟨row, hrow, rfl⟩⟩

end GroupPlan

/-! ### Plans of live columns -/

namespace GroupSchema

variable {c : Catalog} {rules : RowRules} {select : Option (List Value)} {names : List Value}
  {positions : List ℕ}

/-- A plan picks what the rules say. -/
theorem picks_of_plan {t : Table} {p : GroupPlan} (h : plan t.catalog t.rules select = .ok p)
    (hpositions : t.groupPositions select = .ok positions) : p.Picks t true positions := by
  have hwork : t.groupWork select true = .ok (p.names,
      .groups t.source (RowTransform.ofTable t.catalog t.rules false) p) := by
    rw [Table.groupWork, h]
    rfl
  obtain ⟨positions', p', hpositions', hp', hpicks⟩ := Table.groupWork_eq_ok hwork
  obtain rfl : positions = positions' := Except.ok.inj (hpositions.symm.trans hpositions')
  obtain rfl : p = p' := by simpa using hp'
  exact hpicks

/-- A plan depends on the keys, the names and the chosen aggregates alone. -/
theorem plan_congr {rules' : RowRules} {p : GroupPlan} (h : plan c rules select = .ok p)
    (hnames : GroupSchema.names c rules = .ok names)
    (hpositions : GroupSchema.positions names select = .ok positions)
    (hkeys : rules'.keys = rules.keys) (hnames' : GroupSchema.names c rules' = .ok names)
    (hchosen : ∀ i ∈ positions, rules.keys.length ≤ i →
      rules'.aggregates[i - rules.keys.length]? = rules.aggregates[i - rules.keys.length]?) :
    plan c rules' select = .ok p := by
  obtain ⟨hsome, hlive, hsources, rfl⟩ := (plan_eq_ok_iff hnames hpositions).1 h
  have hneeded : rules'.neededAggregates positions = rules.neededAggregates positions := by
    rw [RowRules.neededAggregates, RowRules.neededAggregates, hkeys]
    refine List.filterMap_congr fun j hj => ?_
    obtain ⟨i, hi, rfl⟩ := List.mem_map.1 (List.mem_eraseDups.1 hj)
    obtain ⟨hmem, hle⟩ := List.mem_filter.1 hi
    exact hchosen i hmem (by simpa using hle)
  have hslots : rules'.neededSlots positions = rules.neededSlots positions := by
    rw [RowRules.neededSlots, RowRules.neededSlots, hkeys, hneeded]
  refine (plan_eq_ok_iff hnames' hpositions).2
    ⟨hsome, by rwa [hkeys], by rwa [hneeded], ?_⟩
  rw [planned, planned, hneeded, hslots, hkeys]

/-- The slots that a plan carries are live. -/
theorem isLive_of_mem_index {p : GroupPlan} (h : plan c rules select = .ok p) {slot : ℕ}
    (hslot : slot ∈ p.index) : c.isLive slot = true := by
  obtain ⟨names, positions, hnames, hpositions⟩ := exists_positions_of_plan h
  obtain ⟨-, hkeys, hsources, rfl⟩ := (plan_eq_ok_iff hnames hpositions).1 h
  have hlive : ∀ slot : ℤ, c.isLiveAt slot = true → c.isLive slot.toNat = true := by
    intro slot h
    rw [Catalog.isLiveAt, Bool.and_eq_true] at h
    exact h.2
  rcases List.mem_append.1 (mem_ascending.1 hslot) with h | h
  · obtain ⟨key, hkey, rfl⟩ := List.mem_map.1 h
    exact hlive _ (hkeys key hkey)
  · obtain ⟨a, ha, rfl⟩ := List.mem_map.1 h
    exact hlive _ (hsources a ha)

end GroupSchema

namespace GroupPlan

variable {t : Table} {p : GroupPlan}

/-- Results of some columns are picked from the results of all of them. -/
theorem results_of_all {full : GroupPlan} {names : List Value} {select : Option (List Value)}
    {positions : List ℕ} {formatted : Bool} (hfull : full.Picks t formatted (List.range names.length))
    (hp : p.Picks t formatted positions) (hall : t.groupPositions none = .ok (List.range names.length))
    (hpositions : t.groupPositions select = .ok positions) (hlt : ∀ i ∈ positions, i < names.length)
    {rows all : List Row} (hspansFull : ∀ row ∈ rows, full.Spans row)
    (hspans : ∀ row ∈ rows, p.Spans row) (h : full.results rows = .ok all) :
    ∃ out, p.results rows = .ok out ∧ all.map (fun row => row.cells positions) = out.map .ok := by
  obtain ⟨members, hmembers, hsmooth, hcells⟩ := (results_eq_ok_iff hfull hall hspansFull).1 h
  have hpick : (t.groupsOf members).map (fun group =>
      positions.mapM (t.groupCell formatted group.1 group.2)) =
        all.map fun row => row.cells positions :=
    map_eq_map_of_ok hcells fun group _ row hrow => mapM_eq_cells hrow hlt
  obtain ⟨out, hout⟩ : ∃ out : List Row, all.map (fun row => row.cells positions) = out.map .ok := by
    refine exists_map_ok fun row hrow => Row.exists_cells_iff.2 fun i hi => ?_
    obtain ⟨group, -, hgroup⟩ := List.mem_map.1 (hcells ▸ List.mem_map_of_mem hrow)
    have hlength := congrArg List.length (mapM_eq_ok_iff.1 hgroup)
    simp only [List.length_map, List.length_range] at hlength
    exact hlength ▸ hlt i hi
  exact ⟨out, (results_eq_ok_iff hp hpositions hspans).2
    ⟨members, hmembers, hsmooth, hpick.trans hout⟩, hout⟩

/-- Chosen columns of groups, by any names of the columns that there are, in any order and as often
as one likes. If the keys and the slots of the chosen aggregates are live there is a plan, and all its
places are in range. Its results are the groups of the rows in the order in which they are first
seen, with the cell that the table says in every chosen column, and there are results exactly if
nothing fails. So they are picked from the results of all columns where these have a plan, and
aggregates that are not chosen make no difference. -/
theorem results_of_chosen {names select : List Value}
    (hnames : GroupSchema.names t.catalog t.rules = .ok names) (hselect : select ≠ [])
    (hthere : ∀ name ∈ select, Names.contain names name = true)
    (hkeys : ∀ key ∈ t.rules.keys, t.catalog.isLiveAt key.slot = true)
    (hsources : ∀ i ∈ select.map (fun name => names.findIdx (·.isMatch name)), ∀ a,
      t.rules.keys.length ≤ i → t.rules.aggregates[i - t.rules.keys.length]? = some a →
        t.catalog.isLiveAt a.source = true) :
    let positions := select.map fun name => names.findIdx (·.isMatch name)
    ∃ p, GroupSchema.plan t.catalog t.rules (some select) = .ok p ∧
      p.names = positions.map (fun i => names.getD i .null) ∧
      ((∀ key ∈ p.keys, key.1 < p.index.length) ∧ (∀ a ∈ p.aggregates, a.2 < p.index.length) ∧
        (∀ i ∈ p.writeIndex, i < p.keys.length + p.aggregates.length) ∧
        ∀ slot ∈ p.index, t.catalog.isLive slot = true) ∧
      (∀ rows : List Row, (∀ row ∈ rows, t.catalog.width ≤ row.length) →
        (∀ out, p.results rows = .ok out ↔ ∃ members, rows.mapM t.keyed = .ok members ∧
          Smooth t true members ∧ (t.groupsOf members).map (fun group =>
            positions.mapM (t.groupCell true group.1 group.2)) = out.map .ok) ∧
        ∀ full all, GroupSchema.plan t.catalog t.rules none = .ok full →
          full.results rows = .ok all →
            ∃ out, p.results rows = .ok out ∧
              all.map (fun row => row.cells positions) = out.map .ok) ∧
      (∀ rules : RowRules, rules.keys = t.rules.keys →
        GroupSchema.names t.catalog rules = .ok names →
        (∀ i ∈ positions, t.rules.keys.length ≤ i →
          rules.aggregates[i - t.rules.keys.length]? =
            t.rules.aggregates[i - t.rules.keys.length]?) →
        GroupSchema.plan t.catalog rules (some select) = .ok p) ∧
      ∀ (transform : RowTransform) values kept out, values.mapM transform.run = .ok kept →
        p.results kept.reduceOption = .ok out → p.sample transform values = ⟨out, none⟩ := by
  intro positions
  have hplaces : GroupSchema.positions names (some select) = .ok positions :=
    Names.places_eq_ok_iff.2 ⟨hthere, rfl⟩
  have hneeded : ∀ a ∈ t.rules.neededAggregates positions, t.catalog.isLiveAt a.source = true := by
    intro a ha
    obtain ⟨i, hi, hle, hrule⟩ := exists_position_of_needed ha
    exact hsources i hi a hle hrule
  obtain ⟨p, hplan, hchosen⟩ : ∃ p, GroupSchema.plan t.catalog t.rules (some select) = .ok p ∧
      p.names = positions.map fun i => names.getD i .null :=
    ⟨_, (GroupSchema.plan_eq_ok_iff hnames hplaces).2 ⟨by simpa [positions], hkeys, hneeded, rfl⟩, rfl⟩
  have hpositions : t.groupPositions (some select) = .ok positions :=
    bind_eq_ok.2 ⟨names, hnames, hplaces⟩
  have hpicks := GroupSchema.picks_of_plan hplan hpositions
  have hspans : ∀ {select : Option (List Value)} {p : GroupPlan},
      GroupSchema.plan t.catalog t.rules select = .ok p → ∀ {row : Row},
        t.catalog.width ≤ row.length → p.Spans row := by
    intro select p hplan row hrow slot hslot
    exact (Catalog.lt_width_of_isLive (GroupSchema.isLive_of_mem_index hplan hslot)).trans_le hrow
  refine ⟨p, hplan, hchosen, ⟨?_, ?_, fun i hi => writeIndex_lt hpicks hi,
    fun slot hslot => GroupSchema.isLive_of_mem_index hplan hslot⟩, fun rows hrows => ⟨fun out =>
      results_eq_ok_iff hpicks hpositions fun row hrow => hspans hplan (hrows row hrow), ?_⟩,
    fun rules hsame hnames' hchosen =>
      GroupSchema.plan_congr hplan hnames hplaces hsame hnames' hchosen,
    fun transform values kept out hkept h => sample_of_results hkept h⟩
  · intro key hkey
    rw [hpicks.keys] at hkey
    obtain ⟨rule, hrule, rfl⟩ := List.mem_map.1 hkey
    exact placeOf_lt (hpicks.keySlots rule hrule)
  · intro a ha
    rw [hpicks.aggregates] at ha
    obtain ⟨rule, hrule, rfl⟩ := List.mem_map.1 ha
    exact placeOf_lt (hpicks.sources rule hrule)
  · intro full all hfull hall
    have hrange : t.groupPositions none = .ok (List.range names.length) :=
      bind_eq_ok.2 ⟨names, hnames, rfl⟩
    exact results_of_all (GroupSchema.picks_of_plan hfull hrange) hpicks hrange hpositions
      (fun i hi => GroupSchema.lt_of_positions hplaces hi)
      (fun row hrow => hspans hfull (hrows row hrow)) (fun row hrow => hspans hplan (hrows row hrow))
      hall

end GroupPlan

/-! ### Groups of which some columns are chosen -/

def countAll : Func := .aggregate "agg_count" Aggregate.count

/-- Two keys on one slot, one of them collated, and an aggregate of a column that is deleted. -/
def shelvedTable : Table :=
  { sampleTable with
    catalog := {
      slots := [{ name := .text "k" }, { name := .text "v" }, { name := .text "d", deleted := true }]
      order := [0, 1]
      sourceWidth := 3
      formatters := [(0, marked)] }
    rules := {
      keys := [{ slot := 0 }, { slot := 0, collation? := some notA }]
      aggregates := [{ func := countAll, source := 2, name := .text "lost" },
        { func := countAll, source := 1, name := .text "n" }] } }

def shelvedRows : List Row := [
  [.text "a", .text "1", .text "x"], [.text "b", .text "2", .text "y"],
  [.text "a", .text "3", .text "z"]]

def shelvedMembers : List GroupRecord := [
  { key := [.text "a", .bool false], carried := [.text "a", .text "1", .text "x"] },
  { key := [.text "b", .bool true], carried := [.text "b", .text "2", .text "y"] },
  { key := [.text "a", .bool false], carried := [.text "a", .text "3", .text "z"] }]

theorem groupsOf_shelved : shelvedTable.groupsOf shelvedMembers = [
    ([.text "a", .bool false], [
      { key := [.text "a", .bool false], carried := [.text "a", .text "1", .text "x"] },
      { key := [.text "a", .bool false], carried := [.text "a", .text "3", .text "z"] }]),
    ([.text "b", .bool true], [
      { key := [.text "b", .bool true], carried := [.text "b", .text "2", .text "y"] }])] := by
  have hfirst : Groups.without [.text "a", .bool false] shelvedMembers.tail =
      [{ key := [.text "b", .bool true], carried := [.text "b", .text "2", .text "y"] }] := by rfl
  have hsecond : Groups.without [.text "b", .bool true] [] = [] := rfl
  simp only [shelvedMembers, List.tail_cons] at hfirst
  rw [Table.groupsOf, if_neg (by decide), shelvedMembers, Groups.divided, hfirst, Groups.divided,
    hsecond, Groups.divided]
  rfl

theorem results_of_chosen_shelved : ∃ p,
    GroupSchema.plan shelvedTable.catalog shelvedTable.rules
      (some [.text "n", .text "k", .text "n"]) = .ok p ∧
    p.results shelvedRows = .ok [
      [.int 2, .tuple [.text "a", .text "!"], .int 2],
      [.int 1, .tuple [.text "b", .text "!"], .int 1]] := by
  obtain ⟨p, hplan, -, -, hresults, -⟩ := GroupPlan.results_of_chosen
    (rfl : GroupSchema.names shelvedTable.catalog shelvedTable.rules =
      .ok [.text "k", .text "k", .text "lost", .text "n"])
    (by decide : [.text "n", .text "k", .text "n"] ≠ []) (by decide) (by decide) (by
      intro i hi a hle ha
      obtain rfl | rfl : i = 3 ∨ i = 0 := by
        have hchosen : i ∈ [3, 0, 3] := hi
        simp at hchosen
        omega
      · rw [← Option.some.inj ha]
        rfl
      · exact absurd hle (by decide))
  refine ⟨p, hplan, ((hresults shelvedRows (by decide)).1 _).2
    ⟨shelvedMembers, rfl, ⟨by decide, ?_⟩, ?_⟩⟩
  · rw [groupsOf_shelved]
    intro group hgroup i hi
    obtain rfl | rfl : i = 0 ∨ i = 1 := by
      have htwo : i < 2 := hi
      omega
    all_goals
      simp only [List.mem_cons, List.not_mem_nil, or_false] at hgroup
      rcases hgroup with rfl | rfl <;> exact ⟨_, rfl⟩
  · rw [groupsOf_shelved]
    rfl

end TablePipeline
