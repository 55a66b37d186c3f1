import Mathlib
import TablePipeline.Proofs.CatalogColumns
import TablePipeline.Proofs.JoinSelection
import TablePipeline.Proofs.Evaluable

/-!
Joins whose tables are edited after the declaration. A plan looks up the names of the columns and
the columns themselves anew, and brings both together by their places. While the tables make no
groups, a name and its column stand in the same place, however the tables have been edited, so an
output column carries the column that its name says. A table that has begun to make groups is
named after its groups, but what stands in these places are still the columns of its rows.
-/
namespace TablePipeline

/-! ### Edited tables have valid catalogs -/

namespace Edit

variable {t t' : Table} {u : Unit}

theorem valid_onCatalog {α : Type} {change : Change α} {a : α}
    (hchange : ∀ c, Ends change t.catalog a c → c.Valid) (h : Ends (onCatalog change) t a t') :
    t'.catalog.Valid := by
  obtain ⟨c, hc, rfl⟩ := ends_onCatalog.1 h
  exact hchange c hc

theorem valid_of_steps {e : Edit} (h : Ends e.steps t u t') (hvalid : t.catalog.Valid) :
    t'.catalog.Valid := by
  cases e with
  | operate func columns newName =>
    obtain ⟨output, c, hoperate, rfl⟩ := ends_operate.1 h
    exact (hvalid.step_operate hoperate).valid
  | setType column type =>
    exact valid_onCatalog (fun _ hc => (hvalid.step_same (Catalog.reshapes_setType hc)
      (Catalog.extends_setType hc)).valid) h
  | setParser column parser =>
    exact valid_onCatalog (fun _ hc => (hvalid.step_same (Catalog.reshapes_setParser hc)
      (Catalog.extends_setParser hc)).valid) h
  | setFormatter column formatter =>
    exact valid_onCatalog (fun _ hc => (hvalid.step_same (Catalog.reshapes_setFormatter hc)
      (Catalog.extends_setFormatter hc)).valid) h
  | filter columns predicate =>
    obtain ⟨f, slots, -, -, rfl⟩ := ends_addFilter.1 h
    exact hvalid
  | groupBy keys =>
    obtain ⟨entries, slots, -, -, rfl⟩ := ends_setKeys.1 h
    exact hvalid
  | aggregate func columns newNames =>
    obtain ⟨f, slots, names, -, -, -, -, -, rfl⟩ := ends_addAggregates.1 h
    exact hvalid
  | delete columns => exact valid_onCatalog (fun _ => hvalid.of_delete) h
  | select columns =>
    obtain ⟨keep, drop, -, -, ⟨-, rfl⟩ | ⟨-, h⟩⟩ := ends_keepOnly.1 h
    · exact hvalid
    · exact valid_onCatalog (fun _ => hvalid.of_delete) h
  | reorder names => exact valid_onCatalog (fun _ hc => (hvalid.step_reorder hc).valid) h
  | rename names => exact valid_onCatalog (fun _ hc => (hvalid.step_rename hc).valid) h

end Edit

namespace Table

/-- An edit keeps a catalog valid, whether it takes place or not. -/
theorem valid_edit {t : Table} (h : t.catalog.Valid) (store : Store) (e : Edit) :
    (t.edit store e).2.catalog.Valid := by
  cases hedit : (t.edit store e).1 with
  | error fault => rwa [(edit_of_error hedit).1]
  | ok _ => exact Edit.valid_of_steps (steps_of_edit hedit) h

/-- A table that has just been opened has a valid catalog. -/
theorem valid_of_ofArgs {store : Store} {path haveHeader batchSize : Arg} {settings : FileSettings}
    {t : Table} (h : ofArgs store path haveHeader batchSize settings = .ok t) :
    t.catalog.Valid := by
  obtain ⟨hcatalog, -⟩ := catalog_of_ofArgs h
  obtain ⟨names, hnames, -⟩ := bind_eq_ok.1 hcatalog
  obtain ⟨-, hkeys, hapart⟩ := Names.distinct_eq_ok.1 hnames
  obtain ⟨c, hc, hvalid, -⟩ := Catalog.exists_ofNames hapart hkeys
  rwa [Except.ok.inj (hcatalog.symm.trans hc)]

theorem valid_after (history : List (Store × Edit)) {t : Table} (h : t.catalog.Valid) :
    (t.after history).catalog.Valid := by
  induction history generalizing t with
  | nil => exact h
  | cons first rest ih => exact ih (valid_edit h first.1 first.2)

end Table

/-- The text that names a column leads the table itself to that column. -/
theorem Catalog.Valid.slotNamed?_eq {c : Catalog} (h : c.Valid) {slot : ℕ} (hslot : slot ∈ c.live)
    {name : String} (hname : c.nameOf slot = .text name) : c.slotNamed? name = some slot := by
  cases hfound : c.slotNamed? name with
  | none =>
    refine absurd (List.find?_eq_none.1 hfound slot hslot) ?_
    simp [hname]
  | some there =>
    obtain ⟨hlive, hnamed⟩ := of_slotNamed? hfound
    have hmatch : (c.nameOf there).isMatch (c.nameOf slot) = true := by
      rw [hname, Datum.isMatch_text, hnamed]
    rw [h.eq_of_isMatch hlive hslot hmatch]

/-! ### What an output column carries -/

/-- What an output column carries: whether a column of the first side, its slot and its formatter. -/
def JoinPlan.carriedAt (p : JoinPlan) (i : ℕ) : Option (Bool × ℕ × Option Func) :=
  p.writeIndex[i]?.bind fun place =>
    if place < p.a.carry.length then p.a.carry[place]?.map (true, ·)
    else p.b.carry[place - p.a.carry.length]?.map (false, ·)

namespace JoinSpec

theorem getElem?_of_slotsAt {c : Catalog} {places slots : List ℕ} (h : slotsAt c places = .ok slots)
    {i place : ℕ} (hplace : places[i]? = some place) :
    ∃ slot, slots[i]? = some slot ∧ c.live[place]? = some slot := by
  have hi := congrArg (fun found => found[i]?) (slotsAt_eq_ok h)
  simp only [List.getElem?_map, hplace, Option.map_some] at hi
  obtain ⟨slot, hslot, hlive⟩ := Option.map_eq_some_iff.1 hi.symm
  exact ⟨slot, hslot, hlive.symm⟩

/-- Where a chosen column of the first table is carried. -/
theorem carried_of_lt {positions : List ℕ} {count q : ℕ} (hq : q ∈ positions) (hlt : q < count) :
    placeOf (carriedPlaces positions count) q < (firstPlaces positions count).length ∧
      (firstPlaces positions count)[placeOf (carriedPlaces positions count) q]? = some q := by
  have hmem := mem_firstPlaces.2 ⟨hq, hlt⟩
  rw [placeOf, carriedPlaces, List.idxOf_append_of_mem hmem]
  exact ⟨List.idxOf_lt_length_of_mem hmem, List.getElem?_idxOf hmem⟩

/-- Where a chosen column of the second table is carried. -/
theorem carried_of_le {positions : List ℕ} {count q : ℕ} (hq : q ∈ positions) (hle : count ≤ q) :
    (firstPlaces positions count).length ≤ placeOf (carriedPlaces positions count) q ∧
      (secondPlaces positions count)[placeOf (carriedPlaces positions count) q -
        (firstPlaces positions count).length]? = some (q - count) := by
  have hnot : q ∉ firstPlaces positions count := fun hmem => hle.not_gt (mem_firstPlaces.1 hmem).2
  have hplace := mem_secondPlaces_of_le hq hle
  have hmem : q ∈ (secondPlaces positions count).map (count + ·) :=
    List.mem_map.2 ⟨_, hplace, by omega⟩
  rw [placeOf, carriedPlaces, List.idxOf_append_of_notMem hnot]
  refine ⟨Nat.le_add_right _ _, ?_⟩
  have hfound := List.getElem?_idxOf hmem
  rw [List.getElem?_map] at hfound
  obtain ⟨place, hat, hsum⟩ := Option.map_eq_some_iff.1 hfound
  rw [Nat.add_sub_cancel_left, hat]
  exact congrArg some (by omega)

theorem lt_of_positions {names : List Value} {select : Option (List Value)} {positions : List ℕ}
    (h : JoinSpec.positions names select = .ok positions) {i : ℕ} (hi : i ∈ positions) :
    i < names.length := by
  cases select with
  | none =>
    rw [← Except.ok.inj h] at hi
    exact List.mem_range.1 hi
  | some select => exact Names.lt_of_places h hi

/-- The table of one of the two sides. -/
def tableOf (s t : Table) (first : Bool) : Table := if first then s else t

/-- The text in front of the names of one of the two sides. -/
def frontOf (spec : JoinSpec) (first : Bool) : String := if first then spec.aPrefix else spec.bPrefix

/-- An output column has its name from a place in the names of one of the tables, and carries the
column that stands in the same place among the columns of this table's rows. -/
def GoesByPlace (spec : JoinSpec) (s t : Table) (formatted : Bool) (p : JoinPlan) (i : ℕ)
    (name : Value) : Prop :=
  ∃ (first : Bool) (place slot : ℕ) (names : List Value) (n : Value),
    (tableOf s t first).names = .ok names ∧ names[place]? = some n ∧
      name = .text (spec.frontOf first ++ "_" ++ n.display) ∧
      (tableOf s t first).catalog.live[place]? = some slot ∧
      p.carriedAt i = some (first, slot,
        if formatted then (tableOf s t first).catalog.formatter? slot else none)

/-- An output column carries the column in its place, of the first table or of the second one. -/
theorem carriedAt_planned {spec : JoinSpec} {s t : Table} {formatted firstIsBuilt : Bool}
    {names : List Value} {count : ℕ} {positions aSlots bSlots : List ℕ}
    (haSlots : slotsAt s.catalog (firstPlaces positions count) = .ok aSlots)
    (hbSlots : slotsAt t.catalog (secondPlaces positions count) = .ok bSlots) {i q : ℕ}
    (hq : positions[i]? = some q) :
    ∃ (first : Bool) (place slot : ℕ), (first = true ∧ place = q ∧ q < count ∨
        first = false ∧ count + place = q) ∧
      (tableOf s t first).catalog.live[place]? = some slot ∧
      (spec.planned s t formatted names count positions aSlots bSlots firstIsBuilt).carriedAt i =
        some (first, slot, if formatted then (tableOf s t first).catalog.formatter? slot else none) := by
  have hmem := List.mem_of_getElem? hq
  have hacount := congrArg List.length (slotsAt_eq_ok haSlots)
  rw [List.length_map, List.length_map] at hacount
  have hwritten : (positions.map (placeOf (carriedPlaces positions count)))[i]? =
      some (placeOf (carriedPlaces positions count) q) := by
    rw [List.getElem?_map, hq, Option.map_some]
  simp only [JoinPlan.carriedAt, planned, hwritten, Option.bind_some, carry_sideFor, List.length_map]
  by_cases hlt : q < count
  · obtain ⟨hplace, hat⟩ := carried_of_lt hmem hlt
    obtain ⟨slot, hslot, hlive⟩ := getElem?_of_slotsAt haSlots hat
    refine ⟨true, q, slot, .inl ⟨rfl, rfl, hlt⟩, hlive, ?_⟩
    rw [if_pos (hacount ▸ hplace), List.getElem?_map, hslot]
    rfl
  · have hle := not_lt.1 hlt
    obtain ⟨hplace, hat⟩ := carried_of_le hmem hle
    obtain ⟨slot, hslot, hlive⟩ := getElem?_of_slotsAt hbSlots hat
    refine ⟨false, q - count, slot, .inr ⟨rfl, Nat.add_sub_cancel' hle⟩, hlive, ?_⟩
    rw [if_neg (by omega), List.getElem?_map, ← hacount, hslot]
    rfl

/-- Names and columns are brought together by their places. -/
theorem goesByPlace_of_joinPlan {store : Store} {spec : JoinSpec} {s t : Table}
    {select : Option (List Value)} {formatted : Bool} {p : JoinPlan}
    (h : spec.joinPlan store s t select formatted = .ok p) {i : ℕ} {name : Value}
    (hname : p.names[i]? = some name) : spec.GoesByPlace s t formatted p i name := by
  obtain ⟨names, aNames, positions, aSlots, bSlots, first, hnames, hpositions, -, -, -, haNames,
    haSlots, hbSlots, -, rfl⟩ := joinPlan_eq_ok_iff.1 h
  obtain ⟨aNames', haNames', hnames⟩ := bind_eq_ok.1 hnames
  obtain rfl : aNames = aNames' := Except.ok.inj (haNames.symm.trans haNames')
  obtain ⟨bNames, hbNames, hnames⟩ := bind_eq_ok.1 hnames
  simp only [planned, List.getElem?_map, Option.map_eq_some_iff] at hname
  obtain ⟨q, hq, rfl⟩ := hname
  have hin := lt_of_positions hpositions (List.mem_of_getElem? hq)
  obtain rfl := Except.ok.inj hnames
  rw [List.length_append, List.length_map, List.length_map] at hin
  obtain ⟨_, place, slot, ⟨rfl, rfl, hlt⟩ | ⟨rfl, rfl⟩, hlive, hcarried⟩ :=
    carriedAt_planned haSlots hbSlots hq
  · refine ⟨true, place, slot, aNames, aNames[place], haNames, List.getElem?_eq_getElem hlt, ?_,
      hlive, hcarried⟩
    rw [List.getD_eq_getElem?_getD, List.getElem?_append_left (by simpa using hlt)]
    simp [hlt, frontOf]
  · have hltb : place < bNames.length := by omega
    refine ⟨false, place, slot, bNames, bNames[place], hbNames, List.getElem?_eq_getElem hltb, ?_,
      hlive, hcarried⟩
    rw [List.getD_eq_getElem?_getD, List.getElem?_append_right (by simp)]
    simp [hltb, frontOf]

/-- An output column carries a column of one of the tables, with its formatter: the one whose name it
has, and which the table itself finds under this name. -/
def GoesByName (spec : JoinSpec) (s t : Table) (formatted : Bool) (p : JoinPlan) (i : ℕ)
    (name : Value) : Prop :=
  ∃ (first : Bool), ∃ slot ∈ (tableOf s t first).catalog.live,
    name = nameIn (spec.frontOf first) (tableOf s t first).catalog slot ∧
      (∀ n, (tableOf s t first).catalog.nameOf slot = .text n →
        (tableOf s t first).catalog.slotNamed? n = some slot) ∧
      p.carriedAt i = some (first, slot,
        if formatted then (tableOf s t first).catalog.formatter? slot else none)

theorem GoesByPlace.goesByName {spec : JoinSpec} {s t : Table} {formatted : Bool} {p : JoinPlan}
    {i : ℕ} {name : Value} (h : spec.GoesByPlace s t formatted p i name)
    (hrows : ∀ first, (tableOf s t first).rules.makesGroups = false)
    (hvalid : ∀ first, (tableOf s t first).catalog.Valid) : spec.GoesByName s t formatted p i name := by
  obtain ⟨first, place, slot, names, n, hnames, hn, rfl, hlive, hcarried⟩ := h
  rw [Table.names_of_rows (hrows first)] at hnames
  obtain rfl := Except.ok.inj hnames
  rw [Catalog.names, List.getElem?_map, hlive] at hn
  obtain rfl := Option.some.inj hn
  have hslot := List.mem_of_getElem? hlive
  exact ⟨first, slot, hslot, rfl, fun _ => (hvalid first).slotNamed?_eq hslot, hcarried⟩

theorem exists_mistake_of_requireLive {t : Table} {keys : List (ℕ × Option Func)} {fault : Fault}
    (h : requireLive t keys = .error fault) : ∃ mistake, fault = .schema mistake := by
  unfold requireLive at h
  split_ifs at h
  exact ⟨_, (Except.error.inj h).symm⟩

theorem fault_of_slotsAt {c : Catalog} {places : List ℕ} {fault : Fault}
    (h : slotsAt c places = .error fault) :
    ∃ place ∈ places, c.live.length ≤ place ∧ fault = .eval .indexOutOfRange := by
  rw [slotsAt_eq_mapM] at h
  obtain ⟨place, hplace, hstop⟩ := exists_of_mapM_eq_error h
  unfold slotAt at hstop
  split at hstop
  · cases hstop
  · next hnone =>
    exact ⟨place, hplace, List.getElem?_eq_none_iff.1 hnone, (Except.error.inj hstop).symm⟩

theorem fault_of_buildsA {store : Store} {spec : JoinSpec} {s t : Table} {fault : Fault}
    (h : buildsA store spec s t = .error fault) : spec.kind = .inner ∧
      (s.source.size store = .error fault ∨ t.source.size store = .error fault) := by
  unfold buildsA at h
  split_ifs at h with hkind
  refine ⟨by simpa using hkind, ?_⟩
  rcases bind_eq_error.1 h with hsize | ⟨n, -, h⟩
  · exact .inl hsize
  · rcases bind_eq_error.1 h with hsize | ⟨m, -, h⟩
    · exact .inr hsize
    · cases h

/-- Why a join cannot be planned: a mistake in what was declared or chosen; an inner join also asks
for the sizes of the files, which may fail; and a table may have more names than columns, so that
there is no column in the place of a name. -/
def CannotPlan (spec : JoinSpec) (store : Store) (s t : Table) (fault : Fault) : Prop :=
  (∃ mistake, fault = .schema mistake) ∨
    (spec.kind = .inner ∧
      (s.source.size store = .error fault ∨ t.source.size store = .error fault)) ∨
    (fault = .eval .indexOutOfRange ∧ ∃ first names, (tableOf s t first).names = .ok names ∧
      (tableOf s t first).catalog.live.length < names.length)

theorem cannotPlan_of_joinPlan {store : Store} {spec : JoinSpec} {s t : Table}
    {aNames bNames : List Value} (haNames : s.names = .ok aNames) (hbNames : t.names = .ok bNames)
    {select : Option (List Value)} {formatted : Bool} {fault : Fault}
    (h : spec.joinPlan store s t select formatted = .error fault) :
    spec.CannotPlan store s t fault := by
  obtain ⟨names, hnames, hlength⟩ : ∃ names, spec.names s t = .ok names ∧
      names.length = aNames.length + bNames.length :=
    ⟨_, by rw [JoinSpec.names, haNames, hbNames, ok_bind, ok_bind], by simp⟩
  unfold joinPlan at h
  rw [hnames, ok_bind] at h
  rcases bind_eq_error.1 h with hplaces | ⟨positions, hpositions, h⟩
  · cases select with
    | none => cases hplaces
    | some select =>
      exact .inl (Names.exists_mistake_of_places (fun _ => exists_text_of_mem_names hnames) hplaces)
  have hin : ∀ i ∈ positions, i < aNames.length + bNames.length := fun _ hi =>
    hlength ▸ lt_of_positions hpositions hi
  obtain ⟨-, rfl⟩ | ⟨-, h⟩ := guard_eq_error.1 h
  · exact .inl ⟨_, rfl⟩
  rcases bind_eq_error.1 h with hdead | ⟨_, -, h⟩
  · exact .inl (exists_mistake_of_requireLive hdead)
  rcases bind_eq_error.1 h with hdead | ⟨_, -, h⟩
  · exact .inl (exists_mistake_of_requireLive hdead)
  simp only [haNames, ok_bind] at h
  rcases bind_eq_error.1 h with haSlots | ⟨_, -, h⟩
  · obtain ⟨place, hplace, hout, hfault⟩ := fault_of_slotsAt haSlots
    have hlt := (mem_firstPlaces.1 hplace).2
    exact .inr (.inr ⟨hfault, true, aNames, haNames, hout.trans_lt hlt⟩)
  rcases bind_eq_error.1 h with hbSlots | ⟨_, -, h⟩
  · obtain ⟨place, hplace, hout, hfault⟩ := fault_of_slotsAt hbSlots
    have hlt := lt_of_mem_secondPlaces hin hplace
    exact .inr (.inr ⟨hfault, false, bNames, hbNames, hout.trans_lt hlt⟩)
  rcases bind_eq_error.1 h with hsize | ⟨_, -, h⟩
  · exact .inr (.inl (fault_of_buildsA hsize))
  · cases h

/-- What a join was declared with. -/
structure DeclaredOn (spec : JoinSpec) (a b : Table) (args : JoinArgs) : Prop where
  first : requireRows a = .ok ()
  second : requireRows b = .ok ()
  prefixes : prefixesOf args.prefixes = .ok (spec.aPrefix, spec.bPrefix)
  rolls : (spec.aRoll? = none ∧ spec.bRoll? = none) ∨ ∃ x i y j,
    rollSlots a b args.aRoll args.bRoll = .ok ((x, i), (y, j)) ∧
      spec.aRoll? = some i ∧ spec.bRoll? = some j

theorem declaredOn_of_ofArgs {store : Store} {a b : Table} {args : JoinArgs} {spec : JoinSpec}
    (h : ofArgs store a b args = .ok spec) : spec.DeclaredOn a b args := by
  obtain ⟨kind, -, h⟩ := bind_eq_ok.1 h
  obtain ⟨⟨⟩, ha, h⟩ := bind_eq_ok.1 h
  obtain ⟨⟨⟩, hb, h⟩ := bind_eq_ok.1 h
  obtain ⟨aEntries, -, h⟩ := bind_eq_ok.1 h
  obtain ⟨bEntries, -, h⟩ := bind_eq_ok.1 h
  obtain ⟨-, h⟩ := guard_eq_ok.1 h
  obtain ⟨⟨front, other⟩, hprefixes, h⟩ := bind_eq_ok.1 h
  obtain ⟨aKeys, -, h⟩ := bind_eq_ok.1 h
  obtain ⟨bKeys, -, h⟩ := bind_eq_ok.1 h
  split_ifs at h
  · obtain ⟨⟨⟨x, i⟩, ⟨y, j⟩⟩, hrolls, h⟩ := bind_eq_ok.1 h
    obtain ⟨limit?, -, h⟩ := bind_eq_ok.1 h
    obtain ⟨_, -, h⟩ := bind_eq_ok.1 h
    obtain rfl := Except.ok.inj h
    exact ⟨ha, hb, hprefixes, .inr ⟨x, i, y, j, hrolls, rfl, rfl⟩⟩
  · obtain rfl := Except.ok.inj h
    exact ⟨ha, hb, hprefixes, .inl ⟨rfl, rfl⟩⟩

/-- A join is declared over tables that make no groups. -/
theorem rows_of_ofArgs {store : Store} {a b : Table} {args : JoinArgs} {spec : JoinSpec}
    (h : ofArgs store a b args = .ok spec) :
    a.rules.makesGroups = false ∧ b.rules.makesGroups = false := by
  have hrows : ∀ {t : Table}, requireRows t = .ok () → t.rules.makesGroups = false := by
    intro t ht
    unfold requireRows at ht
    split_ifs at ht with hgroups
    simpa using hgroups
  have hdeclared := declaredOn_of_ofArgs h
  exact ⟨hrows hdeclared.first, hrows hdeclared.second⟩

end JoinSpec

/-- A table keeps having names. -/
theorem Table.exists_names_after {t : Table} (h : ∃ names, t.names = .ok names)
    (history : List (Store × Edit)) : ∃ names, (t.after history).names = .ok names := by
  induction history generalizing t with
  | nil => exact h
  | cons call rest ih =>
    refine ih ?_
    cases hedit : (t.edit call.1 call.2).1 with
    | error fault => rwa [edit_eq_of_error hedit]
    | ok _ =>
      obtain ⟨p, -, hnames, -⟩ := (evaluable_of_edit hedit).plan false
      exact ⟨p.names, hnames⟩

/-- A join whose tables are edited after its declaration, in whatever way. Both sides read the rows of
their tables as these are then, and names and columns are brought together by their places. So while
neither table makes groups, every output column carries the column of its name. Planning fails with a
mistake in the declaration or the choice, unless the size of a file cannot be told; only a table that
has begun to make groups can have more names than columns, which ends with an index out of range. -/
theorem JoinSpec.joinPlan_after_edits {a b : Table} (ha : a.catalog.Valid) (hb : b.catalog.Valid)
    {declaredOn : Store} {args : JoinArgs} {spec : JoinSpec}
    (hdeclared : JoinSpec.ofArgs declaredOn a b args = .ok spec)
    (aHistory bHistory : List (Store × Edit)) (store : Store) (select : Option (List Value))
    (formatted : Bool) :
    let s := a.after aHistory
    let t := b.after bHistory
    (∀ p : JoinPlan, spec.joinPlan store s t select formatted = .ok p →
      (p.a.source = s.source ∧ p.a.transform = RowTransform.ofTable s.catalog s.rules false) ∧
      (p.b.source = t.source ∧ p.b.transform = RowTransform.ofTable t.catalog t.rules false) ∧
      ∀ (i : ℕ) (name : Value), p.names[i]? = some name →
        spec.GoesByPlace s t formatted p i name ∧
        ((∀ first, (tableOf s t first).rules.makesGroups = false) →
          spec.GoesByName s t formatted p i name)) ∧
    (∀ fault, spec.joinPlan store s t select formatted = .error fault →
      spec.CannotPlan store s t fault) ∧
    ∀ (first : Bool) (names : List Value), (tableOf s t first).names = .ok names →
      (tableOf s t first).catalog.live.length < names.length →
        (tableOf s t first).rules.makesGroups = true := by
  intro s t
  obtain ⟨harows, hbrows⟩ := rows_of_ofArgs hdeclared
  obtain ⟨aNames, haNames⟩ : ∃ names, s.names = .ok names :=
    Table.exists_names_after ⟨_, Table.names_of_rows harows⟩ aHistory
  obtain ⟨bNames, hbNames⟩ : ∃ names, t.names = .ok names :=
    Table.exists_names_after ⟨_, Table.names_of_rows hbrows⟩ bHistory
  have hvalid : ∀ first, (tableOf s t first).catalog.Valid := by
    intro first
    cases first
    · exact Table.valid_after bHistory hb
    · exact Table.valid_after aHistory ha
  refine ⟨fun p hp => ?_, fun fault => cannotPlan_of_joinPlan haNames hbNames,
    fun first names hnames hmore => ?_⟩
  · obtain ⟨haread, hbread⟩ := reads_of_joinPlan hp
    refine ⟨haread, hbread, fun i name hname => ?_⟩
    have hplace := goesByPlace_of_joinPlan hp hname
    exact ⟨hplace, fun hrows => hplace.goesByName hrows hvalid⟩
  · by_contra hrows
    rw [Table.names_of_rows (by simpa using hrows)] at hnames
    rw [← Except.ok.inj hnames, Catalog.length_names] at hmore
    exact lt_irrefl _ hmore

theorem ofArgs_sampleJoin : JoinSpec.ofArgs sampleStore sampleTable sampleTable
    { kind := .text "inner", aKeys := .text "k", bKeys := .text "k" } = .ok sampleJoin := by
  cbv

/-- The sample in which a column was added and rows were filtered after the declaration. -/
theorem joinPlan_after_edits_sample : ∃ p : JoinPlan,
    sampleJoin.joinPlan sampleStore (sampleTable.after sampleHistory) (sampleTable.after [])
        (some [.text "1_w"]) true = .ok p ∧
      sampleJoin.GoesByName (sampleTable.after sampleHistory) (sampleTable.after []) true p 0
        (.text "1_w") := by
  have hvalid := Table.valid_of_ofArgs ofArgs_sample
  obtain ⟨hplans, -, -⟩ := JoinSpec.joinPlan_after_edits hvalid hvalid ofArgs_sampleJoin
    sampleHistory [] sampleStore (some [.text "1_w"]) true
  have hrows : ∀ first, (JoinSpec.tableOf (sampleTable.after sampleHistory) (sampleTable.after [])
      first).rules.makesGroups = false := by
    rw [after_sample.1]
    intro first
    cases first <;> rfl
  have hplanned : ∃ p, sampleJoin.joinPlan sampleStore (sampleTable.after sampleHistory)
      (sampleTable.after []) (some [.text "1_w"]) true = .ok p ∧
        p.names[0]? = some (.text "1_w") := by
    rw [after_sample.1]
    refine ⟨{ sampleJoinPlan with
      a := { sampleSide with
        transform := RowTransform.ofTable markedTable.catalog markedTable.rules false
        carry := [(2, none)] }
      b := { sampleSide with carry := [] }
      writeIndex := [0], names := [.text "1_w"] }, ?_, rfl⟩
    simp only [Table.after, JoinSpec.joinPlan, JoinSpec.buildsA, markedTable,
      filteredTable, derivedTable, sampleTable, size_sample]
    cbv
  obtain ⟨p, hp, hname⟩ := hplanned
  obtain ⟨-, -, hcolumns⟩ := hplans p hp
  exact ⟨p, hp, (hcolumns 0 _ hname).2 hrows⟩

/-! ### A table that is grouped after the declaration -/

/-- The rows of the file, grouped by the second column. -/
def groupedTable : Table := { sampleTable with rules := { keys := [{ slot := 1 }] } }

/-- The groups with two more columns. -/
def tallied : Table :=
  { groupedTable with rules := { groupedTable.rules with
      aggregates := [
        { func := .aggregate "agg_count" Aggregate.count, source := 0, name := .text "count(k)" },
        { func := .aggregate "agg_count" Aggregate.count, source := 1, name := .text "count(v)" }] } }

theorem edit_groupBy :
    sampleTable.edit sampleStore (.groupBy (.text "v")) = (.ok (), groupedTable) := by
  have hsample : ∃ p, groupedTable.plan {} false = .ok p ∧
      p.sample sampleStore 10 = ⟨[[.text "1"], [.text "2"]], none⟩ := by
    refine ⟨_, rfl, ?_⟩
    simp only [Plan.sample, groupedTable, sampleTable, sample_ten]
    cbv
  obtain ⟨p, hplan, hsample⟩ := hsample
  exact Table.edit_of_steps rfl (dryRun_of_sample hplan hsample)

theorem edit_aggregate :
    groupedTable.edit sampleStore (.aggregate (.text "count") (.list [.text "k", .text "v"]) .null) =
      (.ok (), tallied) := by
  have hsample : ∃ p, tallied.plan {} false = .ok p ∧
      p.sample sampleStore 10 =
        ⟨[[.text "1", .int 1, .int 1], [.text "2", .int 1, .int 1]], none⟩ := by
    refine ⟨_, rfl, ?_⟩
    simp only [Plan.sample, tallied, groupedTable, sampleTable, sample_ten]
    cbv
  obtain ⟨p, hplan, hsample⟩ := hsample
  exact Table.edit_of_steps rfl (dryRun_of_sample hplan hsample)

/-- A join was declared over a table with itself, and one of the two was grouped by its second column
afterwards. The names of the join then have the group in the place of the first column, so the column
named after the group is filled with the first column. With two more columns in each group there are
more names than columns, and planning ends with an index out of range. -/
theorem joinPlan_after_grouping :
    JoinSpec.ofArgs sampleStore sampleTable sampleTable
        { kind := .text "inner", aKeys := .text "k", bKeys := .text "k" } = .ok sampleJoin ∧
      sampleTable.edit sampleStore (.groupBy (.text "v")) = (.ok (), groupedTable) ∧
      groupedTable.edit sampleStore
          (.aggregate (.text "count") (.list [.text "k", .text "v"]) .null) = (.ok (), tallied) ∧
      (∃ p : JoinPlan,
        sampleJoin.joinPlan sampleStore groupedTable sampleTable (some [.text "1_v"]) false =
            .ok p ∧
          p.names = [.text "1_v"] ∧ p.carriedAt 0 = some (true, 0, none) ∧
          groupedTable.catalog.slotNamed? "v" = some 1) ∧
      sampleJoin.joinPlan sampleStore tallied sampleTable none false =
        .error (.eval .indexOutOfRange) := by
  refine ⟨ofArgs_sampleJoin, edit_groupBy, edit_aggregate, ⟨{ sampleJoinPlan with
    a := { sampleSide with carry := [(0, none)] }
    b := { sampleSide with carry := [] }
    writeIndex := [0], names := [.text "1_v"] }, ?_, rfl, rfl, by cbv⟩, ?_⟩
  · simp only [JoinSpec.joinPlan, JoinSpec.buildsA, groupedTable, sampleTable, size_sample]
    cbv
  · simp only [JoinSpec.joinPlan, JoinSpec.buildsA, tallied, groupedTable, sampleTable, size_sample]
    cbv

end TablePipeline
