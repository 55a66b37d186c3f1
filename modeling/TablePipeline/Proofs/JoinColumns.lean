import Mathlib
import TablePipeline.Proofs.Columns
import TablePipeline.Join.Spec

/-!
The columns of a join. Each side brings along only the columns that are asked for, each once and in
the order of its table; the output picks them again in the order in which they are asked for, the
columns of the first table counted before those of the second.
-/
namespace TablePipeline

namespace JoinPlan

/-- The output row of a pair of records. -/
def pairRow (p : JoinPlan) (r s : JoinRecord) : Except Fault Row :=
  Row.cells (r.values ++ s.values) p.writeIndex

/-- The output row of a first record without a partner. -/
def paddedRow (p : JoinPlan) (r : JoinRecord) : Except Fault Row :=
  Row.cells (r.values ++ p.b.carry.map fun _ => .null) p.writeIndex

/-- Every place that is written is one of a column that is brought along. -/
def Fits (p : JoinPlan) : Prop := ∀ i ∈ p.writeIndex, i < p.a.carry.length + p.b.carry.length

end JoinPlan

theorem JoinSide.values_of_record {side : JoinSide} {row : Row} {r : JoinRecord}
    (h : side.record row = .ok r) : side.carry.map (JoinSide.through row) = r.values.map .ok := by
  obtain ⟨key, -, h⟩ := bind_eq_ok.1 h
  cases hroll : side.roll? <;>
  · simp only [hroll] at h
    obtain ⟨roll, -, h⟩ := bind_eq_ok.1 h
    obtain ⟨values, hvalues, h⟩ := bind_eq_ok.1 h
    obtain rfl := Except.ok.inj h
    exact mapM_eq_ok_iff.1 hvalues

/-- The value that a row has in a column of a table, as a join brings it along. -/
def Table.columnValue (t : Table) (formatted : Bool) (row : Row) (place : ℕ) : Except Fault Value :=
  match t.catalog.live[place]? with
  | some slot => JoinSide.through row (slot, if formatted then t.catalog.formatter? slot else none)
  | none => .error (.eval .indexOutOfRange)

namespace JoinSpec

/-- The chosen columns of the first table. -/
def firstPlaces (positions : List ℕ) (count : ℕ) : List ℕ :=
  ascending (positions.filter (· < count))

/-- The chosen columns of the second table, as they are counted there. -/
def secondPlaces (positions : List ℕ) (count : ℕ) : List ℕ :=
  ascending ((positions.filter (count ≤ ·)).map (· - count))

/-- The chosen columns of both tables as they are brought along. -/
def carriedPlaces (positions : List ℕ) (count : ℕ) : List ℕ :=
  firstPlaces positions count ++ (secondPlaces positions count).map (count + ·)

/-- The side of a join with or without its formatters. -/
def sideFor (formatted : Bool) (side : JoinSide) : JoinSide :=
  if formatted then side else side.withoutFormats

/-- The plan of chosen columns, as it is made of what planning looks up. -/
def planned (spec : JoinSpec) (s t : Table) (formatted : Bool) (names : List Value) (count : ℕ)
    (positions aSlots bSlots : List ℕ) (firstIsBuilt : Bool) : JoinPlan where
  kind := spec.kind.planned
  a := sideFor formatted (side s spec.aKeys aSlots spec.aRoll?)
  b := sideFor formatted (side t spec.bKeys bSlots spec.bRoll?)
  firstIsBuilt
  limit? := spec.limit?
  dropUnmatched := spec.dropUnmatched
  writeIndex := positions.map (placeOf (carriedPlaces positions count))
  names := positions.map fun i => names.getD i .null

/-- What planning a join looks up. -/
theorem joinPlan_eq_ok_iff {store : Store} {spec : JoinSpec} {s t : Table}
    {select : Option (List Value)} {formatted : Bool} {p : JoinPlan} :
    spec.joinPlan store s t select formatted = .ok p ↔
    ∃ (names aNames : List Value) (positions aSlots bSlots : List ℕ) (firstIsBuilt : Bool),
      spec.names s t = .ok names ∧ JoinSpec.positions names select = .ok positions ∧
      positions ≠ [] ∧ requireLive s spec.aKeys = .ok () ∧ requireLive t spec.bKeys = .ok () ∧
      s.names = .ok aNames ∧
      slotsAt s.catalog (firstPlaces positions aNames.length) = .ok aSlots ∧
      slotsAt t.catalog (secondPlaces positions aNames.length) = .ok bSlots ∧
      buildsA store spec s t = .ok firstIsBuilt ∧
      p = spec.planned s t formatted names aNames.length positions aSlots bSlots firstIsBuilt := by
  unfold joinPlan
  constructor
  · intro h
    obtain ⟨names, hnames, h⟩ := bind_eq_ok.1 h
    obtain ⟨positions, hpositions, h⟩ := bind_eq_ok.1 h
    obtain ⟨hsome, h⟩ := guard_eq_ok.1 h
    obtain ⟨⟨⟩, haKeys, h⟩ := bind_eq_ok.1 h
    obtain ⟨⟨⟩, hbKeys, h⟩ := bind_eq_ok.1 h
    obtain ⟨aNames, haNames, h⟩ := bind_eq_ok.1 h
    obtain ⟨aSlots, haSlots, h⟩ := bind_eq_ok.1 h
    obtain ⟨bSlots, hbSlots, h⟩ := bind_eq_ok.1 h
    obtain ⟨firstIsBuilt, hfirst, h⟩ := bind_eq_ok.1 h
    exact ⟨names, aNames, positions, aSlots, bSlots, firstIsBuilt, hnames, hpositions,
      by simpa using hsome, haKeys, hbKeys, haNames, haSlots, hbSlots, hfirst,
      (Except.ok.inj h).symm⟩
  · rintro ⟨names, aNames, positions, aSlots, bSlots, firstIsBuilt, hnames, hpositions, hsome,
      haKeys, hbKeys, haNames, haSlots, hbSlots, hfirst, rfl⟩
    refine bind_eq_ok.2 ⟨names, hnames, bind_eq_ok.2 ⟨positions, hpositions, guard_eq_ok.2
      ⟨by simpa using hsome, bind_eq_ok.2 ⟨(), haKeys, bind_eq_ok.2 ⟨(), hbKeys, ?_⟩⟩⟩⟩⟩
    exact bind_eq_ok.2 ⟨aNames, haNames, bind_eq_ok.2 ⟨aSlots, haSlots, bind_eq_ok.2 ⟨bSlots, hbSlots,
      bind_eq_ok.2 ⟨firstIsBuilt, hfirst, rfl⟩⟩⟩⟩

/-- A plan of columns whose names and places are known. -/
theorem exists_planned {store : Store} {spec : JoinSpec} {s t : Table}
    {select : Option (List Value)} {formatted : Bool} {p : JoinPlan}
    (h : spec.joinPlan store s t select formatted = .ok p) {names aNames : List Value}
    {positions : List ℕ} (hnames : spec.names s t = .ok names)
    (hpositions : JoinSpec.positions names select = .ok positions) (haNames : s.names = .ok aNames) :
    ∃ (aSlots bSlots : List ℕ) (firstIsBuilt : Bool),
      slotsAt s.catalog (firstPlaces positions aNames.length) = .ok aSlots ∧
      slotsAt t.catalog (secondPlaces positions aNames.length) = .ok bSlots ∧
      buildsA store spec s t = .ok firstIsBuilt ∧
      p = spec.planned s t formatted names aNames.length positions aSlots bSlots firstIsBuilt := by
  obtain ⟨names', aNames', positions', aSlots, bSlots, first, hn, hp, -, -, -, ha, haSlots, hbSlots,
    hfirst, hplan⟩ := joinPlan_eq_ok_iff.1 h
  obtain rfl : names = names' := Except.ok.inj (hnames.symm.trans hn)
  obtain rfl : positions = positions' := Except.ok.inj (hpositions.symm.trans hp)
  obtain rfl : aNames = aNames' := Except.ok.inj (haNames.symm.trans ha)
  exact ⟨aSlots, bSlots, first, haSlots, hbSlots, hfirst, hplan⟩

/-- The slot of the column at a place. -/
def slotAt (c : Catalog) (place : ℕ) : Except Fault ℕ :=
  match c.live[place]? with
  | some slot => .ok slot
  | none => .error (.eval .indexOutOfRange)

theorem slotsAt_eq_mapM (c : Catalog) (places : List ℕ) : slotsAt c places = places.mapM (slotAt c) :=
  rfl

theorem slotAt_eq_ok_iff {c : Catalog} {place slot : ℕ} :
    slotAt c place = .ok slot ↔ c.live[place]? = some slot := by
  unfold slotAt
  cases c.live[place]? <;> simp

theorem slotsAt_eq_ok {c : Catalog} {places slots : List ℕ} (h : slotsAt c places = .ok slots) :
    places.map (fun place => c.live[place]?) = slots.map some := by
  have hoption : ∀ place, c.live[place]? = (slotAt c place).toOption := fun place => by
    unfold slotAt
    cases c.live[place]? <;> rfl
  have hmap := congrArg (List.map Except.toOption) (mapM_eq_ok_iff.1 h)
  rw [List.map_map, List.map_map] at hmap
  exact (List.map_congr_left fun place _ => hoption place).trans hmap

theorem mem_firstPlaces {positions : List ℕ} {count i : ℕ} :
    i ∈ firstPlaces positions count ↔ i ∈ positions ∧ i < count := by
  rw [firstPlaces, mem_ascending, List.mem_filter, decide_eq_true_eq]

theorem mem_secondPlaces {positions : List ℕ} {count i : ℕ} :
    i ∈ secondPlaces positions count ↔ count + i ∈ positions := by
  simp only [secondPlaces, mem_ascending, List.mem_map, List.mem_filter, decide_eq_true_eq]
  constructor
  · rintro ⟨place, ⟨hplace, hle⟩, rfl⟩
    rwa [Nat.add_sub_cancel' hle]
  · intro h
    exact ⟨_, ⟨h, Nat.le_add_right _ _⟩, Nat.add_sub_cancel_left _ _⟩

theorem mem_secondPlaces_of_le {positions : List ℕ} {count i : ℕ} (h : i ∈ positions)
    (hle : count ≤ i) : i - count ∈ secondPlaces positions count :=
  mem_secondPlaces.2 (by rwa [Nat.add_sub_cancel' hle])

theorem mem_carriedPlaces {positions : List ℕ} {count i : ℕ} (h : i ∈ positions) :
    i ∈ carriedPlaces positions count := by
  rw [carriedPlaces, List.mem_append, List.mem_map]
  by_cases hi : i < count
  · exact .inl (mem_firstPlaces.2 ⟨h, hi⟩)
  · exact .inr ⟨_, mem_secondPlaces_of_le h (not_lt.1 hi), by omega⟩

/-- Writing picks the chosen columns out of those that were brought along. -/
theorem cells_writeIndex {positions : List ℕ} {count : ℕ} (u v : ℕ → Value) :
    Row.cells ((firstPlaces positions count).map u ++ (secondPlaces positions count).map v)
        (positions.map (placeOf (carriedPlaces positions count))) =
      .ok (positions.map fun i => if i < count then u i else v (i - count)) := by
  have hcarried : (firstPlaces positions count).map u ++ (secondPlaces positions count).map v =
      (carriedPlaces positions count).map fun i => if i < count then u i else v (i - count) := by
    rw [carriedPlaces, List.map_append, List.map_map]
    congr 1
    · apply List.map_congr_left
      intro i hi
      rw [if_pos (mem_firstPlaces.1 hi).2]
    · apply List.map_congr_left
      intro i _
      simp
  rw [hcarried]
  exact Row.cells_placeOf fun i hi => mem_carriedPlaces hi

theorem carry_sideFor (formatted : Bool) (t : Table) (keys : List (ℕ × Option Func))
    (slots : List ℕ) (roll? : Option ℕ) :
    (sideFor formatted (side t keys slots roll?)).carry =
      slots.map fun slot => (slot, if formatted then t.catalog.formatter? slot else none) := by
  cases formatted <;> simp [sideFor, side, JoinSide.withoutFormats]

/-- What is brought along of a row are its values in the chosen columns. -/
theorem columnValue_carry {t : Table} {places slots : List ℕ}
    (hslots : slotsAt t.catalog places = .ok slots) (formatted : Bool)
    (keys : List (ℕ × Option Func)) (roll? : Option ℕ) (row : Row) :
    places.map (t.columnValue formatted row) =
      (sideFor formatted (side t keys slots roll?)).carry.map (JoinSide.through row) := by
  rw [carry_sideFor, List.map_map]
  have hlive := slotsAt_eq_ok hslots
  have hvalue : t.columnValue formatted row = fun place =>
      match t.catalog.live[place]? with
      | some slot =>
        JoinSide.through row (slot, if formatted then t.catalog.formatter? slot else none)
      | none => .error (.eval .indexOutOfRange) := rfl
  have hmap := congrArg (List.map fun slot? : Option ℕ =>
    match slot? with
    | some slot =>
      JoinSide.through row (slot, if formatted then t.catalog.formatter? slot else none)
    | none => .error (.eval .indexOutOfRange)) hlive
  rw [List.map_map, List.map_map] at hmap
  rw [hvalue]
  exact hmap

/-- What a record brings along are the values of its row in the chosen columns. -/
theorem values_eq_columnValue {t : Table} {formatted : Bool} {keys : List (ℕ × Option Func)}
    {places slots : List ℕ} {roll? : Option ℕ} {row : Row} {r : JoinRecord}
    (hslots : slotsAt t.catalog places = .ok slots)
    (hr : (sideFor formatted (side t keys slots roll?)).record row = .ok r) :
    places.map (t.columnValue formatted row) = r.values.map .ok := by
  rw [columnValue_carry hslots formatted keys roll?, JoinSide.values_of_record hr]

/-- Writing gives each chosen column what one of the sides has in it. -/
theorem exists_cells_writeIndex {positions : List ℕ} {count : ℕ} {u v : ℕ → Except Fault Value}
    {us vs : Row} (hus : (firstPlaces positions count).map u = us.map .ok)
    (hvs : (secondPlaces positions count).map v = vs.map .ok) :
    ∃ row, Row.cells (us ++ vs) (positions.map (placeOf (carriedPlaces positions count))) =
        .ok row ∧
      row.map .ok = positions.map fun i => if i < count then u i else v (i - count) := by
  refine ⟨positions.map fun i =>
    if i < count then valueOr .null (u i) else valueOr .null (v (i - count)), ?_, ?_⟩
  · rw [eq_map_of_map_ok .null hus, eq_map_of_map_ok .null hvs]
    exact cells_writeIndex _ _
  rw [List.map_map]
  apply List.map_congr_left
  intro i hi
  by_cases hlt : i < count
  · simp only [Function.comp_apply, hlt, if_true]
    exact ok_of_map_ok .null hus (mem_firstPlaces.2 ⟨hi, hlt⟩)
  · simp only [Function.comp_apply, hlt, if_false]
    exact ok_of_map_ok .null hvs (mem_secondPlaces_of_le hi (not_lt.1 hlt))

/-- The row of a pair has, in the chosen columns, the values of the two rows in those columns. -/
theorem pairRow_of_records {store : Store} {spec : JoinSpec} {s t : Table}
    {select : Option (List Value)} {formatted : Bool} {p : JoinPlan}
    (h : spec.joinPlan store s t select formatted = .ok p) {names aNames : List Value}
    {positions : List ℕ} (hnames : spec.names s t = .ok names)
    (hpositions : JoinSpec.positions names select = .ok positions) (haNames : s.names = .ok aNames)
    {x y : Row} {r r' : JoinRecord} (hr : p.a.record x = .ok r) (hr' : p.b.record y = .ok r') :
    p.names = positions.map (fun i => names.getD i .null) ∧
      ∃ row, p.pairRow r r' = .ok row ∧
        row.map .ok = positions.map fun i =>
          if i < aNames.length then s.columnValue formatted x i
          else t.columnValue formatted y (i - aNames.length) := by
  obtain ⟨aSlots, bSlots, first, haSlots, hbSlots, -, rfl⟩ :=
    exists_planned h hnames hpositions haNames
  exact ⟨rfl, exists_cells_writeIndex (values_eq_columnValue haSlots hr)
    (values_eq_columnValue hbSlots hr')⟩

/-- A padded row has missing values in the chosen columns of the second table. -/
theorem paddedRow_of_record {store : Store} {spec : JoinSpec} {s t : Table}
    {select : Option (List Value)} {formatted : Bool} {p : JoinPlan}
    (h : spec.joinPlan store s t select formatted = .ok p) {names aNames : List Value}
    {positions : List ℕ} (hnames : spec.names s t = .ok names)
    (hpositions : JoinSpec.positions names select = .ok positions) (haNames : s.names = .ok aNames)
    {x : Row} {r : JoinRecord} (hr : p.a.record x = .ok r) :
    ∃ row, p.paddedRow r = .ok row ∧
      row.map .ok = positions.map fun i =>
        if i < aNames.length then s.columnValue formatted x i else .ok .null := by
  obtain ⟨aSlots, bSlots, first, haSlots, hbSlots, -, rfl⟩ :=
    exists_planned h hnames hpositions haNames
  have hcount := congrArg List.length (slotsAt_eq_ok hbSlots)
  rw [List.length_map, List.length_map] at hcount
  refine exists_cells_writeIndex (v := fun _ => .ok .null) (values_eq_columnValue haSlots hr) ?_
  rw [planned, carry_sideFor, List.map_map, List.map_map, List.map_const', hcount,
    ← List.map_const']
  rfl

/-- What a plan writes, it brings along. -/
theorem fits_of_joinPlan {store : Store} {spec : JoinSpec} {s t : Table}
    {select : Option (List Value)} {formatted : Bool} {p : JoinPlan}
    (h : spec.joinPlan store s t select formatted = .ok p) : p.Fits := by
  obtain ⟨names, aNames, positions, aSlots, bSlots, first, -, -, -, -, -, -, haSlots, hbSlots,
    -, rfl⟩ := joinPlan_eq_ok_iff.1 h
  intro i hi
  obtain ⟨place, hplace, rfl⟩ := List.mem_map.1 hi
  have hmem : place ∈ carriedPlaces positions aNames.length := mem_carriedPlaces hplace
  have hlt := List.idxOf_lt_length_of_mem hmem
  have ha := congrArg List.length (slotsAt_eq_ok haSlots)
  have hb := congrArg List.length (slotsAt_eq_ok hbSlots)
  simp only [List.length_map] at ha hb
  simpa [planned, carriedPlaces, carry_sideFor, ← ha, ← hb, placeOf] using hlt

end JoinSpec

end TablePipeline
