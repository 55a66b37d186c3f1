import Mathlib
import TablePipeline.Proofs.Distinct
import TablePipeline.Proofs.JoinedRows
import TablePipeline.Proofs.RowAccounting

/-!
Chosen columns of joins. A plan of some columns lets each side bring along only the columns that are
asked for. It matches the same records as a plan of all columns and puts the same rows out, in the
same order, with the chosen columns picked from them; rows that are padded are padded in the same
places. It makes no difference which side is built.
-/
namespace TablePipeline

/-! ### Places that are all chosen -/

theorem eraseDups_of_nodup {numbers : List ℕ} (h : numbers.Nodup) : numbers.eraseDups = numbers := by
  induction numbers using List.reverseRecOn with
  | nil => rfl
  | append_singleton numbers n ih =>
    obtain ⟨hnumbers, -, hnew⟩ := List.nodup_append.1 h
    have hlast : (numbers.eraseDups.any fun m => n == m) = false := by
      rw [List.any_eq_false, ih hnumbers]
      intro m hm
      simpa using (hnew m hm n (by simp)).symm
    rw [List.eraseDups, eraseDupsBy_append_singleton, ← List.eraseDups, hlast, ih hnumbers]
    rfl

theorem ascending_range (n : ℕ) : ascending (List.range n) = List.range n := by
  have hsorted : (List.range n).Pairwise fun a b => decide (a ≤ b) = true :=
    List.pairwise_lt_range.imp fun h => by simpa using h.le
  rw [ascending, List.mergeSort_of_pairwise hsorted, eraseDups_of_nodup List.nodup_range]

namespace JoinSpec

theorem filter_range (count more : ℕ) :
    (List.range (count + more)).filter (· < count) = List.range count ∧
      (List.range (count + more)).filter (count ≤ ·) = (List.range more).map (count + ·) := by
  rw [List.range_add, List.filter_append, List.filter_append]
  constructor
  · rw [List.filter_eq_self.2 (by simp), List.filter_eq_nil_iff.2 (by simp), List.append_nil]
  · rw [List.filter_eq_nil_iff.2 (by simp), List.filter_eq_self.2 (by simp), List.nil_append]

theorem firstPlaces_range (count more : ℕ) :
    firstPlaces (List.range (count + more)) count = List.range count := by
  rw [firstPlaces, (filter_range count more).1, ascending_range]

theorem secondPlaces_range (count more : ℕ) :
    secondPlaces (List.range (count + more)) count = List.range more := by
  have hback : ((List.range more).map (count + ·)).map (· - count) = List.range more := by
    rw [List.map_map]
    exact List.map_id'' (by simp) _
  rw [secondPlaces, (filter_range count more).2, hback, ascending_range]

/-- All columns are written as they are brought along. -/
theorem writeIndex_range (count more : ℕ) :
    (List.range (count + more)).map (placeOf (carriedPlaces (List.range (count + more)) count)) =
      List.range (count + more) := by
  have hcarried : carriedPlaces (List.range (count + more)) count = List.range (count + more) := by
    rw [carriedPlaces, firstPlaces_range, secondPlaces_range, List.range_add]
  rw [hcarried]
  conv_rhs => rw [← List.map_id (List.range (count + more))]
  refine List.map_congr_left fun i hi => ?_
  have hlt := List.mem_range.1 hi
  have hplace := List.nodup_range.idxOf_getElem i (by simpa using hlt : i < (List.range (count + more)).length)
  simpa [placeOf] using hplace

theorem lt_of_mem_secondPlaces {positions : List ℕ} {count more place : ℕ}
    (hin : ∀ i ∈ positions, i < count + more) (h : place ∈ secondPlaces positions count) :
    place < more := Nat.add_lt_add_iff_left.1 (hin _ (mem_secondPlaces.1 h))

/-- The places of columns that there are lead to slots. -/
theorem exists_slotsAt {c : Catalog} {places : List ℕ} (h : ∀ place ∈ places, place < c.live.length) :
    ∃ slots, slotsAt c places = .ok slots := by
  rw [slotsAt_eq_mapM]
  exact exists_mapM_ok_iff.2 fun place hplace =>
    ⟨_, slotAt_eq_ok_iff.2 (List.getElem?_eq_getElem (h place hplace))⟩

theorem slotsAt_range (c : Catalog) : slotsAt c (List.range c.live.length) = .ok c.live := by
  refine mapM_eq_ok_iff.2 (List.ext_getElem (by simp) fun i hi _ => ?_)
  have hlt : i < c.live.length := by simpa using hi
  simp [List.getElem?_eq_getElem hlt]

end JoinSpec

/-! ### One side -/

/-- The values of a row in some places. -/
def Row.picked (places : List ℕ) (row : Row) : Row := places.map fun place => row.getD place .null

theorem Row.picked_forgetItems (places : List ℕ) (row : Row) :
    picked places (Datum.forgetItems true row) = Datum.forgetItems true (picked places row) := by
  simp only [picked, Datum.forgetItems_eq_map, List.map_map]
  refine List.map_congr_left fun place _ => ?_
  simp only [Function.comp_apply, List.getD_eq_getElem?_getD, List.getElem?_map]
  cases row[place]? <;> rfl

namespace JoinSide

variable {side side' : JoinSide}

/-- The same side with other columns. -/
structure SameRows (side side' : JoinSide) : Prop where
  source : side'.source = side.source
  transform : side'.transform = side.transform
  keys : side'.keys = side.keys
  roll : side'.roll? = side.roll?
  batchSize : side'.batchSize = side.batchSize

/-- A record of the same row with other columns has the same key and the same rolling value. -/
theorem SameRows.record_eq_ok (h : side.SameRows side') {row values : Row} {r : JoinRecord}
    (hr : side.record row = .ok r) (hvalues : side'.carry.mapM (through row) = .ok values) :
    side'.record row = .ok { r with values } := by
  obtain ⟨key, hkey, hr⟩ := bind_eq_ok.1 hr
  rw [record, h.keys, h.roll, hkey, ok_bind, hvalues]
  cases hroll : side.roll? <;>
  · simp only [hroll] at hr ⊢
    obtain ⟨roll, hslot, hr⟩ := bind_eq_ok.1 hr
    obtain ⟨_, -, hr⟩ := bind_eq_ok.1 hr
    obtain rfl := Except.ok.inj hr
    rw [hslot]
    rfl

/-- If the columns of one side are picked from those of the other, so are the columns of its
records. -/
structure Picks (side side' : JoinSide) (places : List ℕ) : Prop extends SameRows side side' where
  carry : ∀ {row : Row} {r : JoinRecord}, side.record row = .ok r →
    side'.carry.mapM (through row) = .ok (r.values.picked places)
  count : side'.carry.length = places.length

theorem Picks.recordOf_eq_ok {places : List ℕ} (h : side.Picks side' places) {values : Row}
    {records : List JoinRecord} (hr : side.recordOf values = .ok records) :
    side'.recordOf values = .ok (records.map (JoinRecord.onColumns (Row.picked places))) := by
  obtain ⟨kept?, hkept, hr⟩ := bind_eq_ok.1 hr
  rw [recordOf, h.transform, hkept, ok_bind]
  cases kept? with
  | none =>
    obtain rfl := Except.ok.inj hr
    rfl
  | some row =>
    obtain ⟨r, hrecord, hr⟩ := bind_eq_ok.1 hr
    obtain rfl := Except.ok.inj hr
    exact bind_eq_ok.2 ⟨_, h.toSameRows.record_eq_ok hrecord (h.carry hrecord), rfl⟩

theorem Picks.recordsChanged {places : List ℕ} (h : side.Picks side' places) {rows : List Row}
    (hrows : side.MakesRecords rows) : side.RecordsChanged side' (Row.picked places) rows :=
  fun row hrow => (hrows row hrow).imp fun _ hrecords => ⟨hrecords, h.recordOf_eq_ok hrecords⟩

theorem Picks.makesRecords {places : List ℕ} (h : side.Picks side' places) {rows : List Row}
    (hrows : side.MakesRecords rows) : side'.MakesRecords rows := fun row hrow =>
  (h.recordsChanged hrows row hrow).elim fun _ hrecords => ⟨_, hrecords.2⟩

theorem length_values {row : Row} {r : JoinRecord} (h : side.record row = .ok r) :
    r.values.length = side.carry.length := by
  simpa using (congrArg List.length (values_of_record h)).symm

theorem length_of_mem_recordsOf {rows : List Row} {r : JoinRecord} (h : r ∈ side.recordsOf rows) :
    r.values.length = side.carry.length := by
  obtain ⟨x, -, hx⟩ := exists_row_of_mem_recordsOf h
  exact length_values hx

end JoinSide

namespace JoinSpec

/-- A side with some columns picks them from the side with all columns. -/
theorem picks_sideFor {t : Table} {formatted : Bool} {keys : List (ℕ × Option Func)}
    {roll? : Option ℕ} {places slots : List ℕ} (hslots : slotsAt t.catalog places = .ok slots) :
    (sideFor formatted (side t keys t.catalog.live roll?)).Picks
      (sideFor formatted (side t keys slots roll?)) places := by
  have hcount := congrArg List.length (slotsAt_eq_ok hslots)
  have hlt : ∀ place ∈ places, place < t.catalog.live.length := by
    intro place hplace
    have hthere := slotsAt_eq_ok hslots ▸ List.mem_map_of_mem (f := fun p => t.catalog.live[p]?) hplace
    obtain ⟨slot, -, hslot⟩ := List.mem_map.1 hthere
    exact (List.getElem?_eq_some_iff.1 hslot.symm).1
  refine ⟨?_, fun {row r} hr => ?_, by simpa [carry_sideFor] using hcount.symm⟩
  · cases formatted <;> exact ⟨rfl, rfl, rfl, rfl, rfl⟩
  · have hall := values_eq_columnValue (slotsAt_range t.catalog) hr
    rw [mapM_eq_ok_iff, ← columnValue_carry hslots, Row.picked, List.map_map]
    refine List.map_congr_left fun place hplace => ?_
    have hvalue : r.values[place]?.map .ok = some (t.columnValue formatted row place) := by
      rw [← List.getElem?_map, ← hall, List.getElem?_map, List.getElem?_range (hlt place hplace)]
      rfl
    obtain ⟨v, hv, hcolumn⟩ := Option.map_eq_some_iff.1 hvalue
    simp [← hcolumn, hv]

end JoinSpec

/-! ### Both sides -/

theorem Row.getD_append (row more : Row) (i : ℕ) :
    (row ++ more).getD i .null =
      if i < row.length then row.getD i .null else more.getD (i - row.length) .null := by
  rw [List.getD_eq_getElem?_getD, List.getElem?_append]
  split_ifs <;> rw [List.getD_eq_getElem?_getD]

theorem Row.cells_range {row : Row} {n : ℕ} (h : row.length = n) :
    row.cells (List.range n) = .ok row := by
  rw [cells_eq_ok (by simp [h])]
  exact congrArg _ (List.ext_getElem (by simp [h]) fun i _ hi => by simp [hi])

namespace JoinPlan

open JoinSpec

variable {full p : JoinPlan} {positions : List ℕ}

/-- The same plan, with one or the other side built. -/
def building (p : JoinPlan) (first : Bool) : JoinPlan := { p with firstIsBuilt := first }

/-- A plan that picks its columns from those of a plan that writes all columns. -/
structure PicksFrom (p full : JoinPlan) (positions : List ℕ) : Prop where
  matching : full.SameMatching p
  built : p.firstIsBuilt = full.firstIsBuilt
  first : full.a.Picks p.a (firstPlaces positions full.a.carry.length)
  second : full.b.Picks p.b (secondPlaces positions full.a.carry.length)
  all : full.writeIndex = List.range (full.a.carry.length + full.b.carry.length)
  writeIndex : p.writeIndex =
    positions.map (placeOf (carriedPlaces positions full.a.carry.length))

theorem PicksFrom.building (h : p.PicksFrom full positions) (first : Bool) :
    (p.building first).PicksFrom (full.building first) positions :=
  ⟨⟨h.matching.kind, h.matching.limit, h.matching.unmatched⟩, rfl, h.first, h.second, h.all,
    h.writeIndex⟩

/-- The places of the chosen columns of the side that is built. -/
def builtPlaces (full : JoinPlan) (positions : List ℕ) : List ℕ :=
  if full.firstIsBuilt then firstPlaces positions full.a.carry.length
  else secondPlaces positions full.a.carry.length

/-- The places of the chosen columns of the side that probes. -/
def probedPlaces (full : JoinPlan) (positions : List ℕ) : List ℕ :=
  if full.firstIsBuilt then secondPlaces positions full.a.carry.length
  else firstPlaces positions full.a.carry.length

theorem PicksFrom.build (h : p.PicksFrom full positions) :
    full.build.Picks p.build (full.builtPlaces positions) := by
  rw [JoinPlan.build, JoinPlan.build, builtPlaces, h.built]
  split_ifs
  · exact h.first
  · exact h.second

theorem PicksFrom.probe (h : p.PicksFrom full positions) :
    full.probe.Picks p.probe (full.probedPlaces positions) := by
  rw [JoinPlan.probe, JoinPlan.probe, probedPlaces, h.built]
  split_ifs
  · exact h.second
  · exact h.first

/-- Writing the chosen columns of both sides is picking them from all columns of both sides. -/
theorem PicksFrom.cells_eq (h : p.PicksFrom full positions) {x y : Row}
    (hx : x.length = full.a.carry.length) (hy : y.length = full.b.carry.length) :
    Row.cells (x.picked (firstPlaces positions full.a.carry.length) ++
        y.picked (secondPlaces positions full.a.carry.length)) p.writeIndex =
      (Row.cells (x ++ y) full.writeIndex).map (Row.picked positions) := by
  rw [h.all, h.writeIndex, Row.cells_range (by rw [List.length_append, hx, hy]), Row.picked,
    Row.picked, cells_writeIndex]
  refine congrArg Except.ok (List.map_congr_left fun i _ => ?_)
  rw [Row.getD_append, hx]

/-- What is assembled of the chosen columns is picked from what is assembled of all. -/
theorem PicksFrom.assemble_eq (h : p.PicksFrom full positions) {probed : Row}
    {built? : Option Row} (hprobed : probed.length = full.probe.carry.length)
    (hbuilt : ∀ row ∈ built?, row.length = full.build.carry.length) :
    p.assemble (probed.picked (full.probedPlaces positions))
        (built?.map (Row.picked (full.builtPlaces positions))) =
      (full.assemble probed built?).map (Row.picked positions) := by
  have hmissing : (built?.map (Row.picked (full.builtPlaces positions))).getD
      (p.build.carry.map fun _ => .null) =
        Row.picked (full.builtPlaces positions)
          (built?.getD (full.build.carry.map fun _ => .null)) := by
    cases built? with
    | some row => rfl
    | none => simp [Row.picked, h.build.count]
  have hlength : (built?.getD (full.build.carry.map fun _ => .null)).length =
      full.build.carry.length := by
    cases built? with
    | none => simp
    | some row => exact hbuilt row rfl
  rw [assemble, assemble, hmissing, h.built]
  generalize built?.getD (full.build.carry.map fun _ => .null) = row at hlength
  cases hfirst : full.firstIsBuilt with
  | true =>
    simp only [builtPlaces, probedPlaces, JoinPlan.build, JoinPlan.probe, hfirst, if_true] at *
    exact h.cells_eq hlength hprobed
  | false =>
    simp only [builtPlaces, probedPlaces, JoinPlan.build, JoinPlan.probe, hfirst,
      Bool.false_eq_true, if_false] at *
    exact h.cells_eq hprobed hlength

end JoinPlan

namespace JoinSpec

variable {store : Store} {spec : JoinSpec} {s t : Table} {formatted : Bool}

/-- A plan of chosen columns picks them from a plan of all columns. -/
theorem picksFrom_of_joinPlan (hs : s.rules.makesGroups = false) (ht : t.rules.makesGroups = false)
    {select : Option (List Value)} {names : List Value} {positions : List ℕ} {full p : JoinPlan}
    (hnames : spec.names s t = .ok names)
    (hpositions : JoinSpec.positions names select = .ok positions)
    (hfull : spec.joinPlan store s t none formatted = .ok full)
    (hp : spec.joinPlan store s t select formatted = .ok p) : p.PicksFrom full positions := by
  have hlength : names.length = s.catalog.live.length + t.catalog.live.length := by
    rw [names_of_rows hs ht] at hnames
    simp [← Except.ok.inj hnames]
  have haNames := Table.names_of_rows hs
  obtain ⟨aLive, bLive, first, haLive, hbLive, hfirst, rfl⟩ :=
    exists_planned hfull hnames rfl haNames
  obtain ⟨aSlots, bSlots, first', haSlots, hbSlots, hfirst', rfl⟩ :=
    exists_planned hp hnames hpositions haNames
  obtain rfl : first = first' := Except.ok.inj (hfirst.symm.trans hfirst')
  simp only [Catalog.length_names, hlength, firstPlaces_range, secondPlaces_range, slotsAt_range] at *
  obtain rfl := Except.ok.inj haLive
  obtain rfl := Except.ok.inj hbLive
  have hcount : ∀ {t : Table} {keys : List (ℕ × Option Func)} {roll? : Option ℕ},
      (sideFor formatted (side t keys t.catalog.live roll?)).carry.length =
        t.catalog.live.length := by
    intro t keys roll?
    rw [carry_sideFor, List.length_map]
  refine ⟨⟨rfl, rfl, rfl⟩, rfl, ?_, ?_, ?_, ?_⟩
  · simpa only [planned, hcount] using picks_sideFor haSlots
  · simpa only [planned, hcount] using picks_sideFor hbSlots
  · simpa only [planned, hcount] using writeIndex_range _ _
  · simp only [planned, hcount]

end JoinSpec

/-! ### Runs and samples -/

namespace JoinPlan

variable {full p : JoinPlan} {positions : List ℕ}

theorem PicksFrom.assemblesChanged (h : p.PicksFrom full positions) {built probed : List JoinRecord}
    (hbuilt : ∀ s ∈ built, s.values.length = full.build.carry.length)
    (hprobed : ∀ r ∈ probed, r.values.length = full.probe.carry.length) :
    full.AssemblesChanged p (Row.picked (full.builtPlaces positions))
      (Row.picked (full.probedPlaces positions)) (Row.picked positions) built probed := by
  intro r hr built? hfound
  refine h.assemble_eq (hprobed r hr) fun row hrow => ?_
  obtain ⟨s, hs, rfl⟩ := hfound row hrow
  exact hbuilt s hs

/-- The chosen columns of a sample. -/
theorem PicksFrom.joinOf_eq (h : p.PicksFrom full positions) {as bs : List Row}
    (ha : full.a.MakesRecords as) (hb : full.b.MakesRecords bs) :
    p.joinOf as bs = (full.joinOf as bs).map (Row.picked positions) := by
  have hbuild : full.build.MakesRecords (if full.firstIsBuilt then as else bs) := by
    rw [JoinPlan.build]
    split_ifs <;> assumption
  have hprobe : full.probe.MakesRecords (if full.firstIsBuilt then bs else as) := by
    rw [JoinPlan.probe]
    split_ifs <;> assumption
  rw [joinOf, joinOf, h.built]
  refine sample_onColumns (k := Row.picked (full.probedPlaces positions)) h.matching
    (h.build.recordsChanged hbuild) ?_ ?_
  · rintro _ ⟨⟩
    exact h.probe.recordsChanged hprobe
  · rintro _ ⟨⟩
    exact h.assemblesChanged (fun _ => JoinSide.length_of_mem_recordsOf)
      fun _ => JoinSide.length_of_mem_recordsOf

end JoinPlan

namespace Backend

variable {b : Backend} {full p : JoinPlan} {positions : List ℕ}

/-- The chosen columns of a run. -/
theorem output_of_picksFrom (h : p.PicksFrom full positions) {store : Store} {whole chosen : Plan}
    (hwhole : whole.work = .join full) (hchosen : chosen.work = .join p)
    (ha : full.a.MakesRecords (full.a.source.rows store).items)
    (hb : full.b.MakesRecords (full.b.source.rows store).items) :
    b.output store chosen = (b.output store whole).map (Row.picked positions) := by
  have hbuild : full.build.MakesRecords (full.build.source.rows store).items := by
    rw [JoinPlan.build]
    split_ifs <;> assumption
  have hprobe : full.probe.MakesRecords (full.probe.source.rows store).items := by
    rw [JoinPlan.probe]
    split_ifs <;> assumption
  have hlength : ∀ {stage : Stage} {side : JoinSide},
      ∀ r ∈ (b.recordsOfSide store stage side).items.map JoinRecord.putAside,
        r.values.length = side.carry.length := by
    intro stage side r hr
    obtain ⟨before, hbefore, rfl⟩ := List.mem_map.1 hr
    have hlength := JoinSide.length_of_mem_recordsOf (mem_workThrough hbefore)
    simpa [JoinRecord.putAside, Datum.forgetItems_eq_map] using hlength
  simp only [output, hwhole, hchosen]
  rw [recordsOfSide_onColumns h.build.source h.build.batchSize (h.build.recordsChanged hbuild),
    recordsOfSide_onColumns h.probe.source h.probe.batchSize (h.probe.recordsChanged hprobe)]
  exact joinAll_onColumns h.matching (Row.picked_forgetItems _) (Row.picked_forgetItems _)
    (h.assemblesChanged hlength hlength)

end Backend

/-! ### Plans of chosen columns -/

/-- No place that a join looks up is out of range: neither a slot that a side brings along, in a row
of the side, nor a place that is written, in the columns that are brought along. -/
structure JoinPlan.InRange (p : JoinPlan) : Prop where
  first : ∀ {values row : Row}, p.a.transform.run values = .ok (some row) →
    ∀ part ∈ p.a.carry, part.1 < row.length
  second : ∀ {values row : Row}, p.b.transform.run values = .ok (some row) →
    ∀ part ∈ p.b.carry, part.1 < row.length
  written : p.Fits

namespace JoinSpec

variable {store : Store} {spec : JoinSpec} {s t : Table} {formatted : Bool}

/-- The columns at some places are there. -/
theorem lt_width_of_slotsAt {c : Catalog} {places slots : List ℕ} (h : slotsAt c places = .ok slots) :
    ∀ slot ∈ slots, slot < c.width := by
  intro slot hslot
  have hplace : some slot ∈ places.map fun place => c.live[place]? :=
    slotsAt_eq_ok h ▸ List.mem_map_of_mem hslot
  obtain ⟨place, -, hplace⟩ := List.mem_map.1 hplace
  exact Catalog.lt_width_of_isLive (List.mem_filter.1 (List.mem_of_getElem? hplace)).2

theorem carry_lt_length {places slots : List ℕ} {keys : List (ℕ × Option Func)}
    {roll? : Option ℕ} (hslots : slotsAt t.catalog places = .ok slots) {values row : Row}
    (h : (sideFor formatted (side t keys slots roll?)).transform.run values = .ok (some row)) :
    ∀ part ∈ (sideFor formatted (side t keys slots roll?)).carry, part.1 < row.length := by
  intro part hpart
  rw [carry_sideFor] at hpart
  obtain ⟨slot, hslot, rfl⟩ := List.mem_map.1 hpart
  refine (lt_width_of_slotsAt hslots slot hslot).trans_le ?_
  cases formatted <;> exact RowTransform.width_le_length h

theorem inRange_of_joinPlan {select : Option (List Value)} {p : JoinPlan}
    (h : spec.joinPlan store s t select formatted = .ok p) : p.InRange := by
  have hfits := fits_of_joinPlan h
  obtain ⟨names, aNames, positions, aSlots, bSlots, first, -, -, -, -, -, -, haSlots, hbSlots, -,
    rfl⟩ := joinPlan_eq_ok_iff.1 h
  exact ⟨carry_lt_length haSlots, carry_lt_length hbSlots, hfits⟩

/-- Planning some columns of two tables that make no groups fails only where planning any others
would: at a key that has been deleted, or at a file whose size cannot be told. -/
theorem joinPlan_outcome (hs : s.rules.makesGroups = false) (ht : t.rules.makesGroups = false)
    {select : Option (List Value)} {names : List Value} {positions : List ℕ}
    (hnames : spec.names s t = .ok names)
    (hpositions : JoinSpec.positions names select = .ok positions) (hsome : positions ≠ [])
    (hlt : ∀ i ∈ positions, i < names.length) :
    (spec.joinPlan store s t select formatted).map (fun _ => ()) = (do
      requireLive s spec.aKeys
      requireLive t spec.bKeys
      (buildsA store spec s t).map fun _ => ()) := by
  have hlength : names.length = s.catalog.live.length + t.catalog.live.length := by
    rw [names_of_rows hs ht] at hnames
    simp [← Except.ok.inj hnames]
  have hfirst : ∀ place ∈ firstPlaces positions s.catalog.live.length,
      place < s.catalog.live.length := fun _ hplace => (mem_firstPlaces.1 hplace).2
  obtain ⟨aSlots, haSlots⟩ := exists_slotsAt hfirst
  obtain ⟨bSlots, hbSlots⟩ := exists_slotsAt (c := t.catalog)
    fun _ => lt_of_mem_secondPlaces (hlength ▸ hlt)
  rw [firstPlaces] at haSlots
  rw [secondPlaces] at hbSlots
  have hcount : positions.isEmpty = false := by simpa using hsome
  unfold joinPlan
  simp only [hnames, hpositions, hcount, Table.names_of_rows hs, Catalog.length_names, haSlots,
    hbSlots, ok_bind, Bool.false_eq_true, if_false]
  cases requireLive s spec.aKeys with
  | error fault => rfl
  | ok _ =>
    cases requireLive t spec.bKeys with
    | error fault => rfl
    | ok _ => cases buildsA store spec s t <;> rfl

theorem exists_text_of_mem_names {names : List Value} (hnames : spec.names s t = .ok names)
    {name : Value} (h : name ∈ names) : ∃ text, name = .text text := by
  obtain ⟨aNames, -, hnames⟩ := bind_eq_ok.1 hnames
  obtain ⟨bNames, -, hnames⟩ := bind_eq_ok.1 hnames
  obtain rfl := Except.ok.inj hnames
  rcases List.mem_append.1 h with h | h <;>
  · obtain ⟨n, -, rfl⟩ := List.mem_map.1 h
    exact ⟨_, rfl⟩

/-- The sides of a plan read the rows of the tables as these are when it is made. -/
theorem reads_of_joinPlan {select : Option (List Value)} {p : JoinPlan}
    (h : spec.joinPlan store s t select formatted = .ok p) :
    (p.a.source = s.source ∧ p.a.transform = RowTransform.ofTable s.catalog s.rules false) ∧
      (p.b.source = t.source ∧ p.b.transform = RowTransform.ofTable t.catalog t.rules false) := by
  obtain ⟨names, aNames, positions, aSlots, bSlots, first, -, -, -, -, -, -, -, -, -, rfl⟩ :=
    joinPlan_eq_ok_iff.1 h
  cases formatted <;> exact ⟨⟨rfl, rfl⟩, rfl, rfl⟩

/-- The columns of a join can be chosen. Over two tables that make no groups, with different names,
choosing columns in any order and any number of times is planned if all columns are. It looks up
nothing out of range, and if no row fails on its way into a record, the join puts out the chosen
columns of the rows that it puts out with all columns, in the same order, whichever side an inner
join builds: in memory and in a run, where rows are read back. Under each name stands the value of
the column of that name, or a missing one where the second row is missing. -/
theorem joinPlan_of_chosen (hs : s.rules.makesGroups = false) (ht : t.rules.makesGroups = false)
    {names select : List Value} (hnames : spec.names s t = .ok names) (hdistinct : names.Nodup)
    (hsome : select ≠ []) (hselect : ∀ name ∈ select, name ∈ names) :
    (spec.joinPlan store s t (some select) formatted).map (fun _ => ()) =
        (spec.joinPlan store s t none formatted).map (fun _ => ()) ∧
      ∀ full p : JoinPlan, spec.joinPlan store s t none formatted = .ok full →
        spec.joinPlan store s t (some select) formatted = .ok p →
        p.names = select ∧ full.InRange ∧ p.InRange ∧
        ∀ first : Bool, (first = true → spec.kind = .inner) →
          let positions := select.map fun name => names.findIdx (·.isMatch name)
          (∀ as bs : List Row, full.a.MakesRecords as → full.b.MakesRecords bs →
            (p.building first).joinOf as bs =
                ((full.building first).joinOf as bs).map (Row.picked positions) ∧
              ∀ row ∈ ((p.building first).joinOf as bs).items,
                spec.Shown s t formatted select p as bs row) ∧
          ∀ (b : Backend) (later : Store) (whole chosen : Plan),
            whole.work = .join (full.building first) → chosen.work = .join (p.building first) →
            full.a.MakesRecords (s.source.rows later).items →
            full.b.MakesRecords (t.source.rows later).items →
            b.output later chosen = (b.output later whole).map (Row.picked positions) ∧
              ∀ row ∈ (b.output later chosen).items, ∃ shown,
                spec.Shown s t formatted select p (s.source.rows later).items
                  (t.source.rows later).items shown ∧ row = Datum.forgetItems true shown := by
  have hplace : ∀ name ∈ select, names[names.findIdx (·.isMatch name)]? = some name := by
    intro name hname
    obtain ⟨text, rfl⟩ := exists_text_of_mem_names hnames (hselect name hname)
    obtain ⟨i, hi⟩ := List.mem_iff_getElem?.1 (hselect _ hname)
    rw [findIdx_text hdistinct hi, hi]
  have hlt : ∀ i ∈ select.map (fun name => names.findIdx (·.isMatch name)), i < names.length := by
    intro i hi
    obtain ⟨name, hname, rfl⟩ := List.mem_map.1 hi
    exact (List.getElem?_eq_some_iff.1 (hplace name hname)).1
  have hpositions : JoinSpec.positions names (some select) =
      .ok (select.map fun name => names.findIdx (·.isMatch name)) := by
    refine Names.places_eq_ok_iff.2 ⟨fun name hname => ?_, rfl⟩
    exact List.any_eq_true.2 (List.findIdx_lt_length.1 (hlt _ (List.mem_map_of_mem hname)))
  have hnone : names ≠ [] := by
    rintro rfl
    obtain ⟨name, hname⟩ := List.exists_mem_of_ne_nil select hsome
    exact absurd (hselect name hname) (by simp)
  refine ⟨?_, fun full p hfull hp => ?_⟩
  · rw [joinPlan_outcome hs ht hnames hpositions (by simpa using hsome) hlt,
      joinPlan_outcome hs ht hnames rfl (by simpa using hnone) (by simp)]
  have hpicks := picksFrom_of_joinPlan hs ht hnames hpositions hfull hp
  obtain ⟨⟨hasource, -⟩, hbsource, -⟩ := reads_of_joinPlan hp
  obtain ⟨⟨hasource', -⟩, hbsource', -⟩ := reads_of_joinPlan hfull
  have hchosen : p.names = select := by
    obtain ⟨-, -, -, -, -, -, rfl⟩ := exists_planned hp hnames hpositions (Table.names_of_rows hs)
    simp only [planned, List.map_map]
    refine (List.map_congr_left fun name hname => ?_).trans (List.map_id select)
    simp [List.getD_eq_getElem?_getD, hplace name hname]
  refine ⟨hchosen, inRange_of_joinPlan hfull, inRange_of_joinPlan hp,
    fun first hfirst => ?_⟩
  have hkeeps : (p.building first).firstIsBuilt = true →
      (p.building first).keepsUnmatched = false := by
    intro hbuilt
    have hkind := (joinPlan_sides hp).1
    rw [hfirst hbuilt] at hkind
    simp [JoinPlan.keepsUnmatched, JoinPlan.building, hkind, JoinKind.planned, JoinKind.isRolling]
  have hshown : ∀ {as bs : List Row} {row : Row},
      (p.building first).Joined (p.a.recordsOf as) (p.b.recordsOf bs) row →
        spec.Shown s t formatted select p as bs row := fun hjoined =>
    shown_of_joined hp hs ht hnames hdistinct hjoined
  refine ⟨fun as bs ha hb => ⟨(hpicks.building first).joinOf_eq ha hb, fun row hrow => ?_⟩,
    fun b later whole chosen hwhole hchosen ha hb => ⟨?_, fun row hrow => ?_⟩⟩
  · exact hshown (JoinPlan.joined_of_mem_joinOf hkeeps (hpicks.first.makesRecords ha)
      (hpicks.second.makesRecords hb) hrow)
  · exact Backend.output_of_picksFrom (hpicks.building first) hwhole hchosen
      (hasource'.symm ▸ ha) (hbsource'.symm ▸ hb)
  · obtain ⟨before, hbefore, rfl⟩ :=
      (Backend.joined_of_mem_output hchosen hkeeps hrow).of_putAside
    rw [← hasource, ← hbsource]
    exact ⟨before, hshown hbefore, rfl⟩

end JoinSpec

/-! ### Chosen columns of a file joined with itself -/

theorem joinPlan_of_chosen_sample : ∃ p : JoinPlan,
    sampleJoin.joinPlan sampleStore sampleTable sampleTable (some [.text "2_v", .text "1_k"])
        false = .ok p ∧
      twoBuckets.output sampleStore
          { names := p.names, options := {}, batchSize := 1, work := .join (p.building false) } =
        { items := [[.text "1", .text "a"], [.text "2", .text "b"]] } := by
  have hnames : sampleJoin.names sampleTable sampleTable = .ok sampleJoinPlan.names := rfl
  have hmakes : sampleSide.MakesRecords (sampleSource.rows sampleStore).items := by
    have hended : (sampleSide.records sampleStore).fault = none := by rw [records_sample]
    exact (Feed.ok_of_traverse hended).2
  obtain ⟨halike, hchosen⟩ := @JoinSpec.joinPlan_of_chosen sampleStore sampleJoin sampleTable
    sampleTable false rfl rfl _ [.text "2_v", .text "1_k"] hnames (by simp [sampleJoinPlan])
    (by simp) (by simp [sampleJoinPlan])
  rw [joinPlan_sample] at halike
  obtain ⟨p, hp, -⟩ := map_eq_ok.1 halike
  obtain ⟨-, -, -, hboth⟩ := hchosen sampleJoinPlan p joinPlan_sample hp
  obtain ⟨hrun, -⟩ := (hboth false nofun).2 twoBuckets sampleStore
    { names := sampleJoinPlan.names, options := {}, batchSize := 1,
      work := .join (sampleJoinPlan.building false) }
    { names := p.names, options := {}, batchSize := 1, work := .join (p.building false) }
    rfl rfl hmakes hmakes
  refine ⟨p, hp, hrun.trans ?_⟩
  rw [@output_sample false _ rfl]
  rfl

end TablePipeline
