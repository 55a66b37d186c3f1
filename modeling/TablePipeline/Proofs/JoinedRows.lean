import Mathlib
import TablePipeline.Proofs.ChangedItems
import TablePipeline.Proofs.ColumnNames
import TablePipeline.Proofs.EquiJoin

/-!
Where the rows of a join come from. Each row that a join puts out, in a sample or in a run and
whatever else fails there, is written of a pair of records, or of a first record alone. So under each
name of a planned join stands what the column of that name has in the two rows, or a missing value in
place of the row that is missing.
-/
namespace TablePipeline

/-! ### Items come out of the steps that make them -/

section Items

variable {α β : Type}

theorem Outcome.exists_of_mem_concat {stages : List (Outcome α)} {a : α}
    (h : a ∈ (concat stages).items) : ∃ o ∈ stages, a ∈ o.items := by
  induction stages with
  | nil => simp [concat, empty] at h
  | cons o stages ih =>
    rw [concat, List.foldr_cons, append, ← concat] at h
    cases hfault : o.fault with
    | some fault => exact ⟨o, by simp, by simpa [hfault] using h⟩
    | none =>
      rcases List.mem_append.1 (by simpa only [hfault] using h) with h | h
      · exact ⟨o, by simp, h⟩
      · obtain ⟨o', ho', found⟩ := ih h
        exact ⟨o', by simp [ho'], found⟩

namespace Backend

variable {b : Backend}

theorem exists_of_mem_eachOf {stage : Stage} {place : Place} {step : α → Except Fault (List β)}
    {as : List α} {out : β} (h : out ∈ (b.eachOf stage place step as).items) :
    ∃ a ∈ as, ∃ items, step a = .ok items ∧ out ∈ items := by
  induction as with
  | nil => simp [eachOf, Outcome.empty] at h
  | cons a as ih =>
    have hrest : out ∈ (b.eachOf stage place step as).items →
        ∃ a' ∈ a :: as, ∃ items, step a' = .ok items ∧ out ∈ items := fun h =>
      (ih h).imp fun _ found => ⟨by simp [found.1], found.2⟩
    cases hstep : step a with
    | ok items =>
      rw [eachOf, hstep] at h
      rcases List.mem_append.1 (by simpa only [Outcome.append] using h) with h | h
      · exact ⟨a, by simp, items, hstep, h⟩
      · exact hrest h
    | error fault =>
      cases hfailure : b.failure stage place fault with
      | error stop => simp [eachOf, hstep, hfailure, Outcome.failed] at h
      | ok failure => exact hrest (by simpa [eachOf, hstep, hfailure, Outcome.report] using h)

/-- What a stage hands out is made of the rows. The steps could have made items that are known to be
made of the rows, and the stage would have handed out the same. -/
theorem mem_workThrough {stage : Stage} {size : ℕ} {step : Row → Except Fault (List α)}
    {rows : Feed Row} {a : α} (h : a ∈ (b.workThrough stage size step rows).items) :
    a ∈ PlanWork.madeOf step rows := by
  have hmade : ∀ row, ∃ inside : Except Fault (List { a // a ∈ PlanWork.madeOf step rows }),
      row ∈ rows.items → step row = inside.map (List.map Subtype.val) := by
    intro row
    by_cases hrow : row ∈ rows.items
    · cases hstep : step row with
      | error stop => exact ⟨.error stop, fun _ => rfl⟩
      | ok items =>
        have hitems : ∀ a ∈ items, a ∈ PlanWork.madeOf step rows := fun a ha =>
          List.mem_flatMap.2 ⟨row, hrow, by rwa [hstep]⟩
        exact ⟨.ok (items.attachWith _ hitems), fun _ => by simp [Except.map]⟩
    · exact ⟨.ok [], fun hin => absurd hin hrow⟩
  choose inside hinside using hmade
  rw [workThrough_map (f := Subtype.val) hinside] at h
  obtain ⟨x, -, rfl⟩ := List.mem_map.1 h
  exact x.2

end Backend

end Items

/-! ### Rows come out of the records of both sides -/

namespace JoinSide

/-- No row of the file fails on its way into a record. -/
def MakesRecords (side : JoinSide) (rows : List Row) : Prop :=
  ∀ row ∈ rows, ∃ records, side.recordOf row = .ok records

/-- The records of rows of the file. -/
def recordsOf (side : JoinSide) (rows : List Row) : List JoinRecord :=
  rows.flatMap fun row => made (side.recordOf row)

/-- A row of all slots that is made of one of these rows of the file. -/
def Keeps (side : JoinSide) (rows : List Row) (x : Row) : Prop :=
  ∃ values ∈ rows, side.transform.run values = .ok (some x)

/-- A record is made of a row that the transform accepts. -/
theorem exists_row_of_mem_recordsOf {side : JoinSide} {rows : List Row} {r : JoinRecord}
    (h : r ∈ side.recordsOf rows) : ∃ x, side.Keeps rows x ∧ side.record x = .ok r := by
  obtain ⟨values, hvalues, hr⟩ := List.mem_flatMap.1 h
  cases hrecords : side.recordOf values with
  | error stop => simp [hrecords] at hr
  | ok records =>
    obtain ⟨kept?, hkept, hmade⟩ := bind_eq_ok.1 hrecords
    rw [hrecords, made_ok] at hr
    cases kept? with
    | none =>
      obtain rfl := Except.ok.inj hmade
      simp at hr
    | some x =>
      obtain ⟨s, hs, hmade⟩ := bind_eq_ok.1 hmade
      obtain rfl := Except.ok.inj hmade
      exact ⟨x, ⟨values, hvalues, hkept⟩, by rw [hs, List.mem_singleton.1 hr]⟩

end JoinSide

namespace JoinPlan

variable {p : JoinPlan}

/-- The join of rows of the two files in memory. -/
def joinOf (p : JoinPlan) (as bs : List Row) : Feed Row :=
  p.sample (if p.firstIsBuilt then as else bs) (.ok (if p.firstIsBuilt then bs else as))

/-- A row of the join of these records: it is written of a pair, or of a first record alone. -/
def Joined (p : JoinPlan) (as bs : List JoinRecord) (row : Row) : Prop :=
  ∃ r ∈ as, (∃ s ∈ bs, p.pairRow r s = .ok row) ∨
    (p.keepsUnmatched = true ∧ p.paddedRow r = .ok row)

theorem recordsOf_build (p : JoinPlan) (as bs : List Row) :
    p.build.recordsOf (if p.firstIsBuilt then as else bs) =
      if p.firstIsBuilt then p.a.recordsOf as else p.b.recordsOf bs := by
  rw [build]
  split_ifs <;> rfl

theorem recordsOf_probe (p : JoinPlan) (as bs : List Row) :
    p.probe.recordsOf (if p.firstIsBuilt then bs else as) =
      if p.firstIsBuilt then p.b.recordsOf bs else p.a.recordsOf as := by
  rw [probe]
  split_ifs <;> rfl

/-- What a probe record gives are rows of the join, if records are padded for the second side
only. -/
theorem joined_of_answer (hfirst : p.firstIsBuilt = true → p.keepsUnmatched = false)
    {as bs built : List JoinRecord} {r : JoinRecord}
    (hbuilt : built ⊆ if p.firstIsBuilt then as else bs)
    (hr : r ∈ if p.firstIsBuilt then bs else as) {rows : List Row}
    (h : p.answer built r = .ok rows) {row : Row} (hrow : row ∈ rows) : p.Joined as bs row := by
  have hmade := assembled_of_answer h hrow
  cases hbuilds : p.firstIsBuilt with
  | true =>
    simp only [hbuilds, if_true, assemble, hfirst hbuilds, Bool.false_eq_true, false_and,
      or_false] at hbuilt hr hmade
    obtain ⟨s, hs, hrow⟩ := hmade
    exact ⟨s, hbuilt hs, .inl ⟨r, hr, hrow⟩⟩
  | false =>
    simp only [hbuilds, Bool.false_eq_true, if_false, assemble, build] at hbuilt hr hmade
    refine ⟨r, hr, hmade.imp (fun found => ?_) fun hpadded => hpadded⟩
    exact found.imp fun s hs => ⟨hbuilt hs.1, hs.2⟩

/-- The rows of a sample of which no row of the built side fails. -/
theorem joined_of_mem_joinOf (hfirst : p.firstIsBuilt = true → p.keepsUnmatched = false)
    {as bs : List Row} (ha : p.a.MakesRecords as) (hb : p.b.MakesRecords bs) {row : Row}
    (h : row ∈ (p.joinOf as bs).items) : p.Joined (p.a.recordsOf as) (p.b.recordsOf bs) row := by
  have hmakes : p.build.MakesRecords (if p.firstIsBuilt then as else bs) := by
    rw [build]
    split_ifs <;> assumption
  rw [joinOf] at h
  unfold sample at h
  rw [foldlM_of_ok hmakes, ← JoinIndex.ofRecords, ← JoinSide.recordsOf, recordsOf_build] at h
  cases hindex : JoinIndex.ofRecords p
      (if p.firstIsBuilt then p.a.recordsOf as else p.b.recordsOf bs) with
  | error stop => simp [hindex, Feed.failed] at h
  | ok index =>
    simp only [hindex] at h
    obtain ⟨values, hvalues, rows, hrows, hrow⟩ := Feed.exists_of_mem_traverse h
    obtain ⟨records, hrecords, hrows⟩ := bind_eq_ok.1 hrows
    obtain ⟨answers, hanswers, hrows⟩ := bind_eq_ok.1 hrows
    obtain rfl := Except.ok.inj hrows
    obtain ⟨found, hfound, hrow⟩ := List.mem_flatten.1 hrow
    have hprobes : Except.ok found ∈ records.map (index.probe p) :=
      mapM_eq_ok_iff.1 hanswers ▸ List.mem_map_of_mem hfound
    obtain ⟨r, hr, hprobe⟩ := List.mem_map.1 hprobes
    have hprobed : r ∈ p.probe.recordsOf (if p.firstIsBuilt then bs else as) :=
      List.mem_flatMap.2 ⟨values, hvalues, by rwa [hrecords]⟩
    rw [recordsOf_probe] at hprobed
    have hanswer : p.answer (if p.firstIsBuilt then p.a.recordsOf as else p.b.recordsOf bs) r =
        .ok found := by
      rw [answer, hindex, ok_bind, hprobe]
    exact joined_of_answer hfirst (List.Subset.refl _) hprobed hanswer hrow

end JoinPlan

namespace Backend

variable {b : Backend} {p : JoinPlan}

theorem exists_of_mem_joinBucket {number : ℕ} {built probed : List JoinRecord} {row : Row}
    (h : row ∈ (b.joinBucket p number built probed).items) :
    ∃ r ∈ probed, ∃ rows, p.answer built r = .ok rows ∧ row ∈ rows := by
  unfold joinBucket at h
  split_ifs at h
  · simp [Outcome.empty] at h
  · cases hindex : JoinIndex.ofRecords p built with
    | error fault =>
      cases hfailure : b.failure .join (.bucket number) fault <;>
        simp [hindex, hfailure, Outcome.failed, Outcome.report, Outcome.empty] at h
    | ok index =>
      obtain ⟨r, hr, rows, hrows, hrow⟩ := exists_of_mem_eachOf (by simpa only [hindex] using h)
      exact ⟨r, hr, rows, by rw [JoinPlan.answer, hindex, ok_bind, hrows], hrow⟩

/-- The rows of both sides are given by probe records as they are read back, of records that were
put aside before. -/
theorem exists_of_mem_joinAll {built probed : Outcome JoinRecord} {row : Row}
    (h : row ∈ (b.joinAll p built probed).items) :
    ∃ found ⊆ built.items.map JoinRecord.putAside, ∃ r ∈ probed.items.map JoinRecord.putAside,
      ∃ rows, p.answer found r = .ok rows ∧ row ∈ rows := by
  unfold joinAll at h
  cases hbuilt : b.spill (fun r => r.key) JoinRecord.putAside built with
  | error fault => simp [hbuilt, Outcome.failed] at h
  | ok builtBuckets =>
    cases hprobed : b.spill (fun r => r.key) JoinRecord.putAside probed with
    | error fault => simp [hbuilt, hprobed, Outcome.failed] at h
    | ok probedBuckets =>
      simp only [hbuilt, hprobed] at h
      obtain ⟨joined, hjoined, hrow⟩ := Outcome.exists_of_mem_concat h
      obtain ⟨number, -, rfl⟩ := List.mem_map.1 hjoined
      obtain ⟨r, hr, rows, hrows, hrow⟩ := exists_of_mem_joinBucket hrow
      exact ⟨builtBuckets.bucket number, mem_bucket_of_spill hbuilt number, r,
        mem_bucket_of_spill hprobed number hr, rows, hrows, hrow⟩

/-- The rows of a run: its records have been put aside and read back. -/
theorem joined_of_mem_output {store : Store} {plan : Plan} (hwork : plan.work = .join p)
    (hfirst : p.firstIsBuilt = true → p.keepsUnmatched = false) {row : Row}
    (h : row ∈ (b.output store plan).items) :
    p.Joined ((p.a.recordsOf (p.a.source.rows store).items).map JoinRecord.putAside)
      ((p.b.recordsOf (p.b.source.rows store).items).map JoinRecord.putAside) row := by
  simp only [output, hwork] at h
  obtain ⟨found, hfound, r, hr, rows, hrows, hrow⟩ := exists_of_mem_joinAll h
  have hmade : ∀ {stage : Stage} {side : JoinSide},
      ((b.recordsOfSide store stage side).items.map JoinRecord.putAside) ⊆
        (side.recordsOf (side.source.rows store).items).map JoinRecord.putAside :=
    fun {stage side} => List.map_subset _ fun _ => mem_workThrough
  refine JoinPlan.joined_of_answer hfirst (List.Subset.trans hfound (List.Subset.trans hmade ?_)) ?_ hrows hrow
  · rw [JoinPlan.build]
    split_ifs <;> exact List.Subset.refl _
  · have hprobed := hmade hr
    rw [JoinPlan.probe] at hprobed
    split_ifs at hprobed ⊢ <;> exact hprobed

end Backend

/-! ### What a row of a join shows -/

theorem Table.names_of_rows {t : Table} (h : t.rules.makesGroups = false) :
    t.names = .ok t.catalog.names := by
  simp [names, h]

theorem Catalog.length_names (c : Catalog) : c.names.length = c.live.length := List.length_map _

namespace JoinSpec

/-- The name under which a join puts out a column of a table. -/
def nameIn (front : String) (c : Catalog) (slot : ℕ) : Value :=
  .text (front ++ "_" ++ (c.nameOf slot).display)

theorem names_of_rows {spec : JoinSpec} {s t : Table} (hs : s.rules.makesGroups = false)
    (ht : t.rules.makesGroups = false) :
    spec.names s t = .ok (s.catalog.live.map (nameIn spec.aPrefix s.catalog) ++
      t.catalog.live.map (nameIn spec.bPrefix t.catalog)) := by
  rw [names, Table.names_of_rows hs, Table.names_of_rows ht, Catalog.names, Catalog.names]
  simp only [ok_bind, List.map_map]
  rfl

/-- What a row, or a missing one, has in a column of a table, as a join puts it out. -/
def shownIn (t : Table) (formatted : Bool) (row? : Option Row) (slot : ℕ) : Except Fault Value :=
  match row? with
  | some row => JoinSide.through row (slot, if formatted then t.catalog.formatter? slot else none)
  | none => .ok .null

/-- Under the name of each column of one of the tables, a row shows what the two rows have in that
column. -/
structure Shows (spec : JoinSpec) (s t : Table) (formatted : Bool) (select : List Value) (x : Row)
    (y? : Option Row) (row : Row) : Prop where
  width : row.length = select.length
  first : ∀ slot ∈ s.catalog.live, ∀ i : ℕ, select[i]? = some (nameIn spec.aPrefix s.catalog slot) →
    row[i]?.map .ok = some (shownIn s formatted (some x) slot)
  second : ∀ slot ∈ t.catalog.live, ∀ i : ℕ, select[i]? = some (nameIn spec.bPrefix t.catalog slot) →
    row[i]?.map .ok = some (shownIn t formatted y? slot)

/-- The place of a name among different texts. -/
theorem findIdx_text {names : List Value} (hdistinct : names.Nodup) {i : ℕ} {name : String}
    (h : names[i]? = some (.text name)) : names.findIdx (·.isMatch (.text name)) = i := by
  obtain ⟨hi, hname⟩ := List.getElem?_eq_some_iff.1 h
  rw [List.findIdx_eq hi]
  refine ⟨(Datum.isMatch_text _ _).2 hname, fun j hj => ?_⟩
  rw [Bool.eq_false_iff, ne_eq, Datum.isMatch_text, ← hname]
  exact fun hsame => hj.ne (hdistinct.getElem_inj_iff.1 hsame)

/-- A row that is written of the columns at the places of the chosen names. -/
theorem shows_of_row {spec : JoinSpec} {s t : Table} {formatted : Bool}
    (hs : s.rules.makesGroups = false) (ht : t.rules.makesGroups = false) {names : List Value}
    (hnames : spec.names s t = .ok names) (hdistinct : names.Nodup) {select : List Value} {x : Row}
    {y? : Option Row} {v : ℕ → Except Fault Value}
    (hv : ∀ place slot, t.catalog.live[place]? = some slot → v place = shownIn t formatted y? slot)
    {row : Row} (hrow : row.map .ok =
      (select.map fun name => names.findIdx (·.isMatch name)).map fun i =>
        if i < s.catalog.live.length then s.columnValue formatted x i
        else v (i - s.catalog.live.length)) : spec.Shows s t formatted select x y? row := by
  rw [names_of_rows hs ht] at hnames
  obtain rfl := Except.ok.inj hnames
  have hcell : ∀ (i : ℕ) (place : ℕ) (name : String), select[i]? = some (.text name) →
      (s.catalog.live.map (nameIn spec.aPrefix s.catalog) ++
        t.catalog.live.map (nameIn spec.bPrefix t.catalog))[place]? = some (.text name) →
      row[i]?.map .ok = some (if place < s.catalog.live.length then s.columnValue formatted x place
        else v (place - s.catalog.live.length)) := by
    intro i place name hselect hname
    rw [← List.getElem?_map, hrow, List.getElem?_map, List.getElem?_map, hselect]
    simp only [Option.map_some, findIdx_text hdistinct hname]
  refine ⟨by simpa using congrArg List.length hrow, fun slot hslot i hi => ?_,
    fun slot hslot i hi => ?_⟩
  · obtain ⟨place, hplace⟩ := List.mem_iff_getElem?.1 hslot
    have hlt := (List.getElem?_eq_some_iff.1 hplace).1
    rw [hcell i place _ hi (by rw [List.getElem?_append_left (by simpa using hlt),
      List.getElem?_map, hplace]; rfl), if_pos hlt, Table.columnValue, hplace]
    rfl
  · obtain ⟨place, hplace⟩ := List.mem_iff_getElem?.1 hslot
    rw [hcell i (s.catalog.live.length + place) _ hi (by
      rw [List.getElem?_append_right (by simp)]
      simp [hplace]
      rfl), if_neg (by omega), Nat.add_sub_cancel_left, hv place slot hplace]

/-- A row of a planned join comes from a kept row of each file, or of the first one alone, and shows
what they have. -/
def Shown (spec : JoinSpec) (s t : Table) (formatted : Bool) (select : List Value) (p : JoinPlan)
    (as bs : List Row) (row : Row) : Prop :=
  ∃ x y?, p.a.Keeps as x ∧ (∀ y ∈ y?, p.b.Keeps bs y) ∧ (y? = none → p.keepsUnmatched = true) ∧
    spec.Shows s t formatted select x y? row

theorem shown_of_joined {store : Store} {spec : JoinSpec} {s t : Table} {select : List Value}
    {formatted : Bool} {p : JoinPlan}
    (hjoin : spec.joinPlan store s t (some select) formatted = .ok p)
    (hs : s.rules.makesGroups = false) (ht : t.rules.makesGroups = false) {names : List Value}
    (hnames : spec.names s t = .ok names) (hdistinct : names.Nodup) {as bs : List Row} {row : Row}
    (h : p.Joined (p.a.recordsOf as) (p.b.recordsOf bs) row) :
    spec.Shown s t formatted select p as bs row := by
  have haNames := Table.names_of_rows hs
  have hpositions : JoinSpec.positions names (some select) =
      .ok (select.map fun name => names.findIdx (·.isMatch name)) := by
    obtain ⟨names', -, positions, -, -, -, hnames', hpositions, -⟩ := joinPlan_eq_ok_iff.1 hjoin
    obtain rfl : names = names' := Except.ok.inj (hnames.symm.trans hnames')
    rw [hpositions, (Names.places_eq_ok_iff.1 hpositions).2]
  obtain ⟨r, hr, hmade⟩ := h
  obtain ⟨x, hx, hxr⟩ := JoinSide.exists_row_of_mem_recordsOf hr
  rcases hmade with ⟨s', hs', hpair⟩ | ⟨hkeeps, hpadded⟩
  · obtain ⟨y, hy, hyr⟩ := JoinSide.exists_row_of_mem_recordsOf hs'
    obtain ⟨-, written, hwritten, hcells⟩ :=
      pairRow_of_records hjoin hnames hpositions haNames hxr hyr
    obtain rfl : written = row := Except.ok.inj (hwritten.symm.trans hpair)
    rw [Catalog.length_names] at hcells
    refine ⟨x, some y, hx, by simpa using hy, by simp, shows_of_row hs ht hnames hdistinct
      (fun place slot hplace => ?_) hcells⟩
    rw [Table.columnValue, hplace]
    rfl
  · obtain ⟨written, hwritten, hcells⟩ := paddedRow_of_record hjoin hnames hpositions haNames hxr
    obtain rfl : written = row := Except.ok.inj (hwritten.symm.trans hpadded)
    rw [Catalog.length_names] at hcells
    exact ⟨x, none, hx, by simp, fun _ => hkeeps,
      shows_of_row hs ht hnames hdistinct (fun _ _ _ => rfl) hcells⟩

end JoinSpec

/-- The join of records that have been put aside is the join of the records, put aside. -/
theorem JoinPlan.Joined.of_putAside {p : JoinPlan} {as bs : List JoinRecord} {row : Row}
    (h : p.Joined (as.map JoinRecord.putAside) (bs.map JoinRecord.putAside) row) :
    ∃ before, p.Joined as bs before ∧ row = Datum.forgetItems true before := by
  obtain ⟨_, hput, hmade⟩ := h
  obtain ⟨r, hr, rfl⟩ := List.mem_map.1 hput
  simp only [Datum.forgetItems_eq_map]
  rcases hmade with ⟨_, hput', hpair⟩ | ⟨hkeeps, hpadded⟩
  · obtain ⟨s, hs, rfl⟩ := List.mem_map.1 hput'
    rw [pairRow_putAside] at hpair
    obtain ⟨before, hbefore, rfl⟩ := map_eq_ok.1 hpair
    exact ⟨before, ⟨r, hr, .inl ⟨s, hs, hbefore⟩⟩, rfl⟩
  · rw [paddedRow_putAside] at hpadded
    obtain ⟨before, hbefore, rfl⟩ := map_eq_ok.1 hpadded
    exact ⟨before, ⟨r, hr, .inr ⟨hkeeps, hbefore⟩⟩, rfl⟩

end TablePipeline
