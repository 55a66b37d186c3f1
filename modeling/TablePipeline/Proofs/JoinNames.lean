import Mathlib
import TablePipeline.Proofs.LaterEdits
import TablePipeline.Proofs.Reopening

/-!
Names of the columns of a join. The names of both tables stand behind two different prefixes. That
keeps them apart as long as neither prefix is the beginning of the other one, up to a separator:
otherwise what is left of the longer prefix can be the beginning of a name. Columns are looked up by
their names and the first one is taken, so of columns that share a name only one can be chosen.
-/
namespace TablePipeline

/-! ### Names behind prefixes -/

/-- A prefix goes on where another one has ended, and a name begins with the rest of it. -/
def GoesOn (front other x y : String) : Prop :=
  ∃ more, other = front ++ "_" ++ more ∧ x = more ++ "_" ++ y

theorem goesOn_of_append {front other x y : String} {rest : List Char} (hne : front ≠ other)
    (hother : other.toList = front.toList ++ rest) (hx : '_' :: x.toList = rest ++ '_' :: y.toList) :
    GoesOn front other x y := by
  cases rest with
  | nil =>
    rw [List.append_nil, String.toList_inj] at hother
    exact absurd hother.symm hne
  | cons c more =>
    rw [List.cons_append, List.cons.injEq] at hx
    obtain ⟨rfl, hx⟩ := hx
    refine ⟨String.ofList more, ?_, ?_⟩
    · rw [← String.toList_inj]
      simp [hother]
    · rw [← String.toList_inj]
      simp [hx]

/-- Names behind different prefixes are the same only if one of the prefixes goes on in the name that
stands behind the other one. -/
theorem prefixed_eq_iff {front other x y : String} (hne : front ≠ other) :
    front ++ "_" ++ x = other ++ "_" ++ y ↔ GoesOn front other x y ∨ GoesOn other front y x := by
  constructor
  · intro h
    have hlists : front.toList ++ '_' :: x.toList = other.toList ++ '_' :: y.toList := by
      simpa using congrArg String.toList h
    rcases List.append_eq_append_iff.1 hlists with ⟨rest, hother, hx⟩ | ⟨rest, hfront, hy⟩
    · exact .inl (goesOn_of_append hne hother hx)
    · exact .inr (goesOn_of_append hne.symm hfront hy)
  · rintro (⟨more, rfl, rfl⟩ | ⟨more, rfl, rfl⟩) <;> simp only [String.append_assoc]

namespace JoinSpec

variable {spec : JoinSpec} {s t : Table}

/-- The prefixes that are accepted are two different texts. -/
theorem prefixesOf_eq_ok {arg : Arg} {front other : String}
    (h : prefixesOf arg = .ok (front, other)) : front ≠ "" ∧ other ≠ "" ∧ front ≠ other := by
  unfold prefixesOf at h
  split at h
  · split_ifs at h with hempty hsame
    obtain ⟨rfl, rfl⟩ := Prod.mk.inj (Except.ok.inj h)
    simp only [Bool.or_eq_true, beq_iff_eq, not_or] at hempty hsame
    exact ⟨hempty.1, hempty.2, hsame⟩
  · cases h

theorem prefixes_of_ofArgs {store : Store} {a b : Table} {args : JoinArgs}
    (h : ofArgs store a b args = .ok spec) :
    spec.aPrefix ≠ "" ∧ spec.bPrefix ≠ "" ∧ spec.aPrefix ≠ spec.bPrefix :=
  prefixesOf_eq_ok (declaredOn_of_ofArgs h).prefixes

/-! ### Columns and their names -/

/-- Texts that are apart are shown differently. -/
theorem nodup_display {names : List Value} (hapart : Names.Apart names)
    (htexts : ∀ name ∈ names, ∃ shown, name = .text shown) : (names.map Datum.display).Nodup := by
  refine List.pairwise_map.2 (hapart.imp_of_mem fun {x y} hx hy hxy hsame => ?_)
  obtain ⟨shown, rfl⟩ := htexts x hx
  obtain ⟨other, rfl⟩ := htexts y hy
  obtain rfl : shown = other := hsame
  rw [(Datum.isMatch_text _ _).2 rfl] at hxy
  cases hxy

/-- The columns of a join: of the first table, and then of the second one. -/
def columns (s t : Table) : List (Bool × ℕ) :=
  s.catalog.live.map (true, ·) ++ t.catalog.live.map (false, ·)

/-- The name of a column behind the prefix of its table. -/
def nameAt (spec : JoinSpec) (s t : Table) (column : Bool × ℕ) : Value :=
  nameIn (spec.frontOf column.1) (tableOf s t column.1).catalog column.2

/-- The names of all columns. -/
def columnNames (spec : JoinSpec) (s t : Table) : List Value :=
  (columns s t).map (spec.nameAt s t)

theorem names_eq_columnNames (hrows : ∀ first, (tableOf s t first).rules.makesGroups = false) :
    spec.names s t = .ok (spec.columnNames s t) := by
  rw [names_of_rows (s := s) (t := t) (hrows true) (hrows false), columnNames, columns,
    List.map_append, List.map_map, List.map_map]
  rfl

theorem nodup_columns (hvalid : ∀ first, (tableOf s t first).catalog.Valid) :
    (columns s t).Nodup := by
  refine List.nodup_append.2 ⟨(hvalid true).nodup_live.map fun _ _ h => (Prod.mk.inj h).2,
    (hvalid false).nodup_live.map fun _ _ h => (Prod.mk.inj h).2, ?_⟩
  rintro _ ha _ hb rfl
  obtain ⟨_, -, rfl⟩ := List.mem_map.1 ha
  obtain ⟨_, -, h⟩ := List.mem_map.1 hb
  cases h

/-- No prefix goes on in a name that stands behind the other one. -/
def PrefixesEnd (spec : JoinSpec) (s t : Table) : Prop :=
  ∀ x ∈ s.catalog.names, ∀ y ∈ t.catalog.names,
    ¬ GoesOn spec.aPrefix spec.bPrefix x.display y.display ∧
      ¬ GoesOn spec.bPrefix spec.aPrefix y.display x.display

/-- The names of a table behind a prefix are different if they are shown differently. -/
theorem nodup_nameIn (front : String) (c : Catalog) :
    (c.live.map (nameIn front c)).Nodup ↔ (c.names.map Datum.display).Nodup := by
  have hinjective : Function.Injective fun name => (Datum.text (front ++ "_" ++ name) : Value) := by
    intro x y h
    simpa [← String.toList_inj] using congrArg String.toList (Datum.text.inj h)
  rw [← List.nodup_map_iff hinjective, Catalog.names, List.map_map, List.map_map]
  rfl

/-- The names of a join are different if those of each table are, and no prefix goes on in a name. -/
theorem nodup_columnNames (hne : spec.aPrefix ≠ spec.bPrefix) :
    (spec.columnNames s t).Nodup ↔
      (∀ first, ((tableOf s t first).catalog.names.map Datum.display).Nodup) ∧
        spec.PrefixesEnd s t := by
  have happart : (∀ x ∈ s.catalog.live.map (nameIn spec.aPrefix s.catalog),
      ∀ y ∈ t.catalog.live.map (nameIn spec.bPrefix t.catalog), x ≠ y) ↔ spec.PrefixesEnd s t := by
    simp only [List.forall_mem_map, PrefixesEnd, Catalog.names, nameIn, ne_eq, Datum.text.injEq,
      prefixed_eq_iff hne, not_or]
  have hsides : spec.columnNames s t = s.catalog.live.map (nameIn spec.aPrefix s.catalog) ++
      t.catalog.live.map (nameIn spec.bPrefix t.catalog) := by
    rw [columnNames, columns, List.map_append, List.map_map, List.map_map]
    rfl
  rw [hsides, List.nodup_append, happart, nodup_nameIn, nodup_nameIn, Bool.forall_bool, ← and_assoc]
  exact and_congr_left' and_comm

/-! ### Columns that are found by their names -/

/-- The column that a name leads to: the first one that has it. -/
def columnNamed (spec : JoinSpec) (s t : Table) (name : Value) : Option (Bool × ℕ) :=
  (columns s t).find? fun column => (spec.nameAt s t column).isMatch name

theorem columnNamed_eq (name : Value) : spec.columnNamed s t name =
    (columns s t)[(spec.columnNames s t).findIdx (·.isMatch name)]? := by
  rw [columnNamed, List.find?_eq_getElem?_findIdx, columnNames, List.findIdx_map]
  rfl

/-- The column that a name leads to is there and has this name. -/
theorem of_columnNamed {name : Value} {column : Bool × ℕ}
    (h : spec.columnNamed s t name = some column) :
    column ∈ columns s t ∧ (spec.nameAt s t column).isMatch name = true := by
  unfold columnNamed at h
  exact ⟨List.mem_of_find?_eq_some h, by simpa using List.find?_some h⟩

theorem isMatch_nameAt (name : Value) (column : Bool × ℕ) :
    name.isMatch (spec.nameAt s t column) = true ↔ name = spec.nameAt s t column :=
  Datum.isMatch_text _ _

/-- Every column is found under its name if and only if no two columns have the same name. -/
theorem nodup_iff_found (hcolumns : (columns s t).Nodup) : (spec.columnNames s t).Nodup ↔
    ∀ column ∈ columns s t, spec.columnNamed s t (spec.nameAt s t column) = some column := by
  constructor
  · intro hdistinct column hcolumn
    cases hfound : spec.columnNamed s t (spec.nameAt s t column) with
    | none =>
      exact absurd ((isMatch_nameAt _ _).2 rfl) (List.find?_eq_none.1 hfound column hcolumn)
    | some other =>
      obtain ⟨hother, hmatch⟩ := of_columnNamed hfound
      have hsame := (isMatch_nameAt _ _).1 hmatch
      rw [List.inj_on_of_nodup_map hdistinct hother hcolumn hsame]
  · -- Two columns under one name would both be what the name leads to.
    intro hfound
    refine hcolumns.map_on fun column hcolumn other hother hsame => ?_
    have hthere := hfound column hcolumn
    rw [hsame, hfound other hother] at hthere
    exact (Option.some.inj hthere).symm

/-- Under different names a text leads to the one column that has it as its name. -/
theorem columnNamed_eq_some_iff (hdistinct : (spec.columnNames s t).Nodup)
    (hcolumns : (columns s t).Nodup) {name : String} {column : Bool × ℕ} :
    spec.columnNamed s t (.text name) = some column ↔
      column ∈ columns s t ∧ spec.nameAt s t column = .text name := by
  constructor
  · intro h
    obtain ⟨hcolumn, hmatch⟩ := of_columnNamed h
    exact ⟨hcolumn, (Datum.isMatch_text _ _).1 hmatch⟩
  · rintro ⟨hcolumn, hname⟩
    rw [← hname]
    exact (nodup_iff_found hcolumns).1 hdistinct column hcolumn

/-! ### Columns that a plan puts out -/

/-- The columns that options choose: each name leads to the first column that has it, also the names
that are left when some are excluded. -/
def chosenColumns (spec : JoinSpec) (s t : Table) (options : RunOptions) : List (Bool × ℕ) :=
  match options.select, options.exclude with
  | some select, _ => select.filterMap fun name => spec.columnNamed s t (.text name)
  | none, some exclude =>
    ((columns s t).filter fun column =>
      !Names.contain (exclude.map .text) (spec.nameAt s t column)).filterMap fun column =>
        spec.columnNamed s t (spec.nameAt s t column)
  | none, none => columns s t

theorem mem_of_mem_chosenColumns {options : RunOptions} {column : Bool × ℕ}
    (h : column ∈ spec.chosenColumns s t options) : column ∈ columns s t := by
  unfold chosenColumns at h
  split at h
  · obtain ⟨_, -, hnamed⟩ := List.mem_filterMap.1 h
    exact (of_columnNamed hnamed).1
  · obtain ⟨_, -, hnamed⟩ := List.mem_filterMap.1 h
    exact (of_columnNamed hnamed).1
  · exact h

/-- What a pair of rows, or a row without a partner, has in a column. -/
def shownAt (s t : Table) (formatted : Bool) (x : Row) (y? : Option Row) (column : Bool × ℕ) :
    Except Fault Value :=
  if column.1 then shownIn s formatted (some x) column.2 else shownIn t formatted y? column.2

/-- A plan puts out some columns, under their names: it carries them with their formatters, and the
rows that it makes of the rows of both tables show what these have in them. -/
structure PutsOut (spec : JoinSpec) (s t : Table) (formatted : Bool) (p : JoinPlan)
    (chosen : List (Bool × ℕ)) : Prop where
  names : p.names = chosen.map (spec.nameAt s t)
  width : p.writeIndex.length = chosen.length
  carried : ∀ i, p.carriedAt i = chosen[i]?.map fun column =>
    (column.1, column.2,
      if formatted then (tableOf s t column.1).catalog.formatter? column.2 else none)
  pairs : ∀ {x y : Row} {r r' : JoinRecord}, p.a.record x = .ok r → p.b.record y = .ok r' →
    ∃ row, p.pairRow r r' = .ok row ∧ row.map .ok = chosen.map (shownAt s t formatted x (some y))
  padded : ∀ {x : Row} {r : JoinRecord}, p.a.record x = .ok r →
    ∃ row, p.paddedRow r = .ok row ∧ row.map .ok = chosen.map (shownAt s t formatted x none)

theorem getElem?_columns_first {place slot : ℕ} (h : s.catalog.live[place]? = some slot) :
    (columns s t)[place]? = some (true, slot) := by
  have hlt := (List.getElem?_eq_some_iff.1 h).1
  rw [columns, List.getElem?_append_left (by simpa using hlt), List.getElem?_map, h]
  rfl

theorem getElem?_columns_second {place slot : ℕ} (h : t.catalog.live[place]? = some slot) :
    (columns s t)[s.catalog.live.length + place]? = some (false, slot) := by
  rw [columns, List.getElem?_append_right (by simp), List.length_map, Nat.add_sub_cancel_left,
    List.getElem?_map, h]
  rfl

/-- The column in a place shows what the tables have in that place. -/
theorem shownAt_of_place {formatted : Bool} {x : Row} {y? : Option Row} {i : ℕ}
    {column : Bool × ℕ} (h : (columns s t)[i]? = some column) :
    shownAt s t formatted x y? column =
      if i < s.catalog.live.length then s.columnValue formatted x i
      else match y? with
        | some y => t.columnValue formatted y (i - s.catalog.live.length)
        | none => .ok .null := by
  by_cases hlt : i < s.catalog.live.length
  · have hlive := List.getElem?_eq_getElem hlt
    obtain rfl := Option.some.inj (h.symm.trans (getElem?_columns_first hlive))
    rw [if_pos hlt, Table.columnValue, hlive]
    rfl
  · rw [if_neg hlt]
    rw [columns, List.getElem?_append_right (by simpa using hlt), List.getElem?_map,
      Option.map_eq_some_iff, List.length_map] at h
    obtain ⟨slot, hlive, rfl⟩ := h
    cases y? with
    | none => rfl
    | some y =>
      simp only [Table.columnValue, hlive]
      rfl

/-- The columns in some places. -/
def InPlaces (s t : Table) : List ℕ → List (Bool × ℕ) → Prop :=
  List.Forall₂ fun i column => (columns s t)[i]? = some column

theorem InPlaces.map_eq {positions : List ℕ} {chosen : List (Bool × ℕ)}
    (h : InPlaces s t positions chosen) {α : Type} {f : ℕ → α} {k : Bool × ℕ → α}
    (hf : ∀ i column, (columns s t)[i]? = some column → f i = k column) :
    positions.map f = chosen.map k := by
  rw [← List.forall₂_eq_eq_eq, List.forall₂_map_left_iff, List.forall₂_map_right_iff]
  exact h.imp hf

/-- A plan puts out the columns in the places that it looked up. -/
theorem putsOut_of_joinPlan {store : Store} {select : Option (List Value)} {formatted : Bool}
    {p : JoinPlan} (hrows : ∀ first, (tableOf s t first).rules.makesGroups = false)
    (h : spec.joinPlan store s t select formatted = .ok p) {positions : List ℕ}
    (hpositions : JoinSpec.positions (spec.columnNames s t) select = .ok positions)
    {chosen : List (Bool × ℕ)} (hchosen : InPlaces s t positions chosen) :
    spec.PutsOut s t formatted p chosen := by
  have hnames : spec.names s t = .ok (spec.columnNames s t) := names_eq_columnNames hrows
  have haNames : s.names = .ok s.catalog.names := Table.names_of_rows (hrows true)
  obtain ⟨aSlots, bSlots, first, haSlots, hbSlots, -, hplan⟩ :=
    exists_planned h hnames hpositions haNames
  refine ⟨?_, ?_, fun i => ?_, fun hr hr' => ?_, fun hr => ?_⟩
  · rw [hplan]
    refine hchosen.map_eq fun i column hcolumn => ?_
    rw [columnNames, List.getD_eq_getElem?_getD, List.getElem?_map, hcolumn]
    rfl
  · rw [hplan, planned, List.length_map, hchosen.length_eq]
  · cases hq : positions[i]? with
    | none =>
      have hlength := List.getElem?_eq_none_iff.1 hq
      rw [List.getElem?_eq_none (hchosen.length_eq ▸ hlength), hplan, JoinPlan.carriedAt, planned,
        List.getElem?_eq_none (by simpa using hlength)]
      rfl
    | some q =>
      obtain ⟨hi, hq'⟩ := List.getElem?_eq_some_iff.1 hq
      have hi' : i < chosen.length := hchosen.length_eq ▸ hi
      have hcolumn : (columns s t)[q]? = some chosen[i] := hq' ▸ hchosen.get hi hi'
      obtain ⟨_, place, slot, hside, hlive, hcarried⟩ := carriedAt_planned haSlots hbSlots hq
      rw [hplan, hcarried, List.getElem?_eq_getElem hi']
      rcases hside with ⟨rfl, rfl, -⟩ | ⟨rfl, rfl⟩
      · rw [getElem?_columns_first (s := s) hlive] at hcolumn
        rw [← Option.some.inj hcolumn]
        rfl
      · rw [Catalog.length_names, getElem?_columns_second (t := t) hlive] at hcolumn
        rw [← Option.some.inj hcolumn]
        rfl
  · obtain ⟨-, row, hrow, hcells⟩ := pairRow_of_records h hnames hpositions haNames hr hr'
    refine ⟨row, hrow, hcells.trans (hchosen.map_eq fun i column hcolumn => ?_)⟩
    rw [shownAt_of_place hcolumn, Catalog.length_names]
  · obtain ⟨row, hrow, hcells⟩ := paddedRow_of_record h hnames hpositions haNames hr
    refine ⟨row, hrow, hcells.trans (hchosen.map_eq fun i column hcolumn => ?_)⟩
    rw [shownAt_of_place hcolumn, Catalog.length_names]

/-- All columns are in all places. -/
theorem inPlaces_all (spec : JoinSpec) (s t : Table) :
    InPlaces s t (List.range (spec.columnNames s t).length) (columns s t) := by
  refine List.forall₂_iff_get.2 ⟨by simp [columnNames], fun i hi hi' => ?_⟩
  simp [List.getElem?_eq_getElem hi']

/-- Names that are there are looked up in the places of the columns that they lead to. -/
theorem inPlaces_named {select : List Value}
    (h : ∀ name ∈ select, Names.contain (spec.columnNames s t) name = true) :
    InPlaces s t (select.map fun name => (spec.columnNames s t).findIdx (·.isMatch name))
      (select.filterMap (spec.columnNamed s t)) := by
  induction select with
  | nil => exact .nil
  | cons name select ih =>
    have hlt := Names.findIdx_lt_length (h name List.mem_cons_self)
    have hcolumn := List.getElem?_eq_getElem (hlt.trans_eq (List.length_map _))
    rw [List.map_cons, List.filterMap_cons, columnNamed_eq, hcolumn]
    exact .cons hcolumn (ih fun other hother => h other (List.mem_cons_of_mem name hother))

/-- What options choose among the names of the columns, and the places in which this is looked up. -/
theorem inPlaces_chosen {options : RunOptions} {select : Option (List Value)}
    (hselect : options.chosenNames (spec.columnNames s t) = .ok select) {positions : List ℕ}
    (hpositions : JoinSpec.positions (spec.columnNames s t) select = .ok positions) :
    InPlaces s t positions (spec.chosenColumns s t options) := by
  unfold RunOptions.chosenNames at hselect
  unfold chosenColumns
  cases hnames : options.select with
  | some names =>
    simp only [hnames] at hselect ⊢
    obtain rfl := Except.ok.inj hselect
    obtain ⟨hthere, rfl⟩ := Names.places_eq_ok_iff.1 hpositions
    have hplaces := inPlaces_named hthere
    rw [List.filterMap_map] at hplaces
    exact hplaces
  | none =>
    cases hexclude : options.exclude with
    | some exclude =>
      simp only [hnames, hexclude] at hselect ⊢
      split_ifs at hselect
      obtain rfl := Except.ok.inj hselect
      obtain ⟨hthere, rfl⟩ := Names.places_eq_ok_iff.1 hpositions
      have hplaces := inPlaces_named hthere
      simp only [columnNames, List.filter_map, List.filterMap_map] at hplaces ⊢
      exact hplaces
    | none =>
      simp only [hnames, hexclude] at hselect ⊢
      obtain rfl := Except.ok.inj hselect
      obtain rfl := Except.ok.inj hpositions
      exact inPlaces_all spec s t

/-- Options say which columns: names that are there, or all that are not excluded. -/
def Chooses (spec : JoinSpec) (s t : Table) (options : RunOptions) : Prop :=
  spec.chosenColumns s t options ≠ [] ∧
    ∀ select, options.select = some select → ∀ name ∈ select, .text name ∈ spec.columnNames s t

/-- The names that are chosen are there. -/
theorem Chooses.chosenNames {options : RunOptions} (h : spec.Chooses s t options) :
    ∃ select, options.chosenNames (spec.columnNames s t) = .ok select ∧
      ∀ names, select = some names → ∀ name ∈ names,
        Names.contain (spec.columnNames s t) name = true := by
  obtain ⟨hsome, hknown⟩ := h
  have hcontain : ∀ {name : String}, .text name ∈ spec.columnNames s t →
      Names.contain (spec.columnNames s t) (.text name) = true := fun hname =>
    List.any_eq_true.2 ⟨_, hname, (Datum.isMatch_text _ _).2 rfl⟩
  unfold RunOptions.chosenNames
  cases hselect : options.select with
  | some select =>
    refine ⟨_, rfl, ?_⟩
    rintro _ ⟨⟩ _ hname
    obtain ⟨name, hmem, rfl⟩ := List.mem_map.1 hname
    exact hcontain (hknown select hselect name hmem)
  | none =>
    cases hexclude : options.exclude with
    | none => exact ⟨_, rfl, nofun⟩
    | some exclude =>
      rw [chosenColumns, hselect, hexclude] at hsome
      obtain ⟨found, hfound⟩ := List.exists_mem_of_ne_nil _ hsome
      obtain ⟨column, hcolumn, -⟩ := List.mem_filterMap.1 hfound
      obtain ⟨hcolumn, hkept⟩ := List.mem_filter.1 hcolumn
      have hleft : spec.nameAt s t column ∈ (spec.columnNames s t).filter fun name =>
          !Names.contain (exclude.map .text) name :=
        List.mem_filter.2 ⟨List.mem_map_of_mem hcolumn, hkept⟩
      refine ⟨_, if_neg ?_, ?_⟩
      · rw [List.isEmpty_iff]
        exact List.ne_nil_of_mem hleft
      · rintro _ ⟨⟩ name hname
        obtain ⟨column, hcolumn, rfl⟩ := List.mem_map.1 (List.mem_of_mem_filter hname)
        exact hcontain (List.mem_map_of_mem hcolumn)

/-- What is chosen among the names that there are has places. -/
theorem Chooses.exists_positions {options : RunOptions} (h : spec.Chooses s t options) :
    ∃ select positions, options.chosenNames (spec.columnNames s t) = .ok select ∧
      JoinSpec.positions (spec.columnNames s t) select = .ok positions ∧ positions ≠ [] := by
  obtain ⟨select, hselect, hthere⟩ := h.chosenNames
  obtain ⟨positions, hpositions⟩ :
      ∃ positions, JoinSpec.positions (spec.columnNames s t) select = .ok positions := by
    cases select with
    | none => exact ⟨_, rfl⟩
    | some names => exact ⟨_, Names.places_eq_ok_iff.2 ⟨hthere names rfl, rfl⟩⟩
  refine ⟨select, positions, hselect, hpositions, ?_⟩
  have hlength := (inPlaces_chosen hselect hpositions).length_eq
  rintro rfl
  exact h.1 (List.length_eq_zero_iff.1 hlength.symm)

/-- Planning what is chosen fails only at a key that has been deleted, or at a file whose size cannot
be told. -/
theorem Chooses.plan_outcome (hrows : ∀ first, (tableOf s t first).rules.makesGroups = false)
    {options : RunOptions} (h : spec.Chooses s t options) (store : Store) (formatted : Bool) :
    (spec.plan store s t options formatted).map (fun _ => ()) = (do
      requireLive s spec.aKeys
      requireLive t spec.bKeys
      (buildsA store spec s t).map fun _ => ()) := by
  obtain ⟨select, positions, hselect, hpositions, hsome⟩ := h.exists_positions
  have hnames : spec.names s t = .ok (spec.columnNames s t) := names_eq_columnNames hrows
  have houtcome : (spec.joinPlan store s t select formatted).map (fun _ => ()) = _ :=
    joinPlan_outcome (hrows true) (hrows false) hnames hpositions hsome
      fun i => lt_of_positions hpositions
  refine Eq.trans ?_ houtcome
  rw [plan, hnames, ok_bind, hselect, ok_bind]
  cases spec.joinPlan store s t select formatted <;> rfl

/-- A plan puts out what the options choose. -/
theorem putsOut_of_plan (hrows : ∀ first, (tableOf s t first).rules.makesGroups = false)
    {store : Store} {options : RunOptions} {formatted : Bool} {plan : Plan}
    (h : spec.plan store s t options formatted = .ok plan) :
    ∃ p, plan.work = .join p ∧ plan.names = p.names ∧
      spec.PutsOut s t formatted p (spec.chosenColumns s t options) := by
  have hnames : spec.names s t = .ok (spec.columnNames s t) := names_eq_columnNames hrows
  rw [JoinSpec.plan, hnames, ok_bind] at h
  obtain ⟨select, hselect, h⟩ := bind_eq_ok.1 h
  obtain ⟨p, hp, h⟩ := bind_eq_ok.1 h
  obtain rfl := Except.ok.inj h
  refine ⟨p, rfl, rfl, ?_⟩
  obtain ⟨names', -, positions, -, -, -, hnames', hpositions, -⟩ := joinPlan_eq_ok_iff.1 hp
  obtain rfl : spec.columnNames s t = names' := Except.ok.inj (hnames.symm.trans hnames')
  exact putsOut_of_joinPlan hrows hp hpositions (inPlaces_chosen hselect hpositions)

/-- Where all columns have different names, each chosen name is that of one column alone. -/
theorem forall₂_select (hdistinct : (spec.columnNames s t).Nodup) (hcolumns : (columns s t).Nodup)
    {select : List String} (hknown : ∀ name ∈ select, .text name ∈ spec.columnNames s t) :
    List.Forall₂ (fun name column => ∀ other,
        other ∈ columns s t ∧ spec.nameAt s t other = .text name ↔ other = column) select
      (select.filterMap fun name => spec.columnNamed s t (.text name)) := by
  induction select with
  | nil => exact .nil
  | cons name select ih =>
    obtain ⟨column, hcolumn, hname⟩ := List.mem_map.1 (hknown name List.mem_cons_self)
    have hnamed := (columnNamed_eq_some_iff hdistinct hcolumns).2 ⟨hcolumn, hname⟩
    rw [List.filterMap_cons, hnamed]
    refine .cons (fun other => ?_) (ih fun more hmore => hknown more (List.mem_cons_of_mem name hmore))
    rw [← columnNamed_eq_some_iff hdistinct hcolumns, hnamed, Option.some.injEq, eq_comm]

/-- The columns of a join and their names. The prefixes are two different texts. While neither table
makes groups, no two columns have the same name if and only if the names of each table are shown
differently, as texts always are, and neither prefix goes on in a name behind the other one. Planning
succeeds for columns that are chosen as it does for all of them, and a plan puts out the first column
of each name that is chosen or left; so every column can be reached if and only if all names are
different, and then a name brings out its column alone, and excluding names takes away theirs alone. -/
theorem columns_by_name {a b : Table} (ha : a.catalog.Valid) (hb : b.catalog.Valid)
    {declaredOn : Store} {args : JoinArgs} (hdeclared : ofArgs declaredOn a b args = .ok spec)
    (aHistory bHistory : List (Store × Edit)) :
    let s := a.after aHistory
    let t := b.after bHistory
    (spec.aPrefix ≠ "" ∧ spec.bPrefix ≠ "" ∧ spec.aPrefix ≠ spec.bPrefix) ∧
    ((∀ first, (tableOf s t first).rules.makesGroups = false) →
      spec.names s t = .ok (spec.columnNames s t) ∧
      ((spec.columnNames s t).Nodup ↔
        (∀ first, ((tableOf s t first).catalog.names.map Datum.display).Nodup) ∧
          spec.PrefixesEnd s t) ∧
      (∀ first, (∀ name ∈ (tableOf s t first).catalog.names, ∃ shown, name = .text shown) →
        ((tableOf s t first).catalog.names.map Datum.display).Nodup) ∧
      ((spec.columnNames s t).Nodup ↔
        ∀ column ∈ columns s t, spec.columnNamed s t (spec.nameAt s t column) = some column) ∧
      ∀ options : RunOptions,
        (∀ (store : Store) (formatted : Bool),
          (spec.Chooses s t options →
            (spec.plan store s t options formatted).map (fun _ => ()) =
              (spec.plan store s t {} formatted).map fun _ => ()) ∧
          ∀ plan : Plan, spec.plan store s t options formatted = .ok plan →
            ∃ p, plan.work = .join p ∧ plan.names = p.names ∧
              spec.PutsOut s t formatted p (spec.chosenColumns s t options)) ∧
        ((spec.columnNames s t).Nodup →
          (∀ select, options.select = some select → spec.Chooses s t options →
            List.Forall₂ (fun name column => ∀ other,
                other ∈ columns s t ∧ spec.nameAt s t other = .text name ↔ other = column)
              select (spec.chosenColumns s t options)) ∧
          ∀ exclude, options.select = none → options.exclude = some exclude →
            spec.chosenColumns s t options = (columns s t).filter fun column =>
              !Names.contain (exclude.map .text) (spec.nameAt s t column))) := by
  intro s t
  have hvalid : ∀ first, (tableOf s t first).catalog.Valid := by
    intro first
    cases first
    · exact Table.valid_after bHistory hb
    · exact Table.valid_after aHistory ha
  have hprefixes := prefixes_of_ofArgs hdeclared
  have hcolumns := nodup_columns hvalid
  refine ⟨hprefixes, fun hrows => ⟨names_eq_columnNames hrows, nodup_columnNames hprefixes.2.2,
    fun first => nodup_display (hvalid first).apart, nodup_iff_found hcolumns, fun options =>
    ⟨fun store formatted => ⟨fun hchooses => ?_, fun _ => putsOut_of_plan hrows⟩,
      fun hdistinct => ⟨fun select hselect hchooses => ?_, fun exclude hnone hexclude => ?_⟩⟩⟩⟩
  · have hall : spec.Chooses s t {} := by
      obtain ⟨column, hcolumn⟩ := List.exists_mem_of_ne_nil _ hchooses.1
      exact ⟨List.ne_nil_of_mem (mem_of_mem_chosenColumns hcolumn), nofun⟩
    rw [hchooses.plan_outcome hrows, hall.plan_outcome hrows]
  · simp only [chosenColumns, hselect]
    exact forall₂_select hdistinct hcolumns (hchooses.2 select hselect)
  · simp only [chosenColumns, hnone, hexclude]
    refine (List.filterMap_congr fun column hcolumn => ?_).trans (List.filterMap_some ..)
    exact (nodup_iff_found hcolumns).1 hdistinct column (List.mem_of_mem_filter hcolumn)

end JoinSpec

/-- The columns of the sample joined with itself have different names, and excluding one of them takes
away its column alone. -/
theorem columns_by_name_sample :
    (sampleJoin.columnNames sampleTable sampleTable).Nodup ∧
      ∃ plan p, sampleJoin.plan sampleStore sampleTable sampleTable { exclude := some ["2_k"] }
          false = .ok plan ∧ plan.work = .join p ∧
        sampleJoin.PutsOut sampleTable sampleTable false p [(true, 0), (true, 1), (false, 1)] := by
  have hvalid := Table.valid_of_ofArgs ofArgs_sample
  obtain ⟨-, hjoin⟩ := JoinSpec.columns_by_name hvalid hvalid ofArgs_sampleJoin [] []
  obtain ⟨-, -, -, -, hoptions⟩ := hjoin fun first => by cases first <;> rfl
  simp only [Table.after] at hoptions
  obtain ⟨hplans, hchosen⟩ := hoptions { exclude := some ["2_k"] }
  obtain ⟨halike, hputs⟩ := hplans sampleStore false
  have hnodup : (sampleJoin.columnNames sampleTable sampleTable).Nodup := by
    rw [show sampleJoin.columnNames sampleTable sampleTable = sampleJoinPlan.names from rfl]
    simp [sampleJoinPlan]
  have hcolumns : sampleJoin.chosenColumns sampleTable sampleTable { exclude := some ["2_k"] } =
      [(true, 0), (true, 1), (false, 1)] := (hchosen hnodup).2 ["2_k"] rfl rfl
  have hall : (sampleJoin.plan sampleStore sampleTable sampleTable {} false).map (fun _ => ()) =
      .ok () := by
    rw [JoinSpec.plan, show sampleJoin.names sampleTable sampleTable = .ok sampleJoinPlan.names from
      rfl, ok_bind, Table.chosenNames_default, ok_bind, joinPlan_sample]
    rfl
  obtain ⟨plan, hplan, -⟩ := map_eq_ok.1 ((halike ⟨by rw [hcolumns]; simp, by simp⟩).trans hall)
  obtain ⟨p, hwork, -, hout⟩ := hputs plan hplan
  exact ⟨hnodup, plan, p, hplan, hwork, hcolumns ▸ hout⟩

/-! ### A prefix that goes on in a name -/

/-- The sample whose second column has been renamed. -/
def scoredTable : Table :=
  { sampleTable with catalog := sampleTable.catalog.setSlot 1 ({ · with name := .text "y_v" }) }

/-- The join of both, behind prefixes of which one is the beginning of the other. -/
def nestedJoin : JoinSpec := { sampleJoin with aPrefix := "x", bPrefix := "x_y" }

/-- A join is declared over two tables behind two different prefixes, and the second columns of both
have the same name. Where the first column is excluded, what stands in the place of the second table's
column is the column of the first table, which is also all that choosing the name brings out. -/
theorem names_repeated_behind_prefixes :
    sampleTable.edit sampleStore (.rename (.list [.text "k", .text "y_v"])) = (.ok (), scoredTable) ∧
      JoinSpec.ofArgs sampleStore scoredTable sampleTable
        { kind := .text "inner", aKeys := .text "k", bKeys := .text "k",
          prefixes := .tuple [.text "x", .text "x_y"] } = .ok nestedJoin ∧
      nestedJoin.names scoredTable sampleTable =
        .ok [.text "x_k", .text "x_y_v", .text "x_y_k", .text "x_y_v"] ∧
      JoinSpec.columns scoredTable sampleTable = [(true, 0), (true, 1), (false, 0), (false, 1)] ∧
      (∃ plan p, nestedJoin.plan sampleStore scoredTable sampleTable { exclude := some ["x_k"] }
          false = .ok plan ∧ plan.work = .join p ∧
        nestedJoin.PutsOut scoredTable sampleTable false p [(true, 1), (false, 0), (true, 1)]) ∧
      nestedJoin.chosenColumns scoredTable sampleTable { select := some ["x_y_v"] } = [(true, 1)] := by
  have hdeclared : JoinSpec.ofArgs sampleStore scoredTable sampleTable
      { kind := .text "inner", aKeys := .text "k", bKeys := .text "k",
        prefixes := .tuple [.text "x", .text "x_y"] } = .ok nestedJoin := by
    cbv
  have hrows : ∀ first,
      (JoinSpec.tableOf scoredTable sampleTable first).rules.makesGroups = false := fun first => by
    cases first <;> rfl
  have hcolumns : nestedJoin.chosenColumns scoredTable sampleTable { exclude := some ["x_k"] } =
      [(true, 1), (false, 0), (true, 1)] := rfl
  have hbuilds : JoinSpec.buildsA sampleStore nestedJoin scoredTable sampleTable = .ok true := by
    simp only [JoinSpec.buildsA, scoredTable, sampleTable, size_sample]
    rfl
  have hchooses : nestedJoin.Chooses scoredTable sampleTable { exclude := some ["x_k"] } :=
    ⟨by rw [hcolumns]; simp, by simp⟩
  obtain ⟨plan, hplan, -⟩ := map_eq_ok.1 ((hchooses.plan_outcome hrows sampleStore false).trans
    (by rw [hbuilds]; rfl))
  obtain ⟨p, hwork, -, hout⟩ := JoinSpec.putsOut_of_plan hrows hplan
  exact ⟨Table.edit_of_steps rfl (dryRun_sample rfl rfl rfl), hdeclared, rfl, rfl,
    ⟨plan, p, hplan, hwork, hcolumns ▸ hout⟩, rfl⟩

end TablePipeline
