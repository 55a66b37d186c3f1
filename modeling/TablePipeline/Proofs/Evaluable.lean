import Mathlib
import TablePipeline.Proofs.GroupColumns
import TablePipeline.Proofs.Replay

/-!
Edits take place as a whole or not at all. The steps of an edit may stop anywhere, and the dry run
comes after all of them; what a failing edit leaves is the table before it in every part. Nothing but
the dry run keeps keys and aggregates from reading deleted columns: a step may well delete the column
of a key, and it is the plan that refuses. So what holds of a table after an edit that took place is
what a plan that has been made tells of its table, and no later edit can take it away.
-/
namespace TablePipeline

/-! ### What failing steps leave behind -/

namespace Edit

/-- The table that a step leaves behind, whether it ends well or fails. -/
def left {α : Type} (step : Step α) (t : Table) : Table :=
  let result : Except Fault α × Table := step t
  result.2

/-- A step that changes nothing of a table but its catalog and its rules. -/
def Framed {α : Type} (step : Step α) : Prop :=
  ∀ t, ∃ catalog rules, left step t = { t with catalog, rules }

variable {α β : Type}

theorem framed_bind {x : Step α} {f : α → Step β} (hx : Framed x) (hf : ∀ a, Framed (f a)) :
    Framed (x >>= f) := by
  intro t
  obtain ⟨catalog, rules, hleft⟩ := hx t
  have hbind : left (x >>= f) t =
      match x t with
      | (.ok a, there) => left (f a) there
      | (.error _, there) => there := by
    simp only [left, bind, ExceptT.bind, ExceptT.mk, ExceptT.bindCont, StateT.bind]
    rcases x t with ⟨fault | a, there⟩ <;> rfl
  unfold left at hleft
  rw [hbind]
  rcases hstep : x t with ⟨fault | a, there⟩ <;> rw [hstep] at hleft
  · exact ⟨catalog, rules, hleft⟩
  · obtain ⟨catalog', rules', hnext⟩ := hf a there
    obtain rfl : there = _ := hleft
    exact ⟨catalog', rules', hnext⟩

theorem framed_pure (a : α) : Framed (pure a) := fun t => ⟨t.catalog, t.rules, rfl⟩

theorem framed_throw (fault : Fault) : Framed (throw fault : Step α) :=
  fun t => ⟨t.catalog, t.rules, rfl⟩

theorem framed_get : Framed (get : Step Table) := fun t => ⟨t.catalog, t.rules, rfl⟩

theorem framed_onRules (f : RowRules → RowRules) : Framed (onRules f) :=
  fun t => ⟨t.catalog, f t.rules, rfl⟩

theorem framed_onCatalog (change : Change α) : Framed (onCatalog change) :=
  fun t => ⟨(change t.catalog).2, t.rules, rfl⟩

theorem framed_ite {p : Prop} [Decidable p] {x y : Step α} (hx : Framed x) (hy : Framed y) :
    Framed (if p then x else y) := by
  split_ifs
  · exact hx
  · exact hy

/-- A check that may end what comes after it. -/
theorem framed_guard {p : Prop} [Decidable p] {fault : Fault} {x : Step α} (hx : Framed x) :
    Framed (if p then (throw fault : Step PUnit) >>= fun _ => x else x) :=
  framed_ite (framed_bind (framed_throw fault) fun _ => hx) hx

theorem framed_ask (question : Table → Except Fault α) : Framed (ask question) := by
  refine framed_bind framed_get fun t => ?_
  cases question t with
  | ok a => exact framed_pure a
  | error fault => exact framed_throw fault

theorem framed_addFilter (columns predicate : Arg) : Framed (addFilter columns predicate) := by
  unfold addFilter
  split
  · exact framed_bind (framed_ask _) fun _ => framed_bind framed_get fun _ => framed_onRules _
  · exact framed_throw _

theorem framed_addAggregates (func columns newNames : Arg) :
    Framed (addAggregates func columns newNames) := by
  refine framed_bind (framed_ask _) fun f => framed_bind (framed_ask _) fun slots => ?_
  exact framed_guard (framed_bind framed_get fun t => framed_guard (framed_onRules _))

theorem framed_steps (e : Edit) : Framed e.steps := by
  cases e with
  | operate func columns newName =>
    exact framed_bind (framed_onCatalog _) fun _ => framed_pure _
  | filter columns predicate => exact framed_addFilter columns predicate
  | groupBy keys =>
    exact framed_bind (framed_ask _) fun _ => framed_bind (framed_ask _) fun _ => framed_onRules _
  | aggregate func columns newNames => exact framed_addAggregates func columns newNames
  | select columns =>
    refine framed_bind (framed_ask _) fun keep => framed_bind framed_get fun t => ?_
    exact framed_ite (framed_onCatalog _) (framed_pure _)
  | setType | setParser | setFormatter | delete | reorder | rename => exact framed_onCatalog _

end Edit

/-! ### Tables that can be evaluated -/

theorem RowRules.mem_of_neededAggregates {rules : RowRules} {positions : List ℕ} {a : AggregateRule}
    (h : a ∈ rules.neededAggregates positions) : a ∈ rules.aggregates := by
  obtain ⟨i, -, hi⟩ := List.mem_filterMap.1 h
  exact List.mem_of_getElem? hi

/-- If all columns of the groups are chosen, all aggregates are needed. -/
theorem RowRules.mem_neededAggregates {rules : RowRules} {a : AggregateRule}
    (h : a ∈ rules.aggregates) :
    a ∈ rules.neededAggregates (List.range (rules.keys.length + rules.aggregates.length)) := by
  obtain ⟨j, hj, rfl⟩ := List.getElem_of_mem h
  refine List.mem_filterMap.2 ⟨j, List.mem_eraseDups.2 (List.mem_map.2 ⟨rules.keys.length + j, ?_, ?_⟩),
    List.getElem?_eq_getElem hj⟩
  · exact List.mem_filter.2 ⟨List.mem_range.2 (by omega), by simp⟩
  · omega

namespace Table

/-- A table that has a plan: its columns are those of the plan, there is one, and no key and no
aggregate reads a column that is deleted. -/
structure Evaluable (t : Table) : Prop where
  plan : ∀ formatted, ∃ p, t.plan {} formatted = .ok p ∧ t.names = .ok p.names ∧ p.names ≠ []
  keys : ∀ key ∈ t.rules.keys, t.catalog.isLiveAt key.slot = true
  sources : ∀ a ∈ t.rules.aggregates, t.catalog.isLiveAt a.source = true

variable {t : Table}

theorem chosenNames_default (names : List Value) : ({} : RunOptions).chosenNames names = .ok none :=
  rfl

/-- The plan of a table of groups that chooses no columns. -/
theorem plan_of_groupWork {formatted : Bool} {names all : List Value} {work : PlanWork}
    (hgroups : t.rules.makesGroups = true) (hnames : t.names = .ok all)
    (h : t.groupWork none formatted = .ok (names, work)) :
    t.plan {} formatted = .ok { names, options := {}, batchSize := t.batchSize, work } := by
  simp only [Table.plan, hnames, ok_bind, chosenNames_default, hgroups, if_true, h]

/-- The plan of a table of rows that chooses no columns. -/
theorem plan_of_rowWork {formatted : Bool} {names all : List Value} {work : PlanWork}
    (hrows : t.rules.makesGroups = false) (hnames : t.names = .ok all)
    (h : t.rowWork none formatted = .ok (names, work)) :
    t.plan {} formatted = .ok { names, options := {}, batchSize := t.batchSize, work } := by
  simp only [Table.plan, hnames, ok_bind, chosenNames_default, hrows, Bool.false_eq_true, if_false, h]

/-- A table that makes groups and has a plan. -/
theorem evaluable_of_groups {planned : GroupPlan} (hgroups : t.rules.makesGroups = true)
    (hplan : GroupSchema.plan t.catalog t.rules none = .ok planned) : t.Evaluable := by
  obtain ⟨all, positions, hall, hpositions⟩ := GroupSchema.exists_positions_of_plan hplan
  obtain ⟨hsome, hkeys, hsources, hplanned⟩ := (GroupSchema.plan_eq_ok_iff hall hpositions).1 hplan
  obtain rfl : List.range all.length = positions := Except.ok.inj hpositions
  have hsame : planned.names = all := by
    rw [hplanned, GroupSchema.planned]
    exact List.ext_getElem (by simp) fun i h _ => by simp_all
  have hthere : t.names = .ok all := by rw [Table.names, hgroups, if_pos rfl, hall]
  have hwork : ∀ formatted, t.groupWork none formatted = .ok (all,
      .groups t.source (RowTransform.ofTable t.catalog t.rules false)
        (if formatted then planned else { planned with formatters := [] })) := by
    intro formatted
    rw [groupWork, hplan]
    cases formatted <;> simp [hsame]
  refine ⟨fun formatted => ⟨_, plan_of_groupWork hgroups hthere (hwork formatted), hthere, ?_⟩, hkeys,
    fun a ha => hsources a ?_⟩
  · rintro rfl
    exact hsome rfl
  · rw [GroupSchema.length_of_names hall]
    exact RowRules.mem_neededAggregates ha

/-- A table that puts out rows and has a column. -/
theorem evaluable_of_rows (hrows : t.rules.makesGroups = false) (hlive : t.catalog.live ≠ []) :
    t.Evaluable := by
  obtain ⟨hkeys, haggregates⟩ : t.rules.keys = [] ∧ t.rules.aggregates = [] := by
    simpa [RowRules.makesGroups, RowRules.isGrouped, RowRules.isAggregate] using hrows
  have hthere : t.names = .ok t.catalog.names := by simp [Table.names, hrows]
  have hwork : ∀ formatted, t.rowWork none formatted = .ok (t.catalog.names,
      .rows t.source (RowTransform.ofTable t.catalog t.rules formatted) t.catalog.live) := by
    simp [rowWork, chosenSlots, hlive, Catalog.names]
  refine ⟨fun formatted => ⟨_, plan_of_rowWork hrows hthere (hwork formatted), hthere, ?_⟩, ?_, ?_⟩
  · simpa [Catalog.names] using hlive
  · simp [hkeys]
  · simp [haggregates]

theorem evaluable_of_plan {formatted : Bool} {p : Plan} (h : t.plan {} formatted = .ok p) :
    t.Evaluable := by
  unfold Table.plan at h
  obtain ⟨names, -, h⟩ := bind_eq_ok.1 h
  rw [chosenNames_default, ok_bind] at h
  cases hgroups : t.rules.makesGroups with
  | true =>
    simp only [hgroups, if_true] at h
    obtain ⟨_, hwork, -⟩ := bind_eq_ok.1 h
    obtain ⟨planned, hplan, -⟩ := bind_eq_ok.1 hwork
    exact evaluable_of_groups hgroups hplan
  | false =>
    simp only [hgroups, Bool.false_eq_true, if_false] at h
    obtain ⟨_, hwork, -⟩ := bind_eq_ok.1 h
    obtain ⟨slots, hslots, hwork⟩ := bind_eq_ok.1 hwork
    obtain rfl : t.catalog.live = slots := Except.ok.inj hslots
    exact evaluable_of_rows hgroups (by simpa using (guard_eq_ok.1 hwork).1)

/-- A dry run that ends well has a plan. -/
theorem exists_plan_of_dryRun {store : Store} {call : GuardedCall} {plan : Except Fault Plan}
    (h : dryRun store call plan = .ok ()) : ∃ p, plan = .ok p := by
  cases plan with
  | error fault => cases h
  | ok p => exact ⟨p, rfl⟩

/-! ### Edits -/

/-- An edit that takes place leaves a table that can be evaluated. -/
theorem evaluable_of_edit {store : Store} {e : Edit} (h : (t.edit store e).1 = .ok ()) :
    (t.edit store e).2.Evaluable := by
  obtain ⟨p, hp⟩ := exists_plan_of_dryRun (dryRun_of_edit h)
  exact evaluable_of_plan hp

/-- An edit changes nothing of a table but its catalog and its rules. -/
theorem framed_edit (t : Table) (store : Store) (e : Edit) :
    ∃ catalog rules, (t.edit store e).2 = { t with catalog, rules } := by
  have hframed : Edit.Framed (attempt store e) :=
    Edit.framed_bind (Edit.framed_steps e) fun _ => Edit.framed_ask _
  obtain ⟨catalog, rules, hleft⟩ := hframed t
  unfold edit
  unfold Edit.left at hleft
  rcases hattempt : attempt store e t with ⟨fault | ⟨⟩, changed⟩
  · rw [hattempt] at hleft
    obtain rfl : changed = _ := hleft
    exact ⟨t.catalog, t.rules, rfl⟩
  · rw [hattempt] at hleft
    exact ⟨catalog, rules, hleft⟩

/-- An edit that fails leaves the table as it was, and not only its catalog and rules. -/
theorem edit_eq_of_error {store : Store} {e : Edit} {fault : Fault}
    (h : (t.edit store e).1 = .error fault) : (t.edit store e).2 = t := by
  obtain ⟨hcatalog, hrules⟩ := edit_of_error h
  obtain ⟨catalog, rules, hframed⟩ := framed_edit t store e
  rw [hframed] at hcatalog hrules ⊢
  obtain rfl : catalog = t.catalog := hcatalog
  obtain rfl : rules = t.rules := hrules
  rfl

theorem Evaluable.edit (h : t.Evaluable) (store : Store) (e : Edit) :
    (t.edit store e).2.Evaluable := by
  cases hedit : (t.edit store e).1 with
  | ok _ => exact evaluable_of_edit hedit
  | error fault => rwa [edit_eq_of_error hedit]

theorem Evaluable.after (h : t.Evaluable) (history : List (Store × Edit)) :
    (t.after history).Evaluable := by
  induction history generalizing t with
  | nil => exact h
  | cons call rest ih => exact ih (h.edit call.1 call.2)

/-- The edits of a history that took place. -/
def taken (t : Table) : List (Store × Edit) → List (Store × Edit)
  | [] => []
  | (store, e) :: rest =>
    match (t.edit store e).1 with
    | .ok () => (store, e) :: (t.edit store e).2.taken rest
    | .error _ => (t.edit store e).2.taken rest

/-- The edits that failed might as well not have been tried. -/
theorem after_taken (t : Table) (history : List (Store × Edit)) :
    t.after (t.taken history) = t.after history := by
  induction history generalizing t with
  | nil => rfl
  | cons call rest ih =>
    obtain ⟨store, e⟩ := call
    rw [Table.after, taken]
    cases hedit : (t.edit store e).1 with
    | ok _ => exact ih _
    | error fault => rw [edit_eq_of_error hedit]; exact ih t

/-- An edit that fails, in its steps or in the dry run, leaves the table that there was. After one
that takes place the table has a plan with at least one column, and no key and no aggregate reads a
deleted column; this stays so whatever is tried later. -/
theorem edit_whole_or_not (t : Table) (store : Store) (e : Edit) :
    (∀ fault, (t.edit store e).1 = .error fault → (t.edit store e).2 = t) ∧
    ((t.edit store e).1 = .ok () →
      ∀ later, ((t.edit store e).2.after later).Evaluable) :=
  ⟨fun _ h => edit_eq_of_error h, fun h later => (evaluable_of_edit h).after later⟩

end Table

/-- The sample with its third column, grouped by that column. -/
def keyedTable : Table := { derivedTable with rules := { keys := [{ slot := 2 }] } }

/-- The column of a key can be deleted, but then there is no plan, and the column is back. -/
theorem edit_whole_or_not_sample :
    (Ends (Edit.steps (.delete (.text "w"))) keyedTable ()
      { keyedTable with catalog := keyedTable.catalog.setSlot 2 ({ · with deleted := true }) } ∧
      (∃ fault, (keyedTable.edit sampleStore (.delete (.text "w"))).1 = .error fault) ∧
      (keyedTable.edit sampleStore (.delete (.text "w"))).2 = keyedTable) ∧
    (sampleTable.edit sampleStore (.operate (.func marked) (.text "v") (.text "w"))).1 = .ok () ∧
      (derivedTable.after sampleHistory).Evaluable := by
  have hrefused : ∃ fault, (keyedTable.edit sampleStore (.delete (.text "w"))).1 = .error fault :=
    ⟨_, rfl⟩
  have hderived : sampleTable.edit sampleStore
      (.operate (.func marked) (.text "v") (.text "w")) = (.ok (), derivedTable) :=
    Table.edit_of_steps rfl (dryRun_sample rfl rfl rfl)
  have htaken := (Table.edit_whole_or_not sampleTable sampleStore
    (.operate (.func marked) (.text "v") (.text "w"))).2
  rw [hderived] at htaken ⊢
  obtain ⟨fault, hfault⟩ := hrefused
  have hback := (Table.edit_whole_or_not keyedTable sampleStore (.delete (.text "w"))).1 fault hfault
  exact ⟨⟨rfl, ⟨fault, hfault⟩, hback⟩, rfl, htaken rfl sampleHistory⟩

end TablePipeline
