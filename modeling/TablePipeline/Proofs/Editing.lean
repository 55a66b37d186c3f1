import Mathlib
import TablePipeline.Proofs.ColumnNames
import TablePipeline.Proofs.Distinct
import TablePipeline.Table.Edit

/-!
What edits do to a table. A call that takes place has passed all of its checks, and what it has then
made of a catalog or a table is said once for each call. A catalog only grows: operations are added to
the end, and no slot is taken away, so the slots that an operation or a filter was declared for stay
what they were, however columns are renamed, moved, deleted or given other types later. An edit that
fails leaves nothing behind.
-/
namespace TablePipeline

/-! ### Steps that end well -/

section Steps

variable {σ α β : Type} {s s' : σ}

/-- A step that starts in one state ends well, with a result and another state. -/
def Ends (x : ExceptT Fault (StateM σ) α) (s : σ) (a : α) (s' : σ) : Prop :=
  let result : Except Fault α × σ := x s
  result = (.ok a, s')

/-- Steps one after the other end well if each of them does. -/
@[simp] theorem ends_bind {x : ExceptT Fault (StateM σ) α} {f : α → ExceptT Fault (StateM σ) β}
    {b : β} : Ends (x >>= f) s b s' ↔ ∃ a t, Ends x s a t ∧ Ends (f a) t b s' := by
  have hbind : (x >>= f) s =
      match x s with
      | (.ok a, t) => f a t
      | (.error fault, t) => (.error fault, t) := by
    rcases hx : x s with ⟨a | a, t⟩
    · simp only [bind, ExceptT.bind, ExceptT.mk, ExceptT.bindCont, StateT.bind, hx]
      rfl
    · simp only [bind, ExceptT.bind, ExceptT.mk, ExceptT.bindCont, StateT.bind, hx]
  unfold Ends
  rw [hbind]
  rcases x s with ⟨fault | a, t⟩ <;> simp

@[simp] theorem ends_pure {a b : α} :
    Ends (pure a : ExceptT Fault (StateM σ) α) s b s' ↔ a = b ∧ s = s' := by
  have h : (pure a : ExceptT Fault (StateM σ) α) s = (.ok a, s) := rfl
  simp [Ends, h]

@[simp] theorem ends_throw {fault : Fault} {a : α} :
    ¬Ends (throw fault : ExceptT Fault (StateM σ) α) s a s' := by
  have h : (throw fault : ExceptT Fault (StateM σ) α) s = (.error fault, s) := rfl
  simp [Ends, h]

@[simp] theorem ends_get {a : σ} :
    Ends (get : ExceptT Fault (StateM σ) σ) s a s' ↔ s = a ∧ s = s' := by
  have h : (get : ExceptT Fault (StateM σ) σ) s = (.ok s, s) := rfl
  simp [Ends, h]

@[simp] theorem ends_set {t : σ} {u : PUnit} :
    Ends (set t : ExceptT Fault (StateM σ) PUnit) s u s' ↔ t = s' := by
  have h : (set t : ExceptT Fault (StateM σ) PUnit) s = (.ok ⟨⟩, t) := rfl
  simp [Ends, h]

@[simp] theorem ends_modify {f : σ → σ} {u : PUnit} :
    Ends (modify f : ExceptT Fault (StateM σ) PUnit) s u s' ↔ f s = s' := by
  have h : (modify f : ExceptT Fault (StateM σ) PUnit) s = (.ok ⟨⟩, f s) := rfl
  simp [Ends, h]

/-- A check that fails ends what comes after it. -/
@[simp] theorem ends_guard {p : Prop} [Decidable p] {fault : Fault} {x : ExceptT Fault (StateM σ) α}
    {a : α} :
    Ends (if p then (throw fault : ExceptT Fault (StateM σ) PUnit) >>= fun _ => x else x) s a s' ↔
      ¬p ∧ Ends x s a s' := by
  by_cases h : p <;> simp [h]

@[simp] theorem ends_throw_else {p : Prop} [Decidable p] {fault : Fault}
    {x : ExceptT Fault (StateM σ) α} {a : α} :
    Ends (if p then throw fault else x) s a s' ↔ ¬p ∧ Ends x s a s' := by
  by_cases h : p <;> simp [h]

end Steps

@[simp] theorem Change.ends_ask {α : Type} {question : Catalog → Except Fault α} {c c' : Catalog}
    {a : α} : Ends (Change.ask question) c a c' ↔ question c = .ok a ∧ c = c' := by
  simp only [Change.ask, ends_bind, ends_get]
  constructor
  · rintro ⟨_, _, ⟨rfl, rfl⟩, h⟩
    cases hq : question c <;> simp_all
  · rintro ⟨h, rfl⟩
    exact ⟨c, c, ⟨rfl, rfl⟩, by simp [h]⟩

@[simp] theorem Edit.ends_ask {α : Type} {question : Table → Except Fault α} {t t' : Table} {a : α} :
    Ends (Edit.ask question) t a t' ↔ question t = .ok a ∧ t = t' := by
  simp only [Edit.ask, ends_bind, ends_get]
  constructor
  · rintro ⟨_, _, ⟨rfl, rfl⟩, h⟩
    cases hq : question t <;> simp_all
  · rintro ⟨h, rfl⟩
    exact ⟨t, t, ⟨rfl, rfl⟩, by simp [h]⟩

@[simp] theorem Edit.ends_onCatalog {α : Type} {change : Change α} {t t' : Table} {a : α} :
    Ends (Edit.onCatalog change) t a t' ↔
      ∃ c, Ends change t.catalog a c ∧ { t with catalog := c } = t' := by
  have h : (Edit.onCatalog change) t =
      ((change t.catalog).1, { t with catalog := (change t.catalog).2 }) := rfl
  unfold Ends
  rw [h]
  rcases change t.catalog with ⟨fault | b, c⟩ <;> simp

/-! ### What a call does when it takes place -/

namespace Catalog

variable {c c' : Catalog} {u : Unit}

theorem ends_retype {slot : ℕ} {type : ColumnType} {parser : Func} :
    Ends (retype slot type parser) c u c' ↔ (∃ s : Slot, c.slots[slot]? = some s ∧ s.source = true) ∧
      c.setSlot slot (fun s => { s with type, parser? := some parser }) = c' := by
  simp only [retype, ends_bind, ends_get]
  constructor
  · rintro ⟨_, _, ⟨rfl, rfl⟩, h⟩
    cases hslot : c.slots[slot]? with
    | none => simp [hslot] at h
    | some s => cases hsource : s.source <;> simp_all
  · rintro ⟨⟨s, hslot, hsource⟩, rfl⟩
    exact ⟨c, c, ⟨rfl, rfl⟩, by simp [hslot, hsource]⟩

/-- A type that is set parses the fields of a column of the file, and formats its values. -/
theorem ends_setType {type column : Arg} :
    Ends (setType type column) c u c' ↔ ∃ (kind : ColumnType) (slot : ℕ),
      ColumnType.ofArg type = .ok kind ∧ c.slotOf column = .ok slot ∧
      (∃ s : Slot, c.slots[slot]? = some s ∧ s.source = true) ∧
      (c.setSlot slot fun s => { s with type := kind, parser? := some kind.parser }).putFormatter
        slot kind.formatter = c' := by
  simp [setType, Change.check, ends_retype]

theorem ends_setParser {parser column : Arg} :
    Ends (setParser parser column) c u c' ↔ ∃ (f : Func) (slot : ℕ),
      parser = .func f ∧ c.slotOf column = .ok slot ∧
      (∃ s : Slot, c.slots[slot]? = some s ∧ s.source = true) ∧
      (c.setSlot slot fun s => { s with type := .raw, parser? := some f }).removeFormatter slot =
        c' := by
  cases parser <;> simp [setParser, ends_retype]

theorem ends_setFormatter {formatter column : Arg} :
    Ends (setFormatter formatter column) c u c' ↔ ∃ (f : Func) (slot : ℕ),
      formatter = .func f ∧ c.slotOf column = .ok slot ∧ c.putFormatter slot f = c' := by
  cases formatter <;> simp [setFormatter]

theorem ends_delete {φ : Type} [FunctionText φ] {columns : Datum φ} :
    Ends (delete columns) c u c' ↔ ∃ slots, c.resolve columns = .ok slots ∧
      slots.foldl (fun c slot => c.setSlot slot fun s => { s with deleted := true }) c = c' := by
  simp [delete]

/-- A list has as many items when repeated ones are dropped only if none is repeated. -/
theorem length_eraseDups_eq_iff {slots : List ℕ} :
    slots.eraseDups.length = slots.length ↔ slots.Nodup := by
  have hnodup : slots.eraseDups.Nodup := by
    refine (pairwise_eraseDupsBy slots).imp fun {a b} h => ?_
    exact fun hab => (beq_eq_false_iff_ne.1 h) hab.symm
  constructor
  · intro hlength
    have hsub : slots.eraseDups.Subperm slots :=
      List.subperm_of_subset hnodup fun _ h => List.mem_eraseDups.1 h
    exact (hsub.perm_of_length_le hlength.ge).nodup_iff.1 hnodup
  · intro h
    have hsub : slots.Subperm slots.eraseDups :=
      List.subperm_of_subset h fun _ h => List.mem_eraseDups.2 h
    have hback : slots.eraseDups.Subperm slots :=
      List.subperm_of_subset hnodup fun _ h => List.mem_eraseDups.1 h
    exact le_antisymm hback.length_le hsub.length_le

/-- The slots of the columns that items name one by one. -/
def front (c : Catalog) (items : List Arg) : List ℕ := items.filterMap (c.slotOfItem? c.live)

theorem ends_reorder {newOrder : Arg} :
    Ends (reorder newOrder) c u c' ↔ ∃ items, newOrder.elements = .ok items ∧
      items.length = c.live.length ∧ (∀ item ∈ items, Datum.unhashable? item = none) ∧
      (c.front items).length = items.length ∧ (c.front items).Nodup ∧
      { c with order := c.front items ++ c.order.filter fun slot => !c.isLive slot } = c' := by
  simp only [reorder, Change.check, ends_bind, Change.ends_ask, ends_get, ends_guard, ends_modify,
    mapError_eq_ok, Names.forM_requireKey_eq_ok, ← length_eraseDups_eq_iff]
  constructor
  · rintro ⟨items, _, ⟨helements, rfl⟩, _, _, ⟨rfl, rfl⟩, hlength, _, _, ⟨hkeys, rfl⟩, hfront, hc'⟩
    simp only [bne_iff_ne, ne_eq, Decidable.not_not, Bool.or_eq_true, not_or] at hlength hfront
    exact ⟨items, helements, hlength, hkeys, hfront.1, hfront.2, hc'⟩
  · rintro ⟨items, helements, hlength, hkeys, hall, honce, hc'⟩
    have hpassed : ¬((c.front items).length != items.length ||
        (c.front items).eraseDups.length != (c.front items).length) = true := by
      rw [honce, hall]
      simp
    exact ⟨items, c, ⟨helements, rfl⟩, c, c, ⟨rfl, rfl⟩, by simpa using hlength, (), c,
      ⟨hkeys, rfl⟩, hpassed, hc'⟩

theorem ends_rename {newNames : Arg} :
    Ends (rename newNames) c u c' ↔ ∃ items names kept, newNames.elements = .ok items ∧
      items.length = c.live.length ∧ newNames? items = some names ∧
      Names.distinct items = .ok kept ∧
      (c.live.zip names).foldl (fun c a => c.setSlot a.1 fun s => { s with name := .text a.2 }) c =
        c' := by
  simp only [rename, Change.check, ends_bind, Change.ends_ask, ends_get, ends_guard, mapError_eq_ok,
    bne_iff_ne, ne_eq, Decidable.not_not]
  constructor
  · rintro ⟨items, _, ⟨hitems, rfl⟩, _, _, ⟨rfl, rfl⟩, hlength, h⟩
    cases hnames : newNames? items with
    | none => simp [hnames] at h
    | some names =>
      simp only [hnames, ends_bind, Change.ends_ask, ends_modify] at h
      obtain ⟨kept, _, ⟨hkept, rfl⟩, rfl⟩ := h
      exact ⟨items, names, kept, hitems, hlength, hnames, hkept, rfl⟩
  · rintro ⟨items, names, kept, hitems, hlength, hnames, hkept, rfl⟩
    refine ⟨items, c, ⟨hitems, rfl⟩, c, c, ⟨rfl, rfl⟩, hlength, ?_⟩
    simp only [hnames, ends_bind, Change.ends_ask, ends_modify]
    exact ⟨kept, c, ⟨hkept, rfl⟩, rfl⟩

/-- A catalog with one more slot, for a column that is made by an operation. -/
def withDerived (c : Catalog) (name : String) : Catalog :=
  { c with
    slots := c.slots ++ [{ name := .text name, type := .raw, source := false }]
    order := c.order ++ [c.width] }

@[simp] theorem width_withDerived (c : Catalog) (name : String) :
    (c.withDerived name).width = c.width + 1 := by
  simp [withDerived, width]

theorem ends_addDerived {name : String} {output : ℕ} :
    Ends (addDerived name) c output c' ↔ c.width = output ∧ c.withDerived name = c' := by
  simp only [addDerived, ends_bind, ends_get, ends_modify, ends_pure]
  constructor
  · rintro ⟨_, _, ⟨rfl, rfl⟩, _, _, rfl, rfl, rfl⟩
    exact ⟨rfl, rfl⟩
  · rintro ⟨rfl, rfl⟩
    exact ⟨c, c, ⟨rfl, rfl⟩, (), _, rfl, rfl, rfl⟩

/-- The slot that an operation writes is that of its only column, or a new one at the end. -/
theorem ends_outputSlot {inputs : List ℕ} {newName : Arg} {output : ℕ} :
    Ends (outputSlot inputs newName) c output c' ↔
      (newName = .null ∧ inputs = [output] ∧ c = c') ∨
      ∃ name, newName = .text name ∧ name ≠ "" ∧ c.slotNamed? name = none ∧ c.width = output ∧
        c.withDerived name = c' := by
  cases newName with
  | null =>
    rcases inputs with _ | ⟨slot, _ | ⟨slot', rest⟩⟩ <;> simp [outputSlot]
  | text name =>
    simp only [outputSlot, ends_throw_else, ends_bind, ends_get, ends_addDerived]
    simp
  | _ => simp [outputSlot]

/-- An operation is added behind those that there were, once its slot is there. -/
theorem ends_operate {func columns newName : Arg} {output : ℕ} :
    Ends (operate func columns newName) c output c' ↔ ∃ (f : Func) (inputs : List ℕ) (made : Catalog),
      func = .func f ∧ c.resolve columns = .ok inputs ∧
      Ends (outputSlot inputs newName) c output made ∧
      { made with operations := made.operations ++ [{ func := f, inputs, output }] } = c' := by
  cases func with
  | func f =>
    simp only [operate, ends_bind, Change.ends_ask, ends_modify, ends_pure]
    constructor
    · rintro ⟨inputs, _, ⟨hinputs, rfl⟩, _, made, hmade, _, _, rfl, rfl, rfl⟩
      exact ⟨f, inputs, made, rfl, hinputs, hmade, rfl⟩
    · rintro ⟨_, inputs, made, ⟨⟩, hinputs, hmade, rfl⟩
      exact ⟨inputs, c, ⟨hinputs, rfl⟩, output, made, hmade, (), _, rfl, rfl, rfl⟩
  | _ => simp [operate]

end Catalog

/-- Aggregates that are added one by one come behind those that there were. -/
theorem RowRules.foldl_addAggregate {α : Type} (rule : α → AggregateRule) (as : List α)
    (rules : RowRules) :
    as.foldl (fun rules a => rules.addAggregate (rule a)) rules =
      { rules with aggregates := rules.aggregates ++ as.map rule } := by
  induction as generalizing rules with
  | nil => simp
  | cons a as ih =>
    rw [List.foldl_cons, ih]
    simp [addAggregate]

namespace Edit

variable {t t' : Table} {u : Unit}

@[simp] theorem ends_onRules {f : RowRules → RowRules} :
    Ends (onRules f) t u t' ↔ { t with rules := f t.rules } = t' :=
  ends_modify

theorem ends_operate {func columns newName : Arg} :
    Ends (steps (.operate func columns newName)) t u t' ↔ ∃ output c,
      Ends (Catalog.operate func columns newName) t.catalog output c ∧
      { t with catalog := c } = t' := by
  simp only [steps, ends_bind, ends_onCatalog, ends_pure]
  constructor
  · rintro ⟨output, _, ⟨c, hc, rfl⟩, -, rfl⟩
    exact ⟨output, c, hc, rfl⟩
  · rintro ⟨output, c, hc, rfl⟩
    exact ⟨output, _, ⟨c, hc, rfl⟩, trivial, rfl⟩

theorem ends_addFilter {columns predicate : Arg} :
    Ends (addFilter columns predicate) t u t' ↔ ∃ f slots, predicate = .func f ∧
      t.catalog.resolve columns = .ok slots ∧
      { t with
        rules := t.rules.addFilter
          { columns := slots, predicate := f, position := t.catalog.operations.length } } = t' := by
  cases predicate with
  | func f =>
    simp only [addFilter, ends_bind, ends_ask, ends_get, ends_onRules]
    constructor
    · rintro ⟨slots, _, ⟨hslots, rfl⟩, _, _, ⟨rfl, rfl⟩, rfl⟩
      exact ⟨f, slots, rfl, hslots, rfl⟩
    · rintro ⟨_, slots, ⟨⟩, hslots, rfl⟩
      exact ⟨slots, t, ⟨hslots, rfl⟩, t, t, ⟨rfl, rfl⟩, rfl⟩
  | _ => simp [addFilter]

theorem ends_setKeys {keys : Arg} :
    Ends (setKeys keys) t u t' ↔ ∃ entries slots, KeyEntry.listOf "group-by" keys = .ok entries ∧
      t.catalog.resolveNames (entries.map (·.name)) = .ok slots ∧
      { t with rules := { t.rules with keys := (entries.zip slots).map fun entry =>
        { slot := entry.2, collation? := entry.1.collation? } } } = t' := by
  simp only [setKeys, ends_bind, ends_ask, ends_onRules]
  constructor
  · rintro ⟨entries, _, ⟨hentries, rfl⟩, slots, _, ⟨hslots, rfl⟩, rfl⟩
    exact ⟨entries, slots, hentries, hslots, rfl⟩
  · rintro ⟨entries, slots, hentries, hslots, rfl⟩
    exact ⟨entries, t, ⟨hentries, rfl⟩, slots, t, ⟨hslots, rfl⟩, rfl⟩

/-- Aggregates come behind those that there were, under names that are not taken. -/
theorem ends_addAggregates {func columns newNames : Arg} :
    Ends (addAggregates func columns newNames) t u t' ↔ ∃ f slots names,
      Aggregate.resolve func = .ok f ∧ t.catalog.resolve columns = .ok slots ∧
      aggregateNames func columns.asList newNames = names ∧ names.length = slots.length ∧
      areFresh names (t.catalog.names ++ t.rules.aggregateNames) = true ∧
      { t with rules := { t.rules with aggregates := t.rules.aggregates ++
        (slots.zip (names.filterMap Datum.text?)).map fun a =>
          { func := f, source := a.1, name := .text a.2 } } } = t' := by
  have hrules (f : _) := RowRules.foldl_addAggregate
    (fun a : ℕ × String => ({ func := f, source := a.1, name := .text a.2 } : AggregateRule))
  simp only [addAggregates, ends_bind, ends_ask, ends_get, ends_guard, ends_onRules, hrules]
  constructor
  · rintro ⟨f, _, ⟨hf, rfl⟩, slots, _, ⟨hslots, rfl⟩, hcount, _, _, ⟨rfl, rfl⟩, hfresh, rfl⟩
    exact ⟨f, slots, _, hf, hslots, rfl, by simpa using hcount, by simpa using hfresh, rfl⟩
  · rintro ⟨f, slots, _, hf, hslots, rfl, hcount, hfresh, rfl⟩
    exact ⟨f, t, ⟨hf, rfl⟩, slots, t, ⟨hslots, rfl⟩, by simpa using hcount, t, t, ⟨rfl, rfl⟩,
      by simpa using hfresh, rfl⟩

/-- Keeping columns is deleting those that are left over, if there are any. -/
theorem ends_keepOnly {columns : Arg} :
    Ends (keepOnly columns) t u t' ↔ ∃ keep drop, t.catalog.resolve columns = .ok keep ∧
      (t.catalog.live.filter fun slot => !keep.contains slot).map t.catalog.nameOf = drop ∧
      (drop = [] ∧ t = t' ∨
        drop ≠ [] ∧ Ends (onCatalog (Catalog.delete (Datum.list drop))) t u t') := by
  simp only [keepOnly, ends_bind, ends_ask, ends_get]
  constructor
  · rintro ⟨keep, _, ⟨hkeep, rfl⟩, _, _, ⟨rfl, rfl⟩, h⟩
    refine ⟨keep, _, hkeep, rfl, ?_⟩
    split at h
    · next hdrop => exact .inr ⟨by simpa using hdrop, h⟩
    · next hdrop => exact .inl ⟨by simpa using hdrop, (ends_pure.1 h).2⟩
  · rintro ⟨keep, _, hkeep, rfl, ⟨hdrop, rfl⟩ | ⟨hdrop, h⟩⟩
    · refine ⟨keep, t, ⟨hkeep, rfl⟩, t, t, ⟨rfl, rfl⟩, ?_⟩
      rw [if_neg (by simpa using hdrop)]
      exact ends_pure.2 ⟨rfl, rfl⟩
    · refine ⟨keep, t, ⟨hkeep, rfl⟩, t, t, ⟨rfl, rfl⟩, ?_⟩
      rwa [if_pos (by simpa using hdrop)]

end Edit

/-! ### Catalogs that grow -/

namespace Catalog

/-- The formatters stand under different slots, all of which there are. -/
def Formats (c : Catalog) : Prop :=
  (c.formatters.map (·.1)).Nodup ∧ ∀ slot ∈ c.formatters.map (·.1), slot < c.width

/-- A catalog comes from another one by changes that add some operations. -/
structure Extends (c c' : Catalog) (added : List Operation) : Prop where
  operations : c'.operations = c.operations ++ added
  sourceWidth : c'.sourceWidth = c.sourceWidth
  width : c.width ≤ c'.width
  formats : c.Formats → c'.Formats

variable {c c' c'' : Catalog}

theorem Extends.refl (c : Catalog) : c.Extends c [] :=
  ⟨(List.append_nil _).symm, rfl, le_refl _, id⟩

theorem Extends.trans {added added' : List Operation} (h : c.Extends c' added)
    (h' : c'.Extends c'' added') : c.Extends c'' (added ++ added') where
  operations := by rw [h'.operations, h.operations, List.append_assoc]
  sourceWidth := h'.sourceWidth.trans h.sourceWidth
  width := h.width.trans h'.width
  formats hc := h'.formats (h.formats hc)

theorem lt_width_of_isLive {slot : ℕ} (h : c.isLive slot = true) : slot < c.width := by
  unfold isLive at h
  cases hslot : c.slots[slot]? with
  | none => simp [hslot] at h
  | some s => exact (List.getElem?_eq_some_iff.1 hslot).1

theorem lt_width_of_slotNamed? {name : String} {slot : ℕ} (h : c.slotNamed? name = some slot) :
    slot < c.width :=
  lt_width_of_isLive (List.mem_filter.1 (List.mem_of_find?_eq_some h)).2

theorem lt_width_of_slotOf {arg : Arg} {slot : ℕ} (h : c.slotOf arg = .ok slot) : slot < c.width := by
  unfold slotOf at h
  cases hslot : arg.text?.bind c.slotNamed? with
  | none => simp [hslot] at h
  | some there =>
    obtain ⟨name, -, hname⟩ := Option.bind_eq_some_iff.1 hslot
    obtain rfl : there = slot := by simpa [hslot] using h
    exact lt_width_of_slotNamed? hname

theorem lt_width_of_resolve {φ : Type} [FunctionText φ] {arg : Datum φ} {slots : List ℕ}
    (h : c.resolve arg = .ok slots) : ∀ slot ∈ slots, slot < c.width := by
  intro slot hslot
  simp only [resolve] at h
  split_ifs at h
  obtain rfl := Except.ok.inj h
  obtain ⟨⟨d, slot?⟩, hd, rfl⟩ := List.mem_filterMap.1 hslot
  obtain ⟨_, -, hfound⟩ := List.mem_map.1 hd
  obtain ⟨name, -, hname⟩ := Option.bind_eq_some_iff.1 (Prod.mk.inj hfound).2
  exact lt_width_of_slotNamed? hname

theorem extends_setSlot (c : Catalog) (slot : ℕ) (f : Slot → Slot) :
    c.Extends (c.setSlot slot f) [] where
  operations := (List.append_nil _).symm
  sourceWidth := rfl
  width := by simp [width, setSlot]
  formats hc := ⟨hc.1, by simpa [width, setSlot] using hc.2⟩

theorem extends_foldl_setSlot {α : Type} (slot : α → ℕ) (f : α → Slot → Slot) (as : List α)
    (c : Catalog) : c.Extends (as.foldl (fun c a => c.setSlot (slot a) (f a)) c) [] := by
  induction as generalizing c with
  | nil => exact .refl c
  | cons a as ih => exact (extends_setSlot c (slot a) (f a)).trans (ih _)

theorem extends_removeFormatter (c : Catalog) (slot : ℕ) :
    c.Extends (c.removeFormatter slot) [] where
  operations := (List.append_nil _).symm
  sourceWidth := rfl
  width := le_refl _
  formats hc := by
    have hsub := (List.filter_sublist (p := fun f : ℕ × Func => f.1 != slot)
      (l := c.formatters)).map (·.1)
    exact ⟨hc.1.sublist hsub, fun there h => hc.2 there (hsub.subset h)⟩

/-- A formatter that is set replaces the one that its slot has had. -/
theorem extends_putFormatter {slot : ℕ} (h : slot < c.width) (f : Func) :
    c.Extends (c.putFormatter slot f) [] where
  operations := (List.append_nil _).symm
  sourceWidth := rfl
  width := le_refl _
  formats hc := by
    have hrest := (extends_removeFormatter c slot).formats hc
    have hnew : slot ∉ (c.removeFormatter slot).formatters.map (·.1) := by
      simp [removeFormatter]
    have hslots : (c.putFormatter slot f).formatters.map (·.1) =
        (c.removeFormatter slot).formatters.map (·.1) ++ [slot] := by
      simp [putFormatter]
    refine ⟨?_, fun there hthere => ?_⟩
    · rw [hslots, List.nodup_append]
      exact ⟨hrest.1, List.nodup_singleton _, by simpa using fun a ha => ne_of_mem_of_not_mem ha hnew⟩
    · rw [hslots] at hthere
      rcases List.mem_append.1 hthere with hthere | hthere
      · exact hrest.2 there hthere
      · rwa [List.mem_singleton.1 hthere]

/-! ### Changes -/

theorem extends_setType {type column : Arg} {u : Unit} (h : Ends (setType type column) c u c') :
    c.Extends c' [] := by
  obtain ⟨kind, slot, -, hslot, -, rfl⟩ := ends_setType.1 h
  have hset := extends_setSlot c slot fun s => { s with type := kind, parser? := some kind.parser }
  exact hset.trans (extends_putFormatter ((lt_width_of_slotOf hslot).trans_le hset.width) _)

theorem extends_setParser {parser column : Arg} {u : Unit}
    (h : Ends (setParser parser column) c u c') : c.Extends c' [] := by
  obtain ⟨f, slot, -, -, -, rfl⟩ := ends_setParser.1 h
  exact (extends_setSlot c slot _).trans (extends_removeFormatter _ slot)

theorem extends_setFormatter {formatter column : Arg} {u : Unit}
    (h : Ends (setFormatter formatter column) c u c') : c.Extends c' [] := by
  obtain ⟨f, slot, -, hslot, rfl⟩ := ends_setFormatter.1 h
  exact extends_putFormatter (lt_width_of_slotOf hslot) f

theorem extends_delete {φ : Type} [FunctionText φ] {columns : Datum φ} {u : Unit}
    (h : Ends (delete columns) c u c') : c.Extends c' [] := by
  obtain ⟨slots, -, rfl⟩ := ends_delete.1 h
  exact extends_foldl_setSlot id (fun _ s => { s with deleted := true }) slots c

theorem extends_reorder {newOrder : Arg} {u : Unit} (h : Ends (reorder newOrder) c u c') :
    c.Extends c' [] := by
  obtain ⟨items, -, -, -, -, -, rfl⟩ := ends_reorder.1 h
  exact ⟨(List.append_nil _).symm, rfl, le_refl _, id⟩

theorem extends_rename {newNames : Arg} {u : Unit} (h : Ends (rename newNames) c u c') :
    c.Extends c' [] := by
  obtain ⟨items, names, kept, -, -, -, -, rfl⟩ := ends_rename.1 h
  exact extends_foldl_setSlot Prod.fst (fun a s => { s with name := .text a.2 }) _ c

/-- The slot that an operation writes: that of its only column, or a new one at the end. -/
def outputOf (c : Catalog) (inputs : List ℕ) : Arg → ℕ
  | .null => inputs.headD 0
  | _ => c.width

theorem extends_withDerived (c : Catalog) (name : String) :
    c.Extends (c.withDerived name) [] where
  operations := (List.append_nil _).symm
  sourceWidth := rfl
  width := by simp
  formats hc := ⟨hc.1, fun slot hslot => (hc.2 slot hslot).trans (by simp)⟩

theorem extends_outputSlot {inputs : List ℕ} {newName : Arg} {output : ℕ}
    (hinputs : ∀ slot ∈ inputs, slot < c.width) (h : Ends (outputSlot inputs newName) c output c') :
    c.Extends c' [] ∧ output = c.outputOf inputs newName ∧ output < c'.width := by
  rcases ends_outputSlot.1 h with ⟨rfl, rfl, rfl⟩ | ⟨name, rfl, -, -, rfl, rfl⟩
  · exact ⟨.refl c, rfl, hinputs _ List.mem_cons_self⟩
  · exact ⟨extends_withDerived c name, rfl, by simp⟩

/-- An operation is added for the slots that its columns have, and the slot that it writes. -/
theorem extends_operate {func columns newName : Arg} {output : ℕ}
    (h : Ends (operate func columns newName) c output c') :
    ∃ f inputs, func = .func f ∧ c.resolve columns = .ok inputs ∧
      output = c.outputOf inputs newName ∧
      c.Extends c' [{ func := f, inputs, output }] ∧
      ∀ slot ∈ output :: inputs, slot < c'.width := by
  obtain ⟨f, inputs, made, rfl, hinputs, hmade, rfl⟩ := ends_operate.1 h
  obtain ⟨hextends, houtput, hlt⟩ := extends_outputSlot (lt_width_of_resolve hinputs) hmade
  refine ⟨f, inputs, rfl, hinputs, houtput, ⟨?_, ?_, ?_, ?_⟩, ?_⟩
  · rw [hextends.operations, List.append_nil]
  · exact hextends.sourceWidth
  · exact hextends.width
  · exact hextends.formats
  · intro slot hslot
    rcases List.mem_cons.1 hslot with rfl | hslot
    · exact hlt
    · exact (lt_width_of_resolve hinputs slot hslot).trans_le hextends.width

end Catalog

/-! ### Edits -/

/-- What a call declares about every row: an operation, or a filter. -/
inductive Declaration where
  | operation (func : Func) (inputs : List ℕ) (output : ℕ)
  | filter (columns : List ℕ) (predicate : Func)

namespace Declaration

def slots : Declaration → List ℕ
  | operation _ inputs output => output :: inputs
  | filter columns _ => columns

def operations : List Declaration → List Operation
  | [] => []
  | operation func inputs output :: rest => { func, inputs, output } :: operations rest
  | filter _ _ :: rest => operations rest

/-- The filters, each with the number of operations before it; `i` operations came before all. -/
def filters : ℕ → List Declaration → List RowFilter
  | _, [] => []
  | i, operation _ _ _ :: rest => filters (i + 1) rest
  | i, filter columns predicate :: rest => { columns, predicate, position := i } :: filters i rest

end Declaration

/-- What an edit declares, if it takes place: the columns are meant that have the names now. -/
def Table.declared (t : Table) : Edit → List Declaration
  | .operate (.func f) columns newName =>
    match t.catalog.resolve columns with
    | .ok inputs => [.operation f inputs (t.catalog.outputOf inputs newName)]
    | .error _ => []
  | .filter columns (.func predicate) =>
    match t.catalog.resolve columns with
    | .ok slots => [.filter slots predicate]
    | .error _ => []
  | _ => []

namespace Edit

variable {t t' : Table} {u : Unit}

/-- A table comes from another one by an edit that declares something about its rows. -/
structure Leads (t t' : Table) (declared : List Declaration) : Prop where
  catalog : t.catalog.Extends t'.catalog (Declaration.operations declared)
  filters : t'.rules.filters =
    t.rules.filters ++ Declaration.filters t.catalog.operations.length declared
  slots : ∀ d ∈ declared, ∀ slot ∈ d.slots, slot < t'.catalog.width

/-- A change of the catalog alone. -/
theorem leads_onCatalog {α : Type} {change : Change α} {a : α}
    (hchange : ∀ c, Ends change t.catalog a c → t.catalog.Extends c [])
    (h : Ends (onCatalog change) t a t') : Leads t t' [] := by
  obtain ⟨c, hc, rfl⟩ := ends_onCatalog.1 h
  exact ⟨hchange c hc, (List.append_nil _).symm, by simp⟩

theorem leads_operate {func columns newName : Arg}
    (h : Ends (steps (.operate func columns newName)) t u t') :
    Leads t t' (t.declared (.operate func columns newName)) := by
  obtain ⟨output, c, hoperate, rfl⟩ := ends_operate.1 h
  obtain ⟨f, inputs, rfl, hinputs, rfl, hextends, hslots⟩ := Catalog.extends_operate hoperate
  simp only [Table.declared, hinputs]
  exact ⟨hextends, (List.append_nil _).symm, by simpa [Declaration.slots] using hslots⟩

theorem leads_filter {columns predicate : Arg} (h : Ends (steps (.filter columns predicate)) t u t') :
    Leads t t' (t.declared (.filter columns predicate)) := by
  obtain ⟨f, slots, rfl, hslots, rfl⟩ := ends_addFilter.1 h
  simp only [Table.declared, hslots]
  exact ⟨.refl _, rfl, by simpa [Declaration.slots] using Catalog.lt_width_of_resolve hslots⟩

/-- A change of the rules that keeps the filters. -/
theorem leads_onRules {rules : RowRules} (h : rules.filters = t.rules.filters) :
    Leads t { t with rules } [] :=
  ⟨.refl _, h.trans (List.append_nil _).symm, by simp⟩

/-- What an edit that takes place does to the operations and filters: it adds what it declares. -/
theorem leads_of_steps {e : Edit} (h : Ends e.steps t u t') : Leads t t' (t.declared e) := by
  cases e with
  | operate func columns newName => exact leads_operate h
  | filter columns predicate => exact leads_filter h
  | setType column type => exact leads_onCatalog (fun _ => Catalog.extends_setType) h
  | setParser column parser => exact leads_onCatalog (fun _ => Catalog.extends_setParser) h
  | setFormatter column formatter => exact leads_onCatalog (fun _ => Catalog.extends_setFormatter) h
  | delete columns => exact leads_onCatalog (fun _ => Catalog.extends_delete) h
  | reorder names => exact leads_onCatalog (fun _ => Catalog.extends_reorder) h
  | rename names => exact leads_onCatalog (fun _ => Catalog.extends_rename) h
  | groupBy keys =>
    obtain ⟨entries, slots, -, -, rfl⟩ := ends_setKeys.1 h
    exact leads_onRules rfl
  | aggregate func columns newNames =>
    obtain ⟨f, slots, names, -, -, -, -, -, rfl⟩ := ends_addAggregates.1 h
    exact leads_onRules rfl
  | select columns =>
    obtain ⟨keep, drop, -, -, ⟨-, rfl⟩ | ⟨-, h⟩⟩ := ends_keepOnly.1 h
    · exact leads_onRules rfl
    · exact leads_onCatalog (fun _ => Catalog.extends_delete) h

end Edit

namespace Table

variable {store : Store} {t t' : Table} {e : Edit}

/-- An edit takes place if its steps do and the changed table can be run on its first rows. -/
theorem edit_eq_ok_iff : t.edit store e = (.ok (), t') ↔
    Ends e.steps t () t' ∧ dryRun store e.call (t'.plan {} false) = .ok () := by
  have hattempt : Ends (attempt store e) t () t' ↔
      Ends e.steps t () t' ∧ dryRun store e.call (t'.plan {} false) = .ok () := by
    simp only [attempt, ends_bind, Edit.ends_ask]
    constructor
    · rintro ⟨_, _, hsteps, hrun, rfl⟩
      exact ⟨hsteps, hrun⟩
    · rintro ⟨hsteps, hrun⟩
      exact ⟨(), t', hsteps, hrun, rfl⟩
  rw [← hattempt]
  unfold Ends edit
  rcases attempt store e t with ⟨fault | ⟨⟩, changed⟩ <;> simp

theorem edit_of_steps (hsteps : e.steps t = (.ok (), t'))
    (hrun : dryRun store e.call (t'.plan {} false) = .ok ()) : t.edit store e = (.ok (), t') :=
  edit_eq_ok_iff.2 ⟨hsteps, hrun⟩

/-- An edit that takes place has done all of its steps. -/
theorem steps_of_edit (h : (t.edit store e).1 = .ok ()) : Ends e.steps t () (t.edit store e).2 :=
  (edit_eq_ok_iff.1 (Prod.ext h rfl)).1

/-- The dry run of an edit that takes place has ended well. -/
theorem dryRun_of_edit (h : (t.edit store e).1 = .ok ()) :
    dryRun store e.call ((t.edit store e).2.plan {} false) = .ok () :=
  (edit_eq_ok_iff.1 (Prod.ext h rfl)).2

theorem leads_of_edit (h : (t.edit store e).1 = .ok ()) :
    Edit.Leads t (t.edit store e).2 (t.declared e) :=
  Edit.leads_of_steps (steps_of_edit h)

/-- An edit that fails leaves catalog and rules as they were. -/
theorem edit_of_error {fault : Fault}
    (h : (t.edit store e).1 = .error fault) :
    (t.edit store e).2.catalog = t.catalog ∧ (t.edit store e).2.rules = t.rules := by
  unfold edit at h ⊢
  rcases hattempt : attempt store e t with ⟨fault | ⟨⟩, changed⟩
  · exact ⟨rfl, rfl⟩
  · simp [hattempt] at h

end Table

end TablePipeline
