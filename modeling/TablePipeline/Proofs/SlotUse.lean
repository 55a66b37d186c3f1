import Mathlib
import TablePipeline.Proofs.Layout
import TablePipeline.Proofs.Replay

/-!
What edits do to the slots of a row. Only a type or a parser that is set changes how a field is
parsed, and only an operation with a new name makes a slot, which it writes itself. What an edit
declares reads slots that were there before. So however edits follow each other, every operation and
every filter reads slots of the file or slots that an operation declared earlier writes, and there is
no slot that nothing writes.
-/
namespace TablePipeline

/-! ### Slots that are filled -/

namespace Declaration

/-- The slots that are read. -/
def reads : Declaration → List ℕ
  | operation _ inputs _ => inputs
  | filter columns _ => columns

/-- The slots that the operations among declarations write. -/
def writes (ds : List Declaration) : List ℕ := (operations ds).map (·.output)

/-- A slot has got a value when some declarations have been carried out: it is one of the first slots,
those of the file, or one that an operation has written. -/
def Filled (sourceWidth : ℕ) (before : List Declaration) (slot : ℕ) : Prop :=
  slot < sourceWidth ∨ slot ∈ writes before

/-- What is read has been filled before. -/
def Ordered (sourceWidth : ℕ) (ds : List Declaration) : Prop :=
  ∀ before d rest, ds = before ++ d :: rest → ∀ slot ∈ d.reads, Filled sourceWidth before slot

variable {n slot : ℕ} {ds es : List Declaration}

theorem reads_subset_slots (d : Declaration) : d.reads ⊆ d.slots := by
  cases d with
  | operation func inputs output => exact List.subset_cons_self ..
  | filter columns predicate => exact fun _ h => h

theorem writes_append (ds es : List Declaration) : writes (ds ++ es) = writes ds ++ writes es := by
  rw [writes, operations_append, List.map_append]
  rfl

/-- What is written is among the slots of a declaration. -/
theorem exists_of_mem_writes (h : slot ∈ writes ds) : ∃ d ∈ ds, slot ∈ d.slots := by
  induction ds with
  | nil => exact absurd h List.not_mem_nil
  | cons d ds ih =>
    cases d with
    | operation func inputs output =>
      rcases List.mem_cons.1 h with rfl | h
      · exact ⟨_, List.mem_cons_self, List.mem_cons_self⟩
      · obtain ⟨d, hd, hslot⟩ := ih h
        exact ⟨d, List.mem_cons_of_mem _ hd, hslot⟩
    | filter columns predicate =>
      obtain ⟨d, hd, hslot⟩ := ih h
      exact ⟨d, List.mem_cons_of_mem _ hd, hslot⟩

/-- Steps write only within the slots that they name. -/
theorem lt_of_mem_writes {steps : List RowStep} {width : ℕ}
    (hsteps : ∀ step ∈ steps, ∀ slot ∈ step.declaration.slots, slot < width)
    (hslot : slot ∈ writes (steps.map RowStep.declaration)) : slot < width := by
  obtain ⟨d, hd, hslot⟩ := exists_of_mem_writes hslot
  obtain ⟨step, hstep, rfl⟩ := List.mem_map.1 hd
  exact hsteps step hstep slot hslot

theorem Filled.append (h : Filled n ds slot) (es : List Declaration) : Filled n (ds ++ es) slot := by
  rw [Filled, writes_append]
  exact h.imp_right fun hslot => List.mem_append_left _ hslot

theorem ordered_nil (n : ℕ) : Ordered n [] := by
  intro before d rest h
  simp at h

/-- Declarations that read what others before them have filled. -/
theorem Ordered.append (h : Ordered n ds) (hes : ∀ d ∈ es, ∀ slot ∈ d.reads, Filled n ds slot) :
    Ordered n (ds ++ es) := by
  intro before d rest hsplit
  rcases List.append_eq_append_iff.1 hsplit with ⟨more, rfl, hmore⟩ | ⟨more, rfl, hmore⟩
  · exact fun slot hslot => (hes d (by simp [hmore]) slot hslot).append more
  · cases more with
    | nil =>
      rw [List.append_nil] at hes
      exact hes d (by simp [show es = d :: rest from hmore.symm])
    | cons first more =>
      obtain ⟨rfl, -⟩ := List.cons.inj hmore
      exact h before d more rfl

end Declaration

/-! ### What an edit alters -/

namespace Catalog

variable {c c' : Catalog}

/-- There is a parser, or none, for each field of the file. -/
theorem length_parsers (hsource : c.sourceWidth ≤ c.width) : c.parsers.length = c.sourceWidth := by
  rw [Catalog.parsers, List.length_map, List.length_take]
  exact min_eq_left hsource

/-- A change that leaves parsers and slots as they are, but for the parser of one slot. -/
structure KeepsParsers (c c' : Catalog) (retyped : List ℕ) : Prop where
  width : c'.width = c.width
  sourceWidth : c'.sourceWidth = c.sourceWidth
  parsers : ∀ slot ∉ retyped, c'.parsers[slot]? = c.parsers[slot]?

theorem keepsParsers_setSlot (c : Catalog) (slot : ℕ) (f : Slot → Slot) :
    c.KeepsParsers (c.setSlot slot f) [slot] where
  width := by simp [width, setSlot]
  sourceWidth := rfl
  parsers there hthere := by
    rw [List.mem_singleton] at hthere
    simp only [Catalog.parsers, setSlot, List.getElem?_map, List.getElem?_take,
      List.getElem?_modify, Ne.symm hthere, if_false]
    simp

theorem SameWork.keepsParsers (h : c.SameWork c') : c.KeepsParsers c' [] where
  width := h.width
  sourceWidth := h.sourceWidth
  parsers slot _ := by simp only [Catalog.parsers, List.map_take, h.parsers, h.sourceWidth]

theorem keepsParsers_setType {type column : Arg} {u : Unit} (h : Ends (setType type column) c u c') :
    ∃ slot, c.slotOf column = .ok slot ∧ c.KeepsParsers c' [slot] := by
  obtain ⟨kind, slot, -, hslot, -, rfl⟩ := ends_setType.1 h
  have hset := keepsParsers_setSlot c slot fun s =>
    { s with type := kind, parser? := some kind.parser }
  exact ⟨slot, hslot, hset.width, hset.sourceWidth, hset.parsers⟩

theorem keepsParsers_setParser {parser column : Arg} {u : Unit}
    (h : Ends (setParser parser column) c u c') :
    ∃ slot, c.slotOf column = .ok slot ∧ c.KeepsParsers c' [slot] := by
  obtain ⟨f, slot, -, hslot, -, rfl⟩ := ends_setParser.1 h
  have hset := keepsParsers_setSlot c slot fun s => { s with type := .raw, parser? := some f }
  exact ⟨slot, hslot, hset.width, hset.sourceWidth, hset.parsers⟩

theorem keepsParsers_setFormatter {formatter column : Arg} {u : Unit}
    (h : Ends (setFormatter formatter column) c u c') : c.KeepsParsers c' [] := by
  obtain ⟨f, slot, -, -, rfl⟩ := ends_setFormatter.1 h
  exact ⟨rfl, rfl, fun _ _ => rfl⟩

/-- Parsers stay where they are when a slot is added behind them. -/
theorem parsers_of_operate (hsource : c.sourceWidth ≤ c.width) {func columns newName : Arg}
    {output : ℕ} (h : Ends (operate func columns newName) c output c') :
    c'.parsers = c.parsers ∧ (newName = .null ∧ c'.width = c.width ∨
      newName ≠ .null ∧ c'.width = c.width + 1) := by
  obtain ⟨f, inputs, made, -, -, hmade, rfl⟩ := ends_operate.1 h
  rcases ends_outputSlot.1 hmade with ⟨rfl, -, rfl⟩ | ⟨name, rfl, -, -, -, rfl⟩
  · exact ⟨rfl, .inl ⟨rfl, rfl⟩⟩
  · refine ⟨?_, .inr ⟨by simp, width_withDerived c name⟩⟩
    have htake : (c.withDerived name).slots.take c.sourceWidth = c.slots.take c.sourceWidth :=
      List.take_append_of_le_length hsource
    simp only [Catalog.parsers]
    exact congrArg _ htake

end Catalog

/-- The slot whose field an edit parses anew if it takes place: that of the column with the name. -/
def Table.retyped (t : Table) : Edit → List ℕ
  | .setType column _ | .setParser column _ => (t.catalog.slotOf column).toOption.toList
  | _ => []

namespace Edit

variable {t t' : Table} {u : Unit}

/-- A table comes from another one by an edit that parses some fields anew and declares something
about the rows. -/
structure Alters (t t' : Table) (retyped : List ℕ) (declared : List Declaration) : Prop where
  sourceWidth : t'.catalog.sourceWidth = t.catalog.sourceWidth
  parsers : ∀ slot ∉ retyped, t'.catalog.parsers[slot]? = t.catalog.parsers[slot]?
  /-- What is read was there before. -/
  reads : ∀ d ∈ declared, ∀ slot ∈ d.reads, slot < t.catalog.width
  /-- A slot that is made is written. -/
  made : ∀ slot < t'.catalog.width, slot < t.catalog.width ∨ slot ∈ Declaration.writes declared

/-- A change of the rules that declares nothing about the rows. -/
theorem alters_of_rules (t : Table) (rules : RowRules) : Alters t { t with rules } [] [] :=
  ⟨rfl, fun _ _ => rfl, by simp, fun _ h => .inl h⟩

theorem alters_of_keeps {retyped : List ℕ} (h : t.catalog.KeepsParsers t'.catalog retyped) :
    Alters t t' retyped [] :=
  ⟨h.sourceWidth, h.parsers, by simp, fun _ hslot => .inl (h.width ▸ hslot)⟩

theorem alters_operate (hsource : t.catalog.sourceWidth ≤ t.catalog.width)
    {func columns newName : Arg} (h : Ends (steps (.operate func columns newName)) t u t') :
    Alters t t' [] (t.declared (.operate func columns newName)) := by
  obtain ⟨output, c, hoperate, rfl⟩ := ends_operate.1 h
  obtain ⟨hparsers, hwidth⟩ := Catalog.parsers_of_operate hsource hoperate
  obtain ⟨f, inputs, rfl, hinputs, rfl, hextends, -⟩ := Catalog.extends_operate hoperate
  simp only [Table.declared, hinputs]
  refine ⟨hextends.sourceWidth, fun slot _ => by rw [hparsers], ?_, fun slot hslot => ?_⟩
  · simpa [Declaration.reads] using Catalog.lt_width_of_resolve hinputs
  · rcases hwidth with ⟨rfl, hwidth⟩ | ⟨hnew, hwidth⟩
    · exact .inl (hwidth ▸ hslot)
    · have houtput : t.catalog.outputOf inputs newName = t.catalog.width := by
        cases newName <;> first | rfl | exact absurd rfl hnew
      simp only [Declaration.writes, Declaration.operations, List.map_cons, List.map_nil,
        List.mem_singleton, houtput]
      change slot < c.width at hslot
      omega

theorem alters_filter {columns predicate : Arg}
    (h : Ends (steps (.filter columns predicate)) t u t') :
    Alters t t' [] (t.declared (.filter columns predicate)) := by
  obtain ⟨f, slots, rfl, hslots, rfl⟩ := ends_addFilter.1 h
  simp only [Table.declared, hslots]
  refine ⟨rfl, fun _ _ => rfl, ?_, fun _ hslot => .inl hslot⟩
  simpa [Declaration.reads] using Catalog.lt_width_of_resolve hslots

/-- What an edit that takes place alters. -/
theorem alters_of_steps (hsource : t.catalog.sourceWidth ≤ t.catalog.width) {e : Edit}
    (h : Ends e.steps t u t') : Alters t t' (t.retyped e) (t.declared e) := by
  have hlayout : e.isLayout = true → Alters t t' [] [] := fun he => by
    obtain ⟨c, rfl, hsame⟩ := sameWork_of_steps he h
    exact alters_of_keeps hsame.keepsParsers
  cases e with
  | operate func columns newName => exact alters_operate hsource h
  | setType column type =>
    rw [steps, ends_onCatalog] at h
    obtain ⟨c, hc, rfl⟩ := h
    obtain ⟨slot, hslot, hkeeps⟩ := Catalog.keepsParsers_setType hc
    simp only [Table.retyped, hslot]
    exact alters_of_keeps hkeeps
  | setParser column parser =>
    rw [steps, ends_onCatalog] at h
    obtain ⟨c, hc, rfl⟩ := h
    obtain ⟨slot, hslot, hkeeps⟩ := Catalog.keepsParsers_setParser hc
    simp only [Table.retyped, hslot]
    exact alters_of_keeps hkeeps
  | setFormatter column formatter =>
    rw [steps, ends_onCatalog] at h
    obtain ⟨c, hc, rfl⟩ := h
    exact alters_of_keeps (Catalog.keepsParsers_setFormatter hc)
  | filter columns predicate => exact alters_filter h
  | groupBy keys =>
    obtain ⟨entries, slots, -, -, rfl⟩ := ends_setKeys.1 h
    exact alters_of_rules t _
  | aggregate func columns newNames =>
    obtain ⟨f, slots, names, -, -, -, -, -, rfl⟩ := ends_addAggregates.1 h
    exact alters_of_rules t _
  | delete | select | reorder | rename => exact hlayout rfl

end Edit

/-! ### Tables that come about -/

namespace Table

variable {t t' : Table} {ds : List Declaration}

/-- A table is what some declarations have made of it; these read only what is filled, and together
they fill every slot. -/
structure Fills (t : Table) (ds : List Declaration) : Prop extends t.Declares ds where
  ordered : Declaration.Ordered t.catalog.sourceWidth ds
  filled : ∀ slot < t.catalog.width, Declaration.Filled t.catalog.sourceWidth ds slot

/-- A table that has been opened has no slots but those of the file. -/
theorem fills_of_opened (hcatalog : Catalog.ofNames t.header = .ok t.catalog)
    (hrules : t.rules = {}) : t.Fills [] := by
  refine ⟨declares_of_opened hcatalog hrules, Declaration.ordered_nil _, fun slot hslot => .inl ?_⟩
  obtain ⟨_, -, hcatalog⟩ := bind_eq_ok.1 hcatalog
  rw [← Except.ok.inj hcatalog] at hslot ⊢
  simpa [Catalog.width] using hslot

/-- What an edit that takes place alters. -/
theorem alters_of_edit (hsource : t.catalog.sourceWidth ≤ t.catalog.width) {store : Store} {e : Edit}
    (h : (t.edit store e).1 = .ok ()) :
    Edit.Alters t (t.edit store e).2 (t.retyped e) (t.declared e) :=
  Edit.alters_of_steps hsource (steps_of_edit h)

theorem Fills.alters {declared : List Declaration} {retyped : List ℕ} (h : t.Fills ds)
    (hleads : Edit.Leads t t' declared) (halters : Edit.Alters t t' retyped declared) :
    t'.Fills (ds ++ declared) where
  toDeclares := h.toDeclares.leads hleads
  ordered := by
    rw [halters.sourceWidth]
    exact h.ordered.append fun d hd slot hslot => h.filled slot (halters.reads d hd slot hslot)
  filled slot hslot := by
    rw [halters.sourceWidth]
    rcases halters.made slot hslot with hold | hnew
    · exact (h.filled slot hold).append declared
    · exact .inr (Declaration.writes_append .. ▸ List.mem_append_right _ hnew)

/-- One edit, whether it takes place or fails. -/
theorem Fills.edit (h : t.Fills ds) (store : Store) (e : Edit) :
    (t.edit store e).2.Fills (ds ++ t.declaredBy store e) := by
  cases hedit : (t.edit store e).1 with
  | error fault =>
    obtain ⟨hcatalog, -⟩ := edit_of_error hedit
    have hdeclares := h.toDeclares.edit store e
    simp only [declaredBy, hedit, List.append_nil] at hdeclares ⊢
    exact ⟨hdeclares, hcatalog ▸ h.ordered, hcatalog ▸ h.filled⟩
  | ok _ =>
    simp only [declaredBy, hedit]
    exact h.alters (leads_of_edit hedit) (alters_of_edit h.source hedit)

/-- Edits one after the other. -/
theorem Fills.after (h : t.Fills ds) (history : List (Store × Edit)) :
    (t.after history).Fills (ds ++ t.declarations history) := by
  induction history generalizing t ds with
  | nil => simpa [Table.after, declarations] using h
  | cons call rest ih =>
    rw [Table.after, declarations, ← List.append_assoc]
    exact ih (h.edit call.1 call.2)

/-- No edit takes a slot away. -/
theorem width_le_after (history : List (Store × Edit)) (t : Table) :
    t.catalog.width ≤ (t.after history).catalog.width := by
  induction history generalizing t with
  | nil => exact le_rfl
  | cons call rest ih =>
    refine le_trans ?_ (ih _)
    cases hedit : (t.edit call.1 call.2).1 with
    | ok _ => exact (leads_of_edit hedit).catalog.width
    | error fault => rw [(edit_of_error hedit).1]

/-- A table that has been opened and edited. -/
def Reachable (t : Table) : Prop :=
  ∃ (store : Store) (path haveHeader batchSize : Arg) (settings : FileSettings) (opened : Table)
    (history : List (Store × Edit)),
    ofArgs store path haveHeader batchSize settings = .ok opened ∧ t = opened.after history

theorem after_append (history later : List (Store × Edit)) (t : Table) :
    t.after (history ++ later) = (t.after history).after later := by
  induction history generalizing t with
  | nil => rfl
  | cons call rest ih => exact ih _

theorem Reachable.after (h : t.Reachable) (later : List (Store × Edit)) :
    (t.after later).Reachable := by
  obtain ⟨store, path, haveHeader, batchSize, settings, opened, history, hopen, rfl⟩ := h
  exact ⟨store, path, haveHeader, batchSize, settings, opened, history ++ later, hopen,
    (after_append history later opened).symm⟩

theorem Reachable.exists_fills (h : t.Reachable) : ∃ ds, t.Fills ds := by
  obtain ⟨store, path, haveHeader, batchSize, settings, opened, history, hopen, rfl⟩ := h
  obtain ⟨hcatalog, hrules⟩ := catalog_of_ofArgs hopen
  exact ⟨_, (fills_of_opened hcatalog hrules).after history⟩

end Table

theorem reachable_sample (history : List (Store × Edit)) :
    (sampleTable.after history).Reachable :=
  ⟨_, _, _, _, _, _, history, ofArgs_sample, rfl⟩

end TablePipeline
