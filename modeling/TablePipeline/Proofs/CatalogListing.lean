import Mathlib
import TablePipeline.Proofs.CatalogColumns

/-!
Runs of calls on a catalog and its copies. A call looks up columns in the list that the catalog keeps,
and it alters the catalog only after all of its checks; so a call that fails leaves everything as it
was, and the list that is kept is that of the columns as they are. Whatever was called and looked up
before, a catalog shows what its successful calls have made of the columns that it was opened with.
-/
namespace TablePipeline

namespace Change

variable {α β : Type}

/-! ### Changes that fail -/

theorem apply_bind (x : Change α) (f : α → Change β) (c : Catalog) :
    Change.apply (x >>= f) c =
      match x.apply c with
      | (.ok a, there) => Change.apply (f a) there
      | (.error fault, there) => (.error fault, there) := by
  simp only [Change.apply, bind, ExceptT.bind, ExceptT.mk, ExceptT.bindCont, StateT.bind]
  rcases x c with ⟨fault | a, there⟩ <;> rfl

theorem apply_ask_bind (question : Catalog → Except Fault α) (f : α → Change β) (c : Catalog) :
    Change.apply (ask question >>= f) c =
      match question c with
      | .ok a => Change.apply (f a) c
      | .error fault => (.error fault, c) := by
  have hask : Change.apply (ask question) c = (question c, c) := by
    rw [ask, apply_bind]
    show Change.apply (match question c with
      | .ok a => pure a
      | .error fault => throw fault) c = (question c, c)
    cases question c <;> rfl
  rw [apply_bind, hask]
  cases question c <;> rfl

theorem apply_get_bind (f : Catalog → Change β) (c : Catalog) :
    Change.apply (get >>= f) c = (f c).apply c := by
  rw [apply_bind]
  rfl

/-- A change that alters nothing when it fails. -/
def Kept (x : Change α) : Prop := ∀ c fault, (x.apply c).1 = .error fault → (x.apply c).2 = c

/-- A change that does not fail. -/
def Succeeds (x : Change α) : Prop := ∀ c, ∃ a, (x.apply c).1 = .ok a

theorem succeeds_pure (a : α) : Succeeds (pure a) := fun _ => ⟨a, rfl⟩

theorem succeeds_modify (f : Catalog → Catalog) : Succeeds (modify f) := fun _ => ⟨⟨⟩, rfl⟩

theorem succeeds_bind {x : Change α} {f : α → Change β} (hx : Succeeds x)
    (hf : ∀ a, Succeeds (f a)) : Succeeds (x >>= f) := by
  intro c
  obtain ⟨a, ha⟩ := hx c
  rw [apply_bind]
  rcases hstep : x.apply c with ⟨_, there⟩
  rw [hstep] at ha
  obtain rfl : _ = Except.ok a := ha
  exact hf a there

theorem Succeeds.kept {x : Change α} (h : Succeeds x) : Kept x := by
  intro c fault hfault
  obtain ⟨a, ha⟩ := h c
  rw [ha] at hfault
  cases hfault

theorem kept_throw (fault : Fault) : Kept (throw fault : Change α) := fun _ _ _ => rfl

theorem kept_ask_bind {question : Catalog → Except Fault α} {f : α → Change β}
    (hf : ∀ a, Kept (f a)) : Kept (ask question >>= f) := by
  intro c fault
  rw [apply_ask_bind]
  cases question c with
  | error stop => exact fun _ => rfl
  | ok a => exact hf a c fault

theorem kept_get_bind {f : Catalog → Change β} (hf : ∀ c, Kept (f c)) : Kept (get >>= f) := by
  intro c fault
  rw [apply_get_bind]
  exact hf c c fault

/-- What comes after the last check may alter the catalog, but does not fail any more. -/
theorem kept_bind {x : Change α} {f : α → Change β} (hx : Kept x) (hf : ∀ a, Succeeds (f a)) :
    Kept (x >>= f) := by
  intro c fault
  rw [apply_bind]
  have hkept := hx c
  rcases hstep : x.apply c with ⟨stop | a, there⟩
  · rw [hstep] at hkept
    exact fun _ => hkept stop rfl
  · intro hfault
    obtain ⟨b, hb⟩ := hf a there
    rw [hb] at hfault
    cases hfault

theorem kept_guard {p : Prop} [Decidable p] {fault : Fault} {x : Change α} (hx : Kept x) :
    Kept (if p then (throw fault : Change PUnit) >>= fun _ => x else x) := by
  split_ifs
  · exact fun _ _ _ => rfl
  · exact hx

end Change

namespace Catalog

open Change

theorem kept_retype (slot : ℕ) (type : ColumnType) (parser : Func) :
    Kept (retype slot type parser) := by
  refine kept_get_bind fun c => ?_
  cases c.slots[slot]? with
  | none => exact kept_throw _
  | some s =>
    cases hsource : s.source with
    | false => simpa [hsource] using kept_throw _
    | true =>
      simp only [hsource, if_true]
      exact fun _ _ h => by cases h

theorem kept_outputSlot (inputs : List ℕ) (newName : Arg) (listing : Catalog → List ℕ) :
    Kept (outputSlot inputs newName listing) := by
  unfold outputSlot
  split
  · split
    · exact (succeeds_pure _).kept
    · exact kept_throw _
  · split_ifs
    · exact kept_throw _
    · refine kept_get_bind fun c => ?_
      split_ifs
      · exact kept_throw _
      · exact kept_get_bind fun c =>
          (succeeds_bind (succeeds_modify _) fun _ => succeeds_pure _).kept
  · exact kept_throw _

/-- A call that fails leaves the catalog as it was. -/
theorem kept_change (listing : Catalog → List ℕ) (call : CatalogCall) :
    Kept (call.change listing) := by
  cases call
  all_goals refine kept_bind ?_ fun _ => succeeds_pure _
  case operate func columns newName =>
    unfold operate
    split
    · refine kept_ask_bind fun inputs => kept_bind (kept_outputSlot _ _ _) fun output => ?_
      exact succeeds_bind (succeeds_modify _) fun _ => succeeds_pure _
    · exact kept_throw _
  case setType type column =>
    refine kept_ask_bind fun type => kept_ask_bind fun slot => ?_
    exact kept_bind (kept_retype _ _ _) fun _ => succeeds_modify _
  case setParser parser column =>
    unfold setParser
    split
    · exact kept_ask_bind fun slot => kept_bind (kept_retype _ _ _) fun _ => succeeds_modify _
    · exact kept_throw _
  case setFormatter formatter column =>
    unfold setFormatter
    split
    · exact kept_ask_bind fun slot => (succeeds_modify _).kept
    · exact kept_throw _
  case delete columns => exact kept_ask_bind fun slots => (succeeds_modify _).kept
  case reorder newOrder =>
    refine kept_ask_bind fun items => kept_get_bind fun c => kept_guard ?_
    exact kept_ask_bind fun _ => kept_guard (succeeds_modify _).kept
  case rename newNames =>
    refine kept_ask_bind fun items => kept_get_bind fun c => kept_guard ?_
    split
    · exact kept_throw _
    · exact kept_ask_bind fun _ => (succeeds_modify _).kept

/-! ### Changes that look up columns in the same list -/

variable {c : Catalog} {listing listing' : Catalog → List ℕ}

theorem outputSlot_congr (h : listing c = listing' c) (inputs : List ℕ) (newName : Arg) :
    (outputSlot inputs newName listing).apply c = (outputSlot inputs newName listing').apply c := by
  cases newName <;> simp only [outputSlot]
  split_ifs
  · rfl
  · simp only [apply_get_bind, h]

/-- A call does the same with two lists that are the same when it begins. -/
theorem change_congr (h : listing c = listing' c) (call : CatalogCall) :
    (call.change listing).apply c = (call.change listing').apply c := by
  cases call
  all_goals simp only [CatalogCall.change, apply_bind]
  case operate func columns newName =>
    have hsame : (operate func columns newName listing).apply c =
        (operate func columns newName listing').apply c := by
      cases func <;> simp only [operate, apply_ask_bind, h]
      simp only [apply_bind, outputSlot_congr h]
    rw [hsame]
  case setType type column =>
    have hsame : (setType type column listing).apply c = (setType type column listing').apply c := by
      simp only [setType, check, apply_ask_bind, h]
    rw [hsame]
  case setParser parser column =>
    have hsame : (setParser parser column listing).apply c =
        (setParser parser column listing').apply c := by
      cases parser <;> simp only [setParser, apply_ask_bind, h]
    rw [hsame]
  case setFormatter formatter column =>
    have hsame : (setFormatter formatter column listing).apply c =
        (setFormatter formatter column listing').apply c := by
      cases formatter <;> simp only [setFormatter, apply_ask_bind, h]
    rw [hsame]
  case delete columns =>
    have hsame : (delete columns listing).apply c = (delete columns listing').apply c := by
      simp only [delete, apply_ask_bind, h]
    rw [hsame]
  case reorder newOrder =>
    have hsame : (reorder newOrder listing).apply c = (reorder newOrder listing').apply c := by
      simp only [reorder, check, apply_ask_bind, apply_get_bind, h]
    rw [hsame]
  case rename newNames =>
    have hsame : (rename newNames listing).apply c = (rename newNames listing').apply c := by
      simp only [rename, check, apply_ask_bind, apply_get_bind, h]
    rw [hsame]

end Catalog

namespace ListedCatalog

variable {c : ListedCatalog}

/-! ### The list that is kept -/

/-- The columns that are listed are those of the catalog. -/
def Fresh (c : ListedCatalog) : Prop := c.index = c.catalog.live

theorem fresh_of_listed (h : ∀ index, c.listed? = some index → index = c.catalog.live) :
    c.Fresh := by
  unfold Fresh index
  cases hlisted : c.listed? with
  | none => rfl
  | some index => exact h index hlisted

theorem outcome_perform (call : CatalogCall) :
    (c.perform call).1 = ((call.change fun _ => c.index).apply c.catalog).1 := rfl

theorem catalog_perform (call : CatalogCall) :
    (c.perform call).2.catalog = ((call.change fun _ => c.index).apply c.catalog).2 := rfl

/-- A call drops the list, or keeps the one that it has looked at. -/
theorem listed?_perform (call : CatalogCall) :
    (c.perform call).2.listed? = if call.relists && (c.perform call).1.isOk then none
      else if call.looks then some c.index else c.listed? := rfl

/-- A call on a catalog whose list is that of its columns. -/
theorem Fresh.apply_change (h : c.Fresh) (call : CatalogCall) :
    (call.change fun _ => c.index).apply c.catalog = (call.change Catalog.live).apply c.catalog := by
  have hsame : (fun _ : Catalog => c.index) c.catalog = Catalog.live c.catalog := h
  exact Catalog.change_congr hsame call

/-- What a call does with a catalog whose list is that of its columns: it takes place or leaves the
catalog as it was. -/
theorem Fresh.perform_cases (h : c.Fresh) (call : CatalogCall) :
    (∃ output, (c.perform call).1 = .ok output ∧
      Ends (call.change Catalog.live) c.catalog output (c.perform call).2.catalog) ∨
    ∃ fault, (c.perform call).1 = .error fault ∧ (c.perform call).2.catalog = c.catalog := by
  rw [outcome_perform, catalog_perform, h.apply_change call]
  cases hresult : ((call.change Catalog.live).apply c.catalog).1 with
  | ok output => exact .inl ⟨output, rfl, Prod.ext hresult rfl⟩
  | error fault => exact .inr ⟨fault, rfl, Catalog.kept_change _ call _ fault hresult⟩

/-- A call that keeps the list leaves the columns as they are. -/
theorem reshape_of_not_relists {call : CatalogCall} (h : call.relists = false) (s : Shown) :
    call.reshape s = s := by
  cases call with
  | operate func columns newName =>
    cases newName with
    | null => rfl
    | _ => cases h
  | delete | reorder | rename => cases h
  | setType | setParser | setFormatter => rfl

/-- The list is that of the columns after every call, too. -/
theorem Fresh.perform (h : c.Fresh) (hvalid : c.catalog.Valid) (call : CatalogCall) :
    (c.perform call).2.Fresh := by
  -- a list that is kept is the one that there was, so the columns must be the same as before
  have hkept : (c.perform call).2.catalog.live = c.catalog.live → (c.perform call).2.Fresh := by
    intro hlive
    refine fresh_of_listed fun index hindex => ?_
    rw [hlive, ← h]
    rw [listed?_perform] at hindex
    split_ifs at hindex
    · exact (Option.some.inj hindex).symm
    · rw [ListedCatalog.index, hindex]
      rfl
  rcases h.perform_cases call with ⟨output, houtcome, hends⟩ | ⟨fault, -, hcatalog⟩
  · cases hrelists : call.relists with
    | true =>
      refine fresh_of_listed fun index hindex => ?_
      rw [listed?_perform, hrelists, houtcome] at hindex
      cases hindex
    | false =>
      apply hkept
      have hshown := (hvalid.step hends).shown
      rw [reshape_of_not_relists hrelists] at hshown
      have hcolumns : (c.perform call).2.catalog.columns = c.catalog.columns :=
        congrArg Shown.columns hshown
      rw [← Catalog.map_fst_columns, hcolumns, Catalog.map_fst_columns]
  · exact hkept (by rw [hcatalog])

end ListedCatalog

/-! ### Runs -/

/-- What can be done with a catalog. -/
inductive CatalogAct where
  | perform (call : CatalogCall)
  /-- Look up columns, which makes the list. -/
  | read
  | clone

namespace CatalogAct

/-- Do something with one of many catalogs. Beside each catalog stands what it is to show: only calls
that take place change it, and a copy is to show what its original shows. -/
def act (family : List (ListedCatalog × Shown)) :
    ℕ × CatalogAct → List (ListedCatalog × Shown)
  | (place, .perform call) =>
    family.modify place fun (c, shown) =>
      let (outcome, c) := c.perform call
      (c, if outcome.isOk then call.reshape shown else shown)
  | (place, .read) => family.modify place fun (c, shown) => (c.read, shown)
  | (place, .clone) =>
    match family[place]? with
    | some (c, shown) => family ++ [(c.clone, shown)]
    | none => family

/-- A catalog is valid and shows what it is to show, and its list is that of its columns. -/
structure Sound (sourceWidth : ℕ) (tracked : ListedCatalog × Shown) : Prop where
  valid : tracked.1.catalog.Valid
  fresh : tracked.1.Fresh
  shown : tracked.1.catalog.shown = tracked.2
  sourceWidth : tracked.1.catalog.sourceWidth = sourceWidth

variable {n : ℕ} {family : List (ListedCatalog × Shown)} {c : ListedCatalog} {shown : Shown}

/-- A call, whether it takes place or fails. -/
theorem Sound.perform (h : Sound n (c, shown)) (call : CatalogCall) :
    Sound n ((c.perform call).2,
      if (c.perform call).1.isOk then call.reshape shown else shown) ∧
    c.catalog.Grows (c.perform call).2.catalog := by
  have hfresh := h.fresh.perform h.valid call
  rcases h.fresh.perform_cases call with ⟨output, houtcome, hends⟩ | ⟨fault, houtcome, hcatalog⟩
  · have hbecomes := h.valid.step hends
    rw [houtcome]
    exact ⟨⟨hbecomes.valid, hfresh, hbecomes.shown.trans (congrArg (call.reshape ·) h.shown),
      hbecomes.sourceWidth.trans h.sourceWidth⟩, hbecomes.grows⟩
  · rw [houtcome]
    exact ⟨⟨hcatalog ▸ h.valid, hfresh, (congrArg _ hcatalog).trans h.shown,
      (congrArg _ hcatalog).trans h.sourceWidth⟩, hcatalog ▸ .refl _⟩

theorem Sound.read (h : Sound n (c, shown)) : Sound n (c.read, shown) :=
  ⟨h.valid, h.fresh, h.shown, h.sourceWidth⟩

theorem Sound.clone (h : Sound n (c, shown)) : Sound n (c.clone, shown) :=
  ⟨h.valid, rfl, h.shown, h.sourceWidth⟩

/-- The slots of each of many catalogs are where they were. -/
def Grown (family family' : List (ListedCatalog × Shown)) : Prop :=
  ∀ (place : ℕ) (c : ListedCatalog) (shown : Shown), family[place]? = some (c, shown) →
    ∃ c' shown', family'[place]? = some (c', shown') ∧ c.catalog.Grows c'.catalog

theorem Grown.refl (family : List (ListedCatalog × Shown)) : Grown family family :=
  fun _ c shown h => ⟨c, shown, h, .refl _⟩

theorem Grown.trans {family' family'' : List (ListedCatalog × Shown)} (h : Grown family family')
    (h' : Grown family' family'') : Grown family family'' := by
  intro place c shown hthere
  obtain ⟨c', shown', hthere', hgrows⟩ := h place c shown hthere
  obtain ⟨c'', shown'', hthere'', hgrows'⟩ := h' place c' shown' hthere'
  exact ⟨c'', shown'', hthere'', hgrows.trans hgrows'⟩

/-- One of many catalogs is exchanged for one that comes from it. -/
theorem modify_sound (h : ∀ tracked ∈ family, Sound n tracked) {there : ℕ}
    {f : ListedCatalog × Shown → ListedCatalog × Shown}
    (hf : ∀ c shown, Sound n (c, shown) → Sound n (f (c, shown)) ∧
      c.catalog.Grows (f (c, shown)).1.catalog) :
    (∀ tracked ∈ family.modify there f, Sound n tracked) ∧ Grown family (family.modify there f) := by
  constructor
  · intro tracked htracked
    obtain ⟨place, hplace⟩ := List.mem_iff_getElem?.1 htracked
    rw [List.getElem?_modify] at hplace
    obtain ⟨before, hbefore, rfl⟩ := Option.map_eq_some_iff.1 hplace
    have hsound := h before (List.mem_of_getElem? hbefore)
    split_ifs
    · exact (hf _ _ hsound).1
    · exact hsound
  · intro place c shown hthere
    by_cases hplace : there = place
    · have hgrows := (hf c shown (h _ (List.mem_of_getElem? hthere))).2
      exact ⟨_, (f (c, shown)).2, by simp [hthere, hplace], hgrows⟩
    · exact ⟨c, shown, by simp [hthere, hplace], .refl _⟩

/-- What is done with one catalog leaves every catalog sound, and its slots where they were. -/
theorem act_sound (h : ∀ tracked ∈ family, Sound n tracked) (a : ℕ × CatalogAct) :
    (∀ tracked ∈ act family a, Sound n tracked) ∧ Grown family (act family a) := by
  rcases a with ⟨there, call | _ | _⟩
  · exact modify_sound h fun c shown hc => hc.perform call
  · exact modify_sound h fun c shown hc => ⟨hc.read, .refl _⟩
  · simp only [act]
    cases hthere : family[there]? with
    | none => exact ⟨h, .refl _⟩
    | some tracked =>
      obtain ⟨c, shown⟩ := tracked
      constructor
      · intro other hother
        rcases List.mem_append.1 hother with hother | hother
        · exact h other hother
        · rw [List.mem_singleton.1 hother]
          exact (h _ (List.mem_of_getElem? hthere)).clone
      · intro place c' shown' hplace
        have hlt := (List.getElem?_eq_some_iff.1 hplace).1
        exact ⟨c', shown', by rw [List.getElem?_append_left hlt, hplace], .refl _⟩

/-- The same for any number of acts. -/
theorem run_sound (history : List (ℕ × CatalogAct)) (h : ∀ tracked ∈ family, Sound n tracked) :
    (∀ tracked ∈ history.foldl act family, Sound n tracked) ∧
      Grown family (history.foldl act family) := by
  induction history generalizing family with
  | nil => exact ⟨h, .refl _⟩
  | cons a history ih =>
    obtain ⟨hsound, hgrown⟩ := act_sound h a
    obtain ⟨hsound', hgrown'⟩ := ih hsound
    exact ⟨hsound', hgrown.trans hgrown'⟩

end CatalogAct

namespace ListedCatalog

open Catalog (NamedBy)

variable {c : ListedCatalog}

/-- Reordering takes place if and only if items name the columns one by one, in any order, and then
the columns come in that order. -/
theorem Fresh.reorder (h : c.Fresh) (hvalid : c.catalog.Valid) (newOrder : Arg) :
    ((c.perform (.reorder newOrder)).1.isOk = true ↔
      ∃ items names, newOrder.elements = .ok items ∧ names.Perm c.names ∧ NamedBy items names) ∧
    ((c.perform (.reorder newOrder)).1.isOk = true → ∀ items, newOrder.elements = .ok items →
      NamedBy items (c.perform (.reorder newOrder)).2.names) := by
  have hnames : ∀ {c : ListedCatalog}, c.Fresh → c.names = c.catalog.names :=
    fun hc => congrArg (List.map _) hc
  have hfresh := h.perform hvalid (.reorder newOrder)
  rw [hnames h, hnames hfresh, ← hvalid.exists_reorder_iff]
  rcases h.perform_cases (.reorder newOrder) with ⟨output, houtcome, hdone⟩ | ⟨fault, houtcome, -⟩
  · have hdone' : Ends (Catalog.reorder newOrder) c.catalog ()
        (c.perform (.reorder newOrder)).2.catalog := by
      simp only [CatalogCall.change, ends_bind, ends_pure] at hdone
      obtain ⟨_, _, hdone, -, rfl⟩ := hdone
      exact hdone
    rw [houtcome]
    refine ⟨⟨fun _ => ⟨_, hdone'⟩, fun _ => rfl⟩, fun _ items helements => ?_⟩
    obtain ⟨items', helements', -, hnamed, -⟩ := Catalog.reshapes_reorder hdone'
    obtain rfl : items = items' := Except.ok.inj (helements.symm.trans helements')
    exact hnamed
  · rw [houtcome]
    refine ⟨⟨fun hok => (by cases hok), ?_⟩, fun hok => by cases hok⟩
    rintro ⟨c', hdone⟩
    have hcall : Ends ((CatalogCall.reorder newOrder).change Catalog.live) c.catalog none c' := by
      simp only [CatalogCall.change, ends_bind, ends_pure]
      exact ⟨(), c', hdone, trivial, rfl⟩
    have hresult : ((CatalogCall.reorder newOrder).change Catalog.live).apply c.catalog =
        (.ok none, c') := hcall
    rw [outcome_perform, h.apply_change, hresult] at houtcome
    cases houtcome

end ListedCatalog

/-- What a catalog tells of its columns is what it is to show. -/
structure ListedCatalog.Shows (c : ListedCatalog) (shown : Shown) : Prop where
  index : c.index = shown.columns.map Prod.fst
  names : c.names = shown.columns.map Prod.snd
  keyIndex : c.keyIndex = shown.columns.map Prod.swap
  width : c.catalog.width = shown.made

theorem CatalogAct.Sound.shows {n : ℕ} {c : ListedCatalog} {shown : Shown}
    (h : Sound n (c, shown)) : c.Shows shown := by
  have hindex : c.index = c.catalog.live := h.fresh
  have hcolumns : c.catalog.columns = shown.columns := congrArg Shown.columns h.shown
  refine ⟨?_, ?_, ?_, congrArg Shown.made h.shown⟩
  · rw [hindex, ← hcolumns, Catalog.map_fst_columns]
  · rw [ListedCatalog.names, hindex, ← hcolumns, Catalog.map_snd_columns]
  · rw [ListedCatalog.keyIndex, hindex, ← hcolumns, Catalog.columns, List.map_map]
    rfl

/-- What a catalog shows that has been opened with some names. -/
def Shown.opened (names : List Value) : Shown :=
  { columns := (List.range names.length).zip names, made := names.length }

/-- A catalog that is opened with different names, and its copies, after any calls, successful or
not, and any looking up of columns. The order lists every slot once, the columns have different names,
the slots of the columns of the file come first, and all slots that the operations and formatters name
are there (`Valid`); no slot is moved or brought back (`Grows`). The list of the columns and all that
is read off it show what the successful calls have made of the columns. Reordering takes place if and
only if it names every column once; then the columns have these names in this order. -/
theorem listedCatalog_run {names : List Value} (hapart : Names.Apart names)
    (hkeys : ∀ name ∈ names, Datum.unhashable? name = none) :
    ∃ start, Catalog.ofNames names = .ok start ∧
      ∀ (history : List (ℕ × CatalogAct)) (place : ℕ) (c : ListedCatalog) (shown : Shown),
        let family := history.foldl CatalogAct.act [({ catalog := start }, Shown.opened names)]
        family[place]? = some (c, shown) →
        c.catalog.Valid ∧ c.catalog.sourceWidth = names.length ∧ c.Shows shown ∧
        (∀ later : List (ℕ × CatalogAct), ∃ c' shown',
          (later.foldl CatalogAct.act family)[place]? = some (c', shown') ∧
            c.catalog.Grows c'.catalog) ∧
        ∀ newOrder : Arg,
          ((c.perform (.reorder newOrder)).1.isOk = true ↔ ∃ items order,
            newOrder.elements = .ok items ∧ order.Perm c.names ∧ Catalog.NamedBy items order) ∧
          ((c.perform (.reorder newOrder)).1.isOk = true → ∀ items, newOrder.elements = .ok items →
            Catalog.NamedBy items (c.perform (.reorder newOrder)).2.names) ∧
          ((c.perform (.reorder newOrder)).1.isOk = true → ∀ texts : List String,
            newOrder.elements = .ok (texts.map .text) →
              (c.perform (.reorder newOrder)).2.names = texts.map .text) := by
  obtain ⟨start, hstart, hvalid, hwidth, hshown⟩ := Catalog.exists_ofNames hapart hkeys
  refine ⟨start, hstart, ?_⟩
  intro history place c shown family hthere
  have hfirst : ∀ tracked ∈ [(({ catalog := start } : ListedCatalog), Shown.opened names)],
      CatalogAct.Sound names.length tracked := by
    intro tracked htracked
    rw [List.mem_singleton.1 htracked]
    exact ⟨hvalid, rfl, hshown, hwidth⟩
  have hsounds := (CatalogAct.run_sound history hfirst).1
  have hsound := hsounds _ (List.mem_of_getElem? hthere)
  refine ⟨hsound.valid, hsound.sourceWidth, hsound.shows,
    fun later => (CatalogAct.run_sound later hsounds).2 place c shown hthere, fun newOrder => ?_⟩
  obtain ⟨hiff, hnamed⟩ := hsound.fresh.reorder hsound.valid newOrder
  exact ⟨hiff, hnamed, fun hok texts htexts => Catalog.namedBy_texts.1 (hnamed hok _ htexts)⟩

/-! ### A catalog and its copy -/

/-- The second column is deleted when the columns have been looked up, and its name is given to a new
one. The copy that is made before that is put into another order, after it was tried in vain. -/
def reusedName : List (ℕ × CatalogAct) := [
  (0, .read),
  (0, .perform (.delete (.text "b"))),
  (0, .clone),
  (0, .perform (.operate (.func (.unary "same" .ok)) (.text "a") (.text "b"))),
  (0, .read),
  (1, .perform (.reorder (.list [.text "c", .text "b"]))),
  (1, .perform (.reorder (.list [.text "c", .text "a"])))]

theorem listedCatalog_run_reusedName :
    ∃ start, Catalog.ofNames [.text "a", .text "b", .text "c"] = .ok start ∧
      ∃ c copy shown shown', reusedName.foldl CatalogAct.act
          [({ catalog := start }, Shown.opened [.text "a", .text "b", .text "c"])] =
            [(c, shown), (copy, shown')] ∧
        c.keyIndex = [(.text "a", 0), (.text "c", 2), (.text "b", 3)] ∧
        copy.names = [.text "c", .text "a"] ∧ c.catalog.Valid ∧ copy.catalog.Valid := by
  have hapart : Names.Apart [(.text "a" : Value), .text "b", .text "c"] :=
    (Names.repeats_eq_nil_iff _).1 rfl
  have hkeys : ∀ name ∈ [(.text "a" : Value), .text "b", .text "c"],
      Datum.unhashable? name = none := by
    simp [Datum.unhashable?]
  obtain ⟨start, hstart, hrun⟩ := listedCatalog_run hapart hkeys
  refine ⟨start, hstart, ?_⟩
  obtain rfl := Except.ok.inj hstart
  obtain ⟨hvalid, -, hshows, -⟩ := hrun reusedName 0 _ _ rfl
  obtain ⟨hvalid', -, hshows', -⟩ := hrun reusedName 1 _ _ rfl
  exact ⟨_, _, _, _, rfl, hshows.keyIndex, hshows'.names, hvalid, hvalid'⟩

end TablePipeline
