import Mathlib
import TablePipeline.Proofs.JoinBuckets
import TablePipeline.Proofs.StableSort

/-!
The columns of an index. An index finds entries by their keys and sorts them by their rolling values;
their columns it hands through. So columns can be changed before they are put into an index or when
they are taken out of it, and what is found under a key has been put there.
-/
namespace TablePipeline

/-- Sorting makes up no items. -/
theorem Sorting.mem_of_sort {α ε : Type} {less : α → α → Except ε Bool} {items sorted : List α}
    (h : sort less items = .ok sorted) {a : α} (ha : a ∈ sorted) : a ∈ items := by
  have hsort : sort less (items.attach.map Subtype.val) =
      (sort (fun x y : { b // b ∈ items } => less x y) items.attach).map (List.map Subtype.val) :=
    sort_map (fun _ _ => rfl) items.attach
  rw [List.attach_map_subtype_val, h] at hsort
  obtain ⟨inside, -, rfl⟩ := map_eq_ok.1 hsort.symm
  obtain ⟨x, -, rfl⟩ := List.mem_map.1 ha
  exact x.2

namespace JoinPlan

/-- Plans that match records in the same way, whatever columns they bring along. -/
structure SameMatching (p q : JoinPlan) : Prop where
  kind : q.kind = p.kind
  limit : q.limit? = p.limit?
  unmatched : q.dropUnmatched = p.dropUnmatched

variable {p q : JoinPlan}

theorem SameMatching.refl (p : JoinPlan) : p.SameMatching p := ⟨rfl, rfl, rfl⟩

theorem SameMatching.isNear_eq (h : p.SameMatching q) (probed built : Value) :
    q.isNear probed built = p.isNear probed built := by
  rw [isNear, isNear, h.limit, h.kind]

theorem SameMatching.keepsUnmatched_eq (h : p.SameMatching q) :
    q.keepsUnmatched = p.keepsUnmatched := by
  rw [keepsUnmatched, keepsUnmatched, h.kind, h.unmatched]

end JoinPlan

namespace JoinIndex

variable {p q : JoinPlan}

/-! ### The entries of a key, sorted -/

/-- The entries of one key as an index keeps them in the end. -/
def arranged (p : JoinPlan) (es : Array (Value × Row)) : Except Fault (Array (Value × Row)) :=
  if p.kind.isRolling then do
    .ok (← (Sorting.sort earlier es.toList).mapError Fault.eval).toArray
  else .ok es

theorem arrange_eq_mapM (p : JoinPlan) (index : JoinIndex) :
    arrange p index =
      index.mapM (fun there => (arranged p there.2).map fun es => (there.1, es)) := by
  unfold arrange arranged
  split_ifs
  · congr 1
    funext there
    obtain ⟨key, es⟩ := there
    dsimp only
    cases (Sorting.sort earlier es.toList).mapError Fault.eval <;> rfl
  · exact (mapM_eq_ok_iff.2 rfl).symm

theorem exists_arrange (index : JoinIndex)
    (h : ∀ there ∈ index, ∃ es, arranged p there.2 = .ok es) :
    ∃ index', arrange p index = .ok index' := by
  obtain ⟨index', hindex'⟩ := exists_map_ok (f := fun there : Key × Array (Value × Row) =>
    (arranged p there.2).map fun es => (there.1, es)) fun there hthere => by
      obtain ⟨es, hes⟩ := h there hthere
      exact ⟨(there.1, es), by rw [hes]; rfl⟩
  exact ⟨index', by rw [arrange_eq_mapM, mapM_eq_ok_iff, hindex']⟩

theorem entries_of_arrange {index index' : JoinIndex} (h : arrange p index = .ok index')
    (key : Key) : arranged p (index.entries key) = .ok (index'.entries key) := by
  rw [arrange_eq_mapM, mapM_eq_ok_iff] at h
  induction index generalizing index' with
  | nil =>
    obtain rfl : index' = [] := by simpa using h.symm
    unfold arranged
    split_ifs <;> rfl
  | cons first rest ih =>
    cases index' with
    | nil => simp at h
    | cons first' rest' =>
      obtain ⟨hfirst, hrest⟩ := List.cons.inj h
      obtain ⟨es, hes, rfl⟩ := map_eq_ok.1 hfirst
      rw [entries_cons, entries_cons]
      split_ifs
      · exact hes
      · exact ih hrest

theorem mem_of_arranged {es es' : Array (Value × Row)} (h : arranged p es = .ok es')
    {e : Value × Row} (he : e ∈ es'.toList) : e ∈ es.toList := by
  unfold arranged at h
  split_ifs at h
  · obtain ⟨sorted, hsorted, h⟩ := bind_eq_ok.1 h
    obtain rfl := Except.ok.inj h
    exact Sorting.mem_of_sort (mapError_eq_ok.1 hsorted) he
  · rwa [Except.ok.inj h]

/-- What is found under a key has been put there. -/
theorem exists_record_of_entry {records : List JoinRecord} {index : JoinIndex}
    (h : ofRecords p records = .ok index) {key : Key} {e : Value × Row}
    (he : e ∈ (index.entries key).toList) : ∃ r ∈ records, entryOf r = e := by
  obtain ⟨gathered, hgathered, harrange⟩ := bind_eq_ok.1 h
  have hbefore := mem_of_arranged (entries_of_arrange harrange key) he
  rw [((foldlM_add hashable_nil).1 gathered hgathered).2.2 key] at hbefore
  obtain ⟨r, hr, hentry⟩ := List.mem_map.1 (by simpa using hbefore :
    e ∈ (records.filter (isFound p key)).map entryOf)
  exact ⟨r, List.mem_of_mem_filter hr, hentry⟩

/-- The columns that match a record stand in entries of its key. -/
theorem exists_entry_of_partner {index : JoinIndex} {r : JoinRecord} {found : List Row}
    (h : index.partners p r = .ok found) {row : Row} (hrow : row ∈ found) :
    ∃ e ∈ (index.entries r.key).toList, e.2 = row := by
  unfold partners at h
  split_ifs at h
  · obtain rfl := Except.ok.inj h
    simp at hrow
  · obtain ⟨nearest?, hnearest, h⟩ := bind_eq_ok.1 h
    obtain rfl := Except.ok.inj h
    obtain rfl : nearest? = some row := by simpa [Option.mem_toList] using hrow
    obtain ⟨-, -, hnearest⟩ := bind_eq_ok.1 hnearest
    dsimp only at hnearest
    split_ifs at hnearest
    · cases Except.ok.inj hnearest
    · obtain ⟨place?, -, hnearest⟩ := bind_eq_ok.1 hnearest
      cases hat : place?.bind fun place => (index.entries r.key)[place]? with
      | none => simp [hat] at hnearest
      | some e =>
        simp only [hat] at hnearest
        obtain ⟨near, -, hnearest⟩ := bind_eq_ok.1 hnearest
        obtain ⟨place, -, hplace⟩ := Option.bind_eq_some_iff.1 hat
        refine ⟨e, by simpa using Array.mem_of_getElem? hplace, ?_⟩
        cases near with
        | false => cases Except.ok.inj hnearest
        | true => exact Option.some.inj (Except.ok.inj hnearest)
  · obtain ⟨-, -, h⟩ := bind_eq_ok.1 h
    obtain rfl := Except.ok.inj h
    exact List.mem_map.1 hrow

/-! ### Columns that are changed -/

/-- An entry whose columns are changed. -/
def onColumns (f : Row → Row) (e : Value × Row) : Value × Row := (e.1, f e.2)

variable (f : Row → Row)

theorem earlier_onColumns (e e' : Value × Row) :
    earlier (onColumns f e) (onColumns f e') = earlier e e' := rfl

theorem arranged_onColumns (h : p.SameMatching q) (es : Array (Value × Row)) :
    arranged q (es.map (onColumns f)) = (arranged p es).map (Array.map (onColumns f)) := by
  rw [arranged, arranged, h.kind]
  split_ifs
  · have hsort : Sorting.sort earlier (es.map (onColumns f)).toList = _ :=
      (congrArg _ Array.toList_map).trans (Sorting.sort_map (earlier_onColumns f) es.toList)
    rw [hsort]
    cases Sorting.sort earlier es.toList <;> simp [Except.map, Except.mapError]
  · rfl

theorem nearestPlace_onColumns (h : p.SameMatching q) (es : Array (Value × Row)) (roll : Value) :
    nearestPlace q (es.map (onColumns f)) roll = nearestPlace p es roll := by
  have hbefore : Sorting.placeBefore earlier (es.map (onColumns f)) (roll, []) =
      Sorting.placeBefore earlier es (roll, []) :=
    Sorting.placeBefore_map (fun e => earlier_onColumns f e (roll, [])) es
  have hafter : Sorting.placeAfter earlier (es.map (onColumns f)) (roll, []) =
      Sorting.placeAfter earlier es (roll, []) :=
    Sorting.placeAfter_map (fun e => earlier_onColumns f (roll, []) e) es
  rw [nearestPlace, nearestPlace, hbefore, hafter, h.kind]

section Probe

variable {f} {index index' : JoinIndex} {key : Key}

theorem nearest_onColumns (h : p.SameMatching q)
    (hentries : index'.entries key = (index.entries key).map (onColumns f)) (roll : Value) :
    nearest q index' key roll = (nearest p index key roll).map (Option.map f) := by
  have hempty : ((index.entries key).map (onColumns f)).isEmpty = (index.entries key).isEmpty := by
    simp [Array.isEmpty]
  unfold nearest
  rw [hentries]
  cases key.check with
  | error stop => rfl
  | ok _ =>
    simp only [ok_bind, hempty, nearestPlace_onColumns f h]
    split_ifs
    · rfl
    · cases nearestPlace p (index.entries key) roll with
      | error stop => rfl
      | ok place? =>
        have hat : (place?.bind fun place => ((index.entries key).map (onColumns f))[place]?) =
            (place?.bind fun place => (index.entries key)[place]?).map (onColumns f) := by
          cases place? <;> simp
        simp only [ok_bind, hat]
        cases place?.bind fun place => (index.entries key)[place]? with
        | none => rfl
        | some e =>
          simp only [Option.map_some, onColumns, h.isNear_eq]
          cases p.isNear roll e.1 with
          | error stop => rfl
          | ok near => cases near <;> rfl

theorem partners_onColumns (h : p.SameMatching q) {r r' : JoinRecord} (hkey : r'.key = r.key)
    (hroll : r'.roll = r.roll)
    (hentries : index'.entries r.key = (index.entries r.key).map (onColumns f)) :
    index'.partners q r' = (index.partners p r).map (List.map f) := by
  rw [partners, partners, hkey, hroll, h.kind]
  split_ifs
  · rfl
  · rw [nearest_onColumns h hentries]
    cases nearest p index r.key r.roll with
    | error stop => rfl
    | ok found => cases found <;> rfl
  · rw [hentries]
    cases r.key.check with
    | error stop => rfl
    | ok _ => simp [Except.map, onColumns]

/-- A probe record gives changed rows, if what is assembled of changed columns is changed. -/
theorem probe_onColumns (h : p.SameMatching q) {g : Row → Row} {r r' : JoinRecord}
    (hkey : r'.key = r.key) (hroll : r'.roll = r.roll)
    (hentries : index'.entries r.key = (index.entries r.key).map (onColumns f))
    (hassemble : ∀ built : Option Row,
      (∀ row ∈ built, ∃ e ∈ (index.entries r.key).toList, e.2 = row) →
        q.assemble r'.values (built.map f) = (p.assemble r.values built).map g) :
    index'.probe q r' = (index.probe p r).map (List.map g) := by
  rw [probe, probe, partners_onColumns h hkey hroll hentries, h.keepsUnmatched_eq]
  cases hfound : index.partners p r with
  | error stop => rfl
  | ok found =>
    simp only [Except.map, Except.mapError, ok_bind, List.isEmpty_map]
    split_ifs
    · have hnone := hassemble none (by simp)
      rw [Option.map_none] at hnone
      rw [hnone]
      cases p.assemble r.values none <;> rfl
    · have heach : ∀ built ∈ found, q.assemble r'.values (some (f built)) =
          (p.assemble r.values (some built)).map g := by
        intro built hbuilt
        refine hassemble (some built) fun row hrow => ?_
        obtain rfl := Option.mem_some_iff.1 hrow
        exact exists_entry_of_partner hfound hbuilt
      rw [mapM_map, mapM_congr heach]
      exact mapM_map_results g found

end Probe

/-- An index whose columns are changed. -/
def changed (index : JoinIndex) : JoinIndex :=
  index.map fun there => (there.1, there.2.map (onColumns f))

theorem entries_changed (index : JoinIndex) (key : Key) :
    (index.changed f).entries key = (index.entries key).map (onColumns f) := by
  induction index with
  | nil => simp [changed]
  | cons there index ih =>
    rw [changed, List.map_cons, entries_cons, entries_cons, ← changed, ih]
    split_ifs <;> rfl

theorem insert_changed (key : Key) (e : Value × Row) (index : JoinIndex) :
    (index.changed f).insert key (onColumns f e) = (index.insert key e).changed f := by
  induction index with
  | nil => simp [changed, insert]
  | cons there index ih =>
    rw [changed, List.map_cons, insert, insert, ← changed, ih]
    split_ifs
    · simp [changed]
    · rfl

end JoinIndex

/-- A record whose columns are changed. -/
def JoinRecord.onColumns (f : Row → Row) (r : JoinRecord) : JoinRecord :=
  { r with values := f r.values }

namespace JoinIndex

variable {p q : JoinPlan}

theorem add_changed (h : p.SameMatching q) (f : Row → Row) (index : JoinIndex) (r : JoinRecord) :
    add q (index.changed f) (r.onColumns f) = (add p index r).map (changed f) := by
  have hfindable : isFindable q (r.onColumns f) = isFindable p r := by
    rw [isFindable, isFindable, h.kind]
    rfl
  rw [add, add, hfindable]
  split_ifs
  · have hkey : (r.onColumns f).key = r.key := rfl
    rw [hkey]
    cases r.key.check with
    | error stop => rfl
    | ok _ => exact congrArg Except.ok (insert_changed f r.key (entryOf r) index)
  · rfl

theorem foldlM_add_changed (h : p.SameMatching q) (f : Row → Row) (records : List JoinRecord)
    (index : JoinIndex) :
    (records.map (JoinRecord.onColumns f)).foldlM (add q) (index.changed f) =
      (records.foldlM (add p) index).map (changed f) := by
  induction records generalizing index with
  | nil => rfl
  | cons r records ih =>
    rw [List.map_cons, List.foldlM_cons, List.foldlM_cons, add_changed h]
    cases add p index r with
    | error stop => rfl
    | ok next => exact ih next

/-- The index of records with changed columns is the index of the records with changed columns. -/
theorem ofRecords_changed (h : p.SameMatching q) (f : Row → Row) (records : List JoinRecord) :
    ofRecords q (records.map (JoinRecord.onColumns f)) = (ofRecords p records).map (changed f) := by
  have hfold := foldlM_add_changed h f records []
  rw [ofRecords, ofRecords]
  rw [changed, List.map_nil] at hfold
  rw [hfold]
  cases records.foldlM (add p) [] with
  | error stop => rfl
  | ok gathered =>
    simp only [Except.map, ok_bind, arrange_eq_mapM]
    refine mapM_map_map (h := fun there : Key × Array (Value × Row) =>
      (there.1, there.2.map (onColumns f))) fun there => ?_
    rw [arranged_onColumns f h]
    cases arranged p there.2 <;> rfl

end JoinIndex

namespace JoinPlan

variable {p q : JoinPlan}

/-- What a probe record gives is assembled of it and a built record, or of it alone. -/
theorem assembled_of_answer {built : List JoinRecord} {r : JoinRecord} {rows : List Row}
    (h : p.answer built r = .ok rows) {row : Row} (hrow : row ∈ rows) :
    (∃ s ∈ built, p.assemble r.values (some s.values) = .ok row) ∨
      (p.keepsUnmatched = true ∧ p.assemble r.values none = .ok row) := by
  obtain ⟨index, hindex, hprobe⟩ := bind_eq_ok.1 h
  obtain ⟨found, hfound, hrows⟩ := JoinIndex.probe_eq_ok_iff.1 hprobe
  have hmem : Except.ok row ∈ p.rowsFor r.values found := hrows ▸ List.mem_map_of_mem hrow
  unfold rowsFor at hmem
  split_ifs at hmem with hnone
  · rw [Bool.and_eq_true] at hnone
    exact .inr ⟨hnone.2, (List.mem_singleton.1 hmem).symm⟩
  · obtain ⟨values, hvalues, hassemble⟩ := List.mem_map.1 hmem
    obtain ⟨e, he, rfl⟩ := JoinIndex.exists_entry_of_partner hfound hvalues
    obtain ⟨s, hs, rfl⟩ := JoinIndex.exists_record_of_entry hindex he
    exact .inl ⟨s, hs, hassemble⟩

section Assembled

variable {f k g : Row → Row} {built probed : List JoinRecord}

/-- What a plan assembles of changed columns are changed rows, for these built and probe records. -/
def AssemblesChanged (p q : JoinPlan) (f k g : Row → Row) (built probed : List JoinRecord) : Prop :=
  ∀ r ∈ probed, ∀ built? : Option Row, (∀ row ∈ built?, ∃ s ∈ built, s.values = row) →
    q.assemble (k r.values) (built?.map f) = (p.assemble r.values built?).map g

theorem AssemblesChanged.mono {built' probed' : List JoinRecord}
    (h : p.AssemblesChanged q f k g built probed) (hbuilt : built' ⊆ built)
    (hprobed : probed' ⊆ probed) : p.AssemblesChanged q f k g built' probed' :=
  fun r hr built? hfound => h r (hprobed hr) built? fun row hrow =>
    (hfound row hrow).imp fun _ hs => ⟨hbuilt hs.1, hs.2⟩

/-- A probe record with changed columns gives changed rows. -/
theorem AssemblesChanged.probe_eq (hassemble : p.AssemblesChanged q f k g built probed)
    (h : p.SameMatching q) {index : JoinIndex} (hindex : JoinIndex.ofRecords p built = .ok index)
    {r : JoinRecord} (hr : r ∈ probed) :
    (index.changed f).probe q (r.onColumns k) = (index.probe p r).map (List.map g) := by
  refine JoinIndex.probe_onColumns h rfl rfl (JoinIndex.entries_changed f index r.key) ?_
  refine fun built? hfound => hassemble r hr built? fun row hrow => ?_
  obtain ⟨e, he, rfl⟩ := hfound row hrow
  obtain ⟨s, hs, rfl⟩ := JoinIndex.exists_record_of_entry hindex he
  exact ⟨s, hs, rfl⟩

end Assembled

end JoinPlan

end TablePipeline
