import Mathlib
import TablePipeline.Proofs.JoinedRows
import TablePipeline.Proofs.LaterEdits
import TablePipeline.Proofs.NearestJoin

/-!
Limits and exact matches. A record with the same key and the same rolling value lies at no distance at
all, so a limit that is not below zero lets it be matched. A declaration refuses numbers below zero,
but neither lengths of time below zero nor a NaN, and with these a join matches nothing.
-/
namespace TablePipeline

/-! ### Limits that are accepted -/

namespace JoinSpec

/-- What a limit in a declaration can be: any length of time, and a number unless it is less than
zero. -/
def Accepted : Value → Prop
  | .duration _ => True
  | .int i => 0 ≤ i
  | .float x => (Number.float x).compare? (.int 0) ≠ some .lt
  | _ => False

theorem accepted_of_limitOf {arg : Arg} {limit? : Option Value} (h : limitOf arg = .ok limit?) :
    ∀ limit ∈ limit?, Accepted limit := by
  intro limit hlimit
  obtain rfl := Option.mem_def.1 hlimit
  unfold limitOf at h
  split at h
  · cases h
  · obtain rfl := Option.some_inj.1 (Except.ok.inj h)
    trivial
  · split_ifs at h with hless
    obtain rfl := Option.some_inj.1 (Except.ok.inj h)
    exact not_lt.1 hless
  · split_ifs at h with hless
    obtain rfl := Option.some_inj.1 (Except.ok.inj h)
    simpa [Accepted] using hless
  · cases h

/-- The limit of a declaration has been looked at. -/
theorem accepted_of_ofArgs {store : Store} {a b : Table} {args : JoinArgs} {spec : JoinSpec}
    (h : ofArgs store a b args = .ok spec) : ∀ limit ∈ spec.limit?, Accepted limit := by
  obtain ⟨kind, -, h⟩ := bind_eq_ok.1 h
  obtain ⟨⟨⟩, -, h⟩ := bind_eq_ok.1 h
  obtain ⟨⟨⟩, -, h⟩ := bind_eq_ok.1 h
  obtain ⟨aEntries, -, h⟩ := bind_eq_ok.1 h
  obtain ⟨bEntries, -, h⟩ := bind_eq_ok.1 h
  obtain ⟨-, h⟩ := guard_eq_ok.1 h
  obtain ⟨⟨front, other⟩, -, h⟩ := bind_eq_ok.1 h
  obtain ⟨aKeys, -, h⟩ := bind_eq_ok.1 h
  obtain ⟨bKeys, -, h⟩ := bind_eq_ok.1 h
  split_ifs at h
  · obtain ⟨rolls, -, h⟩ := bind_eq_ok.1 h
    obtain ⟨limit?, hlimit, h⟩ := bind_eq_ok.1 h
    obtain ⟨_, -, h⟩ := bind_eq_ok.1 h
    obtain rfl := Except.ok.inj h
    exact accepted_of_limitOf hlimit
  · obtain rfl := Except.ok.inj h
    simp

end JoinSpec

namespace RollScale

variable {k : RollScale} {limit? : Option Value} {limit : Value}

/-- Whether distances on the scale are told in values like a limit: in numbers between integers, in
lengths of time between points of time. -/
def Measures (k : RollScale) (limit : Value) : Prop :=
  match k with
  | integers => ∃ n, limit.number? = some n
  | _ => ∃ d : Duration, limit = .duration d

/-- A limit that no distance is within, not even none at all: a NaN, or a length of time below
zero. -/
def ShutsOut : Value → Prop
  | .float x => x.isNaN = true
  | .duration d => d.microseconds < 0
  | _ => False

/-- An accepted limit that shuts nothing out bounds the distances, and not below zero. -/
theorem exists_bound (haccepted : JoinSpec.Accepted limit) (hmeasures : k.Measures limit)
    (hopen : ¬ShutsOut limit) :
    ∃ bound, k.bound? limit = some bound ∧
      ((((0 : ℤ) : ℚ) : WithTop ℚ) : WithBot (WithTop ℚ)) ≤ bound := by
  cases k with
  | integers =>
    obtain ⟨n, hn⟩ := hmeasures
    cases limit with
    | int i =>
      exact ⟨_, by simp [bound?, Datum.number?], (coe_le_coe_iff 0 i).2 haccepted⟩
    | float x =>
      obtain ⟨bound, hbound⟩ := Number.exists_rank? (a := .float x)
        (Bool.eq_false_iff.2 hopen)
      refine ⟨bound, by simpa [bound?, Datum.number?] using hbound, ?_⟩
      have hnotLess : compare bound ((((0 : ℤ) : ℚ) : WithTop ℚ) : WithBot (WithTop ℚ)) ≠ .lt := by
        simpa [JoinSpec.Accepted, Number.compare?_eq, hbound] using haccepted
      exact not_lt.1 fun hlt => hnotLess (compare_lt_iff_lt.2 hlt)
    | _ => simp_all [JoinSpec.Accepted, Datum.number?]
  | _ =>
    obtain ⟨d, rfl⟩ := hmeasures
    exact ⟨_, rfl, (coe_le_coe_iff 0 _).2 (not_lt.1 hopen)⟩

/-- Accepted limits that shut nothing out allow an exact match. -/
theorem within_zero (haccepted : ∀ limit ∈ limit?, JoinSpec.Accepted limit)
    (hmeasures : ∀ limit ∈ limit?, k.Measures limit) (hopen : ∀ limit ∈ limit?, ¬ShutsOut limit) :
    k.Suits limit? ∧ k.Within limit? 0 := by
  have hbound : ∀ limit ∈ limit?, ∃ bound, k.bound? limit = some bound ∧
      ((((0 : ℤ) : ℚ) : WithTop ℚ) : WithBot (WithTop ℚ)) ≤ bound :=
    fun limit hl => exists_bound (haccepted limit hl) (hmeasures limit hl) (hopen limit hl)
  refine ⟨fun limit hl => (hbound limit hl).imp fun _ h => h.1, fun limit hl bound hb => ?_⟩
  obtain ⟨bound', hbound', hle⟩ := hbound limit hl
  obtain rfl := Option.some_inj.1 (hbound'.symm.trans (Option.mem_def.1 hb))
  exact hle

/-- What shuts out everything is a NaN between integers, or a length of time that bounds every
distance below zero. -/
theorem ShutsOut.cases (hmeasures : k.Measures limit) (h : ShutsOut limit) :
    (k = integers ∧ ∃ n, limit.number? = some n ∧ n.rank? = none) ∨
      (k.Suits (some limit) ∧ ∀ gap, 0 ≤ gap → ¬k.Within (some limit) gap) := by
  cases limit with
  | float x =>
    cases k with
    | integers => exact .inl ⟨rfl, .float x, rfl, if_pos h⟩
    | _ => simp [Measures] at hmeasures
  | duration d =>
    cases k with
    | integers => simp [Measures, Datum.number?] at hmeasures
    | _ =>
      refine .inr ⟨fun limit hl => ?_, fun gap hgap hwithin => ?_⟩
      · obtain rfl := Option.some_inj.1 hl
        exact ⟨_, rfl⟩
      · have hle := (coe_le_coe_iff gap d.microseconds).1 (hwithin _ rfl _ rfl)
        exact absurd h (not_lt.2 (hgap.trans hle))
  | _ => simp [ShutsOut] at h

end RollScale

/-! ### Exact matches -/

namespace JoinPlan

variable {p : JoinPlan} {k : RollScale}

/-- A built record matches a probe record exactly: their keys are equal values, with nothing missing
and no NaN, and their rolling values stand at the same place. -/
structure Exact (k : RollScale) (record s : JoinRecord) : Prop where
  joins : Key.joins s.key record.key = true
  clean : record.key.hasNaN = false
  place : ∃ y, k.place? record.roll = some y ∧ k.place? s.roll = some y

/-- An exact match is one in the records as they are put aside and read back, and the other way. -/
theorem exact_putAside_iff {record s : JoinRecord} (hrecord : record.key.check = .ok ())
    (hs : s.key.check = .ok ()) : Exact k record.putAside s.putAside ↔ Exact k record s := by
  have hplace : ∀ r : JoinRecord, k.place? r.putAside.roll = k.place? r.roll :=
    fun r => RollScale.place?_forget k true r.roll
  constructor
  · rintro ⟨hjoins, hclean, hroll⟩
    refine ⟨?_, by simpa [JoinRecord.putAside] using hclean, by simpa only [hplace] using hroll⟩
    simp only [Key.joins, JoinRecord.putAside, Key.hasNull_forget, Bool.and_eq_true] at hjoins ⊢
    exact ⟨hjoins.1, Key.equal_of_forget hs hjoins.2⟩
  · rintro ⟨hjoins, hclean, hroll⟩
    have hequal : Key.equal s.key record.key = true := by
      simp only [Key.joins, Bool.and_eq_true] at hjoins
      exact hjoins.2
    have hsame : record.putAside.key = record.key := Key.forget_of_hasNaN true hrecord hclean
    have hsame' : s.putAside.key = s.key :=
      Key.forget_of_hasNaN true hs ((Key.hasNaN_of_equal hs hequal).trans hclean)
    exact ⟨by rw [hsame, hsame', hjoins], by rw [hsame, hclean], by simpa only [hplace] using hroll⟩

/-- An exact match is at no distance, in either direction. -/
theorem reaches_zero_iff {record s : JoinRecord} (hclean : record.key.hasNaN = false)
    (hwithin : k.Within p.limit? 0) : p.Reaches k record s 0 ↔ Exact k record s := by
  constructor
  · rintro ⟨hjoins, y, x, hy, hx, hgap, -⟩
    have hsame : x = y := by
      unfold gap at hgap
      split_ifs at hgap <;> omega
    exact ⟨hjoins, hclean, y, hy, hsame ▸ hx⟩
  · rintro ⟨hjoins, -, y, hy, hs⟩
    exact ⟨hjoins, y, y, hy, hs, by simp [gap], le_rfl, hwithin⟩

theorem Nearest.mem {built : List JoinRecord} {record s : JoinRecord}
    (h : p.Nearest k built record (some s)) : s ∈ built := by
  cases h with
  | hit split _ _ _ => simp [split]

/-- The nearest record is an exact match if there is one: everything else that may be matched is not
nearer, and nothing is nearer than no distance. -/
theorem Nearest.exact {built : List JoinRecord} {record s : JoinRecord} {found : Option JoinRecord}
    (h : p.Nearest k built record found) (hwithin : k.Within p.limit? 0) (hs : s ∈ built)
    (hexact : Exact k record s) : ∃ s' ∈ built, found = some s' ∧ Exact k record s' := by
  have hzero := (reaches_zero_iff hexact.clean hwithin).2 hexact
  cases h with
  | miss nothing => exact absurd hzero (nothing s hs 0)
  | @hit before after s' gap split reaches earlier later =>
    have hmem : s' ∈ built := by simp [split]
    have hnonneg : 0 ≤ gap := by
      obtain ⟨-, -, -, -, -, -, hnonneg, -⟩ := reaches
      exact hnonneg
    have hgap : gap = 0 := by
      rw [split, List.mem_append, List.mem_cons] at hs
      rcases hs with hs | rfl | hs
      · have hle := earlier s hs 0 hzero
        split_ifs at hle <;> omega
      · obtain ⟨-, y, x, hy, hx, hgap, -⟩ := reaches
        obtain ⟨-, y', x', hy', hx', hgap', -⟩ := hzero
        obtain rfl := Option.some_inj.1 (hy.symm.trans hy')
        obtain rfl := Option.some_inj.1 (hx.symm.trans hx')
        rw [hgap, hgap']
      · have hle := later s hs 0 hzero
        split_ifs at hle <;> omega
    subst hgap
    exact ⟨s', hmem, rfl, (reaches_zero_iff hexact.clean hwithin).1 reaches⟩

/-- Between integers no distance is within a NaN. -/
theorem isNear_of_rank? {limit : Value} {n : Number} {probed built : Value} {y x : ℤ}
    (hlimit : p.limit? = some limit) (hn : limit.number? = some n) (hrank : n.rank? = none)
    (hy : RollScale.integers.place? probed = some y)
    (hx : RollScale.integers.place? built = some x) : p.isNear probed built = .ok false := by
  have hfar : ∀ gap : ℤ, Datum.related .le (.int gap) limit = .ok false := by
    intro gap
    rw [RollScale.related_of_number .le rfl hn, Number.compare?_eq, hrank]
    cases (Number.int gap).rank? <;> rfl
  simp only [isNear, hlimit, RollScale.sub_integers hy hx, RollScale.sub_integers hx hy]
  split_ifs <;> exact hfar _

/-- A join finds nothing if nothing is near enough. -/
theorem partners_of_far (hkind : p.kind.isRolling = true)
    (hfar : ∀ {probed built : Value} {y x : ℤ}, k.place? probed = some y →
      k.place? built = some x → p.isNear probed built = .ok false)
    {built : List JoinRecord} {record : JoinRecord} (hkeys : ∀ s ∈ built, s.key.check = .ok ())
    (hscale : ∀ s ∈ built, OnScale k s) (hcheck : record.key.check = .ok ())
    (hroll : OnScale k record) :
    ∃ index, JoinIndex.ofRecords p built = .ok index ∧ index.partners p record = .ok [] := by
  obtain ⟨index, hindex, hentries⟩ := ofRecords_rolling hkind hkeys hscale
  refine ⟨index, hindex, ?_⟩
  cases hkey : record.key.hasNull with
  | true => exact partners_of_isNull hkind hcheck (.inl hkey)
  | false =>
    rcases hroll with hnull | ⟨y, hy⟩
    · exact partners_of_isNull hkind hcheck (.inr hnull)
    · have hborder := border_nearest p k built record.key y
      rw [partners_eq_border hkind (hentries record.key) hscale hkey hcheck hy]
      split at hborder
      · rename_i e he
        obtain ⟨before, s, after, hsplit, rfl, hs, -⟩ := hborder
        obtain ⟨x, hx⟩ := ((isFound_iff hkind (hscale s (by simp [hsplit])) hkey).1 hs).2
        rw [he]
        simp [withinLimit, JoinIndex.entryOf, hfar hy hx]
      · rename_i he
        rw [he]
        simp [withinLimit]

/-- Probe records for which nothing is found are put out with missing values or not at all. -/
theorem answer_of_partners_nil (hfits : p.Fits)
    {built : List JoinRecord} {record : JoinRecord} {index : JoinIndex}
    (hindex : JoinIndex.ofRecords p built = .ok index)
    (hpartners : index.partners p record = .ok [])
    (hwidth : record.values.length = p.probe.carry.length) :
    ∃ rows, p.answer built record = .ok rows ∧ p.rowsFor record.values [] = rows.map .ok := by
  obtain ⟨row, hrow⟩ : ∃ row, p.assemble record.values none = .ok row :=
    exists_assemble hfits hwidth (by simp)
  have hrows : ∃ rows : List Row, p.rowsFor record.values [] = rows.map .ok := by
    unfold rowsFor
    split_ifs
    · exact ⟨[row], by simp [hrow]⟩
    · exact ⟨[], rfl⟩
  obtain ⟨rows, hrows⟩ := hrows
  exact ⟨rows, bind_eq_ok.2 ⟨index, hindex, JoinIndex.probe_eq_ok_iff.2 ⟨_, hpartners, hrows⟩⟩, hrows⟩

end JoinPlan

namespace Backend

variable {b : Backend} {p : JoinPlan} {k : RollScale}

/-- With a limit that shuts out everything, a probe record finds nothing in its bucket. -/
theorem answer_beside_shut (hkind : p.kind.isRolling = true) {limit : Value}
    (hlimit : p.limit? = some limit) (hmeasures : k.Measures limit)
    (hshut : RollScale.ShutsOut limit) (hfits : p.Fits)
    {built probed : Outcome JoinRecord} (hbuilt : b.Separable built) (hprobed : b.Separable probed)
    (hbuiltRecords : ∀ s ∈ built.items,
      JoinPlan.OnScale k s ∧ s.values.length = p.build.carry.length)
    (hprobedRecords : ∀ r ∈ probed.items,
      JoinPlan.OnScale k r ∧ r.values.length = p.probe.carry.length)
    (hhash : b.partitioning.Consistent (built.items.map fun s => s.key)
      (probed.items.map fun r => r.key)) :
    ∀ r ∈ probed.items, ∃ rows, p.answer (b.beside built.items r) r.putAside = .ok rows ∧
      p.rowsFor r.putAside.values [] = rows.map .ok := by
  intro r hr
  rcases hshut.cases hmeasures with ⟨rfl, n, hn, hrank⟩ | ⟨hsuits, hbelow⟩
  · obtain ⟨hcheck, hroll, hwidth⟩ := onScale_records hprobed hprobedRecords
      (mem_readBack.2 ⟨r, hr, rfl, rfl⟩)
    have hrecords := fun s (hs : s ∈ b.beside built.items r) =>
      onScale_records hbuilt hbuiltRecords hs
    obtain ⟨index, hindex, hpartners⟩ := JoinPlan.partners_of_far hkind
      (JoinPlan.isNear_of_rank? hlimit hn hrank) (fun s hs => (hrecords s hs).1)
      (fun s hs => (hrecords s hs).2.1) hcheck hroll
    exact JoinPlan.answer_of_partners_nil hfits hindex hpartners hwidth
  · obtain ⟨found, rows, hnearest, hrows, hfound⟩ := answer_beside_nearest hkind
      (hlimit ▸ hsuits) hfits hbuilt hprobed hbuiltRecords hprobedRecords hhash r hr
    cases hnearest with
    | hit _ reaches _ _ =>
      obtain ⟨-, -, -, -, -, -, hnonneg, hwithin⟩ := reaches
      exact absurd (hlimit ▸ hwithin) (hbelow _ hnonneg)
    | miss _ => exact ⟨rows, hrows, hfound⟩

/-- With an accepted limit, what a probe record finds in its bucket is an exact match wherever there
is one, unless the limit shuts out everything. -/
theorem answer_beside_exact (hkind : p.kind.isRolling = true)
    (haccepted : ∀ limit ∈ p.limit?, JoinSpec.Accepted limit)
    (hmeasures : ∀ limit ∈ p.limit?, k.Measures limit) (hfits : p.Fits)
    {built probed : Outcome JoinRecord} (hbuilt : b.Separable built) (hprobed : b.Separable probed)
    (hbuiltRecords : ∀ s ∈ built.items,
      JoinPlan.OnScale k s ∧ s.values.length = p.build.carry.length)
    (hprobedRecords : ∀ r ∈ probed.items,
      JoinPlan.OnScale k r ∧ r.values.length = p.probe.carry.length)
    (hhash : b.partitioning.Consistent (built.items.map fun s => s.key)
      (probed.items.map fun r => r.key)) :
    ∀ r ∈ probed.items, ∃ (found : Option JoinRecord) (rows : List Row),
      (((∀ limit ∈ p.limit?, ¬RollScale.ShutsOut limit) →
          ∀ s ∈ built.items, JoinPlan.Exact k r s →
            ∃ s' ∈ built.items, found = some s' ∧ JoinPlan.Exact k r s') ∧
        ((∃ limit ∈ p.limit?, RollScale.ShutsOut limit) → found = none)) ∧
      p.answer (b.beside built.items r) r.putAside = .ok rows ∧
        p.rowsFor r.putAside.values (found.toList.map fun s => s.putAside.values) =
          rows.map .ok := by
  by_cases hopen : ∀ limit ∈ p.limit?, ¬RollScale.ShutsOut limit
  · obtain ⟨hsuits, hwithin⟩ := RollScale.within_zero haccepted hmeasures hopen
    intro r hr
    obtain ⟨found, rows, hnearest, hrows, hfound⟩ := answer_beside_nearest hkind hsuits hfits hbuilt
      hprobed hbuiltRecords hprobedRecords hhash r hr
    have hexact_iff : ∀ s ∈ built.items,
        (JoinPlan.Exact k r.putAside s.putAside ↔ JoinPlan.Exact k r s) :=
      fun s hs => JoinPlan.exact_putAside_iff (hprobed.placed r hr).1 (hbuilt.placed s hs).1
    obtain ⟨origin, rfl, horigin⟩ : ∃ origin : Option JoinRecord,
        found = origin.map JoinRecord.putAside ∧ ∀ s ∈ origin, s ∈ built.items := by
      cases found with
      | none => exact ⟨none, rfl, by simp⟩
      | some t =>
        obtain ⟨s, hs, rfl⟩ := List.mem_map.1 hnearest.mem
        exact ⟨some s, rfl, by simpa using hs⟩
    refine ⟨origin, rows, ⟨fun _ s hs hexact => ?_, fun ⟨limit, hl, hshut⟩ =>
      absurd hshut (hopen limit hl)⟩, hrows, ?_⟩
    · obtain ⟨t, -, hfound', hexact'⟩ := hnearest.exact hwithin (List.mem_map_of_mem hs)
        ((hexact_iff s hs).2 hexact)
      obtain ⟨s', rfl, rfl⟩ := Option.map_eq_some_iff.1 hfound'
      exact ⟨s', horigin s' rfl, rfl, (hexact_iff s' (horigin s' rfl)).1 hexact'⟩
    · rw [← hfound]
      cases origin <;> rfl
  · push Not at hopen
    obtain ⟨limit, hlimit, hshut⟩ := hopen
    intro r hr
    obtain ⟨rows, hrows, hfound⟩ := answer_beside_shut hkind hlimit (hmeasures limit hlimit) hshut hfits
      hbuilt hprobed hbuiltRecords hprobedRecords hhash r hr
    exact ⟨none, rows, ⟨fun hopen => absurd hshut (hopen limit hlimit), fun _ => rfl⟩, hrows, hfound⟩

/-- Every record of a side has the columns that the side brings along. -/
theorem length_values_of_mem {store : Store} {stage : Stage} {side : JoinSide} {r : JoinRecord}
    (h : r ∈ (b.recordsOfSide store stage side).items) : r.values.length = side.carry.length := by
  obtain ⟨x, -, hr⟩ := JoinSide.exists_row_of_mem_recordsOf (mem_workThrough h)
  have hvalues : side.carry.mapM (JoinSide.through x) = .ok r.values := by
    obtain ⟨key, -, hr⟩ := bind_eq_ok.1 hr
    split at hr <;>
    · obtain ⟨roll, -, hr⟩ := bind_eq_ok.1 hr
      obtain ⟨values, hvalues, hr⟩ := bind_eq_ok.1 hr
      obtain rfl := Except.ok.inj hr
      exact hvalues
  simpa using congrArg List.length (mapM_eq_ok_iff.1 hvalues).symm

/-- A rolling join with a limit that was accepted, between values of which it measures the distance.
The join finds something for each probe record, and puts out what it found. Where there is an exact
match, it finds one, in both directions; but a limit that shuts out everything, which a NaN and a
length of time below zero do, leaves every probe record without a match. -/
theorem output_exact {declaredOn planned store : Store} {first second s t : Table} {args : JoinArgs}
    {spec : JoinSpec} {select : Option (List Value)} {formatted : Bool} {plan : Plan}
    (hdeclared : JoinSpec.ofArgs declaredOn first second args = .ok spec)
    (hkind : spec.kind.isRolling = true) (hmeasures : ∀ limit ∈ spec.limit?, k.Measures limit)
    (hjoin : spec.joinPlan planned s t select formatted = .ok p) (hwork : plan.work = .join p)
    (hbuilt : b.Separable (b.recordsOfSide store .joinBuild p.build))
    (hprobed : b.Separable (b.recordsOfSide store .joinProbe p.probe))
    (hbuiltScale : ∀ r ∈ (b.recordsOfSide store .joinBuild p.build).items, JoinPlan.OnScale k r)
    (hprobedScale : ∀ r ∈ (b.recordsOfSide store .joinProbe p.probe).items, JoinPlan.OnScale k r)
    (hhash : b.partitioning.Consistent
      ((b.recordsOfSide store .joinBuild p.build).items.map fun r => r.key)
      ((b.recordsOfSide store .joinProbe p.probe).items.map fun r => r.key)) :
    let built := (b.recordsOfSide store .joinBuild p.build).items
    let probed := (b.recordsOfSide store .joinProbe p.probe).items
    (b.output store plan).fault = none ∧
      ∃ found : JoinRecord → Option JoinRecord,
        ((b.output store plan).items.map .ok).Perm (probed.flatMap fun r =>
          p.rowsFor r.putAside.values ((found r).toList.map fun s => s.putAside.values)) ∧
        ∀ r ∈ probed,
          ((∀ limit ∈ spec.limit?, ¬RollScale.ShutsOut limit) →
            ∀ s ∈ built, JoinPlan.Exact k r s →
              ∃ s' ∈ built, found r = some s' ∧ JoinPlan.Exact k r s') ∧
          ((∃ limit ∈ spec.limit?, RollScale.ShutsOut limit) → found r = none) := by
  intro built probed
  have hplanned : p.kind = spec.kind.planned ∧ p.limit? = spec.limit? := by
    obtain ⟨names, aNames, positions, aSlots, bSlots, first, -, -, -, -, -, -, -, -, -, rfl⟩ :=
      JoinSpec.joinPlan_eq_ok_iff.1 hjoin
    exact ⟨rfl, rfl⟩
  have hroll : p.kind.isRolling = true := by
    rw [hplanned.1]
    cases hk : spec.kind <;> simp_all [JoinKind.planned, JoinKind.isRolling]
  rw [← hplanned.2] at hmeasures ⊢
  have hanswer := answer_beside_exact hroll
    (hplanned.2 ▸ JoinSpec.accepted_of_ofArgs hdeclared) hmeasures
    (JoinSpec.fits_of_joinPlan hjoin) hbuilt hprobed
    (fun r hr => ⟨hbuiltScale r hr, length_values_of_mem hr⟩)
    (fun r hr => ⟨hprobedScale r hr, length_values_of_mem hr⟩) hhash
  choose! found rows hexact hrows hfound using hanswer
  obtain ⟨hfault, -, hperm⟩ := joinAll_of_ok hbuilt hprobed fun r hr => ⟨_, hrows r hr⟩
  have hmade : (probed.flatMap fun r => made (p.answer (b.beside built r) r.putAside)) =
      probed.flatMap rows := List.flatMap_congr fun r hr => by rw [hrows r hr, made_ok]
  simp only [output, hwork]
  refine ⟨hfault, found, ?_, hexact⟩
  rw [List.flatMap_congr hfound, ← List.map_flatMap]
  exact (hmade ▸ hperm).map _

end Backend

/-! ### Two days joined with themselves -/

/-- The file with the second column as days of a month. -/
def datedTable : Table :=
  { sampleTable with
    catalog := {
      slots := [{ name := .text "k" },
        { name := .text "v", type := .date (some "%d"),
          parser? := some (ColumnType.date (some "%d")).parser }]
      order := [0, 1]
      sourceWidth := 2
      formatters := [(1, (ColumnType.date (some "%d")).formatter)] } }

theorem edit_dated : sampleTable.edit sampleStore (.setType (.text "v") (.text "date:%d")) =
    (.ok (), datedTable) :=
  Table.edit_of_steps rfl (dryRun_sample rfl rfl rfl)

def firstDay : Date := { year := 1900, month := 1, day := 1 }

def secondDay : Date := { year := 1900, month := 1, day := 2 }

theorem firstValue_dated :
    JoinSpec.firstValue sampleStore datedTable "v" = .ok (some (.date firstDay)) := by
  have hplan : ∃ p, datedTable.plan {} false = .ok p ∧
      p.names = [.text "k", .text "v"] ∧ p.sample sampleStore 10 =
        ⟨[[.text "a", .date firstDay], [.text "b", .date secondDay]], none⟩ := by
    refine ⟨_, rfl, rfl, ?_⟩
    simp only [Plan.sample, datedTable, sampleTable, sample_ten]
    rfl
  obtain ⟨p, hplan, hnames, hsample⟩ := hplan
  simp only [JoinSpec.firstValue, hplan, ok_bind, Plan.preview, hsample, hnames]
  rfl

/-- The join of the days with themselves, each with the next one within a limit. -/
def dayJoin (limit : Duration) : JoinSpec where
  kind := .forward
  aKeys := [(0, none)]
  bKeys := [(0, none)]
  aRoll? := some 1
  bRoll? := some 1
  limit? := some (.duration limit)
  aPrefix := "1"
  bPrefix := "2"
  dropUnmatched := .bool false

/-- The limit can be any length of time. -/
theorem ofArgs_dayJoin (limit : Duration) : JoinSpec.ofArgs sampleStore datedTable datedTable
    { kind := .text "asof_forward", aKeys := .text "k", bKeys := .text "k", aRoll := .text "v",
      bRoll := .text "v", limit := .duration limit } = .ok (dayJoin limit) := by
  have hcompare : compareMissingFirst (.date firstDay) (.date firstDay) = .ok .eq := by
    cbv
  obtain ⟨gap, hgap⟩ : ∃ gap, Datum.sub (.date firstDay : Value) (.date firstDay) =
      .ok (.duration gap) := ⟨_, rfl⟩
  have hrolls : JoinSpec.checkRolls sampleStore datedTable datedTable "v" "v"
      (some (.duration limit)) = .ok () := by
    simp only [JoinSpec.checkRolls, firstValue_dated, ok_bind, JoinSpec.blameTypes, hcompare, hgap,
      RollScale.related_duration]
    rfl
  have hkind : JoinSpec.kindOf (.text "asof_forward") = .ok .forward := by cbv
  have hentries : KeyEntry.listOf "join" (.text "k") = .ok [⟨none, "k"⟩] := by cbv
  have hprefixes : JoinSpec.prefixesOf (.tuple [.text "1", .text "2"]) = .ok ("1", "2") := by cbv
  have hkeys : JoinSpec.keySlots datedTable [⟨none, "k"⟩] = .ok [(0, none)] := by cbv
  have hslots : JoinSpec.rollSlots datedTable datedTable (.text "v") (.text "v") =
      .ok (("v", 1), ("v", 1)) := by cbv
  have hlimit : JoinSpec.limitOf (.duration limit) = .ok (some (.duration limit)) := rfl
  simp only [JoinSpec.ofArgs, hkind, hprefixes, hentries, hkeys, hslots, hlimit, hrolls, ok_bind]
  rfl

def daySide : JoinSide where
  source := sampleSource
  transform := RowTransform.ofTable datedTable.catalog {} false
  keys := [(0, none)]
  carry := [(0, none), (1, none)]
  roll? := some 1
  batchSize := 1

def dayJoinPlan (limit : Duration) : JoinPlan where
  kind := .forward
  a := daySide
  b := daySide
  firstIsBuilt := false
  limit? := some (.duration limit)
  dropUnmatched := .bool false
  writeIndex := [0, 1, 2, 3]
  names := [.text "1_k", .text "1_v", .text "2_k", .text "2_v"]

theorem joinPlan_dayJoin (limit : Duration) :
    (dayJoin limit).joinPlan sampleStore datedTable datedTable none false =
      .ok (dayJoinPlan limit) := by
  cbv

def dayRecord (key : String) (day : Date) : JoinRecord :=
  { key := [.text key], roll := .date day, values := [.text key, .date day] }

theorem recordsOfSide_days (stage : Stage) :
    oneBucket.recordsOfSide sampleStore stage daySide =
      { items := [dayRecord "a" firstDay, dayRecord "b" secondDay] } := by
  have hbatches : (sampleSource.rows sampleStore).numbered.batches 1 = _ := batches_sample
  rw [Backend.recordsOfSide, Backend.workThrough]
  simp only [daySide, hbatches]
  rfl

def dayPlan (limit : Duration) : Plan where
  names := (dayJoinPlan limit).names
  options := {}
  batchSize := 1
  work := .join (dayJoinPlan limit)

theorem exact_days : JoinPlan.Exact .days (dayRecord "a" firstDay) (dayRecord "a" firstDay) ∧
    JoinPlan.Exact .days (dayRecord "b" secondDay) (dayRecord "b" secondDay) :=
  ⟨⟨by decide, rfl, _, rfl, rfl⟩, ⟨by decide, rfl, _, rfl, rfl⟩⟩

/-- Within a day each row is matched with itself. -/
theorem output_exact_days :
    ∃ found : JoinRecord → Option JoinRecord,
      ((oneBucket.output sampleStore (dayPlan (.ofParts 1 0 0))).items.map .ok).Perm
        ([dayRecord "a" firstDay, dayRecord "b" secondDay].flatMap fun r =>
          (dayJoinPlan (.ofParts 1 0 0)).rowsFor r.putAside.values
            ((found r).toList.map fun s => s.putAside.values)) ∧
      ∀ r ∈ [dayRecord "a" firstDay, dayRecord "b" secondDay],
        ∃ s, found r = some s ∧ JoinPlan.Exact .days r s := by
  have hseparable : ∀ stage, oneBucket.Separable (oneBucket.recordsOfSide sampleStore stage daySide) := by
    intro stage
    rw [recordsOfSide_days]
    refine ⟨rfl, rfl, ?_⟩
    simp only [List.forall_mem_cons, List.not_mem_nil, false_imp_iff, implies_true, and_true]
    exact ⟨⟨rfl, by decide⟩, rfl, by decide⟩
  have hscale : ∀ stage, ∀ r ∈ (oneBucket.recordsOfSide sampleStore stage daySide).items,
      JoinPlan.OnScale .days r := by
    intro stage
    rw [recordsOfSide_days]
    simp only [List.forall_mem_cons, List.not_mem_nil, false_imp_iff, implies_true, and_true]
    exact ⟨.inr ⟨_, rfl⟩, .inr ⟨_, rfl⟩⟩
  have hhash : oneBucket.partitioning.Consistent [[.text "a"], [.text "b"]]
      [[.text "a"], [.text "b"]] := by decide +kernel
  have hmeasures : ∀ limit ∈ (dayJoin (.ofParts 1 0 0)).limit?, RollScale.days.Measures limit := by
    intro limit hl
    obtain rfl := Option.some_inj.1 hl
    exact ⟨_, rfl⟩
  have hopen : ∀ limit ∈ (dayJoin (.ofParts 1 0 0)).limit?, ¬RollScale.ShutsOut limit := by
    intro limit hl
    obtain rfl := Option.some_inj.1 hl
    exact not_lt.2 (by decide)
  have hside : (dayJoinPlan (.ofParts 1 0 0)).build = daySide ∧
      (dayJoinPlan (.ofParts 1 0 0)).probe = daySide := ⟨rfl, rfl⟩
  obtain ⟨-, found, hperm, hfound⟩ := Backend.output_exact (ofArgs_dayJoin (.ofParts 1 0 0)) rfl
    hmeasures (joinPlan_dayJoin _) (rfl : (dayPlan (.ofParts 1 0 0)).work = _)
    (hside.1 ▸ hseparable _) (hside.2 ▸ hseparable _) (hside.1 ▸ hscale _) (hside.2 ▸ hscale _)
    (by simpa only [hside, recordsOfSide_days, List.map_cons, List.map_nil, dayRecord] using hhash)
  simp only [hside, recordsOfSide_days] at hperm hfound
  refine ⟨found, hperm, fun r hr => ?_⟩
  have hself : JoinPlan.Exact .days r r := by
    rcases List.mem_pair.1 hr with rfl | rfl
    · exact exact_days.1
    · exact exact_days.2
  obtain ⟨s, -, hs⟩ := (hfound r hr).1 hopen r hr hself
  exact ⟨s, hs⟩

/-- A declaration takes a length of time below zero as the limit. Both rows of the file have the same
key and day as themselves, but neither is matched. -/
theorem output_days_below_zero :
    sampleTable.edit sampleStore (.setType (.text "v") (.text "date:%d")) = (.ok (), datedTable) ∧
      JoinSpec.ofArgs sampleStore datedTable datedTable
        { kind := .text "asof_forward", aKeys := .text "k", bKeys := .text "k", aRoll := .text "v",
          bRoll := .text "v", limit := .duration (.ofParts (-1) 0 0) } =
        .ok (dayJoin (.ofParts (-1) 0 0)) ∧
      (dayJoin (.ofParts (-1) 0 0)).joinPlan sampleStore datedTable datedTable none false =
        .ok (dayJoinPlan (.ofParts (-1) 0 0)) ∧
      (∀ stage, oneBucket.recordsOfSide sampleStore stage daySide =
        { items := [dayRecord "a" firstDay, dayRecord "b" secondDay] }) ∧
      JoinPlan.Exact .days (dayRecord "a" firstDay) (dayRecord "a" firstDay) ∧
      JoinPlan.Exact .days (dayRecord "b" secondDay) (dayRecord "b" secondDay) ∧
      oneBucket.output sampleStore (dayPlan (.ofParts (-1) 0 0)) =
        { items := [[.text "a", .date firstDay, .null, .null],
            [.text "b", .date secondDay, .null, .null]] } := by
  refine ⟨edit_dated, ofArgs_dayJoin _, joinPlan_dayJoin _, recordsOfSide_days, exact_days.1,
    exact_days.2, ?_⟩
  · have hside : (dayJoinPlan (.ofParts (-1) 0 0)).build = daySide ∧
        (dayJoinPlan (.ofParts (-1) 0 0)).probe = daySide := ⟨rfl, rfl⟩
    simp only [Backend.output, dayPlan, hside, recordsOfSide_days]
    cbv

end TablePipeline
