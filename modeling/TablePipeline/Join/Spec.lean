import TablePipeline.KeyEntry
import TablePipeline.Sorting.Order
import TablePipeline.Table.Basic

/-!
Declarations of joins. A declaration is checked against the two tables once and remembers the slots
of its keys and rolling columns; it is planned later, against the tables as they are then.
-/
namespace TablePipeline

/-- The arguments of a join as a caller gives them. -/
structure JoinArgs where
  kind : Arg
  aKeys : Arg
  bKeys : Arg
  aRoll : Arg := .null
  bRoll : Arg := .null
  limit : Arg := .null
  prefixes : Arg := .tuple [.text "1", .text "2"]
  dropUnmatched : Arg := .bool false

/-- The arguments of a join that stand in settings and beside them. -/
def JoinArgs.ofSettings (settings : Settings) (aKeys bKeys aRoll bRoll : Arg) : JoinArgs where
  kind := settings.get "kind" (.text "inner")
  aKeys := aKeys
  bKeys := bKeys
  aRoll := settings.get "a_roll" aRoll
  bRoll := settings.get "b_roll" bRoll
  limit := settings.get "limit" .null
  prefixes := settings.get "col_prefix" (.tuple [.text "1", .text "2"])
  dropUnmatched := settings.get "drop_unmatched" (.bool false)

/-- What a call that declares a join of a kind takes; without a kind, it takes that as well. -/
def JoinKind.signature (kind? : Option JoinKind) : Signature :=
  let placed := ["a", "b", "a_keys", "b_keys"]
  let rolling (call : String) : Signature :=
    ⟨call, placed ++ ["a_roll", "b_roll"], ["col_prefix", "limit", "drop_unmatched"]⟩
  match kind? with
  | none =>
    ⟨"JoinPlanner.__init__()", "self" :: placed,
      ["kind", "a_roll", "b_roll", "limit", "col_prefix", "drop_unmatched"]⟩
  | some .inner => ⟨"inner_join()", placed, ["col_prefix"]⟩
  | some .left => ⟨"left_join()", placed, ["col_prefix"]⟩
  | some .right => ⟨"right_join()", placed, ["col_prefix"]⟩
  | some .forward => rolling "rolling_join_forward()"
  | some .backward => rolling "rolling_join_backward()"

/-- The arguments of the join with the two sides exchanged. -/
def JoinArgs.swapped (args : JoinArgs) : JoinArgs :=
  { args with
    aKeys := args.bKeys, bKeys := args.aKeys, aRoll := args.bRoll, bRoll := args.aRoll
    prefixes :=
      match args.prefixes.items? with
      | some items => .list items.reverse
      | none => args.prefixes }

structure JoinSpec where
  kind : JoinKind
  aKeys : List (Nat × Option Func)
  bKeys : List (Nat × Option Func)
  aRoll? : Option Nat := none
  bRoll? : Option Nat := none
  limit? : Option Value := none
  aPrefix : String
  bPrefix : String
  dropUnmatched : Arg

namespace JoinSpec

def kindOf (arg : Arg) : Except Fault JoinKind :=
  match arg.text?.bind JoinKind.ofName? with
  | some kind => .ok kind
  | none => .error (.schema (.joinKind arg.literal))

/-- A table that makes groups cannot be joined. -/
def requireRows (t : Table) : Except Fault Unit :=
  if t.rules.makesGroups then .error (.schema (.joinOfGroups t.source.uri)) else .ok ()

/-- The two different texts that stand in front of the names of the two sides. -/
def prefixesOf (arg : Arg) : Except Fault (String × String) :=
  match arg.items? with
  | some [.text a, .text b] =>
    if a == "" || b == "" then .error (.schema .joinPrefixes)
    else if a == b then .error (.schema .joinPrefixesEqual)
    else .ok (a, b)
  | _ => .error (.schema .joinPrefixes)

/-- The slots of keys with their collations. -/
def keySlots (t : Table) (entries : List KeyEntry) : Except Fault (List (Nat × Option Func)) := do
  let slots ← t.catalog.resolveNames (entries.map (·.name))
  .ok (slots.zip (entries.map (·.collation?)))

/-- The columns of two rolling arguments. -/
def rollSlots (a b : Table) (aRoll bRoll : Arg) :
    Except Fault ((String × Nat) × (String × Nat)) :=
  match aRoll, bRoll with
  | .text x, .text y =>
    match a.catalog.slotNamed? x, b.catalog.slotNamed? y with
    | some i, some j => .ok ((x, i), (y, j))
    | _, _ => do
      throw (.schema (.joinRollUnknown (Datum.list (← a.names)).literal
        (Datum.list (← b.names)).literal))
  | _, _ => .error (.schema .joinRollForm)

/-- A limit of a rolling join: none, a length of time, or a number that is not negative. -/
def limitOf (limit : Arg) : Except Fault (Option Value) :=
  let refused : Except Fault (Option Value) := .error (.schema (.joinLimit limit.literal))
  match limit with
  | .null => .ok none
  | .duration d => .ok (some (.duration d))
  | .int i => if i < 0 then refused else .ok (some (.int i))
  | .float x =>
    if (Number.float x).compare? (.int 0) == some .lt then refused else .ok (some (.float x))
  | _ => refused

/-- The first value of a column in the first rows of a table. -/
def firstValue (store : Store) (t : Table) (name : String) : Except Fault (Option Value) := do
  let records ← (← t.plan {} false).preview store {}
  .ok ((records.filterMap fun record => record.get? (.text name)).find? fun v => !v.isNull)

/-- Turn a failure that blames the types of two values into one of the declaration. -/
def blameTypes {α : Type} (declared : EvalFault → SchemaFault) (outcome : Except EvalFault α) :
    Except Fault α :=
  outcome.mapError fun fault =>
    if fault.kind == .type then .schema (declared fault) else .eval fault

/-- Check that rolling values can be compared with each other, and their gap with the limit. -/
def checkRolls (store : Store) (a b : Table) (aRoll bRoll : String) (limit? : Option Value) :
    Except Fault Unit := do
  let x? ← firstValue store a aRoll
  let y? ← firstValue store b bRoll
  match x?, y? with
  | some x, some y =>
    let _ ← blameTypes (.joinRollKinds x.kind y.kind) (compareMissingFirst x y)
    match limit? with
    | none => pure ()
    | some limit =>
      let _ ← blameTypes (.joinLimitGap limit.literal x.kind y.kind) do
        Datum.related .le (← Datum.sub y x) limit
      pure ()
  | _, _ => pure ()

/-- A join of two tables, which must not make groups. -/
def ofArgs (store : Store) (a b : Table) (args : JoinArgs) : Except Fault JoinSpec := do
  let kind ← kindOf args.kind
  requireRows a
  requireRows b
  let aEntries ← KeyEntry.listOf "join" args.aKeys
  let bEntries ← KeyEntry.listOf "join" args.bKeys
  if aEntries.length != bEntries.length then
    throw (.schema (.joinKeyCount aEntries.length bEntries.length))
  let (aPrefix, bPrefix) ← prefixesOf args.prefixes
  let aKeys ← keySlots a aEntries
  let bKeys ← keySlots b bEntries
  let spec : JoinSpec :=
    { kind, aKeys, bKeys, aPrefix, bPrefix,
      dropUnmatched := args.dropUnmatched }
  if kind.isRolling then
    let ((aName, aSlot), (bName, bSlot)) ← rollSlots a b args.aRoll args.bRoll
    let limit? ← limitOf args.limit
    checkRolls store a b aName bName limit?
    pure { spec with aRoll? := some aSlot, bRoll? := some bSlot, limit? }
  else if args.limit.isNull then pure spec
  else throw (.schema .joinLimitUnused)

/-- The names of the output columns: those of both tables, each with its text in front. -/
def names (spec : JoinSpec) (a b : Table) : Except Fault (List Value) := do
  let aNames ← a.names
  let bNames ← b.names
  .ok (aNames.map (fun name => .text (spec.aPrefix ++ "_" ++ name.display)) ++
    bNames.map (fun name => .text (spec.bPrefix ++ "_" ++ name.display)))

/-- The places of chosen columns. -/
def positions (names : List Value) (select : Option (List Value)) : Except Fault (List Nat) :=
  match select with
  | none => .ok (List.range names.length)
  | some select => Names.places .join names select

/-- Fail if a key column has been deleted since the join was declared. -/
def requireLive (t : Table) (keys : List (Nat × Option Func)) : Except Fault Unit :=
  if keys.all fun (slot, _) => t.catalog.isLive slot then .ok ()
  else .error (.schema (.joinKeyDeleted t.source.uri))

/-- The slots of the columns at some places. -/
def slotsAt (c : Catalog) (places : List Nat) : Except Fault (List Nat) :=
  places.mapM fun place =>
    match c.live[place]? with
    | some slot => .ok slot
    | none => .error (.eval .indexOutOfRange)

def side (t : Table) (keys : List (Nat × Option Func)) (carry : List Nat) (roll? : Option Nat) :
    JoinSide where
  source := t.source
  transform := RowTransform.ofTable t.catalog t.rules false
  keys := keys
  carry := carry.map fun slot => (slot, t.catalog.formatter? slot)
  roll? := roll?
  batchSize := t.batchSize

/-- An inner join builds the smaller file into the index, the other joins the second table. -/
def buildsA (store : Store) (spec : JoinSpec) (a b : Table) : Except Fault Bool :=
  if spec.kind == .inner then do .ok ((← a.source.size store) ≤ (← b.source.size store))
  else .ok false

/-- The plan of the join on the tables as they are now. -/
def joinPlan (store : Store) (spec : JoinSpec) (a b : Table) (select : Option (List Value))
    (formatted : Bool) : Except Fault JoinPlan := do
  let names ← spec.names a b
  let positions ← positions names select
  if positions.isEmpty then throw (.schema .selectEmpty)
  requireLive a spec.aKeys
  requireLive b spec.bKeys
  let aCount := (← a.names).length
  let aPlaces := ascending (positions.filter (· < aCount))
  let bPlaces := ascending ((positions.filter (aCount ≤ ·)).map (· - aCount))
  let carried := aPlaces ++ bPlaces.map (aCount + ·)
  let aSide := side a spec.aKeys (← slotsAt a.catalog aPlaces) spec.aRoll?
  let bSide := side b spec.bKeys (← slotsAt b.catalog bPlaces) spec.bRoll?
  let firstIsBuilt ← buildsA store spec a b
  pure {
    kind := spec.kind.planned
    a := if formatted then aSide else aSide.withoutFormats
    b := if formatted then bSide else bSide.withoutFormats
    firstIsBuilt
    limit? := spec.limit?
    dropUnmatched := spec.dropUnmatched
    writeIndex := positions.map (placeOf carried)
    names := positions.map fun p => names.getD p .null }

def plan (store : Store) (spec : JoinSpec) (a b : Table) (options : RunOptions)
    (formatted : Bool) : Except Fault Plan := do
  let select ← options.chosenNames (← spec.names a b)
  let join ← spec.joinPlan store a b select formatted
  .ok { names := join.names, options, batchSize := min a.batchSize b.batchSize, work := .join join }

/-- The join in one line. -/
def text (spec : JoinSpec) (a b : Table) : String :=
  s!"JoinedTable({spec.kind.name}: {a.source.uri} x {b.source.uri})"

end JoinSpec

end TablePipeline
