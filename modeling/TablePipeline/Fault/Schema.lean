import TablePipeline.Fault.Eval

/-!
Mistakes in the definition of a table, a join, a run or a sort. Each has a stable code, a message
and, mostly, a hint that says what to change. What is shown of an argument is its literal form.
-/
namespace TablePipeline

/-- Where a selected column was looked for. -/
inductive SelectScope where
  | table
  | group
  | join
  deriving DecidableEq, Repr

/-- The two ends of a file path: what it is for. -/
structure PathRole where
  code : String
  what : String
  deriving DecidableEq, Repr

inductive SchemaFault where
  | unknownAggregate (shown : String)
  | optionNames (option : String)
  | optionBatch (shown : String)
  | optionWorkers (shown : String)
  | tooManyWorkers (count : Int)
  | optionFlag (option : String)
  | selectAndExclude
  | selectEmpty
  | excludeAll
  | typeTag (shown : String)
  | typeUnknown (shown : String)
  | parserNotFunction
  | formatterNotFunction
  | operationNotFunction
  | filterNotFunction
  | pathKind (role : PathRole) (kind : String)
  | duplicateNames (shown : String)
  | keyForm (what : String)
  | keyEntry (what shown : String)
  | unknownName (shown : String) (live : List String)
  | unknownNames (shown : String) (live : List String)
  | derivedColumn (shown : String)
  | inPlaceCount
  | newNameForm
  | newNameTaken (name : String)
  | reorderNames (live : List String)
  | renameCount (got : Nat) (live : List String)
  | renameNames
  | aggregateCount (names columns : Nat)
  | aggregateNames (shown : String)
  | selectUnknown (scope : SelectScope) (shown : String) (available : List String)
  | nothingToGroup
  | deadKeys (shown : String)
  | deadSources (shown : String)
  | previewSize (name shown : String)
  | headSize (shown : String)
  | sourceForm (uri : String)
  | sourceHeader
  | sinkForm (uri : String)
  | sortOfGroups
  | sortChunk (shown : String)
  | sortChunkSize (shown : String)
  | sortOrder (shown : String)
  | sortColumn (name : String) (live : List String)
  | joinInput
  | joinKind (shown : String)
  | joinOfGroups (uri : String)
  | joinKeyCount (left right : Nat)
  | joinPrefixes
  | joinPrefixesEqual
  | joinRollForm
  | joinRollUnknown (left right : String)
  | joinLimit (shown : String)
  | joinLimitUnused
  | joinLimitGap (shown left right : String) (cause : EvalFault)
  | joinRollKinds (left right : String) (cause : EvalFault)
  | joinKeyDeleted (uri : String)
  | planKind (shown : String)
  | computeInput (kind : String)

namespace SchemaFault

def code : SchemaFault → String
  | unknownAggregate _ => "E_AGGREGATE_FUNC"
  | optionNames _ => "E_OPTIONS_COLUMNS"
  | optionBatch _ => "E_OPTIONS_BATCH_SIZE"
  | optionWorkers _ | tooManyWorkers _ => "E_OPTIONS_WORKERS"
  | optionFlag _ => "E_OPTIONS_FLAG"
  | selectAndExclude => "E_OPTIONS_SELECT_EXCLUDE"
  | selectEmpty | excludeAll => "E_SELECT_EMPTY"
  | typeTag _ => "E_TYPE_TAG"
  | typeUnknown _ => "E_TYPE_UNKNOWN"
  | parserNotFunction => "E_PARSER_TYPE"
  | formatterNotFunction => "E_FORMATTER_TYPE"
  | operationNotFunction => "E_OPERATE_FUNC"
  | filterNotFunction => "E_FILTER_FUNC"
  | pathKind role _ => role.code
  | duplicateNames _ => "E_DUPLICATE_COL"
  | keyForm _ | keyEntry .. => "E_KEY_FORMAT"
  | unknownName .. | unknownNames .. => "E_UNKNOWN_COL"
  | derivedColumn _ => "E_TYPE_DERIVED"
  | inPlaceCount => "E_OPERATE_INPLACE"
  | newNameForm | newNameTaken _ => "E_OPERATE_NEW_COL"
  | reorderNames _ => "E_REORDER_COLS"
  | renameCount .. => "E_RENAME_COUNT"
  | renameNames => "E_RENAME_NAMES"
  | aggregateCount .. | aggregateNames _ => "E_AGGREGATE_NAMES"
  | selectUnknown .. => "E_SELECT_UNKNOWN"
  | nothingToGroup => "E_AGGREGATE_EMPTY"
  | deadKeys _ => "E_GROUPBY_DELETED"
  | deadSources _ => "E_AGGREGATE_DELETED"
  | previewSize .. => "E_PREVIEW_ARGS"
  | headSize _ => "E_HEAD_ARGS"
  | sourceForm _ => "E_SOURCE_TYPE_INFER"
  | sourceHeader => "E_SOURCE_HEADER"
  | sinkForm _ => "E_SINK_TYPE_INFER"
  | sortOfGroups => "E_SORT_AGGREGATE"
  | sortChunk _ | sortChunkSize _ => "E_SORT_CHUNK"
  | sortOrder _ => "E_SORT_ORDER"
  | sortColumn .. => "E_SORT_UNKNOWN_COL"
  | joinInput => "E_JOIN_INPUT"
  | joinKind _ => "E_JOIN_KIND"
  | joinOfGroups _ => "E_JOIN_AGGREGATE"
  | joinKeyCount .. => "E_JOIN_KEY_COUNT"
  | joinPrefixes | joinPrefixesEqual => "E_JOIN_PREFIX"
  | joinRollForm | joinRollUnknown .. => "E_JOIN_ROLL"
  | joinLimit _ | joinLimitUnused | joinLimitGap .. => "E_JOIN_LIMIT"
  | joinRollKinds .. => "E_JOIN_ROLL_TYPE"
  | joinKeyDeleted _ => "E_JOIN_KEY_DELETED"
  | planKind _ => "E_PLAN_KIND"
  | computeInput _ => "E_COMPUTE_INPUT"

def commaNames (names : List String) : String := ", ".intercalate names

def message : SchemaFault → String
  | unknownAggregate shown => s!"Unknown aggregate function {shown}."
  | optionNames option => s!"{option} must be a column name or a list of column names."
  | optionBatch shown => s!"batch_size must be a positive integer, got {shown}."
  | optionWorkers shown => s!"Number of workers should be a positive integer, got {shown}."
  | tooManyWorkers count => s!"Max number of worker nodes is 8, got {count}."
  | optionFlag option => s!"{option} must be a boolean."
  | selectAndExclude => "Can only specify either select or exclude, not both."
  | selectEmpty | excludeAll => "Must select at least 1 column."
  | typeTag shown => s!"Type must be a non-empty string, got {shown}."
  | typeUnknown shown => s!"Unknown column type {shown}."
  | parserNotFunction => "A parser must be callable."
  | formatterNotFunction => "A formatter must be callable."
  | operationNotFunction => "operate expects a callable."
  | filterNotFunction => "filter expects a callable predicate."
  | pathKind role kind => s!"{role.what} must be a non-empty string or path, got {kind}."
  | duplicateNames shown => s!"Duplicate column name(s): {shown}."
  | keyForm what => s!"The {what} keys format is not correct."
  | keyEntry what shown => s!"The {what} keys format is not correct: {shown}."
  | unknownName shown _ => s!"Column {shown} does not exist."
  | unknownNames shown _ => s!"Input includes non-existent column name(s): {shown}."
  | derivedColumn shown =>
    s!"Column {shown} is produced by an operation and is not parsed from the file."
  | inPlaceCount => "An in-place operation takes exactly one column."
  | newNameForm => "New column should be a non-empty string."
  | newNameTaken name => s!"New column {Text.quoted name} already exists."
  | reorderNames _ => "The new column order must list every existing column exactly once."
  | renameCount got live =>
    s!"Number of new column names ({got}) not equal to number of existing columns ({live.length})."
  | renameNames => "New column names must be non-empty strings."
  | aggregateCount names columns => s!"Got {names} new name(s) for {columns} aggregated column(s)."
  | aggregateNames shown => s!"Aggregate names must be fresh, unique strings: {shown}."
  | selectUnknown .table shown _ => s!"Selected column(s) {shown} do not exist."
  | selectUnknown .group shown _ =>
    s!"Selected column(s) {shown} are not produced by the group-by/aggregate."
  | selectUnknown .join shown _ =>
    s!"Selected column(s) {shown} do not exist in the joined table."
  | nothingToGroup => "There is no group-by or aggregate to plan."
  | deadKeys shown => s!"Group-by key(s) {shown} were deleted after group_by was declared."
  | deadSources shown =>
    s!"Aggregate(s) {shown} read from a column deleted after aggregate was declared."
  | previewSize name shown =>
    s!"Arguments passed to preview must be non-negative integers ({name}={shown})."
  | headSize shown => s!"head expects a non-negative integer, got {shown}."
  | sourceForm uri | sinkForm uri => s!"Could not infer a delimited file type from uri='{uri}'."
  | sourceHeader => "have_header must be a boolean."
  | sortOfGroups => "Cannot sort a table with group-by/aggregate specs."
  | sortChunk shown => s!"chunk_size must be a positive integer, got {shown}."
  | sortChunkSize shown => s!"chunk_size must be positive, got {shown}."
  | sortOrder shown => s!"The order list is not in the correct format: {shown}."
  | sortColumn name _ => s!"Sort column {Text.quoted name} does not exist."
  | joinInput => "First two arguments should be lazytab tables."
  | joinKind shown => s!"Unknown join kind {shown}."
  | joinOfGroups uri =>
    s!"Table '{uri}' has group-by/aggregate specs and cannot be joined directly."
  | joinKeyCount .. => "The length of left keys and right keys should be equal."
  | joinPrefixes => "The length of col_prefix should be equal to 2."
  | joinPrefixesEqual => "The two column prefixes must differ."
  | joinRollForm => "Rolling keys should be strings."
  | joinRollUnknown .. => "Rolling keys include non-existent column name(s)."
  | joinLimit shown => s!"limit must be a non-negative number or timedelta, got {shown}."
  | joinLimitUnused => "limit only applies to rolling (as-of) joins."
  | joinLimitGap shown left right _ =>
    s!"limit {shown} cannot be compared with the gap between rolling values ({right} - {left})."
  | joinRollKinds left right _ => s!"Rolling keys are not comparable: {left} vs {right}."
  | joinKeyDeleted uri =>
    s!"Join key column(s) of '{uri}' were deleted after the join was declared."
  | planKind shown => s!"Unknown plan kind {shown}."
  | computeInput kind => s!"compute expects a lazytab table or joined table, got {kind}."

def existing (live : List String) : String := s!"Existing columns: {commaNames live}"

def supportedTypes : String := "int, double, string, date, raw"

def hint : SchemaFault → Option String
  | unknownAggregate _ => some
    "Use a callable taking a list of values, or one of: avg, count, first, last, max, mean, min, sum."
  | optionNames option => some s!"Example: {option}=['Employee', 'Salary']"
  | optionBatch _ => some "The default is 300."
  | tooManyWorkers _ => some "Use num_workers between 1 and 8."
  | selectAndExclude =>
    some "Use select=[...] to keep columns, or exclude=[...] to drop them."
  | excludeAll => some "exclude removed every column."
  | typeTag _ => some s!"Supported types: {supportedTypes}."
  | typeUnknown _ => some (s!"Supported types: {supportedTypes}. " ++
    "For anything else pass your own function with set_parser(column, fn).")
  | parserNotFunction => some "Example: table.set_parser('Salary', float)"
  | operationNotFunction => some "Example: table.operate(lambda s: s * 2, 'Salary')"
  | filterNotFunction => some "Example: table.filter('Salary', lambda s: s <= 800)"
  | pathKind .. => some "Example: 'data/people.csv' or pathlib.Path('data/people.csv')"
  | duplicateNames _ => some
    "Rename the columns in the file, or read it with have_header=False and rename_col(...)."
  | keyForm _ | keyEntry .. =>
    some "Use a column name, a list of names, or (function, name) pairs."
  | unknownName _ live | unknownNames _ live | reorderNames live | renameCount _ live
  | sortColumn _ live => some (existing live)
  | derivedColumn _ => some "Convert its value inside the operation that produces it."
  | inPlaceCount => some
    "To combine several columns, give a new column name: operate(fn, ['a', 'b'], 'c')."
  | newNameTaken _ => some "Pick a fresh name, or omit it to replace the column in place."
  | aggregateNames _ => some "Pass new_names=[...] with names not used by any column."
  | selectUnknown .table _ available => some (existing available)
  | selectUnknown _ _ available => some s!"Available columns: {commaNames available}"
  | nothingToGroup => some "Call aggregate(...) before computing an aggregate result."
  | deadKeys _ => some "Group by columns that remain in the table."
  | deadSources _ => some "Aggregate columns that remain in the table."
  | sourceForm _ => some "Use a .csv/.tsv/.txt file, or pass options=\x7b'delimiter': ','\x7d."
  | sinkForm _ => some "Write to a .csv/.tsv/.txt file, or pass options=\x7b'delimiter': ','\x7d."
  | sortOfGroups => some "Compute the aggregate to a file first, then sort that file."
  | sortOrder _ => some
    "Alternate a direction and a column name, e.g. ['+', 'Department', '-', 'Salary']."
  | joinInput => some "Open both inputs with lazytab.table('file.csv')."
  | joinKind _ => some "Kinds: inner, left, right, asof_forward, asof_backward"
  | joinOfGroups _ => some "Compute the aggregate to a file first, then join that file."
  | joinKeyCount left right => some s!"Got {left} left key(s) and {right} right key(s)."
  | joinPrefixes => some "Example: col_prefix=('left', 'right')"
  | joinRollUnknown left right =>
    some s!"Left columns: {left}; right columns: {right}"
  | joinLimitGap .. => some
    "Use a number for numeric rolling columns and a datetime.timedelta for dates."
  | joinRollKinds .. => some "Give both rolling columns the same type with set_type(...)."
  | optionWorkers _ | optionFlag _ | selectEmpty | formatterNotFunction | newNameForm | renameNames
  | aggregateCount .. | previewSize .. | headSize _ | sourceHeader | sortChunk _ | sortChunkSize _
  | joinPrefixesEqual | joinRollForm | joinLimit _ | joinLimitUnused | joinKeyDeleted _ | planKind _
  | computeInput _ => none

/-- The failure behind a mistake, where there is one. -/
def cause : SchemaFault → Option EvalFault
  | joinLimitGap _ _ _ fault | joinRollKinds _ _ fault => some fault
  | _ => none

end SchemaFault

end TablePipeline
