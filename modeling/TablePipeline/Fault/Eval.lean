import TablePipeline.Compressed.Bits
import TablePipeline.Fault.Kind
import TablePipeline.Text.Encoding.Basic
import TablePipeline.Calendar.Scan

/-!
Failures while values are computed: by a function on data, by a conversion, or while a file is read
or written. A constructor says what went wrong; `kind` and `message` say how it is reported.
-/
namespace TablePipeline

/-- A mistake in the settings of a delimited file. -/
inductive DialectFault where
  | notOneCharacter (name : String)
  | notText (name kind : String)
  | notTextOrNone (name kind : String)
  | quotingNotInteger
  | quotingTooLarge
  | unknownQuoting
  | terminatorNotText
  | noTerminator
  | noQuoteMark
  | unknownSetting (name : String)
  | unknownDialect
  deriving DecidableEq, Repr

/-- What is wrong with the text of a delimited file, or with a row that is to be written. -/
inductive DelimitedFault where
  | fieldTooLong (limit : Nat)
  | textAfterQuote (delimiter quote : Char)
  | unfinished
  | needsEscape
  | loneEmptyField
  | rowNotIterable (kind : String)
  deriving DecidableEq, Repr

/-- What is wrong with the arguments of a call. -/
inductive CallFault where
  | tooMany (call : String) (count : Nat)
  | missing (call name : String)
  | unexpected (call name : String)
  | given (call name : String)
  | givenTwice (call name : String)
  /-- Something other than named settings stands for them. -/
  | notSettings (call kind : String)
  | namesNotText
  /-- An entry of a list of settings is no pair. -/
  | entryForm (place : Nat)
  | entryLength (place length : Nat)
  deriving DecidableEq, Repr

/-- Why a file is not read or written. -/
inductive FileFault where
  | missing (path : String)
  | isDirectory (path : String)
  | notDirectory (path : String)
  | nameTooLong (path : String)
  | nullInPath
  | unwritablePath (fault : Text.CodingFault)
  /-- A compressed file cannot be unpacked. -/
  | stream (fault : Compressed.StreamFault)
  deriving DecidableEq, Repr

inductive EvalFault where
  /-- A function of the caller failed on purpose. -/
  | raised (kind : FaultKind) (message : String)
  | wrongCount (function : String) (expected got : Nat)
  | wrongType (function wanted got : String)
  | call (fault : CallFault)
  | noOrder (relation left right : String)
  | dayAgainstTime
  | noOperation (sign left right : String)
  | unhashable (kind : String)
  | notIterable (kind : String)
  | noLength (kind : String)
  | notSubscriptable (kind : String)
  | notIndex (kind : String)
  | notInteger (kind : String)
  | notPath (kind : String)
  | notCallable (kind : String)
  | missingKey (shown : String)
  /-- An item of a list that is to be joined is no text. -/
  | itemNotText (place : Nat) (kind : String)
  | noConcatenation (kind other : String)
  | repeatedByFloat (kind : String)
  | repeatedTooOften
  | notFloat (text : String)
  | notCoercible (shown type : String)
  | tooManyDigits (digits : Nat)
  | unwritableInteger
  | integerBeyondWord
  | tooManyDays (days : Int)
  | ratioOfInfinity
  | ratioOfNaN
  | integerTooLarge
  | quotientTooLarge
  | zeroModulo
  | zeroFloatModulo
  | zeroDivisor
  | scan (fault : Calendar.ScanFault)
  | coding (fault : Text.CodingFault)
  /-- A setting that says how bytes are read is no text. -/
  | codingSetting (name kind : String)
  | dialect (fault : DialectFault)
  | delimited (fault : DelimitedFault)
  | indexOutOfRange
  | badOffset
  | badCount
  | noWorkers
  /-- Something of this kind has no part of this name. -/
  | noPart (kind part : String)
  | notLoaded (path : String)
  | notRepresentable (shown : String)
  | file (fault : FileFault)
  deriving DecidableEq

namespace DialectFault

def message : DialectFault → String
  | notOneCharacter name => s!"\"{name}\" must be a 1-character string"
  | notText name kind => s!"\"{name}\" must be string, not {kind}"
  | notTextOrNone name kind => s!"\"{name}\" must be string or None, not {kind}"
  | quotingNotInteger => "\"quoting\" must be an integer"
  | quotingTooLarge => "Python int too large to convert to C int"
  | unknownQuoting => "bad \"quoting\" value"
  | terminatorNotText => "\"lineterminator\" must be a string"
  | noTerminator => "lineterminator must be set"
  | noQuoteMark => "quotechar must be set if quoting enabled"
  | unknownSetting name => s!"'{name}' is an invalid keyword argument for this function"
  | unknownDialect => "unknown dialect"

end DialectFault

namespace DelimitedFault

def message : DelimitedFault → String
  | fieldTooLong limit => s!"field larger than field limit ({limit})"
  | textAfterQuote delimiter quote => s!"'{delimiter}' expected after '{quote}'"
  | unfinished => "unexpected end of data"
  | needsEscape => "need to escape, but no escapechar set"
  | rowNotIterable kind => s!"iterable expected, not {kind}"
  | loneEmptyField => "single empty field record must be quoted"

end DelimitedFault

namespace CallFault

def kind : CallFault → FaultKind
  | entryLength .. => .value
  | _ => .type

def message : CallFault → String
  | tooMany call count => s!"{call} takes 1 positional argument but {count} were given"
  | missing call name => s!"{call} missing 1 required positional argument: '{name}'"
  | unexpected call name => s!"{call} got an unexpected keyword argument '{name}'"
  | given call name => s!"{call} got multiple values for argument '{name}'"
  | givenTwice call name => s!"{call} got multiple values for keyword argument '{name}'"
  | notSettings call kind => s!"{call} argument after ** must be a mapping, not {kind}"
  | namesNotText => "keywords must be strings"
  | entryForm place => s!"cannot convert dictionary update sequence element #{place} to a sequence"
  | entryLength place length =>
    s!"dictionary update sequence element #{place} has length {length}; 2 is required"

end CallFault

namespace FileFault

def kind : FileFault → FaultKind
  | missing _ => .missingFile
  | isDirectory _ => .isDirectory
  | notDirectory _ => .notDirectory
  | nameTooLong _ => .os
  | nullInPath => .value
  | unwritablePath _ => .encode
  | stream .ended => .endOfInput
  | stream (.malformed _) => .compression
  | stream .badStream => .os
  | stream _ => .badArchive

def message : FileFault → String
  | missing path => s!"[Errno 2] No such file or directory: {Text.quoted path}"
  | isDirectory path => s!"[Errno 21] Is a directory: {Text.quoted path}"
  | notDirectory path => s!"[Errno 20] Not a directory: {Text.quoted path}"
  | nameTooLong path => s!"[Errno 36] File name too long: {Text.quoted path}"
  | nullInPath => "embedded null byte"
  | unwritablePath fault => fault.message
  | stream fault => fault.message

end FileFault

namespace EvalFault

open Text (quoted)

def kind : EvalFault → FaultKind
  | raised kind _ => kind
  | wrongCount .. | wrongType .. | noOrder .. | dayAgainstTime | noOperation .. | unhashable _
  | notIterable _ | noLength _ | notSubscriptable _ | notIndex _ | notInteger _ | notPath _
  | notCallable _ | codingSetting ..
  | itemNotText .. | noConcatenation .. | repeatedByFloat _ => .type
  | call fault => fault.kind
  | missingKey _ => .key
  | notFloat _ | notCoercible .. | tooManyDigits _ | unwritableInteger | ratioOfNaN | badOffset
  | badCount | noWorkers => .value
  | noPart .. => .missingPart
  | integerTooLarge | quotientTooLarge | repeatedTooOften | integerBeyondWord | tooManyDays _
  | ratioOfInfinity => .overflow
  | zeroModulo | zeroFloatModulo | zeroDivisor => .zeroDivision
  | scan (.repeatedField ..) => .pattern
  | scan _ => .value
  | coding (.undecodable ..) => .decode
  | coding (.unencodable ..) => .encode
  | coding (.noMark _) | coding .meaningless => .unicode
  | coding .nullInName => .value
  | coding .writingPolicy => .type
  | coding _ => .lookup
  | dialect .unknownDialect => .delimited
  | dialect .quotingTooLarge => .overflow
  | dialect _ => .type
  | delimited _ => .delimited
  | indexOutOfRange => .index
  | notLoaded _ => .inference
  | notRepresentable _ => .representation
  | file fault => fault.kind

def message : EvalFault → String
  | raised .key message => quoted message
  | raised _ message => message
  | wrongCount function expected got => s!"{function} takes {expected} argument(s), got {got}"
  | wrongType function wanted got => s!"{function} needs {wanted}, got {got}"
  | noOrder relation left right =>
    s!"'{relation}' not supported between instances of '{left}' and '{right}'"
  | dayAgainstTime => "can't compare datetime.datetime to datetime.date"
  | noOperation sign left right =>
    s!"unsupported operand type(s) for {sign}: '{left}' and '{right}'"
  | unhashable kind => s!"unhashable type: '{kind}'"
  | notIterable kind => s!"'{kind}' object is not iterable"
  | noLength kind => s!"object of type '{kind}' has no len()"
  | notSubscriptable kind => s!"'{kind}' object is not subscriptable"
  | notIndex kind => s!"list indices must be integers or slices, not {kind}"
  | notInteger kind => s!"'{kind}' object cannot be interpreted as an integer"
  | notPath kind => s!"expected str, bytes or os.PathLike object, not {kind}"
  | notCallable kind => s!"'{kind}' object is not callable"
  | missingKey shown => shown
  | itemNotText place kind => s!"sequence item {place}: expected str instance, {kind} found"
  | noConcatenation kind other => s!"can only concatenate {kind} (not \"{other}\") to {kind}"
  | repeatedByFloat kind => s!"can't multiply sequence by non-int of type '{kind}'"
  | repeatedTooOften => "cannot fit 'int' into an index-sized integer"
  | call fault => fault.message
  | notFloat text => s!"could not convert string to float: {quoted text}"
  | notCoercible shown type => s!"Cannot coerce value {shown} to {type}."
  | tooManyDigits digits =>
    s!"Exceeds the limit (4300 digits) for integer string conversion: value has {digits} digits; use sys.set_int_max_str_digits() to increase the limit"
  | unwritableInteger =>
    "Exceeds the limit (4300 digits) for integer string conversion; use sys.set_int_max_str_digits() to increase the limit"
  | integerBeyondWord => "Python int too large to convert to C int"
  | tooManyDays days => s!"days={days}; must have magnitude <= 999999999"
  | ratioOfInfinity => "cannot convert Infinity to integer ratio"
  | ratioOfNaN => "cannot convert NaN to integer ratio"
  | integerTooLarge => "int too large to convert to float"
  | quotientTooLarge => "integer division result too large for a float"
  | zeroModulo => "integer modulo by zero"
  | zeroFloatModulo => "float modulo"
  | zeroDivisor => "division by zero"
  | scan fault => fault.message
  | coding fault => fault.message
  | codingSetting name kind =>
    s!"TextIOWrapper() argument '{name}' must be str or None, not {kind}"
  | dialect fault => fault.message
  | delimited fault => fault.message
  | indexOutOfRange => "list index out of range"
  | badOffset => "Indices for islice() must be None or an integer: 0 <= x <= sys.maxsize."
  | badCount => "Stop argument for islice() must be None or an integer: 0 <= x <= sys.maxsize."
  | noWorkers => "max_workers must be greater than 0"
  | noPart kind part => s!"'{kind}' object has no attribute '{part}'"
  | notLoaded path =>
    s!"[scheme-error] The data source could not be successfully loaded: [Errno 2] No such file or directory: {quoted path}"
  | notRepresentable shown => s!"('cannot represent an object', {shown})"
  | file fault => fault.message

end EvalFault

end TablePipeline
