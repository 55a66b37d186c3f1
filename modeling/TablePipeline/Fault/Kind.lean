/-!
The kinds of failure that a function applied to data may have, and the name that each kind has in
reports.
-/
namespace TablePipeline

inductive FaultKind where
  | value
  | type
  | key
  | index
  | runtime
  | zeroDivision
  | overflow
  | lookup
  | os
  | permission
  | missingFile
  | isDirectory
  | notDirectory
  | badArchive
  | compression
  | endOfInput
  | decode
  | encode
  | unicode
  | delimited
  | pattern
  | missingPart
  | inference
  | representation
  deriving DecidableEq, Repr

namespace FaultKind

def name : FaultKind → String
  | value => "ValueError"
  | type => "TypeError"
  | key => "KeyError"
  | index => "IndexError"
  | runtime => "RuntimeError"
  | zeroDivision => "ZeroDivisionError"
  | overflow => "OverflowError"
  | lookup => "LookupError"
  | os => "OSError"
  | permission => "PermissionError"
  | missingFile => "FileNotFoundError"
  | isDirectory => "IsADirectoryError"
  | notDirectory => "NotADirectoryError"
  | badArchive => "BadGzipFile"
  | compression => "error"
  | endOfInput => "EOFError"
  | decode => "UnicodeDecodeError"
  | encode => "UnicodeEncodeError"
  | unicode => "UnicodeError"
  | delimited => "Error"
  | pattern => "error"
  | missingPart => "AttributeError"
  | inference => "FrictionlessException"
  | representation => "RepresenterError"

/-- The kinds that stand for a failure of the storage. -/
def ofStorage : FaultKind → Bool
  | os | permission | missingFile | isDirectory | notDirectory | badArchive => true
  | _ => false

end FaultKind

end TablePipeline
