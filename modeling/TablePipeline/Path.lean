import TablePipeline.Text.Case

/-!
Paths: texts of names with slashes between.
-/
namespace TablePipeline

namespace Path

def parts (path : String) : List String := path.splitOn "/"

/-- The parts that name something. -/
def names (path : String) : List String := (parts path).filter fun part => part != "" && part != "."

/-- What stands in front of the names of a path from the top: one mark, or two if exactly two were
written. -/
def root (path : String) : String :=
  match (path.toList.takeWhile (· == '/')).length with
  | 0 => ""
  | 2 => "//"
  | _ => "/"

/-- The path without empty parts and without parts that stay in place. -/
def normal (path : String) : String :=
  let whole := root path ++ "/".intercalate (names path)
  if whole == "" then "." else whole

/-- The steps of a path, the first of which is its root if it has one. -/
def steps (path : String) : List String :=
  if root path == "" then names path else root path :: names path

/-- The path up to its last part. -/
def parent (path : String) : String :=
  let front := "/".intercalate (parts path).dropLast
  let trimmed := String.ofList (front.toList.reverse.dropWhile (· == '/')).reverse
  if trimmed == "" && front != "" then front else trimmed

/-- What follows the last point of the last name, with the point; nothing if the point is at either
end of the name. -/
def extension (path : String) : String :=
  let name := ((names path).getLast?.getD "").toList
  let tail := name.reverse.takeWhile (· != '.')
  if tail.isEmpty || name.length ≤ tail.length + 1 then ""
  else String.ofList ('.' :: tail.reverse)

/-- Whether the path looks like a delimited file. -/
def looksDelimited (path : String) : Bool :=
  [".csv", ".txt", ".tsv"].contains (Text.lower (extension path))

end Path

end TablePipeline
