/-!
# Paths

A path is a list of parts with slashes between them. Empty parts and single dots
stand for nothing, two dots for the way up.
-/

namespace Dql.Path

/-- The parts of a path between slashes. -/
def split : List Char → List (List Char)
  | [] => [[]]
  | '/' :: rest => [] :: split rest
  | c :: rest =>
    match split rest with
    | [] => [[c]]
    | part :: more => (c :: part) :: more

/-- The parts of a path. -/
def parts (path : String) : List String := (split path.toList).map String.ofList

/-- Whether a part of a path stands for nothing. -/
def isIdle (part : String) : Bool := part == "" || part == "."

/-- The last part of a path that names something, unless it leads upwards. -/
def fileName? (path : String) : Option String :=
  match ((parts path).filter fun part => !isIdle part).getLast? with
  | some part => if part = ".." then none else some part
  | none => none

end Dql.Path
