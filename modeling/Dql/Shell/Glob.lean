import Dql.Files
import Dql.Shell.Pattern

/-!
# Names that match

A pattern may stand for the paths of files. It is followed name by name: one that is no
pattern is taken as it is, any other is replaced by each name of its folder that it
matches. A name that starts with a point is only matched by a pattern that does so as well.
-/

namespace Dql.Shell

namespace Pattern

/-- A pattern whose backslashes have been replaced by the quotes that they mean. -/
def unescape : Pattern → Pattern
  | ('\\', false) :: (c, _) :: rest => (c, true) :: unescape rest
  | c :: rest => c :: unescape rest
  | [] => []

/-- Whether a closing bracket follows that is not quoted. -/
def closes : Pattern → Bool
  | [] => false
  | (c, quoted) :: rest => (c == ']' && !quoted) || closes rest

/-- Whether brackets that have been opened are closed, behind one character at least. -/
def opensBrackets (p : Pattern) : Bool :=
  match p with
  | ('!', false) :: rest => closes rest.tail
  | p => closes p.tail

/-- Whether a name is a pattern. -/
def isMeta : Pattern → Bool
  | [] => false
  | (c, quoted) :: rest =>
    (!quoted && (c == '*' || c == '?' || (c == '[' && opensBrackets rest))) || isMeta rest

/-- The names of a path. -/
def names : Pattern → List Pattern
  | [] => [[]]
  | (c, quoted) :: rest =>
    match names rest with
    | [] => [[(c, quoted)]]
    | first :: more => if c = '/' then [] :: first :: more else ((c, quoted) :: first) :: more

/-- The characters of a pattern. -/
def text (p : Pattern) : Bytes := p.map (·.1)

end Pattern

namespace Glob

/-- The paths in a folder, whose own path is given as written, that names match. -/
def pathsIn (f : Files) (here : Place) (folder : Bytes) : List Pattern → List Bytes
  | [] => []
  | name :: rest =>
    if name.isMeta then
      match f.place here (if folder.isEmpty then ['.'] else folder) with
      | .error _ => []
      | .ok place =>
        match f.entryAt place with
        | .folder =>
          let hidden := name.head?.any fun c => c.1 == '.'
          let found := (['.'] :: ['.', '.'] :: f.names place).filter fun n =>
            (hidden || n.head? != some '.') && name.admits n
          if rest.isEmpty then found.map (folder ++ ·)
          else found.flatMap fun n => pathsIn f here (folder ++ n ++ ['/']) rest
        | _ => []
    else if rest.isEmpty then
      let path := folder ++ name.text
      match f.entry here path with
      | .ok .missing => []
      | .ok _ => [path]
      | .error _ => []
    else pathsIn f here (folder ++ name.text ++ ['/']) rest

/-- The paths that a pattern matches, in order; none if it is no pattern. -/
def paths (f : Files) (here : Place) (p : Pattern) : List Bytes :=
  let names := p.unescape.names
  if names.any Pattern.isMeta then (pathsIn f here [] names).mergeSort Bytes.le
  else []

end Glob

end Dql.Shell
