import Dql.Shell.Pattern

/-!
# Fields

A word that has been expanded is a list of segments: characters that stay together, places
where quotes stood, and regions, in which separators end a field and begin the next one.
Separators that are blanks count as one, also with another separator among them, and do not
make an empty field at the start.

The arguments of a script stand in one region with breaks between them, the character NUL.
Where they are quoted only breaks separate them, so that empty ones are fields as well.

`Fields.ofSegments` goes through the segments once, with what it knows of the last separator
in its state (`Splitting`). A limit on the number of fields leaves the rest in the last one.
-/

namespace Dql.Shell

/-- What stands between two arguments. -/
def argumentBreak : Char := '\x00'

/-- A segment of a word that has been expanded. -/
inductive Segment where
  /-- Quotes began or ended here. -/
  | mark
  /-- A character that is not split, and whether it is quoted. -/
  | char (c : Char) (quoted : Bool)
  /-- A character of a region that goes on as long as there are more of them. -/
  | open (c : Char)
  /-- A region; in a strict one only breaks separate. -/
  | region (strict : Bool) (content : Pattern)
deriving DecidableEq, Repr

/-- The characters of a segment. -/
def Segment.content : Segment → Pattern
  | mark => []
  | char c quoted => [(c, quoted)]
  | .open c => [(c, false)]
  | region _ content => content

/-- The characters of segments, with nothing split. -/
def Segment.joined (segments : List Segment) : Pattern := segments.flatMap content

/-- A field that is being made. -/
structure Field where
  /-- Its characters, in reverse. -/
  reversed : Pattern := []
  /-- Whether quotes stand in it, so that it is a field even if it is empty. -/
  marked : Bool := false
deriving DecidableEq, Repr

namespace Field

/-- Whether nothing has been put into a field. -/
def isBare (f : Field) : Bool := f.reversed.isEmpty && !f.marked

/-- A field with one more character. -/
def add (f : Field) (c : Char × Bool) : Field := { f with reversed := c :: f.reversed }

/-- The characters of a field. -/
def content (f : Field) : Pattern := f.reversed.reverse

end Field

/-- Segments that are being split into fields. -/
structure Splitting where
  /-- The fields that are complete, in reverse. -/
  done : List Field := []
  field : Field := {}
  /-- How many more fields there may be. -/
  limit : Option Nat := none
  /-- The last field without the separators at its end, if it has any and may not be
  followed by another. -/
  trimmed : Option Field := none
  /-- Whether a blank has just ended a field. -/
  behindBlank : Bool := false
  /-- Whether the region is strict, and whether the one before was. -/
  strict : Bool := false
  afterStrict : Bool := false
  /-- Whether an open region goes on. -/
  isOpen : Bool := false

namespace Splitting

/-- Begins a region. -/
def enter (s : Splitting) (strict : Bool) : Splitting :=
  { s with strict := strict, afterStrict := s.strict, behindBlank := false }

/-- Whether a character is a separator by itself, or a blank. -/
def isBlankSeparator (c : Char) : Bool := c == argumentBreak || isWordBlank c || c == '\n'

/-- A character of the last field there may be. -/
def addLast (s : Splitting) (separates blank : Bool) (c : Char × Bool) : Splitting :=
  { s with
    field := s.field.add c
    trimmed :=
      if blank then s.trimmed.orElse fun _ => some s.field
      else if separates && s.behindBlank then s.trimmed
      else none
    behindBlank := blank && s.behindBlank }

/-- A separator that ends a field, unless that is a blank at the start of one. -/
def separate (s : Splitting) (blank : Bool) (c : Char × Bool) : Splitting :=
  let blank := blank && !s.strict && !s.afterStrict
  if s.field.isBare && blank then s
  else if s.limit = some 1 then
    { s with
      limit := some 0, trimmed := some s.field, field := s.field.add c, behindBlank := blank }
  else
    { s with done := s.field :: s.done, field := {}, behindBlank := blank
             limit := s.limit.map (· - 1) }

/-- A character of a region. -/
def step (separators : Bytes) (s : Splitting) (c : Char × Bool) : Splitting :=
  let separates := c.1 == argumentBreak || (!s.strict && separators.contains c.1)
  let blank := separates && isBlankSeparator c.1
  if s.limit = some 0 then s.addLast separates blank c
  else if s.behindBlank && blank then s
  else if s.behindBlank && separates then { s with behindBlank := false }
  else if separates then s.separate blank c
  else { s with field := s.field.add c, behindBlank := false }

/-- A segment. -/
def segment (separators : Bytes) (s : Splitting) : Segment → Splitting
  | .mark => { s with field := { s.field with marked := true }, isOpen := false }
  | .char c quoted => { s with field := s.field.add (c, quoted), isOpen := false }
  | .open c =>
    (if s.isOpen then s else { s.enter false with isOpen := true }).step separators (c, false)
  | .region strict content =>
    content.foldl (step separators) { s.enter strict with isOpen := false }

/-- The fields at the end. -/
def finish (s : Splitting) : List Field :=
  let last := if s.strict then s.field else s.trimmed.getD s.field
  (if s.strict || !last.isBare then last :: s.done else s.done).reverse

end Splitting

/-- The fields of segments, no more of them than a limit. -/
def splitFields (separators : Bytes) (limit : Option Nat) (segments : List Segment) :
    List Field :=
  (segments.foldl (Splitting.segment separators) { limit := limit }).finish

end Dql.Shell
