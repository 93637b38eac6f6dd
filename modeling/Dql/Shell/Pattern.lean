import Dql.Shell.Name

/-!
# Patterns

A pattern is a list of characters, some of which are quoted and stand for themselves. Of the
others a star matches any bytes, a question mark any byte, and brackets one of several
bytes or classes, or with an exclamation mark any other. A bracket that is not closed stands
for itself.

`Pattern.admits` is by recursion on pattern and bytes together; both only get shorter.
-/

namespace Dql.Shell

/-- Characters, each with whether it is quoted. -/
abbrev Pattern := List (Char × Bool)

namespace Pattern

/-- The classes of characters that brackets may name. -/
def classes : List (String × (Char → Bool)) := [
  ("alnum", Char.isAlphanum), ("alpha", Char.isAlpha), ("blank", isWordBlank),
  ("cntrl", fun c => c.toNat < 0x20 || c == '\x7f'), ("digit", Char.isDigit),
  ("graph", fun c => '!' ≤ c && c ≤ '~'), ("lower", Char.isLower),
  ("print", fun c => ' ' ≤ c && c ≤ '~'),
  ("punct", fun c => '!' ≤ c && c ≤ '~' && !c.isAlphanum), ("space", isSpace),
  ("upper", Char.isUpper),
  ("xdigit", fun c => c.isDigit || ('a' ≤ c && c ≤ 'f') || ('A' ≤ c && c ≤ 'F'))]

/-- The class that is named behind an opening bracket, and the number of characters of its
name with the colons and the bracket around it. -/
def class? (p : Pattern) : Option ((Char → Bool) × Nat) :=
  (classes.find? fun k =>
    (':' :: k.1.toList ++ [':', ']']).isPrefixOf (p.map (·.1))).map fun k => (k.2, k.1.length + 3)

/-- A character of brackets with what quotes it passed over, and the rest. -/
def bare : Pattern → Option (Char × Pattern)
  | ('\\', false) :: (c, _) :: rest => some (c, rest)
  | (c, _) :: rest => some (c, rest)
  | [] => none

/-- Whether brackets hold a byte, with the number of characters in them and the closing one.
None if they are not closed; `first` says that a closing one stands for itself. -/
def inBrackets (c : Char) (found first : Bool) : Nat → Pattern → Option (Bool × Nat)
  | 0, _ => none
  | _ + 1, [] => none
  | n + 1, (d, quoted) :: rest =>
    if d = ']' ∧ !quoted ∧ !first then some (found, 1)
    else
      match if d = '[' ∧ !quoted then class? rest else none with
      | some (isIn, count) =>
        (inBrackets c (found || isIn c) false n (rest.drop count)).map fun r =>
          (r.1, r.2 + count + 1)
      | none =>
        match bare ((d, quoted) :: rest) with
        | none => none
        | some (low, behind) =>
          let used := rest.length + 1 - behind.length
          match behind with
          | ('-', _) :: next :: more =>
            if next.1 = ']' ∧ !next.2 then
              (inBrackets c (found || c == low) false n behind).map fun r => (r.1, r.2 + used)
            else
              match bare (next :: more) with
              | some (high, behind') =>
                let used := rest.length + 1 - behind'.length
                (inBrackets c (found || (low ≤ c && c ≤ high)) false n behind').map fun r =>
                  (r.1, r.2 + used)
              | none => none
          | _ => (inBrackets c (found || c == low) false n behind).map fun r => (r.1, r.2 + used)

/-- Whether brackets admit a byte, with the number of characters behind the opening one. -/
def brackets? (c : Char) (p : Pattern) : Option (Bool × Nat) :=
  match p with
  | ('!', false) :: rest =>
    (inBrackets c false true (rest.length + 1) rest).map fun r => (!r.1, r.2 + 1)
  | p => inBrackets c false true (p.length + 1) p

/-- Whether a pattern matches all of some bytes. -/
def admits : Pattern → Bytes → Bool
  | [], bytes => bytes.isEmpty
  | (p, quoted) :: rest, bytes =>
    if quoted then
      match bytes with
      | [] => false
      | c :: more => c == p && admits rest more
    else if p = '*' then
      admits rest bytes || (match bytes with
        | [] => false
        | _ :: more => admits ((p, quoted) :: rest) more)
    else
      match bytes with
      | [] => false
      | c :: more =>
        if p = '?' then admits rest more
        else if p = '\\' then
          match rest with
          | [] => c == p && more.isEmpty
          | (d, _) :: rest => c == d && admits rest more
        else if p = '[' then
          match brackets? c rest with
          | some (isIn, count) => isIn && admits (rest.drop count) more
          | none => c == p && admits rest more
        else c == p && admits rest more
termination_by p bytes => p.length + bytes.length
decreasing_by
  all_goals
    simp only [List.length_cons, List.length_drop]
    omega

end Pattern

end Dql.Shell
