import Dql.Uri.Host

/-!
# Absolute URIs

`Uri.isAbsolute` says whether a text is an absolute URI, read as browsers read
one: control characters and spaces at the two ends are put aside, tabs and line
breaks anywhere, and a scheme has to come first. What the scheme is decides the
rest. The web schemes need a host, after any number of slashes of either kind; a
file may have a host; any other scheme has one only behind two slashes, and it
may be empty. Behind the host anything is allowed.
-/

namespace Dql.Uri

/-- The text that is read as a URI: without control characters and spaces at its
ends, and without tabs and line breaks. -/
def cleaned (cs : List Char) : List Char :=
  let isEdge (c : Char) : Bool := c.toNat ≤ 0x20
  let trimmed := ((cs.dropWhile isEdge).reverse.dropWhile isEdge).reverse
  trimmed.filter fun c => c != '\t' && c != '\n' && c != '\r'

/-- Whether a character may stand in a scheme behind its first letter. -/
def isSchemeChar (c : Char) : Bool := c.isAlphanum || c == '+' || c == '-' || c == '.'

/-- Splits the scheme, in lower case, and what follows its colon. A scheme starts
with a letter. -/
def splitScheme? (cs : List Char) : Option (List Char × List Char) :=
  match cs, cs.dropWhile isSchemeChar with
  | c :: _, ':' :: rest =>
    if c.isAlpha then some ((cs.takeWhile isSchemeChar).map Char.toLower, rest) else none
  | _, _ => none

/-- The schemes that cannot do without a host. -/
def webSchemes : List (List Char) :=
  ["http".toList, "https".toList, "ws".toList, "wss".toList, "ftp".toList]

/-- Whether a character ends the authority; a backslash does in web schemes only. -/
def endsAuthority (web : Bool) (c : Char) : Bool :=
  c == '/' || c == '?' || c == '#' || (web && c == '\\')

/-- Splits credentials, up to the last `@` in front of the end of the authority.
Answers whether there are any, and what follows; none if nothing at all does. -/
def splitCredentials? (web : Bool) (cs : List Char) : Option (Bool × List Char) :=
  let authority := cs.takeWhile fun c => !endsAuthority web c
  if authority.contains '@' then
    let host := (authority.reverse.takeWhile (· != '@')).reverse
    let user := authority.take (authority.length - host.length - 1)
    let rest := cs.drop (user.length + 1)
    if user.isEmpty then
      match rest with
      | c :: _ => if endsAuthority web c then none else some (false, rest)
      | [] => some (false, rest)
    else some (user != [':'], rest)
  else some (false, cs)

/-- The characters of the host, up to the end of the authority or a colon outside
of brackets. -/
def hostChars (web : Bool) (inBrackets : Bool) : List Char → List Char
  | [] => []
  | c :: rest =>
    if (c == ':' && !inBrackets) || endsAuthority web c then []
    else c :: hostChars web (c == '[' || (inBrackets && c != ']')) rest

/-- Whether digits are a port, up to the end of the authority. -/
def isPort (port : Nat) : List Char → Bool
  | [] => true
  | c :: rest =>
    if c.isDigit then
      let port := port * 10 + (c.toNat - '0'.toNat)
      port < UInt16.size && isPort port rest
    else endsAuthority true c

/-- Whether what stands behind the host is a port, or none is given. -/
def portFits : List Char → Bool
  | ':' :: rest => isPort 0 rest
  | _ => true

/-- Whether a text starts with an authority. -/
def hasAuthority (web : Bool) (cs : List Char) : Bool :=
  match splitCredentials? web cs with
  | none => false
  | some (credentials, cs) =>
    let host := hostChars web false cs
    let rest := cs.drop host.length
    if host.isEmpty then !web && rest.head? != some ':' && !credentials
    else (if web then isWebHost host else isOpaqueHost host) && portFits rest

/-- Whether a character is a slash of either kind. -/
def isSlash (c : Char) : Bool := c == '/' || c == '\\'

/-- Whether a text is a drive letter with its mark. -/
def isDrive : List Char → Bool
  | [letter, mark] => letter.isAlpha && (mark == ':' || mark == '|')
  | _ => false

/-- Whether what follows the scheme of a file is well formed: behind two slashes
stands a host, possibly an empty one, or a drive. -/
def isFile : List Char → Bool
  | a :: b :: rest =>
    if isSlash a && isSlash b then
      let host := rest.takeWhile fun c => !endsAuthority true c
      host.isEmpty || isDrive host || isWebHost host
    else true
  | _ => true

/-- Whether a text is an absolute URI, on its characters. -/
def isAbsoluteChars (cs : List Char) : Bool :=
  match splitScheme? (cleaned cs) with
  | none => false
  | some (scheme, rest) =>
    if scheme = "file".toList then isFile rest
    else if webSchemes.contains scheme then hasAuthority true (rest.dropWhile isSlash)
    else
      match rest with
      | '/' :: '/' :: authority => hasAuthority false authority
      | _ => true

/-- Whether a text is an absolute URI. -/
def isAbsolute (s : String) : Bool := isAbsoluteChars s.toList

/-- Without a colon a text has no scheme, so it is no absolute URI. -/
theorem not_isAbsoluteChars_of_no_colon {cs : List Char} (h : ':' ∉ cs) :
    isAbsoluteChars cs = false := by
  have hclean : ':' ∉ cleaned cs := by
    intro hm
    have hm := (List.mem_filter.1 hm).1
    rw [List.mem_reverse] at hm
    have hm := (List.dropWhile_sublist _).subset hm
    rw [List.mem_reverse] at hm
    exact h ((List.dropWhile_sublist _).subset hm)
  have hscheme : splitScheme? (cleaned cs) = none := by
    unfold splitScheme?
    split
    · next c rest' rest _ hdrop =>
      exfalso
      apply hclean
      apply (List.dropWhile_sublist isSchemeChar).subset
      rw [hdrop]
      exact List.mem_cons_self
    · rfl
  simp [isAbsoluteChars, hscheme]

end Dql.Uri
