/-!
# Text of any bytes

What a program writes need not be UTF-8. `decodeWith` reads bytes as UTF-8 and puts
something else for each piece that is not: a piece is a byte that starts nothing, or
as many bytes of a character as there are. For `decodeBytes` that is the replacement
character U+FFFD.

A character of more than one byte is read with a record of what is still to come,
so the walk goes once over the bytes. The first byte narrows what the second may
be, which rules out overlong forms, surrogates and codes beyond U+10FFFF; plain
ASCII decodes to itself (`decode_ascii`).
-/

namespace Dql.Text

/-- A character that has been begun. -/
structure Begun where
  /-- The bits of its code so far. -/
  code : Nat
  /-- The bytes to come. -/
  missing : Nat
  /-- The least that the next byte may be. -/
  least : Nat := 0x80
  /-- The most that the next byte may be. -/
  most : Nat := 0xBF

/-- The character that a byte begins, if it begins one of more than one byte. -/
def Begun.ofByte? (b : Nat) : Option Begun :=
  if 0xC2 ≤ b ∧ b ≤ 0xDF then some { code := b - 0xC0, missing := 1 }
  else if b = 0xE0 then some { code := 0, missing := 2, least := 0xA0 }
  else if b = 0xED then some { code := 0xD, missing := 2, most := 0x9F }
  else if 0xE1 ≤ b ∧ b ≤ 0xEF then some { code := b - 0xE0, missing := 2 }
  else if b = 0xF0 then some { code := 0, missing := 3, least := 0x90 }
  else if 0xF1 ≤ b ∧ b ≤ 0xF3 then some { code := b - 0xF0, missing := 3 }
  else if b = 0xF4 then some { code := 4, missing := 3, most := 0x8F }
  else none

/-- Whether a byte may come next. -/
def Begun.accepts (p : Begun) (b : Nat) : Bool := p.least ≤ b && b ≤ p.most

/-- A character with one byte more. -/
def Begun.add (p : Begun) (b : Nat) : Begun :=
  { code := p.code * 64 + (b - 0x80), missing := p.missing - 1 }

/-- Stands for a piece that is no character. -/
def replacement : Char := '\uFFFD'

/-- A byte where a character starts: the character that it is, or that it begins. What is put
for a piece that is no character is given. -/
def decodeFirst (foreign : List Char) (b : Nat) : List Char × Option Begun :=
  if b < 0x80 then ([Char.ofNat b], none)
  else
    match Begun.ofByte? b with
    | some p => ([], some p)
    | none => (foreign, none)

/-- A byte behind a character that has been begun, if any: the characters that
this completes, and what has been begun after it. -/
def decodeStep (foreign : List Char) : Option Begun → Nat → List Char × Option Begun
  | none, b => decodeFirst foreign b
  | some p, b =>
    if p.accepts b then
      if p.missing = 1 then ([Char.ofNat (p.add b).code], none) else ([], some (p.add b))
    else (foreign ++ (decodeFirst foreign b).1, (decodeFirst foreign b).2)

/-- The characters of bytes, behind a character that has been begun. -/
def decodeFrom (foreign : List Char) : Option Begun → List UInt8 → List Char
  | none, [] => []
  | some _, [] => foreign
  | begun, b :: rest =>
    (decodeStep foreign begun b.toNat).1 ++
      decodeFrom foreign (decodeStep foreign begun b.toNat).2 rest

/-- The characters of bytes, with what is given for pieces that are no characters. -/
def decodeWith (foreign : List Char) (bytes : List UInt8) : List Char :=
  decodeFrom foreign none bytes

/-- The text of bytes. -/
def decodeBytes (bytes : ByteArray) : String :=
  String.ofList (decodeWith [replacement] bytes.toList)

/-- Plain ASCII stands for itself. -/
theorem decode_ascii (foreign : List Char) : ∀ {bytes : List UInt8},
    (∀ b ∈ bytes, b.toNat < 0x80) →
      decodeWith foreign bytes = bytes.map fun b => Char.ofNat b.toNat
  | [], _ => rfl
  | b :: rest, h => by
    have hb : b.toNat < 0x80 := h b (List.mem_cons_self)
    have ih := @decode_ascii foreign rest fun c hc => h c (List.mem_cons_of_mem b hc)
    simp only [decodeWith] at ih
    simp [decodeWith, decodeFrom, decodeStep, decodeFirst, hb, ih]

/- An overlong form and a surrogate are no characters, byte by byte; a character that
breaks off is one piece, and the byte that breaks it off is read again. -/
example : decodeWith ['?'] [0xC0, 0x80] = ['?', '?'] := by decide
example : decodeWith ['?'] [0xED, 0xA0, 0x80] = ['?', '?', '?'] := by decide
example : decodeWith ['?'] [0xE2, 0x98, 0x41] = ['?', 'A'] := by decide
example : decodeWith ['?'] [0xF0, 0x9F, 0x98, 0x80] = ['😀'] := by decide

end Dql.Text
