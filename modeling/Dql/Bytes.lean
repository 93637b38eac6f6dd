/-!
# Bytes as characters

Names of files, scripts and what programs write are bytes, whatever text they write. Here each
byte is the character of its number, so that they are lists of characters below 256, and can
be read with patterns over characters.
-/

namespace Dql

/-- Bytes, each as the character of its number. -/
abbrev Bytes := List Char

namespace Bytes

/-- The bytes of an array. -/
def ofArray (bytes : ByteArray) : Bytes := bytes.toList.map fun b => Char.ofNat b.toNat

/-- Bytes as an array. -/
def toArray (bytes : Bytes) : ByteArray :=
  ⟨(bytes.map fun c => UInt8.ofNat c.toNat).toArray⟩

/-- The bytes that write a text. -/
def ofString (s : String) : Bytes := ofArray s.toUTF8

/-- The decimal digits of a natural. -/
def ofNat (n : Nat) : Bytes := Nat.toDigits 10 n

/-- The decimal digits of an integer, behind a minus if it is negative. -/
def ofInt (n : Int) : Bytes := if n < 0 then '-' :: ofNat n.natAbs else ofNat n.natAbs

/-- Bytes with others between each two of them. -/
def join (between : Bytes) : List Bytes → Bytes
  | [] => []
  | [b] => b
  | b :: rest => b ++ between ++ join between rest

/-- Whether bytes come no later than others, as words do in a dictionary. -/
def le : Bytes → Bytes → Bool
  | [], _ => true
  | _ :: _, [] => false
  | b :: bs, c :: cs => decide (b.toNat < c.toNat) || (b.toNat == c.toNat && le bs cs)

/-- Splits bytes at a character. -/
def splitAt (c : Char) : Bytes → List Bytes
  | [] => [[]]
  | d :: rest =>
    match splitAt c rest with
    | [] => [[d]]
    | front :: more => if d = c then [] :: front :: more else (d :: front) :: more

end Bytes

/-- Bytes of a text that is written out. -/
abbrev say (s : String) : Bytes := Bytes.ofString s

end Dql
