import Numeral.Unicode.Letters
import Numeral.Unicode.Numerals
import Numeral.Unicode.Unprintable

namespace Numeral.Unicode

/-- The distinctions between characters that reading a pattern depends on. That every letter is
also a letter or a numeral holds by construction, for whatever tables. -/
structure Classes where
  letter : Char → Bool
  numeral : Char → Bool

def Classes.letterOrNumeral (classes : Classes) (c : Char) : Bool :=
  classes.letter c || classes.numeral c

/-- The classes of Unicode 14. -/
def classes : Classes where
  letter := letters.contains
  numeral := numerals.contains

/-- Whether a character shows as itself in a quoted text. -/
def printable (c : Char) : Bool :=
  !unprintable.contains c

/-- Whether a character has a form in UTF-8. Every `Char` has one. -/
def encodable : Char → Bool :=
  fun _ => true

end Numeral.Unicode
