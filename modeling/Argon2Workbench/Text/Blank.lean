namespace Argon2Workbench.Text

/-- White space of Unicode 14: the bidirectional classes WS, B and S, and the category Zs. -/
def blankCodes : List Nat := [
  0x09, 0x0a, 0x0b, 0x0c, 0x0d, 0x1c, 0x1d, 0x1e, 0x1f, 0x20, 0x85, 0xa0, 0x1680,
  0x2000, 0x2001, 0x2002, 0x2003, 0x2004, 0x2005, 0x2006, 0x2007, 0x2008, 0x2009, 0x200a,
  0x2028, 0x2029, 0x202f, 0x205f, 0x3000]

def isBlank (character : Char) : Bool :=
  blankCodes.contains character.toNat

/-- Whether the character is one of the four information separators, which count as
white space around a text but not around a number. -/
def isSeparator (character : Char) : Bool :=
  0x1c ≤ character.toNat && character.toNat ≤ 0x1f

def trim (drop : Char → Bool) (characters : List Char) : List Char :=
  ((characters.dropWhile drop).reverse.dropWhile drop).reverse

end Argon2Workbench.Text
