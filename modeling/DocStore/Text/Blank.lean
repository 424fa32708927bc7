import DocStore.Text.Ranges

/-!
# Blank characters

White space of every script: what separates the tokens of a query and is cut off both ends of a literal.
-/

namespace DocStore.Text

def blankRanges : List (Nat × Nat) := [
  (0x9, 0xD), (0x20, 0x20), (0x85, 0x85), (0xA0, 0xA0), (0x1680, 0x1680), (0x2000, 0x200A), (0x2028, 0x2029),
  (0x202F, 0x202F), (0x205F, 0x205F), (0x3000, 0x3000)]

def isBlank (c : Char) : Bool :=
  inRanges blankRanges c

def trimLeft (cs : List Char) : List Char :=
  cs.dropWhile isBlank

def trimRight (cs : List Char) : List Char :=
  (trimLeft cs.reverse).reverse

def trim (cs : List Char) : List Char :=
  trimRight (trimLeft cs)

end DocStore.Text
