/-!
# Operators and keywords

The seven operators between a field and a literal, and the words that join and negate conditions. Words are
recognised in any mixture of small and capital letters.
-/

namespace DocStore.Query

inductive Operator where
  | eq
  | ne
  | gt
  | lt
  | ge
  | le
  | contains
deriving DecidableEq, Repr

inductive Keyword where
  | and
  | or
  | not
deriving DecidableEq, Repr

namespace Operator

def all : List Operator :=
  [eq, ne, gt, lt, ge, le, contains]

def symbol : Operator → List Char
  | eq => ['=', '=']
  | ne => ['!', '=']
  | gt => ['>']
  | lt => ['<']
  | ge => ['>', '=']
  | le => ['<', '=']
  | contains => ['c', 'o', 'n', 't', 'a', 'i', 'n', 's']

/-- The operators that a date can stand behind. -/
def isComparison (op : Operator) : Bool :=
  op ≠ contains

def isOrdering (op : Operator) : Bool :=
  op = gt || op = lt || op = ge || op = le

def accepts : Operator → Ordering → Bool
  | eq, o => o = .eq
  | ne, o => o ≠ .eq
  | gt, o => o = .gt
  | lt, o => o = .lt
  | ge, o => o ≠ .lt
  | le, o => o ≠ .gt
  | contains, _ => false

def ofText? (cs : List Char) : Option Operator :=
  all.find? fun op => op.symbol = cs.map Char.toLower

end Operator

namespace Keyword

def all : List Keyword :=
  [and, or, not]

def word : Keyword → List Char
  | and => ['a', 'n', 'd']
  | or => ['o', 'r']
  | not => ['n', 'o', 't']

def ofText? (cs : List Char) : Option Keyword :=
  all.find? fun k => k.word = cs.map Char.toLower

end Keyword

end DocStore.Query
