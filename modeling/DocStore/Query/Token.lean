import DocStore.Query.Operator
import DocStore.Text.Blank
import DocStore.Text.Word

/-!
# Tokens

A query is cut into tokens at blanks, after blanks have been put around every operator, keyword and parenthesis.
Nothing is touched or cut between two single quotes; a quote without a partner reaches to the end. No text is
refused.
-/

namespace DocStore.Query

inductive TokenKind where
  | ident
  | quoted
  | operator (op : Operator)
  | keyword (k : Keyword)
  | lparen
  | rparen
deriving DecidableEq, Repr

/-- A token keeps its text as written, quotes included. -/
structure Token where
  kind : TokenKind
  text : List Char
deriving DecidableEq, Repr

namespace TokenKind

def ofText (cs : List Char) : TokenKind :=
  if cs = ['('] then lparen
  else if cs = [')'] then rparen
  else
    match Keyword.ofText? cs, Operator.ofText? cs with
    | some k, _ => keyword k
    | none, some op => operator op
    | none, none => if cs.head? = some '\'' then quoted else ident

end TokenKind

namespace Token

def ofText (cs : List Char) : Token :=
  ⟨.ofText cs, cs⟩

/-- Whether the token ends the value of a condition. -/
def isBoundary (t : Token) : Bool :=
  match t.kind with
  | .keyword _ | .rparen => true
  | _ => false

end Token

/-! ## Blanks around lexemes -/

/-- The letter that stands for `c` where case does not matter; the long s counts as an s. -/
def foldCase (c : Char) : Char :=
  if c.toNat = 0x17F then 's' else c.toLower

def beginsWith (word cs : List Char) : Bool :=
  (cs.take word.length).map foldCase = word

def atWordEnd : List Char → Bool
  | [] => true
  | c :: _ => !Text.isWord c

/-- The length of the lexeme at the front, 0 if there is none; `before` is the character in front of it. A keyword
has to stand as a word of its own, while `contains` is found inside other words. -/
def lexemeLength (before : Char) (cs : List Char) : Nat :=
  let isKeyword (word : List Char) : Bool :=
    !Text.isWord before && beginsWith word cs && atWordEnd (cs.drop word.length)
  match (Keyword.all.map Keyword.word).find? isKeyword with
  | some word => word.length
  | none =>
    let symbols : List (List Char) :=
      [['=', '='], ['!', '='], ['>', '='], ['<', '='], ['>'], ['<'], Operator.contains.symbol, ['('], [')']]
    match symbols.find? (beginsWith · cs) with
    | some symbol => symbol.length
    | none => 0

/-- Puts blanks around the lexemes outside quotes. `before` is the previous character, and `left` counts the
characters that remain of a lexeme. -/
def spaceOut (inQuotes : Bool) (before : Char) (left : Nat) : List Char → List Char
  | [] => []
  | c :: rest =>
    match left with
    | 1 => c :: ' ' :: spaceOut inQuotes c 0 rest
    | left + 2 => c :: spaceOut inQuotes c (left + 1) rest
    | 0 =>
      if c = '\'' then c :: spaceOut (!inQuotes) c 0 rest
      else if inQuotes then c :: spaceOut inQuotes c 0 rest
      else
        match lexemeLength before (c :: rest) with
        | 0 => c :: spaceOut inQuotes c 0 rest
        | 1 => ' ' :: c :: ' ' :: spaceOut inQuotes c 0 rest
        | n + 2 => ' ' :: c :: spaceOut inQuotes c (n + 1) rest

/-! ## Cutting at blanks -/

def onto (c : Char) : List (List Char) → List (List Char)
  | [] => [[c]]
  | word :: words => (c :: word) :: words

/-- The words between the blanks outside quotes, empty ones included. -/
def splitBlanks (inQuotes : Bool) : List Char → List (List Char)
  | [] => [[]]
  | c :: rest =>
    if c = '\'' then onto c (splitBlanks (!inQuotes) rest)
    else if Text.isBlank c && !inQuotes then [] :: splitBlanks inQuotes rest
    else onto c (splitBlanks inQuotes rest)

def tokenizeChars (cs : List Char) : List Token :=
  let words := (splitBlanks false (spaceOut false ' ' 0 cs)).map Text.trim
  (words.filter (· ≠ [])).map Token.ofText

def tokenize (expression : String) : List Token :=
  tokenizeChars expression.toList

end DocStore.Query
