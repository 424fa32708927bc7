import DocStore.Query.Evaluation

/-!
# Queries

A query is an expression that was cut into tokens once, with a limit on nested groups.
-/

namespace DocStore

structure Query where
  source : String
  tokens : List Query.Token
  maxDepth : Nat

namespace Query

def defaultMaxDepth : Nat := 64

def ofExpression (maxDepth : Nat) (expression : String) : Query :=
  ⟨expression, tokenize expression, maxDepth⟩

def isEmpty (q : Query) : Bool :=
  q.tokens.isEmpty

def accepts (q : Query) (record : Record) : Bool :=
  (run q.maxDepth q.tokens record).1

def filter (q : Query) (records : List (String × Record)) : List (String × Record) :=
  records.filter fun entry => q.accepts entry.2

end Query

end DocStore
