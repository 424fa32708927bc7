/-!
# Results and joins

Results are stacked, joins wait in a queue, and whenever two results and a join are there, the oldest join reduces the
two newest results. So `and` and `or` bind alike and apply from left to right.
-/

namespace DocStore.Query

inductive Join where
  | and
  | or
deriving DecidableEq, Repr

def Join.apply : Join → Bool → Bool → Bool
  | and, a, b => a && b
  | or, a, b => a || b

/-- Results not yet joined, the newest first, and joins not yet used, the oldest first. -/
structure Pending where
  results : List Bool := []
  joins : List Join := []
deriving DecidableEq, Repr

namespace Pending

def reduceWith (results : List Bool) : List Join → Pending
  | [] => ⟨results, []⟩
  | j :: joins =>
    match results with
    | right :: left :: others => reduceWith (j.apply left right :: others) joins
    | results => ⟨results, j :: joins⟩

def reduce (p : Pending) : Pending :=
  reduceWith p.results p.joins

def push (p : Pending) (result : Bool) : Pending :=
  reduce { p with results := result :: p.results }

def enqueue (p : Pending) (j : Join) : Pending :=
  reduce { p with joins := p.joins ++ [j] }

/-- The oldest result; without one it is true. -/
def value (p : Pending) : Bool :=
  p.results.getLast?.getD true

end Pending

end DocStore.Query
