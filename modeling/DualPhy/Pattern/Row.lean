/-!
# The depth of a pattern

How deep the parts of a pattern are nested is counted by levels. A symbol has
depth zero. Parts in a row lie a level deeper if there are at least two of them,
and parentheses, brackets and repetitions lie a level above what they hold.
-/

namespace DualPhy
namespace Pattern

/-- Parts that stand in a row. -/
structure Row where
  /-- How many there are. -/
  count : Nat
  /-- Depth of the deepest. -/
  deepest : Nat
  deriving DecidableEq

namespace Row

/-- No parts. -/
def empty : Row := ⟨0, 0⟩

/-- A row with a further part. -/
def push (depth : Nat) (row : Row) : Row := ⟨row.count + 1, max row.deepest depth⟩

/-- Depth of a row. -/
def depth (row : Row) : Nat := if row.count ≤ 1 then row.deepest else row.deepest + 1

end Row
end Pattern
end DualPhy
