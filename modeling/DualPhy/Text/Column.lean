/-!
# Columns of a table

A cell is padded with spaces to the width of its column. Widths count
characters, and a cell that is wider than its column is kept whole.
-/

namespace DualPhy
namespace Text

/-- A cell at the left edge of its column. -/
def alignLeft (width : Nat) (cell : List Char) : List Char :=
  cell ++ List.replicate (width - cell.length) ' '

/-- A cell at the right edge of its column. -/
def alignRight (width : Nat) (cell : List Char) : List Char :=
  List.replicate (width - cell.length) ' ' ++ cell

end Text
end DualPhy
