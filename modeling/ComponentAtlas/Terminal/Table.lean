/-!
# Tables

Rows of cells below a row of headers. A column is as wide as its widest cell, counted in characters.
Rows need not be as long as the headers: a short row ends early, and cells behind the last column are
written as they are.
-/

namespace ComponentAtlas

/-- Headers and the rows below them. -/
structure Table where
  headers : List String
  rows : List (List String)
  deriving DecidableEq, Inhabited

namespace Table

/-- A text followed by blanks up to the given width. -/
def padded (width : Nat) (text : String) : String :=
  text ++ String.ofList (List.replicate (width - text.length) ' ')

/-- Column widths that leave room for the cells of a row as well. -/
def widen : (widths : List Nat) → (cells : List String) → List Nat
  | width :: widths, cell :: cells => max width cell.length :: widen widths cells
  | widths, _ => widths

/-- The widths of the columns. -/
def widths (table : Table) : List Nat :=
  table.rows.foldl widen (table.headers.map String.length)

/-- The cells of a row, padded as far as there are columns. -/
def aligned : (widths : List Nat) → (cells : List String) → List String
  | width :: widths, cell :: cells => padded width cell :: aligned widths cells
  | _, cells => cells

/-- What stands between two cells. -/
def bar : String := " │ "

/-- What stands in the rule below two neighbouring headers. -/
def crossing : String := "─┼─"

/-- The line of headers, each with emphasis on its whole width. -/
def headerLine (emphasis : String → String) (table : Table) : String :=
  bar.intercalate ((aligned table.widths table.headers).map emphasis)

/-- The line between the headers and the rows. -/
def ruleLine (table : Table) : String :=
  crossing.intercalate (table.widths.map fun width => String.ofList (List.replicate width '─'))

/-- The line of a row. -/
def rowLine (widths : List Nat) (cells : List String) : String :=
  bar.intercalate (aligned widths cells)

/-- The lines of a table. -/
def lines (emphasis : String → String) (table : Table) : List String :=
  table.headerLine emphasis :: table.ruleLine :: table.rows.map (rowLine table.widths)

end Table

end ComponentAtlas
