import Compliance.Text.Blank
import Compliance.Text.Width

/-!
Tables with a frame around them and a double line below the heads. A column is as wide as its
widest line, cells stand to the left, and a cell with several lines makes its row higher.
-/

namespace Compliance.Text

def cellLines (cell : String) : List String := splitAt '\n' cell

def cellWidth (cell : String) : Nat := ((cellLines cell).map width).foldl max 0

abbrev Row := List String

def columnWidths (rows : List Row) : List Nat :=
  match rows with
  | [] => []
  | row :: rest => rest.foldl (fun ws r => List.zipWith max ws (r.map cellWidth)) (row.map cellWidth)

/-- A line of a cell with blanks up to a width and one on each side. -/
def padded (w : Nat) (s : String) : String :=
  " " ++ s ++ String.ofList (List.replicate (w - width s) ' ') ++ " "

def rowHeight (row : Row) : Nat := (row.map fun cell => (cellLines cell).length).foldl max 0

/-- One line of a row. A cell that has no such line is blank there. -/
def rowLine (widths : List Nat) (row : Row) (i : Nat) : String :=
  "│" ++ " ".intercalate (List.zipWith (fun w cell => padded w ((cellLines cell)[i]?.getD "")) widths row) ++
    "│"

def rowLines (widths : List Nat) (row : Row) : List String :=
  (List.range (rowHeight row)).map (rowLine widths row)

def innerWidth (widths : List Nat) : Nat :=
  widths.foldl (fun n w => n + w + 2) 0 + (widths.length - 1)

def frameLine (left middle right : Char) (widths : List Nat) : String :=
  String.ofList (left :: (List.replicate (innerWidth widths) middle ++ [right]))

def tableLines (heads : Row) (rows : List Row) : List String :=
  let widths := columnWidths (heads :: rows)
  frameLine '┌' '─' '┐' widths :: rowLines widths heads ++ frameLine '╞' '═' '╡' widths ::
    rows.flatMap (rowLines widths) ++ [frameLine '└' '─' '┘' widths]

def table (heads : Row) (rows : List Row) : String := "\n".intercalate (tableLines heads rows)

end Compliance.Text
