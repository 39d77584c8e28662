import CredentialPolicy.Text.Search
import CredentialPolicy.Unicode.Width

/-!
Tables with rounded corners.

Every column is as wide as its widest cell, with a blank on either side. A line break in a cell
makes its whole row taller. All lines of a table are equally wide: `width_cellLine`.
-/

set_option autoImplicit false

namespace CredentialPolicy.Report

open Unicode (width)

/-- The lines of a cell. -/
def cellLines (cell : String) : List (List Char) := Text.pieces '\n' cell.toList

/-- The columns that a cell takes. -/
def cellWidth (cell : String) : Nat := ((cellLines cell).map width).foldl max 0

/-- The width of each column: that of its widest cell. -/
def columnWidths (header : List String) (rows : List (List String)) : List Nat :=
  rows.foldl (fun widths row => List.zipWith max widths (row.map cellWidth)) (header.map cellWidth)

/-- A line of a cell, with a blank on either side and as many more behind it as its column takes. -/
def cellLine (columns : Nat) (line : List Char) : List Char :=
  ' ' :: line ++ List.replicate (columns - width line) ' ' ++ [' ']

theorem width_append (s t : List Char) : width (s ++ t) = width s + width t := by
  induction s with
  | nil => rw [List.nil_append, width, Nat.zero_add]
  | cons c s ih => rw [List.cons_append, width, width, ih, Nat.add_assoc]

theorem width_replicate_blank (n : Nat) : width (List.replicate n ' ') = n := by
  have blank : Unicode.charWidth ' ' = 1 := by decide +kernel
  induction n with
  | zero => rfl
  | succ n ih => rw [List.replicate_succ, width, ih, blank, Nat.add_comm]

theorem width_cellLine {columns : Nat} {line : List Char} (h : width line ≤ columns) :
    width (cellLine columns line) = columns + 2 := by
  have one : width [' '] = 1 := width_replicate_blank 1
  have : cellLine columns line =
      [' '] ++ line ++ List.replicate (columns - width line) ' ' ++ [' '] := rfl
  rw [this, width_append, width_append, width_append, width_replicate_blank, one]
  omega

/-- A line between two rows, or around them. -/
def rule (left between right : Char) (widths : List Nat) : List Char :=
  left :: [between].intercalate (widths.map fun n => List.replicate (n + 2) '─') ++ [right]

/-- The lines of a row: as many as its tallest cell has. -/
def rowLines (widths : List Nat) (row : List String) : List (List Char) :=
  let cells := row.map cellLines
  let height := (cells.map List.length).foldl max 0
  (List.range height).map fun i =>
    '│' :: ['│'].intercalate
      (List.zipWith (fun n (cell : List (List Char)) => cellLine n (cell[i]?.getD [])) widths cells)
      ++ ['│']

/-- A table with a header, which has as many cells as each row. -/
def table (header : List String) (rows : List (List String)) : String :=
  let widths := columnWidths header rows
  let lines :=
    rule '╭' '┬' '╮' widths :: rowLines widths header ++ rule '├' '┼' '┤' widths ::
      rows.flatMap (rowLines widths) ++ [rule '╰' '┴' '╯' widths]
  String.ofList (['\n'].intercalate lines)

end CredentialPolicy.Report
