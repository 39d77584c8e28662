import CredentialPolicy.Json.Writer
import CredentialPolicy.Program.Outcome
import CredentialPolicy.Report.Table

/-!
Lists of equally shaped rows, in each of the formats of what the program writes.
-/

set_option autoImplicit false

namespace CredentialPolicy.Program

open Document

/-- A row: what it shows in a table, as JSON, and on a line of its own. -/
structure Row where
  /-- The cells. -/
  cells : List String
  /-- The value. -/
  value : Value
  /-- The line. -/
  line : String

/-- Rows with a header. -/
structure Listing where
  /-- The names of the columns. -/
  header : List String
  /-- The rows. -/
  rows : List Row

namespace Listing

/-- The rows as a table. -/
def toTable (l : Listing) : String := Report.table l.header (l.rows.map (·.cells)) ++ "\n"

/-- The rows in a format. -/
def toText (l : Listing) : OutputFormat → String
  | .table => if l.rows.isEmpty then informationLine "No results found." else l.toTable
  | .json => Json.writeLines (.list (l.rows.map (·.value))) ++ "\n"
  | .quiet => String.join (l.rows.map fun row => row.line ++ "\n")

end Listing

end CredentialPolicy.Program
