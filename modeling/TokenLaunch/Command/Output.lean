/-
# Output of a command

What a command has found is written as a table, as JSON or as YAML.  A single value has no table of
its own and is written as JSON instead.
-/
import TokenLaunch.Json.Printer
import TokenLaunch.Text.Table
import TokenLaunch.Yaml.Printer

namespace TokenLaunch

/-- How a command writes what it has found. -/
inductive OutputFormat
  | table
  | json
  | yaml
deriving DecidableEq

namespace OutputFormat

/-- The format of a name. -/
def ofName? (s : String) : Option OutputFormat :=
  [("table", table), ("json", json), ("yaml", yaml)].lookup s

end OutputFormat

/-- A text as a line of output. -/
def Output.line (s : String) : String := s ++ "\n"

open Output (line)

namespace Table

/-- The rows of a table as JSON objects. -/
def toJson (t : Table) : Json :=
  .array (t.rows.map fun row => .object (t.headings.zip (row.map .string)))

/-- A table in a format. -/
def written (t : Table) : OutputFormat → String
  | .table => line (if t.rows.isEmpty then "No results" else t.text)
  | .json => line t.toJson.pretty
  | .yaml => Yaml.document t.toJson

end Table

namespace Json

/-- A single value in a format. -/
def written (j : Json) : OutputFormat → String
  | .table | .json => line j.pretty
  | .yaml => Yaml.document j

end Json
end TokenLaunch
