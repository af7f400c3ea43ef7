import Tabulate.Number.Integer
import Tabulate.Text.Blank
import Tabulate.Text.Split
import Tabulate.Text.Uppercase

/-!
# Settings

What the service reads from its environment, with the values that stand in where a variable is not
set.
-/

namespace Tabulate

/-- The items of a text with commas between them, trimmed, blank ones left out. -/
def commaItems (text : String) : List String :=
  ((splitOn ',' text.toList).map fun part => String.ofList (trim isBlank part)).filter (· ≠ "")

/-- The integer that a text denotes, or `default` when there is no text or it denotes none. -/
def integerOr (text : Option String) (default : Int) : Int :=
  match text with
  | none => default
  | some s => (parseInteger s).getD default

/-- A file path without empty and `.` parts. A path that starts with exactly two slashes keeps
both. -/
def tidyPath (path : String) : String :=
  let cs := path.toList
  let root := match cs.takeWhile (· == '/') with
    | [] => []
    | ['/', '/'] => ['/', '/']
    | _ => ['/']
  let parts := (splitOn '/' cs).filter fun part => part ≠ [] ∧ part ≠ ['.']
  let tidy := root ++ ['/'].intercalate parts
  if tidy.isEmpty then "." else String.ofList tidy

/-- What the service is told from outside. -/
structure Settings where
  corsOrigins : List String
  seedPath : Option String
  logLevel : String
  host : String
  port : Int
  userHeader : String

/-- The settings of an environment, given as the values of its variables. -/
def Settings.ofEnvironment (env : String → Option String) : Settings where
  corsOrigins :=
    commaItems ((env "CHART_API_CORS_ORIGINS").getD "http://localhost:3000,http://127.0.0.1:3000")
  seedPath :=
    match env "CHART_API_SEED_PATH" with
    | none | some "" => none
    | some path => some (tidyPath path)
  logLevel := uppercase ((env "CHART_API_LOG_LEVEL").getD "INFO")
  host := (env "CHART_API_HOST").getD "127.0.0.1"
  port := integerOr (env "CHART_API_PORT") 8000
  userHeader := (env "CHART_API_USER_HEADER").getD "X-User"

end Tabulate
