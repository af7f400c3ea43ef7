import Tabulate.Json.Reader
import Tabulate.Text.Split

/-!
# Paths

The path of a request names a part of the service. Percent escapes stand for bytes of UTF-8 and are
resolved before the path is split, so an escaped slash separates like any other.
-/

namespace Tabulate.Http

/-- The bytes of a path, escapes resolved; a percent sign without two hexadecimal digits stands for
itself. -/
def pathBytes : List Char → List UInt8
  | [] => []
  | '%' :: a :: b :: rest =>
    match Json.hexValue? a, Json.hexValue? b with
    | some high, some low => UInt8.ofNat (16 * high + low) :: pathBytes rest
    | _, _ => 0x25 :: pathBytes (a :: b :: rest)
  | c :: rest => (String.singleton c).toUTF8.toList ++ pathBytes rest

/-- The text of bytes in UTF-8. Where they are none, every byte outside ASCII is unknown. -/
def textOfBytes (bytes : List UInt8) : List Char :=
  match String.fromUTF8? (ByteArray.mk bytes.toArray) with
  | some s => s.toList
  | none => bytes.map fun b => if b < 0x80 then Char.ofNat b.toNat else '\ufffd'

/-- The parts of the service. -/
inductive Route where
  | health
  | chartData
  | chartExport
  | datasets
  | dataset (id : String)
  deriving DecidableEq, Inhabited

/-- A text without the line feed at its end, if there is one. -/
def dropFinalNewline (cs : List Char) : List Char :=
  if cs.getLast? = some '\n' then cs.dropLast else cs

/-- The part of the service that a path names. A line feed at the end of a path counts as part of an
identifier only.

Only the service's own parts are named. What a web framework puts beside them is left out: the pages
that describe the service (`/docs`, `/openapi.json` and the like) and the redirect of a path with a
slash too many or too few at its end name nothing here. -/
def Route.ofPath (path : String) : Option Route :=
  let cs := textOfBytes (pathBytes path.toList)
  match (splitOn '/' cs).map String.ofList with
  | ["", "api", "datasets", id] => if id = "" then none else some (dataset id)
  | _ =>
    match (splitOn '/' (dropFinalNewline cs)).map String.ofList with
    | ["", "health"] => some health
    | ["", "api", "charts", "data"] => some chartData
    | ["", "api", "charts", "export"] => some chartExport
    | ["", "api", "datasets"] => some datasets
    | _ => none

example : Route.ofPath "/api/datasets/%31" = some (.dataset "1") := by decide +kernel

end Tabulate.Http
