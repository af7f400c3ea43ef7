import Tabulate.Json.Writer

/-!
# Requests and answers

What the service is asked and what it answers. A request's path is still percent-encoded; its body
is text.
-/

namespace Tabulate.Http

/-- What the service is asked. Headers keep their order, and their names may differ in case. -/
structure Request where
  method : String
  path : String
  headers : List (String × String) := []
  body : String := ""
  deriving Inhabited

/-- What the service answers. An exported chart names its file in `disposition`. -/
structure Answer where
  status : Nat
  mediaType : String
  body : String
  disposition : Option String := none
  deriving DecidableEq, Inhabited

/-- A character of a header's name in lower case. Only characters below `U+0100` can be sent; four
others have one of them as their lower case. -/
def headerChar? (c : Char) : Option Char :=
  let n := c.toNat
  if n = 0x178 then some 'ÿ'
  else if n = 0x1e9e then some 'ß'
  else if n = 0x212a then some 'k'
  else if n = 0x212b then some 'å'
  else if 0x100 ≤ n then none
  else if (0x41 ≤ n ∧ n ≤ 0x5a) ∨ (0xc0 ≤ n ∧ n ≤ 0xde ∧ n ≠ 0xd7) then some (Char.ofNat (n + 0x20))
  else some c

/-- The name of a header as names are compared, if it can be sent. -/
def headerKey (name : String) : Option (List Char) := name.toList.mapM headerChar?

/-- The value of the first header of a name, in upper or lower case. -/
def Request.header? (request : Request) (name : String) : Option String :=
  (request.headers.find? fun header => headerKey header.1 == headerKey name).map Prod.snd

namespace Answer

/-- An answer in JSON. -/
def json (status : Nat) (v : Value) : Answer := ⟨status, "application/json", Json.write v, none⟩

/-- What was asked for. -/
def success (status : Nat) (data : Value) : Answer :=
  json status (.record [("success", .bool true), ("data", data)])

/-- Why a request failed, with more about it. -/
def failure (status : Nat) (message : String) (more : List (String × Value)) : Answer :=
  json status (.record ([("success", .bool false), ("message", .str message)] ++ more))

/-- A request that no part of the service answers. -/
def detail (status : Nat) (text : String) : Answer := json status (.record [("detail", .str text)])

/-- A request whose handling broke off. -/
def broken : Answer := ⟨500, "text/plain; charset=utf-8", "Internal Server Error", none⟩

/-- A table in comma-separated values, to be saved as a file. -/
def file (table name : String) : Answer :=
  ⟨200, "text/csv; charset=utf-8", table, some ("attachment; filename=" ++ name)⟩

end Answer

end Tabulate.Http
