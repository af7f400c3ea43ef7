import Tabulate.Http.Message
import Tabulate.Number.Relaxed
import Tabulate.Row

/-!
# Validation of request data

Data that came with a request is checked before it is used. Each complaint names the place of the
data that it is about; checks of several places give all their complaints, in order.
-/

namespace Tabulate.Http

/-- What is wrong with a piece of data. -/
inductive Problem where
  | required
  | notText
  | notList
  | notRecord
  | notObject
  | notInteger
  | notNumber
  | unreadableInteger
  | integerTooLarge
  | fractional
  | notFinite
  | notJson
  deriving DecidableEq, Inhabited

/-- The wording of a problem. -/
def Problem.message : Problem → String
  | required => "Field required"
  | notText => "Input should be a valid string"
  | notList => "Input should be a valid list"
  | notRecord => "Input should be a valid dictionary"
  | notObject => "Input should be a valid dictionary or object to extract fields from"
  | notInteger => "Input should be a valid integer"
  | notNumber => "Input should be a valid number"
  | unreadableInteger => "Input should be a valid integer, unable to parse string as an integer"
  | integerTooLarge => "Unable to parse input string as an integer, exceeded maximum size"
  | fractional => "Input should be a valid integer, got a number with a fractional part"
  | notFinite => "Input should be a finite number"
  | notJson => "JSON decode error"

/-- A problem and where it is: the keys and positions that lead there. -/
structure Complaint where
  place : List String
  problem : Problem
  deriving DecidableEq, Inhabited

/-- The place as text. -/
def Complaint.location (c : Complaint) : String := ".".intercalate c.place

/-- Checked data, or complaints about it. -/
abbrev Checked (α : Type) := Except (List Complaint) α

namespace Checked

variable {α β : Type}

/-- A single complaint. -/
def complain (place : List String) (problem : Problem) : Checked α := .error [⟨place, problem⟩]

/-- Two checks, both of which are made. -/
def both : Checked α → Checked β → Checked (α × β)
  | .ok a, .ok b => .ok (a, b)
  | .ok _, .error e => .error e
  | .error e, .ok _ => .error e
  | .error e, .error f => .error (e ++ f)

/-- A check of each item of a list, the first of which is at position `index`. -/
def each (check : Nat → α → Checked β) (index : Nat) : List α → Checked (List β)
  | [] => .ok []
  | a :: rest => (both (check index a) (each check (index + 1) rest)).map fun (b, bs) => b :: bs

end Checked

/-- The integer that a number is, if it has no fraction and fits in sixty-four bits. -/
def integerOfFloat (place : List String) (x : Binary64) : Checked Int :=
  match x.truncate? with
  | none => .complain place .notFinite
  | some i =>
    if !x.isIntegral then .complain place .fractional
    else if i.natAbs < 2 ^ 63 then .ok i
    else .complain place .integerTooLarge

/-- The integer that a value is or denotes in relaxed form. -/
def integer (place : List String) : Value → Checked Int
  | .bool b => .ok b.toNat
  | .int i => .ok i
  | .float x => integerOfFloat place x
  | .str s =>
    match relaxedInteger? s with
    | some i => .ok i
    | none => .complain place (if isOverlong s.toList then .integerTooLarge else .unreadableInteger)
  | _ => .complain place .notInteger

/-- The text that a value is. -/
def text (place : List String) : Value → Checked String
  | .str s => .ok s
  | _ => .complain place .notText

/-- The text that a value is, or none for `null`. -/
def text? (place : List String) : Value → Checked (Option String)
  | .null => .ok none
  | v => (text place v).map some

/-- The items of a list, each checked. -/
def list {α : Type} (place : List String) (check : List String → Value → Checked α) :
    Value → Checked (List α)
  | .list items => Checked.each (fun index v => check (place ++ [index.repr]) v) 0 items
  | _ => .complain place .notList

/-- The row that a value describes. -/
def row (place : List String) (v : Value) : Checked Row :=
  match Row.ofValue? v with
  | some row => .ok row
  | none => .complain place .notRecord

/-- The complaints as an answer. -/
def Answer.invalid (complaints : List Complaint) : Answer :=
  .failure 400 "Validation failed"
    [("errors",
      (Row.ofEntries (complaints.map fun c => (c.location, .str c.problem.message))).toValue)]

end Tabulate.Http
