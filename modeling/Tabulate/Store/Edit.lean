import Tabulate.Store.Session

/-!
# Editing a store

The operations of a store once more, as they change it in place, write by write. A dataset is put
into the store before the next identifier is counted up, and a seed text is stored entry by entry. A
fault ends an edit and takes nothing back: what was written before it stays. An edit that leaves no
trace when it fails does so because of the order of its steps.
-/

namespace Tabulate.Store

/-- An operation that changes a store in place. -/
abbrev Edit (α : Type) := ExceptT Fault (StateM Store) α

namespace Edit

/-- What an edit gives when it is made on a store, and the store afterwards. -/
def on {α : Type} (edit : Edit α) (s : Store) : Except Fault α × Store := (edit.run.run s).run

/-- The store at this point of an edit. -/
def current : Edit Store := getThe Store

/-- Puts a dataset behind the others. -/
def put (d : Dataset) : Edit Unit := modify fun s => { s with datasets := s.datasets ++ [d] }

/-- Counts the next identifier up. -/
def countUp : Edit Unit := modify fun s => { s with nextId := s.nextId + 1 }

/-- Takes out the dataset with an identifier. -/
def drop (i : Nat) : Edit Unit :=
  modify fun s => { s with datasets := s.datasets.filter (·.id != i) }

/-- Stores the rows that values describe under a name. The dataset is complete before it is put into
the store. -/
def insert (now : Timestamp) (name : String) (values : List Value) (owner : Value) :
    Edit Dataset := do
  let id := (← current).nextId
  let rows ← Row.ofValues values
  let d : Dataset := ⟨id, name, inferColumns rows, rows, owner, now⟩
  put d
  countUp
  return d

/-- Stores a dataset under a name that its owner does not use yet. -/
def create (now : Timestamp) (name rows owner : Value) : Edit Dataset := do
  let name ← datasetName name
  let values ← rows.members
  if (← current).nameTaken owner name then throw (.conflict name)
  insert now name values owner

/-- Stores a dataset under a name or, if that is taken, under the first numbered one that is not. -/
def addUnique (now : Timestamp) (name rows owner : Value) : Edit Dataset := do
  let base ← datasetName name
  let values ← rows.members
  insert now ((← current).freeName owner base) values owner

/-- The dataset with an identifier. -/
def find (id viewer : Value) : Edit Dataset := do (← current).get id viewer

/-- Deletes the dataset with an identifier. -/
def delete (id viewer : Value) : Edit Unit := do
  let d ← find id viewer
  drop d.id

/-- Stores the dataset of an entry of a seed text. -/
def addEntry (now : Timestamp) (entry : Value) : Edit Dataset := do
  let name ← entry.required "name"
  addUnique now name (← entryRows entry) (entry.field "owner")

/-- Stores the datasets of entries one after another. -/
def addEntries (now : Timestamp) : List Value → Edit (List Dataset)
  | [] => return []
  | entry :: rest => do
    let d ← addEntry now entry
    return d :: (← addEntries now rest)

/-- Stores the datasets of a seed text. -/
def load (now : Timestamp) (text : String) : Edit (List Dataset) := do
  addEntries now (← seedEntries text)

/-- A command carried out in place. The clock is no part of the store. -/
def ofCommand (now : Timestamp) : Command → Edit Reply
  | .create name rows owner => return .dataset (← create now name rows owner)
  | .addUnique name rows owner => return .dataset (← addUnique now name rows owner)
  | .get id viewer => return .dataset (← find id viewer)
  | .list viewer => return .datasets ((← current).list viewer)
  | .visible id viewer other => return .truth ((← find id viewer).visibleTo other)
  | .delete id viewer => do
    delete id viewer
    return .done
  | .load text => return .datasets (← load now text)
  | .evaluate id viewer query => do
    let d ← find id viewer
    return .rows (← evaluate (some d.rows) query .null)
  | .setClock _ => return .done

end Edit

end Tabulate.Store
