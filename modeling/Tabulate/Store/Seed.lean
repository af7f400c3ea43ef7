import Tabulate.Json.Reader
import Tabulate.Store

/-!
# Seeding a store

A store is filled from a JSON text: a list of objects with a name, and if wanted rows and an owner.
Entries are stored one after another under names of their own; those before one that fails stay.
-/

namespace Tabulate

/-- A text in which every line ends with a line feed: a carriage return, with or without one,
becomes one. -/
def unifyLineEnds : List Char → List Char
  | [] => []
  | '\r' :: '\n' :: rest => '\n' :: unifyLineEnds rest
  | '\r' :: rest => '\n' :: unifyLineEnds rest
  | c :: rest => c :: unifyLineEnds rest

namespace Store

/-- The rows of an entry: what counts as false stands for none. -/
def entryRows (entry : Value) : Except Fault Value := do
  let rows := entry.field "rows"
  return if ← rows.truth then rows else .list []

/-- The store with the dataset of one entry, and the dataset. -/
def addEntry (store : Store) (now : Timestamp) (entry : Value) :
    Except Fault (Dataset × Store) := do
  let name ← entry.required "name"
  store.addUnique now name (← entryRows entry) (entry.field "owner")

/-- The store with the datasets of entries up to the first that fails, and the datasets or the
fault. -/
def addEntries (store : Store) (now : Timestamp) : List Value → Store × Except Fault (List Dataset)
  | [] => (store, .ok [])
  | entry :: rest =>
    match store.addEntry now entry with
    | .error fault => (store, .error fault)
    | .ok (d, store) =>
      let (store, result) := addEntries store now rest
      (store, result.map (d :: ·))

/-- The entries that a seed text holds. -/
def seedEntries (text : String) : Except Fault (List Value) := do
  match Json.read (String.ofList (unifyLineEnds text.toList)) with
  | .error e => throw (.json e)
  | .ok v => v.members

/-- The store with the datasets of a seed text. -/
def load (store : Store) (now : Timestamp) (text : String) : Store × Except Fault (List Dataset) :=
  match seedEntries text with
  | .error fault => (store, .error fault)
  | .ok entries => store.addEntries now entries

end Store

end Tabulate
