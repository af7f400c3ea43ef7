import Tabulate.Dataset
import Tabulate.Text.Blank
import Tabulate.Value.Access

/-!
# The store of datasets

Datasets in the order in which they were stored, and the identifier that the next one will get;
identifiers are not used again. No owner has two datasets of one name: `create` refuses a name that
is taken, `addUnique` finds the first free one among `name`, `name (1)`, `name (2)`, …. An operation
that fails leaves no trace: it returns a fault and no store.
-/

namespace Tabulate

/-- The rows that values describe, all of which have to be records. -/
def Row.ofValues : List Value → Except Fault (List Row)
  | [] => .ok []
  | v :: rest =>
    match Row.ofValue? v with
    | some row => do return row :: (← ofValues rest)
    | none => .error (.noOperation v "keys")

/-- The stored datasets and the next identifier. -/
structure Store where
  datasets : List Dataset := []
  nextId : Nat := 1
  deriving DecidableEq, Inhabited

namespace Store

/-- The store without datasets. -/
def empty : Store := ⟨[], 1⟩

/-- The number of stored datasets. -/
def size (store : Store) : Nat := store.datasets.length

/-- Whether an owner has a dataset of a name. -/
def nameTaken (store : Store) (owner : Value) (name : String) : Bool :=
  store.datasets.any fun d => d.name == name && d.owner.eqv owner

/-- The name that a value gives to a dataset, trimmed; it must not be blank. -/
def datasetName (name : Value) : Except Fault String := do
  if ← name.truth then
    match name with
    | .str s => if strip s = "" then throw (.rejected .datasetNameRequired) else return strip s
    | v => throw (.noOperation v "strip")
  else throw (.rejected .datasetNameRequired)

/-- The store with one more dataset, and the dataset. -/
def insert (store : Store) (now : Timestamp) (name : String) (rows : List Row) (owner : Value) :
    Dataset × Store :=
  let d : Dataset := ⟨store.nextId, name, inferColumns rows, rows, owner, now⟩
  (d, ⟨store.datasets ++ [d], store.nextId + 1⟩)

/-- A new dataset under a name that its owner does not use yet. -/
def create (store : Store) (now : Timestamp) (name rows owner : Value) :
    Except Fault (Dataset × Store) := do
  let name ← datasetName name
  let values ← rows.members
  if store.nameTaken owner name then throw (.conflict name)
  return store.insert now name (← Row.ofValues values) owner

/-- The names that are tried for a dataset: `base`, `base (1)`, `base (2)`, …. -/
def numbered (base : String) : Nat → String
  | 0 => base
  | k + 1 => base ++ " (" ++ (k + 1).repr ++ ")"

/-- The first of the numbered names that is free. Among as many names as there are datasets, and one
more, one is. -/
def freeName (store : Store) (owner : Value) (base : String) : String :=
  (((List.range (store.size + 1)).map (numbered base)).find? fun name =>
    !store.nameTaken owner name).getD base

/-- A new dataset under a name or, if that is taken, under the first numbered one that is not. -/
def addUnique (store : Store) (now : Timestamp) (name rows owner : Value) :
    Except Fault (Dataset × Store) := do
  let base ← datasetName name
  let values ← rows.members
  return store.insert now (store.freeName owner base) (← Row.ofValues values) owner

/-- The dataset with an identifier, if the viewer may see it. Any value may be given for the
identifier that can be a key; numbers are compared by value. -/
def get (store : Store) (id viewer : Value) : Except Fault Dataset :=
  match id with
  | .list _ | .record _ => .error (.unusableKey id)
  | _ =>
    match store.datasets.find? fun d => (Value.int d.id).eqv id with
    | some d => if d.visibleTo viewer then .ok d else .error (.notFound id)
    | none => .error (.notFound id)

/-- The datasets that a viewer may see, newest first. -/
def list (store : Store) (viewer : Value) : List Dataset :=
  (store.datasets.filter (·.visibleTo viewer)).mergeSort Dataset.precedes

/-- The store without the dataset with an identifier, which the viewer must be able to see. -/
def delete (store : Store) (id viewer : Value) : Except Fault Store := do
  let d ← store.get id viewer
  return { store with datasets := store.datasets.filter (·.id != d.id) }

end Store

end Tabulate
