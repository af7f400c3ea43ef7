import Tabulate.Evaluate
import Tabulate.Store.Seed

/-!
# Sessions with a store

A session is a store and a clock. Commands are carried out one after another; each gives a reply or
a fault, and a fault of any command but seeding leaves the session as it was.
-/

namespace Tabulate

/-- A store and the time that new datasets are stamped with. -/
structure Session where
  store : Store := .empty
  clock : Timestamp := ⟨0⟩
  deriving Inhabited

/-- What a session may be asked to do. -/
inductive Command where
  | create (name rows owner : Value)
  | addUnique (name rows owner : Value)
  | get (id viewer : Value)
  | list (viewer : Value)
  | visible (id viewer other : Value)
  | delete (id viewer : Value)
  | load (text : String)
  | evaluate (id viewer query : Value)
  | setClock (now : Timestamp)

/-- What a command is answered with. -/
inductive Reply where
  | dataset (d : Dataset)
  | datasets (ds : List Dataset)
  | truth (b : Bool)
  | rows (rows : List Row)
  | done

namespace Session

/-- The session with another store. -/
def withStore (session : Session) (result : Except Fault (Dataset × Store)) :
    Session × Except Fault Reply :=
  match result with
  | .ok (d, store) => ({ session with store }, .ok (.dataset d))
  | .error fault => (session, .error fault)

/-- Carries out one command. -/
def perform (session : Session) : Command → Session × Except Fault Reply
  | .create name rows owner =>
    session.withStore (session.store.create session.clock name rows owner)
  | .addUnique name rows owner =>
    session.withStore (session.store.addUnique session.clock name rows owner)
  | .get id viewer => (session, (session.store.get id viewer).map .dataset)
  | .list viewer => (session, .ok (.datasets (session.store.list viewer)))
  | .visible id viewer other =>
    (session, (session.store.get id viewer).map fun d => .truth (d.visibleTo other))
  | .delete id viewer =>
    match session.store.delete id viewer with
    | .ok store => ({ session with store }, .ok .done)
    | .error fault => (session, .error fault)
  | .load text =>
    let (store, result) := session.store.load session.clock text
    ({ session with store }, result.map .datasets)
  | .evaluate id viewer query =>
    (session, do
      let d ← session.store.get id viewer
      return .rows (← Tabulate.evaluate (some d.rows) query .null))
  | .setClock now => ({ session with clock := now }, .ok .done)

/-- Carries out commands in order; the replies stand in the same order. -/
def run (session : Session) : List Command → Session × List (Except Fault Reply)
  | [] => (session, [])
  | command :: rest =>
    let (session, reply) := session.perform command
    let (session, replies) := session.run rest
    (session, reply :: replies)

end Session

end Tabulate
