import Tabulate.Csv.Table
import Tabulate.Export
import Tabulate.Http.Body
import Tabulate.Http.Path
import Tabulate.Store.Session

/-!
# The service

The service keeps a store and answers requests: charts of datasets, as data or as a file, and the
datasets themselves. Every request is made by a user, who may be nobody; a user sees the datasets of
their own and those of nobody. Only a new dataset and a deletion change the store.
-/

namespace Tabulate.Http

/-- How the user of a request is known: one and the same for all, or named in a header. -/
inductive Credentials where
  | fixed (user : Option String)
  | header (name : String)
  deriving DecidableEq, Inhabited

/-- The user who makes a request; a blank name is none. A header whose name cannot be sent cannot be
looked up. -/
def Credentials.identify (request : Request) : Credentials → Except Answer (Option String)
  | fixed user => .ok user
  | header name =>
    if (headerKey name).isNone then .error .broken
    else
      let user := strip ((request.header? name).getD "")
      .ok (if user = "" then none else some user)

/-- The service: a session with its store, and how it knows its users. -/
structure App extends Session where
  credentials : Credentials
  deriving Inhabited

namespace App

/-- A new service whose store is filled from a seed text, if there is one. -/
def start (seed : Option String) (clock : Timestamp) (credentials : Credentials) :
    Except Fault App :=
  match seed with
  | none => .ok ⟨⟨.empty, clock⟩, credentials⟩
  | some text =>
    match Store.empty.load clock text with
    | (store, .ok _) => .ok ⟨⟨store, clock⟩, credentials⟩
    | (_, .error fault) => .error fault

/-- The query that a request makes and its rows. -/
def query (app : App) (user : Value) (c : ChartData) : Except Fault (Query × List Row) := do
  let q ← Query.ofValue c.toValue
  let d ← app.store.get q.datasetId user
  return (q, ← evaluate (some d.rows) q.toValue .null)

/-- The answer to a chart that cannot be drawn. -/
def chartFailure (fallback : String) : Fault → Answer
  | .notFound id => .failure 404 ("Failed to load chart data: " ++ (Fault.notFound id).message) []
  | .rejected cause => .failure 400 cause.message [("field", .str cause.field)]
  | _ => .failure 500 fallback []

/-- A chart as data. -/
def chartData (app : App) (user : Value) (c : ChartData) : Answer :=
  match app.query user c with
  | .ok (_, rows) => .success 200 (.list (rows.map Row.toValue))
  | .error fault => chartFailure "Failed to load chart data" fault

/-- Whether every character of a text can be sent in a header. -/
def isHeaderText (s : String) : Bool := s.toList.all fun c => c.toNat < 0x100

/-- A chart as a file. One whose name cannot be sent in a header cannot be exported. -/
def chartExport (app : App) (user : Value) (c : ChartData) : Answer :=
  let failed := "Failed to export chart data"
  match (do let (q, rows) ← app.query user c; return (rows, ← exportFileName q.toValue)) with
  | .ok (rows, name) =>
    if isHeaderText name then .file (Csv.table rows []) name else .failure 500 failed []
  | .error fault => chartFailure failed fault

/-- The answer to a fault in the handling of datasets. -/
def datasetFailure (fault : Fault) : Answer :=
  match fault with
  | .rejected cause => .failure 400 cause.message [("field", .str cause.field)]
  | .notFound _ => .failure 404 fault.message []
  | .conflict _ => .failure 409 fault.message []
  | _ => .broken

/-- The service with a new dataset, and the answer to the request for it. -/
def createDataset (app : App) (user : Value) (d : DatasetData) : App × Answer :=
  if d.rows.isEmpty then (app, datasetFailure (.rejected .datasetRowsRequired))
  else
    match app.store.create app.clock (.str d.name) (.list (d.rows.map Row.toValue)) user with
    | .ok (d, store) => ({ app with store }, .success 201 (d.toValue false))
    | .error fault => (app, datasetFailure fault)

/-- The service without a dataset, and the answer to the request for its deletion. -/
def deleteDataset (app : App) (user : Value) (id : Int) : App × Answer :=
  match app.store.delete (.int id) user with
  | .ok store => ({ app with store }, .success 200 (.record [("id", .int id)]))
  | .error fault => (app, datasetFailure fault)

/-- A dataset with its rows. -/
def showDataset (app : App) (user : Value) (id : Int) : Answer :=
  match app.store.get (.int id) user with
  | .ok d => .success 200 (d.toValue true)
  | .error fault => datasetFailure fault

/-- The datasets that a user sees, without rows. -/
def listDatasets (app : App) (user : Value) : Answer :=
  .success 200 (.list ((app.store.list user).map (·.toValue false)))

/-- How many datasets there are. -/
def health (app : App) : Answer :=
  .json 200 (.record [("status", .str "ok"), ("datasets", .int app.store.size)])

/-- The user who makes a request, and its data. The body is read before the user is known, and
checked afterwards. -/
def submission {α : Type} (app : App) (request : Request)
    (check : List (String × Value) → Checked α) : Except Answer (Value × α) := do
  let body ← request.readBody
  let user ← app.credentials.identify request
  return (textValue user, ← body.data check)

/-- The user who makes a request, and the identifier in the path of a dataset. -/
def reference (app : App) (request : Request) (id : String) : Except Answer (Value × Int) := do
  let user ← app.credentials.identify request
  return (textValue user, ← (integer ["dataset_id"] (.str id)).mapError .invalid)

/-- The answer that `reply` makes of what a request says, or the one that says what is wrong with
the request. -/
def answering {α : Type} (said : Except Answer α) (reply : α → Answer) : Answer :=
  match said with
  | .ok a => reply a
  | .error answer => answer

/-- The service after a request, and the answer to it.

Answers that a web framework gives on its own are left out: where it would redirect a path that
differs by a slash at the end, show a page that describes the service, or answer a browser's
preflight request for another origin, the answer here is that nothing is found or that the method is
not allowed. -/
def handle (app : App) (request : Request) : App × Answer :=
  match Route.ofPath request.path, request.method with
  | some .health, "GET" => (app, app.health)
  | some .chartData, "POST" =>
    (app, answering (app.submission request ChartData.ofFields) fun (user, c) =>
      app.chartData user c)
  | some .chartExport, "POST" =>
    (app, answering (app.submission request ChartData.ofFields) fun (user, c) =>
      app.chartExport user c)
  | some .datasets, "GET" =>
    (app, answering (app.credentials.identify request) fun user =>
      app.listDatasets (textValue user))
  | some .datasets, "POST" =>
    match app.submission request DatasetData.ofFields with
    | .ok (user, d) => app.createDataset user d
    | .error answer => (app, answer)
  | some (.dataset id), "GET" =>
    (app, answering (app.reference request id) fun (user, id) => app.showDataset user id)
  | some (.dataset id), "DELETE" =>
    match app.reference request id with
    | .ok (user, id) => app.deleteDataset user id
    | .error answer => (app, answer)
  | some _, _ => (app, .detail 405 "Method Not Allowed")
  | none, _ => (app, .detail 404 "Not Found")

/-- The service after requests that are made at given times, and the answers to them in order. -/
def serve (app : App) : List (Timestamp × Request) → App × List Answer
  | [] => (app, [])
  | (now, request) :: rest =>
    let (app, answer) := { app with clock := now }.handle request
    let (app, answers) := app.serve rest
    (app, answer :: answers)

end App

end Tabulate.Http
