/-
The service.

Six routes answer callers: the page and its form, the run of a request, the lists of
departments and rules, and the state of the service.  A request that cannot be read
or is not valid is the caller's fault and is sent back with the reason; when the
reference data fail, the caller is told nothing about it.  A message with more bytes
than the service reads is refused before they are looked at.

Every answer depends on the engine and on the message alone.  What a run tells and
sends goes into the journal.
-/
import InvoiceApproval.Catalog.Loading
import InvoiceApproval.Failure
import InvoiceApproval.Request.Body
import InvoiceApproval.Response
import InvoiceApproval.Server.Form
import InvoiceApproval.Server.Health
import InvoiceApproval.Server.MediaType
import InvoiceApproval.Server.Message
import InvoiceApproval.Server.Page

namespace InvoiceApproval

namespace Server

/-! ### Starting up -/

/-- Why the service does not start. -/
inductive StartError where
  | catalog (cause : CatalogError)
deriving DecidableEq, Repr

/-- The wording of the reason. -/
def StartError.message : StartError → String
  | .catalog cause => s!"reference data could not be loaded: {cause.message}"

/-- Starts the service with these settings: its engine tells notices on their channel. -/
def start (w : World) (s : Settings) : Except StartError Engine :=
  match Catalog.ofSettings? w s with
  | .ok c => .ok (c.engine (.log s.channel))
  | .error cause => .error (.catalog cause)

/-! ### Running a request -/

/-- Runs a request that has been read. -/
def run (e : Engine) (b : RequestBody) : StateM Journal (Except Failure Outcome) := do
  match b.request with
  | .error cause => return .error (.validation cause)
  | .ok r => return (← (e.execute r).run).mapError .catalog

/-- The status of a refusal. -/
def status (r : Refusal) : Nat :=
  match r.blame with
  | .caller => 400
  | .program => 500

/-- The answer to a request that failed. -/
def refuse (f : Failure) : WebResponse :=
  let r := f.refusal Refusal.unassigned
  .json (status r) r.toData

/-! ### Documents -/

/-- The wording for a body that cannot be read.  The place of the fault is not told. -/
def faultMessage : BodyFault → String
  | .notJson => "Failed to parse the request body as JSON: <detail>"
  | .misfit => "Failed to deserialize the JSON body into the target type: <detail>"

/-- The wording for a body that is longer than what the service reads. -/
def overlongMessage : String := "Failed to buffer the request body: length limit exceeded"

/-- The body of a message, if it says that it is JSON, is not too long and can be read. -/
def readBody (m : WebRequest) : Except ValidationError RequestBody :=
  if m.contentType.any MediaType.isJson then
    if m.body.isOverlong then .error (.malformedRequest overlongMessage)
    else
      (RequestBody.readBytes m.body.bytes).mapError fun fault =>
        .malformedRequest (faultMessage fault)
  else
    .error (.malformedRequest "Expected request with `Content-Type: application/json`")

/-- Runs the request in a message. -/
def execute (e : Engine) (m : WebRequest) : StateM Journal WebResponse := do
  match readBody m with
  | .error cause => return refuse (.validation cause)
  | .ok b =>
    match ← run e b with
    | .ok o => return .json 200 (Response.ofOutcome o).toData
    | .error failure => return refuse failure

/-- Lists the rules that are in force. -/
def rules (e : Engine) : WebResponse :=
  match e.rules.fetch with
  | .ok c => .json 200 (.list (c.rules.map Rule.summaryData))
  | .error cause => refuse (.catalog cause)

/-- Tells how the service stands. -/
def health (e : Engine) (now : String) : WebResponse :=
  let h := Health.ofEngine e
  .json (if h.ready then 200 else 503) (h.toData now)

/-! ### The page -/

/-- Runs what was entered into the form. -/
def runForm (e : Engine) (f : SubmittedForm) : StateM Journal (Except Failure Outcome) := do
  match Decimal.parseTyped f.amount with
  | .error cause => return .error (.validation cause)
  | .ok amount => run e ⟨amount, f.department, f.isChecked⟩

/-- The form in a message, if it says that it is one, is not too long and can be read; what
is answered otherwise. -/
def readForm (m : WebRequest) : Except WebResponse SubmittedForm :=
  if m.contentType.any MediaType.isForm then
    if m.body.isOverlong then .error (.plain 413 overlongMessage)
    else
      match SubmittedForm.ofBody? m.body.bytes with
      | none => .error (.plain 422 "Failed to deserialize form body: <detail>")
      | some f => .ok f
  else
    .error (.plain 415
      "Form requests must have `Content-Type: application/x-www-form-urlencoded`")

/-- Runs the form in a message and shows the page again. -/
def submit (e : Engine) (m : WebRequest) : StateM Journal WebResponse := do
  match readForm m with
  | .error refusal => return refusal
  | .ok f =>
    match ← runForm e f with
    | .ok o => return .page 200 (Page.render f.values (.result (Response.ofOutcome o)))
    | .error failure =>
      let r := failure.refusal Refusal.unassigned
      return .page (status r) (Page.render f.values (.error r.userMessage))

/-! ### Routes -/

/-- What the service can be asked for. -/
inductive Route where
  | page
  | submit
  | execute
  | departments
  | rules
  | health
deriving DecidableEq, Repr

namespace Route

/-- Every route. -/
def all : List Route := [page, submit, execute, departments, rules, health]

/-- The path of a route. -/
def path : Route → String
  | page => "/"
  | submit => "/ui/execute"
  | execute => "/workflow/execute"
  | departments => "/workflow/departments"
  | rules => "/workflow/rules"
  | health => "/health"

/-- Whether a route takes something from its caller; the others only show. -/
def takes : Route → Bool
  | submit | execute => true
  | page | departments | rules | health => false

/-- The route of a path. -/
def ofPath? (path : String) : Option Route := all.find? (·.path == path)

end Route

/-- Answers on a route. -/
def serve (e : Engine) (now : String) (m : WebRequest) : Route → StateM Journal WebResponse
  | .page => return .page 200 (Page.render .unfilled .nothing)
  | .submit => submit e m
  | .execute => execute e m
  | .departments => return .json 200 Department.listingData
  | .rules => return rules e
  | .health => return health e now

/-- Answers a message at a time. -/
def answer (e : Engine) (now : String) (m : WebRequest) : StateM Journal WebResponse := do
  match Route.ofPath? m.path with
  | none => return .bare 404
  | some route =>
    if m.method = (if route.takes then "POST" else "GET") then serve e now m route
    else if !route.takes && m.method = "HEAD" then
      return (← serve e now m route).headOnly
    else return .bare 405

end Server

end InvoiceApproval
