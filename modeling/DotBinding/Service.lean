import DotBinding.Json.Encoding
import DotBinding.Json.Writer
import DotBinding.Template
import DotBinding.Text.Classes

/-!
# The web service

Binding as a web service. `POST /bind` takes a template and values and answers with statements and
gaps; `GET /health` answers that the service is there.
-/

namespace DotBinding.Service

/-- A request. The body is in UTF-8. -/
structure Request where
  method : String
  path : String
  body : String

/-- A response, and the name of the error that kept the service from giving one of its own. -/
structure Response where
  status : Nat
  body : String
  raised? : Option String

namespace Response

def ofText (status : Nat) (body : String) : Response :=
  ⟨status, body, none⟩

def ofFields (status : Nat) (fields : List (String × Value)) : Response :=
  ofText status (Json.toText .compact (Statement.fields fields))

def ofError (message type : String) : Response :=
  ofFields 400 [("error", .text message), ("type", .text type)]

def badRequest (message : String) : Response :=
  ofError message "BadRequest"

def crash (error : String) : Response :=
  ⟨500, "Internal Server Error", some error⟩

end Response

/-- The name that an error is answered with. The wrong name of a kind or a format is a fault of the
request. -/
def errorType : Error → String
  | .unknownKind _ | .unknownFormat _ => "BadRequest"
  | e => e.name

/-- What is asked to be bound. -/
structure BindRequest where
  template : String
  kind : String
  format : String
  values : Record

/-- A template with something in it. -/
def templateText? : Value → Option String
  | .text s => if s.toList.all Text.isBlank then none else some s
  | _ => none

/-- The request in the entries of a body, or what is wrong with it. -/
def BindRequest.ofRecord (r : Record) : Except String BindRequest := do
  let some template := templateText? (r.get "template")
    | .error "'template' must be a non-empty string"
  let .text kind := (r.get? "kind").getD (.text TemplateKind.dot.name)
    | .error "'kind' must be a string"
  let .text format := (r.get? "format").getD (.text Format.descriptors.name)
    | .error "'format' must be a string"
  let .map values := (r.get? "values").getD (.map [])
    | .error "'values' must be a JSON object"
  return ⟨template, kind, format, ⟨values⟩⟩

/-- The statements and gaps of a request. The format is looked at before the kind. -/
def BindRequest.run (r : BindRequest) : Except Error (List Statement × List Diagnostic) := do
  let format ← Format.named r.format
  let kind ← TemplateKind.named r.kind
  let template ← Template.build kind [.value (.text r.template)]
  (template.bind format.factory r.values.toValue).output.result.mapError .bind

def diagnosticValue (d : Diagnostic) : Value :=
  Statement.fields [("kind", .text d.kind), ("message", .text d.message), ("name", .text d.name)]

def answer (statements : List Statement) (gaps : List Diagnostic) : Response :=
  .ofFields 200 [("statements", .list (statements.map fun s => s.dumped.toValue)),
    ("diagnostics", .list (gaps.map diagnosticValue))]

def handleBody : Value → Response
  | .map entries =>
    match BindRequest.ofRecord ⟨entries⟩ with
    | .error message => .badRequest message
    | .ok request =>
      match request.run with
      | .error e => .ofError e.message (errorType e)
      | .ok (statements, gaps) => answer statements gaps
  | _ => .badRequest "Request body must be a JSON object"

/-- Answers to the body of a request to bind. -/
def handleBind (body : String) : Response :=
  match Json.decode? body with
  | none => .crash "UnicodeDecodeError"
  | some cs =>
    match Json.read cs with
    | .error (.malformed _ _) => .badRequest "Request body must be JSON"
    | .error (.hugeNumber _) => .crash "ValueError"
    | .ok v => handleBody v

def health : Response :=
  .ofFields 200 [("status", .text "ok")]

inductive Route where
  | bind
  | health

namespace Route

def path : Route → String
  | bind => "/bind"
  | health => "/health"

def methods : Route → List String
  | bind => ["POST"]
  | health => ["GET", "HEAD"]

def all : List Route :=
  [bind, health]

/-- The route of a path. One line feed at the end of the path does not count. -/
def ofPath? (path : String) : Option Route :=
  all.find? fun r => path == r.path || path == r.path ++ "\n"

def respond (request : Request) : Route → Response
  | bind => handleBind request.body
  | health => Service.health

end Route

/-- The path with the slash at its end taken away, or one added. The root has no other form. -/
def otherPath? (path : String) : Option String :=
  if path = "/" then none
  else if path.toList.getLast? = some '/' then
    some (String.ofList (path.toList.reverse.dropWhile (· == '/')).reverse)
  else some (path ++ "/")

/-- Answers to a request. A path that lacks a route but has one in its other form is redirected. -/
def respond (request : Request) : Response :=
  match Route.ofPath? request.path with
  | some route =>
    if route.methods.contains request.method then route.respond request
    else .ofText 405 "Method Not Allowed"
  | none =>
    if ((otherPath? request.path).bind Route.ofPath?).isSome then .ofText 307 ""
    else .ofText 404 "Not Found"

end DotBinding.Service
