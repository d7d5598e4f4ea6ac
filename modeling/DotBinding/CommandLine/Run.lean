import DotBinding.CommandLine.Arguments
import DotBinding.CommandLine.Surroundings
import DotBinding.Json.Reader
import DotBinding.Json.Writer

/-!
# Running the program

What the program prints and logs for its arguments and files.
-/

namespace DotBinding.CommandLine

/-- What the program leaves: its exit code, what it printed and what it logged. -/
structure Outcome where
  exit : Nat
  printed : String
  logged : String
  deriving DecidableEq

/-- Why the program breaks off without an outcome. -/
inductive Crash where
  | unknownLogLevel (name : String)
  | hugeNumber (digits : Nat)
  /-- There is a directory where a file is read. -/
  | directory (path : String)
  | nameTooLong (path : String)
  /-- A separator was given for a path. -/
  | noPath
  /-- A separator was given for a kind or a format. -/
  | noChoice
  deriving DecidableEq

namespace Crash

/-- The name under which a crash is reported. -/
def name : Crash → String
  | unknownLogLevel _ | hugeNumber _ => "ValueError"
  | directory _ => "IsADirectoryError"
  | nameTooLong _ => "OSError"
  | noPath | noChoice => "TypeError"

def message : Crash → String
  | unknownLogLevel name => LogLevel.unknownMessage name
  | hugeNumber digits => (Json.Error.hugeNumber digits).message []
  | directory path => "[Errno 21] Is a directory: " ++ Text.quoted path
  | nameTooLong path => "[Errno 36] File name too long: " ++ Text.quoted path
  | noPath => "expected str, bytes or os.PathLike object, not list"
  | noChoice => "unhashable type: 'list'"

end Crash

/-- One line end for all: `\r\n` and `\r` become `\n`. -/
def normalizeLines : List Char → List Char
  | '\r' :: '\n' :: rest => '\n' :: normalizeLines rest
  | '\r' :: rest => '\n' :: normalizeLines rest
  | c :: rest => c :: normalizeLines rest
  | [] => []

/-- The text of the file at a path, if there is one. -/
def Surroundings.read? (s : Surroundings) (path : String) : Except Crash (Option String) :=
  let path := plainPath path
  match s.file path with
  | .text content => .ok (some (String.ofList (normalizeLines content.toList)))
  | .directory => .error (.directory path)
  | .absent => .ok none
  | .nameTooLong => .error (.nameTooLong path)

/-- The log line of a message about one step. -/
def logLine (source message : String) : String :=
  "DEBUG graph_config." ++ source ++ ": " ++ message ++ "\n"

/-- What is logged when a template is put together. -/
def templateLog (kind : TemplateKind) (source : String) : String :=
  logLine "registry" "Registered transforms: (none)" ++
    logLine "template" ("created dot: " ++ kind.wrap source)

def gapLog (gaps : List Diagnostic) : String :=
  String.join (gaps.map fun d => logLine "compiler" d.message)

/-- The end of a run that went wrong, with what it had logged. -/
def failed (message logged : String) : Outcome :=
  ⟨1, message ++ "\n", logged⟩

def notFound (path : String) : Outcome :=
  failed ("Error: File not found: " ++ path) ""

def errorLine (e : Error) : String :=
  e.name ++ ": " ++ e.message

/-- What is used must have been given. -/
def need {α : Type} (crash : Crash) (given : Option α) : Except Crash α :=
  given.elim (.error crash) .ok

/-- Binds a template to values and prints the statements. -/
def runBind (source : String) (values : Record) (kind : TemplateKind) (format : Format) : Outcome :=
  match Template.build kind [.value (.text source)] with
  | .error e => failed (errorLine e) (templateLog kind source)
  | .ok template =>
    let output := (template.bind format.factory values.toValue).output
    let logged := templateLog kind source ++ gapLog output.diagnostics
    match output.failure? with
    | some e => failed (errorLine (.bind e)) logged
    | none =>
      let statements := output.statements.map fun s => s.dumped.toValue
      ⟨0, Json.toText .indented (.list statements) ++ "\n", logged⟩

/-- Binds a template to the values in the text of a file. -/
def runBindText (source path text : String) (kind : Option TemplateKind)
    (format : Option Format) : Except Crash Outcome :=
  match Json.read text.toList with
  | .ok (.map entries) => do
    let format ← need .noChoice format
    let kind ← need .noChoice kind
    return runBind source ⟨entries⟩ kind format
  | .ok _ => .ok (failed ("Error: " ++ path ++ " must hold a JSON object") "")
  | .error (.hugeNumber digits) => .error (.hugeNumber digits)
  | .error e =>
    .ok (failed ("Error: " ++ path ++ " is not valid JSON: " ++ e.message text.toList) "")

/-- What `parse` prints about a graph. -/
def summary (g : Dot.Graph) : String :=
  let outline := Outline.ofGraph g
  let name := if g.name = "" then "" else " " ++ g.name
  let counts := g.kind.text ++ name ++ ": " ++ outline.nodes.length.repr ++
    " node declaration(s), " ++ outline.edges.length.repr ++ " edge declaration(s)\n"
  match outline.impliedNames with
  | [] => counts
  | names => counts ++ "  Implied nodes: " ++ ", ".intercalate names ++ "\n"

/-- Reads a template and prints what binding will see. -/
def runParse (source : String) (kind : TemplateKind) : Outcome :=
  match Template.build kind [.value (.text source)] with
  | .error e => failed (errorLine e) (templateLog kind source)
  | .ok template => ⟨0, String.join (template.graphs.map summary), templateLog kind source⟩

/-- Runs a command. The template is looked for before the values. -/
def Command.run (s : Surroundings) : Command → Except Crash Outcome
  | bind template values kind format => do
    let template ← need .noPath template
    let some source ← s.read? template
      | return notFound template
    let values ← need .noPath values
    let some text ← s.read? values
      | return notFound values
    runBindText source values text kind format
  | parse template kind => do
    let template ← need .noPath template
    let some source ← s.read? template
      | return notFound template
    return runParse source (← need .noChoice kind)

/-- The level that a run logs at. -/
def Arguments.logLevel (s : Surroundings) (a : Arguments) : Except Crash LogLevel :=
  if a.verbose then .ok .debug
  else
    let name := logLevelName s.logLevel defaultLogLevel
    (LogLevel.ofName? name).elim (.error (.unknownLogLevel name)) .ok

/-- Runs the program on arguments that are in order. Without a command it shows its help. -/
def Arguments.run (s : Surroundings) (a : Arguments) : Except Crash Outcome := do
  let level ← a.logLevel s
  match a.command? with
  | none => return ⟨1, HelpPage.main.text, ""⟩
  | some command =>
    let outcome ← command.run s
    return if level.showsDebug then outcome else { outcome with logged := "" }

/-- The exit code of a run whose arguments are not in order. -/
def usageExit : Nat :=
  2

/-- Runs the program. There is no outcome if its arguments are not in order. -/
def run (s : Surroundings) (args : List String) : Except Crash (Option Outcome) :=
  match Arguments.ofList args with
  | .error .usage => .ok none
  | .error (.help page) => .ok (some ⟨0, page.text, ""⟩)
  | .ok a => (a.run s).map some

end DotBinding.CommandLine
