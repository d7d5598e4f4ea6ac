import DotBinding.Text.Quoted
import DotBinding.Text.Uppercase

/-!
# What the program reads

What the program reads besides its arguments: an environment variable, which says how much is
logged, and files. Two paths with the same plain form lead to the same file.
-/

namespace DotBinding.CommandLine

/-! ## Log levels -/

/-- The environment variable that holds the level. -/
def logLevelVariable : String :=
  "GRAPH_CONFIG_LOG_LEVEL"

def defaultLogLevel : String :=
  "WARNING"

/-- The name of a level from the environment, or the default if nothing is set, in upper case. -/
def logLevelName (environment : Option String) (default : String) : String :=
  Text.uppercase (environment.getD default)

inductive LogLevel where
  | notSet
  | debug
  | info
  | warning
  | error
  | critical
  deriving DecidableEq

namespace LogLevel

def names : List (String × LogLevel) :=
  [("CRITICAL", critical), ("FATAL", critical), ("ERROR", error), ("WARN", warning),
    ("WARNING", warning), ("INFO", info), ("DEBUG", debug), ("NOTSET", notSet)]

/-- The level of a name. -/
def ofName? (name : String) : Option LogLevel :=
  names.lookup name

def unknownMessage (name : String) : String :=
  "Unknown level: " ++ Text.quoted name

/-- Whether messages about each step are logged. -/
def showsDebug : LogLevel → Bool
  | notSet | debug => true
  | info | warning | error | critical => false

end LogLevel

/-! ## Files -/

/-- The names in a path. Doubled slashes and single points lead nowhere. -/
def pathNames (path : String) : List String :=
  (path.splitOn "/").filter fun name => name != "" && name != "."

/-- The root that a path starts from, if it does. Two slashes are a root of their own, and more are
one. -/
def pathRoot (path : String) : String :=
  match (path.toList.takeWhile (· == '/')).length with
  | 0 => ""
  | 2 => "//"
  | _ => "/"

/-- A path in plain form. The path to where one is is a point. -/
def plainPath (path : String) : String :=
  let plain := pathRoot path ++ "/".intercalate (pathNames path)
  if plain = "" then "." else plain

/-- What is found at a path. -/
inductive FileState where
  | text (content : String)
  | directory
  | absent
  /-- Nothing can be there. -/
  | nameTooLong

/-- What the program reads besides its arguments: one environment variable, and files by paths in
plain form. -/
structure Surroundings where
  logLevel : Option String
  file : String → FileState

end DotBinding.CommandLine
