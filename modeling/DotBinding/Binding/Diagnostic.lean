import DotBinding.Text.Quoted

/-!
# Diagnostics

Gaps in the data. They are reported and never stop a binding.
-/

namespace DotBinding

inductive Diagnostic where
  /-- A name has no records. -/
  | missingNode (name : String)
  /-- A name of an edge has no records. -/
  | missingEndpoint (name edge : String)
  /-- Fewer than two names of an edge have records. -/
  | shortEdge (edge : String)
  /-- A record at the end of a relationship has no id. -/
  | missingId (name edge idName : String)
  deriving DecidableEq

namespace Diagnostic

def kind : Diagnostic → String
  | missingNode _ => "missing-node"
  | missingEndpoint _ _ => "missing-endpoint"
  | shortEdge _ => "short-edge"
  | missingId _ _ _ => "missing-id"

/-- The name, or the edge, that the gap is reported for. -/
def name : Diagnostic → String
  | missingNode name | missingEndpoint name _ | missingId name _ _ => name
  | shortEdge edge => edge

def message : Diagnostic → String
  | missingNode name => "No node named " ++ name ++ " could be found within the values"
  | missingEndpoint name edge =>
    "No node named " ++ name ++ " required by the relationship " ++ edge ++
      " could be found within the values"
  | shortEdge edge =>
    "Found an invalid relationship " ++ edge ++ " with less than two nodes. This is possibly " ++
      "due to a node not existing within the values."
  | missingId name edge idName =>
    "Node " ++ name ++ " in " ++ edge ++ " has no " ++ Text.quoted idName ++ " value"

end Diagnostic

end DotBinding
