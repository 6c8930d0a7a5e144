/-!
What the operator is told, line by line, and how a line is printed where no colours are shown.
-/

namespace DevCluster

inductive Line
  | info (text : String)
  | warn (text : String)
  | error (text : String)
  /-- Continues the line before it. -/
  | detail (text : String)
  | blank
deriving DecidableEq, Repr

inductive Channel
  | stdout
  | stderr
deriving DecidableEq, Repr

namespace Line

def channel : Line → Channel
  | error _ => .stderr
  | _ => .stdout

def print : Line → String
  | info text => s!"[INFO] {text}\n"
  | warn text => s!"[WARN] {text}\n"
  | error text => s!"[ERROR] {text}\n"
  | detail text => s!"   {text}\n"
  | blank => "\n"

end Line

end DevCluster
