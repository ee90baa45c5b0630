import Colloquy.Inspection.Loops

/-!
# Inspecting definitions

Static checks over a flow definition before it runs. A definition is valid when no finding is an error.
-/

namespace Colloquy

/-- Everything found in a definition. -/
def Definition.findings (d : Definition) : List Finding :=
  Inspection.nodeIds d
    ++ d.nodes.flatMap Inspection.nodeFields
    ++ Inspection.edgeFindings d
    ++ d.nodes.flatMap (Inspection.wayOn d)
    ++ Inspection.orphans d
    ++ Inspection.loops d

/-- Whether a list of findings lets a flow run. -/
def Finding.acceptable (found : List Finding) : Bool := !found.any Finding.isError

def Definition.isValid (d : Definition) : Bool := Finding.acceptable d.findings

end Colloquy
