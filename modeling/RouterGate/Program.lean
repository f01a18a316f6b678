/-!
The name under which the program is known.
-/
namespace RouterGate.Program

def name : String := "trusttunnel-manager"

def version : String := "0.3.0"

end RouterGate.Program
