/-!
# The version

The version that the command line and the service give.
-/

namespace FlowGate

def programVersion : String := "0.1.0"

end FlowGate
