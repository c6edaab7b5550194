import SubstratumNode.Pool.Transmit
import SubstratumNode.System.Identity

/-!
# A writer removing itself

A writer whose `write` fails asks for its removal through the back of the pool's
mailbox; it is gone only once that request is handled.
-/

namespace SubstratumNode

open System StreamHandlerPool

variable {σ : Type}

end SubstratumNode
