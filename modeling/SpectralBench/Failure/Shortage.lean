/-!
# Shortages of memory

Why a configuration was refused before anything was allocated: its requirement on the device, or on
the host, exceeds the budget. A shortage carries every number that the decision was made from.
-/

namespace SpectralBench

/-- A requirement that exceeds its budget. All numbers are bytes, except `buffers`, a count. -/
inductive Shortage where
  | device (plan data complex required budget available : Nat)
  | host (buffers transfer required budget available : Nat)
  deriving DecidableEq, Repr

def Shortage.message : Shortage → String
  | .device plan data complex required budget available =>
    s!"insufficient device memory: plan {plan} B + data {data} B + complex {complex} B = " ++
      s!"{required} B exceeds budget {budget} B of {available} B available"
  | .host buffers transfer required budget available =>
    s!"insufficient host memory: {buffers} x transfer {transfer} B = {required} B " ++
      s!"exceeds budget {budget} B of {available} B physical"

end SpectralBench
