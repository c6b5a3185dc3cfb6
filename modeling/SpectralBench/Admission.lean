import SpectralBench.Admission.Budget
import SpectralBench.Decimal.Real
import SpectralBench.Geometry

/-!
# Admission

A configuration may allocate only when its requirement on the device and its requirement on the host
both fit their budgets. Requirements are clipped to the largest word, so an overflow can only make
one larger than it was. The device is checked first.

Main statements:

* `weigh_eq_ok_iff` — admission is both requirements within their budgets, and nothing else.
-/

namespace SpectralBench

open Binary

/-- The safety margins of admission. -/
structure Limits where
  /-- Share of the device's memory that a configuration may claim. -/
  deviceFraction : Double
  /-- Share of the host's memory that transfer buffers may claim. -/
  hostFraction : Double
  /-- Transfer buffers that a run keeps alive. -/
  hostBuffers : UInt64
  deriving DecidableEq

namespace Limits

/-- Nineteen twentieths of either memory, and three transfer buffers. -/
def standard : Limits :=
  ⟨Double.ofRatio false 95 100, Double.ofRatio false 95 100, 3⟩

/-- A share is positive and at most the whole. -/
def isShare (fraction : Double) : Bool :=
  Double.zero.lt fraction && fraction.le (.ofNat 1)

/-- Refuses limits that let nothing in or that mean nothing. -/
def validate (limits : Limits) : Except Failure Unit :=
  if !isShare limits.deviceFraction then
    .error (.misconfigured (.fractionOutOfRange "device_fraction" limits.deviceFraction))
  else if !isShare limits.hostFraction then
    .error (.misconfigured (.fractionOutOfRange "host_fraction" limits.hostFraction))
  else if limits.hostBuffers = 0 then .error (.misconfigured .noHostBuffers)
  else .ok ()

/-- The variable that overrides the share of the device's memory. -/
def deviceVariable : String := "FFTBENCH_DEVICE_FRACTION"

/-- The variable that overrides the share of the host's memory. -/
def hostVariable : String := "FFTBENCH_HOST_FRACTION"

/-- The variable that overrides the number of transfer buffers. -/
def buffersVariable : String := "FFTBENCH_HOST_BUFFERS"

/-- The variables that override the standard limits. -/
def variableNames : List String := [deviceVariable, hostVariable, buffersVariable]

/-- The value of a variable, read after trimming; a default where it is not set. -/
def fromVariable {α : Type} (read : List Char → Option α) (lookup : String → Option String)
    (name : String) (fallback : α) : Except Failure α :=
  match lookup name with
  | none => .ok fallback
  | some value =>
    match read (Text.trim value.toList) with
    | some result => .ok result
    | none => .error (.misconfigured (.unreadableVariable name value))

/-- The standard limits, overridden by variables. -/
def ofVariables (lookup : String → Option String) : Except Failure Limits := do
  let deviceFraction ←
    fromVariable Decimal.readReal lookup deviceVariable standard.deviceFraction
  let hostFraction ←
    fromVariable Decimal.readReal lookup hostVariable standard.hostFraction
  let hostBuffers ←
    fromVariable (Decimal.readNatural · |>.toOption) lookup buffersVariable
      standard.hostBuffers
  let limits : Limits := { deviceFraction, hostFraction, hostBuffers }
  limits.validate
  return limits

end Limits

namespace Geometry

/-- Bytes that a configuration needs on the device: the plan and both buffers. -/
def deviceRequirement (g : Geometry) (plan : Nat) : Nat :=
  Word.addSat (Word.addSat plan g.dataSize) g.complexBufferSize

/-- Bytes that a configuration needs on the host. -/
def hostRequirement (g : Geometry) (limits : Limits) : Nat :=
  Word.mulSat limits.hostBuffers.toNat g.transferSize

/-- Admits a configuration, or says which memory is short. -/
def weigh (g : Geometry) (plan device host : UInt64) (limits : Limits) : Except Shortage Unit :=
  let deviceBudget := budget device.toNat limits.deviceFraction
  let hostBudget := budget host.toNat limits.hostFraction
  if deviceBudget < g.deviceRequirement plan.toNat then
    .error (.device plan.toNat g.dataSize g.complexBufferSize (g.deviceRequirement plan.toNat)
      deviceBudget device.toNat)
  else if hostBudget < g.hostRequirement limits then
    .error (.host limits.hostBuffers.toNat g.transferSize (g.hostRequirement limits)
      hostBudget host.toNat)
  else .ok ()

theorem weigh_eq_ok_iff (g : Geometry) (plan device host : UInt64) (limits : Limits) :
    g.weigh plan device host limits = .ok () ↔
      g.deviceRequirement plan.toNat ≤ budget device.toNat limits.deviceFraction ∧
        g.hostRequirement limits ≤ budget host.toNat limits.hostFraction := by
  unfold weigh
  dsimp only
  split
  · rename_i h; constructor
    · intro h0; cases h0
    · intro h0; omega
  · split
    · rename_i h; constructor
      · intro h0; cases h0
      · intro h0; omega
    · simp; omega

end Geometry

end SpectralBench
