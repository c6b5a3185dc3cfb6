import SpectralBench.Cpu.Fourier
import SpectralBench.RoundTrip.Stimulus

/-!
# Scalars of the processor

The two scalar types that the processor transforms, each with its bytes and its library.
-/

namespace SpectralBench.Cpu

/-- A scalar type that transforms can be computed with. -/
structure Scalar (α : Type) where
  precision : Precision
  ofBytes : List UInt8 → α
  toBytes : α → List UInt8
  /-- One divided by a count. -/
  reciprocal : Nat → α
  library : Library α

namespace Scalar

def double : Scalar Float where
  precision := .double
  ofBytes bytes := Float.ofBits (.ofNat (ofLittleEndian bytes))
  toBytes x := littleEndian 8 x.toBits.toNat
  reciprocal n := 1 / Float.ofNat n
  library := Fourier.doubleLibrary

def single : Scalar Float32 where
  precision := .single
  ofBytes bytes := Float32.ofBits (.ofNat (ofLittleEndian bytes))
  toBytes x := littleEndian 4 x.toBits.toNat
  reciprocal n := 1 / Float32.ofNat n
  library := Fourier.singleLibrary

variable {α : Type}

/-- The scalars that bytes hold, `width` bytes each. -/
def readAll (scalar : Scalar α) (bytes : Array UInt8) : Array α :=
  let width := scalar.precision.realSize
  Array.ofFn fun i : Fin (bytes.size / width) =>
    scalar.ofBytes (bytes.extract (i * width) ((i + 1) * width)).toList

/-- The bytes of scalars. -/
def writeAll (scalar : Scalar α) (scalars : Array α) : Array UInt8 :=
  scalars.flatMap fun x => (scalar.toBytes x).toArray

end Scalar

end SpectralBench.Cpu
