import SpectralBench.Cpu.Complex
import SpectralBench.Cpu.Rows
import SpectralBench.Geometry

/-!
# Plans

A transform of several axes is made of transforms of single lines, which a library provides. Of a
plan only its length is known, the scratch that it works with, and how it is called: it is lent
buffers, works on them, and answers. A slice keeps its length whatever is written to it, so a call
gives back as many elements as it was lent; what they are is up to the library. It may leave anything
in scratch, and in the input of a transform into another buffer.

A plan for complex lines takes any number of them one after another, and gives up where the buffers do
not suit it. One between real lines and half spectra takes a single line, and reports what does not
suit it.

A complex transform plans both directions of every axis at once; a real one plans one direction at a
time, the contiguous axis by a real transform and the others by complex ones.

Main statements:

* `Workspace.le_grow_left`, `Workspace.le_grow_right` — growing a workspace makes room for both.
-/

namespace SpectralBench.Cpu

variable {α : Type}

/-- A transform of lines of complex numbers. -/
structure LinePlan (α : Type) where
  length : Nat
  /-- Scratch elements of a transform over its input. -/
  scratchInPlace : Nat
  /-- Scratch elements of a transform into another buffer. -/
  scratchOutOfPlace : Nat
  /-- Transforms the lines of a buffer, with scratch to work in. -/
  inPlace : {n s : Nat} → (data : Vector (Complex α) n) → (scratch : Vector (Complex α) s) →
    Except String Unit × Vector (Complex α) n × Vector (Complex α) s
  /-- Transforms the lines of a buffer into another one. -/
  outOfPlace : {n k s : Nat} → (input : Vector (Complex α) n) → (output : Vector (Complex α) k) →
    (scratch : Vector (Complex α) s) →
    Except String Unit × Vector (Complex α) n × Vector (Complex α) k × Vector (Complex α) s

/-- A transform of real lines to half spectra. -/
structure SpectrumPlan (α : Type) where
  length : Nat
  scratch : Nat
  process : {n k s : Nat} → (input : Vector α n) → (output : Vector (Complex α) k) →
    (scratch : Vector (Complex α) s) →
    Except String Unit × Vector α n × Vector (Complex α) k × Vector (Complex α) s

/-- A transform of half spectra to real lines. -/
structure SignalPlan (α : Type) where
  length : Nat
  scratch : Nat
  process : {n k s : Nat} → (input : Vector (Complex α) n) → (output : Vector α k) →
    (scratch : Vector (Complex α) s) →
    Except String Unit × Vector (Complex α) n × Vector α k × Vector (Complex α) s

/-- A source of line transforms. -/
structure Library (α : Type) where
  forward : Nat → LinePlan α
  inverse : Nat → LinePlan α
  spectrum : Nat → SpectrumPlan α
  signal : Nat → SignalPlan α

/-- The line transforms of a whole transform: complex ones in either direction, outermost axis first,
and the real one of the contiguous axis where there is one. -/
structure Plan (α : Type) where
  forward : List (LinePlan α)
  inverse : List (LinePlan α)
  spectrum : Option (SpectrumPlan α)
  signal : Option (SignalPlan α)

/-! ## Workspaces -/

/-- Elements of the work buffers: scratch and a line of complex numbers, and a line of reals. -/
structure Workspace where
  scratch : Nat
  line : Nat
  realLine : Nat
  deriving DecidableEq, Repr

namespace Workspace

def empty : Workspace := ⟨0, 0, 0⟩

/-- Room for what either of two workspaces holds. -/
def grow (a b : Workspace) : Workspace :=
  ⟨max a.scratch b.scratch, max a.line b.line, max a.realLine b.realLine⟩

/-- Whether one workspace has room for another. -/
def LE (a b : Workspace) : Prop :=
  a.scratch ≤ b.scratch ∧ a.line ≤ b.line ∧ a.realLine ≤ b.realLine

theorem le_grow_left (a b : Workspace) : LE a (a.grow b) :=
  ⟨Nat.le_max_left .., Nat.le_max_left .., Nat.le_max_left ..⟩

theorem le_grow_right (a b : Workspace) : LE b (a.grow b) :=
  ⟨Nat.le_max_right .., Nat.le_max_right .., Nat.le_max_right ..⟩

end Workspace

/-- What a line transform works with. -/
def LinePlan.workspace (plan : LinePlan α) : Workspace :=
  ⟨max plan.scratchInPlace plan.scratchOutOfPlace, plan.length, 0⟩

/-- The workspace of several line transforms. -/
def lineWorkspace (plans : List (LinePlan α)) : Workspace :=
  plans.foldr (fun plan space => plan.workspace.grow space) .empty

/-- What a real transform with so much scratch works with, if there is one. -/
def rowWorkspace (rowLength : Nat) : Option Nat → Workspace
  | some scratch => ⟨scratch, 0, rowLength⟩
  | none => .empty

/-- The workspace of a plan for rows of the given length. -/
def Plan.workspace (plan : Plan α) (rowLength : Nat) : Workspace :=
  let rows := (rowWorkspace rowLength (plan.spectrum.map (·.scratch))).grow
    (rowWorkspace rowLength (plan.signal.map (·.scratch)))
  (lineWorkspace (plan.forward ++ plan.inverse)).grow rows

/-! ## Plans from transforms of lines -/

/-- A buffer after as many values as it holds were written over it. -/
def refill {β : Type} {n : Nat} (buffer : Vector β n) (values : Array β) : Vector β n :=
  if h : values.size = n then ⟨values, h⟩ else buffer

/-- The complex plan that does `f` to every line. -/
def LinePlan.ofLines (length scratchInPlace scratchOutOfPlace : Nat)
    (f : Array (Complex α) → Array (Complex α)) : LinePlan α where
  length
  scratchInPlace
  scratchOutOfPlace
  inPlace := fun {n s} data scratch =>
    if n % length = 0 ∧ scratchInPlace ≤ s then
      (.ok (), refill data (mapRows length f data.toArray), scratch)
    else (.error "the buffers do not suit the plan", data, scratch)
  outOfPlace := fun {n k s} input output scratch =>
    if n % length = 0 ∧ n = k ∧ scratchOutOfPlace ≤ s then
      (.ok (), input, refill output (mapRows length f input.toArray), scratch)
    else (.error "the buffers do not suit the plan", input, output, scratch)

/-- The real plan that makes the half spectrum `f` of a line. -/
def SpectrumPlan.ofLines (length scratch : Nat) (f : Array α → Array (Complex α)) :
    SpectrumPlan α where
  length
  scratch
  process := fun {n k s} input output work =>
    if n = length ∧ k = halfLength length ∧ scratch ≤ s then
      (.ok (), input, refill output (f input.toArray), work)
    else (.error "the buffers do not suit the plan", input, output, work)

/-- Whether the bins that real numbers leave no imaginary part have none: the first one, and for an
even length the last one. -/
def clearAtEdges [Zero α] [BEq α] (length : Nat) (half : Array (Complex α)) : Bool :=
  let clear (bin : Option (Complex α)) : Bool := bin.all (·.im == 0)
  clear half[0]? && (length % 2 == 1 || clear half.back?)

/-- The real plan that makes the line `f` of a half spectrum. A spectrum that no real numbers have is
reported. -/
def SignalPlan.ofLines [Zero α] [BEq α] (length scratch : Nat) (f : Array (Complex α) → Array α) :
    SignalPlan α where
  length
  scratch
  process := fun {n k s} input output work =>
    if n = halfLength length ∧ k = length ∧ scratch ≤ s then
      (if clearAtEdges length input.toArray then .ok () else .error "no spectrum of real numbers",
        input, refill output (f input.toArray), work)
    else (.error "the buffers do not suit the plan", input, output, work)

end SpectralBench.Cpu
