import SpectralBench.Campaign
import SpectralBench.Json.Library
import SpectralBench.Measure.Phase

/-!
# Settings in documents

How parameters, configurations, limits, tolerances and whole campaigns are read out of JSON
documents. Limits, tolerances and campaigns fill absent fields with the standard ones; only a
campaign refuses a field that it does not know.
-/

namespace SpectralBench

open Json

def Kind.decode : Node → Except Fault Kind :=
  Node.asLabel (Kind.all.map fun k => (k.label, k)) (Kind.all.map (·.label))

def Placement.decode : Node → Except Fault Placement :=
  Node.asLabel (Placement.all.map fun p => (p.label, p)) (Placement.all.map (·.label))

/-- Single precision has two labels. -/
def Precision.decode : Node → Except Fault Precision :=
  Node.asLabel [("float", .single), ("single", .single), ("double", .double), ("half", .half)]
    ["float", "single", "double", "half"]

def Phase.decode : Node → Except Fault Phase :=
  Node.asLabel (Phase.all.map fun p => (p.label, p)) (Phase.all.map (·.label))

/-- A list of lengths. Whether it is an extent is asked after the list has ended. -/
def Extent.decode (node : Node) : Except Fault Extent := do
  let dims ← node.asList (Node.asWord "usize")
  (Extent.ofList dims).mapError fun failure => .refused failure.message

/-- A field that a decoder fills. -/
def field {σ α : Type} (name : String) (decode : Node → Except Fault α) (put : α → σ → σ) :
    Member σ where
  name
  set node record := (decode node).map (put · record)

namespace Configuration

/-- A configuration of which some parameters are not known yet. -/
structure Draft where
  kind : Option Kind
  placement : Option Placement
  precision : Option Precision
  extent : Option Extent

/-- The members of a configuration, each of which is decoded by its kind. -/
def form : Form Draft where
  title := "Configuration"
  fields :=
    [field "kind" Kind.decode fun v d => { d with kind := some v },
      field "placement" Placement.decode fun v d => { d with placement := some v },
      field "precision" Precision.decode fun v d => { d with precision := some v },
      field "extents" Extent.decode fun v d => { d with extent := some v }]
  strict := false
  complete := true

/-- The configuration of a draft. A complete form leaves nothing out. -/
def Draft.finish (draft : Draft) : Except Fault Configuration :=
  match draft.kind, draft.placement, draft.precision, draft.extent with
  | some kind, some placement, some precision, some extent =>
    .ok { kind, placement, precision, extent }
  | _, _, _, _ => .error (.missingField "kind")

/-- A configuration needs all of its members. -/
def decode (node : Node) : Except Fault Configuration := do
  let draft ← form.read ⟨none, none, none, none⟩ node
  draft.finish

end Configuration

/-- The limits that a document may set; what it does not mention keeps its value. -/
def Limits.form : Form Limits where
  title := "CapacityLimits"
  fields :=
    [field "device_fraction" Node.asReal fun v l => { l with deviceFraction := v },
      field "host_fraction" Node.asReal fun v l => { l with hostFraction := v },
      field "host_buffer_multiplier" (Node.asWord "u64") fun v l => { l with hostBuffers := v }]
  strict := false
  complete := false

def Limits.decode : Node → Except Fault Limits :=
  Limits.form.read .standard

/-- The bounds that a document may set. -/
def Tolerance.form : Form Tolerance where
  title := "ErrorBounds"
  fields :=
    [field "single" Node.asReal fun v t => { t with single := v },
      field "double" Node.asReal fun v t => { t with double := v },
      field "half" Node.asReal fun v t => { t with half := v }]
  strict := false
  complete := false

def Tolerance.decode : Node → Except Fault Tolerance :=
  Tolerance.form.read .standard

namespace Campaign

/-- The members of a campaign. Every one of them may be left out. -/
def form : Form Campaign where
  title := "SuiteConfig"
  fields :=
    [field "extents" (Node.asList Extent.decode) fun v c => { c with extents := v },
      field "kinds" (Node.asList Kind.decode) fun v c => { c with kinds := v },
      field "placements" (Node.asList Placement.decode) fun v c => { c with placements := v },
      field "precisions" (Node.asList Precision.decode) fun v c => { c with precisions := v },
      field "runs" (Node.asWord "usize") fun v c => { c with runs := v },
      field "warmups" (Node.asWord "usize") fun v c => { c with warmups := v },
      field "validate" Node.asBool fun v c => { c with validate := v },
      field "seed" (Node.asWord "u64") fun v c => { c with seed := v },
      field "limits" Limits.decode fun v c => { c with limits := v },
      field "error_bounds" Tolerance.decode fun v c => { c with tolerance := v }]
  strict := true
  complete := false

def decode : Node → Except Fault Campaign :=
  form.read .standard

/-- The campaign that a document describes. -/
def ofDocument (library : Json.Library) (text : String) : Except Failure Campaign :=
  (library.decode decode text).mapError fun fault => .misconfigured (.stated fault.message)

end Campaign

end SpectralBench
