import SpectralBench.Parameter

/-!
# Phases and stages

A trial is a fixed sequence of steps, each of which is timed. Real transforms plan their inverse
separately; complex ones reuse the forward plan. Between the steps an engine is at a stage: every
step requires one stage and reaches another, except that `destroy` is possible at any stage.

Records name phases: the steps, and three more that are no calls of an engine.

Main statements:

* `Phase.mem_all` — the list of phases is complete.
-/

namespace SpectralBench

/-- A timed call of an engine. -/
inductive Step where
  | allocate
  | planForward
  | upload
  | executeForward
  | planInverse
  | executeInverse
  | download
  | destroy
  deriving DecidableEq, Repr

/-- How far an engine has come. -/
inductive Stage where
  | constructed
  | allocated
  | forwardPlanned
  | uploaded
  | forwardExecuted
  | inversePlanned
  | inverseExecuted
  | downloaded
  | destroyed
  deriving DecidableEq, Repr

def Stage.label : Stage → String
  | .constructed => "Constructed"
  | .allocated => "Allocated"
  | .forwardPlanned => "ForwardPlanned"
  | .uploaded => "Uploaded"
  | .forwardExecuted => "ForwardExecuted"
  | .inversePlanned => "InversePlanned"
  | .inverseExecuted => "InverseExecuted"
  | .downloaded => "Downloaded"
  | .destroyed => "Destroyed"

namespace Step

def label : Step → String
  | .allocate => "allocate"
  | .planForward => "plan_forward"
  | .upload => "upload"
  | .executeForward => "execute_forward"
  | .planInverse => "plan_inverse"
  | .executeInverse => "execute_inverse"
  | .download => "download"
  | .destroy => "destroy"

/-- The steps of one trial. -/
def sequence : Kind → List Step
  | .real =>
    [.allocate, .planForward, .upload, .executeForward, .planInverse, .executeInverse, .download,
      .destroy]
  | .complex =>
    [.allocate, .planForward, .upload, .executeForward, .executeInverse, .download, .destroy]

/-- The stage that a step requires; `destroy` requires none. -/
def requires (kind : Kind) : Step → Option Stage
  | .allocate => some .constructed
  | .planForward => some .allocated
  | .upload => some .forwardPlanned
  | .executeForward => some .uploaded
  | .planInverse => some .forwardExecuted
  | .executeInverse => some (if kind.isReal then .inversePlanned else .forwardExecuted)
  | .download => some .inverseExecuted
  | .destroy => none

/-- The stage after a step. -/
def reaches : Step → Stage
  | .allocate => .allocated
  | .planForward => .forwardPlanned
  | .upload => .uploaded
  | .executeForward => .forwardExecuted
  | .planInverse => .inversePlanned
  | .executeInverse => .inverseExecuted
  | .download => .downloaded
  | .destroy => .destroyed

end Step

/-- What a record is about. -/
inductive Phase where
  | setup
  | timed (step : Step)
  | total
  | validate
  deriving DecidableEq, Repr

namespace Phase

def label : Phase → String
  | .setup => "setup"
  | .timed step => step.label
  | .total => "total"
  | .validate => "validate"

def all : List Phase :=
  .setup :: (Step.sequence .real).map .timed ++ [.total, .validate]

/-- The phase with a given label. -/
def named? (text : String) : Option Phase :=
  all.find? (·.label = text)

theorem mem_all (phase : Phase) : phase ∈ all := by
  cases phase with
  | timed step => cases step <;> decide
  | _ => decide

end Phase

end SpectralBench
