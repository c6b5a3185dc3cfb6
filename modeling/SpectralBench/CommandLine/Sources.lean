import SpectralBench.CommandLine.Options
import SpectralBench.Extent.Listing
import SpectralBench.Files

/-!
# The sources of a campaign

A campaign comes from a document, from a list of extents and from the options. The document, or
where there is none the standard campaign with the limits that variables set, is the base. The
extents of all sources are put together; otherwise an option that is given replaces what the base
says. Only the result is checked.
-/

namespace SpectralBench.CommandLine

/-- Why a command line could not be carried out. -/
inductive Setback where
  | noExtents
  | reading (path reason : String)
  | listing (path : String) (fault : Extent.Listing.Fault)
  | failed (failure : Failure)
  deriving DecidableEq

def Setback.message : Setback → String
  | .noExtents => "no extents given; use --extent, --extents-file or --config"
  | .reading path reason => s!"reading {path}: {reason}"
  | .listing path fault => s!"parsing {path}: {fault.message}"
  | .failed failure => failure.message

namespace Options

/-- The list if it has something in it, and the base otherwise. -/
def preferred {α : Type} (list base : List α) : List α :=
  if list.isEmpty then base else list

/-- The campaign of a base, a list of extents and the options. -/
def amend (options : Options) (base : Campaign) (listed : List Extent) : Campaign :=
  { base with
    extents := base.extents ++ listed ++ options.extents
    kinds := preferred options.kinds base.kinds
    placements := preferred options.placements base.placements
    precisions := preferred options.precisions base.precisions
    runs := options.runs.getD base.runs
    warmups := options.warmups.getD base.warmups
    seed := options.seed.getD base.seed
    validate := base.validate && !options.noValidate }

/-- Refuses a campaign that has nothing to run. A missing extent is reported with the switches that
would give one. -/
def accept (campaign : Campaign) : Except Setback Campaign :=
  if campaign.extents.isEmpty then .error .noExtents
  else (campaign.check.mapError .failed).map fun _ => campaign

variable {m : Type → Type} [Monad m]

/-- The text of a file. -/
def textOf (files : Files m) (path : String) : ExceptT Setback m String :=
  (files.read path).adapt (.reading path)

/-- The campaign that the options start from. -/
def base (options : Options) (library : Json.Library) (files : Files m)
    (lookup : String → Option String) : ExceptT Setback m Campaign := do
  match options.config with
  | some path =>
    let text ← textOf files path
    ExceptT.mk (pure ((Campaign.ofDocument library text).mapError (.reading path ·.message)))
  | none =>
    let limits ← ExceptT.mk (pure ((Limits.ofVariables lookup).mapError .failed))
    return { Campaign.standard with limits }

/-- The extents that are listed in a file. -/
def listed (options : Options) (files : Files m) : ExceptT Setback m (List Extent) := do
  match options.extentsFile with
  | some path =>
    let text ← textOf files path
    ExceptT.mk (pure ((Extent.Listing.read text).mapError (.listing path)))
  | none => return []

/-- The campaign that the options ask for. -/
def campaign (options : Options) (library : Json.Library) (files : Files m)
    (lookup : String → Option String) : ExceptT Setback m Campaign := do
  let base ← options.base library files lookup
  let listed ← options.listed files
  ExceptT.mk (pure (accept (options.amend base listed)))

end Options

end SpectralBench.CommandLine
