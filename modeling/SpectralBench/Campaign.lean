import SpectralBench.Admission
import SpectralBench.RoundTrip.Deviation

/-!
# Campaigns

A campaign is a grid of configurations with the settings of their trials: how often each is run,
with how many warm-up trials before, which input it gets and how its result is judged. The grid is
the product of four lists, the kind outermost and the extent innermost.

Main statements:

* `length_configurations` — the grid has one configuration for each choice from the four lists.
* `trials_eq_ok_iff`, `trials_eq_error_iff` — how many trials there are, and when the program stops
  instead of counting them.
-/

namespace SpectralBench

/-- A parameter space and how to measure it. -/
structure Campaign where
  extents : List Extent
  kinds : List Kind
  placements : List Placement
  precisions : List Precision
  runs : UInt64
  warmups : UInt64
  validate : Bool
  seed : UInt64
  limits : Limits
  tolerance : Tolerance
  deriving DecidableEq

namespace Campaign

/-- The settings that hold where nothing else is said. There is no standard extent. -/
def standard : Campaign where
  extents := []
  kinds := Kind.all
  placements := Placement.all
  precisions := [.single, .double]
  runs := 5
  warmups := 1
  validate := true
  seed := 42
  limits := .standard
  tolerance := .standard

/-- Refuses a campaign that has nothing to run. -/
def check (c : Campaign) : Except Failure Unit :=
  if c.extents.isEmpty then .error (.misconfigured .noExtents)
  else if c.kinds.isEmpty || c.placements.isEmpty || c.precisions.isEmpty then
    .error (.misconfigured .emptyParameters)
  else if c.runs = 0 then .error (.misconfigured .noRuns)
  else c.limits.validate

/-- The grid, in the order in which it is run. -/
def configurations (c : Campaign) : List Configuration :=
  c.kinds.flatMap fun kind =>
    c.placements.flatMap fun placement =>
      c.precisions.flatMap fun precision =>
        c.extents.map fun extent => { kind, placement, precision, extent }

theorem length_configurations (c : Campaign) :
    c.configurations.length =
      c.kinds.length * (c.placements.length * (c.precisions.length * c.extents.length)) := by
  simp [configurations, List.length_flatMap, List.map_const']

/-- The number of trials of a configuration. A build that checks its sums stops at one that is no
word, and any other goes on with what is left of it. -/
def trials (c : Campaign) (arithmetic : Word.Arithmetic) : Except Failure Nat :=
  match Word.add? arithmetic c.warmups.toNat c.runs.toNat with
  | some total => .ok total
  | none => .error (.panic "attempt to add with overflow")

theorem trials_eq_ok_iff {c : Campaign} {arithmetic : Word.Arithmetic} {total : Nat} :
    c.trials arithmetic = .ok total ↔
      c.warmups.toNat + c.runs.toNat < Word.count ∧ total = c.warmups.toNat + c.runs.toNat ∨
        arithmetic = .wrapping ∧ Word.count ≤ c.warmups.toNat + c.runs.toNat ∧
          total = c.warmups.toNat + c.runs.toNat - Word.count := by
  rw [← Word.add?_eq_some_iff, trials]
  cases Word.add? arithmetic c.warmups.toNat c.runs.toNat <;> simp [eq_comm]

theorem trials_eq_error_iff {c : Campaign} {arithmetic : Word.Arithmetic} {failure : Failure} :
    c.trials arithmetic = .error failure ↔
      failure = .panic "attempt to add with overflow" ∧ arithmetic = .checked ∧
        Word.count ≤ c.warmups.toNat + c.runs.toNat := by
  rw [← Word.add?_eq_none_iff, trials]
  cases Word.add? arithmetic c.warmups.toNat c.runs.toNat <;> simp [eq_comm]

end Campaign

end SpectralBench
