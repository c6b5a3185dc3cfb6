import SpectralBench.Journal.Record

/-!
# Collected reports

A report that is kept instead of written: the header, the records in order, and whether the report
was finished. A journal can keep its report in any state that holds one.
-/

namespace SpectralBench.Journal

/-- A report that is kept. -/
structure Collected where
  header : Option Header
  records : List Record
  finished : Bool
  deriving DecidableEq

namespace Collected

def empty : Collected :=
  ⟨none, [], false⟩

/-- The records with a given status. -/
def withStatus (report : Collected) (status : Status) : List Record :=
  report.records.filter (·.status = status)

/-- The journal that adds to a kept report, by way of `update`. -/
def journal {m : Type → Type} [Monad m] (update : (Collected → Collected) → m Unit) :
    Journal m where
  start header := liftM (update fun report => { report with header := some header })
  record r := liftM (update fun report => { report with records := report.records ++ [r] })
  finish := liftM (update fun report => { report with finished := true })

end Collected

end SpectralBench.Journal
