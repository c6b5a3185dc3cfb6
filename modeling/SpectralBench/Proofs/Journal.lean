import SpectralBench.Files.Writer
import SpectralBench.Journal.Record

/-!
# The text of a report

What a journal leaves behind is said of a writer that keeps everything it is given
(`Writer.appending`). A journal writes one line for each record, so the records of a list leave
their lines, in the order of the records.

Main statements:

* `Journal.records_leave` — the records of a list leave their lines.
-/

namespace SpectralBench

namespace Writer

/-- The writer that adds to a text and refuses nothing. -/
def appending : Writer (StateM String) where
  write text := liftM (modify (· ++ text) : StateM String Unit)
  flush := pure ()

theorem appending_put (text before : String) :
    (appending.put text).run.run before = (.ok (), before ++ text) :=
  rfl

end Writer

/-- What an action that succeeds leaves to the one behind it. -/
theorem run_bind_of_ok {ε σ α β : Type} {action : ExceptT ε (StateM σ) α}
    {next : α → ExceptT ε (StateM σ) β} {before after : σ} {value : α}
    (h : action.run.run before = (.ok value, after)) :
    (action >>= next).run.run before = (next value).run.run after := by
  have hrun : (action >>= next).run.run before =
      (ExceptT.bindCont next (action.run.run before).1).run (action.run.run before).2 := rfl
  rw [hrun, h]
  rfl

namespace Journal

variable {journal : Journal (StateM String)}

/-- A journal that writes the line `line r` for a record `r`. -/
def Writes (journal : Journal (StateM String)) (line : Record → String) : Prop :=
  ∀ r before, (journal.record r).run.run before = (.ok (), before ++ line r)

theorem records_leave {line : Record → String} (h : journal.Writes line) (records : List Record)
    (before : String) :
    (records.forM journal.record).run.run before =
      (.ok (), before ++ String.join (records.map line)) := by
  induction records generalizing before with
  | nil =>
    rw [List.map_nil, String.join_nil, String.append_empty]
    rfl
  | cons r rest ih =>
    calc ((r :: rest).forM journal.record).run.run before
        = (rest.forM journal.record).run.run (before ++ line r) := run_bind_of_ok (h r before)
      _ = (.ok (), before ++ line r ++ String.join (rest.map line)) := ih _
      _ = (.ok (), before ++ String.join ((r :: rest).map line)) := by
          rw [List.map_cons, String.join_cons, String.append_assoc]

end Journal

end SpectralBench
