import SpectralBench.Json.Fault

/-!
# What a document shows

A document that is not quite JSON still shows where its values start and where it goes wrong. A node
is a value together with its damage: a number or a string that reads as nothing, a list that does
not end, a key without a colon. The reader of nodes never fails. Which fault a damaged document has
depends on who reads it, because a reader that skips a value does not look at everything that a
reader of the value looks at; so a node keeps the fault of either where they differ.
-/

namespace SpectralBench.Json

/-- How an array ends, after its last item. -/
inductive ArrayEnd where
  /-- By its bracket. -/
  | closed
  /-- By the end of the text. -/
  | cut
  /-- By something that is neither a comma nor a bracket. -/
  | unseparated
  /-- By a comma and its bracket. -/
  | comma
  /-- By a comma and the end of the text. -/
  | commaCut
  deriving DecidableEq, Repr

/-- How an object ends, after its last entry. -/
inductive ObjectEnd (α : Type) where
  | closed
  | cut
  | unseparated
  | comma
  | commaCut
  /-- By something other than a string where a key belongs. -/
  | stray (found : α)
  /-- By a key that never ends; skipping it may meet another fault than reading it. -/
  | brokenKey (read skipped : Fault)
  /-- By a key with something other than a colon behind it. -/
  | noColon (key : Except Fault String)
  /-- By a key with nothing behind it. -/
  | keyCut (key : Except Fault String)

/-- A value as a text shows it. -/
inductive Node where
  | null
  | bool (value : Bool)
  | number (value : Except Fault Number)
  | text (value : Except Fault String)
  | array (items : List Node) (ending : ArrayEnd)
  | object (entries : List (Except Fault String × Node)) (ending : ObjectEnd Node)
  /-- Nothing but the end of the text. -/
  | absent
  /-- A string that never ends. -/
  | brokenText (read skipped : Fault)
  /-- Neither a string nor an end: a broken word or number, or no value at all. -/
  | broken (read skipped : Fault)

end SpectralBench.Json
