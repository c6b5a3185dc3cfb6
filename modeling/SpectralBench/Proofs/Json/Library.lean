import SpectralBench.Json.Library

/-!
# Libraries that are faithful

What a report needs of the library that writes it is that control characters are escaped, so that a
value stays on its line, and what a reader needs is that a text which the library wrote shows the
value that was written. Both are asked only of values that reports are made of (`Value.Plain`): what
a double is written as depends on its shortest digits, and nothing here writes doubles, and no
library reads values that are nested too deeply.

Main statements:

* `value_node` — the node of a value reads as the value.
* `Library.Faithful.decode_write`, `Library.Faithful.parse_write` — what is made of a text that a
  faithful library wrote.
-/

namespace SpectralBench.Json

/-! ## Values and their nodes -/

mutual

/-- The node that a text of a value shows: nothing in it is damaged. -/
def Value.node : Value → Node
  | .null => .null
  | .bool value => .bool value
  | .number value => .number (.ok value)
  | .text value => .text (.ok value)
  | .array items => .array (itemNodes items) .closed
  | .object fields => .object (entryNodes fields) .closed

def itemNodes : List Value → List Node
  | [] => []
  | item :: rest => item.node :: itemNodes rest

def entryNodes : List (String × Value) → List (Except Fault String × Node)
  | [] => []
  | (name, value) :: rest => (.ok name, value.node) :: entryNodes rest

end

mutual

/-- A value whose numbers are words and whose arrays and objects are at most `depth` levels deep. -/
def Value.Plain : (depth : Nat) → Value → Prop
  | _, .number value => ∃ n < Word.count, value = .natural n
  | depth, .array items => 0 < depth ∧ ItemsPlain (depth - 1) items
  | depth, .object fields => 0 < depth ∧ FieldsPlain (depth - 1) fields
  | _, _ => True

def ItemsPlain : (depth : Nat) → List Value → Prop
  | _, [] => True
  | depth, item :: rest => item.Plain depth ∧ ItemsPlain depth rest

def FieldsPlain : (depth : Nat) → List (String × Value) → Prop
  | _, [] => True
  | depth, (_, value) :: rest => value.Plain depth ∧ FieldsPlain depth rest

end

mutual

/-- The node of a value reads as the value, if readers go deep enough. -/
theorem value_node {levels depth : Nat} : (v : Value) → v.Plain levels → levels < depth →
    v.node.value depth = .ok v
  | .null, _, _ => rfl
  | .bool _, _, _ => rfl
  | .number _, _, _ => rfl
  | .text _, _, _ => rfl
  | .array items, h, hdepth => by
    have hlevels : 0 < levels := h.1
    rw [Value.node, Node.value, itemValues_nodes items h.2 (by omega), if_neg (by omega)]
    rfl
  | .object fields, h, hdepth => by
    have hlevels : 0 < levels := h.1
    rw [Value.node, Node.value, entryValues_nodes fields h.2 (by omega), if_neg (by omega)]
    rfl

theorem itemValues_nodes {levels depth : Nat} : (items : List Value) → ItemsPlain levels items →
    levels < depth → itemValues depth (itemNodes items) = .ok items
  | [], _, _ => rfl
  | item :: items, h, hdepth => by
    rw [itemNodes, itemValues, value_node item h.1 hdepth, itemValues_nodes items h.2 hdepth]
    rfl

theorem entryValues_nodes {levels depth : Nat} : (fields : List (String × Value)) →
    FieldsPlain levels fields → levels < depth → entryValues depth (entryNodes fields) = .ok fields
  | [], _, _ => rfl
  | (name, value) :: fields, h, hdepth => by
    rw [entryNodes, entryValues, value_node value h.1 hdepth, entryValues_nodes fields h.2 hdepth]
    rfl

end

/-! ## What is asked of a library -/

/-- Whether a library escapes control characters and reads what it wrote. -/
structure Library.Faithful (library : Library) : Prop where
  escapes : ∀ {levels : Nat} {v : Value}, v.Plain levels →
    ∀ c ∈ (library.write v).toList, 0x20 ≤ c.toNat
  reads_back : ∀ {levels : Nat} {v : Value}, v.Plain levels → levels < maxDepth →
    library.read (library.write v) = (v.node, false)

namespace Library.Faithful

variable {library : Library} {levels : Nat} {v : Value}

/-- What a decoder makes of a written value. -/
theorem decode_write (hfaithful : library.Faithful) {α : Type} {decoder : Node → Except Fault α}
    {value : α} (h : v.Plain levels) (hlevels : levels < maxDepth)
    (hdecode : decoder v.node = .ok value) : library.decode decoder (library.write v) = .ok value := by
  simp only [decode, hfaithful.reads_back h hlevels, hdecode]
  rfl

/-- A written value parses to the value. -/
theorem parse_write (hfaithful : library.Faithful) (h : v.Plain levels) (hlevels : levels < maxDepth) :
    library.parse (library.write v) = .ok v :=
  hfaithful.decode_write h hlevels (value_node v h hlevels)

end Library.Faithful

end SpectralBench.Json
