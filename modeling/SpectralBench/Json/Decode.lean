import SpectralBench.Json.Node
import SpectralBench.Json.Value

/-!
# Reading values out of a document

A decoder walks a node from left to right and ends at the first fault. Records are objects with
named fields, or arrays with the fields in order; labels are strings, or objects with one field of
that name and no content. What a decoder does not ask for is skipped.
-/

namespace SpectralBench.Json

open Binary

namespace Node

/-- What was found at a place where something else was expected. A damaged value is reported by its
damage. -/
def mismatch (expected : String) : Node → Fault
  | .null => .wrongType .null expected
  | .bool value => .wrongType (.bool value) expected
  | .number (.ok value) => .wrongType (.number value) expected
  | .number (.error fault) => fault
  | .text (.ok value) => .wrongType (.text value) expected
  | .text (.error fault) => fault
  | .array .. => .wrongType .sequence expected
  | .object .. => .wrongType .map expected
  | .absent => .endInValue
  | .brokenText fault _ => fault
  | .broken fault _ => fault

/-! ## Single values -/

/-- A natural number below `2 ^ 64`. -/
def asWord (expected : String) : Node → Except Fault UInt64
  | .number (.ok (.natural n)) => .ok (.ofNat n)
  | .number (.ok (.negative n)) => .error (.wrongValue (.number (.negative n)) expected)
  | node => .error (node.mismatch expected)

/-- Any number, as a double. -/
def asReal : Node → Except Fault Double
  | .number (.ok (.natural n)) => .ok (.ofNat n)
  | .number (.ok (.negative n)) => .ok (Double.ofNat n).neg
  | .number (.ok (.real x)) => .ok x
  | node => .error (node.mismatch "f64")

def asBool : Node → Except Fault Bool
  | .bool value => .ok value
  | node => .error (node.mismatch "a boolean")

/-- Nothing at all, written as null. -/
def asUnit : Node → Except Fault Unit
  | .null => .ok ()
  | node => .error (node.mismatch "unit")

end Node

/-! ## Skipping -/

def ArrayEnd.skip : ArrayEnd → Except Fault Unit
  | .closed => .ok ()
  | .cut => .error .endInList
  | .unseparated => .error .expectedListEnd
  | .comma => .error .expectedValue
  | .commaCut => .error .endInValue

def ObjectEnd.skip {α : Type} : ObjectEnd α → Except Fault Unit
  | .closed => .ok ()
  | .cut => .error .endInObject
  | .unseparated => .error .expectedObjectEnd
  | .comma => .error .keyNotString
  | .commaCut => .error .endInObject
  | .stray _ => .error .keyNotString
  | .brokenKey _ fault => .error fault
  | .noColon _ => .error .expectedColon
  | .keyCut _ => .error .endInObject

mutual

/-- Passes over a value. Numbers need not be in range, and strings need not read as text. -/
def Node.skip : Node → Except Fault Unit
  | .array items ending => do
    skipItems items
    ending.skip
  | .object entries ending => do
    skipEntries entries
    ending.skip
  | .absent => .error .endInValue
  | .brokenText _ fault => .error fault
  | .broken _ fault => .error fault
  | _ => .ok ()

def skipItems : List Node → Except Fault Unit
  | [] => .ok ()
  | item :: rest => do
    item.skip
    skipItems rest

def skipEntries : List (Except Fault String × Node) → Except Fault Unit
  | [] => .ok ()
  | (_, item) :: rest => do
    item.skip
    skipEntries rest

end

/-! ## Lists -/

/-- The end of a list whose items have all been read. -/
def ArrayEnd.close : ArrayEnd → Except Fault Unit
  | .closed => .ok ()
  | .cut => .error .endInList
  | .unseparated => .error .expectedListEnd
  | .comma => .error .trailingComma
  | .commaCut => .error .endInValue

/-- The end of a list of which no more items are wanted. -/
def ArrayEnd.closeAfter (ending : ArrayEnd) (left : List Node) : Except Fault Unit :=
  match left, ending with
  | _ :: _, _ => .error .trailingCharacters
  | [], .closed => .ok ()
  | [], .cut => .error .endInList
  | [], .comma => .error .trailingComma
  | [], .unseparated | [], .commaCut => .error .trailingCharacters

/-- A list of values. -/
def Node.asList {α : Type} (item : Node → Except Fault α) : Node → Except Fault (List α)
  | .array items ending => do
    let values ← items.mapM item
    ending.close
    return values
  | node => .error (node.mismatch "a sequence")

/-! ## Labels -/

/-- Looks up a label among those that are known. -/
def lookUp {α : Type} (known : List (String × α)) (shown : List String) (name : String) :
    Except Fault α :=
  match known.find? (·.1 = name) with
  | some (_, value) => .ok value
  | none => .error (.unknownLabel name shown)

/-- One of some labels. `shown` are the labels that a message names. -/
def Node.asLabel {α : Type} (known : List (String × α)) (shown : List String) :
    Node → Except Fault α
  | .text name => name.bind (lookUp known shown)
  | .object [] ending =>
    match ending with
    | .cut => .error .endInValue
    | .stray found => .error (found.mismatch "variant identifier")
    | .brokenKey fault _ => .error fault
    | .noColon name => (name.bind (lookUp known shown)).bind fun _ => .error .expectedColon
    | .keyCut name => (name.bind (lookUp known shown)).bind fun _ => .error .endInObject
    | .closed | .unseparated | .comma | .commaCut => .error .expectedValue
  | .object ((name, content) :: more) ending => do
    let value ← name.bind (lookUp known shown)
    content.asUnit
    match more, ending with
    | [], .closed => return value
    | [], .cut => throw .endInObject
    | _, _ => throw .expectedValue
  | .absent => .error .endInValue
  | .brokenText fault _ => .error fault
  | _ => .error .expectedValue

/-! ## Records -/

/-- A member of a record of type `σ`: its name, and how its content changes the record. -/
structure Member (σ : Type) where
  name : String
  set : Node → σ → Except Fault σ

/-- The form of a record. -/
structure Form (σ : Type) where
  /-- What a message calls the record. -/
  title : String
  fields : List (Member σ)
  /-- Whether a field of another name is a fault. -/
  strict : Bool
  /-- Whether every field must be present. -/
  complete : Bool

namespace Form

variable {σ : Type}

def names (form : Form σ) : List String :=
  form.fields.map (·.name)

/-- The field that a key names. A name may come once; an unknown name is a fault or no field. -/
def field? (form : Form σ) (seen : List String) (key : String) :
    Except Fault (Option (Member σ)) :=
  match form.fields.find? (·.name = key) with
  | some field => if seen.contains key then .error (.duplicateField key) else .ok (some field)
  | none => if form.strict then .error (.unknownField key form.names) else .ok none

/-- The end of an object whose entries have all been read. -/
def close (form : Form σ) (seen : List String) : ObjectEnd Node → Except Fault Unit
  | .closed => .ok ()
  | .cut => .error .endInObject
  | .unseparated => .error .expectedObjectEnd
  | .comma => .error .trailingComma
  | .commaCut => .error .endInValue
  | .stray _ => .error .keyNotString
  | .brokenKey fault _ => .error fault
  | .noColon key => (key.bind (form.field? seen)).bind fun _ => .error .expectedColon
  | .keyCut key => (key.bind (form.field? seen)).bind fun _ => .error .endInObject

/-- Reads the entries of an object; the record and the names that were set. -/
def readEntries (form : Form σ) (record : σ) (seen : List String) :
    List (Except Fault String × Node) → Except Fault (σ × List String)
  | [] => .ok (record, seen)
  | (key, content) :: rest => do
    match ← key.bind (form.field? seen) with
    | some field => form.readEntries (← field.set content record) (field.name :: seen) rest
    | none =>
      content.skip
      form.readEntries record seen rest

/-- Reads the items of an array as the fields in order; the record and the items left over. -/
def readItems (form : Form σ) (ending : ArrayEnd) (record : σ) :
    (fields : List (Member σ)) → List Node → Except Fault (σ × List Node)
  | [], items => .ok (record, items)
  | field :: fields, item :: items => do
    form.readItems ending (← field.set item record) fields items
  | fields@(_ :: _), [] => do
    ending.close
    if form.complete then
      throw (.wrongLength (form.fields.length - fields.length)
        s!"struct {form.title} with {form.fields.length} elements")
    else return (record, [])

/-- Reads a record onto one that holds the values of absent fields. -/
def read (form : Form σ) (defaults : σ) : Node → Except Fault σ
  | .object entries ending => do
    let (record, seen) ← form.readEntries defaults [] entries
    form.close seen ending
    match form.fields.find? fun field => form.complete && !seen.contains field.name with
    | some field => throw (.missingField field.name)
    | none => return record
  | .array items ending => do
    let (record, left) ← form.readItems ending defaults form.fields items
    ending.closeAfter left
    return record
  | node => .error (node.mismatch s!"struct {form.title}")

end Form

/-! ## Any value -/

/-- How many arrays and objects may enclose each other, less one. -/
def maxDepth : Nat := 128

mutual

/-- Reads any value, at most `depth` levels deep. -/
def Node.value (depth : Nat) : Node → Except Fault Value
  | .null => .ok .null
  | .bool value => .ok (.bool value)
  | .number value => value.map .number
  | .text value => value.map .text
  | .array items ending => do
    if depth ≤ 1 then throw .tooDeep
    let values ← itemValues (depth - 1) items
    ending.close
    return .array values
  | .object entries ending => do
    if depth ≤ 1 then throw .tooDeep
    let fields ← entryValues (depth - 1) entries
    (⟨"", [], false, false⟩ : Form Unit).close [] ending
    return .object fields
  | .absent => .error .endInValue
  | .brokenText fault _ => .error fault
  | .broken fault _ => .error fault

def itemValues (depth : Nat) : List Node → Except Fault (List Value)
  | [] => .ok []
  | item :: rest => do
    let value ← item.value depth
    let values ← itemValues depth rest
    return value :: values

def entryValues (depth : Nat) :
    List (Except Fault String × Node) → Except Fault (List (String × Value))
  | [] => .ok []
  | (key, item) :: rest => do
    let name ← key
    let value ← item.value depth
    let fields ← entryValues depth rest
    return (name, value) :: fields

end

end SpectralBench.Json
