import SpectralBench.Backend
import SpectralBench.CommandLine.Switch
import SpectralBench.Documents

/-!
# Options

The options of a run are read from its arguments, one after the other. A value stands behind its
switch, either in the next argument or in the same one. A switch in an argument of its own waits for
its values until the next switch comes, or the arguments end; only then they are looked at. So the
first fault in this order is the one that is reported, except that an argument that is out of place
is reported in front of a switch that still waits.
-/

namespace SpectralBench.CommandLine

/-- What the arguments ask for. -/
structure Options where
  extents : List Extent
  extentsFile : Option String
  config : Option String
  backend : Backend
  device : UInt64
  output : Option String
  runs : Option UInt64
  warmups : Option UInt64
  kinds : List Kind
  placements : List Placement
  precisions : List Precision
  noValidate : Bool
  seed : Option UInt64
  scaling : Bool
  listDevices : Bool
  listBenchmarks : Bool
  /-- How often more log output was asked for. -/
  verbosity : Nat
  deriving DecidableEq

/-- Why arguments give no options. Asking for help or for the version ends the reading, too. -/
inductive Interruption where
  | unknownArgument (given : String)
  | missingValue (switch : Switch)
  | repeated (switch : Switch)
  | unneededValue (switch : Switch) (given : String)
  | unreadable (switch : Switch) (given reason : String)
  | help
  | version
  deriving DecidableEq, Repr

def Interruption.message : Interruption → String
  | .unknownArgument given => s!"unexpected argument '{given}' found"
  | .missingValue switch => s!"a value is required for '{switch.form}' but none was supplied"
  | .repeated switch => s!"the argument '{switch.form}' cannot be used multiple times"
  | .unneededValue switch given =>
    s!"unexpected value '{given}' for '{switch.form}' found; no more were expected"
  | .unreadable switch given reason => s!"invalid value '{given}' for '{switch.form}': {reason}"
  | .help => "help was asked for"
  | .version => "the version was asked for"

namespace Options

def standard : Options where
  extents := []
  extentsFile := none
  config := none
  backend := .host
  device := 0
  output := none
  runs := none
  warmups := none
  kinds := []
  placements := []
  precisions := []
  noValidate := false
  seed := none
  scaling := false
  listDevices := false
  listBenchmarks := false
  verbosity := 0

/-- The level of the log that the options ask for. -/
def logLevel (options : Options) : Log.Level :=
  match options.verbosity with
  | 0 => .warn
  | 1 => .info
  | 2 => .debug
  | _ => .trace

/-- Sets a flag. -/
def raise (options : Options) : Switch → Options
  | .noValidate => { options with noValidate := true }
  | .scaling => { options with scaling := true }
  | .listDevices => { options with listDevices := true }
  | .listBenchmarks => { options with listBenchmarks := true }
  | .verbose => { options with verbosity := options.verbosity + 1 }
  | _ => options

/-- A value read by a reader whose failures are put into words. -/
def readValue {α ε : Type} (switch : Switch) (given : String) (message : ε → String)
    (result : Except ε α) : Except Interruption α :=
  result.mapError fun e => .unreadable switch given (message e)

/-- A value that is a path. The empty path counts as no value. -/
def readPath (switch : Switch) (given : String) : Except Interruption String :=
  if given.isEmpty then .error (.missingValue switch) else .ok given

/-- Takes one value of a switch. -/
def take (switch : Switch) (options : Options) (given : String) : Except Interruption Options :=
  let labelled {α : Type} (result : Except Failure α) : Except Interruption α :=
    readValue switch given Failure.message result
  let number : Except Interruption UInt64 :=
    readValue switch given Decimal.NumeralFault.message (Decimal.readNatural given.toList)
  match switch with
  | .extents => do
    let extent ← labelled (Extent.read given)
    return { options with extents := options.extents ++ [extent] }
  | .extentsFile => do return { options with extentsFile := some (← readPath switch given) }
  | .config => do return { options with config := some (← readPath switch given) }
  | .backend => do return { options with backend := ← labelled (Backend.read given) }
  | .device => do return { options with device := ← number }
  | .output => do return { options with output := some (← readPath switch given) }
  | .runs => do return { options with runs := some (← number) }
  | .warmups => do return { options with warmups := some (← number) }
  | .kinds => do
    let kind ← labelled (Kind.read given)
    return { options with kinds := options.kinds ++ [kind] }
  | .placements => do
    let placement ← labelled (Placement.read given)
    return { options with placements := options.placements ++ [placement] }
  | .precisions => do
    let precision ← labelled (Precision.read given)
    return { options with precisions := options.precisions ++ [precision] }
  | .seed => do return { options with seed := some (← number) }
  | .noValidate | .scaling | .listDevices | .listBenchmarks | .verbose | .help | .version =>
    return options

end Options

/-! ## Reading -/

/-- How far the reading of arguments has come. -/
structure Reading where
  options : Options
  /-- The switches that were given. -/
  given : List Switch
  /-- A switch that waits for values, and the values that it has. -/
  waiting : Option (Switch × List String)
  /-- Whether switches are no longer recognised. -/
  escaped : Bool

namespace Reading

def start : Reading := ⟨.standard, [], none, false⟩

/-- Enters a switch with its values. -/
def enter (reading : Reading) (switch : Switch) (values : List String) :
    Except Interruption Reading := do
  if switch.takesValue && values.isEmpty then throw (.missingValue switch)
  if !switch.isRepeatable && reading.given.contains switch then throw (.repeated switch)
  let options ←
    if switch.takesValue then
      (values.flatMap switch.pieces).foldlM (Options.take switch) reading.options
    else pure (reading.options.raise switch)
  return { reading with options, given := switch :: reading.given }

/-- Enters the switch that waits, if one does. -/
def settle (reading : Reading) : Except Interruption Reading :=
  match reading.waiting with
  | none => .ok reading
  | some (switch, values) => { reading with waiting := none }.enter switch values

/-- A switch without an attached value. -/
def meet (reading : Reading) (switch : Switch) : Except Interruption Reading := do
  let settled ← reading.settle
  match switch with
  | .help => throw .help
  | .version => throw .version
  | _ =>
    if switch.takesValue then return { settled with waiting := some (switch, []) }
    else settled.enter switch []

/-- A switch with a value attached to it. -/
def meetAttached (reading : Reading) (switch : Switch) (value : String) :
    Except Interruption Reading := do
  (← reading.settle).enter switch [value]

/-- A bare argument: one more value for the switch that waits, if it takes one more. -/
def bare (reading : Reading) (argument : String) : Except Interruption Reading :=
  match reading.waiting with
  | some (switch, values) =>
    if switch.takesMany || values.isEmpty then
      .ok { reading with waiting := some (switch, values ++ [argument]) }
    else .error (.unknownArgument argument)
  | none => .error (.unknownArgument argument)

/-- An argument behind two dashes. -/
def longArgument (reading : Reading) (name : List Char) : Except Interruption Reading :=
  let (head, tail) := name.span (· ≠ '=')
  match Switch.named? (.ofList head), tail with
  | none, _ => .error (.unknownArgument ("--" ++ .ofList head))
  | some switch, [] => reading.meet switch
  | some switch, _ :: value =>
    if switch.takesValue then reading.meetAttached switch (.ofList value)
    else .error (.unneededValue switch (.ofList value))

/-- Letters behind one dash. The first that takes a value has the rest of the argument for it, with
or without an equals sign in front. -/
def letters (reading : Reading) : List Char → Except Interruption Reading
  | [] => .ok reading
  | letter :: rest =>
    match Switch.lettered? letter with
    | none => .error (.unknownArgument (.ofList ['-', letter]))
    | some switch =>
      if !switch.takesValue then do (← reading.meet switch).letters rest
      else
        match rest with
        | [] => reading.meet switch
        | '=' :: value => reading.meetAttached switch (.ofList value)
        | value => reading.meetAttached switch (.ofList value)

/-- The next argument. Two dashes alone end the switches; one dash alone is a bare argument. -/
def next (reading : Reading) (argument : String) : Except Interruption Reading :=
  if reading.escaped then .error (.unknownArgument argument)
  else
    match argument.toList with
    | ['-', '-'] => .ok { reading with escaped := true }
    | '-' :: '-' :: name => reading.longArgument name
    | ['-'] => reading.bare argument
    | '-' :: name => reading.letters name
    | _ => reading.bare argument

end Reading

/-- The options that arguments ask for. -/
def Options.read (arguments : List String) : Except Interruption Options := do
  let reading ← arguments.foldlM Reading.next .start
  return (← reading.settle).options

end SpectralBench.CommandLine
