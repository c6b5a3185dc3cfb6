import SpectralBench.Text.Split

/-!
# Switches of the command line

Every switch has a long name, and some have a letter too. A switch either takes values or is a flag.
One switch takes as many values as follow it, three take lists of values between commas, and all
others take one value. A switch that gathers values, or that is counted, may be given repeatedly.

Main statements:

* `named?_long` — a switch answers to its long name.
* `lettered?_letter` — and to its letter.
-/

namespace SpectralBench.CommandLine

/-- The switches, in the order in which the help lists them. -/
inductive Switch where
  | extents
  | extentsFile
  | config
  | backend
  | device
  | output
  | runs
  | warmups
  | kinds
  | placements
  | precisions
  | noValidate
  | seed
  | scaling
  | listDevices
  | listBenchmarks
  | verbose
  | help
  | version
  deriving DecidableEq, Repr

namespace Switch

def all : List Switch :=
  [.extents, .extentsFile, .config, .backend, .device, .output, .runs, .warmups, .kinds,
    .placements, .precisions, .noValidate, .seed, .scaling, .listDevices, .listBenchmarks,
    .verbose, .help, .version]

/-- The long name, without its dashes. -/
def long : Switch → String
  | .extents => "extent"
  | .extentsFile => "extents-file"
  | .config => "config"
  | .backend => "backend"
  | .device => "device"
  | .output => "output"
  | .runs => "runs"
  | .warmups => "warmups"
  | .kinds => "kinds"
  | .placements => "placements"
  | .precisions => "precisions"
  | .noValidate => "no-validate"
  | .seed => "seed"
  | .scaling => "scaling"
  | .listDevices => "list-devices"
  | .listBenchmarks => "list-benchmarks"
  | .verbose => "verbose"
  | .help => "help"
  | .version => "version"

/-- The letter that stands for the switch after one dash. -/
def letter? : Switch → Option Char
  | .extents => some 'e'
  | .extentsFile => some 'f'
  | .backend => some 'b'
  | .device => some 'd'
  | .output => some 'o'
  | .runs => some 'r'
  | .warmups => some 'w'
  | .verbose => some 'v'
  | .help => some 'h'
  | .version => some 'V'
  | .config | .kinds | .placements | .precisions | .noValidate | .seed | .scaling
  | .listDevices | .listBenchmarks => none

/-- What the help calls the value of a switch that takes one. -/
def valueName? : Switch → Option String
  | .extents => some "EXTENTS"
  | .extentsFile => some "EXTENTS_FILE"
  | .config => some "CONFIG"
  | .backend => some "BACKEND"
  | .device => some "DEVICE"
  | .output => some "OUTPUT"
  | .runs => some "RUNS"
  | .warmups => some "WARMUPS"
  | .kinds => some "KINDS"
  | .placements => some "PLACEMENTS"
  | .precisions => some "PRECISIONS"
  | .seed => some "SEED"
  | .noValidate | .scaling | .listDevices | .listBenchmarks | .verbose | .help | .version => none

def takesValue (switch : Switch) : Bool :=
  switch.valueName?.isSome

/-- Whether every bare argument after the switch is one more value of it. -/
def takesMany (switch : Switch) : Bool :=
  switch = .extents

/-- Whether a value of the switch is a list between commas. -/
def takesLists : Switch → Bool
  | .kinds | .placements | .precisions => true
  | _ => false

/-- Whether the switch may be given again. -/
def isRepeatable (switch : Switch) : Bool :=
  switch.takesMany || switch.takesLists || switch = .verbose

/-- The single values in what was given as one value. -/
def pieces (switch : Switch) (value : String) : List String :=
  if switch.takesLists then (Text.split (· = ',') value.toList).map .ofList else [value]

/-- The switch with a long name. -/
def named? (name : String) : Option Switch :=
  all.find? (·.long = name)

/-- The switch with a letter. -/
def lettered? (letter : Char) : Option Switch :=
  all.find? (·.letter? = some letter)

theorem mem_all (switch : Switch) : switch ∈ all := by
  cases switch <;> decide

theorem named?_long (switch : Switch) : named? switch.long = some switch := by
  cases switch <;> decide

theorem lettered?_letter {switch : Switch} {letter : Char} (h : switch.letter? = some letter) :
    lettered? letter = some switch := by
  cases switch <;> simp only [letter?, Option.some.injEq, reduceCtorEq] at h <;> subst h <;> decide

/-- How the switch is written, with the name of its value. -/
def form (switch : Switch) : String :=
  let value := match switch.valueName? with
    | some name => s!" <{name}>"
    | none => ""
  let more := if switch.takesMany ∨ switch = .verbose then "..." else ""
  s!"--{switch.long}{value}{more}"

end Switch

end SpectralBench.CommandLine
