import SpectralBench.CommandLine.Switch

/-!
# Help

The help lists the switches one below the other. What they are for stands in one column, two blanks
behind the longest of the long names.

Main statements:

* `form_length_le_width` — no switch is longer than the column leaves room for.
-/

namespace SpectralBench.CommandLine

/-- What a switch is for. -/
def Switch.purpose : Switch → String
  | .extents => "Transform extents such as \x601024\x60, \x6032x32\x60 or \x6016x16x16\x60"
  | .extentsFile => "File with one extent per line; \x60#\x60 starts a comment"
  | .config => "JSON suite configuration"
  | .backend => "[default: host]"
  | .device => "Device ordinal [default: 0]"
  | .output => "Report file (.csv, .jsonl, .db); CSV on stdout when absent"
  | .kinds => "Comma separated: real, complex"
  | .placements => "Comma separated: inplace, outplace"
  | .precisions => "Comma separated: float, double, half"
  | .noValidate => "Skip the round-trip error check"
  | .scaling => "Scale inverse transforms by 1/n (host backend only)"
  | .listDevices => "Print the devices of the selected backend and exit"
  | .listBenchmarks => "Print the configurations that would run and exit"
  | .verbose => "More log output; repeat for more"
  | .help => "Print help"
  | .version => "Print version"
  | .runs | .warmups | .seed => ""

namespace Usage

/-- The name of the program. -/
def program : String := "fftbench"

def versionText : String := s!"{program} 0.1.0\n"

/-- The greatest of some lengths. -/
def greatest (lengths : List Nat) : Nat :=
  lengths.foldr max 0

theorem le_greatest {lengths : List Nat} {n : Nat} (h : n ∈ lengths) : n ≤ greatest lengths := by
  induction lengths with
  | nil => simp at h
  | cons first rest ih =>
    rw [greatest, List.foldr_cons]
    rcases List.mem_cons.1 h with rfl | h
    · exact Nat.le_max_left ..
    · exact Nat.le_trans (ih h) (Nat.le_max_right ..)

/-- The width of the longest switch. -/
def width : Nat :=
  greatest (Switch.all.map (·.form.length))

theorem form_length_le_width (switch : Switch) : switch.form.length ≤ width :=
  le_greatest (List.mem_map_of_mem (Switch.mem_all switch))

/-- The letter of a switch with its dash, or as much room. -/
def letterColumn (switch : Switch) : String :=
  match switch.letter? with
  | some letter => .ofList ['-', letter, ',', ' ']
  | none => "    "

/-- The line of a switch. -/
def line (switch : Switch) : String :=
  let form := switch.form
  let gap := String.ofList (List.replicate (width - form.length + 2) ' ')
  s!"  {letterColumn switch}{form}{gap}{switch.purpose}\n"

/-- How the program is called. -/
def synopsis : String := s!"Usage: {program} [OPTIONS]\n"

def helpText : String :=
  "Phase-level FFT benchmarks over a grid of transform configurations\n\n" ++ synopsis ++
    "\nOptions:\n" ++ String.join (Switch.all.map line)

end Usage

end SpectralBench.CommandLine
