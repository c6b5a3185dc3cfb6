import SpectralBench.Text.CharSet

/-!
# Sets of characters as bytes

A character is encoded in one to four bytes: a leading byte, whose first bits say how many follow,
and six bits of the code point for each byte that follows. A run of characters is a list of byte
sequences, in which every byte has a range of its own. The states that read the sequences are
counted in two ways: for a reader from the front, which meets equal ends in the same state, and for
one from the back, which shares no more than equal starts.
-/

namespace SpectralBench.Text.CharSet

/-! ## Runs of code points -/

/-- Code points at which membership may change. -/
def breaks : CharSet → List Nat
  | .none => []
  | .range low high => [low.toNat, high.toNat + 1]
  | .union a b | .shared a b => a.breaks ++ b.breaks
  | .outside a => a.breaks
  | .anyCase a =>
    a.breaks ++ a.breaks.map (· + 32) ++ a.breaks.map (· - 32) ++ [0x41, 0x5B, 0x61, 0x7B]

/-- Whether the character with a code point is in a set; a surrogate is none. -/
def holdsAt (set : CharSet) (n : Nat) : Bool :=
  decide n.isValidChar && set.holds (.ofNat n)

/-- The code points at which the encoding takes another byte, and the ends of the surrogates. -/
def borders : List Nat :=
  [0x80, 0x800, 0xD800, 0xE000, 0x10000]

/-- The runs of members between neighbours in a rising list of code points. -/
def runsBetween (set : CharSet) : List Nat → List (Nat × Nat)
  | low :: high :: rest =>
    let later := runsBetween set (high :: rest)
    if !set.holdsAt low then later
    else
      match later with
      | [] => [(low, high - 1)]
      | (next, last) :: further =>
        if next = high && !borders.contains high then (low, last) :: further
        else (low, high - 1) :: later
  | _ => []

/-- The runs of a set, cut where the encoding changes. -/
def runs (set : CharSet) : List (Nat × Nat) :=
  let points := 0 :: 0x110000 :: borders ++ set.breaks
  runsBetween set (points.filter (· ≤ 0x110000)).mergeSort.eraseDups

/-! ## Sequences of bytes -/

/-- The first and the last of a range of bytes. -/
abbrev ByteRange := Nat × Nat

/-- The sequences of a run. Each byte but the last stands for as many code points as its unit says;
`mark` is what the first byte says beside its bits of the code point. -/
def sequences (mark : Nat) : (units : List Nat) → (low high : Nat) → List (List ByteRange)
  | [], low, high => [[(mark + low, mark + high)]]
  | unit :: units, low, high =>
    let within (byte low high : Nat) : List (List ByteRange) :=
      (sequences 0x80 units low high).map ((mark + byte, mark + byte) :: ·)
    let front := low / unit
    let back := high / unit
    if front = back then within front (low % unit) (high % unit)
    else
      let first := (low + unit - 1) / unit
      let next := (high + 1) / unit
      let full : List ByteRange :=
        (mark + first, mark + next - 1) :: (unit :: units).map fun _ => (0x80, 0xBF)
      (if front < first then within front (low % unit) (unit - 1) else []) ++
        (if first < next then [full] else []) ++
        (if next = back then within back 0 (high % unit) else [])

/-- The sequences of a run whose characters take the same number of bytes. -/
def encoded (low high : Nat) : List (List ByteRange) :=
  if high < 0x80 then sequences 0 [] low high
  else if high < 0x800 then sequences 0xC0 [64] low high
  else if high < 0x10000 then sequences 0xE0 [4096, 64] low high
  else sequences 0xF0 [262144, 4096, 64] low high

/-! ## States -/

/-- What sequences start with. -/
def starts (paths : List (List ByteRange)) : List (List ByteRange) :=
  (paths.flatMap fun path => (List.range (path.length + 1)).map path.take).eraseDups

/-- What follows in sequences behind one start. -/
def behind (paths : List (List ByteRange)) (start : List ByteRange) : List (List ByteRange) :=
  (paths.filter start.isPrefixOf).map (·.drop start.length)

/-- Bytes of the states of a reader from the front: 32 for each state and 8 for each range that it
tells from others. -/
def frontWeight (paths : List (List ByteRange)) : Nat :=
  let nodes := ((starts paths).map (behind paths)).eraseDups.filter (· != [[]])
  nodes.foldr (fun node sum => 32 + 8 * (node.filterMap List.head?).eraseDups.length + sum) 32

/-- Bytes of the states of a reader from the back: 32 for each state and 4 for each sequence. -/
def backWeight (paths : List (List ByteRange)) : Nat :=
  32 + 32 * (starts paths).length + 4 * paths.length

/-- Bytes of the states in which a set is tested. A single character takes a state for each of its
bytes. -/
def weight (fromBack : Bool) (set : CharSet) : Nat :=
  match set.runs with
  | [(low, high)] =>
    if low = high then 32 * (Char.ofNat low).utf8Size else runsWeight [(low, high)]
  | runs => runsWeight runs
where
  runsWeight (runs : List (Nat × Nat)) : Nat :=
    if runs.all (·.2 < 0x80) then 64 + 8 * runs.length
    else
      let paths := runs.flatMap fun (low, high) => encoded low high
      if fromBack then backWeight paths else frontWeight paths

end SpectralBench.Text.CharSet
