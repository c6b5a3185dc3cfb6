/-!
# Sets of characters

Sets are built from ranges by the set operations. A set can also take the other case of its members
in, which is a matter of ASCII.
-/

namespace SpectralBench.Text

inductive CharSet where
  | none
  | range (low high : Char)
  | union (a b : CharSet)
  | shared (a b : CharSet)
  | outside (a : CharSet)
  /-- The set and the letters of ASCII whose other case is in it. -/
  | anyCase (a : CharSet)
  deriving DecidableEq, Repr

namespace CharSet

def holds (c : Char) : CharSet → Bool
  | .none => false
  | .range low high => low ≤ c && c ≤ high
  | .union a b => a.holds c || b.holds c
  | .shared a b => a.holds c && b.holds c
  | .outside a => !a.holds c
  | .anyCase a => a.holds c || a.holds c.toLower || a.holds c.toUpper

def single (c : Char) : CharSet :=
  .range c c

/-- The members of the first set that are not in the second. -/
def without (a b : CharSet) : CharSet :=
  .shared a (.outside b)

/-- The members of exactly one of two sets. -/
def unshared (a b : CharSet) : CharSet :=
  .union (a.without b) (b.without a)

/-- The union of several ranges. -/
def ofRanges (ranges : List (Char × Char)) : CharSet :=
  ranges.foldr (fun (low, high) set => .union (.range low high) set) .none

def ofList (chars : List Char) : CharSet :=
  ofRanges (chars.map fun c => (c, c))

/-- Whether the set is surely one of ASCII characters. -/
def isAscii : CharSet → Bool
  | .none => true
  | .range _ high => high ≤ '\x7f'
  | .union a b => a.isAscii && b.isAscii
  | .shared a b => a.isAscii || b.isAscii
  | .outside _ => false
  | .anyCase a => a.isAscii

/-! ## Named sets of ASCII -/

def digits : CharSet := .range '0' '9'

def upper : CharSet := .range 'A' 'Z'

def lower : CharSet := .range 'a' 'z'

def letters : CharSet := .union upper lower

def alphanumeric : CharSet := .union digits letters

/-- Letters, digits and the underscore. -/
def word : CharSet := .union alphanumeric (single '_')

/-- The tab, the ends of lines and pages, and the space. -/
def blanks : CharSet := .union (.range '\t' '\r') (single ' ')

def punctuation : CharSet := (CharSet.range '!' '~').without alphanumeric

/-- The set with a name of the portable character classes. -/
def named? (name : String) : Option CharSet :=
  match name with
  | "alnum" => some alphanumeric
  | "alpha" => some letters
  | "ascii" => some (.range '\x00' '\x7f')
  | "blank" => some (ofList ['\t', ' '])
  | "cntrl" => some (ofRanges [('\x00', '\x1f'), ('\x7f', '\x7f')])
  | "digit" => some digits
  | "graph" => some (.range '!' '~')
  | "lower" => some lower
  | "print" => some (.range ' ' '~')
  | "punct" => some punctuation
  | "space" => some blanks
  | "upper" => some upper
  | "word" => some word
  | "xdigit" => some (ofRanges [('0', '9'), ('A', 'F'), ('a', 'f')])
  | _ => Option.none

end CharSet

end SpectralBench.Text
