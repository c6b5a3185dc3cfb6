import SpectralBench.Text.CharSet

/-!
# Search patterns

A pattern describes stretches of text, and a text is searched for a stretch that it describes. All
matches are followed at once. A mask has a mark for every place of the text, the end included, and
says where a match may stand; a pattern takes the mask of the places where a match begins to the
mask of those where it ends.

Main statements:

* `length_ends` — a pattern keeps one mark for each place.
-/

namespace SpectralBench.Text

/-- What the characters beside a place have to do with a word. -/
inductive WordEdge where
  /-- A word begins or ends. -/
  | boundary
  /-- Neither. -/
  | noBoundary
  | opening
  | closing
  /-- No word ends here or goes on. -/
  | noneBefore
  /-- No word begins here or goes on. -/
  | noneAfter
  deriving DecidableEq, Repr

def WordEdge.holds (before after : Bool) : WordEdge → Bool
  | .boundary => before != after
  | .noBoundary => before == after
  | .opening => !before && after
  | .closing => before && !after
  | .noneBefore => !before
  | .noneAfter => !after

/-- Places of a text that are told by the characters beside them. -/
inductive Spot where
  | start
  | finish
  /-- The start of a line; `returns` says whether a carriage return ends lines, too. -/
  | lineStart (returns : Bool)
  | lineFinish (returns : Bool)
  /-- An edge of words of ASCII; with `unicode`, of words of any script. -/
  | word (edge : WordEdge) (unicode : Bool)
  deriving DecidableEq, Repr

/-- Whether a place between two characters is a spot. -/
def Spot.holds (before after : Option Char) : Spot → Bool
  | .start => before.isNone
  | .finish => after.isNone
  | .lineStart false => before.all (· = '\n')
  | .lineStart true =>
    before.all fun c => c = '\n' || (c = '\r' && after != some '\n')
  | .lineFinish false => after.all (· = '\n')
  | .lineFinish true =>
    after.all fun c => c = '\r' || (c = '\n' && before != some '\r')
  | .word edge _ => edge.holds (before.any CharSet.word.holds) (after.any CharSet.word.holds)

/-- A description of stretches of text. -/
inductive Pattern where
  | nothing
  | one (set : CharSet)
  | spot (s : Spot)
  | both (first second : Pattern)
  | either (a b : Pattern)
  /-- At least `least` times, and at most `most` times where there is a bound. -/
  | times (p : Pattern) (least : Nat) (most : Option Nat)
  /-- A group, the ends of which a search may be asked for. -/
  | marked (p : Pattern)
  deriving DecidableEq, Repr

/-! ## Masks -/

/-- A mark for each place of a text. -/
abbrev Mask := List Bool

namespace Mask

/-- The marks of two masks. -/
def union (a b : Mask) : Mask :=
  List.zipWith (· || ·) a b

/-- Takes a step a number of times, or until it changes nothing. -/
def advance (step : Mask → Mask) : (rounds : Nat) → Mask → Mask
  | 0, mask => mask
  | rounds + 1, mask =>
    let next := step mask
    if next = mask then mask else advance step rounds next

/-- Adds what a step makes of a mask, and of that, at most `rounds` times. -/
def spread (step : Mask → Mask) (rounds : Nat) (mask : Mask) : Mask :=
  advance (fun reached => reached.union (step reached)) rounds mask

end Mask

/-- The places of a text that are a spot; `before` is the character in front of the text. -/
def Spot.mask (s : Spot) (before : Option Char) : (text : List Char) → Mask
  | [] => [s.holds before none]
  | c :: rest => s.holds before (some c) :: s.mask (some c) rest

namespace Pattern

/-- Where the matches end that begin at the places of a mask. -/
def ends (text : List Char) : Pattern → Mask → Mask
  | .nothing, mask => mask
  | .one set, mask => false :: List.zipWith (fun here c => here && set.holds c) mask text
  | .spot s, mask => List.zipWith (· && ·) mask (s.mask none text)
  | .both first second, mask => second.ends text (first.ends text mask)
  | .either a b, mask => (a.ends text mask).union (b.ends text mask)
  | .times p least most, mask =>
    let rounds := most.elim (text.length + 1) (· - least)
    (mask.advance (p.ends text) least).spread (p.ends text) rounds
  | .marked p, mask => p.ends text mask

/-- Whether the pattern describes a stretch of a text. -/
def occursIn (p : Pattern) (text : List Char) : Bool :=
  (p.ends text (List.replicate (text.length + 1) true)).any id

/-! ## What a pattern takes -/

/-- Whether a search for the pattern would have to know the words of all scripts. -/
def needsScripts : Pattern → Bool
  | .nothing | .one _ => false
  | .spot (.word _ unicode) => unicode
  | .spot _ => false
  | .both a b | .either a b => a.needsScripts || b.needsScripts
  | .times p _ most => most != some 0 && p.needsScripts
  | .marked p => p.needsScripts

/-- Whether the pattern takes no character. -/
def isEmpty : Pattern → Bool
  | .nothing | .spot _ => true
  | .one _ => false
  | .both a b | .either a b => a.isEmpty && b.isEmpty
  | .times p _ most => most == some 0 || p.isEmpty
  | .marked p => p.isEmpty

/-- Whether the pattern may take no character. -/
def mayBeEmpty : Pattern → Bool
  | .nothing | .spot _ => true
  | .one _ => false
  | .both a b => a.mayBeEmpty && b.mayBeEmpty
  | .either a b => a.mayBeEmpty || b.mayBeEmpty
  | .times p least _ => least == 0 || p.mayBeEmpty
  | .marked p => p.mayBeEmpty

end Pattern

/-! ## Lemmas -/

theorem Spot.length_mask (s : Spot) (before : Option Char) (text : List Char) :
    (s.mask before text).length = text.length + 1 := by
  induction text generalizing before with
  | nil => rfl
  | cons c rest ih => simp [mask, ih]

theorem Mask.length_advance {step : Mask → Mask} {size : Nat}
    (hstep : ∀ mask : Mask, mask.length = size → (step mask).length = size) (rounds : Nat)
    {mask : Mask} (h : mask.length = size) : (mask.advance step rounds).length = size := by
  induction rounds generalizing mask with
  | zero => exact h
  | succ rounds ih =>
    simp only [advance]
    split
    · exact h
    · exact ih (hstep mask h)

theorem Mask.length_spread {step : Mask → Mask} {size : Nat}
    (hstep : ∀ mask : Mask, mask.length = size → (step mask).length = size) (rounds : Nat)
    {mask : Mask} (h : mask.length = size) : (mask.spread step rounds).length = size := by
  apply length_advance _ rounds h
  intro reached hr
  simp [union, hr, hstep reached hr]

theorem Pattern.length_ends (text : List Char) (p : Pattern) {mask : Mask}
    (h : mask.length = text.length + 1) : (p.ends text mask).length = text.length + 1 := by
  induction p generalizing mask with
  | nothing => exact h
  | one set =>
    simp only [ends, List.length_cons, List.length_zipWith, h]
    omega
  | spot s => simp [ends, h, s.length_mask]
  | both first second ih₁ ih₂ => exact ih₂ (ih₁ h)
  | either a b ih₁ ih₂ => simp [ends, Mask.union, ih₁ h, ih₂ h]
  | times p least most ih =>
    have hstep : ∀ m : Mask, m.length = text.length + 1 → (p.ends text m).length = _ :=
      fun _ hm => ih hm
    exact Mask.length_spread hstep _ (Mask.length_advance hstep _ h)
  | marked p ih => exact ih h

end SpectralBench.Text
