import SpectralBench.Log
import SpectralBench.Text.Blank
import SpectralBench.Text.Pattern.Reader

/-!
# Log filters

A filter says which entries are shown. It is written as directives between commas: a level alone is
the threshold of every target, a name alone lets everything through of the targets that start with
it, and `name=level` is a threshold for them. Of the directives for a target the one with the
longest name counts. Behind a slash may stand a pattern that has to occur in the entries that are
shown; a text that is no pattern lets all of them through.
-/

namespace SpectralBench.Log

/-- The least severe level that is shown, if any is. -/
abbrev Threshold := Option Level

/-- The threshold of a name, whatever its case. -/
def Threshold.named? (name : List Char) : Option Threshold :=
  let title := String.ofList (name.map Char.toUpper)
  if title = "OFF" then some none
  else (Level.all.find? (·.title = title)).map some

/-- A threshold for the targets that start with a name; no name stands for every target. -/
structure Directive where
  target : Option (List Char)
  threshold : Threshold
  deriving DecidableEq

namespace Directive

/-- Whether a directive is about a target. -/
def covers (directive : Directive) (target : List Char) : Bool :=
  directive.target.all (·.isPrefixOf target)

/-- How particular a directive is. -/
def reach (directive : Directive) : Nat :=
  (directive.target.getD []).length

/-- Reads one directive. -/
def read? (text : List Char) : Option Directive :=
  match Text.split (· = '=') text with
  | [name] =>
    match Threshold.named? name with
    | some threshold => some ⟨none, threshold⟩
    | none => some ⟨some name, some .trace⟩
  | [name, level] =>
    let level := Text.trim level
    if level.isEmpty then some ⟨some name, some .trace⟩
    else (Threshold.named? level).map (⟨some name, ·⟩)
  | _ => none

end Directive

/-- Which entries are shown. -/
structure Filter where
  directives : List Directive
  /-- What has to occur in the text of an entry. -/
  pattern : Option Text.Pattern
  deriving DecidableEq

namespace Filter

/-- Adds a directive, in place of an earlier one for the same name. -/
def insert : List Directive → Directive → List Directive
  | [], directive => [directive]
  | first :: rest, directive =>
    if first.target = directive.target then directive :: rest else first :: insert rest directive

/-- The directives between commas; what is no directive is passed over. -/
def readDirectives (text : List Char) : List Directive :=
  let pieces := ((Text.split (· = ',') text).map Text.trim).filter (!·.isEmpty)
  (pieces.filterMap Directive.read?).foldl insert []

/-- Reads a filter. Without a directive only errors are shown. -/
def read (text : String) : Filter :=
  let (directives, pattern) :=
    match Text.split (· = '/') text.toList with
    | [directives] => (readDirectives directives, none)
    | [directives, pattern] => (readDirectives directives, Text.Pattern.read? pattern)
    | _ => ([], none)
  ⟨if directives.isEmpty then [⟨none, some .error⟩] else directives, pattern⟩

/-- The most particular of the directives for a target; of two for the same name the later one. -/
def directiveFor? (filter : Filter) (target : List Char) : Option Directive :=
  (filter.directives.filter (·.covers target)).foldl
    (fun best directive =>
      match best with
      | some held => if held.reach ≤ directive.reach then some directive else some held
      | none => some directive)
    none

/-- The threshold of a target. -/
def thresholdFor (filter : Filter) (target : String) : Threshold :=
  (filter.directiveFor? target.toList).bind (·.threshold)

/-- Whether an entry is shown. -/
def admits (filter : Filter) (entry : Entry) : Bool :=
  (filter.thresholdFor entry.target).any (·.admits entry.level) &&
    filter.pattern.all (·.occursIn entry.text.toList)

/-- The variable that holds the filter of a run. -/
def settingName : String := "RUST_LOG"

/-- The filter of a run: the one that is set, or a threshold of every target. -/
def ofVariables (lookup : String → Option String) (fallback : Level) : Filter :=
  match lookup settingName with
  | some text => read text
  | none => ⟨[⟨none, some fallback⟩], none⟩

end Filter

end SpectralBench.Log
