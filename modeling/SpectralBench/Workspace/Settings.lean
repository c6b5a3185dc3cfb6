import SpectralBench.Text.Blank
import SpectralBench.Workspace.Toolkit

/-!
# Build settings

The settings of a build are the toolkit that was found and the features that it is built with. With
a toolkit the graphics card's backend comes first; the features that a user asks for follow, each
of them once.

Main statements:

* `nodup_features` — no feature is listed twice.
-/

namespace SpectralBench.Workspace

/-- What a build depends on. -/
structure Settings where
  features : List String
  toolkit : Option String
  deriving DecidableEq, Repr

namespace Settings

/-- Adds a feature that is not there yet. -/
def addFeature (features : List String) (feature : String) : List String :=
  if feature ∈ features then features else features ++ [feature]

theorem nodup_addFeature {features : List String} (h : features.Nodup) (feature : String) :
    (addFeature features feature).Nodup := by
  unfold addFeature
  split
  · exact h
  · rename_i hn
    rw [List.nodup_append]
    refine ⟨h, by simp, ?_⟩
    intro a ha b hb
    rw [List.mem_singleton] at hb
    subst hb
    rintro rfl
    exact hn ha

/-- The features that a toolkit brings. -/
def ofToolkit (toolkit : Option String) : List String :=
  if toolkit.isSome then ["cuda"] else []

/-- The settings for a toolkit and the features in a text. -/
def of (toolkit : Option String) (extra : String) : Settings where
  features := ((Text.words extra.toList).map String.ofList).foldl addFeature (ofToolkit toolkit)
  toolkit

theorem nodup_features (toolkit : Option String) (extra : String) :
    (of toolkit extra).features.Nodup := by
  have h : ∀ (words features : List String), features.Nodup →
      (words.foldl addFeature features).Nodup := by
    intro words
    induction words with
    | nil => exact fun _ h => h
    | cons word words ih => exact fun features h => ih _ (nodup_addFeature h word)
  refine h _ _ ?_
  cases toolkit <;> simp [ofToolkit]

/-- The features as one argument, if there are any. -/
def argument? (settings : Settings) : Option String :=
  if settings.features.isEmpty then none else some (" ".intercalate settings.features)

/-- The variable that holds the features that a user asks for. -/
def featuresVariable : String := "FFTBENCH_FEATURES"

/-- The settings of this machine. -/
def detect {m : Type → Type} [Monad m] (files : Files m) (lookup : String → Option String) :
    m Settings := do
  let toolkit ← Toolkit.detect files lookup
  return of toolkit ((lookup featuresVariable).getD "")

end Settings

end SpectralBench.Workspace
