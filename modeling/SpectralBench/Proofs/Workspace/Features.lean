import SpectralBench.Proofs.Text
import SpectralBench.Workspace.Settings
import Mathlib.Data.List.Basic

/-!
# The features of a build

The features that a user asks for are the words of a text, and a toolkit brings one of its own. They
are collected one by one, and what is there already is left out. What this adds to the features so
far is said by `Settings.additions`: the new words, each where it stands first.

The features go to the build tool as one argument. That argument is a text of words itself, so
settings made from it are the same again: all its words are features, and none of them comes twice.

Main statements:

* `Settings.foldl_addFeature`, `Settings.pairwise_additions` — what is added, and in which order.
* `Settings.features_listed` — what the features are, and that they survive as an argument.
-/

namespace SpectralBench.Workspace.Settings

variable {seed features words : List String}

/-- Those of some words that are not among the features yet, each where it stands first. -/
def additions : List String → List String → List String
  | _, [] => []
  | features, word :: words =>
    if word ∈ features then additions features words
    else word :: additions (features ++ [word]) words

theorem foldl_addFeature (features words : List String) :
    words.foldl addFeature features = features ++ additions features words := by
  induction words generalizing features with
  | nil => exact (List.append_nil features).symm
  | cons word words ih =>
    rw [List.foldl_cons, ih, addFeature, additions]
    split
    · rfl
    · rw [List.append_assoc, List.singleton_append]

theorem mem_additions {word : String} :
    word ∈ additions features words ↔ word ∈ words ∧ word ∉ features := by
  induction words generalizing features with
  | nil => simp [additions]
  | cons first words ih =>
    rw [additions]
    split
    · rename_i hfirst
      rw [ih, List.mem_cons, and_congr_left_iff]
      intro hnew
      have hne : word ≠ first := fun heq => hnew (heq ▸ hfirst)
      simp [hne]
    · rename_i hfirst
      rw [List.mem_cons, ih, List.mem_cons, List.mem_append, List.mem_singleton]
      by_cases heq : word = first
      · subst heq
        simp [hfirst]
      · simp [heq]

/-- The first occurrence of a word that comes later is one place further on. -/
theorem idxOf_lt_idxOf_cons {first a b : String} (ha : a ≠ first) (hb : b ≠ first)
    (h : words.idxOf a < words.idxOf b) :
    (first :: words).idxOf a < (first :: words).idxOf b := by
  rw [List.idxOf_cons_ne _ ha.symm, List.idxOf_cons_ne _ hb.symm]
  exact Nat.succ_lt_succ h

/-- What is added keeps the order of first occurrences. -/
theorem pairwise_additions (features words : List String) :
    (additions features words).Pairwise fun a b => words.idxOf a < words.idxOf b := by
  induction words generalizing features with
  | nil => exact .nil
  | cons first words ih =>
    -- none of the words that are added later is the first one again
    have hlater (known : List String) (hknown : first ∈ known) :
        (additions known words).Pairwise fun a b =>
          (first :: words).idxOf a < (first :: words).idxOf b := by
      refine (ih known).imp_of_mem fun {a b} ha hb h => ?_
      have hne (word : String) (hword : word ∈ additions known words) : word ≠ first :=
        fun heq => (mem_additions.1 hword).2 (heq ▸ hknown)
      exact idxOf_lt_idxOf_cons (hne a ha) (hne b hb) h
    rw [additions]
    split
    · rename_i hfirst
      exact hlater features hfirst
    · refine List.pairwise_cons.2 ⟨fun word hword => ?_, hlater _ (by simp)⟩
      have hne : word ≠ first := fun heq => (mem_additions.1 hword).2 (by simp [heq])
      rw [List.idxOf_cons_self, List.idxOf_cons_ne _ hne.symm]
      exact Nat.succ_pos _

/-- Features that are given once more, those of the toolkit first, are added as they are. -/
theorem foldl_addFeature_self (h : (seed ++ features).Nodup) :
    (seed ++ features).foldl addFeature seed = seed ++ features := by
  have hknown (some : List String) (hsome : ∀ word ∈ some, word ∈ seed) :
      some.foldl addFeature seed = seed := by
    induction some with
    | nil => rfl
    | cons word some ih =>
      obtain ⟨hword, hsome⟩ := List.forall_mem_cons.1 hsome
      rw [List.foldl_cons, addFeature, if_pos hword, ih hsome]
  rw [List.foldl_append, hknown seed fun _ h => h]
  clear hknown
  induction features generalizing seed with
  | nil => exact (List.append_nil seed).symm
  | cons word features ih =>
    have hnew : word ∉ seed := fun hword =>
      (List.nodup_append.1 h).2.2 word hword word List.mem_cons_self rfl
    rw [List.foldl_cons, addFeature, if_neg hnew]
    rw [List.append_cons seed word features] at h ⊢
    exact ih h

/-! ## As an argument -/

/-- The words of a text, in order. -/
def wordsOf (text : String) : List String :=
  (Text.words text.toList).map String.ofList

theorem mem_wordsOf {word text : String} :
    word ∈ wordsOf text ↔ Text.IsWord word.toList text.toList := by
  rw [← Text.mem_words_iff, wordsOf, List.mem_map]
  constructor
  · rintro ⟨letters, hletters, rfl⟩
    rwa [String.toList_ofList]
  · exact fun h => ⟨word.toList, h, String.ofList_toList⟩

theorem of_eq (toolkit : Option String) (extra : String) :
    of toolkit extra = ⟨(wordsOf extra).foldl addFeature (ofToolkit toolkit), toolkit⟩ :=
  rfl

theorem features_of (toolkit : Option String) (extra : String) :
    (of toolkit extra).features =
      ofToolkit toolkit ++ additions (ofToolkit toolkit) (wordsOf extra) :=
  foldl_addFeature _ _

theorem mem_features {toolkit : Option String} {extra feature : String} :
    feature ∈ (of toolkit extra).features ↔
      (feature = "cuda" ∧ toolkit.isSome) ∨ Text.IsWord feature.toList extra.toList := by
  have hbrought : feature ∈ ofToolkit toolkit ↔ feature = "cuda" ∧ toolkit.isSome := by
    cases toolkit <;> simp [ofToolkit]
  rw [features_of, List.mem_append, mem_additions, mem_wordsOf, hbrought]
  tauto

/-- A feature is a word by itself. -/
theorem plain_of_mem_features {toolkit : Option String} {extra feature : String}
    (h : feature ∈ (of toolkit extra).features) :
    feature.toList ≠ [] ∧ ∀ c ∈ feature.toList, Text.isBlank c = false := by
  rcases mem_features.1 h with ⟨rfl, -⟩ | ⟨hne, hplain, -⟩
  · have hletters : "cuda".toList = ['c', 'u', 'd', 'a'] := by simp
    rw [hletters]
    exact ⟨by simp, List.forall_iff_forall_mem.1 (by decide)⟩
  · exact ⟨hne, hplain⟩

theorem map_ofList_toList (texts : List String) :
    (texts.map String.toList).map String.ofList = texts := by
  rw [List.map_map]
  exact List.map_id'' (fun _ => String.ofList_toList) texts

theorem argument?_eq_none_iff {settings : Settings} :
    settings.argument? = none ↔ settings.features = [] := by
  rw [argument?, ← List.isEmpty_iff]
  split <;> simp_all

theorem toList_joined (texts : List String) :
    (" ".intercalate texts).toList = [' '].intercalate (texts.map String.toList) :=
  String.toList_intercalate

/-- The features of settings are the words of their argument. -/
theorem wordsOf_argument (toolkit : Option String) (extra : String) :
    wordsOf ((of toolkit extra).argument?.getD "") = (of toolkit extra).features := by
  have hwords : wordsOf (" ".intercalate (of toolkit extra).features) =
      (of toolkit extra).features := by
    rw [wordsOf, toList_joined, Text.words_intercalate, map_ofList_toList]
    intro word hword
    obtain ⟨feature, hfeature, rfl⟩ := List.mem_map.1 hword
    exact plain_of_mem_features hfeature
  rw [argument?]
  split
  · rename_i hnone
    rw [List.isEmpty_iff.1 hnone]
    rfl
  · exact hwords

/-- Settings made from the argument of some settings are these settings again. -/
theorem of_argument (toolkit : Option String) (extra : String) :
    of toolkit ((of toolkit extra).argument?.getD "") = of toolkit extra := by
  have hnodup := nodup_features toolkit extra
  rw [of_eq toolkit ((of toolkit extra).argument?.getD ""), wordsOf_argument]
  rw [features_of] at hnodup ⊢
  rw [foldl_addFeature_self hnodup, of_eq, foldl_addFeature]

/-- **The features of a build.** None is listed twice, and they are the words that are asked for and
what the toolkit brings. That comes first, and the others follow in the order in which they occur
first. Settings made from the argument of some settings are these settings, and the pieces of the
argument between spaces are the features. -/
theorem features_listed (toolkit : Option String) (extra : String) :
    let settings := of toolkit extra
    (settings.features.Nodup ∧ ∀ feature, feature ∈ settings.features ↔
        (feature = "cuda" ∧ toolkit.isSome) ∨ Text.IsWord feature.toList extra.toList) ∧
      (∃ others, settings.features = (if toolkit.isSome then ["cuda"] else []) ++ others ∧
        others.Pairwise fun a b => (wordsOf extra).idxOf a < (wordsOf extra).idxOf b) ∧
      of toolkit (settings.argument?.getD "") = settings ∧
      (settings.argument? = none ↔ settings.features = []) ∧
      ∀ argument ∈ settings.argument?,
        (Text.split (· = ' ') argument.toList).map String.ofList = settings.features := by
  intro settings
  refine ⟨⟨nodup_features toolkit extra, fun feature => mem_features⟩,
    ⟨_, features_of toolkit extra, pairwise_additions _ _⟩, of_argument toolkit extra,
    argument?_eq_none_iff, fun argument hsome => ?_⟩
  have hne : settings.features ≠ [] := fun hnone => by
    rw [argument?_eq_none_iff.2 hnone] at hsome
    cases hsome
  obtain rfl : " ".intercalate settings.features = argument := by
    rw [argument?, if_neg (by simpa using hne)] at hsome
    exact Option.some.inj hsome
  have hfree : ∀ piece ∈ settings.features.map String.toList, ∀ c ∈ piece,
      decide (c = ' ') = false := by
    intro piece hpiece c hc
    obtain ⟨feature, hfeature, rfl⟩ := List.mem_map.1 hpiece
    -- a space is a blank, and a feature has none
    have hplain := (plain_of_mem_features hfeature).2 c hc
    refine decide_eq_false ?_
    rintro rfl
    exact absurd hplain (by decide)
  rw [toList_joined, Text.split_intercalate (by simpa using hne) hfree (by decide),
    map_ofList_toList]

example : (of (some "/opt/cuda") "sqlite-report cuda").features = ["cuda", "sqlite-report"] := by
  decide +kernel

end SpectralBench.Workspace.Settings
