import SpectralBench.CommandLine.Sources
import Mathlib.Logic.Basic
import Mathlib.Tactic.MkIffOfInductiveProp

/-!
# What the sources come to

A campaign is put together from a base, a list of extents and the options. `Options.BaseLoaded` and
`Options.ListLoaded` say how the first two can load, `Options.Merges` what each field of the
campaign comes from, and `Campaign.Runnable` what is asked of the result. Nothing is asked of a
source: what is missing in one of them can come from another, and only the limits cannot be repaired
by an option.

Main statements:

* `Campaign.check_eq_ok_iff_runnable` — what passes the check.
* `Options.baseLoaded_iff`, `Options.listLoaded_iff` — how the sources load.
* `Options.campaign_merges` — what is accepted, with which fields, and what is reported otherwise.
-/

namespace SpectralBench

/-! ## Campaigns that can be run -/

/-- A campaign that has something to run and limits that mean something. -/
@[mk_iff]
structure Campaign.Runnable (c : Campaign) : Prop where
  extents : c.extents ≠ []
  kinds : c.kinds ≠ []
  placements : c.placements ≠ []
  precisions : c.precisions ≠ []
  runs : c.runs ≠ 0
  limits : c.limits.validate = .ok ()

theorem Campaign.check_eq_ok_iff_runnable {c : Campaign} : c.check = .ok () ↔ c.Runnable := by
  rw [runnable_iff, check]
  split
  · simp_all
  · split
    · rename_i hempty
      simp only [Bool.or_eq_true, List.isEmpty_iff] at hempty
      simp only [reduceCtorEq, false_iff]
      rintro ⟨-, hkinds, hplacements, hprecisions, -⟩
      exact hempty.elim (fun h => h.elim hkinds hplacements) hprecisions
    · split <;> simp_all

/-- What passes has at least one configuration. -/
theorem Campaign.Runnable.configurations_ne_nil {c : Campaign} (h : c.Runnable) :
    c.configurations ≠ [] := by
  have hpositive := Nat.mul_pos (List.length_pos_iff.2 h.kinds)
    (Nat.mul_pos (List.length_pos_iff.2 h.placements)
      (Nat.mul_pos (List.length_pos_iff.2 h.precisions) (List.length_pos_iff.2 h.extents)))
  rw [← c.length_configurations] at hpositive
  exact List.length_pos_iff.1 hpositive

/-! ## Actions one after the other -/

section Actions

variable {ε σ α β : Type} {action : ExceptT ε (StateM σ) α} {next : α → ExceptT ε (StateM σ) β}
  {before after : σ}

theorem run_bind (action : ExceptT ε (StateM σ) α) (next : α → ExceptT ε (StateM σ) β)
    (before : σ) :
    (action >>= next).run.run before =
      match action.run.run before with
      | (.ok value, middle) => (next value).run.run middle
      | (.error failure, middle) => (.error failure, middle) := by
  have hrun : (action >>= next).run.run before =
      (ExceptT.bindCont next (action.run.run before).1).run (action.run.run before).2 := rfl
  rw [hrun]
  rcases action.run.run before with ⟨_ | _, _⟩ <;> rfl

theorem run_bind_eq_ok_iff {result : β} :
    (action >>= next).run.run before = (.ok result, after) ↔
      ∃ value middle, action.run.run before = (.ok value, middle) ∧
        (next value).run.run middle = (.ok result, after) := by
  rw [run_bind]
  obtain ⟨outcome, middle⟩ := action.run.run before
  cases outcome with
  | error failure =>
    constructor
    · rintro ⟨⟩
    · rintro ⟨_, _, ⟨⟩, _⟩
  | ok value => exact ⟨fun h => ⟨value, middle, rfl, h⟩, by rintro ⟨_, _, ⟨⟩, h⟩; exact h⟩

theorem run_bind_eq_error_iff {failure : ε} :
    (action >>= next).run.run before = (.error failure, after) ↔
      action.run.run before = (.error failure, after) ∨
        ∃ value middle, action.run.run before = (.ok value, middle) ∧
          (next value).run.run middle = (.error failure, after) := by
  rw [run_bind]
  obtain ⟨outcome, middle⟩ := action.run.run before
  cases outcome with
  | error other =>
    constructor
    · rintro ⟨⟩
      exact .inl rfl
    · rintro (⟨⟨⟩⟩ | ⟨_, _, ⟨⟩, _⟩)
      rfl
  | ok value =>
    refine ⟨fun h => .inr ⟨value, middle, rfl, h⟩, ?_⟩
    rintro (⟨⟨⟩⟩ | ⟨_, _, ⟨⟩, h⟩)
    exact h

end Actions

namespace CommandLine.Options

variable {σ : Type} {options : Options} {files : Files (StateM σ)} {lookup : String → Option String}
  {world after : σ}

/-! ## How the sources load -/

/-- How the base can load: from a document if one is given, and from variables otherwise. -/
inductive BaseLoaded (options : Options) (library : Json.Library) (files : Files (StateM σ))
    (lookup : String → Option String) (world : σ) : Except Setback Campaign → σ → Prop where
  | unread {path reason : String} {after : σ} : options.config = some path →
      (files.read path).run.run world = (.error reason, after) →
      BaseLoaded options library files lookup world (.error (.reading path reason)) after
  | unreadable {path text : String} {failure : Failure} {after : σ} : options.config = some path →
      (files.read path).run.run world = (.ok text, after) →
      Campaign.ofDocument library text = .error failure →
      BaseLoaded options library files lookup world (.error (.reading path failure.message)) after
  | document {path text : String} {base : Campaign} {after : σ} : options.config = some path →
      (files.read path).run.run world = (.ok text, after) →
      Campaign.ofDocument library text = .ok base →
      BaseLoaded options library files lookup world (.ok base) after
  -- without a document no file is touched
  | misled {failure : Failure} : options.config = none →
      Limits.ofVariables lookup = .error failure →
      BaseLoaded options library files lookup world (.error (.failed failure)) world
  | standard {limits : Limits} : options.config = none → Limits.ofVariables lookup = .ok limits →
      BaseLoaded options library files lookup world (.ok { Campaign.standard with limits }) world

/-- How the list of extents can load. -/
inductive ListLoaded (options : Options) (files : Files (StateM σ)) (world : σ) :
    Except Setback (List Extent) → σ → Prop where
  | unread {path reason : String} {after : σ} : options.extentsFile = some path →
      (files.read path).run.run world = (.error reason, after) →
      ListLoaded options files world (.error (.reading path reason)) after
  | unreadable {path text : String} {fault : Extent.Listing.Fault} {after : σ} :
      options.extentsFile = some path → (files.read path).run.run world = (.ok text, after) →
      Extent.Listing.read text = .error fault →
      ListLoaded options files world (.error (.listing path fault)) after
  | listed {path text : String} {extents : List Extent} {after : σ} :
      options.extentsFile = some path → (files.read path).run.run world = (.ok text, after) →
      Extent.Listing.read text = .ok extents → ListLoaded options files world (.ok extents) after
  | unlisted : options.extentsFile = none → ListLoaded options files world (.ok []) world

section Files

theorem run_textOf (files : Files (StateM σ)) (path : String) (world : σ) :
    (textOf files path).run.run world =
      (((files.read path).run.run world).1.mapError (.reading path),
        ((files.read path).run.run world).2) :=
  rfl

variable {α : Type} {understood : String → Except Setback α} {path : String}

/-- A file that is read, and is then understood or not. -/
theorem run_textOf_bind {text : String}
    (hread : (files.read path).run.run world = (.ok text, after)) :
    (textOf files path >>= fun text => ExceptT.mk (pure (understood text))).run.run world =
      (understood text, after) := by
  rw [run_bind, run_textOf, hread]
  rfl

theorem run_textOf_bind_of_unread {reason : String}
    (hread : (files.read path).run.run world = (.error reason, after)) :
    (textOf files path >>= fun text => ExceptT.mk (pure (understood text))).run.run world =
      (.error (.reading path reason), after) := by
  rw [run_bind, run_textOf, hread]
  rfl

end Files

theorem BaseLoaded.run_eq {result : Except Setback Campaign}
    (h : BaseLoaded options library files lookup world result after) :
    (options.base library files lookup).run.run world = (result, after) := by
  cases h with
  | unread hconfig hread =>
    simp only [base, hconfig]
    rw [run_textOf_bind_of_unread hread]
  | unreadable hconfig hread hparsed =>
    simp only [base, hconfig]
    rw [run_textOf_bind hread, hparsed]
    rfl
  | document hconfig hread hparsed =>
    simp only [base, hconfig]
    rw [run_textOf_bind hread, hparsed]
    rfl
  | misled hconfig hlimits =>
    simp only [base, hconfig, hlimits]
    rfl
  | standard hconfig hlimits =>
    simp only [base, hconfig, hlimits]
    rfl

/-- However the surroundings answer, the base loads in one of these ways. -/
theorem exists_baseLoaded (options : Options) (library : Json.Library) (files : Files (StateM σ))
    (lookup : String → Option String) (world : σ) :
    ∃ result after, BaseLoaded options library files lookup world result after := by
  cases hconfig : options.config with
  | none =>
    cases hlimits : Limits.ofVariables lookup with
    | error failure => exact ⟨_, _, .misled hconfig hlimits⟩
    | ok limits => exact ⟨_, _, .standard hconfig hlimits⟩
  | some path =>
    rcases hread : (files.read path).run.run world with ⟨reason | text, middle⟩
    · exact ⟨_, _, .unread hconfig hread⟩
    · cases hparsed : Campaign.ofDocument library text with
      | error failure => exact ⟨_, _, .unreadable hconfig hread hparsed⟩
      | ok base => exact ⟨_, _, .document hconfig hread hparsed⟩

theorem baseLoaded_iff {result : Except Setback Campaign} :
    BaseLoaded options library files lookup world result after ↔
      (options.base library files lookup).run.run world = (result, after) := by
  refine ⟨BaseLoaded.run_eq, fun h => ?_⟩
  -- it loads in some way, and that one has the result
  obtain ⟨_, _, hloaded⟩ := exists_baseLoaded options library files lookup world
  rw [hloaded.run_eq] at h
  cases h
  exact hloaded

theorem ListLoaded.run_eq {result : Except Setback (List Extent)}
    (h : ListLoaded options files world result after) :
    (options.listed files).run.run world = (result, after) := by
  cases h with
  | unread hfile hread =>
    simp only [Options.listed, hfile]
    rw [run_textOf_bind_of_unread hread]
  | unreadable hfile hread hparsed =>
    simp only [Options.listed, hfile]
    rw [run_textOf_bind hread, hparsed]
    rfl
  | listed hfile hread hparsed =>
    simp only [Options.listed, hfile]
    rw [run_textOf_bind hread, hparsed]
    rfl
  | unlisted hfile =>
    simp only [Options.listed, hfile]
    rfl

theorem exists_listLoaded (options : Options) (files : Files (StateM σ)) (world : σ) :
    ∃ result after, ListLoaded options files world result after := by
  cases hfile : options.extentsFile with
  | none => exact ⟨_, _, .unlisted hfile⟩
  | some path =>
    rcases hread : (files.read path).run.run world with ⟨reason | text, middle⟩
    · exact ⟨_, _, .unread hfile hread⟩
    · cases hparsed : Extent.Listing.read text with
      | error fault => exact ⟨_, _, .unreadable hfile hread hparsed⟩
      | ok extents => exact ⟨_, _, .listed hfile hread hparsed⟩

theorem listLoaded_iff {result : Except Setback (List Extent)} :
    ListLoaded options files world result after ↔
      (options.listed files).run.run world = (result, after) := by
  refine ⟨ListLoaded.run_eq, fun h => ?_⟩
  obtain ⟨_, _, hloaded⟩ := exists_listLoaded options files world
  rw [hloaded.run_eq] at h
  cases h
  exact hloaded

/-! ## How they are merged -/

/-- The campaign that a base, a list of extents and the options come to, field by field. -/
structure Merges (options : Options) (base : Campaign) (listed : List Extent) (c : Campaign) :
    Prop where
  extents : c.extents = base.extents ++ listed ++ options.extents
  kinds : c.kinds = if options.kinds = [] then base.kinds else options.kinds
  placements :
    c.placements = if options.placements = [] then base.placements else options.placements
  precisions :
    c.precisions = if options.precisions = [] then base.precisions else options.precisions
  runs : c.runs = options.runs.getD base.runs
  warmups : c.warmups = options.warmups.getD base.warmups
  validate : c.validate = true ↔ base.validate = true ∧ options.noValidate = false
  seed : c.seed = options.seed.getD base.seed
  limits : c.limits = base.limits
  tolerance : c.tolerance = base.tolerance

theorem preferred_eq {α : Type} [DecidableEq α] (list base : List α) :
    preferred list base = if list = [] then base else list := by
  cases list <;> rfl

/-- The fields determine the campaign. -/
theorem merges_iff {base c : Campaign} {listed : List Extent} :
    options.Merges base listed c ↔ c = options.amend base listed := by
  constructor
  · rintro ⟨hextents, hkinds, hplacements, hprecisions, hruns, hwarmups, hvalidate, hseed, hlimits,
      htolerance⟩
    have hjudged : c.validate = (base.validate && !options.noValidate) := by
      rw [Bool.eq_iff_iff, hvalidate]
      simp
    cases c
    simp_all only [amend, preferred_eq]
  · rintro rfl
    constructor <;> simp [amend, preferred_eq]

theorem accept_eq_ok_iff {merged c : Campaign} :
    accept merged = .ok c ↔ c = merged ∧ c.Runnable := by
  rw [← Campaign.check_eq_ok_iff_runnable, accept]
  split
  · rename_i hempty
    constructor
    · rintro ⟨⟩
    -- without extents the check would find fault as well, in other words
    · rintro ⟨rfl, hcheck⟩
      rw [Campaign.check, if_pos hempty] at hcheck
      cases hcheck
  · constructor
    · intro h
      cases hcheck : merged.check with
      | error failure =>
        rw [hcheck] at h
        cases h
      | ok =>
        rw [hcheck] at h
        cases h
        exact ⟨rfl, hcheck⟩
    · rintro ⟨rfl, hcheck⟩
      rw [hcheck]
      rfl

theorem accept_eq_error_iff {merged : Campaign} {setback : Setback} :
    accept merged = .error setback ↔
      (merged.extents = [] ∧ setback = .noExtents) ∨
        merged.extents ≠ [] ∧ ∃ failure,
          merged.check = .error failure ∧ setback = .failed failure := by
  rw [accept]
  split
  · rename_i hempty
    rw [List.isEmpty_iff] at hempty
    simp [hempty, eq_comm]
  · rename_i hextents
    rw [List.isEmpty_iff] at hextents
    cases hcheck : merged.check with
    | error failure =>
      change Except.error (.failed failure) = Except.error setback ↔ _
      simp [hextents, eq_comm]
    | ok =>
      change Except.ok merged = Except.error setback ↔ _
      simp [hextents]

/-- What has to be in the sources so that together they can be run. -/
theorem Merges.runnable_iff {base c : Campaign} {listed : List Extent}
    (h : options.Merges base listed c) :
    c.Runnable ↔
      (base.extents ≠ [] ∨ listed ≠ [] ∨ options.extents ≠ []) ∧
        (options.kinds ≠ [] ∨ base.kinds ≠ []) ∧
        (options.placements ≠ [] ∨ base.placements ≠ []) ∧
        (options.precisions ≠ [] ∨ base.precisions ≠ []) ∧
        options.runs.getD base.runs ≠ 0 ∧ base.limits.validate = .ok () := by
  have hpreferred {α : Type} [DecidableEq α] (list base : List α) :
      (if list = [] then base else list) ≠ [] ↔ list ≠ [] ∨ base ≠ [] := by
    split <;> simp_all
  rw [Campaign.runnable_iff, h.extents, h.kinds, h.placements, h.precisions, h.runs, h.limits,
    hpreferred, hpreferred, hpreferred]
  simp only [ne_eq, List.append_eq_nil_iff, not_and_or, or_assoc]

/-! ## The campaign -/

theorem run_accept_iff {merged : Campaign} {result : Except Setback Campaign} :
    (ExceptT.mk (pure (accept merged)) : ExceptT Setback (StateM σ) Campaign).run.run world =
      (result, after) ↔ accept merged = result ∧ world = after :=
  Prod.mk.injEq .. ▸ Iff.rfl

theorem campaign_eq_ok_iff {c : Campaign} :
    (options.campaign library files lookup).run.run world = (.ok c, after) ↔
      ∃ base middle listed, BaseLoaded options library files lookup world (.ok base) middle ∧
        ListLoaded options files middle (.ok listed) after ∧ options.Merges base listed c ∧
        c.Runnable := by
  rw [campaign, run_bind_eq_ok_iff]
  constructor
  · rintro ⟨base, middle, hbase, hrest⟩
    obtain ⟨listed, _, hlisted, hmerged⟩ := run_bind_eq_ok_iff.1 hrest
    obtain ⟨haccept, rfl⟩ := run_accept_iff.1 hmerged
    obtain ⟨heq, hrunnable⟩ := accept_eq_ok_iff.1 haccept
    exact ⟨base, middle, listed, baseLoaded_iff.2 hbase, listLoaded_iff.2 hlisted,
      merges_iff.2 heq, hrunnable⟩
  · rintro ⟨base, middle, listed, hbase, hlisted, hmerges, hrunnable⟩
    refine ⟨base, middle, hbase.run_eq, run_bind_eq_ok_iff.2 ⟨listed, after, hlisted.run_eq, ?_⟩⟩
    exact run_accept_iff.2 ⟨accept_eq_ok_iff.2 ⟨merges_iff.1 hmerges, hrunnable⟩, rfl⟩

theorem campaign_eq_error_iff {setback : Setback} :
    (options.campaign library files lookup).run.run world = (.error setback, after) ↔
      BaseLoaded options library files lookup world (.error setback) after ∨
        ∃ base middle, BaseLoaded options library files lookup world (.ok base) middle ∧
          (ListLoaded options files middle (.error setback) after ∨
            ∃ listed merged, ListLoaded options files middle (.ok listed) after ∧
              options.Merges base listed merged ∧
              (merged.extents = [] ∧ setback = .noExtents ∨
                merged.extents ≠ [] ∧ ∃ failure,
                  merged.check = .error failure ∧ setback = .failed failure)) := by
  rw [campaign, run_bind_eq_error_iff, baseLoaded_iff]
  refine or_congr_right (exists_congr fun base => exists_congr fun middle => ?_)
  rw [baseLoaded_iff, run_bind_eq_error_iff, listLoaded_iff]
  refine and_congr_right fun _ => or_congr_right ?_
  constructor
  · rintro ⟨listed, _, hlisted, hmerged⟩
    obtain ⟨haccept, rfl⟩ := run_accept_iff.1 hmerged
    exact ⟨listed, _, listLoaded_iff.2 hlisted, merges_iff.2 rfl, accept_eq_error_iff.1 haccept⟩
  · rintro ⟨listed, merged, hlisted, hmerges, hfault⟩
    obtain rfl := merges_iff.1 hmerges
    exact ⟨listed, after, hlisted.run_eq, run_accept_iff.2 ⟨accept_eq_error_iff.2 hfault, rfl⟩⟩

/-- The variables are looked at only where no document is given. -/
theorem campaign_eq_of_isSome (hconfig : options.config.isSome) (other : String → Option String) :
    options.campaign library files lookup = options.campaign library files other := by
  obtain ⟨path, hpath⟩ := Option.isSome_iff_exists.1 hconfig
  simp only [campaign, base, hpath]

/-- **The campaign of the options.**

* It is given just if the base and then the list of extents load and what they and the options merge
  to can be run; and then it is what they merge to.
* Otherwise the first fault is reported: of the base, of the list, a missing extent, or what the
  check finds in the result.
* Sources that load are accepted just if each list has something in one of them, the number of runs
  that holds is not zero and the limits of the base mean something.
* What is given has a configuration to run, at least one run, and limits that mean something.
* Variables are not looked at if a document is given. -/
theorem campaign_merges (options : Options) (library : Json.Library) (files : Files (StateM σ))
    (lookup : String → Option String) (world : σ) :
    let outcome := (options.campaign library files lookup).run.run world
    (∀ c after, outcome = (.ok c, after) ↔
      ∃ base middle listed, BaseLoaded options library files lookup world (.ok base) middle ∧
        ListLoaded options files middle (.ok listed) after ∧ options.Merges base listed c ∧
        c.Runnable) ∧
    (∀ setback after, outcome = (.error setback, after) ↔
      BaseLoaded options library files lookup world (.error setback) after ∨
        ∃ base middle, BaseLoaded options library files lookup world (.ok base) middle ∧
          (ListLoaded options files middle (.error setback) after ∨
            ∃ listed merged, ListLoaded options files middle (.ok listed) after ∧
              options.Merges base listed merged ∧
              (merged.extents = [] ∧ setback = .noExtents ∨
                merged.extents ≠ [] ∧ ∃ failure,
                  merged.check = .error failure ∧ setback = .failed failure))) ∧
    (∀ base middle listed after, BaseLoaded options library files lookup world (.ok base) middle →
      ListLoaded options files middle (.ok listed) after →
        ((∃ c, outcome = (.ok c, after)) ↔
          (base.extents ≠ [] ∨ listed ≠ [] ∨ options.extents ≠ []) ∧
            (options.kinds ≠ [] ∨ base.kinds ≠ []) ∧
            (options.placements ≠ [] ∨ base.placements ≠ []) ∧
            (options.precisions ≠ [] ∨ base.precisions ≠ []) ∧
            options.runs.getD base.runs ≠ 0 ∧ base.limits.validate = .ok ())) ∧
    (∀ c after, outcome = (.ok c, after) →
      c.configurations ≠ [] ∧ 1 ≤ c.runs.toNat ∧ c.limits.validate = .ok ()) ∧
    (options.config.isSome → ∀ other,
      options.campaign library files lookup = options.campaign library files other) := by
  intro outcome
  refine ⟨fun c after => campaign_eq_ok_iff, fun setback after => campaign_eq_error_iff,
    fun base middle listed after hbase hlisted => ?_, fun c after hgiven => ?_,
    campaign_eq_of_isSome⟩
  · rw [← (merges_iff.2 rfl : options.Merges base listed _).runnable_iff]
    constructor
    · rintro ⟨c, hgiven⟩
      obtain ⟨base', middle', listed', hbase', hlisted', hmerges, hrunnable⟩ :=
        campaign_eq_ok_iff.1 hgiven
      -- the sources load in one way only
      cases hbase.run_eq.symm.trans hbase'.run_eq
      cases hlisted.run_eq.symm.trans hlisted'.run_eq
      rw [← merges_iff.1 hmerges]
      exact hrunnable
    · intro hrunnable
      exact ⟨_, campaign_eq_ok_iff.2 ⟨base, middle, listed, hbase, hlisted, merges_iff.2 rfl,
        hrunnable⟩⟩
  · obtain ⟨_, _, _, -, -, -, hrunnable⟩ := campaign_eq_ok_iff.1 hgiven
    refine ⟨hrunnable.configurations_ne_nil, ?_, hrunnable.limits⟩
    refine Nat.pos_of_ne_zero fun hzero => hrunnable.runs ?_
    exact UInt64.toNat_inj.1 hzero

end CommandLine.Options

end SpectralBench
