import SpectralBench.CommandLine.Program
import SpectralBench.Proofs.Campaign.Stream
import SpectralBench.Proofs.Geometry.Rows
import SpectralBench.Proofs.Journal
import Mathlib.Data.List.Count
import Mathlib.Data.List.Flatten
import Mathlib.Data.List.Perm.Basic
import Mathlib.Tactic.Ring

/-!
# The grid

The grid is a product of four lists, written as lists of blocks: all blocks of a list have one size,
so the place of an entry is read off the places of its parts, the kind first and the extent last. An
extent that is appended gets one entry in every innermost block and moves none past another; a kind
that is appended gets a block of its own, behind all others.

A run walks the grid. What it leaves between its beginning and its end is one visit after the other,
each of which starts with the engine of its configuration and makes engines for no other. Either the
visits are those of the whole grid, or the last of them ended the run and the others are those of
the configurations before it.

Main statements:

* `Campaign.getElem?_configurations` — the entry at a place.
* `Bench.GridRan.visits` — a walk along a list of configurations visits them in order.
* `Campaign.configurations_in_order` — the grid is the product in order, and that is what is run and
  what is listed.
-/

namespace SpectralBench

/-! ## Blocks of one size -/

section Blocks

variable {α β : Type} {f : α → List β} {size : Nat}

theorem getElem?_flatMap_block (h : ∀ a, (f a).length = size) (list : List α) (i : Nat) {j : Nat}
    (hj : j < size) : (list.flatMap f)[i * size + j]? = list[i]?.bind fun a => (f a)[j]? := by
  induction list generalizing i with
  | nil => rfl
  | cons a rest ih =>
    rw [List.flatMap_cons]
    cases i with
    | zero =>
      rw [Nat.zero_mul, Nat.zero_add, List.getElem?_append_left (by rw [h]; exact hj)]
      rfl
    | succ i =>
      have hplace : (i + 1) * size + j = (f a).length + (i * size + j) := by rw [h]; ring
      rw [hplace, List.getElem?_append_right (Nat.le_add_right ..), Nat.add_sub_cancel_left, ih,
        List.getElem?_cons_succ]

/-- What occurs in the blocks of one element alone, if it occurs at all, occurs as often as that
element demands. -/
theorem count_flatMap_block [DecidableEq α] [DecidableEq β] {guard : Prop} [Decidable guard] {a : α}
    {b : β} {count : Nat}
    (h : ∀ other, (f other).count b = if guard ∧ other = a then count else 0) (list : List α) :
    (list.flatMap f).count b = if guard then list.count a * count else 0 := by
  induction list with
  | nil => simp
  | cons first rest ih =>
    rw [List.flatMap_cons, List.count_append, h, ih, List.count_cons]
    by_cases hguard : guard
    · by_cases heq : first = a
      · simp only [hguard, heq, and_self, if_true, beq_self_eq_true]
        ring
      · simp [hguard, heq]
    · simp [hguard]

end Blocks

/-! ## The product -/

namespace Campaign

variable (c : Campaign)

/-- The part of the grid that has a kind, a placement and a precision. -/
def row (kind : Kind) (placement : Placement) (precision : Precision) : List Configuration :=
  c.extents.map fun extent => ⟨kind, placement, precision, extent⟩

/-- The part of the grid that has a kind and a placement. -/
def plane (kind : Kind) (placement : Placement) : List Configuration :=
  c.precisions.flatMap (c.row kind placement)

/-- The part of the grid that has a kind. -/
def block (kind : Kind) : List Configuration :=
  c.placements.flatMap (c.plane kind)

theorem configurations_eq : c.configurations = c.kinds.flatMap c.block :=
  rfl

theorem length_row (kind : Kind) (placement : Placement) (precision : Precision) :
    (c.row kind placement precision).length = c.extents.length :=
  List.length_map _

theorem length_plane (kind : Kind) (placement : Placement) :
    (c.plane kind placement).length = c.precisions.length * c.extents.length := by
  simp [plane, List.length_flatMap, length_row, List.map_const']

theorem length_block (kind : Kind) :
    (c.block kind).length = c.placements.length * (c.precisions.length * c.extents.length) := by
  simp [block, List.length_flatMap, length_plane, List.map_const']

/-- The entry at a place, from the outermost list to the innermost. -/
theorem getElem?_configurations (k : Nat) {p r e : Nat} (hp : p < c.placements.length)
    (hr : r < c.precisions.length) (he : e < c.extents.length) :
    c.configurations[((k * c.placements.length + p) * c.precisions.length + r) *
        c.extents.length + e]? =
      c.kinds[k]?.map fun kind => ⟨kind, c.placements[p], c.precisions[r], c.extents[e]⟩ := by
  have hrow : r * c.extents.length + e < c.precisions.length * c.extents.length :=
    Rows.place_lt hr he
  have hplane : p * (c.precisions.length * c.extents.length) + (r * c.extents.length + e) <
      c.placements.length * (c.precisions.length * c.extents.length) := Rows.place_lt hp hrow
  -- the place, with what belongs to each block put together
  have hplace : ((k * c.placements.length + p) * c.precisions.length + r) * c.extents.length + e =
      k * (c.placements.length * (c.precisions.length * c.extents.length)) +
        (p * (c.precisions.length * c.extents.length) + (r * c.extents.length + e)) := by ring
  rw [hplace, configurations_eq, getElem?_flatMap_block c.length_block _ _ hplane]
  have hentry (kind : Kind) :
      (c.block kind)[p * (c.precisions.length * c.extents.length) + (r * c.extents.length + e)]? =
        some ⟨kind, c.placements[p], c.precisions[r], c.extents[e]⟩ := by
    rw [block, getElem?_flatMap_block (c.length_plane kind) _ _ hrow,
      List.getElem?_eq_getElem hp, Option.bind_some, plane,
      getElem?_flatMap_block (c.length_row kind _) _ _ he, List.getElem?_eq_getElem hr,
      Option.bind_some, row, List.getElem?_map, List.getElem?_eq_getElem he, Option.map_some]
  cases c.kinds[k]? with
  | none => rfl
  | some kind => exact hentry kind

/-! ## How often -/

theorem count_row (x : Configuration) (kind : Kind) (placement : Placement)
    (precision : Precision) :
    (c.row kind placement precision).count x =
      if (kind = x.kind ∧ placement = x.placement) ∧ precision = x.precision then
        c.extents.count x.extent else 0 := by
  split
  · rename_i h
    obtain ⟨⟨rfl, rfl⟩, rfl⟩ := h
    have hinjective : Function.Injective fun extent : Extent =>
        (⟨x.kind, x.placement, x.precision, extent⟩ : Configuration) := fun _ _ h =>
      congrArg Configuration.extent h
    exact List.count_map_of_injective _ _ hinjective x.extent
  · rename_i h
    refine List.count_eq_zero.2 fun hmem => h ?_
    obtain ⟨extent, -, rfl⟩ := List.mem_map.1 hmem
    exact ⟨⟨rfl, rfl⟩, rfl⟩

/-- Every combination occurs as often as its parts demand. -/
theorem count_configurations (x : Configuration) :
    c.configurations.count x =
      c.kinds.count x.kind * (c.placements.count x.placement *
        (c.precisions.count x.precision * c.extents.count x.extent)) := by
  have hplane (kind : Kind) (placement : Placement) := count_flatMap_block
    (fun precision => c.count_row x kind placement precision) c.precisions
  have hblock (kind : Kind) := count_flatMap_block (hplane kind) c.placements
  have hall (kind : Kind) : (c.block kind).count x =
      if True ∧ kind = x.kind then c.placements.count x.placement *
        (c.precisions.count x.precision * c.extents.count x.extent) else 0 := by
    simp only [true_and]
    exact hblock kind
  exact count_flatMap_block hall c.kinds

/-! ## Longer lists -/

/-- A kind that is appended is run behind everything else. -/
theorem configurations_append_kinds (kinds : List Kind) :
    ({ c with kinds := c.kinds ++ kinds } : Campaign).configurations =
      c.configurations ++ ({ c with kinds } : Campaign).configurations :=
  List.flatMap_append

/-- Extents that are appended move nothing past anything else. -/
theorem sublist_configurations (extents : List Extent) :
    c.configurations.Sublist
      ({ c with extents := c.extents ++ extents } : Campaign).configurations := by
  refine List.Sublist.flatMap_right _ fun kind _ => ?_
  refine List.Sublist.flatMap_right _ fun placement _ => ?_
  refine List.Sublist.flatMap_right _ fun precision _ => ?_
  exact (List.sublist_append_left c.extents extents).map _

/-- Extents that are appended add what a grid of them alone has. -/
theorem perm_configurations (extents : List Extent) :
    ({ c with extents := c.extents ++ extents } : Campaign).configurations.Perm
      (c.configurations ++ ({ c with extents } : Campaign).configurations) := by
  -- both sides have everything as often
  rw [List.perm_iff_count]
  intro x
  simp only [List.count_append, count_configurations]
  ring

end Campaign

/-! ## Walks along the grid -/

/-- Whether an event is an attempt to make an engine. -/
def Event.isCreation : Event → Bool
  | .created .. => true
  | _ => false

namespace Bench

variable {σ : Type} {bench : Bench (StateM σ)}

/-- What a configuration leaves when it is visited: it starts with its engine, and makes engines for
no other configuration. -/
structure Visit (bench : Bench (StateM σ)) (configuration : Configuration)
    (result : Except Failure Status) (events : List Event) : Prop where
  visited : ∃ number, bench.Visited configuration number result events
  head : ∃ outcome, events.head? = some (.created configuration outcome)
  concerns : ∀ event ∈ events, event.concerns configuration

/-- Configurations that are visited one after the other, each of which comes to a status. -/
def Toured (bench : Bench (StateM σ)) : List Configuration → List (List Event) → Prop :=
  List.Forall₂ fun configuration events => ∃ status, bench.Visit configuration (.ok status) events

/-- A tour that a failure of its last configuration ends. -/
def Halted (bench : Bench (StateM σ)) (configurations : List Configuration) (failure : Failure)
    (visits : List (List Event)) : Prop :=
  ∃ earlier configuration later before last,
    configurations = earlier ++ configuration :: later ∧ visits = before ++ [last] ∧
      bench.Toured earlier before ∧ bench.Visit configuration (.error failure) last

theorem Visited.visit {configuration : Configuration} {number : Nat}
    {result : Except Failure Status} {events : List Event}
    (h : bench.Visited configuration number result events) :
    bench.Visit configuration result events where
  visited := ⟨number, h⟩
  head := by cases h <;> exact ⟨_, rfl⟩
  concerns := h.concerns

/-- A walk along a list of configurations visits them in order, up to one that fails the run. -/
theorem GridRan.visits {configurations : List Configuration} {number : Nat} {tally : Tally}
    {result : Except Failure Tally} {events : List Event}
    (h : bench.GridRan configurations number tally result events) :
    ∃ visits, events = visits.flatten ∧
      match result with
      | .ok _ => bench.Toured configurations visits
      | .error failure => bench.Halted configurations failure visits := by
  induction h with
  | finished => exact ⟨[], rfl, .nil⟩
  | @stopped configuration rest _ _ failure visit hvisit =>
    refine ⟨[visit], (List.append_nil visit).symm, ?_⟩
    exact ⟨[], configuration, rest, [], visit, rfl, rfl, .nil, hvisit.visit⟩
  | @next configuration rest _ _ status result visit later hvisit _ ih =>
    obtain ⟨visits, rfl, hvisits⟩ := ih
    refine ⟨visit :: visits, rfl, ?_⟩
    cases result with
    | ok final => exact .cons ⟨status, hvisit.visit⟩ hvisits
    | error failure =>
      obtain ⟨earlier, halting, later, before, last, rfl, rfl, hbefore, hlast⟩ := hvisits
      exact ⟨configuration :: earlier, halting, later, visit :: before, last, rfl, rfl,
        .cons ⟨status, hvisit.visit⟩ hbefore, hlast⟩

/-- How a run goes along the grid. -/
inductive Walked (bench : Bench (StateM σ)) : Except Failure Tally → List Event → Prop where
  -- the grid is not reached: the campaign is refused, or the journal cannot be started
  | away {failure : Failure} {events : List Event} :
      (∀ event ∈ events, event.isCreation = false) →
      (bench.campaign.check = .error failure ∨
        ∃ header, .started header (.error failure) ∈ events) →
      Walked bench (.error failure) events
  | halted {failure : Failure} {opening : List Event} {visits : List (List Event)} :
      (∀ event ∈ opening, event.isCreation = false) →
      bench.Halted bench.campaign.configurations failure visits →
      Walked bench (.error failure) (opening ++ visits.flatten)
  | toured {outcome : Except Failure Unit} {tally : Tally} {opening : List Event}
      {visits : List (List Event)} : (∀ event ∈ opening, event.isCreation = false) →
      bench.Toured bench.campaign.configurations visits →
      Walked bench (outcome.map fun _ => tally) (opening ++ (visits.flatten ++ [.finished outcome]))

theorem opening_not_creation (capabilities : Capabilities) (started : String)
    (outcome : Except Failure Unit) :
    ∀ event ∈ bench.opening capabilities started outcome, event.isCreation = false :=
  List.forall_mem_cons.2 ⟨rfl, List.forall_mem_singleton.2 rfl⟩

theorem Ran.walked {result : Except Failure Tally} {events : List Event}
    (h : bench.Ran result events) : bench.Walked result events := by
  cases h with
  | misconfigured hcheck => exact .away (List.forall_mem_nil _) (.inl hcheck)
  | unstarted capabilities started refusal =>
    exact .away (opening_not_creation capabilities started (.error refusal))
      (.inr ⟨_, List.mem_cons_of_mem _ List.mem_cons_self⟩)
  | stopped capabilities started _ hgrid =>
    obtain ⟨visits, rfl, hhalted⟩ := hgrid.visits
    exact .halted (opening_not_creation capabilities started (.ok ())) hhalted
  | finished capabilities started outcome _ hgrid =>
    obtain ⟨visits, rfl, htoured⟩ := hgrid.visits
    exact .toured (opening_not_creation capabilities started (.ok ())) htoured

end Bench

/-! ## What is listed -/

theorem CommandLine.Surroundings.printLines_leave
    (around : CommandLine.Surroundings (StateM String)) (houtput : around.output = .appending)
    (lines : List String) (before : String) :
    (around.printLines lines).run.run before =
      (.ok (), before ++ String.join (lines.map (· ++ "\n"))) := by
  induction lines generalizing before with
  | nil =>
    rw [List.map_nil, String.join_nil, String.append_empty]
    rfl
  | cons line rest ih =>
    have hline : ((around.output.put (line ++ "\n")).adapt CommandLine.Setback.failed).run.run
        before = (.ok (), before ++ (line ++ "\n")) := by
      rw [houtput]
      rfl
    calc (around.printLines (line :: rest)).run.run before
        = (around.printLines rest).run.run (before ++ (line ++ "\n")) := run_bind_of_ok hline
      _ = (.ok (), before ++ (line ++ "\n") ++ String.join (rest.map (· ++ "\n"))) := ih _
      _ = (.ok (), before ++ String.join ((line :: rest).map (· ++ "\n"))) := by
          rw [List.map_cons, String.join_cons, String.append_assoc]

namespace Campaign

/-- **The grid in order.**

* It has one entry for each choice from the four lists, the kind outermost and the extent innermost,
  and every combination occurs as often as its parts do.
* One more extent adds a grid of its own and moves nothing past anything else, and one more kind
  adds a grid of its own at the end.
* A run visits the configurations in this order, all of them if none of them fails the run.
* A program that is asked to list them prints them in this order, and nothing else. -/
theorem configurations_in_order (c : Campaign) :
    (c.configurations.length =
        c.kinds.length * (c.placements.length * (c.precisions.length * c.extents.length)) ∧
      (∀ (k p r e : Nat) (_ : k < c.kinds.length) (_ : p < c.placements.length)
        (_ : r < c.precisions.length) (_ : e < c.extents.length),
        c.configurations[((k * c.placements.length + p) * c.precisions.length + r) *
            c.extents.length + e]? =
          some ⟨c.kinds[k], c.placements[p], c.precisions[r], c.extents[e]⟩) ∧
      ∀ x, c.configurations.count x =
        c.kinds.count x.kind * (c.placements.count x.placement *
          (c.precisions.count x.precision * c.extents.count x.extent))) ∧
    ((∀ extent, let longer : Campaign := { c with extents := c.extents ++ [extent] }
        c.configurations.Sublist longer.configurations ∧
          longer.configurations.Perm
            (c.configurations ++ ({ c with extents := [extent] } : Campaign).configurations)) ∧
      ∀ kind, ({ c with kinds := c.kinds ++ [kind] } : Campaign).configurations =
        c.configurations ++ ({ c with kinds := [kind] } : Campaign).configurations) ∧
    (∀ (σ : Type) (env : Environment (StateM σ)) (platform : Platform (StateM σ))
      (journal : Journal (StateM σ)) (world : σ),
      let bench : Bench (StateM σ) := ⟨env, platform, c, journal⟩
      let ended := ((bench.watched.run.run.run []).run world).1
      bench.Walked ended.1 ended.2) ∧
    ∀ (surroundings : CommandLine.Surroundings (StateM String)) (given : CommandLine.Options)
      (before printed : String),
      let around := { surroundings with output := .appending }
      let options := { given with listDevices := false, listBenchmarks := true }
      (options.campaign around.json around.files around.machine.lookup).run.run before =
          (.ok c, printed) →
        (CommandLine.run around options).run.run before =
          (.ok (), printed ++ String.join (c.configurations.map (·.text ++ "\n"))) := by
  refine ⟨⟨c.length_configurations, fun k p r e hk hp hr he => ?_, c.count_configurations⟩,
    ⟨fun extent => ⟨c.sublist_configurations [extent], c.perm_configurations [extent]⟩,
      fun kind => c.configurations_append_kinds [kind]⟩, ?_, ?_⟩
  · rw [c.getElem?_configurations k hp hr he, List.getElem?_eq_getElem hk, Option.map_some]
  · intro σ env platform journal world bench ended
    have hends : Ends bench.watched.run.run [] bench.Ran := Bench.ends_run
    obtain ⟨events, htrace, hran⟩ := hends world
    have hevents : ended.2 = events := htrace
    rw [hevents]
    exact hran.walked
  · intro surroundings given before printed around options hcampaign
    have hrun : (CommandLine.run around options).run.run before =
        (around.printLines (c.configurations.map (·.text))).run.run printed :=
      run_bind_of_ok hcampaign
    rw [hrun, around.printLines_leave rfl, List.map_map]
    rfl

end Campaign

end SpectralBench
