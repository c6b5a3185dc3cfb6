import SpectralBench.CommandLine.Program
import SpectralBench.Proofs.Campaign.Correspondence
import SpectralBench.Proofs.Campaign.Stream
import SpectralBench.Proofs.CommandLine.Sources

/-!
# The platform that a program brings up

A program is attended by noting what it does with the platform that it brings up: that it is there,
what is asked of it and of its engines, and how it is torn down. Nothing else is noted, and noting
changes nothing: what is asked goes to the platform as it is, and the answer comes back.

A campaign asks of its platform whatever it likes but never tears it down. The program does that,
once and behind everything else, if the report could be opened. It opens the report only after it
has brought the platform up; so a report that cannot be opened leaves the platform standing.

Main statements:

* `attending` — an attended action does what the action does, and notes nothing that is not allowed.
* `CommandLine.run_teardown` — when the platform is torn down, and what is reported.
* `CommandLine.run_leaves_platform` — a report of an unknown format.
-/

namespace SpectralBench

/-- Something that is done with a platform. -/
inductive Use where
  | broughtUp
  | asked
  | tornDown (outcome : Except Failure Unit)
  deriving DecidableEq

/-- What is noted of a platform that is brought up, or is not. -/
def Use.arrival {α : Type} : Except Failure α → List Use
  | .ok _ => [.broughtUp]
  | .error _ => []

/-- Actions in `m` with notes of what they did with a platform. -/
abbrev Attended (m : Type → Type) : Type → Type :=
  StateT (List Use) m

/-! ## Attended surroundings -/

section Attending

variable {m : Type → Type} [Monad m] {ε α : Type}

namespace Attended

/-- An action that has nothing to do with the platform. -/
def aside (action : ExceptT ε m α) : ExceptT ε (Attended m) α :=
  ExceptT.mk (StateT.lift action.run)

/-- Notes what was done, which may depend on how it ended. -/
def noting (uses : α → List Use) (action : m α) : Attended m α := do
  let answer ← StateT.lift action
  modify (· ++ uses answer)
  return answer

def asking (action : m α) : Attended m α :=
  noting (fun _ => [.asked]) action

end Attended

def Environment.attended (env : Environment m) : Environment (Attended m) where
  arithmetic := env.arithmetic
  toHalf := env.toHalf
  log entry := StateT.lift (env.log entry)
  clock := StateT.lift env.clock
  date := StateT.lift env.date

def Writer.attended (writer : Writer m) : Writer (Attended m) where
  write text := .aside (writer.write text)
  flush := .aside writer.flush

def Files.attended (files : Files m) : Files (Attended m) where
  read path := .aside (files.read path)
  create path := ExceptT.mk
    (Except.map (·.attended) <$> (StateT.lift (files.create path).run : Attended m _))
  present path := StateT.lift (files.present path)
  isDirectory path := StateT.lift (files.isDirectory path)

def Cell.attended (cell : Cell m α) : Cell (Attended m) α where
  get := StateT.lift cell.get
  set value := StateT.lift (cell.set value)

def Heap.attended (heap : Heap m) : Heap (Attended m) where
  fresh value := (·.attended) <$> (StateT.lift (heap.fresh value) : Attended m _)

def Machine.attended (machine : Machine m) : Machine (Attended m) where
  threads := machine.threads
  memory := .aside machine.memory
  lookup := machine.lookup

def CommandLine.Surroundings.attended (around : Surroundings m) : Surroundings (Attended m) where
  env := around.env.attended
  heap := around.heap.attended
  machine := around.machine.attended
  files := around.files.attended
  json := around.json
  maxBuffer := around.maxBuffer
  output := around.output.attended
  complain text := StateT.lift (around.complain text)

/-- An engine belongs to its platform, and so do all calls of it. -/
def Engine.attended (engine : Engine m) : Engine (Attended m) where
  geometry := engine.geometry
  stopwatch :=
    { name := engine.stopwatch.name
      start := fun step => ExceptT.mk (.asking (engine.stopwatch.start step).run)
      stop := fun mark => ExceptT.mk (.asking (engine.stopwatch.stop mark).run)
      elapsed := fun mark => ExceptT.mk (.asking (engine.stopwatch.elapsed mark).run) }
  planEstimate := ExceptT.mk (.asking engine.planEstimate.run)
  allocate := ExceptT.mk (.asking engine.allocate.run)
  planForward := ExceptT.mk (.asking engine.planForward.run)
  planInverse := ExceptT.mk (.asking engine.planInverse.run)
  upload host := ExceptT.mk (.asking (engine.upload host).run)
  executeForward := ExceptT.mk (.asking engine.executeForward.run)
  executeInverse := ExceptT.mk (.asking engine.executeInverse.run)
  download host := ExceptT.mk (.asking (engine.download host).run)
  destroy := ExceptT.mk (.asking engine.destroy.run)

def Platform.attended (platform : Platform m) : Platform (Attended m) where
  title := platform.title
  stopwatchName := platform.stopwatchName
  normalizes := platform.normalizes
  reuse := platform.reuse
  capabilities := .asking platform.capabilities
  hostBytes := .asking platform.hostBytes
  createEngine configuration := ExceptT.mk
    (Except.map (·.attended) <$> Attended.asking (platform.createEngine configuration).run)
  destroy := ExceptT.mk (.noting (fun outcome => [.tornDown outcome]) platform.destroy.run)

/-- Bringing a platform up, and attending it from then on. -/
def Platform.attendedUp (bringUp : ExceptT Failure m (Platform m)) :
    ExceptT Failure (Attended m) (Platform (Attended m)) :=
  ExceptT.mk (Except.map (·.attended) <$> Attended.noting Use.arrival bringUp.run)

end Attending

/-! ## Attending changes nothing -/

section Correspond

variable {σ α : Type} {allowed : Use → Prop}

/-- An attended action gives the result of the action and leaves its world, and all that it notes is
allowed. -/
def attending (σ : Type) (allowed : Use → Prop) :
    Correspondence (StateM σ) (Attended (StateM σ)) where
  Rel post left right := ∀ uses world,
    post (left.run world).1 ((right.run uses).run world).1.1 ∧
      ((right.run uses).run world).2 = (left.run world).2 ∧
      ∃ more, ((right.run uses).run world).1.2 = uses ++ more ∧ ∀ use ∈ more, allowed use
  pure h uses _ := ⟨h, rfl, [], (List.append_nil uses).symm, List.forall_mem_nil _⟩
  bind {_ _ _ _ _ _ left right next next'} h hnext := by
    intro uses world
    obtain ⟨hmid, hworld, more, hmore, hallowed⟩ := h uses world
    obtain ⟨hpost, hafter, later, hlater, hlaters⟩ :=
      hnext _ _ hmid ((right.run uses).run world).1.2 (left.run world).2
    -- the second action starts where the first one left world and notes
    have hright : ((right >>= next').run uses).run world =
        ((next' ((right.run uses).run world).1.1).run ((right.run uses).run world).1.2).run
          (left.run world).2 := by
      rw [← hworld]
      rfl
    rw [hright]
    refine ⟨hpost, hafter, more ++ later, ?_, List.forall_mem_append.2 ⟨hallowed, hlaters⟩⟩
    rw [hlater, hmore, List.append_assoc]

/-- What has nothing to do with the platform leaves no notes. -/
theorem attending_lift {post : α → α → Prop} (action : StateM σ α) (h : ∀ a, post a a) :
    (attending σ allowed).Rel post action (StateT.lift action) :=
  fun uses _ => ⟨h _, rfl, [], (List.append_nil uses).symm, List.forall_mem_nil _⟩

section Asked

variable (hasked : allowed .asked)

include hasked

theorem attending_asking {post : α → α → Prop} (action : StateM σ α) (h : ∀ a, post a a) :
    (attending σ allowed).Rel post action (Attended.asking action) :=
  fun _ _ => ⟨h _, rfl, [.asked], rfl, List.forall_mem_singleton.2 hasked⟩

theorem attending_engine (engine : Engine (StateM σ)) :
    engine.Corresponds (attending σ allowed) engine.attended where
  geometry_eq := rfl
  start _ := attending_asking hasked _ Both.refl
  stop _ := attending_asking hasked _ Both.refl
  elapsed _ := attending_asking hasked _ Both.refl
  planEstimate := attending_asking hasked _ Both.refl
  allocate := attending_asking hasked _ Both.refl
  planForward := attending_asking hasked _ Both.refl
  planInverse := attending_asking hasked _ Both.refl
  upload _ := attending_asking hasked _ Both.refl
  executeForward := attending_asking hasked _ Both.refl
  executeInverse := attending_asking hasked _ Both.refl
  download _ := attending_asking hasked _ Both.refl
  destroy := attending_asking hasked _ Both.refl

theorem attending_platform (platform : Platform (StateM σ)) :
    platform.Corresponds (attending σ allowed) platform.attended where
  title_eq := rfl
  stopwatchName_eq := rfl
  normalizes_eq := rfl
  reuse_eq := rfl
  capabilities := attending_asking hasked _ fun _ => rfl
  hostBytes := attending_asking hasked _ fun _ => rfl
  createEngine configuration := by
    intro uses world
    refine ⟨?_, rfl, [.asked], rfl, List.forall_mem_singleton.2 hasked⟩
    change Both _ ((platform.createEngine configuration).run.run world).1
      (((platform.createEngine configuration).run.run world).1.map _)
    cases ((platform.createEngine configuration).run.run world).1 with
    | ok engine => exact .ok (attending_engine hasked engine)
    | error failure => exact .error failure

end Asked

theorem attending_environment (env : Environment (StateM σ)) :
    env.Corresponds (attending σ allowed) env.attended where
  arithmetic_eq := rfl
  toHalf_eq := rfl
  log _ := attending_lift _ fun _ => rfl
  clock := attending_lift _ fun _ => rfl
  date := attending_lift _ fun _ => rfl

/-! ## Journals -/

theorem attending_put (writer : Writer (StateM σ)) (text : String) :
    (attending σ allowed).RelExcept Eq (writer.put text) (writer.attended.put text) :=
  attending_lift (writer.put text).run Both.refl

theorem attending_settle (writer : Writer (StateM σ)) :
    (attending σ allowed).RelExcept Eq writer.settle writer.attended.settle :=
  attending_lift writer.settle.run Both.refl

theorem attending_csv (writer : Writer (StateM σ)) :
    (Journal.Csv.journal writer).Corresponds (attending σ allowed)
      (Journal.Csv.journal writer.attended) where
  start _ := attending_put writer _
  record _ := attending_put writer _
  finish := attending_settle writer

theorem attending_putLine (library : Json.Library) (writer : Writer (StateM σ)) (value : Json.Value) :
    (attending σ allowed).RelExcept Eq (Journal.JsonLines.putLine library writer value)
      (Journal.JsonLines.putLine library writer.attended value) := by
  unfold Journal.JsonLines.putLine
  have hwritten : (attending σ allowed).RelExcept Eq
      ((writer.write (library.write value)).adapt .report)
      ((writer.attended.write (library.write value)).adapt .report) :=
    attending_lift ((writer.write (library.write value)).adapt Failure.report).run Both.refl
  exact Correspondence.bindExcept hwritten fun _ _ _ => attending_put writer _

theorem attending_jsonLines (library : Json.Library) (writer : Writer (StateM σ)) :
    (Journal.JsonLines.journal library writer).Corresponds (attending σ allowed)
      (Journal.JsonLines.journal library writer.attended) where
  start _ := attending_putLine library writer _
  record _ := attending_putLine library writer _
  finish := attending_settle writer

/-- A report is opened without a note, and none of its calls leaves one. -/
theorem attending_openFor (library : Json.Library) (files : Files (StateM σ))
    (standard : Writer (StateM σ)) (output : Option String) :
    (attending σ fun _ => False).RelExcept (Journal.Corresponds (attending σ allowed))
      (Journal.openFor library files standard output)
      (Journal.openFor library files.attended standard.attended output) := by
  cases output with
  | none => exact Correspondence.pureExcept (attending_csv standard)
  | some path =>
    unfold Journal.openFor
    refine Correspondence.bindExcept ((attending σ _).pure (Both.refl _)) ?_
    rintro format _ rfl
    have hcreate : (attending σ fun _ => False).RelExcept
        (fun writer writer' => writer' = writer.attended)
        ((files.create path).adapt .system) ((files.attended.create path).adapt .system) := by
      intro uses world
      refine ⟨?_, rfl, [], (List.append_nil uses).symm, List.forall_mem_nil _⟩
      change Both _ (((files.create path).run.run world).1.mapError .system)
        ((((files.create path).run.run world).1.map _).mapError .system)
      cases ((files.create path).run.run world).1 with
      | ok writer => exact .ok rfl
      | error reason => exact .error _
    refine Correspondence.bindExcept hcreate ?_
    rintro writer _ rfl
    refine Correspondence.pureExcept ?_
    cases format with
    | csv => exact attending_csv writer
    | jsonLines => exact attending_jsonLines library writer

end Correspond

/-! ## The program, step by step -/

namespace CommandLine

section Steps

variable {m : Type → Type} [Monad m]

/-- `run` on a platform that is brought up in whatever way. -/
def runOn (around : Surroundings m) (options : Options) (bringUp : ExceptT Failure m (Platform m)) :
    ExceptT Setback m Unit := do
  if options.listDevices then
    let devices ← (options.backend.devices around.env around.machine).adapt .failed
    around.printLines (devices.map (·.text))
  else
    let campaign ← options.campaign around.json around.files around.machine.lookup
    if options.listBenchmarks then
      around.printLines (campaign.configurations.map (·.text))
    else
      let platform ← bringUp.adapt .failed
      let tally ← perform around platform options.output campaign
      liftM (note around .info (summary tally))

theorem run_eq_runOn (around : Surroundings m) (options : Options) :
    run around options =
      runOn around options (options.backend.create around.env around.heap around.machine
        ⟨options.scaling, around.maxBuffer⟩) :=
  rfl

/-- What is done about the end of a platform. -/
def settle (around : Surroundings m) : Except Failure Unit → m Unit
  | .ok () => pure ()
  | .error failure => note around .error s!"context teardown: {failure.message}"

/-- The end of a platform, behind a run that has come to an end itself. -/
def tearDown (around : Surroundings m) (platform : Platform m) {α : Type}
    (outcome : Except Failure α) : m Unit :=
  if panicked outcome then pure ()
  else platform.destroy.run >>= settle around

/-- What is done once a report was opened, or could not be. -/
def proceed (around : Surroundings m) (platform : Platform m) (campaign : Campaign) :
    Except Failure (Journal m) → m (Except Setback Tally)
  | .error failure => pure (.error (.failed failure))
  | .ok journal => do
    let outcome ← (Bench.run ⟨around.env, platform, campaign, journal⟩).run
    tearDown around platform outcome
    return outcome.mapError .failed

variable [LawfulMonad m] {ε α β : Type}

theorem run_liftM_bind (action : m α) (next : α → ExceptT ε m β) :
    (liftM action >>= next).run = action >>= fun a => (next a).run := by
  rw [ExceptT.run_bind]
  exact bind_map_left _ _ _

/-- What comes after a part that may fail, with its failure as a setback. -/
theorem run_adapt_bind (action : ExceptT Failure m α) (next : α → ExceptT Setback m β) :
    (action.adapt .failed >>= next).run = action.run >>= fun
      | .ok a => (next a).run
      | .error failure => pure (.error (.failed failure)) := by
  have hadapt : (action.adapt Setback.failed).run = Except.mapError .failed <$> action.run := rfl
  rw [ExceptT.run_bind, hadapt, bind_map_left]
  congr
  funext outcome
  cases outcome <;> rfl

theorem perform_run (around : Surroundings m) (platform : Platform m) (output : Option String)
    (campaign : Campaign) :
    (perform around platform output campaign).run =
      (Journal.openFor around.json around.files around.output output).run >>=
        proceed around platform campaign := by
  unfold perform
  rw [run_adapt_bind]
  congr
  funext opened
  cases opened with
  | error failure => rfl
  | ok journal =>
    dsimp only [proceed]
    rw [run_liftM_bind]
    congr
    funext outcome
    unfold tearDown
    cases panicked outcome with
    | true =>
      simp only [if_true, pure_bind]
      rfl
    | false =>
      simp only [Bool.false_eq_true, if_false, bind_assoc]
      rw [run_liftM_bind]
      congr
      funext ended
      cases ended with
      | ok _ =>
        rw [settle, pure_bind]
        rfl
      | error failure => exact run_liftM_bind _ _

/-- A program that neither lists the devices nor the configurations. -/
theorem runOn_run (around : Surroundings m) {options : Options}
    (bringUp : ExceptT Failure m (Platform m)) (hdevices : options.listDevices = false)
    (hbenchmarks : options.listBenchmarks = false) :
    (runOn around options bringUp).run =
      (options.campaign around.json around.files around.machine.lookup).run >>= fun
        | .error setback => pure (.error setback)
        | .ok campaign => bringUp.run >>= fun
          | .error failure => pure (.error (.failed failure))
          | .ok platform => (perform around platform options.output campaign).run >>= fun
            | .error setback => pure (.error setback)
            | .ok tally => .ok <$> note around .info (summary tally) := by
  unfold runOn
  rw [if_neg (by simp [hdevices]), ExceptT.run_bind]
  congr
  funext loaded
  cases loaded with
  | error setback => rfl
  | ok campaign =>
    dsimp only
    rw [if_neg (by simp [hbenchmarks]), run_adapt_bind]
    congr
    funext up
    cases up with
    | error failure => rfl
    | ok platform =>
      dsimp only
      rw [ExceptT.run_bind]
      congr
      funext performed
      cases performed <;> rfl

end Steps

/-! ## The attended program -/

section Attended

variable {σ ε α β : Type} {around : Surroundings (StateM σ)} {platform : Platform (StateM σ)}
  {campaign : Campaign}

theorem settle_attended (ended : Except Failure Unit) :
    settle around.attended ended = StateT.lift (settle around ended) := by
  cases ended <;> rfl

/-- The end of an attended platform is noted, unless it is left out. -/
theorem tearDown_attended (outcome : Except Failure α) (uses : List Use) (world : σ) :
    ((tearDown around.attended platform.attended outcome).run uses).run world =
      (((), uses ++ if panicked outcome then []
        else [.tornDown (platform.destroy.run.run world).1]),
        ((tearDown around platform outcome).run world).2) := by
  unfold tearDown
  cases panicked outcome with
  | true =>
    simp only [if_true, List.append_nil]
    rfl
  | false =>
    simp only [Bool.false_eq_true, if_false,
      show settle around.attended = fun ended => StateT.lift (settle around ended) from
        funext settle_attended]
    rfl

/-- Behind the opening of a report come the campaign and, unless it has stopped the program, the end
of the platform. -/
theorem proceed_attended {journal : Journal (StateM σ)} {journal' : Journal (Attended (StateM σ))}
    (hjournal : journal.Corresponds (attending σ (· = .asked)) journal') (uses : List Use)
    (world : σ) :
    let ended := (proceed around platform campaign (.ok journal)).run world
    let noted := ((proceed around.attended platform.attended campaign (.ok journal')).run uses).run
      world
    let outcome := (Bench.run ⟨around.env, platform, campaign, journal⟩).run.run world
    noted.1.1 = ended.1 ∧ noted.2 = ended.2 ∧ ended.1 = outcome.1.mapError .failed ∧
      ∃ count, noted.1.2 = uses ++ (List.replicate count .asked ++
        if panicked outcome.1 then [] else [.tornDown (platform.destroy.run.run outcome.2).1]) := by
  intro ended noted outcome
  have hbench : Bench.Corresponds (attending σ (· = .asked))
      ⟨around.env, platform, campaign, journal⟩
      ⟨around.attended.env, platform.attended, campaign, journal'⟩ :=
    ⟨attending_environment _, attending_platform (by rfl) platform, rfl, hjournal⟩
  obtain ⟨hboth, hworld, more, hmore, hasked⟩ := Bench.rel_run hbench uses world
  -- the run as the program makes it, with the notes that it leaves
  let run := ((Bench.run ⟨around.attended.env, platform.attended, campaign, journal'⟩).run.run
    uses).run world
  have hended : ended = (outcome.1.mapError .failed,
      ((tearDown around platform outcome.1).run outcome.2).2) := rfl
  have hnoted : noted = ((run.1.1.mapError .failed,
      (((tearDown around.attended platform.attended run.1.1).run run.1.2).run run.2).1.2),
      (((tearDown around.attended platform.attended run.1.1).run run.1.2).run run.2).2) := rfl
  -- the campaign only asks, so its notes are told by their number
  have hcount : more = List.replicate more.length .asked := List.eq_replicate_of_mem hasked
  rw [hnoted, hended, tearDown_attended, hworld, hmore, ← hboth.eq]
  refine ⟨rfl, rfl, rfl, more.length, ?_⟩
  rw [← hcount, List.append_assoc]

/-- An attended campaign has the result of the campaign. What is noted depends on whether its report
can be opened. -/
theorem perform_attended (around : Surroundings (StateM σ)) (platform : Platform (StateM σ))
    (campaign : Campaign) (output : Option String) (uses : List Use) (up : σ) :
    let ended := (perform around platform output campaign).run.run up
    let noted := ((perform around.attended platform.attended output campaign).run.run uses).run up
    noted.1.1 = ended.1 ∧ noted.2 = ended.2 ∧
      match (Journal.openFor around.json around.files around.output output).run.run up with
      | (.error failure, reached) =>
        ended = (.error (.failed failure), reached) ∧ noted.1.2 = uses
      | (.ok journal, opened) =>
        let outcome := (Bench.run ⟨around.env, platform, campaign, journal⟩).run.run opened
        ended.1 = outcome.1.mapError .failed ∧
          ∃ count, noted.1.2 = uses ++ (List.replicate count .asked ++
            if panicked outcome.1 then []
            else [.tornDown (platform.destroy.run.run outcome.2).1]) := by
  intro ended noted
  have hopened : (attending σ fun _ => False).RelExcept
      (Journal.Corresponds (attending σ (· = .asked)))
      (Journal.openFor around.json around.files around.output output)
      (Journal.openFor around.attended.json around.attended.files around.attended.output output) :=
    attending_openFor around.json around.files around.output output
  obtain ⟨hboth, hworld, more, hmore, hnone⟩ := hopened uses up
  -- nothing is noted while the report is opened
  rw [List.eq_nil_iff_forall_not_mem.2 hnone, List.append_nil] at hmore
  have hended : ended = _ :=
    congrArg (StateT.run · up) (perform_run around platform output campaign)
  have hnoted : noted = _ := congrArg (fun action => (StateT.run action uses).run up)
    (perform_run around.attended platform.attended output campaign)
  rw [StateT.run_bind] at hended hnoted
  rw [StateT.run_bind] at hnoted
  rcases hplain : (Journal.openFor around.json around.files around.output output).run.run up with
    ⟨opened, reached⟩
  rcases hattended : ((Journal.openFor around.attended.json around.attended.files
    around.attended.output output).run.run uses).run up with ⟨⟨opened', uses'⟩, reached'⟩
  rw [hplain] at hboth hworld hended
  rw [hattended] at hboth hworld hmore hnoted
  dsimp only at hboth hworld hmore
  subst hworld hmore
  rw [hended, hnoted]
  cases hboth with
  | error failure => exact ⟨rfl, rfl, rfl, rfl⟩
  | ok hjournal => exact proceed_attended hjournal _ _

theorem aside_bind (action : ExceptT ε (StateM σ) α) (next : α → ExceptT ε (StateM σ) β) :
    Attended.aside (action >>= next) =
      (Attended.aside action >>= fun a => Attended.aside (next a)) := by
  refine funext fun uses => funext fun world => ?_
  have hleft : (Attended.aside (action >>= next)).run.run uses world =
      ((((action >>= next).run.run world).1, uses), ((action >>= next).run.run world).2) := rfl
  have hright : (Attended.aside action >>= fun a => Attended.aside (next a)).run.run uses world =
      ((ExceptT.bindCont (fun a => Attended.aside (next a)) (action.run.run world).1).run uses).run
        (action.run.run world).2 := rfl
  refine hleft.trans (Eq.trans ?_ hright.symm)
  rw [run_bind]
  rcases action.run.run world with ⟨_ | _, _⟩ <;> rfl

theorem campaign_attended (options : Options) (library : Json.Library) (files : Files (StateM σ))
    (lookup : String → Option String) :
    options.campaign library files.attended lookup =
      Attended.aside (options.campaign library files lookup) := by
  have htext (path : String) :
      Options.textOf files.attended path = Attended.aside (Options.textOf files path) := rfl
  have hbase : options.base library files.attended lookup =
      Attended.aside (options.base library files lookup) := by
    unfold Options.base
    cases options.config with
    | none =>
      rw [aside_bind]
      rfl
    | some path =>
      dsimp only
      rw [aside_bind, htext]
      rfl
  have hlisted : options.listed files.attended = Attended.aside (options.listed files) := by
    unfold Options.listed
    cases options.extentsFile with
    | none => rfl
    | some path =>
      dsimp only
      rw [aside_bind, htext]
      rfl
  unfold Options.campaign
  simp only [aside_bind, hbase, hlisted]
  rfl

section Ends

variable {options : Options} {bringUp : ExceptT Failure (StateM σ) (Platform (StateM σ))}
  {world ready up : σ} (hdevices : options.listDevices = false)
  (hbenchmarks : options.listBenchmarks = false)
  (hcampaign : (options.campaign around.json around.files around.machine.lookup).run.run world =
    (.ok campaign, ready))
  (hup : bringUp.run.run ready = (.ok platform, up))

include hdevices hbenchmarks hcampaign hup

/-- Once the platform is up, the campaign is performed, and its tally noted. -/
theorem runOn_up :
    (runOn around options bringUp).run.run world =
      match (perform around platform options.output campaign).run.run up with
      | (.error setback, after) => (.error setback, after)
      | (.ok tally, after) => (.ok (), ((note around .info (summary tally)).run after).2) := by
  rw [runOn_run around bringUp hdevices hbenchmarks, StateT.run_bind, hcampaign]
  change (StateT.run (bringUp.run >>= _) ready) = _
  rw [StateT.run_bind, hup]
  change (StateT.run ((perform around platform options.output campaign).run >>= _) up) = _
  rw [StateT.run_bind]
  rcases (perform around platform options.output campaign).run.run up with ⟨_ | _, _⟩ <;> rfl

/-- The attended program does the same with the attended platform. -/
theorem runOn_attended_up :
    ((runOn around.attended options (Platform.attendedUp bringUp)).run.run []).run world =
      match ((perform around.attended platform.attended options.output campaign).run.run
        [.broughtUp]).run up with
      | ((.error setback, uses), after) => ((.error setback, uses), after)
      | ((.ok tally, uses), after) =>
        ((.ok (), uses), ((note around .info (summary tally)).run after).2) := by
  have hloaded : (options.campaign around.attended.json around.attended.files
      around.attended.machine.lookup).run =
      StateT.lift (options.campaign around.json around.files around.machine.lookup).run :=
    campaign_attended options around.json around.files around.machine.lookup
  rw [runOn_run around.attended _ hdevices hbenchmarks, hloaded]
  -- no note is made before the platform is up
  have hstart : ((StateT.lift (options.campaign around.json around.files around.machine.lookup).run :
      Attended (StateM σ) _).run []).run world = ((.ok campaign, []), ready) := by
    change ((((options.campaign around.json around.files around.machine.lookup).run.run world).1, []),
      ((options.campaign around.json around.files around.machine.lookup).run.run world).2) = _
    rw [hcampaign]
  have hbrought : ((Platform.attendedUp bringUp).run.run []).run ready =
      ((.ok platform.attended, [.broughtUp]), up) := by
    change (((bringUp.run.run ready).1.map _, [] ++ Use.arrival (bringUp.run.run ready).1),
      (bringUp.run.run ready).2) = _
    rw [hup]
    rfl
  rw [StateT.run_bind, StateT.run_bind, hstart]
  change (StateT.run ((Platform.attendedUp bringUp).run >>= _) []).run ready = _
  rw [StateT.run_bind, StateT.run_bind, hbrought]
  change (StateT.run ((perform around.attended platform.attended options.output campaign).run >>= _)
    [.broughtUp]).run up = _
  rw [StateT.run_bind, StateT.run_bind]
  rcases ((perform around.attended platform.attended options.output campaign).run.run
    [.broughtUp]).run up with ⟨⟨_ | _, _⟩, _⟩ <;> rfl

end Ends

/-- **The end of a platform.** Take a program that runs a campaign, and any platform that it brings
up. Attending the program changes neither its result nor what it leaves.

* If the report can be opened, the platform is torn down exactly once, behind everything that is
  asked of it, and the result is that of the campaign, whatever becomes of the platform. Only a
  campaign that stops the program leaves it standing.
* If the report cannot be opened, that is the result, and the platform is not torn down. -/
theorem run_teardown (around : Surroundings (StateM σ)) {options : Options}
    {bringUp : ExceptT Failure (StateM σ) (Platform (StateM σ))} {platform : Platform (StateM σ)}
    {campaign : Campaign} {world ready up : σ} (hdevices : options.listDevices = false)
    (hbenchmarks : options.listBenchmarks = false)
    (hcampaign : (options.campaign around.json around.files around.machine.lookup).run.run world =
      (.ok campaign, ready))
    (hup : bringUp.run.run ready = (.ok platform, up)) :
    let ended := (runOn around options bringUp).run.run world
    let noted := ((runOn around.attended options (Platform.attendedUp bringUp)).run.run []).run
      world
    run around options = runOn around options (options.backend.create around.env around.heap
        around.machine ⟨options.scaling, around.maxBuffer⟩) ∧
      noted.1.1 = ended.1 ∧ noted.2 = ended.2 ∧
      match (Journal.openFor around.json around.files around.output options.output).run.run up with
      | (.error failure, reached) =>
        ended = (.error (.failed failure), reached) ∧ noted.1.2 = [.broughtUp]
      | (.ok journal, opened) =>
        let outcome := (Bench.run ⟨around.env, platform, campaign, journal⟩).run.run opened
        ended.1 = (outcome.1.mapError .failed).map (fun _ => ()) ∧
          ∃ count, noted.1.2 = .broughtUp :: (List.replicate count .asked ++
            if panicked outcome.1 then []
            else [.tornDown (platform.destroy.run.run outcome.2).1]) := by
  intro ended noted
  have hended : ended = _ := runOn_up hdevices hbenchmarks hcampaign hup
  have hnoted : noted = _ := runOn_attended_up hdevices hbenchmarks hcampaign hup
  obtain ⟨hresult, hworld, hopened⟩ :=
    perform_attended around platform campaign options.output [.broughtUp] up
  rcases hplain : (perform around platform options.output campaign).run.run up with
    ⟨outcome, after⟩
  rcases hattended : ((perform around.attended platform.attended options.output campaign).run.run
    [.broughtUp]).run up with ⟨⟨outcome', uses⟩, after'⟩
  rw [hplain] at hended hresult hworld hopened
  rw [hattended] at hnoted hresult hworld hopened
  dsimp only at hresult hworld hopened
  subst hresult hworld
  rw [hended, hnoted]
  rcases hreport :
    (Journal.openFor around.json around.files around.output options.output).run.run up with
    ⟨failure | journal, reached⟩
  all_goals
    rw [hreport] at hopened
    dsimp only at hopened ⊢
  · obtain ⟨hfailed, hnone⟩ := hopened
    cases hfailed
    exact ⟨run_eq_runOn around options, rfl, rfl, rfl, hnone⟩
  · obtain ⟨houtcome, count, huses⟩ := hopened
    refine ⟨run_eq_runOn around options, ?_⟩
    rw [← houtcome]
    cases outcome' with
    | error setback => exact ⟨rfl, rfl, rfl, count, huses⟩
    | ok tally => exact ⟨rfl, rfl, rfl, count, huses⟩

end Attended

/-! ## Two runs -/

/-- Surroundings without files and variables, which keep nothing but the time. -/
def Surroundings.bare : Surroundings (StateM Store) where
  env := (Bench.storing .standard).env
  heap := { fresh := fun value => pure { get := pure value, set := fun _ => pure () } }
  machine := { threads := 1, memory := pure 4096, lookup := fun _ => none }
  files :=
    { read := fun _ => throw "no such file", create := fun _ => throw "no such directory"
      present := fun _ => pure false, isDirectory := fun _ => pure false }
  maxBuffer := 4096
  output := { write := fun _ => pure (), flush := pure () }
  complain _ := pure ()

/-- A campaign that comes to a tally has not stopped the program. -/
theorem not_panicked_of_ok {outcome : Except Failure Tally}
    (h : (outcome.mapError Setback.failed).map (fun _ => ()) = .ok ()) : ¬panicked outcome := by
  cases outcome with
  | ok tally => exact Bool.false_ne_true
  | error failure => cases h

/-- A report that goes to the standard output can be opened, and the platform is torn down behind the
trials of its engines. -/
theorem run_teardown_bare :
    let options := { Options.standard with
      extents := [⟨[2], by decide, by decide, by simp⟩], kinds := [.complex]
      placements := [.inPlace], precisions := [.single] }
    let bringUp : ExceptT Failure (StateM Store) _ := pure (Bench.storing .standard).platform
    let noted := ((runOn Surroundings.bare.attended options (Platform.attendedUp bringUp)).run.run
      []).run ⟨0, #[]⟩
    ∃ count, noted.1.2 = .broughtUp :: (List.replicate count .asked ++ [.tornDown (.ok ())]) := by
  intro options bringUp noted
  have hlimits : Limits.ofVariables (fun _ => none) = .ok .standard := by decide +kernel
  have hrunnable : (options.amend { Campaign.standard with limits := .standard } []).Runnable :=
    Campaign.check_eq_ok_iff_runnable.1 (by decide +kernel)
  obtain ⟨campaign, hcampaign⟩ : ∃ campaign, (options.campaign Surroundings.bare.json
      Surroundings.bare.files Surroundings.bare.machine.lookup).run.run ⟨0, #[]⟩ =
        (.ok campaign, ⟨0, #[]⟩) :=
    ⟨_, Options.campaign_eq_ok_iff.2 ⟨_, _, [], .standard rfl hlimits, .unlisted rfl,
      Options.merges_iff.2 rfl, hrunnable⟩⟩
  have hup : bringUp.run.run ⟨0, #[]⟩ = (.ok (Bench.storing .standard).platform, ⟨0, #[]⟩) := rfl
  obtain ⟨-, hresult, -, houtcome, count, hnoted⟩ :=
    run_teardown Surroundings.bare rfl rfl hcampaign hup
  have hok : noted.1.1 = .ok () := by decide +kernel
  simp only [noted] at hok
  rw [hok, houtcome] at hresult
  have hdestroy (store : Store) :
      ((Bench.storing .standard).platform.destroy.run.run store).1 = .ok () := rfl
  rw [if_neg (not_panicked_of_ok hresult.symm), hdestroy] at hnoted
  refine ⟨count, ?_⟩
  simp only [noted, hnoted]

/-- A report of an unknown format cannot be opened, and the platform of the processor, which is up
by then, is not torn down. -/
theorem run_leaves_platform :
    let options := { Options.standard with
      extents := [⟨[8], by decide, by decide, by simp⟩], output := some "report.xyz" }
    let bringUp := options.backend.create Surroundings.bare.env Surroundings.bare.heap
      Surroundings.bare.machine ⟨options.scaling, Surroundings.bare.maxBuffer⟩
    let noted := ((runOn Surroundings.bare.attended options (Platform.attendedUp bringUp)).run.run
      []).run ⟨0, #[]⟩
    noted.1.1 = .error (.failed (.misconfigured (.unknownReportFormat "xyz"))) ∧
      noted.1.2 = [.broughtUp] ∧ ¬∃ outcome, .tornDown outcome ∈ noted.1.2 := by
  intro options bringUp noted
  have huses : noted.1.2 = [.broughtUp] := by decide +kernel
  refine ⟨by decide +kernel, huses, ?_⟩
  rintro ⟨outcome, hmem⟩
  rw [huses] at hmem
  cases List.mem_singleton.1 hmem

end CommandLine

end SpectralBench
