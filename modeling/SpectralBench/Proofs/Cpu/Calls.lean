import SpectralBench.Proofs.Cpu.RoundTrip

/-!
# Calls of an engine, one after another

An engine can be called in any order, and called again after a failure. The engine of a processor
answers from its own state: what it logs and what its clock says goes to the world and never comes
back. So each of its calls is an action on the state (`Rig.respond`), and what a list of calls
answers and leaves is found without the world.

Main statements:

* `Performs.bind` and the rules beside it — calls that are actions on the state that they own.
* `performs_respond` — every call of an engine is such an action.
* `serveFrom_eq` — so is every list of calls.
-/

namespace SpectralBench

/-- A call of an engine, with what the host holds for an upload and for a download. -/
inductive Call where
  | planEstimate
  | step (taken : Step) (input output : Array UInt8)

section Serving

variable {m : Type → Type} [Monad m]

/-- What an engine does at a call, but for the result of an estimate. -/
def Call.perform (engine : Engine m) : Call → ExceptT Failure m Unit
  | .planEstimate => (fun _ => ()) <$> engine.planEstimate
  | .step .allocate _ _ => engine.allocate
  | .step .planForward _ _ => engine.planForward
  | .step .upload input _ => engine.upload input
  | .step .executeForward _ _ => engine.executeForward
  | .step .planInverse _ _ => engine.planInverse
  | .step .executeInverse _ _ => engine.executeInverse
  | .step .download _ output => (fun _ => ()) <$> engine.download output.toVector
  | .step .destroy _ _ => engine.destroy

/-- Makes one call after another, whatever the answers are. -/
def Engine.serve (engine : Engine m) : List Call → m (List (Except Failure Unit))
  | [] => return []
  | call :: rest => do
    let answer ← (call.perform engine).run
    let later ← engine.serve rest
    return answer :: later

end Serving

/-- The answers to a list of calls, and the state that they leave of an engine which owns it. -/
def Engine.serveFrom {σ τ : Type} (engine : Engine (StateT τ (StateM σ))) (before : τ)
    (calls : List Call) (world : σ) : List (Except Failure Unit) × τ :=
  (((engine.serve calls).run before).run world).1

namespace Cpu

variable {α β γ σ : Type}

/-! ## Calls as actions -/

/-- Whether a call does to the state that it owns what an action does, whatever the world is. -/
def Performs (call : ExceptT Failure (StateT (State α) (StateM σ)) β) (action : Action α β) : Prop :=
  ∀ state world, ((call.run.run state).run world).1 = action.run.run state

namespace Performs

variable {call : ExceptT Failure (StateT (State α) (StateM σ)) β} {action : Action α β}

/-- A call that goes on performs an action that goes on. -/
theorem bind {next : β → ExceptT Failure (StateT (State α) (StateM σ)) γ} {follow : β → Action α γ}
    (h : Performs call action) (hnext : ∀ b, Performs (next b) (follow b)) :
    Performs (call >>= next) (action >>= follow) := by
  intro state world
  have hfirst := h state world
  rw [ExceptT.run_bind, StateT.run_bind, StateT.run_bind, ExceptT.run_bind, StateT.run_bind,
    ← hfirst]
  -- what follows starts from the state and from the world that the first call left
  generalize (call.run.run state).run world = finished
  obtain ⟨⟨outcome, after⟩, later⟩ := finished
  cases outcome with
  | error failure => rfl
  | ok b => exact hnext b after later

theorem of_pure (b : β) :
    Performs (pure b : ExceptT Failure (StateT (State α) (StateM σ)) β) (pure b) :=
  fun _ _ => rfl

theorem map (f : β → γ) (h : Performs call action) : Performs (f <$> call) (f <$> action) := by
  rw [← bind_pure_comp, ← bind_pure_comp]
  exact h.bind fun b => of_pure (f b)

/-- An action that is run on the state in the cell. -/
theorem of_runIn (action : Action α β) :
    Performs (runIn (.own : Cell (StateT (State α) (StateM σ)) (State α)) action) action :=
  fun _ _ => rfl

/-- What is logged is not part of the state. -/
theorem of_log (env : Environment (StateM σ)) (entry : Log.Entry) :
    Performs (liftM ((env.beside (State α)).log entry) :
      ExceptT Failure (StateT (State α) (StateM σ)) Unit) (pure ()) :=
  fun _ _ => rfl

/-- The check of a transfer's length performs the same check on the state. -/
theorem of_checkBytes (rig : Rig α) (operation : String) (size : ℕ) :
    Performs (checkBytes rig operation size : ExceptT Failure (StateT (State α) (StateM σ)) Unit)
      (settle (rig.geometry.checkTransfer operation size)) :=
  fun _ _ => rfl

end Performs

/-- Whether a call answers this from a state, whatever the world is. -/
def Answers {τ : Type} (call : ExceptT Failure (StateT τ (StateM σ)) β) (before : τ)
    (outcome : Except Failure β) : Prop :=
  ∀ world, ((call.run.run before).run world).1.1 = outcome

/-- A call that performs an action answers as the action does. -/
theorem Performs.answers {call : ExceptT Failure (StateT (State α) (StateM σ)) β}
    {action : Action α β} (h : Performs call action) (state : State α) :
    Answers call state (action.run.run state).1 :=
  fun world => congrArg Prod.fst (h state world)

/-! ## Calls of an engine -/

/-- Uploads bytes, if they are as many as a transfer has. -/
def Rig.uploadBytes (rig : Rig α) (scalar : Scalar α) (input : Array UInt8) : Action α Unit := do
  settle (rig.geometry.checkTransfer "upload" input.size)
  rig.upload (scalar.readAll input)

/-- Downloads over the bytes of a host, if they are as many as a transfer has. -/
def Rig.downloadBytes [Zero α] (rig : Rig α) (scalar : Scalar α) {size : ℕ}
    (host : Vector UInt8 size) : Action α (Vector UInt8 size) := do
  settle (rig.geometry.checkTransfer "download" size)
  let scalars ← rig.download (Array.replicate (size / rig.unit) 0)
  let bytes := scalar.writeAll scalars
  return host.mapIdx fun i old => bytes.getD i old

section Engine

variable [Zero α] [Mul α] {scalar : Scalar α} {rig : Rig α}

/-- What a call does to the state of an engine. -/
def Rig.respond (rig : Rig α) (scalar : Scalar α) : Call → Action α Unit
  | .planEstimate => return ()
  | .step .allocate _ _ => rig.allocate
  | .step .planForward _ _ => rig.planForward
  | .step .upload input _ => rig.uploadBytes scalar input
  | .step .executeForward _ _ => rig.executeForward
  | .step .planInverse _ _ => rig.planInverse
  | .step .executeInverse _ _ => rig.executeInverse
  | .step .download _ output => (fun _ => ()) <$> rig.downloadBytes scalar output.toVector
  | .step .destroy _ _ => rig.destroy

variable (env : Environment (StateM σ))

theorem performs_allocate :
    Performs (engine (env.beside _) scalar rig .own).allocate rig.allocate := by
  -- what is logged behind it changes nothing
  rw [← bind_pure_unit (x := rig.allocate)]
  exact (Performs.of_runIn _).bind fun _ => .of_log env _

theorem performs_planForward :
    Performs (engine (env.beside _) scalar rig .own).planForward rig.planForward := by
  dsimp only [engine]
  split
  · rw [← pure_bind () fun _ => rig.planForward]
    exact (Performs.of_log _ _).bind fun _ => .of_runIn _
  · exact .of_runIn _

theorem performs_upload (input : Array UInt8) :
    Performs ((engine (env.beside _) scalar rig .own).upload input)
      (rig.uploadBytes scalar input) :=
  (Performs.of_checkBytes _ _ _).bind fun _ => .of_runIn _

theorem performs_download {size : ℕ} (host : Vector UInt8 size) :
    Performs ((engine (env.beside _) scalar rig .own).download host)
      (rig.downloadBytes scalar host) :=
  (Performs.of_checkBytes _ _ _).bind fun _ => (Performs.of_runIn _).bind fun _ => .of_pure _

/-- Every call of an engine is an action on its state. -/
theorem performs_respond (call : Call) :
    Performs (call.perform (engine (env.beside _) scalar rig .own)) (rig.respond scalar call) := by
  cases call with
  | planEstimate => exact Performs.of_pure _
  | step taken input output =>
    cases taken with
    | allocate => exact performs_allocate env
    | planForward => exact performs_planForward env
    | upload => exact performs_upload env input
    | executeForward => exact .of_runIn _
    | planInverse => exact .of_runIn _
    | executeInverse => exact .of_runIn _
    | download => exact (performs_download env _).map _
    | destroy => exact .of_runIn _

/-- The state that a list of calls leaves, and the answers. -/
def Rig.serve (rig : Rig α) (scalar : Scalar α) (state : State α) :
    List Call → List (Except Failure Unit) × State α
  | [] => ([], state)
  | call :: rest =>
    let (answer, mid) := (rig.respond scalar call).run.run state
    let (later, after) := rig.serve scalar mid rest
    (answer :: later, after)

/-- A list of calls is a run of actions. -/
theorem serveFrom_eq (calls : List Call) (state : State α) (world : σ) :
    (engine (env.beside _) scalar rig .own).serveFrom state calls world =
      rig.serve scalar state calls := by
  induction calls generalizing state world with
  | nil => rfl
  | cons call rest ih =>
    unfold Engine.serveFrom at ih ⊢
    let engine := engine (env.beside (State α)) scalar rig .own
    rw [Engine.serve, Rig.serve, StateT.run_bind, StateT.run_bind,
      ← performs_respond env call state world]
    generalize ((call.perform engine).run.run state).run world = finished
    obtain ⟨⟨answer, mid⟩, later⟩ := finished
    dsimp only
    rw [← ih mid later]
    rfl

end Engine

end Cpu

end SpectralBench
