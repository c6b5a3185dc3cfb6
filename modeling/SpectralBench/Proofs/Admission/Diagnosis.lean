import SpectralBench.Proofs.Admission

/-!
# What a refusal tells

A configuration that is not admitted is told which memory is short, and by how much. The device is
weighed first: a shortage of the host is told only where the device is large enough. Whatever is
told is what was compared, so the numbers of a shortage always bear it out, also where the
requirement was clipped to the largest word.

Requirements are clipped step by step. Clipping once, at the end of the exact sum, is the same
(`Geometry.deviceRequirement_eq`), and this is how they are stated here.

Main statements:

* `Geometry.weigh_eq_error_iff` — when which shortage is told.
* `Geometry.weigh_decides` — the decision as a whole, and that every shortage is borne out.
-/

namespace SpectralBench

namespace Shortage

/-- The bytes that were asked for, as they were compared with the budget. -/
def required : Shortage → Nat
  | .device _ _ _ required _ _ => required
  | .host _ _ required _ _ => required

/-- The bytes that may be claimed. -/
def allowed : Shortage → Nat
  | .device _ _ _ _ budget _ => budget
  | .host _ _ _ budget _ => budget

/-- The bytes that are there. -/
def available : Shortage → Nat
  | .device _ _ _ _ _ available => available
  | .host _ _ _ _ available => available

/-- More was asked for than may be claimed, and no more may be claimed than is there. -/
def IsBorneOut (shortage : Shortage) : Prop :=
  shortage.allowed < shortage.required ∧ shortage.allowed ≤ shortage.available

theorem IsBorneOut.device {plan data complex required budget available : Nat}
    (h : budget < required) (hbudget : budget ≤ available) :
    IsBorneOut (.device plan data complex required budget available) :=
  ⟨h, hbudget⟩

theorem IsBorneOut.host {buffers transfer required budget available : Nat}
    (h : budget < required) (hbudget : budget ≤ available) :
    IsBorneOut (.host buffers transfer required budget available) :=
  ⟨h, hbudget⟩

end Shortage

namespace Geometry

variable (g : Geometry) (plan device host : UInt64) (limits : Limits)

/-- The exact sum of what the device has to hold, clipped to the largest word. -/
def claimed : Nat :=
  min (plan.toNat + g.dataSize + g.complexBufferSize) Word.top

/-- The exact size of all transfer buffers, clipped to the largest word. -/
def buffered : Nat :=
  min (limits.hostBuffers.toNat * g.transferSize) Word.top

/-- The shortage that is told if the device is too small. -/
def deviceShortage : Shortage :=
  .device plan.toNat g.dataSize g.complexBufferSize (g.claimed plan)
    (budget device.toNat limits.deviceFraction) device.toNat

/-- The shortage that is told if the host is too small. -/
def hostShortage : Shortage :=
  .host limits.hostBuffers.toNat g.transferSize (g.buffered limits)
    (budget host.toNat limits.hostFraction) host.toNat

theorem hostRequirement_eq : g.hostRequirement limits = g.buffered limits :=
  rfl

/-- Each side of the decision, with requirements that are clipped once. -/
theorem weigh_eq :
    g.weigh plan device host limits =
      if budget device.toNat limits.deviceFraction < g.claimed plan then
        .error (g.deviceShortage plan device limits)
      else if budget host.toNat limits.hostFraction < g.buffered limits then
        .error (g.hostShortage host limits)
      else .ok () := by
  have hdevice : g.deviceRequirement plan.toNat = g.claimed plan :=
    g.deviceRequirement_eq plan.toNat
  unfold weigh
  rw [hdevice, hostRequirement_eq]
  rfl

theorem weigh_eq_ok_iff_clipped :
    g.weigh plan device host limits = .ok () ↔
      g.claimed plan ≤ budget device.toNat limits.deviceFraction ∧
        g.buffered limits ≤ budget host.toNat limits.hostFraction := by
  rw [weigh_eq_ok_iff, deviceRequirement_eq, hostRequirement_eq]
  rfl

/-- A shortage of the device comes before one of the host. -/
theorem weigh_eq_error_iff (shortage : Shortage) :
    g.weigh plan device host limits = .error shortage ↔
      (budget device.toNat limits.deviceFraction < g.claimed plan ∧
          shortage = g.deviceShortage plan device limits) ∨
        (g.claimed plan ≤ budget device.toNat limits.deviceFraction ∧
          budget host.toNat limits.hostFraction < g.buffered limits ∧
          shortage = g.hostShortage host limits) := by
  rw [weigh_eq]
  by_cases hdevice : budget device.toNat limits.deviceFraction < g.claimed plan
  · have hnot : ¬g.claimed plan ≤ budget device.toNat limits.deviceFraction := by omega
    rw [if_pos hdevice]
    simp [hdevice, hnot, eq_comm]
  · have hfits : g.claimed plan ≤ budget device.toNat limits.deviceFraction := by omega
    rw [if_neg hdevice]
    by_cases hhost : budget host.toNat limits.hostFraction < g.buffered limits
    · rw [if_pos hhost]
      simp [hdevice, hfits, hhost, eq_comm]
    · rw [if_neg hhost]
      simp [hdevice, hhost]

/-- Every shortage that is told is borne out by its own numbers. -/
theorem isBorneOut_of_weigh {shortage : Shortage}
    (h : g.weigh plan device host limits = .error shortage) : shortage.IsBorneOut := by
  rw [weigh_eq_error_iff] at h
  rcases h with ⟨hshort, rfl⟩ | ⟨-, hshort, rfl⟩
  · exact .device hshort (budget_le _ _)
  · exact .host hshort (budget_le _ _)

/-- **The decision and what it tells.** For any geometry, any words and any limits, with
requirements that are exact but for being clipped to the largest word:

* a configuration is admitted exactly when both requirements are within their budgets;
* a shortage of the device is told exactly when the device's budget is exceeded, whatever the host
  has, and it tells the estimate, both buffers, and the requirement, the budget and the bytes that
  were compared;
* a shortage of the host is told exactly when only the host's budget is exceeded, in the same way;
* whatever shortage is told, its requirement exceeds its budget, which is within what is there. -/
theorem weigh_decides :
    let claimed := min (plan.toNat + g.dataSize + g.complexBufferSize) Word.top
    let buffered := min (limits.hostBuffers.toNat * g.transferSize) Word.top
    let deviceBudget := budget device.toNat limits.deviceFraction
    let hostBudget := budget host.toNat limits.hostFraction
    let decision := g.weigh plan device host limits
    (decision = .ok () ↔ claimed ≤ deviceBudget ∧ buffered ≤ hostBudget) ∧
      (∀ plan' data complex required budget available,
        decision = .error (.device plan' data complex required budget available) ↔
          deviceBudget < claimed ∧ plan' = plan.toNat ∧ data = g.dataSize ∧
            complex = g.complexBufferSize ∧ required = claimed ∧ budget = deviceBudget ∧
            available = device.toNat) ∧
      (∀ buffers transfer required budget available,
        decision = .error (.host buffers transfer required budget available) ↔
          (claimed ≤ deviceBudget ∧ hostBudget < buffered) ∧ buffers = limits.hostBuffers.toNat ∧
            transfer = g.transferSize ∧ required = buffered ∧ budget = hostBudget ∧
            available = host.toNat) ∧
      ∀ shortage, decision = .error shortage →
        shortage.allowed < shortage.required ∧ shortage.allowed ≤ shortage.available := by
  intro claimed buffered deviceBudget hostBudget decision
  refine ⟨g.weigh_eq_ok_iff_clipped plan device host limits, ?_, ?_, fun shortage hshortage => ?_⟩
  · intro plan' data complex required budget available
    refine (g.weigh_eq_error_iff plan device host limits _).trans ?_
    -- a shortage of the device is none of the host, so only one side is left
    simp only [deviceShortage, hostShortage, Shortage.device.injEq, reduceCtorEq, and_false,
      or_false]
    exact Iff.rfl
  · intro buffers transfer required budget available
    refine (g.weigh_eq_error_iff plan device host limits _).trans ?_
    simp only [deviceShortage, hostShortage, Shortage.host.injEq, reduceCtorEq, and_false,
      false_or, and_assoc]
    exact Iff.rfl
  · exact g.isBorneOut_of_weigh plan device host limits hshortage

end Geometry

end SpectralBench
