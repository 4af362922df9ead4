import HubService.Proofs.Service.Admission
import Mathlib

/-!
# Which configurations a service can start with

Building a service makes two semaphores from its configuration: one of `max(concurrency, 1)`
permits for the frames served at once (`HubService.Service.ConnectionSettings.dispatchSlots`),
and one of `max(backlog, max(concurrency, 1))` for the frames admitted, served or waiting
(`HubService.Service.ConnectionSettings.admissionSlots`), with a backlog of 16 per unit of
concurrency. A semaphore holds at most `2^61 - 1` permits (`HubService.Service.permitLimit`), and
asking for more stops the program; whether both fit is what
`HubService.Service.ConnectionSettings.startable` decides.

The concurrency is clamped from below only, and sixteen times it, saturating at the largest count
a machine word holds, is what the admissions ask for.
So a service starts exactly when its dispatch concurrency is below `2^57`
(`HubService.Service.startable_iff_concurrency_lt`): any count from `2^57` up, which a
configuration accepts as a 64-bit count, makes a service that stops as soon as it is built
(`HubService.Service.concurrency_pow57_not_startable`).
-/

namespace HubService.Service

open HubService.Config

/-- The permits for frames served at once are never more than the admissions. -/
theorem ConnectionSettings.dispatchSlots_le_admissionSlots (s : ConnectionSettings) :
    s.dispatchSlots ≤ s.admissionSlots :=
  le_max_right _ _

/-- A service starts exactly when both of its semaphores fit. -/
theorem ConnectionSettings.startable_iff (s : ConnectionSettings) :
    s.startable = true ↔
      s.dispatchSlots ≤ permitLimit ∧ s.admissionSlots ≤ permitLimit := by
  rw [startable, decide_eq_true_iff]
  exact ⟨fun h => ⟨s.dispatchSlots_le_admissionSlots.trans h, h⟩, fun h => h.2⟩

theorem permitLimit_eq : permitLimit = 16 * Nat.pow 2 57 - 1 := by
  decide

/-- **A service starts exactly when its dispatch concurrency is below `2^57`**: for every
configuration, both semaphores that building the service makes fit exactly when the dispatch
concurrency is below `2^57`, and that is when the service can start. -/
theorem startable_iff_concurrency_lt (c : HubService.Config) :
    ((ConnectionSettings.ofConfig c).startable = true ↔
        (ConnectionSettings.ofConfig c).dispatchSlots ≤ permitLimit ∧
          (ConnectionSettings.ofConfig c).admissionSlots ≤ permitLimit) ∧
      ((ConnectionSettings.ofConfig c).startable = true ↔
        c.dispatchConcurrency < Nat.pow 2 57) := by
  refine ⟨ConnectionSettings.startable_iff _, ?_⟩
  rw [ConnectionSettings.startable, decide_eq_true_iff,
    ConnectionSettings.admissionSlots_ofConfig, permitLimit_eq, backlogPerSlot,
    HubService.Config.concurrency]
  -- sixteen times the clamped concurrency fits below `16 * 2^57` exactly when it is below `2^57`;
  -- a saturated product is the largest word, far above the limit
  have hpow : 2 ≤ Nat.pow 2 57 := by decide
  have hword : usizeMax = 128 * Nat.pow 2 57 - 1 := by decide
  rcases Nat.le_total c.dispatchConcurrency 1 with hle | hle
  · rw [max_eq_right hle]
    split <;> omega
  · rw [max_eq_left hle]
    split <;> omega

/-- **A dispatch concurrency of `2^57` makes a service that cannot start**: its admissions ask
for `2^61` permits, one more than a semaphore holds. -/
theorem concurrency_pow57_not_startable :
    permitLimit <
        (ConnectionSettings.ofConfig { dispatchConcurrency := Nat.pow 2 57 }).admissionSlots ∧
      (ConnectionSettings.ofConfig { dispatchConcurrency := Nat.pow 2 57 }).startable = false := by
  decide

end HubService.Service
