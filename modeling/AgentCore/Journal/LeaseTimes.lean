import AgentCore.Domain.Rfc3339
import AgentCore.Journal.Outbox
import AgentCore.Journal.Worker

/-! The tests of the lease queries as SQLite makes them, on the texts of the time columns. -/

namespace AgentCore.Journal

open Domain

def jobSelected (nowText : List UInt8) (r : WorkerJobRow) : Bool :=
  decide (toRfc3339 r.availableAt ≤ nowText ∧
    (r.status = .queued ∨ (r.status = .retryableFailed ∧ toRfc3339 r.availableAt ≤ nowText) ∨
      (r.status = .running ∧ ∀ t ∈ r.lockedUntil, toRfc3339 t ≤ nowText)))

def dispatchSelected (nowText : List UInt8) (r : OutboxRow) : Bool :=
  decide ((r.status = .pending ∨
      (r.status = .retryableFailed ∧ toRfc3339 r.availableAt ≤ nowText)) ∧
    toRfc3339 r.availableAt ≤ nowText)

theorem rfc3339_order :
    (∀ t t', FourDigitYear t → FourDigitYear t' →
      (toRfc3339 t < toRfc3339 t' ↔ t < t') ∧ (toRfc3339 t = toRfc3339 t' ↔ t = t')) ∧
    ∀ now : Timestamp, FourDigitYear now →
      (∀ r : WorkerJobRow, FourDigitYear r.availableAt → (∀ t ∈ r.lockedUntil, FourDigitYear t) →
        jobSelected (toRfc3339 now) r = (decide (r.availableAt ≤ now) && jobReady now r)) ∧
      ∀ r : OutboxRow, FourDigitYear r.availableAt →
        dispatchSelected (toRfc3339 now) r = leasable now r := by
  have hle : ∀ t now : Timestamp, FourDigitYear t → FourDigitYear now →
      (toRfc3339 t ≤ toRfc3339 now ↔ t ≤ now) := by
    intro t now ht hnow
    rw [toRfc3339_le_iff ht hnow, Int.ofNat_le]
  refine ⟨fun t t' ht ht' => ?_, fun now hnow =>
    ⟨fun r havailable hlocked => ?_, fun r havailable => ?_⟩⟩
  · refine ⟨⟨fun hlt => ?_, toRfc3339_lt ht ht'⟩, fun heq => ?_, congrArg _⟩
    · have hnot := mt (toRfc3339_le_iff ht' ht).mpr (List.not_le.mpr hlt)
      omega
    · have hle := (toRfc3339_le_iff ht ht').mp (heq ▸ List.le_refl _)
      have hge := (toRfc3339_le_iff ht' ht).mp (heq ▸ List.le_refl _)
      omega
  · have hexpired : (∀ t ∈ r.lockedUntil, toRfc3339 t ≤ toRfc3339 now) ↔
        ∀ t ∈ r.lockedUntil, t ≤ now :=
      forall₂_congr fun t hmem => hle t now (hlocked t hmem) hnow
    simp only [jobSelected, jobReady, hexpired, hle _ _ havailable hnow, Bool.decide_and]
  · simp only [dispatchSelected, leasable, hle _ _ havailable hnow]

theorem rfc3339_order_half_second : FourDigitYear 0 ∧ FourDigitYear 500000000 ∧
    toRfc3339 0 < toRfc3339 500000000 :=
  ⟨by decide, by decide, ((rfc3339_order.1 0 500000000 (by decide) (by decide)).1).mpr (by decide)⟩

end AgentCore.Journal
