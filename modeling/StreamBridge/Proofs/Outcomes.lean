/-! Computations that may fail. A result tells of every step that there was before it. -/

namespace StreamBridge.Proofs.Outcomes

variable {ε δ α β : Type}

theorem bind_ok {first : Except ε α} {next : α → Except ε β} {result : β}
    (made : first >>= next = .ok result) :
    ∃ value, first = .ok value ∧ next value = .ok result := by
  cases first with
  | error => cases made
  | ok value => exact ⟨value, rfl, made⟩

theorem mapError_ok {wrap : ε → δ} {first : Except ε α} {value : α}
    (made : first.mapError wrap = .ok value) : first = .ok value := by
  cases first with
  | error => cases made
  | ok =>
    cases made
    rfl

end StreamBridge.Proofs.Outcomes
