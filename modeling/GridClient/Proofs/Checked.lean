import GridClient.Required
import GridClient.Session.Basic

/-!
# `GridClient.Proofs.Checked` — sequences of local checks

## Contents
- `bind_eq_ok`: two checks in sequence pass when both do; `eq_ok_of_bind`: the second one.
- `map_eq_ok`: a check with a pure step after it.
- `require_of_nonblank`, `require_of_blank`: when a required argument passes.
- `runIn_lift_bind`, `runIn_lift_bind_error`: a session that begins with a local check.
-/

namespace GridClient

theorem bind_eq_ok {ε α β : Type} {x : Except ε α} {f : α → Except ε β} {b : β} :
    (x >>= f) = .ok b ↔ ∃ a, x = .ok a ∧ f a = .ok b := by
  cases x <;> simp [bind, Except.bind]

theorem map_eq_ok {ε α β : Type} {x : Except ε α} {f : α → β} {b : β} :
    x.map f = .ok b ↔ ∃ a, x = .ok a ∧ f a = b := by
  cases x <;> simp [Except.map]

/-- What passes after a check passes by itself. -/
theorem eq_ok_of_bind {ε α β : Type} {x : Except ε α} {y : Except ε β} {b : β}
    (h : (x >>= fun _ => y) = .ok b) : y = .ok b := by
  obtain ⟨-, -, hy⟩ := bind_eq_ok.mp h
  exact hy

/-! ## Required arguments -/

theorem require_of_nonblank {value : String} (field : String)
    (h : Text.isBlankText value = false) : require field value = .ok () := by
  simp [require, h]

theorem require_of_blank {value : String} (field : String) (h : Text.isBlankText value = true) :
    require field value = .error (.validation (.required field)) := by
  simp [require, h, refuse]

/-- What is not blank is not empty. -/
theorem ne_empty_of_nonblank {value : String} (h : Text.isBlankText value = false) :
    value ≠ "" := by
  rintro rfl
  exact absurd h (by decide)

/-! ## Checks at the beginning of a session -/

namespace Session

variable {σ α β : Type}

theorem runIn_lift_bind {x : Checked α} {a : α} (h : x = .ok a) (f : α → Session σ β)
    (w : World σ) : (lift x >>= f).runIn w = (f a).runIn w := by
  rw [runIn_bind, runIn_lift, h]

theorem runIn_lift_bind_error {x : Checked α} {e : Error} (h : x = .error e)
    (f : α → Session σ β) (w : World σ) : (lift x >>= f).runIn w = (.error e, w) := by
  rw [runIn_bind, runIn_lift, h]

end Session
end GridClient
