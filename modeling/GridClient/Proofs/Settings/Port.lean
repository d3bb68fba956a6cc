import GridClient.Proofs.Decimal.Numeral
import GridClient.Settings.Basic

/-!
# `GridClient.Proofs.Settings.Port` — the port of a host that passes its check

The check reads the port as a number, and the addresses of requests take its text as it stands. The
reader of numbers lets a sign stand before the digits. So a port that passes is digits alone, or
digits after a sign, and in the second case the sign stands in every address.

## Contents
- `signedText_iff`: the texts of a number by their sign and their digits.
- `Host.check_eq_ok_iff_signedText`, `check_eq_ok_iff`: the hosts that pass, and what they give for
  an address.
- `Host.sign_taken_for_port`: one whose port is more than digits.
-/

namespace GridClient

/-! ## Texts of a number -/

theorem signedText_iff {n : Nat} {s : String} :
    SignedText n s ↔ ∃ sign digits, (sign = "" ∨ sign = "+") ∧ DecimalText n digits
      ∧ s = sign ++ digits := by
  constructor
  · rintro (hdigits | ⟨digits, rfl, hdigits⟩)
    · exact ⟨"", s, .inl rfl, hdigits, (String.empty_append).symm⟩
    · exact ⟨"+", digits, .inr rfl, hdigits, rfl⟩
  · rintro ⟨sign, digits, rfl | rfl, hdigits, rfl⟩
    · rw [String.empty_append]
      exact .inl hdigits
    · exact .inr ⟨digits, rfl, hdigits⟩

namespace Host

/-- **A host passes** if it and the version are not empty and its port reads as a number. -/
theorem check_eq_ok_iff_signedText {h : Host} :
    h.check = .ok () ↔ h.host ≠ "" ∧ h.version ≠ "" ∧ ∃ n ≤ greatestPort, SignedText n h.port := by
  have hread : (Decimal.read? greatestPort h.port.toList).isNone = false
      ↔ ∃ n ≤ greatestPort, SignedText n h.port := by
    rw [Option.isNone_eq_false_iff, Option.isSome_iff_exists]
    exact exists_congr fun n => Decimal.read?_eq_some_iff
  rw [← hread]
  unfold check misconfigured
  by_cases hhost : h.host = ""
  · simp [hhost]
  by_cases hversion : h.version = ""
  · simp [hhost, hversion]
  cases hport : (Decimal.read? greatestPort h.port.toList).isNone <;> simp [hhost, hversion]

/-- **Which hosts pass their check.** A host passes exactly if it and its version are not empty and
its port is the digits of a number up to the greatest port, after a sign or as they stand. Sign and
digits then stand between host and path in the address that all requests begin with. -/
theorem check_eq_ok_iff (h : Host) :
    h.check = .ok () ↔ h.host ≠ "" ∧ h.version ≠ "" ∧
      ∃ n ≤ greatestPort, ∃ sign digits, (sign = "" ∨ sign = "+") ∧ DecimalText n digits
        ∧ h.port = sign ++ digits
        ∧ h.baseUrl
          = "https://" ++ h.host ++ ":" ++ sign ++ digits ++ "/wapi/v" ++ h.version ++ "/" := by
  rw [check_eq_ok_iff_signedText]
  simp only [signedText_iff]
  constructor
  · rintro ⟨hhost, hversion, n, hn, sign, digits, hsign, hdigits, hport⟩
    refine ⟨hhost, hversion, n, hn, sign, digits, hsign, hdigits, hport, ?_⟩
    rw [baseUrl, hport]
    simp only [String.append_assoc]
  · rintro ⟨hhost, hversion, n, hn, sign, digits, hsign, hdigits, hport, -⟩
    exact ⟨hhost, hversion, n, hn, sign, digits, hsign, hdigits, hport⟩

/-- A port with a sign passes and stands in the address. -/
theorem sign_taken_for_port :
    let h : Host := { host := "gm.example.com", port := "+443" }
    h.check = .ok () ∧ h.baseUrl = "https://gm.example.com:+443/wapi/v2.12.3/"
      ∧ ¬ ∃ n ≤ greatestPort, DecimalText n h.port := by
  intro h
  have hread : Decimal.read? greatestPort h.port.toList = some 443 := by decide
  have hport : SignedText 443 h.port := (Decimal.read?_eq_some_iff.mp hread).2
  refine ⟨check_eq_ok_iff_signedText.mpr ⟨by decide, by decide, 443, by decide, hport⟩, by decide,
    ?_⟩
  rintro ⟨n, -, -, hdigits, -⟩
  exact absurd (hdigits '+' (by decide)) (by decide)

end Host
end GridClient
