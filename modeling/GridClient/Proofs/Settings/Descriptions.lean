import GridClient.Proofs.Text.Quoted
import GridClient.Settings.Basic

/-!
# `GridClient.Proofs.Settings.Descriptions` — what is told from the descriptions of settings

Two hosts, or two ways of sending requests, have the same description only if they are the same. Two
accounts have the same description exactly if they have the same user name, so what is told of all
settings is everything except the password.

## Contents
- `Host.describe_inj`, `TlsMode.describe_inj`, `TransportSettings.describe_inj`: all is told.
- `Credentials.describe_eq_iff`, `Settings.describe_eq_iff`: all but the password is told.
- `toldApart_describe` for each: where descriptions stand in records.
-/

namespace GridClient

open Text

namespace Host

@[simp] theorem toldApart_describe (h h' : Host) : ToldApart h.describe h'.describe := by
  unfold describe
  exact toldApart_record (by simp)

/-- **A host is told from its description.** -/
@[simp] theorem describe_inj {h h' : Host} : h.describe = h'.describe ↔ h = h' := by
  unfold describe
  rw [record_inj]
  · cases h
    cases h'
    simp
  · simp

end Host

namespace Credentials

@[simp] theorem toldApart_describe (c c' : Credentials) : ToldApart c.describe c'.describe := by
  unfold describe
  exact toldApart_record (by simp)

/-- **Of an account the user name is told**, and the password is not. -/
@[simp] theorem describe_eq_iff {c c' : Credentials} :
    c.describe = c'.describe ↔ c.username = c'.username := by
  unfold describe
  rw [record_inj]
  · simp
  · simp

end Credentials

namespace TlsMode

theorem selfDelimiting_describe : SelfDelimiting describe := by
  intro m m' rest rest' h
  cases m <;> cases m' <;> simp [describe] at h ⊢
  case bundle.bundle => exact (quote_append_inj.mp h).1

@[simp] theorem toldApart_describe (m m' : TlsMode) : ToldApart m.describe m'.describe :=
  selfDelimiting_describe.toldApart m m'

@[simp] theorem describe_inj {m m' : TlsMode} : m.describe = m'.describe ↔ m = m' :=
  selfDelimiting_describe.inj

end TlsMode

namespace TransportSettings

@[simp] theorem toldApart_describe (t t' : TransportSettings) :
    ToldApart t.describe t'.describe := by
  unfold describe
  exact toldApart_record (by simp)

@[simp] theorem describe_inj {t t' : TransportSettings} : t.describe = t'.describe ↔ t = t' := by
  unfold describe
  rw [record_inj]
  · cases t
    cases t'
    simp [UInt64.toNat_inj]
  · simp

end TransportSettings

namespace Settings

/-- **Of all settings everything but the password is told.** -/
theorem describe_eq_iff {s s' : Settings} :
    s.describe = s'.describe
      ↔ s.host = s'.host ∧ s.credentials.username = s'.credentials.username
        ∧ s.transport = s'.transport := by
  unfold describe
  rw [record_inj]
  · simp
  · simp

end Settings
end GridClient
