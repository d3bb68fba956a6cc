import GridClient.Proofs.Text.Base64
import GridClient.Request.Endpoint

/-!
# `GridClient.Proofs.Request.Authorization` — the account that a request presents

A request presents its account as a user name and a password with a colon between them, in octets
and then in letters. The letters give the octets back, and the octets the text. Where the user name
ends is told by the first colon, so accounts whose user names have none are told apart.

## Contents
- `Credentials.joined`: the account as one text; `joined_inj_iff`: what is told from it.
- `Credentials.authorization_inj_iff`: what is told from the value that is sent.
- `Request.presented?`, `Endpoint.presented?_request`: the value in a request.
- `Endpoint.account_survives`: both for all requests.
-/

namespace GridClient

open Text

/-! ## The value -/

namespace Credentials

variable {c c' : Credentials}

/-- The account as it is presented, before it is encoded. -/
def joined (c : Credentials) : String := c.username ++ ":" ++ c.password

/-- Without a colon in the user names, user name and password are told from the joined text. -/
theorem joined_inj_iff (h : ':' ∉ c.username.toList) (h' : ':' ∉ c'.username.toList) :
    c.joined = c'.joined ↔ c.username = c'.username ∧ c.password = c'.password := by
  have hcut : ∀ {a : Credentials}, ':' ∉ a.username.toList →
      cutFirst? ':' a.joined = some (a.username, a.password) := by
    intro a ha
    refine cutFirst?_eq_some_iff.mpr ⟨?_, ha⟩
    simp [joined]
  constructor
  · intro heq
    have hparts := hcut h
    rw [heq, hcut h'] at hparts
    obtain ⟨husername, hpassword⟩ := Prod.mk.inj (Option.some.inj hparts)
    exact ⟨husername.symm, hpassword.symm⟩
  · rintro ⟨husername, hpassword⟩
    rw [joined, joined, husername, hpassword]

theorem authorization_eq (c : Credentials) :
    c.authorization = "Basic " ++ String.ofList (Base64.encode (Utf8.encode c.joined)) := rfl

/-- The values are the same exactly where the joined texts are. -/
theorem authorization_inj_iff : c.authorization = c'.authorization ↔ c.joined = c'.joined := by
  constructor
  · intro h
    rw [authorization_eq, authorization_eq, String.append_right_inj, String.ofList_inj] at h
    exact Utf8.encode_injective (Base64.encode_injective h)
  · intro h
    rw [authorization_eq, authorization_eq, h]

end Credentials

/-! ## The request -/

/-- The value by which a request presents an account. -/
def Request.presented? (r : Request) : Option String := r.headers.get? "Authorization"

namespace Endpoint

/-- Without layers, a request presents the account of its endpoint. -/
theorem presented?_request (host : Host) (c : Credentials) (operation : Operation)
    (object : Option Snapshot) (reference : String) (query : Query) :
    (({ host, credentials := c } : Endpoint).request operation object reference query).presented?
      = some c.authorization := by
  have hother : sameIgnoringCase "Content-Type" "Authorization" = false := by decide
  simp [Request.presented?, request, baseHeaders, Headers.get?, hother]

/-- **An account survives its encoding.** The value by which a request presents an account is the
word `Basic` and a padded text in the standard letters: the only one that writes the octets of user
name, colon and password, and the only one from which these octets are read. Two requests, whatever
else they are for, present user names without colons by the same value only if user names and
passwords are the same. -/
theorem account_survives (host : Host) (c : Credentials) (operation : Operation)
    (object : Option Snapshot) (reference : String) (query : Query) :
    let r := ({ host, credentials := c } : Endpoint).request operation object reference query
    let octets := Utf8.encode (c.username ++ ":" ++ c.password)
    (∃ text, r.presented? = some ("Basic " ++ String.ofList text)
        ∧ (∀ other, Base64.Writes octets other ↔ other = text)
        ∧ ∀ other, Base64.decode? other = some octets ↔ other = text)
      ∧ ∀ host' c' operation' object' reference' query',
          let r' := ({ host := host', credentials := c' } : Endpoint).request operation' object'
            reference' query'
          ':' ∉ c.username.toList → ':' ∉ c'.username.toList →
          (r.presented? = r'.presented?
            ↔ c.username = c'.username ∧ c.password = c'.password) := by
  intro r octets
  have hpresented : r.presented? = some c.authorization :=
    presented?_request host c operation object reference query
  refine ⟨⟨Base64.encode (Utf8.encode c.joined), ?_, ?_, ?_⟩, ?_⟩
  · exact hpresented
  · intro other
    rw [Base64.writes_iff, eq_comm]
    rfl
  · intro other
    rw [Base64.decode?_eq_some_iff, eq_comm]
    rfl
  · intro host' c' operation' object' reference' query' r' h h'
    have hpresented' : r'.presented? = some c'.authorization :=
      presented?_request host' c' operation' object' reference' query'
    rw [hpresented, hpresented', Option.some.injEq, Credentials.authorization_inj_iff,
      Credentials.joined_inj_iff h h']

/-- Where the password has the colon, the passwords are told apart. -/
theorem account_survives_of_colon :
    let host : Host := { host := "gm.example.com" }
    let c : Credentials := ⟨"admin", "a:b"⟩
    let c' : Credentials := ⟨"admin", "a:c"⟩
    ':' ∉ c.username.toList ∧ ':' ∉ c'.username.toList
      ∧ (({ host, credentials := c } : Endpoint).request .get none "" {}).presented?
        ≠ (({ host, credentials := c' } : Endpoint).request .get none "" {}).presented? := by
  intro host c c'
  have h : ':' ∉ c.username.toList := by decide
  have h' : ':' ∉ c'.username.toList := by decide
  refine ⟨h, h', fun heq => ?_⟩
  have hsame := ((account_survives host c .get none "" {}).2 host c' .get none "" {} h h').mp heq
  exact absurd hsame.2 (by decide)

/-- A colon in a user name is taken for the one between user name and password. -/
example : Credentials.authorization ⟨"a:b", "c"⟩ = Credentials.authorization ⟨"a", "b:c"⟩ := by
  decide

end Endpoint
end GridClient
