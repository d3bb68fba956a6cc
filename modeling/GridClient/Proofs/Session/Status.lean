import GridClient.Proofs.Json.Record
import GridClient.Response

/-!
# `GridClient.Proofs.Session.Status` — what is made of an answer's status and body

An answer is a success by its status alone. Of a failure the body tells a code and a text, when it
is a record of the two: with an outer form that can be read, and either of them a text or missing.
A body that is no such record tells nothing, whatever else is in it.

## Contents
- `ErrorBody.ToldBy`, `ErrorBody.ToldIn`: what a document and what a body tell.
- `ErrorBody.ofOctets_eq_iff`: the reader finds that.
- `Response.Outcome`: success, absence or another failure.
- `Response.check_eq_iff`: the check of an answer comes to that outcome.
-/

namespace GridClient

open Text (Octets)

/-! ## What a body tells -/

namespace ErrorBody

variable {b : ErrorBody} {d : Document} {body : Octets}

/-- Code and text are what a document tells, which has the outer form of a record of them. -/
structure ToldBy (b : ErrorBody) (d : Document) : Prop where
  accepts : layout.Accepts d
  code : d.TellsText layout.names "code" b.code
  text : d.TellsText layout.names "text" b.text

/-- Code and text are what a body tells: that of a document which is a record of them, and nothing
of any other. -/
inductive ToldIn (body : Octets) : ErrorBody → Prop
  | told {d : Document} {b : ErrorBody} (hread : Document.read body = some d) (h : b.ToldBy d) :
    ToldIn body b
  | nothing (h : ∀ d, Document.read body = some d → ∀ b : ErrorBody, ¬ b.ToldBy d) : ToldIn body {}

theorem nodup_names : layout.names.Nodup := by decide

/-- The reader finds what a document tells. -/
theorem ofDocument?_eq_some_iff : ofDocument? d = some b ↔ b.ToldBy d := by
  have hparts : ofDocument? d = some b ↔ ∃ members, layout.members? d = some members
      ∧ members.orElse? "code" Document.toText? "" = some b.code
      ∧ members.orElse? "text" Document.toText? "" = some b.text := by
    unfold ofDocument?
    simp only [Option.bind_eq_bind, Option.bind_eq_some_iff, Option.some.injEq]
    refine exists_congr fun members => and_congr_right fun _ => ?_
    constructor
    · rintro ⟨code, hcode, text, htext, rfl⟩
      exact ⟨hcode, htext⟩
    · rintro ⟨hcode, htext⟩
      exact ⟨b.code, hcode, b.text, htext, rfl⟩
  rw [hparts]
  constructor
  · rintro ⟨members, hmembers, hcode, htext⟩
    exact {
      accepts := Layout.exists_members?_iff.mp ⟨members, hmembers⟩
      code := (Layout.text_eq_some_iff nodup_names hmembers (by decide)).mp hcode
      text := (Layout.text_eq_some_iff nodup_names hmembers (by decide)).mp htext }
  · intro h
    obtain ⟨members, hmembers⟩ := Layout.exists_members?_iff.mpr h.accepts
    exact ⟨members, hmembers,
      (Layout.text_eq_some_iff nodup_names hmembers (by decide)).mpr h.code,
      (Layout.text_eq_some_iff nodup_names hmembers (by decide)).mpr h.text⟩

/-- **The reader finds what a body tells.** -/
theorem ofOctets_eq_iff : ofOctets body = b ↔ ToldIn body b := by
  unfold ofOctets
  cases hbody : Document.read body >>= ofDocument? with
  | some told =>
      obtain ⟨d, hread, htold⟩ := Option.bind_eq_some_iff.mp hbody
      rw [Option.getD_some]
      constructor
      · rintro rfl
        exact .told hread (ofDocument?_eq_some_iff.mp htold)
      · intro h
        cases h with
        | told hread' h =>
            rw [hread] at hread'
            cases hread'
            rw [ofDocument?_eq_some_iff.mpr h] at htold
            exact (Option.some.inj htold).symm
        | nothing h => exact absurd (ofDocument?_eq_some_iff.mp htold) (h d hread told)
  | none =>
      have hnone : ∀ d, Document.read body = some d → ofDocument? d = none := by
        intro d hread
        rw [hread] at hbody
        exact hbody
      rw [Option.getD_none]
      constructor
      · rintro rfl
        refine .nothing fun d hread told h => ?_
        have hsome := ofDocument?_eq_some_iff.mpr h
        rw [hnone d hread] at hsome
        cases hsome
      · intro h
        cases h with
        | told hread h =>
            have hsome := ofDocument?_eq_some_iff.mpr h
            rw [hnone _ hread] at hsome
            cases hsome
        | nothing => rfl

/-- The code is one for absent data. -/
def TellsAbsence (b : ErrorBody) : Prop := "Data.NotFound".toList <:+ b.code.toList

theorem isAbsence_iff : b.isAbsence = true ↔ b.TellsAbsence := List.isSuffixOf_iff_suffix

end ErrorBody

/-! ## What becomes of an answer -/

namespace Response

/-- What is said of a failure: the text that the body tells, or the whole body where that is
empty. -/
def messageOf (r : Response) (told : ErrorBody) : String :=
  if told.text = "" then r.text else told.text

/-- What becomes of an answer: the body of a success; or absence of the target, by status or by what
the body tells; or another failure with its status. -/
inductive Outcome (r : Response) (target : String) : Checked Octets → Prop
  | success (hstatus : 200 ≤ r.status ∧ r.status ≤ 299) : Outcome r target (.ok r.body)
  | absent {told : ErrorBody} (hstatus : ¬ (200 ≤ r.status ∧ r.status ≤ 299))
    (htold : ErrorBody.ToldIn r.body told) (habsent : r.status = 404 ∨ told.TellsAbsence) :
    Outcome r target (.error (.notFound target (r.messageOf told)))
  | failed {told : ErrorBody} (hstatus : ¬ (200 ≤ r.status ∧ r.status ≤ 299))
    (htold : ErrorBody.ToldIn r.body told) (hpresent : ¬ (r.status = 404 ∨ told.TellsAbsence)) :
    Outcome r target (.error (.http r.status (r.messageOf told)))

theorem isSuccess_iff {r : Response} :
    r.isSuccess = true ↔ 200 ≤ r.status ∧ r.status ≤ 299 := by
  unfold isSuccess
  rw [Bool.and_eq_true, decide_eq_true_eq, decide_eq_true_eq]
  omega

theorem outcome_check (r : Response) (target : String) : r.Outcome target (r.check target) := by
  have htold : ErrorBody.ToldIn r.body (ErrorBody.ofOctets r.body) :=
    ErrorBody.ofOctets_eq_iff.mp rfl
  unfold check
  by_cases hstatus : r.isSuccess = true
  · rw [if_pos hstatus]
    exact .success (isSuccess_iff.mp hstatus)
  · rw [if_neg hstatus]
    have hfailure := fun h => hstatus (isSuccess_iff.mpr h)
    by_cases habsent : r.status = 404 ∨ (ErrorBody.ofOctets r.body).isAbsence = true
    · rw [if_pos habsent]
      exact .absent hfailure htold (habsent.imp_right ErrorBody.isAbsence_iff.mp)
    · rw [if_neg habsent]
      exact .failed hfailure htold fun h => habsent (h.imp_right ErrorBody.isAbsence_iff.mpr)

theorem Outcome.unique {r : Response} {target : String} {x y : Checked Octets}
    (hx : r.Outcome target x) (hy : r.Outcome target y) : x = y := by
  have htold : ∀ {a b : ErrorBody}, ErrorBody.ToldIn r.body a → ErrorBody.ToldIn r.body b → a = b :=
    fun ha hb => (ErrorBody.ofOctets_eq_iff.mpr ha).symm.trans (ErrorBody.ofOctets_eq_iff.mpr hb)
  cases hx with
  | success hstatus =>
      cases hy with
      | success => rfl
      | absent hstatus' | failed hstatus' => exact absurd hstatus hstatus'
  | absent hstatus ha habsent =>
      cases hy with
      | success hstatus' => exact absurd hstatus' hstatus
      | absent _ hb => rw [htold ha hb]
      | failed _ hb hpresent => exact absurd (htold ha hb ▸ habsent) hpresent
  | failed hstatus ha hpresent =>
      cases hy with
      | success hstatus' => exact absurd hstatus' hstatus
      | absent _ hb habsent => exact absurd (htold ha hb ▸ habsent) hpresent
      | failed _ hb => rw [htold ha hb]

/-- **The check of an answer**, of every status and every body. From 200 to 299 it is a success with
the body as it came. Any other is absence of the target when the status is 404 or the body is a
record whose code ends as one for absent data, and else a failure with that status. Either comes
with the text that such a record tells, or with the whole body where that is empty or the body is
no such record. -/
theorem check_eq_iff (r : Response) (target : String) (outcome : Checked Octets) :
    r.check target = outcome ↔ r.Outcome target outcome := by
  constructor
  · rintro rfl
    exact r.outcome_check target
  · intro h
    exact (r.outcome_check target).unique h

/-- Absence is missed when the text beside its code is `null`, and found in an array of texts. -/
theorem absence_misjudged :
    check ⟨400, Text.Utf8.encode "\x7b\"code\":\"Client.Ibap.Data.NotFound\",\"text\":null\x7d"⟩
        "network/ZG5z:x"
      = .error (.http 400 "\x7b\"code\":\"Client.Ibap.Data.NotFound\",\"text\":null\x7d")
    ∧ check ⟨400, Text.Utf8.encode "[\"Client.Ibap.Data.NotFound\",\"gone\"]"⟩ "network/ZG5z:x"
      = .error (.notFound "network/ZG5z:x" "gone") :=
  ⟨rfl, rfl⟩

end Response
end GridClient
