import GridClient.Proofs.Request.Layers

/-!
# `GridClient.Proofs.Request.Replacement` — what is left of headers set one by one

To set a header drops all headers of its name, in whatever letter case, and puts the new one at the
end. After any number of such steps the result can be told without going through them. Headers whose
name was never set are kept as they stood, repeated ones too. After them come the ones that were
set, each name once, as it was set last, and in the order of those last times.

## Contents
- `Headers.named`, `Headers.without`: the headers of one name, and those of no name in a list.
- `Headers.lasting`: of headers set in order, the last of each name.
- `Headers.setAll_eq`: what setting headers in order leaves.
- `Headers.named_lasting`, `Headers.named_setAll`: what then stands under each name.
- `Headers.SetsLast`, `Headers.SetsBefore`: when a name is set last, and before which other ones;
  `mem_lasting_iff`, `pairwise_lasting`.
- `Request.set_headers_replace`: all of it, for any request.
-/

namespace GridClient

open Text

namespace Headers

variable {headers added later : Headers} {h k : String × String} {name : String}

/-! ## The headers of a name -/

/-- The headers of a name, in order. -/
def named (headers : Headers) (name : String) : Headers :=
  headers.filter fun h => sameIgnoringCase h.1 name

/-- The headers whose name none of `added` has, in order. -/
def without (headers added : Headers) : Headers :=
  headers.filter fun h => (added.named h.1).isEmpty

theorem named_cons_of_same (hname : sameIgnoringCase h.1 name = true) (headers : Headers) :
    named (h :: headers) name = h :: named headers name :=
  List.filter_cons_of_pos hname

theorem named_cons_of_other (hname : ¬ sameIgnoringCase h.1 name = true) (headers : Headers) :
    named (h :: headers) name = named headers name :=
  List.filter_cons_of_neg hname

theorem named_append (headers more : Headers) (name : String) :
    named (headers ++ more) name = named headers name ++ named more name := by
  unfold named
  rw [List.filter_append]

/-- What is found under a name is the first header of it. -/
theorem get?_eq_head?_named (headers : Headers) (name : String) :
    headers.get? name = (headers.named name).head?.map Prod.snd := by
  unfold get? named
  rw [List.head?_filter]

/-- Names that differ in case alone are names of the same headers. -/
theorem named_congr {other : String} (hsame : sameIgnoringCase name other = true)
    (headers : Headers) : named headers name = named headers other := by
  unfold named
  congr 1
  funext h
  exact sameIgnoringCase_congr hsame h.1

/-- Under a name all is kept, or nothing. -/
theorem named_without (headers added : Headers) (name : String) :
    named (headers.without added) name
      = if added.named name = [] then headers.named name else [] := by
  have hfilter : named (headers.without added) name
      = (headers.named name).filter fun h => (added.named h.1).isEmpty := by
    unfold without named
    rw [List.filter_filter, List.filter_filter]
    congr 1
    funext h
    exact Bool.and_comm _ _
  have hof : ∀ h ∈ headers.named name, added.named h.1 = added.named name := by
    intro h hmem
    exact named_congr (List.mem_filter.mp hmem).2 added
  rw [hfilter]
  by_cases hnone : added.named name = []
  · rw [if_pos hnone, List.filter_eq_self]
    intro h hmem
    rw [hof h hmem, hnone]
    rfl
  · rw [if_neg hnone, List.filter_eq_nil_iff]
    intro h hmem
    rw [hof h hmem, List.isEmpty_iff]
    exact hnone

/-! ## What is left of a sequence -/

/-- Of headers set in order, the ones that no later one of the same name replaces. -/
def lasting : Headers → Headers
  | [] => []
  | h :: later => if named later h.1 = [] then h :: lasting later else lasting later

/-- **One header set before others** leaves what is of other names, and itself where none of the
others has its name. -/
theorem without_set (headers : Headers) (h : String × String) (later : Headers) :
    (headers.set h.1 h.2).without later
      = headers.without (h :: later) ++ if later.named h.1 = [] then [h] else [] := by
  have hkept : ∀ k : String × String,
      ((later.named k.1).isEmpty && !sameIgnoringCase k.1 h.1)
        = (named (h :: later) k.1).isEmpty := by
    intro k
    rw [sameIgnoringCase_symm]
    by_cases hname : sameIgnoringCase h.1 k.1 = true
    · simp [named_cons_of_same hname, hname]
    · simp [named_cons_of_other hname, hname]
  unfold set without
  rw [List.filter_append, List.filter_filter]
  simp only [hkept]
  by_cases hnone : later.named h.1 = []
  · simp [hnone]
  · simp [hnone]

/-- **Headers set in order** leave what is of other names, and after it the last of each name. -/
theorem setAll_eq (headers added : Headers) :
    headers.setAll added = headers.without added ++ added.lasting := by
  induction added generalizing headers with
  | nil =>
      have hall : headers.without [] = headers := List.filter_eq_self.mpr fun h _ => rfl
      rw [hall, lasting, List.append_nil]
      rfl
  | cons h later ih =>
      have hstep : headers.setAll (h :: later) = (headers.set h.1 h.2).setAll later := rfl
      rw [hstep, ih, without_set, List.append_assoc, lasting]
      by_cases hnone : named later h.1 = []
      · simp [hnone]
      · simp [hnone]

/-- The last of each name is left once. -/
theorem named_lasting (added : Headers) (name : String) :
    named added.lasting name = (added.named name).getLast?.toList := by
  induction added with
  | nil => rfl
  | cons h later ih =>
      rw [lasting]
      by_cases hname : sameIgnoringCase h.1 name = true
      · rw [named_congr hname later, named_cons_of_same hname]
        by_cases hnone : named later name = []
        · -- no later one has the name, so this is the last of it
          rw [if_pos hnone, named_cons_of_same hname, ih, hnone]
          rfl
        · rw [if_neg hnone, ih, List.getLast?_cons_of_ne_nil hnone]
      · rw [named_cons_of_other hname]
        by_cases hnone : named later h.1 = []
        · rw [if_pos hnone, named_cons_of_other hname, ih]
        · rw [if_neg hnone, ih]

/-- **Under each name** stands the header set last, alone, or else all that stood there before. -/
theorem named_setAll (headers added : Headers) (name : String) :
    named (headers.setAll added) name
      = match (added.named name).getLast? with
        | some last => [last]
        | none => headers.named name := by
  rw [setAll_eq, named_append, named_without, named_lasting]
  cases hlast : (added.named name).getLast? with
  | none =>
      rw [if_pos (List.getLast?_eq_none_iff.mp hlast)]
      exact List.append_nil _
  | some last =>
      have hne : added.named name ≠ [] := by
        intro hnone
        simp [hnone] at hlast
      rw [if_neg hne]
      rfl

/-! ## The order -/

/-- A header sets its name for the last time, and `later` are those set after it. -/
def SetsLast (added : Headers) (h : String × String) (later : Headers) : Prop :=
  (∃ earlier, added = earlier ++ h :: later) ∧ later.named h.1 = []

/-- The name of `h` is set for the last time before the name of `k` is. -/
def SetsBefore (added : Headers) (h k : String × String) : Prop :=
  ∃ later, added.SetsLast h later ∧ ∃ rest, later.SetsLast k rest

theorem setsLast_cons_iff :
    SetsLast (k :: added) h later ↔ (k = h ∧ added = later ∧ named added k.1 = [])
      ∨ added.SetsLast h later := by
  constructor
  · rintro ⟨⟨earlier, heq⟩, hnone⟩
    cases earlier with
    | nil =>
        obtain ⟨rfl, rfl⟩ := List.cons.inj heq
        exact .inl ⟨rfl, rfl, hnone⟩
    | cons _ earlier => exact .inr ⟨⟨earlier, (List.cons.inj heq).2⟩, hnone⟩
  · rintro (⟨rfl, rfl, hnone⟩ | ⟨⟨earlier, rfl⟩, hnone⟩)
    · exact ⟨⟨[], rfl⟩, hnone⟩
    · exact ⟨⟨k :: earlier, rfl⟩, hnone⟩

theorem SetsBefore.cons (hbefore : added.SetsBefore h k) (first : String × String) :
    SetsBefore (first :: added) h k := by
  obtain ⟨later, hlast, hrest⟩ := hbefore
  exact ⟨later, setsLast_cons_iff.mpr (.inr hlast), hrest⟩

/-- The ones left are those that set their name for the last time. -/
theorem mem_lasting_iff : h ∈ added.lasting ↔ ∃ later, added.SetsLast h later := by
  induction added with
  | nil => simp [lasting, SetsLast]
  | cons k added ih =>
      simp only [lasting, setsLast_cons_iff, exists_or, ← ih]
      by_cases hnone : named added k.1 = []
      · simp [hnone, eq_comm]
      · simp [hnone]

/-- **The ones left stand in the order** in which their names are set for the last time. -/
theorem pairwise_lasting (added : Headers) : added.lasting.Pairwise added.SetsBefore := by
  induction added with
  | nil => exact .nil
  | cons h added ih =>
      have hrest : (lasting added).Pairwise (SetsBefore (h :: added)) := by
        apply ih.imp
        intro a b hbefore
        exact hbefore.cons h
      rw [lasting]
      by_cases hnone : named added h.1 = []
      · rw [if_pos hnone, List.pairwise_cons]
        refine ⟨?_, hrest⟩
        intro k hmem
        exact ⟨added, setsLast_cons_iff.mpr (.inl ⟨rfl, rfl, hnone⟩), mem_lasting_iff.mp hmem⟩
      · rw [if_neg hnone]
        exact hrest

end Headers

/-! ## The theorem -/

/-- **Headers set one by one on a request.** Nothing else of the request changes. The headers whose
names were never set are all kept in their order, and after them stand those that set a name for the
last time, in the order of these last times. So under each name stands the header set last, alone
and as it was spelled, or else all that stood there before. And what is found under a name is the
last value set, or else the first value that was there. -/
theorem Request.set_headers_replace (r : Request) (added : Headers) :
    let after := added.foldl (fun r h => r.setHeader h.1 h.2) r
    (after.method = r.method ∧ after.url = r.url ∧ after.body = r.body)
      ∧ (∃ set : Headers, after.headers = r.headers.without added ++ set
        ∧ (∀ h, h ∈ set ↔ ∃ later, added.SetsLast h later)
        ∧ set.Pairwise added.SetsBefore)
      ∧ (∀ name, after.headers.named name
        = match (added.named name).getLast? with
          | some last => [last]
          | none => r.headers.named name)
      ∧ ∀ name, after.headers.get? name
        = match (added.named name).getLast? with
          | some last => some last.2
          | none => (r.headers.named name).head?.map Prod.snd := by
  intro after
  have hafter : after = { r with headers := r.headers.setAll added } :=
    Builder.foldl_setHeader added r
  rw [hafter]
  refine ⟨⟨rfl, rfl, rfl⟩, ⟨added.lasting, r.headers.setAll_eq added, ?_, ?_⟩, ?_, ?_⟩
  · intro h
    exact Headers.mem_lasting_iff
  · exact added.pairwise_lasting
  · intro name
    exact r.headers.named_setAll added name
  · intro name
    show (r.headers.setAll added).get? name = _
    rw [Headers.get?_eq_head?_named, Headers.named_setAll]
    cases (added.named name).getLast? <;> rfl

/-- A name that was there twice is set twice: once is left, in the later spelling and place. -/
example :
    Headers.setAll [("x-a", "1"), ("Accept", "2"), ("X-A", "3"), ("Accept", "4")]
        [("X-a", "5"), ("Host", "6"), ("x-A", "7")]
      = [("Accept", "2"), ("Accept", "4"), ("Host", "6"), ("x-A", "7")] := by
  decide

end GridClient
