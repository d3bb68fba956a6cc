/-!
# `GridClient.Text.Cut` — cutting a text at a separator

## Contents
- `cutFirst`, `cutLast`: the two parts around the first or last separator, with the law that
  says exactly when and where they cut.
- `pieces`: all parts between separators.
- `join`: texts written one after the other with a separator between; `pieces_join`: cutting
  inverts it; `mapM_map_eq_some`: reading piece by piece inverts writing piece by piece.
-/

namespace GridClient.Text

/-! ## At the first separator -/

/-- The parts before and after the first `sep`, or nothing when there is none. -/
def cutFirst (sep : Char) : List Char → Option (List Char × List Char)
  | [] => none
  | c :: cs => if c = sep then some ([], cs) else (cutFirst sep cs).map fun (a, b) => (c :: a, b)

theorem cutFirst_eq_none_iff {sep : Char} {cs : List Char} :
    cutFirst sep cs = none ↔ sep ∉ cs := by
  induction cs with
  | nil => simp [cutFirst]
  | cons c cs ih =>
    by_cases h : c = sep
    · simp [cutFirst, h]
    · simp [cutFirst, h, ih, Ne.symm h]

/-- The first part is the one without the separator. -/
theorem cutFirst_eq_some_iff {sep : Char} {cs a b : List Char} :
    cutFirst sep cs = some (a, b) ↔ cs = a ++ sep :: b ∧ sep ∉ a := by
  induction cs generalizing a with
  | nil => simp [cutFirst]
  | cons c cs ih =>
    by_cases h : c = sep
    · subst h
      cases a with
      | nil => simp [cutFirst]
      | cons x a => simp +contextual [cutFirst]
    · cases a with
      | nil => simp [cutFirst, h]
      | cons x a =>
        simp only [cutFirst, h, if_false, Option.map_eq_some_iff, Prod.mk.injEq, Prod.exists,
          List.cons.injEq, List.cons_append, List.mem_cons, not_or]
        constructor
        · rintro ⟨a', b', hcut, ⟨rfl, rfl⟩, rfl⟩
          have := ih.1 hcut
          exact ⟨⟨rfl, this.1⟩, fun e => h e.symm, this.2⟩
        · rintro ⟨⟨rfl, hcs⟩, _, ha⟩
          exact ⟨a, b, ih.2 ⟨hcs, ha⟩, ⟨rfl, rfl⟩, rfl⟩

/-! ## At the last separator -/

/-- The parts before and after the last `sep`, or nothing when there is none. -/
def cutLast (sep : Char) (cs : List Char) : Option (List Char × List Char) :=
  (cutFirst sep cs.reverse).map fun (b, a) => (a.reverse, b.reverse)

theorem cutLast_eq_none_iff {sep : Char} {cs : List Char} :
    cutLast sep cs = none ↔ sep ∉ cs := by
  simp [cutLast, cutFirst_eq_none_iff]

/-- The last part is the one without the separator. -/
theorem cutLast_eq_some_iff {sep : Char} {cs a b : List Char} :
    cutLast sep cs = some (a, b) ↔ cs = a ++ sep :: b ∧ sep ∉ b := by
  simp only [cutLast, Option.map_eq_some_iff, Prod.mk.injEq, Prod.exists]
  constructor
  · rintro ⟨b', a', h, rfl, rfl⟩
    obtain ⟨h1, h2⟩ := cutFirst_eq_some_iff.1 h
    refine ⟨?_, by simpa using h2⟩
    have := congrArg List.reverse h1
    simpa using this
  · rintro ⟨rfl, hb⟩
    exact ⟨b.reverse, a.reverse, cutFirst_eq_some_iff.2 ⟨by simp, by simpa using hb⟩, by simp, by simp⟩

/-! ## At every separator -/

/-- All parts between separators; there is always at least one. -/
def pieces (sep : Char) : List Char → List (List Char)
  | [] => [[]]
  | c :: cs =>
    if c = sep then [] :: pieces sep cs
    else match pieces sep cs with
      | [] => [[c]]
      | p :: ps => (c :: p) :: ps

/-- Texts written one after the other with `sep` between two of them. -/
def join (sep : List Char) : List (List Char) → List Char
  | [] => []
  | [p] => p
  | p :: ps => p ++ sep ++ join sep ps

theorem pieces_ne_nil (sep : Char) (cs : List Char) : pieces sep cs ≠ [] := by
  cases cs with
  | nil => simp [pieces]
  | cons c cs =>
    unfold pieces
    split
    · simp
    · split <;> simp

theorem pieces_of_notMem {sep : Char} {cs : List Char} (h : sep ∉ cs) : pieces sep cs = [cs] := by
  induction cs with
  | nil => rfl
  | cons c cs ih =>
    have hc : c ≠ sep := fun e => h (e ▸ List.mem_cons_self)
    have hcs : sep ∉ cs := fun m => h (List.mem_cons_of_mem c m)
    simp [pieces, hc, ih hcs]

/-- A piece ends where the first separator stands. -/
theorem pieces_append_cons {sep : Char} {p : List Char} (cs : List Char) (h : sep ∉ p) :
    pieces sep (p ++ sep :: cs) = p :: pieces sep cs := by
  induction p with
  | nil => simp [pieces]
  | cons c p ih =>
    have hc : c ≠ sep := fun e => h (e ▸ List.mem_cons_self)
    have hp : sep ∉ p := fun m => h (List.mem_cons_of_mem c m)
    simp [pieces, hc, ih hp]

/-- Cutting inverts joining, where no text holds the separator. -/
theorem pieces_join {sep : Char} {ps : List (List Char)} (hne : ps ≠ [])
    (h : ∀ p ∈ ps, sep ∉ p) : pieces sep (join [sep] ps) = ps := by
  induction ps with
  | nil => exact absurd rfl hne
  | cons p ps ih =>
    have hp : sep ∉ p := h p List.mem_cons_self
    cases ps with
    | nil => exact pieces_of_notMem hp
    | cons q ps =>
      have hrest := ih (by simp) fun r hr => h r (List.mem_cons_of_mem p hr)
      rw [join, List.append_assoc, List.singleton_append, pieces_append_cons _ hp, hrest]
      simp

/-- Items written one by one are read one by one. -/
theorem mapM_map_eq_some {α β : Type} {read : β → Option α} {write : α → β} {items : List α}
    (h : ∀ item ∈ items, read (write item) = some item) :
    (items.map write).mapM read = some items := by
  induction items with
  | nil => rfl
  | cons item items ih =>
      have hrest := ih fun other hother => h other (List.mem_cons_of_mem _ hother)
      rw [List.map_cons, List.mapM_cons, h item List.mem_cons_self, hrest]
      rfl

/-! ## On strings -/

/-- `cutFirst` on strings. -/
def cutFirst? (sep : Char) (s : String) : Option (String × String) :=
  (cutFirst sep s.toList).map fun (a, b) => (String.ofList a, String.ofList b)

theorem cutFirst?_eq_none_iff {sep : Char} {s : String} :
    cutFirst? sep s = none ↔ sep ∉ s.toList := by
  rw [cutFirst?, Option.map_eq_none_iff, cutFirst_eq_none_iff]

/-- The first part is the one without the separator. -/
theorem cutFirst?_eq_some_iff {sep : Char} {s a b : String} :
    cutFirst? sep s = some (a, b) ↔ s.toList = a.toList ++ sep :: b.toList ∧ sep ∉ a.toList := by
  rw [cutFirst?, Option.map_eq_some_iff]
  constructor
  · rintro ⟨⟨before, after⟩, hcut, hparts⟩
    cases hparts
    rw [String.toList_ofList, String.toList_ofList]
    exact cutFirst_eq_some_iff.1 hcut
  · intro h
    refine ⟨(a.toList, b.toList), cutFirst_eq_some_iff.2 h, ?_⟩
    show (String.ofList a.toList, String.ofList b.toList) = (a, b)
    rw [String.ofList_toList, String.ofList_toList]

/-- The rest of a text after a beginning it has to have. -/
def dropStart? (start s : String) : Option String :=
  if start.toList.isPrefixOf s.toList then some (String.ofList (s.toList.drop start.length))
  else none

/-- A beginning is cut off where it stands. -/
theorem dropStart?_append (start s : String) : dropStart? start (start ++ s) = some s := by
  unfold dropStart?
  rw [String.toList_append, if_pos (by simp), ← String.length_toList, List.drop_left,
    String.ofList_toList]

/-- What is left of a text is what stands after the beginning. -/
theorem dropStart?_eq_some_iff {start s rest : String} :
    dropStart? start s = some rest ↔ s = start ++ rest := by
  constructor
  · intro h
    unfold dropStart? at h
    split at h
    · rename_i hprefix
      obtain ⟨tail, htail⟩ := List.isPrefixOf_iff_prefix.1 hprefix
      cases h
      rw [← String.toList_inj, String.toList_append, String.toList_ofList, ← htail,
        ← String.length_toList, List.drop_left]
    · cases h
  · rintro rfl
    exact dropStart?_append start rest

/-- Whether `c` occurs in a text. -/
def has (s : String) (c : Char) : Bool := s.toList.contains c

end GridClient.Text
