import GridClient.Proofs.Json.Literals
import GridClient.Reference

/-!
# `GridClient.Proofs.Reference.Offsets` — the parts of a reference by their places

A reference can be kept as its text with the places where type and payload end. Places are counted
in octets, and a character beyond ASCII has several, so a place may lie inside a character or beyond
the end, where nothing can be cut. The places of a reference never do: they are found by a search
for one octet, and that octet is part of no other character.

## Contents
- `Text.Utf8.splitOctets?`, `slice?`: cutting at places; they fail inside a character and beyond the
  end.
- `Text.Utf8.idxOf?_octets`: the search for an ASCII character among octets.
- `Reference.Located`, `Located.locate?`: a text with two places, and the search for them.
- `Reference.located`: the places of a reference; `locate?_eq`: the search finds these.
-/

namespace GridClient

open Text
open Text.Utf8 (encode octets octets_append encode_eq_octets)

namespace Text.Utf8

/-! ## Cutting -/

/-- The characters whose octets are the first `n`, and those after them. -/
def splitOctets? : Nat → List Char → Option (List Char × List Char)
  | 0, cs => some ([], cs)
  | _ + 1, [] => none
  | n + 1, c :: cs =>
    if c.utf8Size ≤ n + 1 then
      (splitOctets? (n + 1 - c.utf8Size) cs).map fun (a, b) => (c :: a, b)
    else none

theorem length_octets_cons (c : Char) (cs : List Char) :
    (octets (c :: cs)).length = c.utf8Size + (octets cs).length := by
  show (String.utf8EncodeChar c ++ octets cs).length = _
  rw [List.length_append, String.length_utf8EncodeChar]

/-- Only no characters have no octets. -/
theorem length_octets_eq_zero_iff {cs : List Char} : (octets cs).length = 0 ↔ cs = [] := by
  constructor
  · intro h
    have hle := length_le_octets cs
    exact List.length_eq_zero_iff.mp (by omega)
  · rintro rfl
    rfl

theorem splitOctets?_zero (cs : List Char) : splitOctets? 0 cs = some ([], cs) := by
  unfold splitOctets?
  rfl

/-- A character's octets are taken together. -/
theorem splitOctets?_add (c : Char) (n : Nat) (cs : List Char) :
    splitOctets? (c.utf8Size + n) (c :: cs)
      = (splitOctets? n cs).map fun (a, b) => (c :: a, b) := by
  obtain ⟨m, hm⟩ := Nat.exists_eq_add_one.mpr c.utf8Size_pos
  have hsum : c.utf8Size + n = (m + n) + 1 := by omega
  have hle : c.utf8Size ≤ m + n + 1 := by omega
  have hsub : m + n + 1 - c.utf8Size = n := by omega
  rw [hsum, splitOctets?, if_pos hle, hsub]

/-- **Characters are cut where their octets end**, and nowhere else. -/
theorem splitOctets?_eq_some_iff {n : Nat} {cs a b : List Char} :
    splitOctets? n cs = some (a, b) ↔ cs = a ++ b ∧ (octets a).length = n := by
  constructor
  · intro h
    -- by the characters; the first one takes its octets off the place
    induction cs generalizing n a with
    | nil =>
        cases n with
        | zero =>
            cases h
            exact ⟨rfl, rfl⟩
        | succ n => cases h
    | cons c cs ih =>
        cases n with
        | zero =>
            cases h
            exact ⟨rfl, rfl⟩
        | succ n =>
            unfold splitOctets? at h
            split at h
            · rename_i hle
              obtain ⟨⟨a', b'⟩, hsplit, hparts⟩ := Option.map_eq_some_iff.mp h
              cases hparts
              obtain ⟨rfl, hlength⟩ := ih hsplit
              refine ⟨rfl, ?_⟩
              rw [length_octets_cons]
              omega
            · cases h
  · rintro ⟨rfl, rfl⟩
    induction a with
    | nil => exact splitOctets?_zero b
    | cons c a ih =>
        rw [length_octets_cons, List.cons_append, splitOctets?_add, ih]
        rfl

/-- The part of a text between two places. -/
def slice? (s : String) (start stop : Nat) : Option String := do
  let (front, _) ← splitOctets? stop s.toList
  let (_, part) ← splitOctets? start front
  return String.ofList part

/-- **A part can be cut out of a text exactly if it begins and ends where characters do.** -/
theorem slice?_eq_some_iff {s part : String} {start stop : Nat} :
    slice? s start stop = some part
      ↔ ∃ before after, s = before ++ part ++ after ∧ (encode before).length = start
          ∧ (encode (before ++ part)).length = stop := by
  simp only [slice?, Option.bind_eq_bind, Option.bind_eq_some_iff, Prod.exists,
    splitOctets?_eq_some_iff, encode_eq_octets, String.toList_append]
  constructor
  · rintro ⟨front, after, ⟨hs, hstop⟩, before, cs, ⟨rfl, hstart⟩, hpart⟩
    cases hpart
    refine ⟨String.ofList before, String.ofList after, ?_, ?_, ?_⟩
    · rw [← String.toList_inj, hs]
      simp
    · rw [String.toList_ofList, hstart]
    · rw [String.toList_ofList, String.toList_ofList, hstop]
  · rintro ⟨before, after, rfl, hstart, hstop⟩
    refine ⟨before.toList ++ part.toList, after.toList, ⟨by simp, hstop⟩, before.toList,
      part.toList, ⟨rfl, hstart⟩, ?_⟩
    rw [String.ofList_toList]
    rfl

/-! ## Searching -/

/-- The octet of an ASCII character is part of no other character. -/
theorem octetOf_notMem {c d : Char} (hc : c.toNat < 128) (hne : d ≠ c) :
    octetOf c ∉ String.utf8EncodeChar d := by
  intro hmem
  by_cases hd : d.toNat < 128
  · rw [encodeChar_ascii hd, List.mem_singleton] at hmem
    have hnat := congrArg UInt8.toNat hmem
    rw [toNat_octetOf hc, toNat_octetOf hd] at hnat
    exact hne (Char.toNat_inj.mp hnat.symm)
  · have hle := le_of_mem_encodeChar (by omega) hmem
    rw [toNat_octetOf hc] at hle
    omega

/-- A search goes past what it does not look for. -/
theorem idxOf?_append_of_notMem {octet : UInt8} {first : Octets} (h : octet ∉ first)
    (rest : Octets) :
    (first ++ rest).idxOf? octet = (rest.idxOf? octet).map (· + first.length) := by
  have hfirst : first.findIdx? (· == octet) = none := by
    rw [List.findIdx?_eq_none_iff]
    intro x hx
    exact beq_false_of_ne fun heq => h (heq ▸ hx)
  unfold List.idxOf?
  rw [List.findIdx?_append, hfirst, Option.none_or]

/-- **The search among octets** finds where the characters before the first separator end. -/
theorem idxOf?_octets {sep : Char} (hsep : sep.toNat < 128) (cs : List Char) :
    (octets cs).idxOf? (octetOf sep)
      = (cutFirst sep cs).map fun parts => (octets parts.1).length := by
  induction cs with
  | nil => rfl
  | cons c cs ih =>
      by_cases hc : c = sep
      · subst hc
        rw [octets_cons_ascii hsep, List.idxOf?_cons, cutFirst, if_pos rfl, if_pos (by simp)]
        rfl
      · -- no octet of the first character is the one that is sought
        have hskip := octetOf_notMem hsep hc
        have happend : octets (c :: cs) = String.utf8EncodeChar c ++ octets cs := rfl
        rw [happend, idxOf?_append_of_notMem hskip, ih, cutFirst, if_neg hc, Option.map_map,
          Option.map_map, String.length_utf8EncodeChar]
        refine congrArg (Option.map · _) (funext fun parts => ?_)
        show (octets parts.1).length + c.utf8Size = (octets (c :: parts.1)).length
        rw [length_octets_cons, Nat.add_comm]

/-- What stands after a separator. -/
theorem drop_octets {sep : Char} (hsep : sep.toNat < 128) (before rest : List Char) :
    (octets (before ++ sep :: rest)).drop ((octets before).length + 1) = octets rest := by
  have happend : octets (before ++ sep :: rest)
      = (octets before ++ [octetOf sep]) ++ octets rest := by
    rw [octets_append, octets_cons_ascii hsep, List.append_assoc, List.singleton_append]
  rw [happend]
  exact List.drop_left' (by simp)

/-- **After a separator that is found a text can be cut**, and the rest is what the octets after it
stand for. -/
theorem exists_slice?_of_idxOf? {sep : Char} (hsep : sep.toNat < 128) {s : String} {n : Nat}
    (h : (encode s).idxOf? (octetOf sep) = some n) :
    ∃ rest, slice? s (n + 1) (encode s).length = some rest
      ∧ encode rest = (encode s).drop (n + 1) := by
  rw [encode_eq_octets, idxOf?_octets hsep, Option.map_eq_some_iff] at h
  obtain ⟨⟨before, after⟩, hcut, rfl⟩ := h
  obtain ⟨hs, -⟩ := cutFirst_eq_some_iff.mp hcut
  have hparts : s = String.ofList (before ++ [sep]) ++ String.ofList after := by
    rw [← String.toList_inj, hs]
    simp
  refine ⟨String.ofList after, slice?_eq_some_iff.mpr
    ⟨String.ofList (before ++ [sep]), "", ?_, ?_, ?_⟩, ?_⟩
  · rw [← hparts, String.append_empty]
  · rw [encode_eq_octets, String.toList_ofList, octets_append, octets_cons_ascii hsep,
      List.length_append]
    rfl
  · rw [← hparts]
  · rw [encode_eq_octets s, hs, drop_octets hsep]
    exact encode_ofList after

end Text.Utf8

/-! ## References -/

namespace Reference

/-- A text with the places where the type and the payload of a reference end. -/
structure Located where
  raw : String
  typeEnd : Nat
  payloadEnd : Nat

namespace Located

/-- The places of the first `/`, unless it begins the text, and of the first `:` after it. -/
def locate? (s : String) : Option Located := do
  let typeEnd ← (encode s).idxOf? (octetOf '/')
  if typeEnd = 0 then none
  else
    let width ← ((encode s).drop (typeEnd + 1)).idxOf? (octetOf ':')
    return { raw := s, typeEnd, payloadEnd := typeEnd + 1 + width }

variable (l : Located)

/-- The part before the first place. -/
def objectType? : Option String := Text.Utf8.slice? l.raw 0 l.typeEnd

/-- The part between the two places. -/
def payload? : Option String := Text.Utf8.slice? l.raw (l.typeEnd + 1) l.payloadEnd

/-- The part after the second place. -/
def path? : Option String := Text.Utf8.slice? l.raw (l.payloadEnd + 1) (encode l.raw).length

end Located

theorem toNat_slash : '/'.toNat < 128 := by decide

theorem toNat_colon : ':'.toNat < 128 := by decide

/-- The search among octets is one for the first `/` and one for the first `:` after it. -/
theorem locate?_eq_cutFirst (s : String) :
    Located.locate? s = (cutFirst '/' s.toList).bind fun (objectType, rest) =>
      if objectType = [] then none
      else (cutFirst ':' rest).map fun (payload, _) =>
        { raw := s
          typeEnd := (octets objectType).length
          payloadEnd := (octets objectType).length + 1 + (octets payload).length } := by
  unfold Located.locate?
  rw [encode_eq_octets, Text.Utf8.idxOf?_octets toNat_slash]
  cases hslash : cutFirst '/' s.toList with
  | none => rfl
  | some parts =>
      obtain ⟨objectType, rest⟩ := parts
      obtain ⟨hs, -⟩ := cutFirst_eq_some_iff.mp hslash
      dsimp only [Option.map_some, Option.bind_eq_bind, Option.bind_some]
      rw [hs, Text.Utf8.drop_octets toNat_slash, Text.Utf8.idxOf?_octets toNat_colon]
      by_cases hempty : objectType = []
      · rw [if_pos hempty, if_pos (Text.Utf8.length_octets_eq_zero_iff.mpr hempty)]
      · rw [if_neg hempty, if_neg (mt Text.Utf8.length_octets_eq_zero_iff.mp hempty)]
        cases cutFirst ':' rest <;> rfl

/-- The text of a reference with the places of its parts. -/
def located (r : Reference) : Located where
  raw := r.text
  typeEnd := (octets r.objectType).length
  payloadEnd := (octets r.objectType).length + 1 + (octets r.payload).length

/-- **The search finds the places of a reference**, and finds none in any other text. -/
theorem locate?_eq (s : String) : Located.locate? s = (parse? s).map located := by
  rw [locate?_eq_cutFirst]
  cases hparse : parse? s with
  | some r =>
      obtain rfl := parse?_eq_some_iff.mp hparse
      have hslash : cutFirst '/' r.text.toList = some (r.objectType, r.payload ++ ':' :: r.path) :=
        cutFirst_eq_some_iff.mpr ⟨by simp [text, chars], r.slash_notMem⟩
      have hcolon : cutFirst ':' (r.payload ++ ':' :: r.path) = some (r.payload, r.path) :=
        cutFirst_eq_some_iff.mpr ⟨rfl, r.colon_notMem⟩
      rw [hslash, Option.bind_some]
      dsimp only
      rw [if_neg r.objectType_ne_nil, hcolon]
      rfl
  | none =>
      cases hslash : cutFirst '/' s.toList with
      | none => rfl
      | some parts =>
          obtain ⟨objectType, rest⟩ := parts
          by_cases hempty : objectType = []
          · simp [hempty]
          · cases hcolon : cutFirst ':' rest with
            | none => simp [hempty, hcolon]
            | some parts =>
                -- these would be the parts of a reference
                obtain ⟨payload, path⟩ := parts
                obtain ⟨hs, hnoSlash⟩ := cutFirst_eq_some_iff.mp hslash
                obtain ⟨hrest, hnoColon⟩ := cutFirst_eq_some_iff.mp hcolon
                let r : Reference := ⟨objectType, payload, path, hempty, hnoSlash, hnoColon⟩
                have htext : s = r.text := by
                  rw [← String.toList_inj, hs, hrest]
                  simp [text, chars, r]
                rw [parse?_eq_some_iff.mpr htext] at hparse
                cases hparse

/-! ## The parts -/

/-- The text, by its parts. -/
theorem text_eq_append (r : Reference) :
    r.text = String.ofList r.objectType ++ "/" ++ String.ofList r.payload ++ ":"
      ++ String.ofList r.path := by
  rw [← String.toList_inj]
  simp [text, chars]

/-- **All parts can be cut out at the places of a reference**, and are its parts. -/
structure Located.Cuts (l : Located) (objectType payload path : String) : Prop where
  objectType?_eq : l.objectType? = some objectType
  payload?_eq : l.payload? = some payload
  path?_eq : l.path? = some path

/-- The places count the octets of the parts, so the parts stand between them. -/
theorem Located.cuts_of_parts (t p d : String) :
    let l : Located := { raw := t ++ "/" ++ p ++ ":" ++ d
                         typeEnd := (encode t).length
                         payloadEnd := (encode t).length + 1 + (encode p).length }
    l.Cuts t p d := by
  intro l
  -- the octets before each cut
  have hslash : (encode (t ++ "/")).length = l.typeEnd + 1 := by
    rw [Text.Utf8.encode_append, List.length_append]
    rfl
  have hpayload : (encode (t ++ "/" ++ p)).length = l.payloadEnd := by
    rw [Text.Utf8.encode_append, List.length_append, hslash]
  have hcolon : (encode (t ++ "/" ++ p ++ ":")).length = l.payloadEnd + 1 := by
    rw [Text.Utf8.encode_append, List.length_append, hpayload]
    rfl
  refine ⟨?_, ?_, ?_⟩
  · refine Text.Utf8.slice?_eq_some_iff.mpr ⟨"", "/" ++ p ++ ":" ++ d, ?_, rfl, ?_⟩
    · simp [l, String.append_assoc]
    · rw [String.empty_append]
  · refine Text.Utf8.slice?_eq_some_iff.mpr ⟨t ++ "/", ":" ++ d, ?_, hslash, hpayload⟩
    simp [l, String.append_assoc]
  · refine Text.Utf8.slice?_eq_some_iff.mpr ⟨t ++ "/" ++ p ++ ":", "", ?_, hcolon, rfl⟩
    exact String.append_empty.symm

theorem cuts_located (r : Reference) :
    r.located.Cuts (String.ofList r.objectType) (String.ofList r.payload)
      (String.ofList r.path) := by
  have hcuts := Located.cuts_of_parts (String.ofList r.objectType) (String.ofList r.payload)
    (String.ofList r.path)
  rw [← r.text_eq_append, Text.Utf8.encode_ofList, Text.Utf8.encode_ofList] at hcuts
  exact hcuts

end Reference
end GridClient
