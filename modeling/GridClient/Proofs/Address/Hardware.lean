import GridClient.Address.Mac
import GridClient.Text.AsciiCase

/-!
# `GridClient.Proofs.Address.Hardware` — spellings of a hardware address

An accepted hardware address is six octets with a separator between each two. The case of its digits
and the choice of each separator are left to the writer. Two spellings that differ in case alone
have the same octets and the same separators, and the other way round.

## Contents
- `Mac.separators`: the separators of a text, in order.
- `Mac.Octet`: the octet that two digits spell; `octetList?_zero_iff`, `octetList?_succ_iff`: the
  texts of one octet and of more.
- `Mac.map_toLower_eq_iff`: spellings compared without regard to case.
- `Mac.sameIgnoringCase_iff_octets`: the same for accepted addresses.
-/

namespace GridClient.Mac

open Text

/-! ## Octets and separators -/

/-- The separators in a text, in order. -/
def separators (mac : String) : List Char := mac.toList.filter isSeparator

theorem octet?_eq_some_iff {a b : Char} {octet : Nat} :
    octet? a b = some octet
      ↔ ∃ m n, Hex.value? a = some m ∧ Hex.value? b = some n ∧ octet = m * 16 + n := by
  unfold octet?
  constructor
  · intro h
    obtain ⟨m, hm, h⟩ := Option.bind_eq_some_iff.mp h
    obtain ⟨n, hn, h⟩ := Option.bind_eq_some_iff.mp h
    cases h
    exact ⟨m, n, hm, hn, rfl⟩
  · rintro ⟨m, n, hm, hn, rfl⟩
    simp [hm, hn]

/-- Two pairs of digits differ in case alone exactly if they spell the same octet. -/
theorem toLower_pair_eq_iff {a b c d : Char} {x y : Nat} (hab : octet? a b = some x)
    (hcd : octet? c d = some y) :
    (a.toLower = c.toLower ∧ b.toLower = d.toLower) ↔ x = y := by
  obtain ⟨ma, nb, ha, hb, rfl⟩ := octet?_eq_some_iff.mp hab
  obtain ⟨mc, nd, hc, hd, rfl⟩ := octet?_eq_some_iff.mp hcd
  rw [Hex.toLower_eq_toLower_iff ha hc, Hex.toLower_eq_toLower_iff hb hd]
  have hnb := Hex.value?_lt hb
  have hnd := Hex.value?_lt hd
  omega

/-- A digit is no separator. -/
theorem isSeparator_of_value? {c : Char} {n : Nat} (h : Hex.value? c = some n) :
    isSeparator c = false := by
  have hcolon : Hex.value? ':' = none := by decide
  have hhyphen : Hex.value? '-' = none := by decide
  cases hc : isSeparator c with
  | false => rfl
  | true =>
      simp only [isSeparator, Bool.or_eq_true, beq_iff_eq] at hc
      rcases hc with rfl | rfl
      · simp [hcolon] at h
      · simp [hhyphen] at h

/-- The two digits of an octet are no separators. -/
theorem isSeparator_of_octet? {a b : Char} {octet : Nat} (h : octet? a b = some octet) :
    isSeparator a = false ∧ isSeparator b = false := by
  obtain ⟨m, n, ha, hb, -⟩ := octet?_eq_some_iff.mp h
  exact ⟨isSeparator_of_value? ha, isSeparator_of_value? hb⟩

/-- A separator has no case. -/
theorem toLower_of_isSeparator {c : Char} (h : isSeparator c = true) : c.toLower = c := by
  simp only [isSeparator, Bool.or_eq_true, beq_iff_eq] at h
  rcases h with rfl | rfl
  · rfl
  · rfl

/-! ## Texts of octets -/

theorem octetList?_zero_iff {cs : List Char} {octets : List Nat} :
    octetList? 0 cs = some octets
      ↔ ∃ a b octet, cs = [a, b] ∧ octet? a b = some octet ∧ octets = [octet] := by
  constructor
  · intro h
    unfold octetList? at h
    split at h
    · rename_i a b _
      obtain ⟨octet, hoctet, rfl⟩ := Option.map_eq_some_iff.mp h
      exact ⟨a, b, octet, rfl, hoctet, rfl⟩
    · contradiction
    · cases h
  · rintro ⟨a, b, octet, rfl, hoctet, rfl⟩
    simp [octetList?, hoctet]

theorem octetList?_succ_iff {count : Nat} {cs : List Char} {octets : List Nat} :
    octetList? (count + 1) cs = some octets
      ↔ ∃ a b separator rest octet others, cs = a :: b :: separator :: rest
        ∧ isSeparator separator = true ∧ octet? a b = some octet
        ∧ octetList? count rest = some others ∧ octets = octet :: others := by
  constructor
  · intro h
    unfold octetList? at h
    split at h
    · contradiction
    · rename_i a b separator rest heq
      cases heq
      split at h
      · rename_i hseparator
        obtain ⟨octet, hoctet, h⟩ := Option.bind_eq_some_iff.mp h
        obtain ⟨others, hothers, h⟩ := Option.bind_eq_some_iff.mp h
        cases h
        exact ⟨a, b, separator, rest, octet, others, rfl, hseparator, hoctet, hothers, rfl⟩
      · cases h
    · cases h
  · rintro ⟨a, b, separator, rest, octet, others, rfl, hseparator, hoctet, hothers, rfl⟩
    simp [octetList?, hseparator, hoctet, hothers]

/-- **Spellings compared without regard to case.** Two texts of as many octets differ in case alone
exactly if they have the same octets and the same separators. -/
theorem map_toLower_eq_iff {count : Nat} {as bs : List Char} {xs ys : List Nat}
    (ha : octetList? count as = some xs) (hb : octetList? count bs = some ys) :
    as.map Char.toLower = bs.map Char.toLower
      ↔ xs = ys ∧ as.filter isSeparator = bs.filter isSeparator := by
  induction count generalizing as bs xs ys with
  | zero =>
      obtain ⟨a, b, x, rfl, hx, rfl⟩ := octetList?_zero_iff.mp ha
      obtain ⟨c, d, y, rfl, hy, rfl⟩ := octetList?_zero_iff.mp hb
      obtain ⟨hsa, hsb⟩ := isSeparator_of_octet? hx
      obtain ⟨hsc, hsd⟩ := isSeparator_of_octet? hy
      simp [hsa, hsb, hsc, hsd, toLower_pair_eq_iff hx hy]
  | succ count ih =>
      obtain ⟨a, b, s, as, x, xs, rfl, hs, hx, hxs, rfl⟩ := octetList?_succ_iff.mp ha
      obtain ⟨c, d, t, bs, y, ys, rfl, ht, hy, hys, rfl⟩ := octetList?_succ_iff.mp hb
      obtain ⟨hsa, hsb⟩ := isSeparator_of_octet? hx
      obtain ⟨hsc, hsd⟩ := isSeparator_of_octet? hy
      have hpair := toLower_pair_eq_iff hx hy
      have hrest := ih hxs hys
      -- the first octets, the first separators, and what follows them are compared apart
      simp only [List.map_cons, List.cons.injEq, toLower_of_isSeparator hs,
        toLower_of_isSeparator ht, hrest, ← and_assoc, hpair, List.filter_cons, hsa, hsb, hsc, hsd,
        hs, ht, if_true, if_false, Bool.false_eq_true]
      constructor
      · rintro ⟨⟨⟨hoctet, hseparator⟩, hoctets⟩, hseparators⟩
        exact ⟨⟨⟨hoctet, hoctets⟩, hseparator⟩, hseparators⟩
      · rintro ⟨⟨⟨hoctet, hoctets⟩, hseparator⟩, hseparators⟩
        exact ⟨⟨⟨hoctet, hseparator⟩, hoctets⟩, hseparators⟩

/-! ## Accepted addresses -/

/-- An accepted address has octets. -/
theorem checkMac_eq_ok_iff {mac : String} :
    checkMac mac = .ok () ↔ ∃ octets, octets? mac = some octets := by
  unfold checkMac
  rw [← Option.isSome_iff_exists]
  cases (octets? mac).isSome <;> simp [refuse]

/-- **Accepted addresses differ in case alone** exactly if they have the same octets and the same
separators. -/
theorem sameIgnoringCase_iff_octets {first second : String} (hfirst : checkMac first = .ok ())
    (hsecond : checkMac second = .ok ()) :
    sameIgnoringCase first second = true
      ↔ octets? first = octets? second ∧ separators first = separators second := by
  obtain ⟨xs, hxs⟩ := checkMac_eq_ok_iff.mp hfirst
  obtain ⟨ys, hys⟩ := checkMac_eq_ok_iff.mp hsecond
  rw [sameIgnoringCase_iff, hxs, hys, Option.some.injEq]
  exact map_toLower_eq_iff hxs hys

end GridClient.Mac
