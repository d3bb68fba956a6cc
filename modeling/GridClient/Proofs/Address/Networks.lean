import GridClient.Proofs.Address.Alphabet
import Mathlib.Algebra.Group.Nat.Defs

/-!
# `GridClient.Proofs.Address.Networks` — which texts are networks

A text is a network when an address and a length stand around a `/` and no bit of the address after
the length is set. The length is mostly written in digits. The reader also lets a sign stand before
them, and in version 4 it takes a netmask, which stands for as many leading ones as it has.

## Contents
- `LengthText`: the texts of a length; `Cidr.netmaskLength?_eq_some_iff`,
  `Cidr.version4Length?_eq_some_iff`, `Cidr.version6Length?_eq_some_iff`: how lengths are read.
- `Cidr.parse?_eq_some_iff`: the texts of an address and a length; `Cidr.count_slash_of_parse?`:
  there is one slash.
- `Cidr.isNetwork_iff`: no bit after the length is set, bit by bit.
- `Cidr.contains_iff`: which addresses a network contains, bit by bit.
- `checkCidr_eq_ok_iff`: what the check accepts; `netmask_taken_for_length`: something that has no
  length in digits.
-/

namespace GridClient

open Text

/-! ## Lengths -/

/-- The texts that may stand for a length after the slash of a network of a family. -/
inductive LengthText (family : Family) (length : Nat) (s : String) : Prop
  | digits (h : SignedText length s)
  /-- In version 4 a netmask: as many leading ones, and then only zeros. -/
  | netmask (hfamily : family = .v4)
    (h : Version4.parse? s.toList = some (2 ^ 32 - 2 ^ (32 - length)))

/-- The numbers of a dotted address stand between points. -/
theorem Version4.point_mem_of_parse? {n : Nat} {cs : List Char} (h : parse? cs = some n) :
    '.' ∈ cs := by
  apply Classical.byContradiction
  intro hpoint
  obtain ⟨octets, hoctets, h⟩ := Option.bind_eq_some_iff.mp h
  -- without a point there is one piece, and so one number
  rw [pieces_of_notMem hpoint] at hoctets
  have hone : octets.length = 1 := by
    simp only [List.mapM_cons, List.mapM_nil] at hoctets
    obtain ⟨octet, -, hoctets⟩ := Option.bind_eq_some_iff.mp hoctets
    cases hoctets
    rfl
  rw [hone] at h
  cases h

/-- The colons of version 6 keep its addresses apart from those of version 4. -/
theorem Version4.parse?_of_version6 {n : Nat} {cs : List Char} (h : Version6.parse? cs = some n) :
    parse? cs = none := by
  cases hparse : parse? cs with
  | none => rfl
  | some m => exact absurd (Version6.colon_mem_of_parse? h) (colon_notMem_of_parse? hparse)

/-- A number in digits is no dotted address. -/
theorem Version4.parse?_of_signedText {n : Nat} {s : String} (h : SignedText n s) :
    Version4.parse? s.toList = none := by
  cases hparse : Version4.parse? s.toList with
  | none => rfl
  | some mask =>
      have hpoint := Version4.point_mem_of_parse? hparse
      rcases h.isDigit_or_plus '.' hpoint with hdigit | hplus
      · exact absurd hdigit (by decide)
      · exact absurd hplus (by decide)

namespace Cidr

/-- A netmask is read as the number of its leading ones. -/
theorem netmaskLength?_eq_some_iff {mask length : Nat} :
    netmaskLength? mask = some length ↔ length ≤ 32 ∧ mask = 2 ^ 32 - 2 ^ (32 - length) := by
  have hshift : ∀ n, 1 <<< 32 - 1 <<< (32 - n) = 2 ^ 32 - 2 ^ (32 - n) := by
    intro n
    rw [Nat.one_shiftLeft, Nat.one_shiftLeft]
  constructor
  · intro h
    have hmem := List.mem_of_find?_eq_some h
    have hmask := List.find?_some h
    rw [List.mem_range] at hmem
    rw [beq_iff_eq, hshift] at hmask
    exact ⟨by omega, hmask⟩
  · rintro ⟨hlength, rfl⟩
    have hall : ∀ n < 33, netmaskLength? (2 ^ 32 - 2 ^ (32 - n)) = some n := by decide
    exact hall length (by omega)

/-- **The lengths of version 4.** -/
theorem version4Length?_eq_some_iff {s : String} {length : Nat} :
    version4Length? s.toList = some length ↔ length ≤ 32 ∧ LengthText .v4 length s := by
  unfold version4Length?
  cases hmask : Version4.parse? s.toList with
  | some mask =>
      dsimp only
      rw [netmaskLength?_eq_some_iff]
      constructor
      · rintro ⟨hlength, rfl⟩
        exact ⟨hlength, .netmask rfl hmask⟩
      · rintro ⟨hlength, hdigits | ⟨-, hparse⟩⟩
        · rw [Version4.parse?_of_signedText hdigits] at hmask
          cases hmask
        · rw [hmask] at hparse
          exact ⟨hlength, Option.some.inj hparse⟩
  | none =>
      dsimp only [length?]
      rw [Decimal.read?_eq_some_iff]
      constructor
      · rintro ⟨hlength, hdigits⟩
        exact ⟨hlength, .digits hdigits⟩
      · rintro ⟨hlength, hdigits | ⟨-, hparse⟩⟩
        · exact ⟨hlength, hdigits⟩
        · rw [hmask] at hparse
          cases hparse

/-- **The lengths of version 6.** -/
theorem version6Length?_eq_some_iff {s : String} {length : Nat} :
    length? .v6 s.toList = some length ↔ length ≤ 128 ∧ LengthText .v6 length s := by
  unfold length?
  rw [Decimal.read?_eq_some_iff]
  constructor
  · rintro ⟨hlength, hdigits⟩
    exact ⟨hlength, .digits hdigits⟩
  · rintro ⟨hlength, hdigits | ⟨hfamily, -⟩⟩
    · exact ⟨hlength, hdigits⟩
    · cases hfamily

/-! ## Addresses with lengths -/

/-- No address has a slash in it. -/
theorem slash_notMem_of_parse? {s : String} {a : Address} (h : Address.parse? s = some a) :
    '/' ∉ s.toList := by
  intro hslash
  exact absurd (Address.forall_of_parse? h '/' hslash) (by decide)

/-- Nor has a length, whether in digits or as a netmask. -/
theorem slash_notMem_of_lengthText {family : Family} {length : Nat} {s : String}
    (h : LengthText family length s) : '/' ∉ s.toList := by
  intro hslash
  rcases h with hdigits | ⟨-, hmask⟩
  · rcases hdigits.isDigit_or_plus '/' hslash with hdigit | hplus
    · exact absurd hdigit (by decide)
    · exact absurd hplus (by decide)
  · exact absurd (Version4.forall_of_parse? hmask '/' hslash) (by decide)

/-- **The texts of an address and a length** have them around a slash. -/
theorem parse?_eq_some_iff {s : String} {c : Cidr} :
    parse? s = some c
      ↔ ∃ address length, s = address ++ "/" ++ length
        ∧ Address.parse? address = some c.address
        ∧ c.length ≤ c.address.family.width ∧ LengthText c.address.family c.length length := by
  constructor
  · intro h
    obtain ⟨⟨before, after⟩, hcut, h⟩ := Option.bind_eq_some_iff.mp h
    obtain ⟨hs, hslash⟩ := cutFirst_eq_some_iff.mp hcut
    refine ⟨String.ofList before, String.ofList after, ?_, ?_⟩
    · rw [← String.toList_inj, hs]
      simp
    · have hlength4 := @version4Length?_eq_some_iff (String.ofList after)
      have hlength6 := @version6Length?_eq_some_iff (String.ofList after)
      rw [String.toList_ofList] at hlength4 hlength6
      dsimp only at h
      split at h
      · rename_i n length h4 hlength
        cases h
        obtain ⟨hbound, htext⟩ := hlength4.mp hlength
        refine ⟨Address.parse?_eq_some_iff.mpr (.inl ⟨n, ?_, rfl⟩), hbound, htext⟩
        rw [String.toList_ofList]
        exact h4
      · obtain ⟨n, h6, h⟩ := Option.bind_eq_some_iff.mp h
        obtain ⟨length, hlength, h⟩ := Option.bind_eq_some_iff.mp h
        cases h
        obtain ⟨hbound, htext⟩ := hlength6.mp hlength
        refine ⟨Address.parse?_eq_some_iff.mpr (.inr ⟨?_, n, ?_, rfl⟩), hbound, htext⟩
        · rw [String.toList_ofList]
          exact Version4.parse?_of_version6 h6
        · rw [String.toList_ofList]
          exact h6
  · rintro ⟨address, length, rfl, haddress, hbound, hlength⟩
    have hcut : cutFirst '/' (address ++ "/" ++ length).toList
        = some (address.toList, length.toList) := by
      apply cutFirst_eq_some_iff.mpr
      refine ⟨?_, slash_notMem_of_parse? haddress⟩
      simp
    obtain ⟨a, n⟩ := c
    unfold parse? parseChars?
    rw [hcut]
    rcases Address.parse?_eq_some_iff.mp haddress with ⟨m, h4, rfl⟩ | ⟨h4, m, h6, rfl⟩
    · have hread := version4Length?_eq_some_iff.mpr ⟨hbound, hlength⟩
      simp only [Option.bind_eq_bind, Option.bind_some, h4, hread]
    · have hread := version6Length?_eq_some_iff.mpr ⟨hbound, hlength⟩
      simp only [Option.bind_eq_bind, Option.bind_some, h4, h6, hread]

/-- There is one slash in the text of a network. -/
theorem count_slash_of_parse? {s : String} {c : Cidr} (h : parse? s = some c) :
    s.toList.count '/' = 1 := by
  obtain ⟨address, length, rfl, haddress, -, hlength⟩ := parse?_eq_some_iff.mp h
  have hbefore := List.count_eq_zero.mpr (slash_notMem_of_parse? haddress)
  have hafter := List.count_eq_zero.mpr (slash_notMem_of_lengthText hlength)
  simp [List.count_append, hbefore, hafter]

/-! ## Bits after the length -/

/-- No bit of the address after its first `length` is set. -/
def HostBitsClear (c : Cidr) : Prop :=
  ∀ i, c.length ≤ i → i < c.address.family.width → c.address.bits.getMsbD i = false

/-- **A network is an address without bits after its length.** -/
theorem isNetwork_iff {c : Cidr} : c.isNetwork = true ↔ c.HostBitsClear := by
  obtain ⟨⟨family, bits⟩, length⟩ := c
  unfold isNetwork HostBitsClear Address.network Address.leading Address.hostWidth Address.ofNat
    Address.toNat
  dsimp only
  rw [beq_iff_eq, Address.mk.injEq, eq_self_iff_true, true_and, heq_eq_eq]
  -- shifting down and up again leaves the bits from `width - length` on, and clears those below
  have hbit : ∀ j < family.width,
      (BitVec.ofNat family.width
        (bits.toNat >>> (family.width - length) <<< (family.width - length))).getLsbD j
        = (decide (family.width - length ≤ j) && bits.getLsbD j) := by
    intro j hj
    rw [BitVec.getLsbD_ofNat, Nat.testBit_shiftLeft, Nat.testBit_shiftRight, decide_eq_true hj,
      Bool.true_and]
    by_cases hlow : family.width - length ≤ j
    · rw [Nat.add_sub_cancel' hlow]
      rfl
    · have hbelow : ¬ j ≥ family.width - length := hlow
      simp [hlow]
  constructor
  · intro hsame i hlength hi
    have hhost : ¬ family.width - length ≤ family.width - 1 - i := by omega
    rw [BitVec.getMsbD, ← hsame, hbit _ (by omega), decide_eq_false hhost, Bool.false_and,
      Bool.and_false]
  · intro hclear
    apply BitVec.eq_of_getLsbD_eq
    intro j hj
    rw [hbit j hj]
    by_cases hlow : family.width - length ≤ j
    · rw [decide_eq_true hlow, Bool.true_and]
    · have hi := hclear (family.width - 1 - j) (by omega) (by omega)
      have hposition : family.width - 1 - (family.width - 1 - j) = j := by omega
      rw [BitVec.getMsbD, decide_eq_true (by omega), Bool.true_and, hposition] at hi
      rw [hi, Bool.and_false]

end Cidr

/-! ## Bits up to the length -/

/-- Of addresses of one family the leading bits are equal when they are equal one by one. -/
theorem Address.leading_eq_iff {a b : Address} {length : Nat} (hfamily : a.family = b.family) :
    a.leading length = b.leading length
      ↔ ∀ i < length, a.bits.getMsbD i = b.bits.getMsbD i := by
  obtain ⟨family, x⟩ := a
  obtain ⟨_, y⟩ := b
  obtain rfl : family = _ := hfamily
  show x.toNat >>> (family.width - length) = y.toNat >>> (family.width - length)
    ↔ ∀ i < length, x.getMsbD i = y.getMsbD i
  constructor
  · intro hleading i hi
    by_cases hwidth : i < family.width
    · have hposition : family.width - length
          + (family.width - 1 - i - (family.width - length)) = family.width - 1 - i := by omega
      have hbit := congrArg
        (Nat.testBit · (family.width - 1 - i - (family.width - length))) hleading
      rw [Nat.testBit_shiftRight, Nat.testBit_shiftRight, hposition] at hbit
      rw [BitVec.getMsbD, BitVec.getMsbD]
      exact congrArg _ hbit
    · -- neither has a bit there
      rw [BitVec.getMsbD_of_ge _ _ (by omega), BitVec.getMsbD_of_ge _ _ (by omega)]
  · intro hbits
    apply Nat.eq_of_testBit_eq
    intro j
    rw [Nat.testBit_shiftRight, Nat.testBit_shiftRight]
    show x.getLsbD (family.width - length + j) = y.getLsbD (family.width - length + j)
    by_cases hwidth : family.width - length + j < family.width
    · have hbit := hbits (family.width - 1 - (family.width - length + j)) (by omega)
      have hposition : family.width - 1 - (family.width - 1 - (family.width - length + j))
          = family.width - length + j := by omega
      rwa [BitVec.getMsbD, BitVec.getMsbD, decide_eq_true (by omega), Bool.true_and,
        Bool.true_and, hposition] at hbit
    · rw [BitVec.getLsbD_of_ge _ _ (by omega), BitVec.getLsbD_of_ge _ _ (by omega)]

/-- **A network contains the addresses of its family that begin as it does**, bit by bit up to its
length. -/
theorem Cidr.contains_iff {c : Cidr} {a : Address} :
    c.contains a = true ↔ a.family = c.address.family
      ∧ ∀ i < c.length, a.bits.getMsbD i = c.address.bits.getMsbD i := by
  unfold contains Address.sharesPrefix
  rw [Bool.and_eq_true, beq_iff_eq, beq_iff_eq]
  constructor
  · rintro ⟨hfamily, hleading⟩
    exact ⟨hfamily.symm, (Address.leading_eq_iff hfamily.symm).mp hleading.symm⟩
  · rintro ⟨hfamily, hbits⟩
    exact ⟨hfamily.symm, ((Address.leading_eq_iff hfamily).mpr hbits).symm⟩

/-! ## The check -/

/-- A network of a family asked for is one of that family. -/
theorem all_beq_iff {family : Option Family} {c : Cidr} :
    (family.all (· == c.address.family)) = true ↔ ∀ f, family = some f → c.address.family = f := by
  cases family with
  | none => simp
  | some f => simp [@eq_comm _ f]

/-- The check answers with what the text writes, and refuses it for nothing but bits after the
length and another family. -/
theorem checkCidr_eq_ok_iff_parse? {s : String} {family : Option Family} {c : Cidr} :
    checkCidr s family = .ok c
      ↔ Cidr.parse? s = some c ∧ c.HostBitsClear
        ∧ ∀ f, family = some f → c.address.family = f := by
  rw [← Cidr.isNetwork_iff, ← all_beq_iff]
  constructor
  · intro h
    have hparse := parse?_of_checkCidr h
    unfold checkCidr at h
    rw [hparse] at h
    dsimp only at h
    split at h
    · cases h
    · rename_i hnetwork
      split at h
      · rename_i hfamily
        exact ⟨hparse, by simpa using hnetwork, hfamily⟩
      · cases h
  · rintro ⟨hparse, hnetwork, hfamily⟩
    unfold checkCidr
    simp [hparse, hnetwork, hfamily]

/-- **What the check of networks accepts**, and what it answers with: an address of the family asked
for, a slash, and a length up to the family's width, with no bit after it. -/
theorem checkCidr_eq_ok_iff {s : String} {family : Option Family} {c : Cidr} :
    checkCidr s family = .ok c
      ↔ (∃ address length, s = address ++ "/" ++ length
          ∧ Address.parse? address = some c.address
          ∧ c.length ≤ c.address.family.width ∧ LengthText c.address.family c.length length)
        ∧ c.HostBitsClear ∧ ∀ f, family = some f → c.address.family = f := by
  rw [checkCidr_eq_ok_iff_parse?, Cidr.parse?_eq_some_iff]

/-- **A netmask is accepted for a length**, though there are no digits alone after its slash. -/
theorem netmask_taken_for_length :
    (∃ c, checkCidr "10.0.0.0/255.255.255.0" none = .ok c)
      ∧ ¬ ∃ address length, "10.0.0.0/255.255.255.0" = address ++ "/" ++ length
        ∧ ∀ c ∈ length.toList, c.isDigit = true := by
  refine ⟨⟨⟨.ofNat .v4 0x0a000000, 24⟩, by rfl⟩, ?_⟩
  rintro ⟨address, length, hs, hdigits⟩
  have hcut : cutLast '/' "10.0.0.0/255.255.255.0".toList
      = some (address.toList, length.toList) := by
    apply cutLast_eq_some_iff.mpr
    constructor
    · rw [hs]
      simp
    · intro hslash
      exact absurd (hdigits '/' hslash) (by decide)
  -- what stands after the slash is the netmask, and that has points in it
  have hmask : length.toList = "255.255.255.0".toList := by
    have hread : cutLast '/' "10.0.0.0/255.255.255.0".toList
        = some ("10.0.0.0".toList, "255.255.255.0".toList) := by decide
    exact congrArg Prod.snd (Option.some.inj (hcut.symm.trans hread))
  rw [hmask] at hdigits
  exact absurd (hdigits '.' (by decide)) (by decide)

end GridClient
