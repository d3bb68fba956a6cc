import GridClient.Text.Base64
import Mathlib.Algebra.Group.Nat.Defs

/-!
# `GridClient.Proofs.Text.Base64` — what a Base64 text writes

The bits of the octets, one octet after the other, are cut into groups of six. Zeros fill the last
group, a letter of the alphabet stands for each, and signs fill the text up to a multiple of four.
The encoder makes exactly such texts, and the decoder reads them and no others.

## Contents
- `alphabet`, `bits`, `Writes`: the form.
- `bits_append`, `bits_injective`: bits of joined numbers, and numbers from their bits.
- `value?_eq_some_iff`: letters and their values.
- `writes_iff`: the form is what the encoder makes; `decode?_eq_some_iff`: and what is read.
-/

namespace GridClient.Text.Base64

/-! ## The form -/

/-- The letters, each at the number that it stands for. -/
def alphabet : List Char :=
  "ABCDEFGHIJKLMNOPQRSTUVWXYZabcdefghijklmnopqrstuvwxyz0123456789+/".toList

/-- The lowest bits of a number, as many as `width`, the highest of them first. -/
def bits : Nat → Nat → List Bool
  | 0, _ => []
  | width + 1, n => n.testBit width :: bits width n

/-- The bits of octets, one octet after the other. -/
def octetBits (octets : Octets) : List Bool := octets.flatMap fun octet => bits 8 octet.toNat

/-- A text writes octets: letters for groups of six bits, which are the bits of the octets and then
zeros, and after the letters as many signs as there are pairs of zeros, at most two, so that the
length is a multiple of four. -/
def Writes (octets : Octets) (text : List Char) : Prop :=
  ∃ (groups : List Nat) (letters : List Char) (padding : Nat),
    letters.map some = groups.map (alphabet[·]?)
    ∧ groups.flatMap (bits 6) = octetBits octets ++ List.replicate (2 * padding) false
    ∧ text = letters ++ List.replicate padding '='
    ∧ padding < 3 ∧ text.length % 4 = 0

/-! ## Bits -/

@[simp] theorem length_bits (width n : Nat) : (bits width n).length = width := by
  induction width with
  | zero => rfl
  | succ width ih => simp [bits, ih]

/-- Only the lowest bits count. -/
theorem bits_congr {width m n : Nat} (h : ∀ i < width, m.testBit i = n.testBit i) :
    bits width m = bits width n := by
  induction width with
  | zero => rfl
  | succ width ih =>
      have hrest := ih fun i hi => h i (by omega)
      rw [bits, bits, h width (by omega), hrest]

/-- The bits of a number set before another are followed by the bits of that other. -/
theorem bits_append (high low m : Nat) {n : Nat} (h : n < 2 ^ low) :
    bits (high + low) (m * 2 ^ low + n) = bits high m ++ bits low n := by
  rw [Nat.mul_comm]
  induction high with
  | zero =>
      rw [Nat.zero_add, bits, List.nil_append]
      apply bits_congr
      intro i hi
      rw [Nat.testBit_two_pow_mul_add m h, if_pos hi]
  | succ high ih =>
      have hwidth : high + 1 + low = (high + low) + 1 := by omega
      rw [hwidth, bits, bits, List.cons_append, ih, Nat.testBit_two_pow_mul_add m h,
        if_neg (by omega), Nat.add_sub_cancel]

theorem bits_zero (width : Nat) : bits width 0 = List.replicate width false := by
  induction width with
  | zero => rfl
  | succ width ih => rw [bits, Nat.zero_testBit, ih, List.replicate_succ]

/-- A number moved up is followed by zeros. -/
theorem bits_shift (high low m : Nat) :
    bits (high + low) (m * 2 ^ low) = bits high m ++ List.replicate low false := by
  have hzero := bits_append high low m (Nat.two_pow_pos low)
  rwa [Nat.add_zero, bits_zero] at hzero

/-- The bits of a number, cut in two. -/
theorem bits_cut (high low n : Nat) :
    bits (high + low) n = bits high (n / 2 ^ low) ++ bits low (n % 2 ^ low) := by
  have hparts := bits_append high low (n / 2 ^ low) (Nat.mod_lt n (Nat.two_pow_pos low))
  rwa [Nat.div_add_mod'] at hparts

theorem testBit_of_bits {width m n : Nat} (h : bits width m = bits width n) :
    ∀ i < width, m.testBit i = n.testBit i := by
  induction width with
  | zero => exact fun i hi => absurd hi (Nat.not_lt_zero i)
  | succ width ih =>
      intro i hi
      obtain ⟨hfirst, hrest⟩ := List.cons.inj h
      by_cases hlast : i = width
      · rw [hlast]
        exact hfirst
      · exact ih hrest i (by omega)

/-- Numbers of so many bits are told by them. -/
theorem bits_injective {width m n : Nat} (hm : m < 2 ^ width) (hn : n < 2 ^ width)
    (h : bits width m = bits width n) : m = n := by
  apply Nat.eq_of_testBit_eq
  intro i
  by_cases hi : i < width
  · exact testBit_of_bits h i hi
  · have hle : 2 ^ width ≤ 2 ^ i := Nat.pow_le_pow_right (by decide) (by omega)
    rw [Nat.testBit_lt_two_pow (by omega), Nat.testBit_lt_two_pow (by omega)]

theorem length_flatMap_bits (width : Nat) (groups : List Nat) :
    (groups.flatMap (bits width)).length = width * groups.length := by
  induction groups with
  | nil => simp
  | cons group groups ih =>
      rw [List.flatMap_cons, List.length_append, length_bits, ih, List.length_cons, Nat.mul_succ,
        Nat.add_comm]

/-- As many numbers are told by their bits one after the other. -/
theorem flatMap_bits_injective {width : Nat} {groups others : List Nat}
    (hgroups : ∀ n ∈ groups, n < 2 ^ width) (hothers : ∀ n ∈ others, n < 2 ^ width)
    (hlength : groups.length = others.length)
    (h : groups.flatMap (bits width) = others.flatMap (bits width)) : groups = others := by
  induction groups generalizing others with
  | nil => exact (List.length_eq_zero_iff.mp hlength.symm).symm
  | cons m groups ih =>
      cases others with
      | nil => cases hlength
      | cons n others =>
          rw [List.flatMap_cons, List.flatMap_cons] at h
          obtain ⟨hfirst, hrest⟩ := List.append_inj h (by simp)
          rw [bits_injective (hgroups m List.mem_cons_self) (hothers n List.mem_cons_self) hfirst,
            ih (fun k hk => hgroups k (List.mem_cons_of_mem m hk))
              (fun k hk => hothers k (List.mem_cons_of_mem n hk)) (Nat.succ.inj hlength) hrest]

/-! ## Letters -/

theorem alphabet_getElem? : ∀ n < 64, alphabet[n]? = some (letter n) := by decide

theorem length_alphabet : alphabet.length = 64 := by decide

theorem letter_ne_padding : ∀ n < 64, letter n ≠ '=' := by decide

/-- **A letter has the value at which it stands.** -/
theorem value?_eq_some_iff {c : Char} {n : Nat} : value? c = some n ↔ n < 64 ∧ letter n = c := by
  constructor
  · -- in each range of letters the offset of the value is that of the letter, taken back
    have hcode : ∀ {code : Nat}, code = c.toNat → Char.ofNat code = c := by
      rintro code rfl
      exact Char.ofNat_toNat c
    intro h
    simp only [value?] at h
    split at h
    · obtain rfl := Option.some.inj h
      refine ⟨by omega, ?_⟩
      rw [letter, if_pos (by omega), hcode (by omega)]
    split at h
    · obtain rfl := Option.some.inj h
      refine ⟨by omega, ?_⟩
      rw [letter, if_neg (by omega), if_pos (by omega), hcode (by omega)]
    split at h
    · obtain rfl := Option.some.inj h
      refine ⟨by omega, ?_⟩
      rw [letter, if_neg (by omega), if_neg (by omega), if_pos (by omega), hcode (by omega)]
    split at h
    · rename_i hplus
      obtain rfl := Option.some.inj h
      exact ⟨by decide, hplus.symm⟩
    split at h
    · rename_i hslash
      obtain rfl := Option.some.inj h
      exact ⟨by decide, hslash.symm⟩
    · cases h
  · rintro ⟨hn, rfl⟩
    have hall : ∀ n < 64, value? (letter n) = some n := by decide
    exact hall n hn

theorem map_some_eq_iff {groups : List Nat} {letters : List Char} :
    letters.map some = groups.map (alphabet[·]?)
      ↔ (∀ n ∈ groups, n < 64) ∧ letters = groups.map letter := by
  induction groups generalizing letters with
  | nil => simp
  | cons n groups ih =>
      cases letters with
      | nil => simp
      | cons c letters =>
          have hletter : some c = alphabet[n]? ↔ n < 64 ∧ c = letter n := by
            by_cases hn : n < 64
            · rw [alphabet_getElem? n hn, Option.some.injEq, and_iff_right hn]
            · rw [List.getElem?_eq_none (by rw [length_alphabet]; omega)]
              simp [hn]
          simp only [List.map_cons, List.cons.injEq, List.forall_mem_cons, hletter, ih]
          exact and_and_and_comm

/-- The form, in terms of the numbers alone. -/
theorem writes_iff_groups {octets : Octets} {text : List Char} :
    Writes octets text ↔ ∃ (groups : List Nat) (padding : Nat),
      (∀ n ∈ groups, n < 64)
      ∧ groups.flatMap (bits 6) = octetBits octets ++ List.replicate (2 * padding) false
      ∧ text = groups.map letter ++ List.replicate padding '='
      ∧ padding < 3 ∧ (groups.length + padding) % 4 = 0 := by
  constructor
  · rintro ⟨groups, letters, padding, hletters, hbits, rfl, hpadding, hlength⟩
    obtain ⟨hgroups, rfl⟩ := map_some_eq_iff.mp hletters
    exact ⟨groups, padding, hgroups, hbits, rfl, hpadding, by simpa using hlength⟩
  · rintro ⟨groups, padding, hgroups, hbits, rfl, hpadding, hlength⟩
    exact ⟨groups, groups.map letter, padding, map_some_eq_iff.mpr ⟨hgroups, rfl⟩, hbits, rfl,
      hpadding, by simpa using hlength⟩

/-! ## Encoding -/

theorem octetBits_cons (octet : UInt8) (octets : Octets) :
    octetBits (octet :: octets) = bits 8 octet.toNat ++ octetBits octets := rfl

/-! An octet is cut where a group ends: after six of its bits, after four or after two. -/

/-- Three octets are written by four letters. -/
theorem Writes.cons {octets : Octets} {text : List Char} (h : Writes octets text)
    (a b c : UInt8) :
    Writes (a :: b :: c :: octets)
      (letter (a.toNat / 4) :: letter (a.toNat % 4 * 16 + b.toNat / 16)
        :: letter (b.toNat % 16 * 4 + c.toNat / 64) :: letter (c.toNat % 64) :: text) := by
  obtain ⟨groups, padding, hgroups, hbits, rfl, hpadding, hlength⟩ := writes_iff_groups.mp h
  have ha := a.toNat_lt
  have hb := b.toNat_lt
  have hc := c.toNat_lt
  refine writes_iff_groups.mpr ⟨a.toNat / 4 :: (a.toNat % 4 * 16 + b.toNat / 16)
    :: (b.toNat % 16 * 4 + c.toNat / 64) :: c.toNat % 64 :: groups, padding, ?_, ?_, rfl, hpadding,
    ?_⟩
  · simp only [List.forall_mem_cons]
    exact ⟨by omega, by omega, by omega, by omega, hgroups⟩
  · have hfirst : bits 8 a.toNat = bits 6 (a.toNat / 4) ++ bits 2 (a.toNat % 4) := bits_cut 6 2 _
    have hsecond : bits 8 b.toNat = bits 4 (b.toNat / 16) ++ bits 4 (b.toNat % 16) :=
      bits_cut 4 4 _
    have hthird : bits 8 c.toNat = bits 2 (c.toNat / 64) ++ bits 6 (c.toNat % 64) := bits_cut 2 6 _
    have hjoin₁ : bits 6 (a.toNat % 4 * 16 + b.toNat / 16)
        = bits 2 (a.toNat % 4) ++ bits 4 (b.toNat / 16) := bits_append 2 4 _ (by omega)
    have hjoin₂ : bits 6 (b.toNat % 16 * 4 + c.toNat / 64)
        = bits 4 (b.toNat % 16) ++ bits 2 (c.toNat / 64) := bits_append 4 2 _ (by omega)
    simp only [List.flatMap_cons, octetBits_cons, hbits, hfirst, hsecond, hthird, hjoin₁, hjoin₂,
      List.append_assoc]
  · simp only [List.length_cons]
    omega

/-- Two last octets are written by three letters and a sign. -/
theorem writes_pair (a b : UInt8) :
    Writes [a, b] [letter (a.toNat / 4), letter (a.toNat % 4 * 16 + b.toNat / 16),
      letter (b.toNat % 16 * 4), '='] := by
  have ha := a.toNat_lt
  have hb := b.toNat_lt
  refine writes_iff_groups.mpr ⟨[a.toNat / 4, a.toNat % 4 * 16 + b.toNat / 16, b.toNat % 16 * 4], 1,
    ?_, ?_, rfl, by decide, by simp only [List.length_cons, List.length_nil]⟩
  · simp only [List.forall_mem_cons]
    exact ⟨by omega, by omega, by omega, nofun⟩
  · have hfirst : bits 8 a.toNat = bits 6 (a.toNat / 4) ++ bits 2 (a.toNat % 4) := bits_cut 6 2 _
    have hsecond : bits 8 b.toNat = bits 4 (b.toNat / 16) ++ bits 4 (b.toNat % 16) :=
      bits_cut 4 4 _
    have hjoin : bits 6 (a.toNat % 4 * 16 + b.toNat / 16)
        = bits 2 (a.toNat % 4) ++ bits 4 (b.toNat / 16) := bits_append 2 4 _ (by omega)
    have hlast : bits 6 (b.toNat % 16 * 4) = bits 4 (b.toNat % 16) ++ List.replicate 2 false :=
      bits_shift 4 2 _
    simp only [List.flatMap_cons, List.flatMap_nil, octetBits_cons, hfirst, hsecond, hjoin, hlast,
      List.append_assoc]
    rfl

/-- One last octet is written by two letters and two signs. -/
theorem writes_single (a : UInt8) :
    Writes [a] [letter (a.toNat / 4), letter (a.toNat % 4 * 16), '=', '='] := by
  have ha := a.toNat_lt
  refine writes_iff_groups.mpr ⟨[a.toNat / 4, a.toNat % 4 * 16], 2, ?_, ?_, rfl, by decide,
    by simp only [List.length_cons, List.length_nil]⟩
  · simp only [List.forall_mem_cons]
    exact ⟨by omega, by omega, nofun⟩
  · have hfirst : bits 8 a.toNat = bits 6 (a.toNat / 4) ++ bits 2 (a.toNat % 4) := bits_cut 6 2 _
    have hlast : bits 6 (a.toNat % 4 * 16) = bits 2 (a.toNat % 4) ++ List.replicate 4 false :=
      bits_shift 2 4 _
    simp only [List.flatMap_cons, List.flatMap_nil, octetBits_cons, hfirst, hlast,
      List.append_assoc]
    rfl

/-- What is encoded is of the form. -/
theorem writes_encode (octets : Octets) : Writes octets (encode octets) := by
  fun_induction encode octets with
  | case1 a b c octets ih => exact ih.cons a b c
  | case2 a b => exact writes_pair a b
  | case3 a => exact writes_single a
  | case4 => exact ⟨[], [], 0, rfl, rfl, rfl, by decide, rfl⟩

/-- Octets are written in one way. -/
theorem Writes.unique {octets : Octets} {text other : List Char} (h : Writes octets text)
    (h' : Writes octets other) : text = other := by
  obtain ⟨groups, padding, hsmall, hbits, rfl, hpadding, hlength⟩ := writes_iff_groups.mp h
  obtain ⟨groups', padding', hsmall', hbits', rfl, hpadding', hlength'⟩ := writes_iff_groups.mp h'
  -- the number of octets settles how many groups there are, and with them the signs
  have hcount := congrArg List.length hbits
  have hcount' := congrArg List.length hbits'
  simp only [length_flatMap_bits, List.length_append, List.length_replicate] at hcount hcount'
  have hsame : padding = padding' ∧ groups.length = groups'.length := by omega
  obtain ⟨rfl, hgroups⟩ := hsame
  rw [flatMap_bits_injective hsmall hsmall' hgroups (hbits.trans hbits'.symm)]

/-- **A text writes octets exactly if they are encoded in it.** -/
theorem writes_iff {octets : Octets} {text : List Char} :
    Writes octets text ↔ encode octets = text := by
  constructor
  · exact (writes_encode octets).unique
  · rintro rfl
    exact writes_encode octets

/-! ## Decoding -/

theorem value?_letter {n : Nat} (hn : n < 64) : value? (letter n) = some n :=
  value?_eq_some_iff.mpr ⟨hn, rfl⟩

/-- Four letters are read as three octets. -/
theorem decode?_letters {w x y z : Nat} (hw : w < 64) (hx : x < 64) (hy : y < 64) (hz : z < 64)
    (text : List Char) :
    decode? (letter w :: letter x :: letter y :: letter z :: text)
      = (decode? text).map fun octets => UInt8.ofNat (w * 4 + x / 16)
          :: UInt8.ofNat (x % 16 * 16 + y / 4) :: UInt8.ofNat (y % 4 * 64 + z) :: octets := by
  rw [decode?]
  · simp only [value?_letter hw, value?_letter hx, value?_letter hy, value?_letter hz]
    cases decode? text <;> rfl
  · intro _ hsign _
    exact absurd hsign (letter_ne_padding z hz)
  · intro hsign _
    exact absurd hsign (letter_ne_padding z hz)

theorem ofNat_eq (octet : UInt8) {n : Nat} (h : n = octet.toNat) : UInt8.ofNat n = octet := by
  rw [h]
  exact UInt8.ofNat_toNat

/-- What is encoded is read back. -/
theorem decode?_encode (octets : Octets) : decode? (encode octets) = some octets := by
  fun_induction encode octets with
  | case1 a b c octets ih =>
      have ha := a.toNat_lt
      have hb := b.toNat_lt
      have hc := c.toNat_lt
      rw [decode?_letters (by omega) (by omega) (by omega) (by omega), ih, Option.map_some,
        ofNat_eq a (by omega), ofNat_eq b (by omega), ofNat_eq c (by omega)]
  | case2 a b =>
      have ha := a.toNat_lt
      have hb := b.toNat_lt
      have hlast : b.toNat % 16 * 4 < 64 := by omega
      rw [decode?]
      · have hzero : b.toNat % 16 * 4 % 4 = 0 := by omega
        simp only [value?_letter (n := a.toNat / 4) (by omega), value?_letter hlast,
          value?_letter (n := a.toNat % 4 * 16 + b.toNat / 16) (by omega), Option.bind_eq_bind,
          Option.bind_some, if_pos hzero]
        rw [ofNat_eq a (by omega), ofNat_eq b (by omega)]
      · exact letter_ne_padding _ hlast
  | case3 a =>
      have ha := a.toNat_lt
      have hzero : a.toNat % 4 * 16 % 16 = 0 := by omega
      rw [decode?]
      simp only [value?_letter (n := a.toNat / 4) (by omega),
        value?_letter (n := a.toNat % 4 * 16) (by omega), Option.bind_eq_bind, Option.bind_some,
        if_pos hzero]
      rw [ofNat_eq a (by omega)]
  | case4 => rfl

theorem toNat_ofNat {n : Nat} (h : n < 256) : (UInt8.ofNat n).toNat = n :=
  UInt8.toNat_ofNat_of_lt' h

/-- Only what is encoded is read. -/
theorem encode_of_decode? {text : List Char} {octets : Octets} (h : decode? text = some octets) :
    encode octets = text := by
  fun_induction decode? text generalizing octets with
  | case1 =>
      obtain rfl := Option.some.inj h
      rfl
  | case2 =>
      simp only [Option.bind_eq_bind, Option.bind_eq_some_iff, value?_eq_some_iff,
        Option.ite_none_right_eq_some, Option.some.injEq] at h
      obtain ⟨w, ⟨hw, rfl⟩, x, ⟨hx, rfl⟩, hzero, rfl⟩ := h
      have hfirst : (w * 4 + x / 16) / 4 = w := by omega
      have hlast : (w * 4 + x / 16) % 4 * 16 = x := by omega
      rw [encode, toNat_ofNat (by omega), hfirst, hlast]
  | case3 =>
      simp only [Option.bind_eq_bind, Option.bind_eq_some_iff, value?_eq_some_iff,
        Option.ite_none_right_eq_some, Option.some.injEq] at h
      obtain ⟨w, ⟨hw, rfl⟩, x, ⟨hx, rfl⟩, y, ⟨hy, rfl⟩, hzero, rfl⟩ := h
      have hfirst : (w * 4 + x / 16) / 4 = w := by omega
      have hsecond : (w * 4 + x / 16) % 4 * 16 + (x % 16 * 16 + y / 4) / 16 = x := by omega
      have hlast : (x % 16 * 16 + y / 4) % 16 * 4 = y := by omega
      rw [encode, toNat_ofNat (by omega), toNat_ofNat (by omega), hfirst, hsecond, hlast]
  | case4 _ _ _ _ text _ _ ih =>
      simp only [Option.bind_eq_bind, Option.bind_eq_some_iff, value?_eq_some_iff,
        Option.some.injEq] at h
      obtain ⟨w, ⟨hw, rfl⟩, x, ⟨hx, rfl⟩, y, ⟨hy, rfl⟩, z, ⟨hz, rfl⟩, rest, hrest, rfl⟩ := h
      have hfirst : (w * 4 + x / 16) / 4 = w := by omega
      have hsecond : (w * 4 + x / 16) % 4 * 16 + (x % 16 * 16 + y / 4) / 16 = x := by omega
      have hthird : (x % 16 * 16 + y / 4) % 16 * 4 + (y % 4 * 64 + z) / 64 = y := by omega
      have hlast : (y % 4 * 64 + z) % 64 = z := by omega
      rw [encode, toNat_ofNat (by omega), toNat_ofNat (by omega), toNat_ofNat (by omega), hfirst,
        hsecond, hthird, hlast, ih hrest]
  | case5 => cases h

/-- **What is read is what is encoded**, and no other text is read. -/
theorem decode?_eq_some_iff {text : List Char} {octets : Octets} :
    decode? text = some octets ↔ encode octets = text := by
  constructor
  · exact encode_of_decode?
  · rintro rfl
    exact decode?_encode octets

theorem encode_injective {octets others : Octets} (h : encode octets = encode others) :
    octets = others := by
  have hread := decode?_encode octets
  rw [h, decode?_encode] at hread
  exact (Option.some.inj hread).symm

end GridClient.Text.Base64
