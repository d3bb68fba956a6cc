import GridClient.Text.Hex
import GridClient.Text.Utf8

/-!
# `GridClient.Text.Percent` — percent encoding

## Contents
- `encode`: every octet outside the unreserved set becomes `%` and two upper-case hex digits.
- `decode?`: reads such a text back into octets.
-/

namespace GridClient.Text.Percent

/-- The unreserved octets: letters, digits, and `-`, `_`, `.`, `~`. -/
def isUnreserved (octet : UInt8) : Bool :=
  let n := octet.toNat
  (48 ≤ n && n ≤ 57) || (65 ≤ n && n ≤ 90) || (97 ≤ n && n ≤ 122)
    || n == 45 || n == 95 || n == 46 || n == 126

/-- One octet in encoded form. -/
def encodeOctet (octet : UInt8) : List Char :=
  if isUnreserved octet then [Char.ofNat octet.toNat]
  else ['%', Hex.upper (octet.toNat / 16), Hex.upper (octet.toNat % 16)]

/-- The encoded form of a text, octet by octet of its UTF-8 form. -/
def encode (s : String) : List Char := (Utf8.encode s).flatMap encodeOctet

/-- The octets of an encoded text; nothing when a `%` lacks its two digits or a character is
not ASCII. -/
def decodeOctets? : List Char → Option Octets
  | [] => some []
  | '%' :: a :: b :: cs => do
    let high ← Hex.value? a
    let low ← Hex.value? b
    let octets ← decodeOctets? cs
    some (UInt8.ofNat (high * 16 + low) :: octets)
  | c :: cs =>
    if c = '%' ∨ 128 ≤ c.toNat then none
    else (decodeOctets? cs).map (UInt8.ofNat c.toNat :: ·)

/-- The text that an encoded text stands for. -/
def decode? (cs : List Char) : Option String := decodeOctets? cs >>= Utf8.decode?

/-! ## Reading inverts writing -/

theorem toNat_ofNat_ascii : ∀ n < 128, (Char.ofNat n).toNat = n := by decide

theorem decodeOctets?_encodeOctet (octet : UInt8) (cs : List Char) :
    decodeOctets? (encodeOctet octet ++ cs) = (decodeOctets? cs).map (octet :: ·) := by
  have hlt : octet.toNat < 256 := octet.toNat_lt
  unfold encodeOctet
  split
  · rename_i h
    have hn : octet.toNat < 128 ∧ octet.toNat ≠ 37 := by
      simp only [isUnreserved, Bool.or_eq_true, Bool.and_eq_true, decide_eq_true_eq,
        beq_iff_eq] at h
      omega
    have hval := toNat_ofNat_ascii octet.toNat hn.1
    have hne : Char.ofNat octet.toNat ≠ '%' := fun e => by
      have := congrArg Char.toNat e
      rw [hval] at this
      exact hn.2 this
    rw [List.singleton_append, decodeOctets?, if_neg, hval, UInt8.ofNat_toNat]
    · rw [hval]
      exact fun e => e.elim hne (by omega)
    · rintro _ _ _ e _
      exact hne e
  · simp only [List.cons_append, List.nil_append, decodeOctets?,
      Hex.value?_upper _ (by omega : octet.toNat / 16 < 16),
      Hex.value?_upper _ (by omega : octet.toNat % 16 < 16), Option.bind_eq_bind,
      Option.bind_some]
    rw [show UInt8.ofNat (octet.toNat / 16 * 16 + octet.toNat % 16) = octet by
      rw [show octet.toNat / 16 * 16 + octet.toNat % 16 = octet.toNat by omega, UInt8.ofNat_toNat]]
    cases decodeOctets? cs <;> rfl

theorem decode?_encode (s : String) : decode? (encode s) = some s := by
  have h : ∀ octets : Octets, decodeOctets? (octets.flatMap encodeOctet) = some octets := by
    intro octets
    induction octets with
    | nil => rfl
    | cons octet octets ih => rw [List.flatMap_cons, decodeOctets?_encodeOctet, ih]; rfl
  simp [decode?, encode, h]

end GridClient.Text.Percent
