import GridClient.Address.Cidr
import GridClient.Proofs.Decimal.Numeral
import GridClient.Proofs.Text.Hex
import GridClient.Text.Blank

/-!
# `GridClient.Proofs.Address.Alphabet` — the characters of accepted addresses

Whatever the readers of addresses and networks accept is written in a small alphabet. So an
accepted network can stand in front of a comma, and none looks like a function text. Colons are in
the texts of one family and not in those of the other.

## Contents
- `isAddressChar`, `isCidrChar`: the two alphabets.
- `Version4.forall_of_parse?`, `Version6.forall_of_parse?`: addresses keep to theirs.
- `Address.has_colon_of_parse?`, `Address.nonblank_of_parse?`: addresses of either family.
- `Cidr.forall_of_parse?`, `checkCidr_forall`: so do networks.
- `Cidr.has_colon_of_parse?`, `has_colon_of_checkCidr`: a colon tells the family.
-/

namespace GridClient

open Text

/-! ## Texts in pieces -/

/-- A text whose pieces keep to `P` keeps to it between the separators. -/
theorem forall_of_pieces {P : Char → Prop} {sep : Char} {cs : List Char}
    (h : ∀ p ∈ pieces sep cs, ∀ c ∈ p, P c) : ∀ c ∈ cs, P c ∨ c = sep := by
  induction cs with
  | nil => intro c hc; exact absurd hc (by simp)
  | cons x cs ih =>
      unfold pieces at h
      by_cases hx : x = sep
      · rw [if_pos hx] at h
        intro c hc
        rcases List.mem_cons.mp hc with rfl | hc
        · exact Or.inr hx
        · exact ih (fun p hp => h p (List.mem_cons_of_mem _ hp)) c hc
      · rw [if_neg hx] at h
        cases hps : pieces sep cs with
        | nil => exact absurd hps (pieces_ne_nil sep cs)
        | cons p ps =>
            -- the first character belongs to the first piece, all others to pieces of the rest
            rw [hps] at h ih
            have hfirst : ∀ c ∈ x :: p, P c := h (x :: p) (by simp)
            intro c hc
            rcases List.mem_cons.mp hc with rfl | hc
            · exact Or.inl (hfirst c (by simp))
            · refine ih (fun q hq => ?_) c hc
              rcases List.mem_cons.mp hq with rfl | hq
              · exact fun c hc => hfirst c (List.mem_cons_of_mem _ hc)
              · exact h q (List.mem_cons_of_mem _ hq)

/-! ## Alphabets -/

/-- The characters of addresses: hexadecimal digits, and what stands between numbers. -/
def isAddressChar (c : Char) : Bool := (Hex.value? c).isSome || c == '.' || c == ':'

/-- The characters of networks: those of addresses, the slash, and a sign before the length. -/
def isCidrChar (c : Char) : Bool := isAddressChar c || c == '/' || c == '+'

theorem isAddressChar_of_isDigit {c : Char} (h : c.isDigit = true) : isAddressChar c = true := by
  have hrange : 48 ≤ c.toNat ∧ c.toNat ≤ 57 := by
    simp only [Char.isDigit, Bool.and_eq_true, decide_eq_true_eq] at h
    exact h
  simp [isAddressChar, Hex.value?, hrange]

theorem isAddressChar_of_hex {c : Char} (h : (Hex.value? c).isSome = true) :
    isAddressChar c = true := by
  simp [isAddressChar, h]

theorem isCidrChar_of_isAddressChar {c : Char} (h : isAddressChar c = true) :
    isCidrChar c = true := by
  simp [isCidrChar, h]

theorem isCidrChar_of_isDigit_or_plus {c : Char} (h : c.isDigit = true ∨ c = '+') :
    isCidrChar c = true := by
  rcases h with h | rfl
  · exact isCidrChar_of_isAddressChar (isAddressChar_of_isDigit h)
  · rfl

/-! ## Addresses -/

namespace Version4

theorem isDigit_of_octet? {n : Nat} {cs : List Char} (h : octet? cs = some n) :
    ∀ c ∈ cs, c.isDigit = true := by
  unfold octet? at h
  split at h
  · cases h
  · exact isDigit_of_readDigits? h

theorem isDigit_or_point_of_parse? {n : Nat} {cs : List Char} (h : parse? cs = some n) :
    ∀ c ∈ cs, c.isDigit = true ∨ c = '.' := by
  obtain ⟨octets, hoctets, -⟩ := Option.bind_eq_some_iff.mp h
  refine forall_of_pieces fun p hp => ?_
  obtain ⟨octet, hoctet⟩ := Option.isSome_iff_exists.mp (isSome_of_mapM hoctets p hp)
  exact isDigit_of_octet? hoctet

theorem forall_of_parse? {n : Nat} {cs : List Char} (h : parse? cs = some n) :
    ∀ c ∈ cs, isAddressChar c = true := by
  intro c hc
  rcases isDigit_or_point_of_parse? h c hc with hdigit | rfl
  · exact isAddressChar_of_isDigit hdigit
  · rfl

theorem colon_notMem_of_parse? {n : Nat} {cs : List Char} (h : parse? cs = some n) :
    ':' ∉ cs := by
  intro hc
  rcases isDigit_or_point_of_parse? h ':' hc with hdigit | hpoint
  · exact absurd hdigit (by decide)
  · exact absurd hpoint (by decide)

end Version4

namespace Version6

theorem forall_of_group? {n : Nat} {cs : List Char} (h : group? cs = some n) :
    ∀ c ∈ cs, isAddressChar c = true := by
  obtain ⟨digits, hdigits, -⟩ := Option.bind_eq_some_iff.mp h
  exact fun c hc => isAddressChar_of_hex (isSome_of_mapM hdigits c hc)

theorem forall_of_groups? {dotted : Bool} {ps : List (List Char)} {groups : List Nat}
    (h : groups? dotted ps = some groups) : ∀ p ∈ ps, ∀ c ∈ p, isAddressChar c = true := by
  induction ps generalizing groups with
  | nil => intro p hp; exact absurd hp (by simp)
  | cons piece rest ih =>
      cases rest with
      | nil =>
          -- the last piece is a group, or a dotted address where one is allowed
          intro p hp
          obtain rfl := List.mem_singleton.mp hp
          unfold groups? at h
          cases hgroup : group? p with
          | some group => exact forall_of_group? hgroup
          | none =>
              rw [hgroup] at h
              cases dotted with
              | false => cases h
              | true =>
                  obtain ⟨n, hn, -⟩ := Option.map_eq_some_iff.mp h
                  exact Version4.forall_of_parse? hn
      | cons next rest =>
          unfold groups? at h
          obtain ⟨group, hgroup, h⟩ := Option.bind_eq_some_iff.mp h
          obtain ⟨groups, hgroups, -⟩ := Option.bind_eq_some_iff.mp h
          intro p hp
          rcases List.mem_cons.mp hp with rfl | hp
          · exact forall_of_group? hgroup
          · exact ih hgroups p hp

theorem forall_of_side? {dotted : Bool} {cs : List Char} {groups : List Nat}
    (h : side? dotted cs = some groups) : ∀ c ∈ cs, isAddressChar c = true := by
  unfold side? at h
  by_cases hempty : cs.isEmpty = true
  · rw [List.isEmpty_iff.mp hempty]
    intro c hc
    exact absurd hc (by simp)
  · rw [if_neg hempty] at h
    intro c hc
    rcases forall_of_pieces (forall_of_groups? h) c hc with hc | rfl
    · exact hc
    · rfl

/-- The parts around `::` make up the text. -/
theorem eq_append_of_cutDouble {cs before after : List Char}
    (h : cutDouble cs = some (before, after)) : cs = before ++ ':' :: ':' :: after := by
  fun_induction cutDouble cs generalizing before with
  | case1 cs => cases h; rfl
  | case2 c cs hne ih =>
      obtain ⟨⟨a, b⟩, hcut, heq⟩ := Option.map_eq_some_iff.mp h
      cases heq
      rw [ih hcut, List.cons_append]
  | case3 => cases h

theorem forall_of_parse? {n : Nat} {cs : List Char} (h : parse? cs = some n) :
    ∀ c ∈ cs, isAddressChar c = true := by
  obtain ⟨groups, hgroups, -⟩ := Option.map_eq_some_iff.mp h
  unfold allGroups? at hgroups
  cases hcut : cutDouble cs with
  | none =>
      rw [hcut] at hgroups
      obtain ⟨side, hside, -⟩ := Option.bind_eq_some_iff.mp hgroups
      exact forall_of_side? hside
  | some parts =>
      obtain ⟨before, after⟩ := parts
      rw [hcut] at hgroups
      obtain ⟨head, hhead, hgroups⟩ := Option.bind_eq_some_iff.mp hgroups
      obtain ⟨tail, htail, -⟩ := Option.bind_eq_some_iff.mp hgroups
      rw [eq_append_of_cutDouble hcut]
      intro c hc
      rcases List.mem_append.mp hc with hc | hc
      · exact forall_of_side? hhead c hc
      · rcases List.mem_cons.mp hc with rfl | hc
        · rfl
        · rcases List.mem_cons.mp hc with rfl | hc
          · rfl
          · exact forall_of_side? htail c hc

/-- Without a colon there is one group, or the two of a dotted address, but never eight. -/
theorem colon_mem_of_parse? {n : Nat} {cs : List Char} (h : parse? cs = some n) : ':' ∈ cs := by
  obtain ⟨groups, hgroups, -⟩ := Option.map_eq_some_iff.mp h
  by_cases hcolon : ':' ∈ cs
  · exact hcolon
  · -- there is no place to cut at, so the groups are those of the whole text
    have hcut : cutDouble cs = none := by
      cases hcut : cutDouble cs with
      | none => rfl
      | some parts =>
          obtain ⟨before, after⟩ := parts
          refine absurd ?_ hcolon
          rw [eq_append_of_cutDouble hcut]
          simp
    unfold allGroups? at hgroups
    rw [hcut] at hgroups
    obtain ⟨side, hside, height⟩ := Option.bind_eq_some_iff.mp hgroups
    have hlength : side.length = 8 := by
      split at height
      · assumption
      · cases height
    -- the whole text is one piece
    have hfew : side.length ≤ 2 := by
      unfold side? at hside
      rw [pieces_of_notMem hcolon] at hside
      split at hside
      · cases hside
        exact Nat.zero_le 2
      · unfold groups? at hside
        split at hside
        · cases hside
          exact Nat.le_succ 1
        · obtain ⟨m, -, rfl⟩ := Option.map_eq_some_iff.mp hside
          exact Nat.le_refl 2
    omega

end Version6

/-! ## Addresses of either family -/

/-- No character of an address is white space. -/
theorem isBlank_of_isAddressChar {c : Char} (h : isAddressChar c = true) : isBlank c = false := by
  simp only [isAddressChar, Bool.or_eq_true, beq_iff_eq] at h
  rcases h with (hhex | rfl) | rfl
  · obtain ⟨n, hn⟩ := Option.isSome_iff_exists.mp hhex
    have hcode : 48 ≤ c.toNat ∧ c.toNat ≤ 102 := by
      simp only [Hex.value?] at hn
      split at hn
      · omega
      · split at hn
        · omega
        · split at hn
          · omega
          · cases hn
    simp only [isBlank, Bool.or_eq_false_iff, Bool.and_eq_false_iff, decide_eq_false_iff_not,
      beq_eq_false_iff_ne]
    omega
  · decide
  · decide

namespace Address

variable {s : String} {a : Address}

/-- A text that writes an address writes one of version 4 or one of version 6. -/
theorem parse?_eq_some_iff :
    parse? s = some a
      ↔ (∃ n, Version4.parse? s.toList = some n ∧ a = ofNat .v4 n)
        ∨ (Version4.parse? s.toList = none
          ∧ ∃ n, Version6.parse? s.toList = some n ∧ a = ofNat .v6 n) := by
  unfold parse? parseChars?
  cases Version4.parse? s.toList with
  | some n => simp [@eq_comm _ a]
  | none => simp [Option.map_eq_some_iff, @eq_comm _ a]

theorem forall_of_parse? (h : parse? s = some a) : ∀ c ∈ s.toList, isAddressChar c = true := by
  rcases parse?_eq_some_iff.mp h with ⟨n, h4, -⟩ | ⟨-, n, h6, -⟩
  · exact Version4.forall_of_parse? h4
  · exact Version6.forall_of_parse? h6

/-- **Colons tell the family of an address.** -/
theorem has_colon_of_parse? (h : parse? s = some a) : has s ':' = a.family.isV6 := by
  rw [has, List.contains_eq_mem]
  rcases parse?_eq_some_iff.mp h with ⟨n, h4, rfl⟩ | ⟨-, n, h6, rfl⟩
  · exact decide_eq_false (Version4.colon_notMem_of_parse? h4)
  · exact decide_eq_true (Version6.colon_mem_of_parse? h6)

/-- An address is not blank: nothing writes none, and it has no white space. -/
theorem nonblank_of_parse? (h : parse? s = some a) : isBlankText s = false := by
  have hempty : parseChars? [] = none := by decide
  cases hs : s.toList with
  | nil =>
      have hnone : parse? s = none := by rw [parse?, hs, hempty]
      rw [hnone] at h
      cases h
  | cons c cs =>
      have hc : isBlank c = false :=
        isBlank_of_isAddressChar (forall_of_parse? h c (by simp [hs]))
      simp [isBlankText, hs, hc]

end Address

theorem parse?_of_checkAddress {s : String} {family : Family} {a : Address}
    (h : checkAddress s family = .ok a) : Address.parse? s = some a ∧ a.family = family := by
  unfold checkAddress at h
  cases hparse : Address.parse? s with
  | none =>
      rw [hparse] at h
      cases h
  | some parsed =>
      rw [hparse] at h
      dsimp only at h
      split at h
      · rename_i hfamily
        cases h
        exact ⟨rfl, hfamily⟩
      · cases h

/-! ## Networks -/

namespace Cidr

theorem forall_of_version4Length? {n : Nat} {cs : List Char} (h : version4Length? cs = some n) :
    ∀ c ∈ cs, isCidrChar c = true := by
  unfold version4Length? at h
  cases hmask : Version4.parse? cs with
  | some mask =>
      exact fun c hc => isCidrChar_of_isAddressChar (Version4.forall_of_parse? hmask c hc)
  | none =>
      rw [hmask] at h
      exact fun c hc => isCidrChar_of_isDigit_or_plus (isDigit_of_read? h c hc)

theorem forall_of_parse? {cidr : String} {network : Cidr} (h : parse? cidr = some network) :
    ∀ c ∈ cidr.toList, isCidrChar c = true := by
  obtain ⟨⟨address, length⟩, hcut, h⟩ := Option.bind_eq_some_iff.mp h
  -- both families read the part before the slash as an address and the part after it as a length
  have hparts : (∀ c ∈ address, isAddressChar c = true) ∧ ∀ c ∈ length, isCidrChar c = true := by
    dsimp only at h
    split at h
    · rename_i n m h4 hlength
      exact ⟨Version4.forall_of_parse? h4, forall_of_version4Length? hlength⟩
    · obtain ⟨n, h6, h⟩ := Option.bind_eq_some_iff.mp h
      obtain ⟨m, hlength, -⟩ := Option.bind_eq_some_iff.mp h
      exact ⟨Version6.forall_of_parse? h6,
        fun c hc => isCidrChar_of_isDigit_or_plus (isDigit_of_read? hlength c hc)⟩
  rw [(cutFirst_eq_some_iff.mp hcut).1]
  intro c hc
  rcases List.mem_append.mp hc with hc | hc
  · exact isCidrChar_of_isAddressChar (hparts.1 c hc)
  · rcases List.mem_cons.mp hc with rfl | hc
    · rfl
    · exact hparts.2 c hc

/-- A length in digits, or a netmask, has no colon. -/
theorem colon_notMem_of_version4Length? {n : Nat} {cs : List Char}
    (h : version4Length? cs = some n) : ':' ∉ cs := by
  unfold version4Length? at h
  cases hmask : Version4.parse? cs with
  | some mask => exact Version4.colon_notMem_of_parse? hmask
  | none =>
      rw [hmask] at h
      intro hc
      rcases isDigit_of_read? h ':' hc with hdigit | hplus
      · exact absurd hdigit (by decide)
      · exact absurd hplus (by decide)

/-- **Colons tell the family of a network.** -/
theorem has_colon_of_parse? {cidr : String} {network : Cidr} (h : parse? cidr = some network) :
    has cidr ':' = network.address.family.isV6 := by
  obtain ⟨⟨address, length⟩, hcut, h⟩ := Option.bind_eq_some_iff.mp h
  have hcidr : has cidr ':' = decide (':' ∈ address ++ '/' :: length) := by
    rw [has, List.contains_eq_mem, (cutFirst_eq_some_iff.mp hcut).1]
  rw [hcidr]
  dsimp only at h
  split at h
  · -- version 4: neither the address nor the length or netmask has one
    rename_i n m h4 hlength
    cases h
    refine decide_eq_false fun hc => ?_
    rcases List.mem_append.mp hc with hc | hc
    · exact Version4.colon_notMem_of_parse? h4 hc
    · rcases List.mem_cons.mp hc with hc | hc
      · exact absurd hc (by decide)
      · exact colon_notMem_of_version4Length? hlength hc
  · -- version 6: the address has one
    obtain ⟨n, h6, h⟩ := Option.bind_eq_some_iff.mp h
    obtain ⟨m, -, h⟩ := Option.bind_eq_some_iff.mp h
    cases h
    exact decide_eq_true (List.mem_append_left _ (Version6.colon_mem_of_parse? h6))

end Cidr

theorem parse?_of_checkCidr {cidr : String} {family : Option Family} {network : Cidr}
    (h : checkCidr cidr family = .ok network) : Cidr.parse? cidr = some network := by
  unfold checkCidr at h
  cases hparse : Cidr.parse? cidr with
  | none => rw [hparse] at h; cases h
  | some parsed =>
      rw [hparse] at h
      dsimp only at h
      split at h
      · cases h
      · split at h
        · cases h; rfl
        · cases h

theorem family_of_checkCidr {cidr : String} {family : Family} {network : Cidr}
    (h : checkCidr cidr (some family) = .ok network) : network.address.family = family := by
  have hparse := parse?_of_checkCidr h
  unfold checkCidr at h
  rw [hparse] at h
  dsimp only at h
  split at h
  · cases h
  · split at h
    · rename_i hfamily
      exact (eq_of_beq hfamily).symm
    · cases h

/-- A network that passes the check for a family has a colon exactly if that is version 6. -/
theorem has_colon_of_checkCidr {cidr : String} {family : Family} {network : Cidr}
    (h : checkCidr cidr (some family) = .ok network) : has cidr ':' = family.isV6 := by
  rw [Cidr.has_colon_of_parse? (parse?_of_checkCidr h), family_of_checkCidr h]

/-- **A network that passes its check keeps to the alphabet of networks.** -/
theorem checkCidr_forall {cidr : String} {family : Option Family} {network : Cidr}
    (h : checkCidr cidr family = .ok network) : ∀ c ∈ cidr.toList, isCidrChar c = true :=
  Cidr.forall_of_parse? (parse?_of_checkCidr h)

end GridClient
