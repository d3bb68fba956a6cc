import GridClient.Proofs.Address.Networks

/-!
# `GridClient.Proofs.Address.Canonical` — the written forms are read back

Every address has one canonical text: decimal numbers between points in version 4, and in version 6
hexadecimal groups between colons, where the longest run of zero groups is left out and an embedded
address of version 4 stands dotted. Reading that text gives the address again, and the text of a
network without bits after its length passes the check for its family.

## Contents
- `Version4.parse?_chars`: dotted addresses are read back.
- `cutDouble_join_append`, `eq_append_of_longestRun`: where `::` is cut, and what it stands for.
- `Version6.parse?_chars`: colon addresses are read back.
- `Address.parse?_text`, `Cidr.text`, `Cidr.parse?_text`, `checkCidr_text`: addresses and networks.
-/

namespace GridClient

open Text

/-! ## Dotted addresses -/

namespace Version4

theorem octet?_digits {n : Nat} (h : n ≤ 255) : octet? (Decimal.digits n) = some n := by
  have hread := Decimal.readDigits?_digits h
  unfold octet?
  split
  · rename_i c cs hdigits
    have hzero : n = 0 := by
      apply Classical.byContradiction
      intro hn
      exact Decimal.head?_digits hn (by rw [hdigits]; rfl)
    rw [hzero] at hdigits
    cases hdigits
  · exact hread

/-- The octets of a number put together are its last 32 bits. -/
theorem ofOctets_octets (n : Nat) : ofOctets (octets n) = n % 2 ^ 32 := by
  unfold ofOctets octets
  simp only [List.foldl_cons, List.foldl_nil, Nat.shiftRight_eq_div_pow]
  omega

/-- **Dotted addresses are read back.** -/
theorem parse?_chars (n : Nat) : parse? (chars n) = some (n % 2 ^ 32) := by
  have hbound : ∀ octet ∈ octets n, octet ≤ 255 := by
    intro octet hmem
    simp only [octets, List.mem_cons, List.not_mem_nil, or_false] at hmem
    omega
  have hpoint : ∀ piece ∈ (octets n).map Decimal.digits, '.' ∉ piece := by
    intro piece hpiece hmem
    obtain ⟨octet, -, rfl⟩ := List.mem_map.mp hpiece
    exact absurd (Decimal.isDigit_of_mem_digits hmem) (by decide)
  have hpieces : pieces '.' (chars n) = (octets n).map Decimal.digits :=
    pieces_join (by simp [octets]) hpoint
  have hoctets : ((octets n).map Decimal.digits).mapM octet? = some (octets n) :=
    mapM_map_eq_some fun octet hmem => octet?_digits (hbound octet hmem)
  unfold parse?
  rw [hpieces, hoctets, Option.bind_eq_bind, Option.bind_some, ofOctets_octets]
  rfl

end Version4

/-! ## Groups -/

namespace Version6

theorem group?_toDigits {n : Nat} (h : n < 65536) : group? (Nat.toDigits 16 n) = some n := by
  obtain ⟨values, hread, hlength, hvalue⟩ := Hex.exists_mapM_value? n
  have hpos : 0 < (Nat.toDigits 16 n).length := Nat.length_toDigits_pos
  have hshort : (Nat.toDigits 16 n).length ≤ 4 :=
    (Nat.length_toDigits_le_iff (by decide) (by decide)).mpr (by omega)
  unfold group?
  rw [hread, Option.bind_eq_bind, Option.bind_some, if_pos (by omega), hvalue]

theorem colon_notMem_toDigits (n : Nat) : ':' ∉ Nat.toDigits 16 n :=
  Hex.notMem_toDigits (by decide) n

variable {gs : List Nat}

theorem groups?_map (dotted : Bool) (h : ∀ g ∈ gs, g < 65536) :
    groups? dotted (gs.map (Nat.toDigits 16)) = some gs := by
  induction gs with
  | nil => rfl
  | cons g gs ih =>
      have hfirst := group?_toDigits (h g List.mem_cons_self)
      have hrest := ih fun other hother => h other (List.mem_cons_of_mem _ hother)
      cases gs with
      | nil =>
          rw [List.map_cons, List.map_nil, groups?, hfirst]
      | cons next gs =>
          rw [List.map_cons] at hrest
          rw [List.map_cons, List.map_cons, groups?, hfirst, hrest]
          · rfl
          · simp

/-- **Groups are read back**, on either side of `::`. -/
theorem side?_groupChars (dotted : Bool) (h : ∀ g ∈ gs, g < 65536) :
    side? dotted (groupChars gs) = some gs := by
  have hcolon : ∀ piece ∈ gs.map (Nat.toDigits 16), ':' ∉ piece := by
    intro piece hpiece
    obtain ⟨g, -, rfl⟩ := List.mem_map.mp hpiece
    exact colon_notMem_toDigits g
  unfold side?
  by_cases hgs : gs = []
  · rw [hgs]
    rfl
  · have hpieces : pieces ':' (groupChars gs) = gs.map (Nat.toDigits 16) :=
      pieces_join (by simpa using hgs) hcolon
    have hfull : groupChars gs ≠ [] := by
      intro hempty
      rw [hempty] at hpieces
      -- nothing is one empty piece, and no group is written with no digit
      have hmem : [] ∈ gs.map (Nat.toDigits 16) := hpieces ▸ List.mem_singleton_self []
      obtain ⟨g, -, hg⟩ := List.mem_map.mp hmem
      exact Nat.toDigits_ne_nil hg
    rw [if_neg (by simpa using hfull), hpieces, groups?_map dotted h]

/-! ## The place of `::` -/

/-- A part without colons stays before the cut. -/
theorem cutDouble_append_of_notMem {piece : List Char} (cs : List Char) (h : ':' ∉ piece) :
    cutDouble (piece ++ cs) = (cutDouble cs).map fun (a, b) => (piece ++ a, b) := by
  induction piece with
  | nil => simp
  | cons c piece ih =>
      have hc : c ≠ ':' := fun heq => h (heq ▸ List.mem_cons_self)
      have hpiece : ':' ∉ piece := fun hmem => h (List.mem_cons_of_mem c hmem)
      rw [List.cons_append, cutDouble, ih hpiece]
      · cases cutDouble cs <;> rfl
      · intro rest heq
        exact absurd heq hc

/-- Pieces that are not empty have no `::` between them. -/
theorem cutDouble_join_append {ps : List (List Char)} (cs : List Char)
    (h : ∀ piece ∈ ps, piece ≠ [] ∧ ':' ∉ piece) :
    cutDouble (join [':'] ps ++ cs)
      = (cutDouble cs).map fun (a, b) => (join [':'] ps ++ a, b) := by
  induction ps with
  | nil => simp [join]
  | cons p ps ih =>
      have hp := h p List.mem_cons_self
      have hrest := ih fun piece hpiece => h piece (List.mem_cons_of_mem p hpiece)
      cases ps with
      | nil => exact cutDouble_append_of_notMem cs hp.2
      | cons q ps =>
          have hjoin : join [':'] (p :: q :: ps) = p ++ ':' :: join [':'] (q :: ps) := by
            simp [join]
          -- the next piece stands between this colon and any other
          have hcolon : cutDouble (':' :: (join [':'] (q :: ps) ++ cs))
              = (cutDouble (join [':'] (q :: ps) ++ cs)).map fun (a, b) => (':' :: a, b) := by
            obtain ⟨hq, hcolon⟩ := h q (by simp)
            have hstart : ∀ rest, join [':'] (q :: ps) ++ cs ≠ ':' :: rest := by
              intro rest heq
              obtain ⟨c, q, rfl⟩ := List.exists_cons_of_ne_nil hq
              have hc : c = ':' := by
                cases ps <;> exact (List.cons.inj heq).1
              exact hcolon (hc ▸ List.mem_cons_self)
            rw [cutDouble]
            intro rest _ heq
            exact hstart rest heq
          rw [hjoin, List.append_assoc, List.cons_append, cutDouble_append_of_notMem _ hp.2, hcolon,
            hrest, Option.map_map, Option.map_map]
          congr 1
          funext parts
          simp

/-- Groups have no `::` between them. -/
theorem cutDouble_groupChars_append (gs : List Nat) (cs : List Char) :
    cutDouble (groupChars gs ++ cs) = (cutDouble cs).map fun (a, b) => (groupChars gs ++ a, b) := by
  apply cutDouble_join_append
  intro piece hpiece
  obtain ⟨g, -, rfl⟩ := List.mem_map.mp hpiece
  exact ⟨Nat.toDigits_ne_nil, colon_notMem_toDigits g⟩

/-- **The longest run is a run of zero groups**, at the place told. -/
theorem eq_append_of_longestRun {i start length : Nat} (h : longestRun i gs = (start, length)) :
    ∃ before after, gs = before ++ List.replicate length 0 ++ after
      ∧ start = i + before.length := by
  induction gs generalizing i with
  | nil =>
      cases h
      exact ⟨[], [], rfl, rfl⟩
  | cons g gs ih =>
      rw [longestRun] at h
      split at h
      · obtain ⟨before, after, hgs, hstart⟩ := ih h
        refine ⟨g :: before, after, ?_, ?_⟩
        · rw [hgs]
          rfl
        · rw [hstart, List.length_cons]
          omega
      · -- the run starts here: it is all zeros, and what follows it is the rest
        cases h
        have hzeros : (g :: gs).takeWhile (· == 0) = List.replicate (zeroRun (g :: gs)) 0 := by
          apply List.eq_replicate_iff.mpr
          refine ⟨rfl, ?_⟩
          intro k hk
          have hall := List.all_eq_true.mp List.all_takeWhile k hk
          simpa using hall
        refine ⟨[], (g :: gs).dropWhile (· == 0), ?_, rfl⟩
        rw [List.nil_append, ← hzeros, List.takeWhile_append_dropWhile]

/-! ## Colon addresses -/

theorem lt_of_mem_groups {n g : Nat} (h : g ∈ groups n) : g < 65536 := by
  obtain ⟨shift, -, rfl⟩ := List.mem_map.mp h
  exact Nat.mod_lt _ (by decide)

/-- A group added to all before it. -/
theorem shiftRight_add_group (n k : Nat) :
    (n >>> (k + 16)) * 65536 + (n >>> k) % 65536 = n >>> k := by
  rw [Nat.shiftRight_add, Nat.shiftRight_eq_div_pow (n >>> k) 16]
  omega

/-- The groups of a number put together are the number. -/
theorem ofGroups_groups {n : Nat} (h : n < 2 ^ 128) : ofGroups (groups n) = n := by
  have hzero : n >>> 128 = 0 := by
    rw [Nat.shiftRight_eq_div_pow]
    exact Nat.div_eq_of_lt h
  have hfirst : 0 * 65536 + (n >>> 112) % 65536 = n >>> 112 := by
    have hgroup := shiftRight_add_group n 112
    rw [hzero] at hgroup
    exact hgroup
  unfold ofGroups groups
  simp only [List.map_cons, List.map_nil, List.foldl_cons, List.foldl_nil]
  rw [hfirst, shiftRight_add_group n 96, shiftRight_add_group n 80, shiftRight_add_group n 64,
    shiftRight_add_group n 48, shiftRight_add_group n 32, shiftRight_add_group n 16,
    shiftRight_add_group n 0, Nat.shiftRight_zero]

/-- Eight groups are read back. -/
theorem allGroups?_groupChars (hgs : ∀ g ∈ gs, g < 65536) (hlength : gs.length = 8) :
    allGroups? (groupChars gs) = some gs := by
  have hcut : cutDouble (groupChars gs) = none := by
    have happend := cutDouble_groupChars_append gs []
    rw [List.append_nil] at happend
    exact happend
  unfold allGroups?
  rw [hcut]
  simp only [side?_groupChars true hgs, hlength, Option.bind_eq_bind, Option.bind_some, if_true]

/-- Groups around `::` are read back with zeros between them. -/
theorem allGroups?_around {head tail : List Nat} {zeros : Nat} (hhead : ∀ g ∈ head, g < 65536)
    (htail : ∀ g ∈ tail, g < 65536) (hzeros : 1 ≤ zeros)
    (hlength : head.length + zeros + tail.length = 8) :
    allGroups? (groupChars head ++ ':' :: ':' :: groupChars tail)
      = some (head ++ List.replicate zeros 0 ++ tail) := by
  have hcut : cutDouble (groupChars head ++ ':' :: ':' :: groupChars tail)
      = some (groupChars head, groupChars tail) := by
    simp [cutDouble_groupChars_append, cutDouble]
  have hleft : 8 - (head.length + tail.length) = zeros := by omega
  unfold allGroups?
  rw [hcut]
  simp only [side?_groupChars false hhead, side?_groupChars true htail, Option.bind_eq_bind,
    Option.bind_some]
  rw [if_pos (by omega), hleft]

/-- An embedded address of version 4 is read back as the last two groups. -/
theorem allGroups?_embedded {n : Nat} (h : (groups n).take 6 = [0, 0, 0, 0, 0, 0xFFFF]) :
    allGroups? ("::ffff:".toList ++ Version4.chars n) = some (groups n) := by
  have hparse := Version4.parse?_chars n
  have hcut : cutDouble ("::ffff:".toList ++ Version4.chars n)
      = some ([], "ffff:".toList ++ Version4.chars n) := rfl
  have hpieces : pieces ':' ("ffff:".toList ++ Version4.chars n)
      = ["ffff".toList, Version4.chars n] := by
    have hfirst := pieces_append_cons (Version4.chars n) (show ':' ∉ "ffff".toList by decide)
    rw [pieces_of_notMem (Version4.colon_notMem_of_parse? hparse)] at hfirst
    exact hfirst
  -- the dotted part is no group, since it has points
  have hgroup : group? (Version4.chars n) = none := by
    cases hread : group? (Version4.chars n) with
    | none => rfl
    | some g =>
        obtain ⟨values, hvalues, -⟩ := Option.bind_eq_some_iff.mp hread
        have hpoint := Version4.point_mem_of_parse? hparse
        exact absurd (isSome_of_mapM hvalues '.' hpoint) (by decide)
  have hside : side? true ("ffff:".toList ++ Version4.chars n)
      = some [0xFFFF, n % 2 ^ 32 / 65536, n % 2 ^ 32 % 65536] := by
    have hffff : group? "ffff".toList = some 0xFFFF := by decide
    unfold side?
    rw [if_neg (by simp), hpieces, groups?, groups?, hffff, hgroup, hparse]
    · rfl
    · simp
  have hgroups : groups n
      = [0, 0, 0, 0, 0, 0xFFFF] ++ [n % 2 ^ 32 / 65536, n % 2 ^ 32 % 65536] := by
    rw [← List.take_append_drop 6 (groups n), h]
    simp only [groups, List.map_cons, List.map_nil, List.drop_succ_cons, List.drop_zero,
      Nat.shiftRight_eq_div_pow, List.append_cancel_left_eq, List.cons.injEq, and_true]
    omega
  unfold allGroups?
  rw [hcut]
  dsimp only
  rw [hside, hgroups]
  rfl

/-- **Colon addresses are read back.** -/
theorem parse?_chars {n : Nat} (h : n < 2 ^ 128) : parse? (chars n) = some n := by
  have hgroups : allGroups? (chars n) = some (groups n) := by
    unfold chars
    dsimp only
    split
    · rename_i hembedded
      exact allGroups?_embedded hembedded
    · cases hrun : longestRun 0 (groups n) with
      | mk start length =>
          dsimp only
          split
          · rename_i hlong
            obtain ⟨before, after, hgs, hstart⟩ := eq_append_of_longestRun hrun
            rw [Nat.zero_add] at hstart
            have hbound : ∀ g ∈ before ++ List.replicate length 0 ++ after, g < 65536 := by
              rw [← hgs]
              exact fun g => lt_of_mem_groups
            have hlength : before.length + length + after.length = 8 := by
              have height : (groups n).length = 8 := rfl
              rw [hgs] at height
              simpa [Nat.add_assoc] using height
            have htake : (groups n).take start = before := by
              rw [hgs, hstart, List.append_assoc, List.take_left]
            have hdrop : (groups n).drop (start + length) = after := by
              rw [hgs, hstart]
              exact List.drop_left' (by simp)
            rw [htake, hdrop, hgs]
            apply allGroups?_around _ _ (by omega) hlength
            · intro g hg
              exact hbound g (by simp [hg])
            · intro g hg
              exact hbound g (by simp [hg])
          · exact allGroups?_groupChars (fun g => lt_of_mem_groups) rfl
  unfold parse?
  rw [hgroups, Option.map_some, ofGroups_groups h]

end Version6

/-! ## Addresses -/

namespace Address

/-- **Every address is read back from its text.** -/
theorem parse?_text (a : Address) : parse? a.text = some a := by
  obtain ⟨family, bits⟩ := a
  apply parse?_eq_some_iff.mpr
  rw [text, String.toList_ofList]
  cases family with
  | v4 =>
      refine .inl ⟨bits.toNat, ?_, ?_⟩
      · have hbits : bits.toNat < 2 ^ 32 := bits.isLt
        have hparse := Version4.parse?_chars bits.toNat
        rw [Nat.mod_eq_of_lt hbits] at hparse
        exact hparse
      · simp [ofNat]
  | v6 =>
      have hparse : Version6.parse? (Version6.chars bits.toNat) = some bits.toNat :=
        Version6.parse?_chars bits.isLt
      refine .inr ⟨Version4.parse?_of_version6 hparse, bits.toNat, hparse, ?_⟩
      simp [ofNat]

end Address

/-! ## Networks -/

namespace Cidr

/-- The text of a network: the canonical text of its address, and its length in digits. -/
def text (c : Cidr) : String := c.address.text ++ "/" ++ Decimal.text c.length

/-- **An address with a length up to its family's width is read back from its text.** -/
theorem parse?_text {c : Cidr} (h : c.length ≤ c.address.family.width) :
    parse? c.text = some c := by
  apply parse?_eq_some_iff.mpr
  refine ⟨c.address.text, Decimal.text c.length, rfl, Address.parse?_text c.address, h, ?_⟩
  exact .digits (.inl (decimalText_text c.length))

end Cidr

/-- **The text of a network passes the check for its family.** -/
theorem checkCidr_text {c : Cidr} (hlength : c.length ≤ c.address.family.width)
    (hclear : c.HostBitsClear) : checkCidr c.text (some c.address.family) = .ok c := by
  apply checkCidr_eq_ok_iff_parse?.mpr
  refine ⟨Cidr.parse?_text hlength, hclear, ?_⟩
  intro f hf
  exact Option.some.inj hf

end GridClient
