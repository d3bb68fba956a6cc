import GridClient.Json.Printer
import GridClient.Json.Reader
import Mathlib.Tactic.SplitIfs

/-!
# `GridClient.Proofs.Json.Literals` — literals are read as they were printed

The reader works on octets and the printer on characters. Whatever the printer puts around a text
or a number is ASCII, one octet for each character; inside a string no octet of a character beyond
ASCII is one that the reader stops at.

## Contents
- `Text.Utf8.octets`: the octets of several characters.
- `StringText.exists_scan_quoteChars`: the literal of a text stands for that text.
- `Decimal.Digits`, `NumberText.Proper`: numbers as JSON allows them; `Number.proper_written`.
- `NumberText.scan_chars`: a number is read up to its end.
-/

namespace GridClient

open Text (Octets)

/-! ## Octets of characters -/

namespace Text.Utf8

/-- The octets of several characters. -/
def octets (cs : List Char) : Octets := cs.flatMap String.utf8EncodeChar

theorem octets_append (cs ds : List Char) : octets (cs ++ ds) = octets cs ++ octets ds :=
  List.flatMap_append

theorem encode_eq_octets (s : String) : encode s = octets s.toList := by
  show _ = s.toList.flatMap String.utf8EncodeChar
  rw [← encode_ofList, String.ofList_toList]

/-- Every character has an octet. -/
theorem length_le_octets (cs : List Char) : cs.length ≤ (octets cs).length := by
  induction cs with
  | nil => exact Nat.le_refl _
  | cons c cs ih =>
      have hpos : 0 < (String.utf8EncodeChar c).length := by
        unfold String.utf8EncodeChar
        dsimp only
        split_ifs <;> simp
      have hlength : (octets (c :: cs)).length
          = (String.utf8EncodeChar c).length + (octets cs).length := List.length_append
      rw [hlength, List.length_cons]
      omega

end Text.Utf8

open Text.Utf8 (octets octets_append)

/-- An ASCII character is one octet. -/
theorem encodeChar_ascii {c : Char} (h : c.toNat < 128) :
    String.utf8EncodeChar c = [octetOf c] :=
  if_pos (show c.toNat ≤ 127 by omega)

theorem octets_cons_ascii {c : Char} (h : c.toNat < 128) (cs : List Char) :
    octets (c :: cs) = octetOf c :: octets cs := by
  show String.utf8EncodeChar c ++ octets cs = _
  rw [encodeChar_ascii h]
  rfl

/-- Characters between two ASCII ones. -/
theorem octets_enclosed {a b : Char} (ha : a.toNat < 128) (hb : b.toNat < 128) (cs : List Char)
    (rest : Octets) :
    octets (a :: cs ++ [b]) ++ rest = octetOf a :: (octets cs ++ octetOf b :: rest) := by
  rw [List.cons_append, octets_cons_ascii ha, octets_append, octets_cons_ascii hb,
    List.cons_append, List.append_assoc]
  rfl

/-- All octets of any other character are beyond ASCII. -/
theorem le_of_mem_encodeChar {c : Char} (h : 128 ≤ c.toNat) {b : UInt8}
    (hb : b ∈ String.utf8EncodeChar c) : 128 ≤ b.toNat := by
  have hlong : ¬ c.val.toNat ≤ 127 := by
    show ¬ c.toNat ≤ 127
    omega
  unfold String.utf8EncodeChar at hb
  simp only [if_neg hlong] at hb
  split_ifs at hb <;> simp only [List.mem_cons, List.not_mem_nil, or_false] at hb
  · rcases hb with rfl | rfl <;> rw [UInt8.toNat_ofNat'] <;> omega
  · rcases hb with rfl | rfl | rfl <;> rw [UInt8.toNat_ofNat'] <;> omega
  · rcases hb with rfl | rfl | rfl | rfl <;> rw [UInt8.toNat_ofNat'] <;> omega

theorem toNat_octetOf {c : Char} (h : c.toNat < 128) : (octetOf c).toNat = c.toNat := by
  rw [octetOf, UInt8.toNat_ofNat', Nat.mod_eq_of_lt (by omega)]

theorem symbol_octetOf {c : Char} (h : c.toNat < 128) : symbol (octetOf c) = c := by
  rw [symbol, toNat_octetOf h, Char.ofNat_toNat]

/-! ## Strings -/

namespace StringText

/-! ### What the reader does -/

theorem scan_quote (rest : Octets) : scan (octetOf '"' :: rest) = some ([], rest) := by
  rw [scan.eq_def]
  exact if_pos rfl

/-- A backslash with a letter. -/
theorem scan_letter {letter octet : UInt8} (hletter : letter ≠ octetOf 'u')
    (h : shortEscape? letter = some octet) (rest : Octets) :
    scan (octetOf '\\' :: letter :: rest)
      = (scan rest).map fun t => (.octet octet :: t.1, t.2) := by
  rw [scan.eq_def]
  show (if letter = octetOf 'u' then _ else _) = _
  rw [if_neg hletter, h]
  cases scan rest <;> rfl

/-- A backslash with a number. -/
theorem scan_unit {a b c d : UInt8} {unit : Nat} (h : hexUnit? a b c d = some unit)
    (rest : Octets) :
    scan (octetOf '\\' :: octetOf 'u' :: a :: b :: c :: d :: rest)
      = (scan rest).map fun t => (.unit unit :: t.1, t.2) := by
  rw [scan.eq_def]
  show ((hexUnit? a b c d).bind fun unit => _) = _
  rw [h]
  cases scan rest <;> rfl

/-- An octet that stands for itself. -/
def Plain (octet : UInt8) : Prop := octet ≠ 0x22 ∧ ¬ octet < 0x20 ∧ octet ≠ 0x5C

theorem scan_plain {octet : UInt8} (h : Plain octet) (rest : Octets) :
    scan (octet :: rest) = (scan rest).map fun t => (.octet octet :: t.1, t.2) := by
  rw [scan.eq_def]
  dsimp only
  rw [if_neg h.1, if_neg h.2.1, if_neg h.2.2]
  cases scan rest <;> rfl

theorem scan_plains {octets : Octets} (h : ∀ octet ∈ octets, Plain octet) (rest : Octets) :
    scan (octets ++ rest) = (scan rest).map fun t => (octets.map .octet ++ t.1, t.2) := by
  induction octets with
  | nil => exact Option.map_id'.symm
  | cons octet octets ih =>
      rw [List.cons_append, scan_plain (h octet List.mem_cons_self),
        ih fun o ho => h o (List.mem_cons_of_mem _ ho), Option.map_map]
      rfl

/-! ### What the pieces stand for -/

/-- Pieces that stand for one character, whatever pieces follow. -/
def Stand (pieces : List StringPiece) (c : Char) : Prop :=
  ∀ more, octets? (pieces ++ more) = (octets? more).map (String.utf8EncodeChar c ++ ·)

/-- A unit below the surrogates stands for its character. -/
theorem stand_unit {c : Char} (h : c.toNat < 0xD800) : Stand [.unit c.toNat] c := by
  have hleading : isLeading c.toNat = false := by
    rw [isLeading, decide_eq_false (by omega), Bool.false_and]
  have htrailing : isTrailing c.toNat = false := by
    rw [isTrailing, decide_eq_false (by omega), Bool.false_and]
  intro more
  cases more with
  | nil => simp [octets?, hleading, htrailing]
  | cons p more => cases p <;> simp [octets?, hleading, htrailing]

/-- Octets stand for themselves. -/
theorem stand_octets (c : Char) : Stand ((String.utf8EncodeChar c).map .octet) c := by
  intro more
  induction String.utf8EncodeChar c with
  | nil => exact Option.map_id'.symm
  | cons b bs ih =>
      show (octets? (bs.map .octet ++ more)).map (b :: ·) = _
      rw [ih, Option.map_map]
      rfl

/-! ### Escaped characters -/

theorem plain_of_ascii {c : Char} (h : c.toNat < 128) (hquote : c ≠ '"') (hbackslash : c ≠ '\\')
    (hcontrol : ¬ c.toNat < 32) : Plain (octetOf c) := by
  have hne : ∀ d : Char, d.toNat < 128 → c ≠ d → octetOf c ≠ octetOf d := by
    intro d hd hcd heq
    exact hcd (by rw [← symbol_octetOf h, heq, symbol_octetOf hd])
  refine ⟨hne '"' (by decide) hquote, fun hlt => hcontrol ?_, hne '\\' (by decide) hbackslash⟩
  rw [← toNat_octetOf h]
  exact UInt8.lt_iff_toNat_lt.mp hlt

theorem plain_of_le {octet : UInt8} (h : 128 ≤ octet.toNat) : Plain octet := by
  refine ⟨?_, fun hlt => ?_, ?_⟩
  · rintro rfl
    exact absurd h (by decide)
  · have : octet.toNat < 32 := UInt8.lt_iff_toNat_lt.mp hlt
    omega
  · rintro rfl
    exact absurd h (by decide)

/-- The four digits of a control character. -/
theorem hexUnit?_control : ∀ n < 32,
    hexUnit? (octetOf '0') (octetOf '0') (octetOf (Text.Hex.lower (n / 16)))
      (octetOf (Text.Hex.lower (n % 16))) = some n := by
  decide

theorem toNat_lower_lt : ∀ n < 16, (Text.Hex.lower n).toNat < 128 := by decide

/-- A character is read as pieces that stand for it. -/
theorem exists_scan_escapeChar (c : Char) : ∃ pieces, Stand pieces c ∧ ∀ rest,
    scan (octets (escapeChar c) ++ rest) = (scan rest).map fun t => (pieces ++ t.1, t.2) := by
  unfold escapeChar
  split
  -- a quote, a backslash and five control characters have a letter each
  iterate 7
    refine ⟨_, stand_octets _, fun rest => ?_⟩
    rw [encodeChar_ascii (by decide)]
    exact scan_letter (by decide) rfl rest
  rename_i hquote hbackslash _ _ _ _ _
  split
  · -- any other control character has a number
    rename_i hcontrol
    refine ⟨_, stand_unit (by omega), fun rest => ?_⟩
    have h16 : c.toNat / 16 < 16 := by omega
    rw [octets_cons_ascii (by decide), octets_cons_ascii (by decide),
      octets_cons_ascii (by decide), octets_cons_ascii (by decide),
      octets_cons_ascii (toNat_lower_lt _ h16),
      octets_cons_ascii (toNat_lower_lt _ (Nat.mod_lt _ (by decide)))]
    exact scan_unit (hexUnit?_control _ hcontrol) rest
  · rename_i hcontrol
    refine ⟨_, stand_octets c, fun rest => ?_⟩
    show scan ((String.utf8EncodeChar c ++ []) ++ rest) = _
    rw [List.append_nil]
    refine scan_plains (fun octet hoctet => ?_) rest
    by_cases hascii : c.toNat < 128
    · rw [encodeChar_ascii hascii, List.mem_singleton] at hoctet
      rw [hoctet]
      exact plain_of_ascii hascii (hquote ·) (hbackslash ·) hcontrol
    · exact plain_of_le (le_of_mem_encodeChar (by omega) hoctet)

/-- The characters of a literal up to its closing quote are read as pieces that stand for them. -/
theorem exists_scan_escaped (cs : List Char) (rest : Octets) : ∃ pieces,
    scan (octets (cs.flatMap escapeChar) ++ octetOf '"' :: rest) = some (pieces, rest)
      ∧ octets? pieces = some (octets cs) := by
  induction cs with
  | nil => exact ⟨[], scan_quote rest, rfl⟩
  | cons c cs ih =>
      obtain ⟨more, hscan, hmore⟩ := ih
      obtain ⟨pieces, hstand, hread⟩ := exists_scan_escapeChar c
      refine ⟨pieces ++ more, ?_, ?_⟩
      · rw [List.flatMap_cons, octets_append, List.append_assoc, hread, hscan]
        rfl
      · rw [hstand, hmore]
        rfl

/-- **The literal of a text stands for that text.** -/
theorem exists_scan_quoteChars (s : String) (rest : Octets) : ∃ pieces after,
    octets (quoteChars s) ++ rest = octetOf '"' :: after
      ∧ scan after = some (pieces, rest) ∧ text? pieces = some s := by
  obtain ⟨pieces, hscan, hpieces⟩ := exists_scan_escaped s.toList rest
  refine ⟨pieces, octets (s.toList.flatMap escapeChar) ++ octetOf '"' :: rest,
    octets_enclosed (by decide) (by decide) _ rest, hscan, ?_⟩
  · rw [text?, hpieces]
    show Text.Utf8.decode? (octets s.toList) = some s
    rw [← Text.Utf8.encode_eq_octets, Text.Utf8.decode?_encode]

end StringText

/-! ## Numbers -/

/-- A run of at least one digit. -/
def Decimal.Digits (ds : List Char) : Prop := ds ≠ [] ∧ ∀ c ∈ ds, c.isDigit = true

/-- What stands here does not go on with a run of digits. -/
def NoDigit (octets : Octets) : Prop := ∀ octet ∈ octets.head?, (symbol octet).isDigit = false

theorem toNat_lt_of_isDigit {c : Char} (h : c.isDigit = true) : c.toNat < 128 := by
  have hbound : c.toNat ≤ '9'.toNat := (Char.isDigit_iff_toNat.mp h).2
  have hnine : '9'.toNat = 57 := rfl
  omega

theorem noDigit_cons {octet : UInt8} {rest : Octets} :
    NoDigit (octet :: rest) ↔ (symbol octet).isDigit = false := by
  simp [NoDigit]

theorem spanDigits_octets {ds : List Char} (h : ∀ c ∈ ds, c.isDigit = true) {rest : Octets}
    (hrest : NoDigit rest) : spanDigits (octets ds ++ rest) = (ds, rest) := by
  induction ds with
  | nil =>
      cases rest with
      | nil => rfl
      | cons octet rest =>
          show (if (symbol octet).isDigit then _ else _) = _
          rw [noDigit_cons.mp hrest]
          rfl
  | cons c ds ih =>
      have hdigit : c.isDigit = true := h c List.mem_cons_self
      have hascii := toNat_lt_of_isDigit hdigit
      rw [octets_cons_ascii hascii, List.cons_append, spanDigits, symbol_octetOf hascii,
        if_pos hdigit, ih fun d hd => h d (List.mem_cons_of_mem _ hd)]

namespace NumberText

/-- A number as JSON allows it: digits in every part, and no leading zero. -/
structure Proper (n : NumberText) : Prop where
  whole : Decimal.Digits n.whole
  noZero : ∀ d ds, n.whole ≠ '0' :: d :: ds
  fraction : ∀ ds ∈ n.fraction, Decimal.Digits ds
  exponent : ∀ e ∈ n.exponent, Decimal.Digits e.2

/-- What stands after a number, when it does not go on with it. -/
def Ends (octets : Octets) : Prop :=
  NoDigit octets ∧ ∀ octet ∈ octets.head?,
    octet ≠ octetOf '.' ∧ octet ≠ octetOf 'e' ∧ octet ≠ octetOf 'E'

theorem ends_nil : Ends [] := ⟨nofun, nofun⟩

/-! ### The parts -/

/-- The text of a fraction. -/
def fractionChars : Option (List Char) → List Char
  | some ds => '.' :: ds
  | none => []

/-- The text of an exponent. -/
def exponentChars : Option (Bool × List Char) → List Char
  | some (negative, ds) => 'e' :: (if negative then '-' else '+') :: ds
  | none => []

theorem chars_eq (n : NumberText) :
    n.chars = (if n.negative then ['-'] else [])
      ++ (n.whole ++ (fractionChars n.fraction ++ exponentChars n.exponent)) := by
  rw [← List.append_assoc n.whole, ← List.append_assoc, ← List.append_assoc]
  rfl

theorem scanWhole_octets {ds : List Char} (h : Decimal.Digits ds)
    (hzero : ∀ e es, ds ≠ '0' :: e :: es) {rest : Octets} (hrest : NoDigit rest) :
    scanWhole (octets ds ++ rest) = some (ds, rest) := by
  rw [scanWhole, spanDigits_octets h.2 hrest]
  split
  · rename_i heq
    exact absurd (congrArg Prod.fst heq) h.1
  · rename_i heq
    exact absurd (congrArg Prod.fst heq) (hzero _ _)
  · rename_i heq
    rw [← heq]

theorem scanFraction_octets {fraction : Option (List Char)}
    (h : ∀ ds ∈ fraction, Decimal.Digits ds) {rest : Octets} (hrest : NoDigit rest)
    (hpoint : ∀ octet ∈ rest.head?, octet ≠ octetOf '.') :
    scanFraction (octets (fractionChars fraction) ++ rest) = some (fraction, rest) := by
  cases fraction with
  | none =>
      cases rest with
      | nil => rfl
      | cons octet rest => exact if_neg (hpoint octet rfl)
  | some ds =>
      have hds := h ds rfl
      rw [fractionChars, octets_cons_ascii (by decide), List.cons_append, scanFraction, if_pos rfl,
        spanDigits_octets hds.2 hrest]
      cases ds with
      | nil => exact absurd rfl hds.1
      | cons d ds => rfl

theorem scanExponent_octets {exponent : Option (Bool × List Char)}
    (h : ∀ e ∈ exponent, Decimal.Digits e.2) {rest : Octets} (hrest : Ends rest) :
    scanExponent (octets (exponentChars exponent) ++ rest) = some (exponent, rest) := by
  cases exponent with
  | none =>
      cases rest with
      | nil => rfl
      | cons octet rest =>
          obtain ⟨-, he, hE⟩ := hrest.2 octet rfl
          exact if_neg (not_or.mpr ⟨he, hE⟩)
  | some e =>
      obtain ⟨negative, ds⟩ := e
      obtain ⟨hne, hdigits⟩ := h _ rfl
      obtain ⟨d, ds, rfl⟩ := List.exists_cons_of_ne_nil hne
      have hspan := spanDigits_octets hdigits hrest.1
      cases negative with
      | true =>
          rw [exponentChars, if_pos rfl, octets_cons_ascii (by decide),
            octets_cons_ascii (by decide), List.cons_append, List.cons_append, scanExponent,
            if_pos (.inl rfl)]
          dsimp only
          rw [if_pos rfl]
          dsimp only
          rw [hspan]
      | false =>
          rw [exponentChars, if_neg (by decide), octets_cons_ascii (by decide),
            octets_cons_ascii (by decide), List.cons_append, List.cons_append, scanExponent,
            if_pos (.inl rfl)]
          dsimp only
          rw [if_neg (by decide), if_pos rfl]
          dsimp only
          rw [hspan]

/-! ### The whole -/

/-- An exponent ends the digits before it, and so does what ends a number. -/
theorem noDigit_exponent (exponent : Option (Bool × List Char)) {rest : Octets}
    (hrest : Ends rest) : NoDigit (octets (exponentChars exponent) ++ rest)
      ∧ ∀ octet ∈ (octets (exponentChars exponent) ++ rest).head?, octet ≠ octetOf '.' := by
  cases exponent with
  | none => exact ⟨hrest.1, fun octet ho => (hrest.2 octet ho).1⟩
  | some e =>
      rw [exponentChars, octets_cons_ascii (by decide)]
      exact ⟨noDigit_cons.mpr rfl, by rintro octet ⟨⟩; decide⟩

/-- A fraction ends the digits before it. -/
theorem noDigit_fraction (fraction : Option (List Char)) {rest : Octets} (hrest : NoDigit rest) :
    NoDigit (octets (fractionChars fraction) ++ rest) := by
  cases fraction with
  | none => exact hrest
  | some ds =>
      rw [fractionChars, octets_cons_ascii (by decide)]
      exact noDigit_cons.mpr rfl

/-- The parts of a number after its sign. -/
def scanParts (negative : Bool) (octets : Octets) : Option (NumberText × Octets) :=
  (scanWhole octets).bind fun w => (scanFraction w.2).bind fun f =>
    (scanExponent f.2).map fun e => (⟨⟨w.1, f.1, e.1⟩, negative⟩, e.2)

theorem scan_minus (rest : Octets) : scan (octetOf '-' :: rest) = scanParts true rest := by
  rw [scan]
  dsimp only
  rw [if_pos rfl, scanParts]
  simp only [Option.bind_eq_bind, Option.map_eq_bind]
  rfl

theorem scan_digit {c : Char} (h : c.isDigit = true) (rest : Octets) :
    scan (octetOf c :: rest) = scanParts false (octetOf c :: rest) := by
  have hne : octetOf c ≠ octetOf '-' := by
    intro heq
    have hminus : c = '-' := by
      rw [← symbol_octetOf (toNat_lt_of_isDigit h), heq, symbol_octetOf (by decide)]
    rw [hminus] at h
    exact absurd h (by decide)
  rw [scan]
  dsimp only
  rw [if_neg hne, scanParts]
  simp only [Option.bind_eq_bind, Option.map_eq_bind]
  rfl

/-- **A number is read as it was printed.** -/
theorem scan_chars {n : NumberText} (h : n.Proper) {rest : Octets} (hrest : Ends rest) :
    scan (octets n.chars ++ rest) = some (n, rest) := by
  obtain ⟨hexponent, hpoint⟩ := noDigit_exponent n.exponent hrest
  have hparts : scanParts n.negative (octets
      (n.whole ++ (fractionChars n.fraction ++ exponentChars n.exponent)) ++ rest)
      = some (n, rest) := by
    rw [octets_append, octets_append, List.append_assoc, List.append_assoc, scanParts,
      scanWhole_octets h.whole h.noZero (noDigit_fraction n.fraction hexponent), Option.bind_some,
      scanFraction_octets h.fraction hexponent hpoint, Option.bind_some,
      scanExponent_octets h.exponent hrest]
    rfl
  rw [chars_eq]
  cases hsign : n.negative with
  | true =>
      rw [hsign] at hparts
      rw [if_pos rfl, List.singleton_append, octets_cons_ascii (by decide), List.cons_append,
        scan_minus, hparts]
  | false =>
      rw [hsign] at hparts
      obtain ⟨hne, hdigits⟩ := h.whole
      obtain ⟨d, ds, hds⟩ := List.exists_cons_of_ne_nil hne
      have hdigit : d.isDigit = true := hdigits d (by rw [hds]; exact List.mem_cons_self)
      rw [hds, List.cons_append, octets_cons_ascii (toNat_lt_of_isDigit hdigit),
        List.cons_append] at hparts
      rw [if_neg (by decide), List.nil_append, hds, List.cons_append,
        octets_cons_ascii (toNat_lt_of_isDigit hdigit), List.cons_append, scan_digit hdigit, hparts]

end NumberText

/-! ### Numbers as they are written -/

namespace Decimal

theorem digits_digits (n : Nat) : Digits (digits n) :=
  ⟨Nat.toDigits_ne_nil, fun _ hc => Nat.isDigit_of_mem_toDigits (by decide) (by decide) hc⟩

/-- Only zero begins with a zero. -/
theorem exists_digits_eq {n : Nat} (h : n ≠ 0) : ∃ d ds, digits n = d :: ds ∧ d ≠ '0' := by
  induction n using Nat.strongRecOn with
  | _ n ih =>
    by_cases hn : n < 10
    · refine ⟨_, [], Nat.toDigits_of_lt_base hn, ?_⟩
      have hdigit : ∀ n < 10, n ≠ 0 → Nat.digitChar n ≠ '0' := by decide
      exact hdigit n hn h
    · obtain ⟨d, ds, hds, hd⟩ := ih (n / 10) (by omega) (by omega)
      exact ⟨d, ds ++ [Nat.digitChar (n % 10)],
        (Nat.toDigits_of_base_le (by decide) (by omega)).trans (congrArg (· ++ _) hds), hd⟩

end Decimal

namespace NumberText

open Decimal (Digits digits)

theorem digits_zero : Digits ['0'] := ⟨nofun, List.forall_mem_singleton.mpr rfl⟩

theorem noZero_of_ne {d : Char} (h : d ≠ '0') (ds : List Char) : ∀ e es, d :: ds ≠ '0' :: e :: es :=
  fun _ _ heq => h (List.cons.inj heq).1

theorem isDigit_of_mem_replicate {k : Nat} {c : Char} (h : c ∈ List.replicate k '0') :
    c.isDigit = true := by
  rw [List.eq_of_mem_replicate h]
  decide

/-- Whatever the style, a decimal number is written as JSON allows it. -/
theorem proper_parts {style : Decimal.Style} (hstyle : ∀ ds ∈ style.wholeFraction, Digits ds)
    (x : Decimal.Scaled) (negative : Bool) : Proper ⟨style.parts x, negative⟩ := by
  by_cases hzero : x.coefficient = 0
  · have hparts : style.parts x = ⟨['0'], style.wholeFraction, none⟩ := if_pos hzero
    rw [hparts]
    exact ⟨digits_zero, nofun, hstyle, nofun⟩
  obtain ⟨-, hdigits⟩ := Decimal.digits_digits x.coefficient
  obtain ⟨d, ds, hds, hd⟩ := Decimal.exists_digits_eq hzero
  unfold Decimal.Style.parts
  rw [hds] at hdigits ⊢
  dsimp only
  rw [if_neg hzero]
  split
  · rename_i hpoint
    split
    · -- zeros after the digits
      refine ⟨⟨nofun, fun c hc => ?_⟩, noZero_of_ne hd _, hstyle, nofun⟩
      rcases List.mem_append.mp hc with hc | hc
      · exact hdigits c hc
      · exact isDigit_of_mem_replicate hc
    · -- the point among the digits
      rename_i hlong
      obtain ⟨n, hn⟩ := Nat.exists_eq_succ_of_ne_zero
        (show ((d :: ds).length + x.power).toNat ≠ 0 by omega)
      rw [hn, List.take_succ_cons, List.drop_succ_cons]
      refine ⟨⟨nofun, fun c hc => ?_⟩, noZero_of_ne hd _, ?_, nofun⟩
      · rcases List.mem_cons.mp hc with rfl | hc
        · exact hdigits _ List.mem_cons_self
        · exact hdigits c (List.mem_cons_of_mem _ (List.mem_of_mem_take hc))
      · rintro _ ⟨⟩
        refine ⟨fun hnil => hlong ?_, fun c hc => ?_⟩
        · have hshort : ds.length ≤ n := List.drop_eq_nil_iff.mp hnil
          rw [hn, List.length_cons]
          omega
        · exact hdigits c (List.mem_cons_of_mem _ (List.mem_of_mem_drop hc))
  · split
    · -- zeros before the digits
      refine ⟨digits_zero, nofun, ?_, nofun⟩
      rintro _ ⟨⟩
      refine ⟨by simp, fun c hc => ?_⟩
      rcases List.mem_append.mp hc with hc | hc
      · exact isDigit_of_mem_replicate hc
      · exact hdigits c hc
    · -- one digit before the point, and an exponent
      refine ⟨⟨nofun, fun c hc => ?_⟩, noZero_of_ne hd _, ?_, ?_⟩
      · rw [List.mem_singleton.mp hc]
        exact hdigits d List.mem_cons_self
      · dsimp only
        split
        · exact nofun
        · rename_i hlength
          rintro _ ⟨⟩
          refine ⟨fun hnil => hlength ?_, fun c hc => hdigits c (List.mem_cons_of_mem _ hc)⟩
          rw [show ds = [] from hnil]
          rfl
      · rintro _ ⟨⟩
        exact Decimal.digits_digits _

end NumberText

/-- **Every number is written as JSON allows it.** -/
theorem Number.proper_written (n : Number) : n.written.Proper := by
  cases n with
  | integer value fits =>
      refine ⟨Decimal.digits_digits _, fun e es heq => ?_, nofun, nofun⟩
      change Decimal.digits value.natAbs = '0' :: e :: es at heq
      by_cases hzero : value.natAbs = 0
      · rw [hzero] at heq
        exact absurd (congrArg List.length heq) (by simp [Decimal.digits])
      · obtain ⟨d, ds, hds, hd⟩ := Decimal.exists_digits_eq hzero
        exact NumberText.noZero_of_ne hd ds e es (hds.symm.trans heq)
  | real value =>
      refine NumberText.proper_parts ?_ _ _
      rintro _ ⟨⟩
      exact NumberText.digits_zero

end GridClient
