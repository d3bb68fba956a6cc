import GridClient.Proofs.Json.Fields
import GridClient.Proofs.Json.Literals
import GridClient.Proofs.Json.Record
import Mathlib.Data.Bool.AllAny

/-!
# `GridClient.Proofs.Json.RoundTrip` — the text of a value is read back

The reader is run on the octets of a printed value with anything after them that does not go on
with a number. The induction is on the value. Its fuel is measured in characters: an array or object
spends two steps on its brackets, each item one on itself and one on the comma before the next.

## Contents
- `Json.exists_chars_eq`: how the text of a value begins.
- `Document.scan_chars`: the reader gives back the document of a printed value.
- `Document.read_text`: so does reading a whole text; `Json.document_eq_of_text_eq`: values with
  one text have one document.
- `Layout.members?_document`: a record finds in a printed object what the object has.
-/

namespace GridClient

open Text (Octets)
open Text.Utf8 (octets octets_append)
open NumberText (Ends)

/-! ## Beginnings -/

/-- How a value can begin. -/
def valueStarts : List Char :=
  ['n', 't', 'f', '"', '[', '\x7b', '-', '0', '1', '2', '3', '4', '5', '6', '7', '8', '9']

theorem mem_valueStarts_of_isDigit {c : Char} (h : c.isDigit = true) : c ∈ valueStarts := by
  obtain ⟨hlow, hhigh⟩ := Char.isDigit_iff_toNat.mp h
  have hall : ∀ n < 10, Char.ofNat (48 + n) ∈ valueStarts := by decide
  have hmem := hall (c.toNat - 48) (by have : '9'.toNat = 57 := rfl; omega)
  have hlow' : 48 ≤ c.toNat := hlow
  rwa [Nat.add_sub_cancel' hlow', Char.ofNat_toNat] at hmem

/-- A number begins with a sign or a digit. -/
theorem mem_valueStarts_of_number {c : Char} (h : c = '-' ∨ c.isDigit = true) :
    c ∈ valueStarts := by
  rcases h with rfl | hdigit
  · decide
  · exact mem_valueStarts_of_isDigit hdigit

theorem Number.exists_chars_eq (n : Number) :
    ∃ c cs, n.chars = c :: cs ∧ (c = '-' ∨ c.isDigit = true) := by
  obtain ⟨hne, hdigits⟩ := n.proper_written.whole
  obtain ⟨d, ds, hds⟩ := List.exists_cons_of_ne_nil hne
  rw [chars, NumberText.chars_eq]
  cases n.written.negative with
  | true => exact ⟨'-', _, rfl, .inl rfl⟩
  | false =>
      rw [hds]
      exact ⟨d, _, rfl, .inr (hdigits d (by rw [hds]; exact List.mem_cons_self))⟩

theorem Json.exists_chars_eq (j : Json) : ∃ c cs, j.chars = c :: cs ∧ c ∈ valueStarts := by
  cases j with
  | null => exact ⟨_, _, rfl, by decide⟩
  | bool b => cases b <;> exact ⟨_, _, rfl, by decide⟩
  | number n =>
      obtain ⟨c, cs, hcs, hc⟩ := n.exists_chars_eq
      exact ⟨c, cs, hcs, mem_valueStarts_of_number hc⟩
  | string s => exact ⟨_, _, rfl, by decide⟩
  | array items => exact ⟨_, _, rfl, by decide⟩
  | object members => exact ⟨_, _, rfl, by decide⟩

theorem ascii_of_mem_valueStarts : ∀ c ∈ valueStarts, c.toNat < 128 :=
  List.all_iff_forall_prop.mp (by decide)

theorem notBlank_of_mem_valueStarts : ∀ c ∈ valueStarts, isJsonBlank (octetOf c) = false :=
  List.all_iff_forall_prop.mp (by decide)

/-- Items begin as the one before the others does: nothing is skipped, and no bracket closes. -/
theorem exists_itemOctets_eq (item : Json) (items : List Json) (rest : Octets) :
    ∃ octet after, octets (itemChars (item :: items)) ++ rest = octet :: after
      ∧ isJsonBlank octet = false ∧ symbol octet ≠ ']' := by
  obtain ⟨c, cs, hcs, hc⟩ := item.exists_chars_eq
  have hascii := ascii_of_mem_valueStarts c hc
  have hitems : ∃ more, itemChars (item :: items) = c :: more := by
    cases items with
    | nil => exact ⟨cs, hcs⟩
    | cons next items => exact ⟨_, congrArg (· ++ ',' :: itemChars (next :: items)) hcs⟩
  obtain ⟨more, hmore⟩ := hitems
  refine ⟨octetOf c, octets more ++ rest, ?_, notBlank_of_mem_valueStarts c hc, ?_⟩
  · rw [hmore, octets_cons_ascii hascii, List.cons_append]
  · rw [symbol_octetOf hascii]
    rintro rfl
    exact absurd hc (by decide)

/-- Members begin with a quote. -/
theorem exists_memberOctets_eq (key : String) (value : Json) (members : Fields) (rest : Octets) :
    ∃ after, octets (memberChars ((key, value) :: members)) ++ rest = octetOf '"' :: after := by
  have hmembers : ∃ more, memberChars ((key, value) :: members) = '"' :: more := by
    cases members <;> exact ⟨_, rfl⟩
  obtain ⟨more, hmore⟩ := hmembers
  exact ⟨octets more ++ rest, by rw [hmore, octets_cons_ascii (by decide), List.cons_append]⟩

theorem skipBlank_cons {octet : UInt8} (h : isJsonBlank octet = false) (rest : Octets) :
    skipBlank (octet :: rest) = octet :: rest :=
  List.dropWhile_cons_of_neg (by rw [h]; decide)

/-- A comma or a closing bracket does not go on with a number. -/
theorem ends_cons {c : Char} (h : c ∈ [',', ']', '\x7d']) (rest : Octets) :
    Ends (octetOf c :: rest) := by
  have hall : ∀ c ∈ [',', ']', '\x7d'], (symbol (octetOf c)).isDigit = false
      ∧ octetOf c ≠ octetOf '.' ∧ octetOf c ≠ octetOf 'e' ∧ octetOf c ≠ octetOf 'E' :=
    List.all_iff_forall_prop.mp (by decide)
  obtain ⟨hdigit, hothers⟩ := hall c h
  exact ⟨noDigit_cons.mpr hdigit, by rintro octet ⟨⟩; exact hothers⟩

/-! ## What the reader does -/

namespace Document

theorem scan_string (fuel : Nat) {after rest : Octets} {pieces : List StringPiece}
    (h : StringText.scan after = some (pieces, rest)) :
    scan (fuel + 1) (octetOf '"' :: after) = some (.string (StringText.text? pieces), rest) := by
  rw [scan, skipBlank_cons (by decide)]
  show ((StringText.scan after).bind fun t => some (string (StringText.text? t.1), t.2)) = _
  rw [h]
  rfl

theorem scan_number (fuel : Nat) {c : Char} (h : c = '-' ∨ c.isDigit = true) (after : Octets) :
    scan (fuel + 1) (octetOf c :: after)
      = (NumberText.scan (octetOf c :: after)).map fun t => (.number t.1, t.2) := by
  have hmem : c ∈ valueStarts := mem_valueStarts_of_number h
  rw [scan, skipBlank_cons (notBlank_of_mem_valueStarts c hmem)]
  dsimp only
  rw [symbol_octetOf (ascii_of_mem_valueStarts c hmem)]
  split
  -- neither a sign nor a digit begins any other value
  iterate 6 exact absurd h (by decide)
  cases NumberText.scan (octetOf c :: after) <;> rfl

theorem scan_emptyArray (fuel : Nat) (rest : Octets) :
    scan (fuel + 1) (octetOf '[' :: octetOf ']' :: rest) = some (.array [], rest) := rfl

theorem scan_array (fuel : Nat) {octet : UInt8} {after : Octets}
    (hblank : isJsonBlank octet = false) (hclose : symbol octet ≠ ']') :
    scan (fuel + 1) (octetOf '[' :: octet :: after)
      = (scanItems fuel (octet :: after)).map fun t => (.array t.1, t.2) := by
  rw [scan, skipBlank_cons (by decide)]
  dsimp only
  rw [skipBlank_cons hblank]
  show (if symbol octet = ']' then some (array [], after) else _) = _
  rw [if_neg hclose]
  cases scanItems fuel (octet :: after) <;> rfl

theorem scan_emptyObject (fuel : Nat) (rest : Octets) :
    scan (fuel + 1) (octetOf '\x7b' :: octetOf '\x7d' :: rest) = some (.object [], rest) := rfl

theorem scan_object (fuel : Nat) (after : Octets) :
    scan (fuel + 1) (octetOf '\x7b' :: octetOf '"' :: after)
      = (scanMembers fuel (octetOf '"' :: after)).map fun t => (.object t.1, t.2) := by
  rw [scan, skipBlank_cons (by decide)]
  show ((scanMembers fuel (octetOf '"' :: after)).bind fun t => some (object t.1, t.2)) = _
  cases scanMembers fuel (octetOf '"' :: after) <;> rfl

/-- The last item. -/
theorem scanItems_last {fuel : Nat} {octets rest : Octets} {item : Document}
    (h : scan fuel octets = some (item, octetOf ']' :: rest)) :
    scanItems (fuel + 1) octets = some ([item], rest) := by
  rw [scanItems, h]
  rfl

/-- An item before a comma. -/
theorem scanItems_comma {fuel : Nat} {octets after rest : Octets} {item : Document}
    {items : List Document} (h : scan fuel octets = some (item, octetOf ',' :: after))
    (hitems : scanItems fuel after = some (items, rest)) :
    scanItems (fuel + 1) octets = some (item :: items, rest) := by
  rw [scanItems, h]
  show ((scanItems fuel after).bind fun t => some (item :: t.1, t.2)) = _
  rw [hitems]
  rfl

/-- The last member. -/
theorem scanMembers_last {fuel : Nat} {after value rest : Octets} {pieces : List StringPiece}
    {d : Document} (hkey : StringText.scan after = some (pieces, octetOf ':' :: value))
    (h : scan fuel value = some (d, octetOf '\x7d' :: rest)) :
    scanMembers (fuel + 1) (octetOf '"' :: after)
      = some ([(StringText.text? pieces, d)], rest) := by
  rw [scanMembers, skipBlank_cons (by decide)]
  dsimp only
  rw [if_pos (by decide), hkey]
  show ((scan fuel value).bind fun t => _) = _
  rw [h]
  rfl

/-- A member before a comma. -/
theorem scanMembers_comma {fuel : Nat} {after value more rest : Octets}
    {pieces : List StringPiece} {d : Document} {members : List (Option String × Document)}
    (hkey : StringText.scan after = some (pieces, octetOf ':' :: value))
    (h : scan fuel value = some (d, octetOf ',' :: more))
    (hmembers : scanMembers fuel more = some (members, rest)) :
    scanMembers (fuel + 1) (octetOf '"' :: after)
      = some ((StringText.text? pieces, d) :: members, rest) := by
  rw [scanMembers, skipBlank_cons (by decide)]
  dsimp only
  rw [if_pos (by decide), hkey]
  show ((scan fuel value).bind fun t => _) = _
  rw [h]
  show ((scanMembers fuel more).bind fun t => some ((_, d) :: t.1, t.2)) = _
  rw [hmembers]
  rfl

/-! ## The round trip -/

mutual

/-- **The reader gives back the document of a printed value.** -/
theorem scan_chars : ∀ (j : Json) {fuel : Nat} {rest : Octets}, 2 * j.chars.length ≤ fuel →
    Ends rest → scan fuel (octets j.chars ++ rest) = some (j.document, rest)
  | j, 0, rest, hfuel, _ => by
      obtain ⟨c, cs, hcs, -⟩ := j.exists_chars_eq
      rw [hcs, List.length_cons] at hfuel
      omega
  | .null, fuel + 1, rest, _, _ => rfl
  | .bool true, fuel + 1, rest, _, _ => rfl
  | .bool false, fuel + 1, rest, _, _ => rfl
  | .number n, fuel + 1, rest, _, hrest => by
      obtain ⟨c, cs, hcs, hc⟩ := n.exists_chars_eq
      have hread := NumberText.scan_chars n.proper_written hrest
      have hascii := ascii_of_mem_valueStarts c (mem_valueStarts_of_number hc)
      change NumberText.scan (octets n.chars ++ rest) = _ at hread
      show scan (fuel + 1) (octets n.chars ++ rest) = _
      rw [hcs, octets_cons_ascii hascii, List.cons_append] at hread ⊢
      rw [scan_number fuel hc, hread]
      rfl
  | .string s, fuel + 1, rest, _, _ => by
      obtain ⟨pieces, after, hoctets, hscan, htext⟩ := StringText.exists_scan_quoteChars s rest
      show scan (fuel + 1) (octets (quoteChars s) ++ rest) = _
      rw [hoctets, scan_string fuel hscan, htext]
      rfl
  | .array [], fuel + 1, rest, _, _ => scan_emptyArray fuel rest
  | .array (item :: items), fuel + 1, rest, hfuel, _ => by
      have hlength : (Json.array (item :: items)).chars.length
          = (itemChars (item :: items)).length + 2 := by simp [Json.chars]
      have hitems : scanItems fuel (octets (itemChars (item :: items)) ++ octetOf ']' :: rest)
          = some (itemDocuments (item :: items), rest) := scanItems_chars item items (by omega)
      obtain ⟨octet, after, hoctets, hblank, hclose⟩ :=
        exists_itemOctets_eq item items (octetOf ']' :: rest)
      show scan (fuel + 1) (octets ('[' :: itemChars (item :: items) ++ [']']) ++ rest) = _
      rw [octets_enclosed (by decide) (by decide), hoctets, scan_array fuel hblank hclose,
        ← hoctets, hitems]
      rfl
  | .object [], fuel + 1, rest, _, _ => scan_emptyObject fuel rest
  | .object ((key, value) :: members), fuel + 1, rest, hfuel, _ => by
      have hlength : (Json.object ((key, value) :: members)).chars.length
          = (memberChars ((key, value) :: members)).length + 2 := by simp [Json.chars]
      have hmembers : scanMembers fuel
          (octets (memberChars ((key, value) :: members)) ++ octetOf '\x7d' :: rest)
          = some (memberDocuments ((key, value) :: members), rest) :=
        scanMembers_chars key value members (by omega)
      obtain ⟨after, hoctets⟩ := exists_memberOctets_eq key value members (octetOf '\x7d' :: rest)
      show scan (fuel + 1)
        (octets ('\x7b' :: memberChars ((key, value) :: members) ++ ['\x7d']) ++ rest) = _
      rw [octets_enclosed (by decide) (by decide), hoctets, scan_object, ← hoctets, hmembers]
      rfl

theorem scanItems_chars : ∀ (item : Json) (items : List Json) {fuel : Nat} {rest : Octets},
    2 * (itemChars (item :: items)).length + 1 ≤ fuel →
    scanItems fuel (octets (itemChars (item :: items)) ++ octetOf ']' :: rest)
      = some (itemDocuments (item :: items), rest)
  | _, _, 0, _, hfuel => absurd hfuel (by omega)
  | item, [], fuel + 1, rest, hfuel => by
      refine scanItems_last (scan_chars item ?_ (ends_cons (by decide) rest))
      exact (Nat.le_of_succ_le_succ hfuel)
  | item, next :: items, fuel + 1, rest, hfuel => by
      have hlength : (itemChars (item :: next :: items)).length
          = item.chars.length + ((itemChars (next :: items)).length + 1) := List.length_append
      have hitems : scanItems fuel (octets (itemChars (next :: items)) ++ octetOf ']' :: rest)
          = some (itemDocuments (next :: items), rest) := scanItems_chars next items (by omega)
      have hitem : ∀ after, scan fuel (octets item.chars ++ octetOf ',' :: after)
          = some (item.document, octetOf ',' :: after) :=
        fun after => scan_chars item (by omega) (ends_cons (by decide) after)
      show scanItems (fuel + 1)
        (octets (item.chars ++ ',' :: itemChars (next :: items)) ++ octetOf ']' :: rest) = _
      rw [octets_append, octets_cons_ascii (by decide), List.append_assoc, List.cons_append]
      exact scanItems_comma (hitem _) hitems

theorem scanMembers_chars : ∀ (key : String) (value : Json) (members : Fields) {fuel : Nat}
    {rest : Octets}, 2 * (memberChars ((key, value) :: members)).length + 1 ≤ fuel →
    scanMembers fuel (octets (memberChars ((key, value) :: members)) ++ octetOf '\x7d' :: rest)
      = some (memberDocuments ((key, value) :: members), rest)
  | _, _, _, 0, _, hfuel => absurd hfuel (by omega)
  | key, value, [], fuel + 1, rest, hfuel => by
      have hlength : (memberChars [(key, value)]).length
          = (quoteChars key).length + (value.chars.length + 1) := List.length_append
      have hvalue : scan fuel (octets value.chars ++ octetOf '\x7d' :: rest)
          = some (value.document, octetOf '\x7d' :: rest) :=
        scan_chars value (by omega) (ends_cons (by decide) rest)
      obtain ⟨pieces, after, hoctets, hscan, htext⟩ := StringText.exists_scan_quoteChars key
        (octetOf ':' :: (octets value.chars ++ octetOf '\x7d' :: rest))
      show scanMembers (fuel + 1)
        (octets (quoteChars key ++ ':' :: value.chars) ++ octetOf '\x7d' :: rest) = _
      rw [octets_append, octets_cons_ascii (by decide), List.append_assoc, List.cons_append,
        hoctets, scanMembers_last hscan hvalue, htext]
      rfl
  | key, value, (nextKey, nextValue) :: members, fuel + 1, rest, hfuel => by
      have hlength : (memberChars ((key, value) :: (nextKey, nextValue) :: members)).length
          = (quoteChars key).length + (value.chars.length
            + (memberChars ((nextKey, nextValue) :: members)).length + 2) := by
        show (quoteChars key ++ ':' :: value.chars
          ++ ',' :: memberChars ((nextKey, nextValue) :: members)).length = _
        rw [List.length_append, List.length_append, List.length_cons, List.length_cons]
        omega
      have hvalue : ∀ after, scan fuel (octets value.chars ++ octetOf ',' :: after)
          = some (value.document, octetOf ',' :: after) :=
        fun after => scan_chars value (by omega) (ends_cons (by decide) after)
      have hmembers : scanMembers fuel
          (octets (memberChars ((nextKey, nextValue) :: members)) ++ octetOf '\x7d' :: rest)
          = some (memberDocuments ((nextKey, nextValue) :: members), rest) :=
        scanMembers_chars nextKey nextValue members (by omega)
      obtain ⟨pieces, after, hoctets, hscan, htext⟩ := StringText.exists_scan_quoteChars key
        (octetOf ':' :: (octets value.chars ++ octetOf ','
          :: (octets (memberChars ((nextKey, nextValue) :: members)) ++ octetOf '\x7d' :: rest)))
      show scanMembers (fuel + 1) (octets (quoteChars key ++ ':' :: value.chars
        ++ ',' :: memberChars ((nextKey, nextValue) :: members)) ++ octetOf '\x7d' :: rest) = _
      rw [octets_append, octets_append, octets_cons_ascii (by decide),
        octets_cons_ascii (by decide), List.append_assoc, List.append_assoc, List.cons_append,
        List.cons_append, hoctets, scanMembers_comma hscan (hvalue _) hmembers, htext]
      rfl

end

/-- **The text of a value is read back.** -/
theorem read_text (j : Json) : read (Text.Utf8.encode j.text) = some j.document := by
  have hoctets : Text.Utf8.encode j.text = octets j.chars := Text.Utf8.encode_ofList j.chars
  have hfuel : 2 * j.chars.length ≤ fuelFor (octets j.chars) := by
    have := Text.Utf8.length_le_octets j.chars
    rw [fuelFor]
    omega
  have hscan := scan_chars j hfuel NumberText.ends_nil
  rw [List.append_nil] at hscan
  rw [read, hoctets, hscan]
  rfl

end Document

/-- Values with one text have one document. -/
theorem Json.document_eq_of_text_eq {j k : Json} (h : j.text = k.text) :
    j.document = k.document := by
  have hread := Document.read_text j
  rw [h, Document.read_text] at hread
  exact (Option.some.inj hread).symm

/-! ## Records -/

theorem memberDocuments_eq_map (fields : Fields) :
    memberDocuments fields = fields.map fun m => (some m.1, m.2.document) := by
  induction fields with
  | nil => rfl
  | cons m fields ih => rw [memberDocuments, ih, List.map_cons]

/-- **A record finds in a printed object what the object has.** -/
theorem Layout.members?_document (layout : Layout) {fields : Fields} (h : fields.keys.Nodup) :
    layout.members? (Json.object fields).document
      = some fun name => (fields.get? name).map Json.document := by
  have hkeys : (memberDocuments fields).map Prod.fst = fields.keys.map some := by
    rw [memberDocuments_eq_map, Fields.keys, List.map_map, List.map_map]
    rfl
  have honce : ∀ name, ((memberDocuments fields).map Prod.fst).count (some name) ≤ 1 := by
    intro name
    rw [hkeys]
    exact List.nodup_iff_count_le_one.mp (h.map fun _ _ => Option.some.inj) (some name)
  refine members?_object.mpr ⟨wellFormed_iff.mpr ⟨fun m hm => ?_, fun name _ => honce name⟩, ?_⟩
  · rw [memberDocuments_eq_map] at hm
    obtain ⟨field, -, rfl⟩ := List.mem_map.mp hm
    exact Option.some_ne_none _
  · funext name
    refine Option.ext fun d => ?_
    rw [lookup_eq_some_iff (honce name), memberDocuments_eq_map, List.mem_map,
      Option.map_eq_some_iff]
    constructor
    · rintro ⟨⟨key, value⟩, hmem, heq⟩
      cases heq
      exact ⟨value, (Fields.get?_eq_some_iff h).mpr hmem, rfl⟩
    · rintro ⟨value, hget, rfl⟩
      exact ⟨(name, value), (Fields.get?_eq_some_iff h).mp hget, rfl⟩

end GridClient
