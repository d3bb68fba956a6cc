import GridClient.Proofs.Allocation.NetworkRequest
import GridClient.Proofs.Json.Record
import GridClient.Proofs.Json.RoundTrip
import GridClient.Proofs.Provision.Arguments

/-!
# `GridClient.Proofs.Allocation.Codec` — addresses and networks, read and written

A text is an address or a network as it stands, unless it has the form of a request. Of a request
for an address the first comma ends the network, and all that follows is the view. Of a request for
a network the first two commas divide three arguments, and the last has to be a number. So a text
that was read as an address is written as the same text; one that was read as a network may come out
in another spelling of the number, but as one that is read as the same value.

## Contents
- `AddressValue.parse_eq_nextAvailable_iff`, `parse_eq_literal_iff`: what a text is read as.
- `AddressValue.text_parse`: it is written as it was read; `parse_text_eq_iff`: which values are
  read as they were written.
- `NetworkValue.parse_eq_nextAvailable_iff`, `parse_text_parse`: the same of networks.
- `allocation_values_reread`: both, from JSON to JSON.
-/

namespace GridClient

open Text

/-! ## Addresses -/

namespace AddressValue

variable {s cidr view : String}

/-- A text has the form of a request for an address: its beginning, and a comma after that. -/
def RequestText (s : String) : Prop :=
  ∃ arguments, s = "func:nextavailableip:" ++ arguments ∧ ',' ∈ arguments.toList

theorem parse_eq_nextAvailable_iff :
    parse s = nextAvailable cidr view
      ↔ s = functionStart ++ cidr ++ "," ++ view ∧ ',' ∉ cidr.toList := by
  constructor
  · intro h
    unfold parse at h
    split at h
    · cases h
    · rename_i arguments hstart
      split at h
      · rename_i hcut
        cases h
        obtain ⟨harguments, hcomma⟩ := cutFirst?_eq_some_iff.mp hcut
        refine ⟨?_, hcomma⟩
        rw [dropStart?_eq_some_iff.mp hstart, ← String.toList_inj]
        simp [harguments]
      · cases h
  · rintro ⟨rfl, hcomma⟩
    have hstart : dropStart? functionStart (functionStart ++ cidr ++ "," ++ view)
        = some (cidr ++ "," ++ view) :=
      dropStart?_eq_some_iff.mpr (by simp [String.append_assoc])
    have hcut : cutFirst? ',' (cidr ++ "," ++ view) = some (cidr, view) :=
      cutFirst?_eq_some_iff.mpr ⟨by simp, hcomma⟩
    unfold parse
    simp only [hstart, hcut]

/-- A text that is no request stands for itself. -/
theorem parse_eq_literal_iff {address : String} :
    parse s = literal address ↔ s = address ∧ ¬ RequestText s := by
  have hrequest : RequestText s ↔ ∃ arguments, dropStart? functionStart s = some arguments
      ∧ cutFirst? ',' arguments ≠ none := by
    simp only [RequestText, dropStart?_eq_some_iff, Ne, cutFirst?_eq_none_iff, Classical.not_not]
    rfl
  rw [hrequest]
  unfold parse
  cases hstart : dropStart? functionStart s with
  | none => simp
  | some arguments => cases hcut : cutFirst? ',' arguments <;> simp [hcut]

/-- **A text is written as it was read.** -/
theorem text_parse (s : String) : (parse s).text = s := by
  cases hparse : parse s with
  | literal address => exact (parse_eq_literal_iff.mp hparse).1.symm
  | nextAvailable cidr view => exact (parse_eq_nextAvailable_iff.mp hparse).1.symm

/-- A value is told by its text: a request by the first comma, and an address by not having the form
of a request. -/
def Legible : AddressValue → Prop
  | literal address => ¬ RequestText address
  | nextAvailable cidr _ => ',' ∉ cidr.toList

/-- **The values that are read as they were written.** -/
theorem parse_text_eq_iff {v : AddressValue} : parse v.text = v ↔ v.Legible := by
  cases v with
  | literal address =>
      rw [parse_eq_literal_iff]
      exact and_iff_right rfl
  | nextAvailable cidr view =>
      rw [parse_eq_nextAvailable_iff]
      exact and_iff_right rfl

/-- The beginning of a request has letters that no address has. -/
theorem not_requestText_of_parse? {a : Address} (h : Address.parse? s = some a) :
    ¬ RequestText s := by
  rintro ⟨arguments, rfl, -⟩
  have hletter := Address.forall_of_parse? h 'u' (by simp)
  exact absurd hletter (by decide)

/-- **A value that was checked is told by its text**, whatever the name of its view. -/
theorem legible_of_check {v : AddressValue} {family : Family}
    (h : checkAddressValue v family = .ok ()) : v.Legible := by
  cases v with
  | literal address =>
      obtain ⟨a, ha, -⟩ := map_eq_ok.mp h
      exact not_requestText_of_parse? (parse?_of_checkAddress ha).1
  | nextAvailable cidr view =>
      obtain ⟨network, hnetwork, -⟩ := map_eq_ok.mp h
      have hcidr : checkCidr cidr (some family) = .ok network := eq_ok_of_bind hnetwork
      exact comma_notMem_of_checkCidr hcidr

/-- The address of a reservation passes the check of a record's. -/
theorem check_of_reservedAddress {ip : Option String} {family : Family} {v : AddressValue}
    (h : reservedAddress view cidr ip family = .ok v) : checkAddressValue v family = .ok () := by
  obtain ⟨network, hnetwork, ⟨-, rfl⟩ | ⟨text, address, -, rfl, haddress, -⟩⟩ :=
    reservedAddress_eq_ok_iff.mp h
  · exact map_eq_ok.mpr ⟨network, hnetwork, rfl⟩
  · exact map_eq_ok.mpr ⟨address, haddress, rfl⟩

/-- The text of a value, as JSON. -/
def octets (v : AddressValue) : Octets := Utf8.encode v.toJson.text

/-- The value that JSON gives: it has to be a string. -/
def read? (body : Octets) : Option AddressValue := Document.read body >>= ofDocument?

theorem read?_octets (v : AddressValue) : read? v.octets = some (parse v.text) := by
  rw [read?, octets, Document.read_text]
  rfl

/-- A value that was checked is read as it was written. -/
theorem read?_octets_of_check {v : AddressValue} {family : Family}
    (h : checkAddressValue v family = .ok ()) : read? v.octets = some v := by
  rw [read?_octets, parse_text_eq_iff.mpr (legible_of_check h)]

end AddressValue

/-! ## Networks -/

namespace NetworkValue

variable {s cidr view : String} {length : UInt8}

theorem parseArguments?_eq_some_iff {arguments : String} {v : NetworkValue} :
    parseArguments? arguments.toList = some v
      ↔ ∃ cidr view length digits, v = nextAvailable cidr view length
        ∧ arguments = cidr ++ "," ++ view ++ "," ++ digits
        ∧ ',' ∉ cidr.toList ∧ ',' ∉ view.toList ∧ SignedText length.toNat digits := by
  constructor
  · intro h
    obtain ⟨⟨before, rest⟩, hfirst, h⟩ := Option.bind_eq_some_iff.mp h
    obtain ⟨⟨middle, last⟩, hsecond, h⟩ := Option.bind_eq_some_iff.mp h
    obtain ⟨n, hn, h⟩ := Option.bind_eq_some_iff.mp h
    obtain ⟨harguments, hbefore⟩ := cutFirst_eq_some_iff.mp hfirst
    obtain ⟨hrest, hmiddle⟩ := cutFirst_eq_some_iff.mp hsecond
    obtain rfl := Option.some.inj h
    rw [← String.toList_ofList (l := last)] at hn
    obtain ⟨hbound, hdigits⟩ := Decimal.read?_eq_some_iff.mp hn
    have hlength : (UInt8.ofNat n).toNat = n := UInt8.toNat_ofNat_of_lt' (Nat.lt_succ_of_le hbound)
    refine ⟨_, _, _, String.ofList last, rfl, ?_, ?_, ?_, ?_⟩
    · rw [← String.toList_inj, harguments, hrest]
      simp
    · rw [String.toList_ofList]
      exact hbefore
    · rw [String.toList_ofList]
      exact hmiddle
    · rw [hlength]
      exact hdigits
  · rintro ⟨cidr, view, length, digits, rfl, rfl, hcidr, hview, hdigits⟩
    have hfirst : cutFirst ',' (cidr ++ "," ++ view ++ "," ++ digits).toList
        = some (cidr.toList, (view ++ "," ++ digits).toList) :=
      cutFirst_eq_some_iff.mpr ⟨by simp, hcidr⟩
    have hsecond : cutFirst ',' (view ++ "," ++ digits).toList
        = some (view.toList, digits.toList) :=
      cutFirst_eq_some_iff.mpr ⟨by simp, hview⟩
    have hlength : Decimal.read? 255 digits.toList = some length.toNat :=
      Decimal.read?_eq_some_iff.mpr ⟨Nat.lt_succ_iff.mp length.toNat_lt, hdigits⟩
    simp only [parseArguments?, hfirst, hsecond, hlength, Option.bind_eq_bind, Option.bind_some,
      String.ofList_toList, UInt8.ofNat_toNat]

/-- A text asks for the next free network of a length: after its beginning two commas divide the
network, the view and the length, in any spelling of that number. -/
def Asks (s cidr view : String) (length : UInt8) : Prop :=
  ∃ digits, s = "func:nextavailablenetwork:" ++ cidr ++ "," ++ view ++ "," ++ digits
    ∧ ',' ∉ cidr.toList ∧ ',' ∉ view.toList ∧ SignedText length.toNat digits

theorem parse_eq_nextAvailable_iff :
    parse s = nextAvailable cidr view length ↔ Asks s cidr view length := by
  have hread : parse s = nextAvailable cidr view length
      ↔ ∃ arguments, dropStart? functionStart s = some arguments
        ∧ parseArguments? arguments.toList = some (nextAvailable cidr view length) := by
    rw [← Option.bind_eq_some_iff]
    unfold parse
    cases (dropStart? functionStart s).bind fun arguments => parseArguments? arguments.toList <;>
      simp
  rw [hread]
  simp only [dropStart?_eq_some_iff, parseArguments?_eq_some_iff]
  constructor
  · rintro ⟨arguments, rfl, _, _, _, digits, heq, rfl, hrest⟩
    cases heq
    exact ⟨digits, by simp [functionStart, String.append_assoc], hrest⟩
  · rintro ⟨digits, rfl, hrest⟩
    exact ⟨cidr ++ "," ++ view ++ "," ++ digits, by simp [functionStart, String.append_assoc],
      cidr, view, length, digits, rfl, rfl, hrest⟩

/-- A text that is no request stands for itself. -/
theorem parse_cases (s : String) :
    parse s = literal s ∨ ∃ cidr view length, parse s = nextAvailable cidr view length := by
  cases hparse : parse s with
  | nextAvailable cidr view length => exact .inr ⟨cidr, view, length, rfl⟩
  | literal network =>
      unfold parse at hparse
      cases hread : (dropStart? functionStart s).bind fun arguments =>
          parseArguments? arguments.toList with
      | none =>
          rw [hread] at hparse
          exact .inl hparse.symm
      | some v =>
          -- the arguments of a request never make a network as it stands
          obtain ⟨arguments, -, harguments⟩ := Option.bind_eq_some_iff.mp hread
          obtain ⟨_, _, _, _, rfl, -⟩ := parseArguments?_eq_some_iff.mp harguments
          rw [hread] at hparse
          cases hparse

/-- **What was read from a text is read again from what is written of it.** -/
theorem parse_text_parse (s : String) : parse (parse s).text = parse s := by
  rcases parse_cases s with hparse | ⟨cidr, view, length, hparse⟩
  · rw [hparse]
    exact hparse
  · obtain ⟨digits, -, hcidr, hview, -⟩ := parse_eq_nextAvailable_iff.mp hparse
    rw [hparse, parse_text_nextAvailable length hcidr, if_neg hview]

theorem isAllocation_parse_iff :
    (parse s).isAllocation = true ↔ ∃ cidr view length, Asks s cidr view length := by
  simp only [← parse_eq_nextAvailable_iff]
  cases parse s <;> simp [isAllocation]

/-- No text but the empty one is read as something without a text. -/
theorem text_parse_ne_empty (h : s ≠ "") : (parse s).text ≠ "" := by
  rcases parse_cases s with hparse | ⟨cidr, view, length, hparse⟩
  · rw [hparse]
    exact h
  · rw [hparse]
    exact text_nextAvailable_ne_empty length

/-- A network that was read is read again from what is written of it. -/
theorem ofDocument?_document_of_ofDocument? {d : Document} {v : NetworkValue}
    (h : ofDocument? d = some v) : ofDocument? v.toJson.document = some v := by
  obtain ⟨s, -, h⟩ := Option.bind_eq_some_iff.mp h
  split at h
  · cases h
  · rename_i hne
    cases h
    show (if (parse s).text = "" then none else some (parse (parse s).text)) = _
    rw [if_neg (text_parse_ne_empty hne), parse_text_parse]

/-- The text of a value, as JSON. -/
def octets (v : NetworkValue) : Octets := Utf8.encode v.toJson.text

/-- The value that JSON gives: it has to be a string, and not an empty one. -/
def read? (body : Octets) : Option NetworkValue := Document.read body >>= ofDocument?

theorem read?_of_string {body : Octets} (h : Document.read body = some (.string (some s))) :
    read? body = if s = "" then none else some (parse s) := by
  rw [read?, h]
  rfl

/-- What is written of a value that was read is read as that value. -/
theorem read?_octets_of_read? {body : Octets} {v : NetworkValue} (h : read? body = some v) :
    read? v.octets = some v := by
  obtain ⟨d, -, hd⟩ := Option.bind_eq_some_iff.mp h
  rw [read?, octets, Document.read_text]
  exact ofDocument?_document_of_ofDocument? hd

end NetworkValue

/-! ## From JSON to JSON -/

/-- **Addresses and networks are written as they were read, and read as they were written.**

Whatever spelling of a string a body has, the address read from it is written as that string. An
address is read back from what is written of it just when it is a request whose network has no
comma, or a text that has not the form of a request with a comma; so is each one that passes the
check of a record or stands in a reservation, whatever its view is called. The empty string is no
network. The network read from any other is read back from what is written of it, and it is a
request for allocation just when two commas divide the string after its beginning into a network, a
view and an integer of eight bits. -/
theorem allocation_values_reread :
    (∀ body s, Document.read body = some (.string (some s)) →
      ∃ v, AddressValue.read? body = some v ∧ v.octets = Utf8.encode (Json.string s).text)
    ∧ (∀ v : AddressValue, AddressValue.read? v.octets = some v ↔
      (∃ cidr view, v = .nextAvailable cidr view ∧ ',' ∉ cidr.toList)
      ∨ ∃ s, v = .literal s
        ∧ ¬ ∃ arguments, s = "func:nextavailableip:" ++ arguments ∧ ',' ∈ arguments.toList)
    ∧ (∀ v family, checkAddressValue v family = .ok () → AddressValue.read? v.octets = some v)
    ∧ (∀ view cidr ip family v, reservedAddress view cidr ip family = .ok v →
      AddressValue.read? v.octets = some v)
    ∧ (∀ body s, Document.read body = some (.string (some s)) → s ≠ "" →
      ∃ v, NetworkValue.read? body = some v ∧ NetworkValue.read? v.octets = some v
        ∧ (v.isAllocation = true ↔ ∃ cidr view digits, ∃ length : UInt8,
          s = "func:nextavailablenetwork:" ++ cidr ++ "," ++ view ++ "," ++ digits
          ∧ ',' ∉ cidr.toList ∧ ',' ∉ view.toList
          ∧ SignedText length.toNat digits))
    ∧ ∀ body, Document.read body = some (.string (some "")) → NetworkValue.read? body = none := by
  refine ⟨fun body s h => ?_, fun v => ?_, fun v family h => ?_, fun view cidr ip family v h => ?_,
    fun body s h hne => ?_, fun body h => ?_⟩
  · refine ⟨AddressValue.parse s, ?_, ?_⟩
    · rw [AddressValue.read?, h]
      rfl
    · rw [AddressValue.octets, AddressValue.toJson, AddressValue.text_parse]
  · rw [AddressValue.read?_octets, Option.some.injEq, AddressValue.parse_text_eq_iff]
    cases v <;> simp [AddressValue.Legible, AddressValue.RequestText]
  · exact AddressValue.read?_octets_of_check h
  · exact AddressValue.read?_octets_of_check (AddressValue.check_of_reservedAddress h)
  · have hread : NetworkValue.read? body = some (NetworkValue.parse s) := by
      rw [NetworkValue.read?_of_string h, if_neg hne]
    refine ⟨_, hread, NetworkValue.read?_octets_of_read? hread, ?_⟩
    rw [NetworkValue.isAllocation_parse_iff]
    constructor
    · rintro ⟨cidr, view, length, digits, hs⟩
      exact ⟨cidr, view, digits, length, hs⟩
    · rintro ⟨cidr, view, digits, length, hs⟩
      exact ⟨cidr, view, length, digits, hs⟩
  · rw [NetworkValue.read?_of_string h, if_pos rfl]

end GridClient
