import GridClient.Proofs.Address.Alphabet
import GridClient.Proofs.Checked
import GridClient.Provision.Creation

/-!
# `GridClient.Proofs.Allocation.NetworkRequest` — requests for a network, written and read back

The written form of a request joins a network, a view and a length with commas. The reader cuts at
the first two commas it meets. An accepted network has none, so the view decides: without a comma
the request is read back as it was, and with one it is taken for a network as it stands.

## Contents
- `parseArguments?_of_notMem`, `parseArguments?_of_mem`: what the reader makes of the arguments.
- `parse_text_nextAvailable`: what it makes of the written form.
- `decode_requested_network`: the same for every request that passes its checks.
-/

namespace GridClient

open Text

/-! ## Parts of the written form -/

/-- A number has no comma in it. -/
theorem read?_eq_none_of_comma {bound : Nat} {cs : List Char} (h : ',' ∈ cs) :
    Decimal.read? bound cs = none := by
  cases hread : Decimal.read? bound cs with
  | none => rfl
  | some n =>
      rcases isDigit_of_read? hread ',' h with hdigit | hplus
      · exact absurd hdigit (by decide)
      · exact absurd hplus (by decide)

/-! ## Reading the arguments -/

namespace NetworkValue

/-- The arguments of a request, as characters. -/
def argumentChars (cidr view : String) (length : UInt8) : List Char :=
  cidr.toList ++ ',' :: (view.toList ++ ',' :: Decimal.digits length.toNat)

theorem text_nextAvailable (cidr view : String) (length : UInt8) :
    (nextAvailable cidr view length).text
      = functionStart ++ String.ofList (argumentChars cidr view length) := by
  rw [← String.toList_inj]
  simp [text, argumentChars, Decimal.text]

theorem parse_text (cidr view : String) (length : UInt8) :
    parse (nextAvailable cidr view length).text
      = (parseArguments? (argumentChars cidr view length)).getD
          (literal (nextAvailable cidr view length).text) := by
  unfold parse
  rw [text_nextAvailable, dropStart?_append, Option.bind_some, String.toList_ofList]

variable {cidr view : String} (length : UInt8)

/-- Without a comma in the view the two cuts fall where the writer put its commas. -/
theorem parseArguments?_of_notMem (hc : ',' ∉ cidr.toList) (hv : ',' ∉ view.toList) :
    parseArguments? (argumentChars cidr view length) = some (nextAvailable cidr view length) := by
  have hfirst : cutFirst ',' (argumentChars cidr view length)
      = some (cidr.toList, view.toList ++ ',' :: Decimal.digits length.toNat) :=
    cutFirst_eq_some_iff.mpr ⟨rfl, hc⟩
  have hsecond : cutFirst ',' (view.toList ++ ',' :: Decimal.digits length.toNat)
      = some (view.toList, Decimal.digits length.toNat) :=
    cutFirst_eq_some_iff.mpr ⟨rfl, hv⟩
  have hlength : Decimal.read? 255 (Decimal.digits length.toNat) = some length.toNat :=
    read?_digits (Nat.lt_succ_iff.mp length.toNat_lt)
  simp only [parseArguments?, hfirst, hsecond, hlength, Option.bind_eq_bind, Option.bind_some,
    String.ofList_toList, UInt8.ofNat_toNat]

/-- With a comma in the view the second cut falls inside it, and what follows is no length. -/
theorem parseArguments?_of_mem (hc : ',' ∉ cidr.toList) (hv : ',' ∈ view.toList) :
    parseArguments? (argumentChars cidr view length) = none := by
  have hfirst : cutFirst ',' (argumentChars cidr view length)
      = some (cidr.toList, view.toList ++ ',' :: Decimal.digits length.toNat) :=
    cutFirst_eq_some_iff.mpr ⟨rfl, hc⟩
  cases hcut : cutFirst ',' view.toList with
  | none => exact absurd hv (cutFirst_eq_none_iff.mp hcut)
  | some parts =>
      obtain ⟨before, after⟩ := parts
      obtain ⟨hview, hbefore⟩ := cutFirst_eq_some_iff.mp hcut
      have hsecond : cutFirst ',' (view.toList ++ ',' :: Decimal.digits length.toNat)
          = some (before, after ++ ',' :: Decimal.digits length.toNat) :=
        cutFirst_eq_some_iff.mpr ⟨by rw [hview]; simp, hbefore⟩
      have hlength : Decimal.read? 255 (after ++ ',' :: Decimal.digits length.toNat) = none :=
        read?_eq_none_of_comma (by simp)
      simp only [parseArguments?, hfirst, hsecond, hlength, Option.bind_eq_bind, Option.bind_some,
        Option.bind_none]

/-- **What is read back from a request's written form.** -/
theorem parse_text_nextAvailable (hc : ',' ∉ cidr.toList) :
    parse (nextAvailable cidr view length).text
      = if ',' ∈ view.toList then literal (nextAvailable cidr view length).text
        else nextAvailable cidr view length := by
  rw [parse_text]
  by_cases hv : ',' ∈ view.toList
  · rw [parseArguments?_of_mem length hc hv, if_pos hv, Option.getD_none]
  · rw [parseArguments?_of_notMem length hc hv, if_neg hv, Option.getD_some]

/-- A request is never written as nothing. -/
theorem text_nextAvailable_ne_empty : (nextAvailable cidr view length).text ≠ "" := by
  intro h
  have hchars := congrArg String.toList h
  simp [text, functionStart] at hchars

/-- So it can always be decoded. -/
theorem ofDocument?_document_nextAvailable :
    ofDocument? (nextAvailable cidr view length).toJson.document
      = some (parse (nextAvailable cidr view length).text) := by
  show (if (nextAvailable cidr view length).text = "" then none
    else some (parse (nextAvailable cidr view length).text)) = _
  rw [if_neg (text_nextAvailable_ne_empty length)]

end NetworkValue

/-! ## Requests that pass their checks -/

/-- An accepted network has no comma. -/
theorem comma_notMem_of_checkCidr {cidr : String} {family : Option Family} {network : Cidr}
    (h : checkCidr cidr family = .ok network) : ',' ∉ cidr.toList :=
  fun hc => absurd (checkCidr_forall h ',' hc) (by decide)

theorem checkCidr_of_checkSubnet {view cidr : String} {length : UInt8} {family : Family}
    (h : checkSubnet view cidr length family = .ok ()) :
    ∃ network, checkCidr cidr (some family) = .ok network := by
  obtain ⟨network, hnetwork, -⟩ := bind_eq_ok.mp h
  exact ⟨network, eq_ok_of_bind hnetwork⟩

/-- **A request for a network is read back exactly when its view has no comma.** Of every network,
view and length that pass the checks of an allocation, the written request is decoded as the same
request if no comma is in the view, and as a concrete network otherwise. -/
theorem decode_requested_network {view cidr : String} {length : UInt8} {family : Family}
    (h : checkSubnet view cidr length family = .ok ()) :
    (NetworkValue.ofDocument? (NetworkValue.nextAvailable cidr view length).toJson.document
        = some (.nextAvailable cidr view length) ↔ ',' ∉ view.toList)
    ∧ (',' ∈ view.toList →
        NetworkValue.ofDocument? (NetworkValue.nextAvailable cidr view length).toJson.document
          = some (.literal (NetworkValue.nextAvailable cidr view length).text)) := by
  obtain ⟨network, hcidr⟩ := checkCidr_of_checkSubnet h
  rw [NetworkValue.ofDocument?_document_nextAvailable,
    NetworkValue.parse_text_nextAvailable length (comma_notMem_of_checkCidr hcidr)]
  by_cases hv : ',' ∈ view.toList
  · rw [if_pos hv]
    refine ⟨⟨fun hdecoded => ?_, fun hfree => absurd hv hfree⟩, fun _ => rfl⟩
    cases hdecoded
  · rw [if_neg hv]
    exact ⟨⟨fun _ => hv, fun _ => rfl⟩, fun hcomma => absurd hcomma hv⟩

/-- Colons and slashes in a view do no harm. -/
theorem decode_requested_network_of_colons :
    checkSubnet "lab:7/east" "2001:db8::/48" 64 .v6 = .ok ()
    ∧ NetworkValue.ofDocument?
        (NetworkValue.nextAvailable "2001:db8::/48" "lab:7/east" 64).toJson.document
      = some (.nextAvailable "2001:db8::/48" "lab:7/east" 64) := by
  have h : checkSubnet "lab:7/east" "2001:db8::/48" 64 .v6 = .ok () := rfl
  exact ⟨h, (decode_requested_network h).1.mpr (by decide)⟩

/-- A comma does: the request passes its checks and comes back as a network of that name. -/
theorem requested_network_taken_for_literal :
    checkSubnet "a,b" "10.0.0.0/16" 24 .v4 = .ok ()
    ∧ NetworkValue.ofDocument?
        (NetworkValue.nextAvailable "10.0.0.0/16" "a,b" 24).toJson.document
      = some (.literal "func:nextavailablenetwork:10.0.0.0/16,a,b,24")
    ∧ NetworkValue.ofDocument?
        (NetworkValue.nextAvailable "10.0.0.0/16" "a,b" 24).toJson.document
      ≠ some (.nextAvailable "10.0.0.0/16" "a,b" 24) :=
  ⟨rfl, by decide, by decide⟩

end GridClient
