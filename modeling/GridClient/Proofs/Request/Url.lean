import GridClient.Request.Url

/-!
# `GridClient.Proofs.Request.Url` — what an address says, read back

The encoded form of a text has neither an ampersand nor an equals sign in it, whatever the text. So
the separators of a query string are those that its writer put there, and the pairs that go in are
the pairs that come out.

## Contents
- `Percent.isEncodedChar`, `forall_of_encode`: the characters of encoded texts.
- `readQueryString?_queryString`: a query string is read back.
- `Host.url_reads_back`: the address of every request.
-/

namespace GridClient

open Text

/-! ## Encoded texts -/

namespace Text.Percent

/-- The characters of encoded texts: those that stand for themselves, and the percent sign. -/
def isEncodedChar (c : Char) : Bool :=
  c == '%' || (decide (c.toNat < 128) && isUnreserved (UInt8.ofNat c.toNat))

theorem lt_of_isUnreserved {octet : UInt8} (h : isUnreserved octet = true) :
    octet.toNat < 128 := by
  simp only [isUnreserved, Bool.or_eq_true, Bool.and_eq_true, decide_eq_true_eq,
    beq_iff_eq] at h
  omega

theorem isEncodedChar_upper : ∀ n < 16, isEncodedChar (Hex.upper n) = true := by decide

theorem forall_of_encodeOctet (octet : UInt8) :
    ∀ c ∈ encodeOctet octet, isEncodedChar c = true := by
  have hlt : octet.toNat < 256 := octet.toNat_lt
  intro c hc
  unfold encodeOctet at hc
  split at hc
  · -- an unreserved octet is the character with its number
    rename_i hplain
    rw [List.mem_singleton.mp hc]
    have hnat := toNat_ofNat_ascii octet.toNat (lt_of_isUnreserved hplain)
    simp [isEncodedChar, hnat, hplain, lt_of_isUnreserved hplain]
  · rcases List.mem_cons.mp hc with rfl | hc
    · rfl
    · rcases List.mem_cons.mp hc with rfl | hc
      · exact isEncodedChar_upper _ (by omega)
      · rw [List.mem_singleton.mp hc]
        exact isEncodedChar_upper _ (by omega)

theorem forall_of_encode (s : String) : ∀ c ∈ encode s, isEncodedChar c = true := by
  intro c hc
  obtain ⟨octet, -, hc⟩ := List.mem_flatMap.mp hc
  exact forall_of_encodeOctet octet c hc

/-- A separator is in no encoded text. -/
theorem notMem_encode {c : Char} (h : isEncodedChar c = false) (s : String) : c ∉ encode s := by
  intro hc
  rw [forall_of_encode s c hc] at h
  cases h

end Text.Percent

/-! ## Query strings -/

theorem readPair?_encodePair (pair : String × String) :
    readPair? (encodePair pair) = some pair := by
  have hcut : cutFirst '=' (encodePair pair)
      = some (Percent.encode pair.1, Percent.encode pair.2) :=
    cutFirst_eq_some_iff.mpr ⟨rfl, Percent.notMem_encode rfl pair.1⟩
  simp only [readPair?, hcut, Percent.decode?_encode, Option.bind_eq_bind, Option.bind_some]

theorem ampersand_notMem_encodePair (pair : String × String) : '&' ∉ encodePair pair := by
  intro hc
  rcases List.mem_append.mp hc with hc | hc
  · exact Percent.notMem_encode rfl pair.1 hc
  · rcases List.mem_cons.mp hc with hc | hc
    · exact absurd hc (by decide)
    · exact Percent.notMem_encode rfl pair.2 hc

theorem mapM_readPair? (pairs : List (String × String)) :
    (pairs.map encodePair).mapM readPair? = some pairs := by
  apply mapM_map_eq_some
  intro pair _
  exact readPair?_encodePair pair

/-- **A query string is read back as the pairs that it was made of.** -/
theorem readQueryString?_queryString {pairs : List (String × String)} (h : pairs ≠ []) :
    readQueryString? (queryString pairs) = some pairs := by
  have hpieces : pieces '&' (queryString pairs) = pairs.map encodePair := by
    refine pieces_join (fun hnil => h (List.map_eq_nil_iff.mp hnil)) fun p hp => ?_
    obtain ⟨pair, -, rfl⟩ := List.mem_map.mp hp
    exact ampersand_notMem_encodePair pair
  unfold readQueryString?
  rw [hpieces, mapM_readPair?]

/-! ## Addresses -/

theorem querySuffix_eq_empty_iff {pairs : List (String × String)} :
    querySuffix pairs = "" ↔ pairs = [] := by
  unfold querySuffix
  cases pairs with
  | nil => exact ⟨fun _ => rfl, fun _ => rfl⟩
  | cons pair pairs =>
      refine ⟨fun h => ?_, nofun⟩
      have hchars := congrArg String.toList h
      simp at hchars

/-- **What an address says.** An address is the base with the reference, or with the type where no
reference is given, and for a read that has pairs the query string after a question mark. Taken
apart at ampersands and equals signs and decoded, that gives the pairs: the proxy flag, the fields
to return, and each filter once in the order of its key. -/
theorem Host.url_reads_back (h : Host) (operation : Operation) (objectType reference : String)
    (returnFields : List String) (query : Query) :
    let fields := if query.returnFields = [] then returnFields else query.returnFields
    let pairs :=
      (if query.forceProxy then [("_proxy_search", "GM")] else [])
        ++ (if fields = [] then [] else [("_return_fields", String.intercalate "," fields)])
        ++ query.filters.entries
    (∃ suffix : String,
      h.url operation objectType reference returnFields query
        = h.baseUrl ++ (if reference = "" then objectType else reference) ++ suffix
      ∧ (suffix = "" ↔ operation ≠ .get ∨ pairs = [])
      ∧ (suffix ≠ "" → ∃ q : List Char,
          suffix = String.ofList ('?' :: q) ∧ readQueryString? q = some pairs))
    ∧ query.filters.keys.Pairwise (· < ·)
    ∧ ∀ key value, (key, value) ∈ query.filters.entries ↔ query.filters.get? key = some value := by
  intro fields pairs
  have hpairs : query.pairs returnFields = pairs := by
    unfold Query.pairs Query.effectiveFields
    simp only [List.isEmpty_iff, fields, pairs]
  refine ⟨?_, query.filters.keys_increasing, fun _ _ => NameMap.get?_eq_some_iff.symm⟩
  by_cases hget : operation = .get
  · refine ⟨querySuffix pairs, ?_, ?_, fun hne => ⟨queryString pairs, ?_, ?_⟩⟩
    · unfold url
      rw [if_pos hget, hpairs]
    · rw [querySuffix_eq_empty_iff]
      exact ⟨Or.inr, fun hor => hor.resolve_left fun hnot => hnot hget⟩
    · have hpairs_ne : pairs ≠ [] := fun hnil => hne (querySuffix_eq_empty_iff.mpr hnil)
      unfold querySuffix
      rw [if_neg (by simpa using hpairs_ne)]
    · exact readQueryString?_queryString fun hnil => hne (querySuffix_eq_empty_iff.mpr hnil)
  · refine ⟨"", ?_, ⟨fun _ => Or.inl hget, fun _ => rfl⟩, fun hne => absurd rfl hne⟩
    unfold url
    rw [if_neg hget]

end GridClient
