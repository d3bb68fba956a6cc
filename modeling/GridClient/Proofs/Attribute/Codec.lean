import GridClient.Attribute.Criteria
import GridClient.Proofs.Json.RoundTrip

/-!
# `GridClient.Proofs.Attribute.Codec` — attributes are read back as they were written

Writing attributes forgets one thing, which values were truth values: each becomes a text, its word.
`written` is what is left, and no view of a value tells it from the value. Everything else is read
back, so that attributes with one text differ in nothing but that.

## Contents
- `Json.depth`: how deep arrays and objects nest.
- `AttributeValue.Integral`: a value whose numbers are integers; `Number.value?_written`.
- `toJson_written`, `searchText_written`, `toBool?_written`, `toInt?_written`: what `written` keeps.
- `ofDocument?_toJson`: a value, and then a map of them, is read back as `written`;
  `depth_of_ofDocument?`: what was read is no deeper than the reader goes.
- `Attributes.text_eq_iff`, `Attributes.round_trip`: the wire format of attributes.
-/

namespace GridClient

open Text (Octets)

/-! ## Nesting -/

mutual

/-- How deep the arrays and objects of a value nest. -/
def Json.depth : Json → Nat
  | .array items => itemsDepth items + 1
  | .object members => membersDepth members + 1
  | _ => 0

/-- The greatest depth of an item. -/
def itemsDepth : List Json → Nat
  | [] => 0
  | item :: rest => max item.depth (itemsDepth rest)

/-- The greatest depth of a member's value. -/
def membersDepth : List (String × Json) → Nat
  | [] => 0
  | (_, value) :: rest => max value.depth (membersDepth rest)

end

theorem membersDepth_le_iff {members : Fields} {n : Nat} :
    membersDepth members ≤ n ↔ ∀ m ∈ members, m.2.depth ≤ n := by
  induction members with
  | nil => simp [membersDepth]
  | cons m members ih => rw [List.forall_mem_cons, ← ih, membersDepth, Nat.max_le]

/-! ## Numbers -/

/-- An integer is read back from its digits. -/
theorem Number.value?_written {value : Int}
    (fits : -9223372036854775808 ≤ value ∧ value ≤ 18446744073709551615) :
    (integer value fits).written.value? = some (integer value fits) := by
  have hvalue : Decimal.value (Decimal.digits value.natAbs) = value.natAbs :=
    Decimal.value_digits value.natAbs
  have hfits : ∀ n : Int, n = value → ofInt? n = some (integer value fits) := by
    rintro n rfl
    exact dif_pos fits
  unfold written NumberText.value?
  rw [if_pos ⟨rfl, rfl⟩]
  dsimp only
  rw [hvalue]
  by_cases hnegative : value < 0
  · rw [if_pos (decide_eq_true hnegative), if_neg (by omega), hfits _ (by omega)]
    rfl
  · rw [if_neg (by simpa using hnegative), hfits _ (by omega)]
    rfl

/-! ## Values -/

namespace AttributeValue

/-- The numbers of a value are integers, at any depth. -/
inductive Integral : AttributeValue → Prop
  | bool (b : Bool) : Integral (.bool b)
  | integer (value : Int) (fits : -9223372036854775808 ≤ value ∧ value ≤ 18446744073709551615) :
    Integral (.number (.integer value fits))
  | text (s : String) : Integral (.text s)
  | list {items : List AttributeValue} (h : ∀ item ∈ items, Integral item) : Integral (.list items)

/-! ### What writing keeps -/

mutual

theorem toJson_written : ∀ v : AttributeValue, v.written.toJson = v.toJson
  | .bool _ => rfl
  | .number _ => rfl
  | .text _ => rfl
  | .list items => congrArg Json.array (toJsons_writtenItems items)

theorem toJsons_writtenItems : ∀ items : List AttributeValue,
    toJsons (writtenItems items) = toJsons items
  | [] => rfl
  | item :: rest => by
      rw [writtenItems, toJsons, toJsons, toJson_written item, toJsons_writtenItems rest]

end

mutual

theorem searchText_written : ∀ v : AttributeValue, v.written.searchText = v.searchText
  | .bool _ => rfl
  | .number _ => rfl
  | .text _ => rfl
  | .list items => congrArg (String.intercalate ",") (searchTexts_writtenItems items)

theorem searchTexts_writtenItems : ∀ items : List AttributeValue,
    searchTexts (writtenItems items) = searchTexts items
  | [] => rfl
  | item :: rest => by
      rw [writtenItems, searchTexts, searchTexts, searchText_written item,
        searchTexts_writtenItems rest]

end

theorem toBool?_written (v : AttributeValue) : v.written.toBool? = v.toBool? := by
  cases v with
  | bool b => cases b <;> rfl
  | number | text | list => rfl

theorem toInt?_written (v : AttributeValue) : v.written.toInt? = v.toInt? := by
  cases v <;> rfl

/-! ### Reading -/

mutual

/-- A value is read back as it was written. -/
theorem ofDocument?_toJson : ∀ (v : AttributeValue) {room : Nat}, v.Integral →
    v.toJson.depth ≤ room → ofDocument? room v.toJson.document = some v.written
  | .bool _, _, _, _ => rfl
  | .number _, _, .integer _ fits, _ => congrArg (Option.map number) (Number.value?_written fits)
  | .text _, _, _, _ => rfl
  | .list _, 0, _, hdepth => absurd hdepth (by rw [toJson, Json.depth]; omega)
  | .list items, room + 1, .list hitems, hdepth =>
      congrArg (Option.map list)
        (ofDocuments?_toJsons items hitems (Nat.le_of_succ_le_succ hdepth))

theorem ofDocuments?_toJsons : ∀ (items : List AttributeValue) {room : Nat},
    (∀ item ∈ items, Integral item) → itemsDepth (toJsons items) ≤ room →
    ofDocuments? room (itemDocuments (toJsons items)) = some (writtenItems items)
  | [], _, _, _ => rfl
  | item :: rest, room, hitems, hdepth => by
      obtain ⟨hitem, hrest⟩ := Nat.max_le.mp hdepth
      rw [toJsons, itemDocuments, ofDocuments?,
        ofDocument?_toJson item (hitems item List.mem_cons_self) hitem,
        ofDocuments?_toJsons rest (fun v hv => hitems v (List.mem_cons_of_mem _ hv)) hrest]
      rfl

end

mutual

/-- A value that was read nests no deeper than the reader goes. -/
theorem depth_of_ofDocument? : ∀ (d : Document) {room : Nat} {v : AttributeValue},
    ofDocument? room d = some v → v.toJson.depth ≤ room
  | .bool _, _, _, h => by cases h; exact Nat.zero_le _
  | .number n, _, _, h => by
      obtain ⟨_, _, rfl⟩ := Option.map_eq_some_iff.mp h
      exact Nat.zero_le _
  | .string s, _, _, h => by
      obtain ⟨_, _, rfl⟩ := Option.map_eq_some_iff.mp h
      exact Nat.zero_le _
  | .array items, room + 1, _, h => by
      obtain ⟨values, hvalues, rfl⟩ := Option.map_eq_some_iff.mp h
      exact Nat.succ_le_succ (depth_of_ofDocuments? items hvalues)

theorem depth_of_ofDocuments? : ∀ (items : List Document) {room : Nat}
    {values : List AttributeValue}, ofDocuments? room items = some values →
    itemsDepth (toJsons values) ≤ room
  | [], _, _, h => by cases h; exact Nat.zero_le _
  | item :: rest, _, _, h => by
      obtain ⟨value, hvalue, h⟩ := Option.bind_eq_some_iff.mp h
      obtain ⟨values, hvalues, h⟩ := Option.bind_eq_some_iff.mp h
      cases h
      exact Nat.max_le.mpr ⟨depth_of_ofDocument? item hvalue, depth_of_ofDocuments? rest hvalues⟩

end

end AttributeValue

/-! ## Attributes -/

namespace Attributes

/-- The numbers of all values are integers. -/
def Integral (attributes : Attributes) : Prop :=
  ∀ name value, attributes.get? name = some value → value.Integral

variable {a b : Attributes} {room : Nat}

theorem get?_written (a : Attributes) (name : String) :
    a.written.get? name = (a.get? name).map AttributeValue.written :=
  NameMap.get?_mapValues _ _ _

theorem toJson_written (a : Attributes) : a.written.toJson = a.toJson := by
  have hentries : a.written.entries.map (fun e => (e.1, wrap e.2))
      = a.entries.map fun e => (e.1, wrap e.2) := by
    rw [written, NameMap.mapValues, List.map_map]
    refine List.map_congr_left fun e _ => ?_
    show (e.1, wrap e.2.written) = _
    rw [wrap, AttributeValue.toJson_written]
    rfl
  exact congrArg Json.object hentries

theorem criteria_written (a : Attributes) : a.written.criteria = a.criteria := by
  refine NameMap.ext_get? fun name => ?_
  rw [criteria, criteria, NameMap.get?_mapValues, NameMap.get?_mapValues, get?_written,
    Option.map_map]
  exact congrArg (Option.map · (a.get? name)) (funext AttributeValue.searchText_written)

/-! ### Reading -/

theorem unwrap?_wrap (room : Nat) (v : AttributeValue) :
    unwrap? room (wrap v).document = AttributeValue.ofDocument? room v.toJson.document := by
  have honce : (Fields.keys [("value", v.toJson)]).Nodup := List.nodup_singleton "value"
  have hmembers := wrapper.members?_document honce
  rw [unwrap?, wrap, hmembers]
  rfl

theorem depth_wrap (v : AttributeValue) : (wrap v).depth = v.toJson.depth + 1 := by
  simp [wrap, Json.depth, membersDepth]

/-- Members are read one after the other. -/
theorem addMembers?_entries {entries : List (String × AttributeValue)} (current : Attributes)
    (h : ∀ e ∈ entries, e.2.Integral ∧ e.2.toJson.depth ≤ room) :
    addMembers? room (memberDocuments (entries.map fun e => (e.1, wrap e.2))) current
      = some (current.insertAll (entries.map fun e => (e.1, e.2.written))) := by
  induction entries generalizing current with
  | nil => rfl
  | cons e entries ih =>
      obtain ⟨⟨hintegral, hdepth⟩, hrest⟩ := List.forall_mem_cons.mp h
      have hread : unwrap? room (wrap e.2).document = some e.2.written := by
        rw [unwrap?_wrap, e.2.ofDocument?_toJson hintegral hdepth]
      show ((unwrap? room (wrap e.2).document).bind fun value =>
        addMembers? room _ (current.insert e.1 value)) = _
      rw [hread]
      exact ih _ hrest

/-- The value of an attribute nests two levels less than all attributes. -/
theorem depth_value_le (h : a.toJson.depth ≤ room) {e : String × AttributeValue}
    (he : e ∈ a.entries) : e.2.toJson.depth ≤ room - 2 := by
  have hmembers : membersDepth (a.entries.map fun e => (e.1, wrap e.2)) + 1 ≤ room := h
  have hvalue : (wrap e.2).depth ≤ room - 1 :=
    membersDepth_le_iff.mp (Nat.le_sub_of_add_le hmembers) _ (List.mem_map_of_mem he)
  rw [depth_wrap] at hvalue
  omega

theorem Integral.of_mem (h : a.Integral) {e : String × AttributeValue} (he : e ∈ a.entries) :
    e.2.Integral := h e.1 e.2 (NameMap.get?_eq_some_iff.mpr he)

/-- Attributes are read back as they were written. -/
theorem ofDocument?_toJson (h : a.Integral) (hdepth : a.toJson.depth ≤ room) :
    ofDocument? room a.toJson.document = some a.written := by
  have hvalues : ∀ e ∈ a.entries, e.2.Integral ∧ e.2.toJson.depth ≤ room - 2 :=
    fun e he => ⟨h.of_mem he, depth_value_le hdepth he⟩
  have hread := addMembers?_entries ∅ hvalues
  refine hread.trans (congrArg some (NameMap.ext_get? fun name => ?_))
  show ((∅ : Attributes).insertAll a.written.entries).get? name = _
  rw [NameMap.get?_insertAll ∅ a.written.increasing]
  exact Option.or_none

/-! ### The depth of what was read -/

theorem depth_of_addMembers? {members : List (Option String × Document)} {current : Attributes}
    (h : addMembers? room members current = some a)
    (hcurrent : ∀ e ∈ current.entries, e.2.toJson.depth ≤ room) :
    ∀ e ∈ a.entries, e.2.toJson.depth ≤ room := by
  induction members generalizing current with
  | nil =>
      cases h
      exact hcurrent
  | cons m members ih =>
      obtain ⟨name, -, h⟩ := Option.bind_eq_some_iff.mp h
      obtain ⟨value, hvalue, h⟩ := Option.bind_eq_some_iff.mp h
      refine ih h fun e he => ?_
      rcases NameMap.mem_insertEntry he with rfl | he
      · obtain ⟨record, -, hvalue⟩ := Option.bind_eq_some_iff.mp hvalue
        obtain ⟨d, -, hvalue⟩ := Option.bind_eq_some_iff.mp hvalue
        exact AttributeValue.depth_of_ofDocument? d hvalue
      · exact hcurrent e he

/-- Attributes that were read nest no deeper than the reader goes. -/
theorem depth_of_ofDocument? {d : Document} (h : ofDocument? room d = some a)
    (hroom : 2 ≤ room) : a.toJson.depth ≤ room := by
  have hvalues : ∀ e ∈ a.entries, e.2.toJson.depth ≤ room - 2 := by
    cases d with
    | null =>
        cases h
        exact nofun
    | object members => exact depth_of_addMembers? h nofun
    | bool | number | string | array => cases h
  have hmembers : membersDepth (a.entries.map fun e => (e.1, wrap e.2)) ≤ room - 1 := by
    refine membersDepth_le_iff.mpr fun m hm => ?_
    obtain ⟨e, he, rfl⟩ := List.mem_map.mp hm
    have hvalue := hvalues e he
    rw [depth_wrap]
    omega
  show membersDepth _ + 1 ≤ room
  omega

/-! ### The wire format -/

/-- **Attributes with one text differ only in truth values and their words.** -/
theorem text_eq_iff (ha : a.Integral) (hb : b.Integral) :
    b.toJson.text = a.toJson.text ↔ b.written = a.written := by
  constructor
  · intro htext
    -- with enough room both are read back from the one document
    have hdocument := Json.document_eq_of_text_eq htext
    have hreadA := ofDocument?_toJson ha (Nat.le_max_left a.toJson.depth b.toJson.depth)
    have hreadB := ofDocument?_toJson hb (Nat.le_max_right a.toJson.depth b.toJson.depth)
    rw [hdocument, hreadA] at hreadB
    exact (Option.some.inj hreadB).symm
  · intro hwritten
    rw [← toJson_written b, hwritten, toJson_written]

/-- **The wire format of attributes.** The text of attributes without real numbers, as deep as a
reader goes, is read back as the same attributes with the word in place of each truth value. What
was read has the same text and the same criteria, and each attribute in it the same views. No other
attributes have that text than those that agree up to truth values. -/
theorem round_trip (a : Attributes) (h : a.Integral) (hdepth : a.toJson.depth ≤ nestingBound) :
    (Document.read (Text.Utf8.encode a.toJson.text) >>= ofDocument? nestingBound) = some a.written
    ∧ a.written.toJson.text = a.toJson.text
    ∧ (∀ name, a.written.get? name = (a.get? name).map AttributeValue.written)
    ∧ (∀ v : AttributeValue, v.written.toBool? = v.toBool? ∧ v.written.toInt? = v.toInt?
        ∧ v.written.searchText = v.searchText)
    ∧ a.written.criteria = a.criteria
    ∧ ∀ b : Attributes, b.Integral → (b.toJson.text = a.toJson.text ↔ b.written = a.written) := by
  refine ⟨?_, by rw [toJson_written], get?_written a,
    fun v => ⟨v.toBool?_written, v.toInt?_written, v.searchText_written⟩, criteria_written a,
    fun b hb => text_eq_iff h hb⟩
  rw [Document.read_text]
  exact ofDocument?_toJson h hdepth

/-- Truth values in a list and in a list in it, and a name with quotes. -/
theorem round_trip_of_nested :
    let a : Attributes := NameMap.ofList
      [("Flags", .list [.bool true, .list [.bool false, .text "x"]]),
        ("a \"quoted\" name", .number (.integer (-7) (by decide)))]
    (Document.read (Text.Utf8.encode a.toJson.text) >>= ofDocument? nestingBound)
      = some (NameMap.ofList
        [("Flags", .list [.text "True", .list [.text "False", .text "x"]]),
          ("a \"quoted\" name", .number (.integer (-7) (by decide)))]) := by
  intro a
  have hintegral : a.Integral := by
    intro name value hget
    have hmem : (name, value) ∈
        [("Flags", AttributeValue.list [.bool true, .list [.bool false, .text "x"]]),
          ("a \"quoted\" name", .number (.integer (-7) (by decide)))] :=
      NameMap.get?_eq_some_iff.mp hget
    simp only [List.mem_cons, List.not_mem_nil, or_false, Prod.mk.injEq] at hmem
    rcases hmem with ⟨-, rfl⟩ | ⟨-, rfl⟩
    · have hinner : (AttributeValue.list [.bool false, .text "x"]).Integral :=
        .list (by simp [AttributeValue.Integral.bool, AttributeValue.Integral.text])
      exact .list (by simp [AttributeValue.Integral.bool, hinner])
    · exact .integer _ _
  exact (round_trip a hintegral (by decide)).1.trans rfl

end Attributes
end GridClient
