import GridClient.Proofs.Decimal.Numeral
import GridClient.Proofs.Text.Hex
import GridClient.Text.Cut
import GridClient.Text.Quoted

/-!
# `GridClient.Proofs.Text.Quoted` — what is told from shown values

Values are shown one after the other, with brackets, keys and commas between them. None of these can
be mistaken for a part of a value: a quoted text ends at the first quote without a backslash before
it, and a number at the first character that is no digit. So lists and records are told from what is
shown of them.

## Contents
- `quoteChar_append_inj`, `quote_append_inj`: characters and texts in quotes.
- `SelfDelimiting`, `ToldApart`: values that are told whatever follows them, and two texts that are
  told apart where no digit follows; `toldApart_decimal`: numbers are.
- `eq_of_tails`: items after commas.
- `SelfDelimiting.list`, `record_inj`, `toldApart_record`: lists and records.
-/

namespace GridClient.Text

/-! ## Quotes -/

/-- The characters that are quoted by a letter after a backslash, with their letters. -/
def shortForms : List (Char × Char) :=
  [('"', '"'), ('\\', '\\'), ('\n', 'n'), ('\r', 'r'), ('\t', 't'), ('\x00', '0')]

/-- A character is quoted by a letter, as it is, or by number. -/
theorem quoteChar_cases (c : Char) :
    (∃ letter, (c, letter) ∈ shortForms ∧ quoteChar c = ['\\', letter])
      ∨ (c ≠ '"' ∧ c ≠ '\\' ∧ quoteChar c = [c])
      ∨ quoteChar c = '\\' :: 'u' :: '\x7b' :: hexText c.toNat ++ ['\x7d'] := by
  unfold quoteChar
  split
  -- the last case is the one of all characters without a letter
  case h_7 hquote hbackslash _ _ _ _ =>
    by_cases hprintable : isPrintable c = true
    · exact .inr (.inl ⟨hquote, hbackslash, if_pos hprintable⟩)
    · exact .inr (.inr (if_neg hprintable))
  all_goals exact .inl ⟨_, by decide, rfl⟩

/-- No quoted character begins with a quote. -/
theorem quoteChar_append_ne (c : Char) (rest rest' : List Char) :
    quoteChar c ++ rest ≠ '"' :: rest' := by
  intro h
  obtain ⟨letter, -, hc⟩ | ⟨hquote, -, hc⟩ | hc := quoteChar_cases c <;> rw [hc] at h
  · simp at h
  · exact hquote (List.cons.inj h).1
  · simp at h

/-- A number in digits ends at the brace. -/
theorem cutFirst_hexText (n : Nat) (rest : List Char) :
    cutFirst '\x7d' (hexText n ++ '\x7d' :: rest) = some (hexText n, rest) :=
  cutFirst_eq_some_iff.mpr ⟨rfl, Hex.notMem_toDigits (by decide) n⟩

/-- **Quoted characters are told one after the other.** -/
theorem quoteChar_append_inj {c d : Char} {rest rest' : List Char}
    (h : quoteChar c ++ rest = quoteChar d ++ rest') : c = d ∧ rest = rest' := by
  have hletters : ∀ p ∈ shortForms, ∀ q ∈ shortForms, p.2 = q.2 → p.1 = q.1 := by decide
  have hnotu : ∀ p ∈ shortForms, p.2 ≠ 'u' := by decide
  obtain ⟨letter, hmem, hc⟩ | ⟨-, hbackslash, hc⟩ | hc := quoteChar_cases c
    <;> obtain ⟨letter', hmem', hd⟩ | ⟨-, hbackslash', hd⟩ | hd := quoteChar_cases d
    <;> rw [hc, hd] at h
    <;> simp only [List.cons_append, List.nil_append, List.append_assoc, List.cons.injEq,
      true_and] at h
  · exact ⟨hletters _ hmem _ hmem' h.1, h.2⟩
  · exact absurd h.1.symm hbackslash'
  · exact absurd h.1 (hnotu _ hmem)
  · exact absurd h.1 hbackslash
  · exact h
  · exact absurd h.1 hbackslash
  · exact absurd h.1.symm (hnotu _ hmem')
  · exact absurd h.1.symm hbackslash'
  · -- both by number: the digits go up to the first brace
    have hcut := cutFirst_hexText c.toNat rest
    rw [h, cutFirst_hexText] at hcut
    obtain ⟨hdigits, hrest⟩ := Prod.mk.inj (Option.some.inj hcut)
    have hnumber := Hex.toDigits_injective hdigits
    exact ⟨(Char.toNat_inj.mp hnumber).symm, hrest.symm⟩

theorem toList_quote_append (s : String) (rest : List Char) :
    (quote s).toList ++ rest = '"' :: (s.toList.flatMap quoteChar ++ '"' :: rest) := by
  simp [quote]

/-- Quoted characters up to a quote are told, since none of them begins with one. -/
theorem flatMap_quoteChar_append_inj {cs ds rest rest' : List Char}
    (h : cs.flatMap quoteChar ++ '"' :: rest = ds.flatMap quoteChar ++ '"' :: rest') :
    cs = ds ∧ rest = rest' := by
  induction cs generalizing ds with
  | nil =>
      cases ds with
      | nil => exact ⟨rfl, (List.cons.inj h).2⟩
      | cons d ds =>
          rw [List.flatMap_cons, List.append_assoc] at h
          exact absurd h.symm (quoteChar_append_ne d _ _)
  | cons c cs ih =>
      rw [List.flatMap_cons, List.append_assoc] at h
      cases ds with
      | nil => exact absurd h (quoteChar_append_ne c _ _)
      | cons d ds =>
          rw [List.flatMap_cons, List.append_assoc] at h
          obtain ⟨rfl, htail⟩ := quoteChar_append_inj h
          obtain ⟨rfl, hrest⟩ := ih htail
          exact ⟨rfl, hrest⟩

/-- **A quoted text is told from what begins with it**, and so is what follows. -/
theorem quote_append_inj {s t : String} {rest rest' : List Char} :
    (quote s).toList ++ rest = (quote t).toList ++ rest' ↔ s = t ∧ rest = rest' := by
  constructor
  · intro h
    rw [toList_quote_append, toList_quote_append] at h
    obtain ⟨hsame, hrest⟩ := flatMap_quoteChar_append_inj (List.cons.inj h).2
    exact ⟨String.toList_inj.mp hsame, hrest⟩
  · rintro ⟨rfl, rfl⟩
    rfl

/-! ## Values that are told from what begins with them -/

/-- What follows a value does not go on with a digit. -/
def Stops (rest : List Char) : Prop := ∀ c ∈ rest.head?, c.isDigit = false

/-- Two shown values that are the same where something begins with both of them, and stops. -/
def ToldApart (s t : String) : Prop :=
  ∀ ⦃rest rest' : List Char⦄, Stops rest → Stops rest' →
    s.toList ++ rest = t.toList ++ rest' → s = t

/-- Values that are shown so that they are told from whatever begins with them. -/
def SelfDelimiting {α : Type} (shown : α → String) : Prop :=
  ∀ ⦃a b : α⦄ ⦃rest rest' : List Char⦄,
    (shown a).toList ++ rest = (shown b).toList ++ rest' → a = b

namespace SelfDelimiting

variable {α : Type} {shown : α → String}

theorem inj (h : SelfDelimiting shown) {a b : α} : shown a = shown b ↔ a = b := by
  constructor
  · intro hsame
    have hchars : (shown a).toList ++ [] = (shown b).toList ++ [] := by rw [hsame]
    exact h hchars
  · rintro rfl
    rfl

theorem toldApart (h : SelfDelimiting shown) (a b : α) : ToldApart (shown a) (shown b) := by
  intro rest rest' _ _ hsame
  rw [h hsame]

end SelfDelimiting

theorem selfDelimiting_quote : SelfDelimiting quote :=
  fun _ _ _ _ h => (quote_append_inj.mp h).1

@[simp] theorem quote_inj {s t : String} : quote s = quote t ↔ s = t := selfDelimiting_quote.inj

@[simp] theorem toldApart_quote (s t : String) : ToldApart (quote s) (quote t) :=
  selfDelimiting_quote.toldApart s t

/-- A number ends at the first character that is no digit. -/
@[simp] theorem toldApart_decimal (m n : Nat) : ToldApart (Decimal.text m) (Decimal.text n) := by
  intro rest rest' hrest hrest' h
  -- the digits are all that is taken while there are digits
  have hspan : ∀ (n : Nat) {rest : List Char}, Stops rest →
      (Decimal.digits n ++ rest).takeWhile Char.isDigit = Decimal.digits n := by
    intro n rest hrest
    rw [List.takeWhile_append_of_pos fun c hc => Decimal.isDigit_of_mem_digits hc]
    cases rest with
    | nil => simp
    | cons c rest => simp [hrest c rfl]
  rw [Decimal.text, Decimal.text, String.toList_ofList, String.toList_ofList] at h
  have hdigits := congrArg (List.takeWhile Char.isDigit) h
  rw [hspan m hrest, hspan n hrest'] at hdigits
  rw [Decimal.text, Decimal.text, hdigits]

/-! ## Items after commas -/

variable {α : Type} {item : α → String} {xs ys : List α} {close : Char} {rest rest' : List Char}

/-- Items that are told apart wherever two lists have one in the same place. -/
def ItemsApart (item : α → String) (xs ys : List α) : Prop :=
  ∀ p ∈ xs.zip ys, ToldApart (item p.1) (item p.2) ∧ (item p.1 = item p.2 → p.1 = p.2)

theorem SelfDelimiting.itemsApart (h : SelfDelimiting item) (xs ys : List α) :
    ItemsApart item xs ys :=
  fun p _ => ⟨h.toldApart p.1 p.2, h.inj.mp⟩

/-- Items with a comma before each. -/
def tails (item : α → String) (xs : List α) : List Char :=
  xs.flatMap fun x => ',' :: ' ' :: (item x).toList

theorem toList_intercalate_eq_tails (item : α → String) (hne : xs ≠ []) :
    ',' :: ' ' :: (String.intercalate ", " (xs.map item)).toList = tails item xs := by
  induction xs with
  | nil => exact absurd rfl hne
  | cons x xs ih =>
      cases xs with
      | nil => simp [tails]
      | cons y ys =>
          have htail := ih (by simp)
          rw [List.map_cons, List.map_cons, String.intercalate_cons_cons, ← List.map_cons,
            String.toList_append, String.toList_append, List.append_assoc]
          show ',' :: ' ' :: ((item x).toList
            ++ (',' :: ' ' :: (String.intercalate ", " ((y :: ys).map item)).toList)) = _
          rw [htail]
          rfl

theorem stops_tails (hdigit : close.isDigit = false) (xs : List α) :
    Stops (tails item xs ++ close :: rest) := by
  cases xs with
  | nil => simpa [Stops, tails] using hdigit
  | cons x xs => simp [Stops, tails]

/-- **Items after commas are told one after the other**, up to what closes the list. -/
theorem eq_of_tails (hcomma : close ≠ ',') (hdigit : close.isDigit = false)
    (happart : ItemsApart item xs ys)
    (h : tails item xs ++ close :: rest = tails item ys ++ close :: rest') :
    xs = ys ∧ rest = rest' := by
  induction xs generalizing ys with
  | nil =>
      cases ys with
      | nil => exact ⟨rfl, (List.cons.inj h).2⟩
      | cons y ys => exact absurd (List.cons.inj h).1 hcomma
  | cons x xs ih =>
      cases ys with
      | nil => exact absurd (List.cons.inj h).1.symm hcomma
      | cons y ys =>
          obtain ⟨hapart, hitem⟩ := happart (x, y) List.mem_cons_self
          simp only [tails, List.flatMap_cons, List.cons_append, List.append_assoc,
            List.cons.injEq, true_and] at h
          -- neither a comma nor what closes the list is a digit
          have hsame : item x = item y :=
            hapart (stops_tails hdigit xs) (stops_tails hdigit ys) h
          obtain rfl : x = y := hitem hsame
          rw [List.append_cancel_left_eq] at h
          obtain ⟨rfl, hrest⟩ := ih (fun p hp => happart p (List.mem_cons_of_mem _ hp)) h
          exact ⟨rfl, hrest⟩

/-- Items with commas between them are told, where no list can be taken for one without items. -/
theorem eq_of_intercalate (hcomma : close ≠ ',') (hdigit : close.isDigit = false)
    (hnil : xs = [] ↔ ys = []) (happart : ItemsApart item xs ys)
    (h : (String.intercalate ", " (xs.map item)).toList ++ close :: rest
      = (String.intercalate ", " (ys.map item)).toList ++ close :: rest') :
    xs = ys ∧ rest = rest' := by
  by_cases hxs : xs = []
  · obtain rfl := hnil.mp hxs
    subst hxs
    exact ⟨rfl, by simpa using h⟩
  · have hys : ys ≠ [] := mt hnil.mpr hxs
    apply eq_of_tails hcomma hdigit happart
    rw [← toList_intercalate_eq_tails item hxs, ← toList_intercalate_eq_tails item hys]
    exact congrArg (',' :: ' ' :: ·) h

/-! ## Lists -/

theorem head?_intercalate {opening : Char} (hopen : ∀ x, (item x).toList.head? = some opening)
    (hne : xs ≠ []) :
    (String.intercalate ", " (xs.map item)).toList.head? = some opening := by
  have htails := toList_intercalate_eq_tails item hne
  cases xs with
  | nil => exact absurd rfl hne
  | cons x xs =>
      rw [tails, List.flatMap_cons, List.cons_append, List.cons_append] at htails
      rw [(List.cons.inj (List.cons.inj htails).2).2, List.head?_append, hopen]
      rfl

/-- **A list is told from what begins with it** if its items are, and none can be taken for the end
of the list. -/
theorem SelfDelimiting.list (hitem : SelfDelimiting item) {opening : Char}
    (hopening : opening ≠ ']') (hopen : ∀ x, (item x).toList.head? = some opening) :
    SelfDelimiting fun xs : List α => showList (xs.map item) := by
  have hchars : ∀ (xs : List α) (rest : List Char), (showList (xs.map item)).toList ++ rest
      = '[' :: ((String.intercalate ", " (xs.map item)).toList ++ ']' :: rest) := by
    intro xs rest
    simp [showList]
  -- an item opens with another character than the one that ends the list
  have hends : ∀ {xs : List α} {rest rest' : List Char}, xs ≠ [] →
      (String.intercalate ", " (xs.map item)).toList ++ ']' :: rest ≠ ']' :: rest' := by
    intro xs rest rest' hxs h
    have hhead := congrArg List.head? h
    rw [List.head?_append, head?_intercalate hopen hxs] at hhead
    exact hopening (Option.some.inj hhead)
  intro xs ys rest rest' h
  rw [hchars, hchars] at h
  have hitems := (List.cons.inj h).2
  have hnil : xs = [] ↔ ys = [] := by
    constructor
    · rintro rfl
      exact Classical.byContradiction fun hys => hends hys hitems.symm
    · rintro rfl
      exact Classical.byContradiction fun hxs => hends hxs hitems
  exact (eq_of_intercalate (by decide) (by decide) hnil (hitem.itemsApart xs ys) hitems).1

/-! ## Records -/

/-- Records with the same keys, whose values are told apart. -/
def FieldsApart (fields fields' : List (String × String)) : Prop :=
  fields.length = fields'.length
    ∧ ∀ p ∈ fields.zip fields', p.1.1 = p.2.1 ∧ ToldApart p.1.2 p.2.2

variable {fields fields' : List (String × String)}

@[simp] theorem fieldsApart_nil : FieldsApart [] [] := ⟨rfl, by simp⟩

@[simp] theorem fieldsApart_cons {field field' : String × String} :
    FieldsApart (field :: fields) (field' :: fields')
      ↔ (field.1 = field'.1 ∧ ToldApart field.2 field'.2) ∧ FieldsApart fields fields' := by
  simp only [FieldsApart, List.length_cons, Nat.add_right_cancel_iff, List.zip_cons_cons,
    List.forall_mem_cons]
  exact and_left_comm

theorem FieldsApart.items (hfields : FieldsApart fields fields') :
    ItemsApart (fun field => field.1 ++ ": " ++ field.2) fields fields' := by
  rintro ⟨⟨key, value⟩, ⟨key', value'⟩⟩ hp
  obtain ⟨rfl, hvalue⟩ : key = key' ∧ ToldApart value value' := hfields.2 _ hp
  constructor
  · intro rest rest' hrest hrest' h
    simp only [String.toList_append, List.append_assoc, List.append_cancel_left_eq] at h
    exact congrArg (key ++ ": " ++ ·) (hvalue hrest hrest' h)
  · intro h
    obtain rfl : value = value' := String.append_right_inj _ |>.mp h
    rfl

/-- **A record is told from what begins with it.** -/
theorem record_append_inj {name : String} (hfields : FieldsApart fields fields')
    (h : (record name fields).toList ++ rest = (record name fields').toList ++ rest') :
    fields = fields' := by
  have hchars : ∀ (fields : List (String × String)) (rest : List Char),
      (record name fields).toList ++ rest
        = (name ++ " \x7b ").toList ++ ((String.intercalate ", "
          (fields.map fun field => field.1 ++ ": " ++ field.2)).toList ++ ' ' :: '\x7d' :: rest) := by
    intro fields rest
    simp [record]
  have hnil : fields = [] ↔ fields' = [] := by
    rw [← List.length_eq_zero_iff, hfields.1, List.length_eq_zero_iff]
  rw [hchars, hchars, List.append_cancel_left_eq] at h
  exact (eq_of_intercalate (by decide) (by decide) hnil hfields.items h).1

theorem record_inj {name : String} (hfields : FieldsApart fields fields') :
    record name fields = record name fields' ↔ fields = fields' := by
  constructor
  · intro h
    have hchars : (record name fields).toList ++ [] = (record name fields').toList ++ [] := by
      rw [h]
    exact record_append_inj hfields hchars
  · rintro rfl
    rfl

theorem toldApart_record {name : String} (hfields : FieldsApart fields fields') :
    ToldApart (record name fields) (record name fields') := by
  intro rest rest' _ _ h
  rw [record_append_inj hfields h]

end GridClient.Text
