import RouterPoll.Proofs.Json.Leaf

/-!
# Documents read from their texts

The text of a document is read as that document, if its numbers are. A reader has fuel for every step it goes down, so the induction over a document is about any fuel that is enough for it: an item or a field is read in one step, and then those after it. A text of any document is long enough for the fuel its reader is given.
-/

namespace RouterPoll

namespace Json

inductive IsExact : Json → Prop where
  | null : IsExact .null
  | bool (value : Bool) : IsExact (.bool value)
  | number {value : Number} (hexact : value.isExact = true) : IsExact (.number value)
  | string (value : String) : IsExact (.string value)
  | array {items : List Json} (hitems : ∀ item ∈ items, IsExact item) : IsExact (.array items)
  | object {fields : List (String × Json)} (hfields : ∀ field ∈ fields, IsExact field.2) :
    IsExact (.object fields)

theorem isExact_nat {value : Nat} (hvalue : value < Text.limit64) : (nat value).IsExact :=
  .number (Number.isExact_whole (by omega) (by omega))

/-! ### How far a reading has to go down -/

mutual

def cost : Json → Nat
  | .null => 1
  | .bool _ => 1
  | .number _ => 1
  | .string _ => 1
  | .array items => 1 + costItems items
  | .object fields => 1 + costFields fields

def costItems : List Json → Nat
  | [] => 1
  | item :: rest => 2 + cost item + costItems rest

def costFields : List (String × Json) → Nat
  | [] => 1
  | (_, value) :: rest => 2 + cost value + costFields rest

end

namespace Node

mutual

theorem stop?_ofValue : (value : Json) → stop? (ofValue value) = none
  | .null => rfl
  | .bool _ => rfl
  | .number _ => rfl
  | .string _ => rfl
  | .array items => stopInItems?_ofItems items
  | .object fields => stopInEntries?_ofFields fields

theorem stopInItems?_ofItems : (items : List Json) → stopInItems? (ofItems items) = none
  | [] => rfl
  | item :: rest => by
    rw [ofItems, stopInItems?, stop?_ofValue item, stopInItems?_ofItems rest]
    rfl

theorem stopInEntries?_ofFields :
    (fields : List (String × Json)) → stopInEntries? (ofFields fields) = none
  | [] => rfl
  | (_, value) :: rest => by
    rw [ofFields, stopInEntries?, stop?_ofValue value, stopInEntries?_ofFields rest]
    rfl

end

end Node

namespace Parser

open Text (Mark)

variable {value : Json} {rest : List Char} {fuel : Nat}

def begins (char : Char) : Bool :=
  !isSpace (some char) && char != ',' && char != ']' && char != '}'

theorem begins_of_isDigit {char : Char} (hdigit : char.isDigit = true) : begins char = true := by
  have hdigits : ∀ code < 58, 48 ≤ code → begins (Char.ofNat code) = true := by decide
  rw [Char.isDigit, Bool.and_eq_true, decide_eq_true_eq, decide_eq_true_eq] at hdigit
  rw [← Char.ofNat_toNat char]
  exact hdigits char.toNat (Nat.lt_succ_of_le hdigit.2) hdigit.1

theorem begins_of_numeral {char : Char} (hchar : (char == '-' || char.isDigit) = true) : begins char = true := by
  rw [Bool.or_eq_true, beq_iff_eq] at hchar
  rcases hchar with rfl | hdigit
  · rfl
  · exact begins_of_isDigit hdigit

theorem exists_write (hexact : value.IsExact) (rest : List Char) :
    ∃ char more, write value rest = char :: more ∧ begins char = true := by
  cases hexact with
  | null => exact ⟨'n', _, rfl, rfl⟩
  | bool value =>
      cases value with
      | true => exact ⟨'t', _, rfl, rfl⟩
      | false => exact ⟨'f', _, rfl, rfl⟩
  | @number number hexact =>
      obtain ⟨char, more, hmarks, hchar⟩ := exists_of_readNumber (Number.isExact_iff.1 hexact)
      obtain ⟨first, chars, hwrite, hfirst, _⟩ := List.map_eq_cons_iff.1 hmarks
      cases hfirst
      refine ⟨char, chars ++ rest, ?_, ?_⟩
      · rw [write, Number.write_append, hwrite, List.cons_append]
      · exact begins_of_numeral hchar
  | string value => exact ⟨'"', _, rfl, rfl⟩
  | array hitems => exact ⟨'[', _, rfl, rfl⟩
  | object hfields => exact ⟨'{', _, rfl, rfl⟩

theorem skipSpace_of_begins {char : Char} (hbegins : begins char = true) (marks : List Mark) :
    skipSpace (some char :: marks) = some char :: marks := by
  simp only [begins, Bool.and_eq_true, Bool.not_eq_true'] at hbegins
  rw [skipSpace, List.dropWhile_cons, hbegins.1.1.1]
  rfl

theorem endsNumber_cons {char : Char} (hchar : continuesNumber (some char) = false) (rest : List Char) :
    EndsNumber (marked (char :: rest)) := by
  intro mark hmark
  cases hmark
  exact hchar

/-! ### One step of a reading -/

/-- A value that is read from its text, whatever follows it. -/
def IsRead (value : Json) : Prop :=
  ∀ {fuel : Nat} {rest : List Char}, value.cost ≤ fuel → EndsNumber (marked rest) →
    readValue fuel (marked (write value rest)) = (Node.ofValue value, marked rest)

theorem readValue_numeral {char : Char} (hchar : (char == '-' || char.isDigit) = true) (fuel : Nat)
    (marks : List Mark) :
    readValue (fuel + 1) (some char :: marks) = orCut .inNumber (readNumber (some char :: marks)) := by
  rw [readValue, skipSpace_of_begins (begins_of_numeral hchar)]
  split
  all_goals rename_i hmarks; cases hmarks
  case h_8 => rw [if_pos hchar]
  all_goals cases hchar

theorem isRead_number {number : Number} (hexact : number.isExact = true) : IsRead (.number number) := by
  intro fuel rest hfuel hends
  obtain ⟨fuel, rfl⟩ := Nat.exists_eq_add_of_le' hfuel
  have hread := Number.readNumber_written hexact hends
  obtain ⟨char, more, hmarks, hchar⟩ := exists_of_readNumber hread
  have hvalue := readValue_numeral hchar fuel more
  rw [← hmarks, hread] at hvalue
  exact hvalue

theorem isRead_string (text : String) : IsRead (.string text) := by
  intro fuel rest hfuel _
  obtain ⟨fuel, rfl⟩ := Nat.exists_eq_add_of_le' hfuel
  rw [write, marked_writeText]
  show readValue (fuel + 1) _ = _
  rw [readValue, skipSpace_of_begins rfl]
  simp only
  rw [scanText_writeText]
  rfl

theorem isRead_null : IsRead .null := by
  intro fuel rest hfuel _
  obtain ⟨fuel, rfl⟩ := Nat.exists_eq_add_of_le' hfuel
  rfl

theorem isRead_bool (value : Bool) : IsRead (.bool value) := by
  intro fuel rest hfuel _
  obtain ⟨fuel, rfl⟩ := Nat.exists_eq_add_of_le' hfuel
  cases value <;> rfl

/-! ### Arrays -/

/-- What stands behind an item of an array that is followed by others. -/
def itemsAfter : List Json → List Char → List Char
  | [], rest => ']' :: rest
  | item :: more, rest => ',' :: writeItems (item :: more) (']' :: rest)

theorem writeItems_cons (item : Json) (more : List Json) (rest : List Char) :
    writeItems (item :: more) (']' :: rest) = write item (itemsAfter more rest) := by
  cases more <;> rfl

theorem endsNumber_itemsAfter (items : List Json) (rest : List Char) :
    EndsNumber (marked (itemsAfter items rest)) := by
  cases items <;> exact endsNumber_cons rfl _

def readItem (fuel : Nat) (marks : List Mark) : List Node × List Mark :=
  let (item, rest) := readValue fuel marks
  let (items, rest) := readItemsAfter fuel item rest
  (item :: items, rest)

theorem readItems_first (hexact : value.IsExact) (fuel : Nat) (rest : List Char) :
    readItems (fuel + 1) true (marked (write value rest)) = readItem fuel (marked (write value rest)) := by
  obtain ⟨char, chars, hwrite, hbegins⟩ := exists_write hexact rest
  rw [hwrite, marked_cons, readItems, skipSpace_of_begins hbegins]
  split
  case h_4 => rfl
  all_goals rename_i hmarks; cases hmarks
  all_goals cases hbegins

theorem readItems_comma (hexact : value.IsExact) (fuel : Nat) (rest : List Char) :
    readItems (fuel + 1) false (some ',' :: marked (write value rest))
      = readItem fuel (marked (write value rest)) := by
  obtain ⟨char, chars, hwrite, hbegins⟩ := exists_write hexact rest
  have hcomma : skipSpace (some ',' :: marked (write value rest)) = some ',' :: marked (write value rest) := rfl
  rw [readItems, hcomma]
  simp only [Bool.false_eq_true, if_false]
  rw [hwrite, marked_cons, skipSpace_of_begins hbegins]
  split
  · rename_i hmarks
    cases hmarks
    cases hbegins
  · rfl

theorem readItem_written {item : Json} {more : List Json} (hexact : ∀ other ∈ item :: more, other.IsExact)
    (hread : ∀ other ∈ item :: more, IsRead other) (hcost : costItems (item :: more) ≤ fuel + 1) :
    readItem fuel (marked (write item (itemsAfter more rest)))
      = (Node.ofItems (item :: more), marked rest) := by
  -- one step goes to the item and one to what is read after it, which is why `costItems` adds two
  induction more generalizing item fuel with
  | nil =>
      rw [costItems, costItems] at hcost
      obtain ⟨fuel, rfl⟩ := Nat.exists_eq_add_of_le' (show 2 ≤ fuel by omega)
      have hitem := hread item List.mem_cons_self (show item.cost ≤ fuel + 2 by omega) (endsNumber_itemsAfter [] rest)
      rw [readItem, hitem]
      simp only
      rw [readItemsAfter, Node.stop?_ofValue]
      rfl
  | cons next more ih =>
      rw [costItems] at hcost
      obtain ⟨fuel, rfl⟩ := Nat.exists_eq_add_of_le' (show 2 ≤ fuel by rw [costItems] at hcost; omega)
      have hitem := hread item List.mem_cons_self (show item.cost ≤ fuel + 2 by omega)
        (endsNumber_itemsAfter (next :: more) rest)
      have hnext := ih (fun other hmem => hexact other (List.mem_cons_of_mem _ hmem))
        (fun other hmem => hread other (List.mem_cons_of_mem _ hmem)) (show costItems (next :: more) ≤ fuel + 1 by omega)
      rw [readItem, hitem]
      simp only
      rw [readItemsAfter, Node.stop?_ofValue]
      simp only
      rw [itemsAfter, writeItems_cons, marked_cons,
        readItems_comma (hexact next (List.mem_cons_of_mem _ List.mem_cons_self)), hnext]
      rfl

theorem isRead_array {items : List Json} (hexact : ∀ item ∈ items, item.IsExact)
    (hitems : ∀ item ∈ items, IsRead item) : IsRead (.array items) := by
  intro fuel rest hcost _
  rw [cost] at hcost
  obtain ⟨fuel, rfl⟩ := Nat.exists_eq_add_of_le' (show 2 ≤ fuel by cases items <;> rw [costItems] at hcost <;> omega)
  have hread : readItems (fuel + 1) true (marked (writeItems items (']' :: rest)))
      = (Node.ofItems items, marked rest) := by
    cases items with
    | nil => rfl
    | cons item more =>
        rw [writeItems_cons, readItems_first (hexact item List.mem_cons_self)]
        exact readItem_written hexact hitems (by omega)
  show (Node.array (readItems (fuel + 1) true (marked (writeItems items (']' :: rest)))).1,
    (readItems (fuel + 1) true (marked (writeItems items (']' :: rest)))).2) = _
  rw [hread]
  rfl

/-! ### Objects -/

/-- What stands behind a field of an object that is followed by others. -/
def fieldsAfter : List (String × Json) → List Char → List Char
  | [], rest => '}' :: rest
  | field :: more, rest => ',' :: writeFields (field :: more) ('}' :: rest)

theorem writeFields_cons (key : String) (value : Json) (more : List (String × Json)) (rest : List Char) :
    writeFields ((key, value) :: more) ('}' :: rest)
      = writeText key (':' :: write value (fieldsAfter more rest)) := by
  cases more <;> rfl

theorem endsNumber_fieldsAfter (fields : List (String × Json)) (rest : List Char) :
    EndsNumber (marked (fieldsAfter fields rest)) := by
  cases fields <;> exact endsNumber_cons rfl _

theorem readEntries_first (key : String) (fuel : Nat) (rest : List Char) :
    readEntries (fuel + 1) true (marked (writeText key rest)) = readEntry fuel (marked (writeText key rest)) :=
  rfl

theorem readEntries_comma (key : String) (fuel : Nat) (rest : List Char) :
    readEntries (fuel + 1) false (some ',' :: marked (writeText key rest))
      = readEntry fuel (marked (writeText key rest)) :=
  rfl

theorem readEntry_writeText (key : String) (fuel : Nat) (rest : List Char) :
    readEntry (fuel + 1) (marked (writeText key (':' :: rest)))
      = match (readValue fuel (marked rest)).1.stop? with
        | some _ => ([(.ok key, (readValue fuel (marked rest)).1)], [])
        | none =>
          ((.ok key, (readValue fuel (marked rest)).1)
              :: (readEntries fuel false (readValue fuel (marked rest)).2).1,
            (readEntries fuel false (readValue fuel (marked rest)).2).2) := by
  rw [marked_writeText, readEntry, scanText_writeText]
  rfl

theorem readEntry_written {key : String} {value : Json} {more : List (String × Json)}
    (hread : ∀ other ∈ (key, value) :: more, IsRead other.2) (hcost : costFields ((key, value) :: more) ≤ fuel + 1) :
    readEntry fuel (marked (writeText key (':' :: write value (fieldsAfter more rest))))
      = (Node.ofFields ((key, value) :: more), marked rest) := by
  induction more generalizing key value fuel with
  | nil =>
      rw [costFields, costFields] at hcost
      obtain ⟨fuel, rfl⟩ := Nat.exists_eq_add_of_le' (show 2 ≤ fuel by omega)
      have hvalue := hread (key, value) List.mem_cons_self (show value.cost ≤ fuel + 1 by omega)
        (endsNumber_fieldsAfter [] rest)
      rw [readEntry_writeText, hvalue]
      simp only
      rw [Node.stop?_ofValue]
      rfl
  | cons next more ih =>
      obtain ⟨nextKey, nextValue⟩ := next
      rw [costFields] at hcost
      obtain ⟨fuel, rfl⟩ := Nat.exists_eq_add_of_le' (show 2 ≤ fuel by rw [costFields] at hcost; omega)
      have hvalue := hread (key, value) List.mem_cons_self (show value.cost ≤ fuel + 1 by omega)
        (endsNumber_fieldsAfter ((nextKey, nextValue) :: more) rest)
      have hnext := ih (fun other hmem => hread other (List.mem_cons_of_mem _ hmem))
        (show costFields ((nextKey, nextValue) :: more) ≤ fuel + 1 by omega)
      rw [readEntry_writeText, hvalue]
      simp only
      rw [Node.stop?_ofValue]
      simp only
      rw [fieldsAfter, writeFields_cons, marked_cons, readEntries_comma, hnext]
      rfl

theorem isRead_object {fields : List (String × Json)} (hfields : ∀ field ∈ fields, IsRead field.2) :
    IsRead (.object fields) := by
  intro fuel rest hcost _
  rw [cost] at hcost
  obtain ⟨fuel, rfl⟩ := Nat.exists_eq_add_of_le' (show 2 ≤ fuel by
    rcases fields with _ | ⟨⟨key, value⟩, fields⟩ <;> rw [costFields] at hcost <;> omega)
  have hread : readEntries (fuel + 1) true (marked (writeFields fields ('}' :: rest)))
      = (Node.ofFields fields, marked rest) := by
    rcases fields with _ | ⟨⟨key, value⟩, more⟩
    · rfl
    · rw [writeFields_cons, readEntries_first]
      exact readEntry_written hfields (by omega)
  show (Node.object (readEntries (fuel + 1) true (marked (writeFields fields ('}' :: rest)))).1,
    (readEntries (fuel + 1) true (marked (writeFields fields ('}' :: rest)))).2) = _
  rw [hread]
  rfl

/-! ### Whole documents -/

/-- Every value whose numbers are exact is read from its text, whatever follows it. -/
theorem isRead (hexact : value.IsExact) : IsRead value := by
  induction hexact with
  | null => exact isRead_null
  | bool value => exact isRead_bool value
  | number hexact => exact isRead_number hexact
  | string text => exact isRead_string text
  | array hitems ih => exact isRead_array hitems ih
  | object hfields ih => exact isRead_object ih

theorem costItems_le {items : List Json}
    (hitems : ∀ item ∈ items, ∀ rest, item.cost + 3 * rest.length ≤ 3 * (write item rest).length)
    (rest : List Char) : costItems items + 3 * rest.length ≤ 3 * (writeItems items rest).length + 3 := by
  induction items with
  | nil =>
      rw [costItems, writeItems]
      omega
  | cons item more ih =>
      have hmore := ih fun other hmem => hitems other (List.mem_cons_of_mem _ hmem)
      rw [costItems]
      cases more with
      | nil =>
          have hitem := hitems item List.mem_cons_self rest
          rw [costItems, writeItems]
          omega
      | cons next more =>
          have hitem := hitems item List.mem_cons_self (',' :: writeItems (next :: more) rest)
          rw [List.length_cons] at hitem
          rw [writeItems]
          omega

theorem costFields_le {fields : List (String × Json)}
    (hfields : ∀ field ∈ fields, ∀ rest, field.2.cost + 3 * rest.length ≤ 3 * (write field.2 rest).length)
    (rest : List Char) : costFields fields + 3 * rest.length ≤ 3 * (writeFields fields rest).length + 3 := by
  induction fields with
  | nil =>
      rw [costFields, writeFields]
      omega
  | cons field more ih =>
      obtain ⟨key, value⟩ := field
      have hmore := ih fun other hmem => hfields other (List.mem_cons_of_mem _ hmem)
      have hkey (rest : List Char) : rest.length ≤ (writeText key rest).length := by
        rw [writeText, List.length_cons, List.length_append, List.length_cons]
        omega
      rw [costFields]
      cases more with
      | nil =>
          have hvalue : value.cost + _ ≤ 3 * (write value _).length := hfields (key, value) List.mem_cons_self rest
          have htext := hkey (':' :: write value rest)
          rw [List.length_cons] at htext
          rw [costFields, writeFields]
          omega
      | cons next more =>
          have hvalue : value.cost + _ ≤ 3 * (write value _).length :=
            hfields (key, value) List.mem_cons_self (',' :: writeFields (next :: more) rest)
          have htext := hkey (':' :: write value (',' :: writeFields (next :: more) rest))
          rw [List.length_cons] at hvalue htext
          rw [writeFields]
          omega

theorem cost_le (hexact : value.IsExact) (rest : List Char) :
    value.cost + 3 * rest.length ≤ 3 * (write value rest).length := by
  -- each character pays for three steps, and a comma for going on behind an item and into the next
  induction hexact generalizing rest with
  | null =>
      rw [cost, write, List.length_append]
      have hword : "null".toList.length = 4 := rfl
      omega
  | bool value => cases value <;> simp [cost, write] <;> omega
  | @number number hexact =>
      have hsome : 0 < (writeNumber number []).length := by
        obtain ⟨char, more, hmarks, _⟩ := exists_of_readNumber (Number.isExact_iff.1 hexact)
        rw [← List.length_map (f := some), ← marked, hmarks]
        exact Nat.succ_pos _
      rw [cost, write, Number.write_append, List.length_append]
      omega
  | string text => simp [cost, write, writeText]; omega
  | array hitems ih =>
      have hbound := costItems_le ih (']' :: rest)
      rw [List.length_cons] at hbound
      rw [cost, write, List.length_cons]
      omega
  | object hfields ih =>
      have hbound := costFields_le ih ('}' :: rest)
      rw [List.length_cons] at hbound
      rw [cost, write, List.length_cons]
      omega

end Parser

/-- A document is read back from its text. -/
theorem Document.ofText_compact {value : Json} (hexact : value.IsExact) :
    Document.ofText value.compact = ⟨Node.ofValue value, none⟩ := by
  have hfuel := Parser.cost_le hexact []
  have hread : Parser.readValue (3 * (write value []).length + 3) (Parser.marked (write value []))
      = (Node.ofValue value, []) :=
    Parser.isRead hexact (by rw [List.length_nil] at hfuel; omega) (fun _ hmark => by cases hmark)
  rw [ofText, compact, Text.marksOfText, String.toList_ofList]
  show Parser.document (Parser.marked (write value [])) = _
  rw [Parser.document, Parser.marked, List.length_map, ← Parser.marked, hread]
  simp only
  rw [Node.stop?_ofValue]
  rfl

end Json

end RouterPoll
