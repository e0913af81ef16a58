import RouterPoll.Json.Parser
import RouterPoll.Proofs.Refusal

/-!
# Numbers of a text

Whatever a text shows, its whole numbers have at most 64 bits: a numeral that is larger is read as a double. This holds of every node, however the text goes wrong behind it, and so of every value that a node denotes.
-/

namespace RouterPoll

namespace Json

/-- A number that is a double or has 64 bits, with a sign or without. -/
def Number.IsSized : Number → Prop
  | whole value => -(Text.signedLimit64 : Int) ≤ value ∧ value < Text.limit64
  | double _ => True

inductive Node.IsSized : Node → Prop where
  | null : IsSized .null
  | bool (value : Bool) : IsSized (.bool value)
  | number {value : Number} (hsized : value.IsSized) : IsSized (.number value)
  | string (value : String) : IsSized (.string value)
  | array {items : List Node} (hitems : ∀ item ∈ items, IsSized item) : IsSized (.array items)
  | object {entries : List (Key × Node)} (hentries : ∀ entry ∈ entries, IsSized entry.2) : IsSized (.object entries)
  | unreadable (flaw : Flaw) : IsSized (.unreadable flaw)
  | cut (cut : Cut) : IsSized (.cut cut)

inductive IsSized : Json → Prop where
  | null : IsSized .null
  | bool (value : Bool) : IsSized (.bool value)
  | number {value : Number} (hsized : value.IsSized) : IsSized (.number value)
  | string (value : String) : IsSized (.string value)
  | array {items : List Json} (hitems : ∀ item ∈ items, IsSized item) : IsSized (.array items)
  | object {fields : List (String × Json)} (hfields : ∀ field ∈ fields, IsSized field.2) : IsSized (.object fields)

theorem IsSized.field? {value field : Json} {key : String} (hsized : value.IsSized)
    (hfield : value.field? key = some field) : field.IsSized := by
  cases hsized with
  | object hfields =>
      obtain ⟨entry, hentry, rfl⟩ := Option.map_eq_some_iff.1 hfield
      exact hfields entry (List.mem_of_find?_eq_some hentry)
  | null => cases hfield
  | bool value => cases hfield
  | number hsized => cases hfield
  | string value => cases hfield
  | array hitems => cases hfield

/-! ### Values of nodes -/

namespace Node

def GivesSized (node : Node) : Prop :=
  ∀ {room : Nat} {value : Json}, node.value? room = .ok value → value.IsSized

theorem isSized_of_itemValues? {items : List Node} (hitems : ∀ item ∈ items, item.GivesSized) {room : Nat}
    {values : List Json} (hvalues : itemValues? room items = .ok values) : ∀ value ∈ values, value.IsSized := by
  induction items generalizing values with
  | nil =>
      cases hvalues
      exact fun value hmem => absurd hmem List.not_mem_nil
  | cons item items ih =>
      rw [itemValues?] at hvalues
      obtain ⟨first, hfirst, hrest⟩ := bind_eq_ok.1 hvalues
      obtain ⟨others, hothers, hall⟩ := bind_eq_ok.1 hrest
      cases hall
      exact List.forall_mem_cons.2 ⟨hitems item List.mem_cons_self hfirst,
        ih (fun other hmem => hitems other (List.mem_cons_of_mem _ hmem)) hothers⟩

theorem isSized_insertField {key : String} {value : Json} {fields : List (String × Json)} (hvalue : value.IsSized)
    (hfields : ∀ field ∈ fields, field.2.IsSized) : ∀ field ∈ insertField key value fields, field.2.IsSized := by
  induction fields with
  | nil => exact List.forall_mem_cons.2 ⟨hvalue, fun field hmem => absurd hmem List.not_mem_nil⟩
  | cons field fields ih =>
      obtain ⟨hfirst, hrest⟩ := List.forall_mem_cons.1 hfields
      rw [insertField]
      split
      · exact List.forall_mem_cons.2 ⟨hvalue, hrest⟩
      · exact List.forall_mem_cons.2 ⟨hfirst, ih hrest⟩

theorem isSized_of_fieldValues? {entries : List (Key × Node)} (hentries : ∀ entry ∈ entries, entry.2.GivesSized)
    {room : Nat} {known fields : List (String × Json)} (hknown : ∀ field ∈ known, field.2.IsSized)
    (hfields : fieldValues? room entries known = .ok fields) : ∀ field ∈ fields, field.2.IsSized := by
  induction entries generalizing known with
  | nil =>
      cases hfields
      exact hknown
  | cons entry entries ih =>
      obtain ⟨key, item⟩ := entry
      rw [fieldValues?] at hfields
      obtain ⟨name, _, hrest⟩ := bind_eq_ok.1 hfields
      obtain ⟨value, hvalue, hothers⟩ := bind_eq_ok.1 hrest
      exact ih (fun other hmem => hentries other (List.mem_cons_of_mem _ hmem))
        (isSized_insertField (hentries (key, item) List.mem_cons_self hvalue) hknown) hothers

theorem IsSized.givesSized {node : Node} (hsized : node.IsSized) : node.GivesSized := by
  induction hsized with
  | null =>
      intro room value hvalue
      cases room <;> cases hvalue <;> exact .null
  | bool flag =>
      intro room value hvalue
      cases room <;> cases hvalue <;> exact .bool flag
  | number hsized =>
      intro room value hvalue
      cases room <;> cases hvalue <;> exact .number hsized
  | string text =>
      intro room value hvalue
      cases room <;> cases hvalue <;> exact .string text
  | array hitems ih =>
      intro room value hvalue
      cases room with
      | zero => cases hvalue
      | succ room =>
          obtain ⟨values, hvalues, rfl⟩ := map_eq_ok.1 hvalue
          exact .array (isSized_of_itemValues? ih hvalues)
  | object hentries ih =>
      intro room value hvalue
      cases room with
      | zero => cases hvalue
      | succ room =>
          obtain ⟨fields, hfields, rfl⟩ := map_eq_ok.1 hvalue
          exact .object (isSized_of_fieldValues? ih (fun field hmem => absurd hmem List.not_mem_nil) hfields)
  | unreadable flaw =>
      intro room value hvalue
      cases room <;> cases hvalue
  | cut cut =>
      intro room value hvalue
      cases room <;> cases hvalue

end Node

/-! ### Nodes of texts -/

namespace Parser

open Text (Mark)

theorem isSized_numberNode (negative : Bool) (whole : List Char) (fraction : Option (List Char))
    (exponent : Option Int) : (numberNode negative whole fraction exponent).IsSized := by
  unfold numberNode
  dsimp only
  split
  · split
    · split
      · rename_i hsize
        rw [Bool.and_eq_true, decide_eq_true_eq, decide_eq_true_eq] at hsize
        exact .number ⟨by omega, by unfold Text.limit64; omega⟩
      · split
        · exact .number trivial
        · exact .unreadable _
    · split
      · rename_i hsize
        exact .number ⟨by unfold Text.signedLimit64; omega, by omega⟩
      · split
        · exact .number trivial
        · exact .unreadable _
  · split
    · exact .number trivial
    · exact .unreadable _

theorem isSized_readNumber {marks rest : List Mark} {node : Node} (hread : readNumber marks = .ok (node, rest)) :
    node.IsSized := by
  unfold readNumber at hread
  obtain ⟨⟨whole, afterWhole⟩, _, hread⟩ := bind_eq_ok.1 hread
  obtain ⟨⟨fraction, afterFraction⟩, _, hread⟩ := bind_eq_ok.1 hread
  obtain ⟨⟨exponent, afterExponent⟩, _, hread⟩ := bind_eq_ok.1 hread
  cases hread
  exact isSized_numberNode _ whole fraction exponent

theorem isSized_orCut {cut : Flaw → Cut} {read : Except Flaw (Node × List Mark)}
    (hread : ∀ {node rest}, read = .ok (node, rest) → node.IsSized) : (orCut cut read).1.IsSized := by
  cases read with
  | ok result => exact hread rfl
  | error flaw => exact .cut _

theorem isSized_readWord {word node : Node} (hword : word.IsSized) {letters : List Char} {marks rest : List Mark}
    (hread : readWord word letters marks = .ok (node, rest)) : node.IsSized := by
  induction letters generalizing marks with
  | nil =>
      cases hread
      exact hword
  | cons letter letters ih =>
      cases marks with
      | nil => cases hread
      | cons mark marks =>
          rw [readWord] at hread
          split at hread
          · exact ih hread
          · cases hread

theorem isSized_textNode (content : Except Flaw String) : (textNode content).IsSized := by
  cases content with
  | ok content => exact .string content
  | error flaw => exact .unreadable flaw

/-- What the readers of all parts give with one fuel is sized. -/
structure ReadsSized (fuel : Nat) : Prop where
  value : ∀ marks, (readValue fuel marks).1.IsSized
  items : ∀ isFirst marks, ∀ item ∈ (readItems fuel isFirst marks).1, item.IsSized
  itemsAfter : ∀ item marks, ∀ other ∈ (readItemsAfter fuel item marks).1, other.IsSized
  entries : ∀ isFirst marks, ∀ entry ∈ (readEntries fuel isFirst marks).1, entry.2.IsSized
  entry : ∀ marks, ∀ entry ∈ (readEntry fuel marks).1, entry.2.IsSized

theorem isSized_cutItem (cut : Cut) : ∀ item ∈ [Node.cut cut], item.IsSized :=
  List.forall_mem_singleton.2 (.cut cut)

theorem isSized_cutEntry (cut : Cut) : ∀ entry ∈ cutEntry cut, entry.2.IsSized :=
  List.forall_mem_singleton.2 (.cut cut)

theorem readsSized_zero : ReadsSized 0 where
  value _ := .cut _
  items _ _ := isSized_cutItem _
  itemsAfter _ _ _ hmem := absurd hmem List.not_mem_nil
  entries _ _ := isSized_cutEntry _
  entry _ := isSized_cutEntry _

namespace ReadsSized

variable {fuel : Nat}

theorem value_succ (hreads : ReadsSized fuel) (marks : List Mark) : (readValue (fuel + 1) marks).1.IsSized := by
  rw [readValue]
  split
  · exact .cut _
  · split
    · exact isSized_textNode _
    · exact .cut _
  · exact .array (hreads.items true _)
  · exact .object (hreads.entries true _)
  · exact isSized_orCut (isSized_readWord .null)
  · exact isSized_orCut (isSized_readWord (.bool true))
  · exact isSized_orCut (isSized_readWord (.bool false))
  · split
    · exact isSized_orCut isSized_readNumber
    · exact .cut _
  · exact .cut _

theorem item (hreads : ReadsSized fuel) (marks : List Mark) :
    ∀ item ∈ (readValue fuel marks).1 :: (readItemsAfter fuel (readValue fuel marks).1 (readValue fuel marks).2).1,
      item.IsSized :=
  List.forall_mem_cons.2 ⟨hreads.value marks, hreads.itemsAfter _ _⟩

theorem items_succ (hreads : ReadsSized fuel) (isFirst : Bool) (marks : List Mark) :
    ∀ item ∈ (readItems (fuel + 1) isFirst marks).1, item.IsSized := by
  rw [readItems]
  split
  · exact isSized_cutItem _
  · exact fun item hmem => absurd hmem List.not_mem_nil
  · split
    · exact isSized_cutItem _
    · split
      · exact isSized_cutItem _
      · exact hreads.item _
  · split
    · exact hreads.item _
    · exact isSized_cutItem _

theorem itemsAfter_succ (hreads : ReadsSized fuel) (item : Node) (marks : List Mark) :
    ∀ other ∈ (readItemsAfter (fuel + 1) item marks).1, other.IsSized := by
  rw [readItemsAfter]
  split
  · exact fun other hmem => absurd hmem List.not_mem_nil
  · exact hreads.items false marks

theorem entries_succ (hreads : ReadsSized fuel) (isFirst : Bool) (marks : List Mark) :
    ∀ entry ∈ (readEntries (fuel + 1) isFirst marks).1, entry.2.IsSized := by
  rw [readEntries]
  split
  · exact isSized_cutEntry _
  · exact fun entry hmem => absurd hmem List.not_mem_nil
  · split
    · exact isSized_cutEntry _
    · split
      · exact isSized_cutEntry _
      · exact isSized_cutEntry _
      · exact hreads.entry _
  · split
    · exact hreads.entry _
    · exact isSized_cutEntry _

theorem entry_succ (hreads : ReadsSized fuel) (marks : List Mark) :
    ∀ entry ∈ (readEntry (fuel + 1) marks).1, entry.2.IsSized := by
  unfold readEntry
  split
  · split
    · exact isSized_cutEntry _
    · split
      · simp only
        split
        · exact List.forall_mem_singleton.2 (hreads.value _)
        · exact List.forall_mem_cons.2 ⟨hreads.value _, hreads.entries false _⟩
      · exact List.forall_mem_singleton.2 (.cut _)
      · exact List.forall_mem_singleton.2 (.cut _)
  · exact isSized_cutEntry _

end ReadsSized

theorem readsSized (fuel : Nat) : ReadsSized fuel := by
  induction fuel with
  | zero => exact readsSized_zero
  | succ fuel ih =>
      exact ⟨ih.value_succ, ih.items_succ, ih.itemsAfter_succ, ih.entries_succ, ih.entry_succ⟩

/-- Whatever marks are read, the numbers of their document are sized. -/
theorem isSized_document (marks : List Mark) : (document marks).root.IsSized := by
  have hroot := (readsSized (3 * marks.length + 3)).value marks
  unfold document
  dsimp only
  split <;> exact hroot

end Parser

end Json

end RouterPoll
