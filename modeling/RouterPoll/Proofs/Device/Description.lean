import RouterPoll.Device.Description
import RouterPoll.Proofs.Net.Address
import RouterPoll.Proofs.Net.Uuid
import RouterPoll.Proofs.Text.Quoted

/-!
# What descriptions tell

A description stands in a line of others, with a comma, a blank or a bracket behind it. It tells something about what it describes if that can be read off the line, and also where the description ends. Words tell what they stand for because they have none of these marks in them; a quoted text has a mark of its own at its end. What the parts tell of an option, a list or a record, the whole tells of all of them, so nothing that a record shows is lost in the line.
-/

namespace RouterPoll

namespace Description

def marks : List Char := [',', ' ', ')', ']']

theorem forall_mem_marks {P : Char → Prop} : (∀ mark ∈ marks, P mark) ↔ P ',' ∧ P ' ' ∧ P ')' ∧ P ']' := by
  simp [marks]

/-- What may stand behind a description: nothing, or a mark. -/
def EndsHere (rest : List Char) : Prop := ∀ char ∈ rest.head?, char ∈ marks

/-- Descriptions that are the same up to their ends are of values that look the same, and end at the same place. -/
def Tells {α β : Type} (describe : α → String) (view : α → β) : Prop :=
  ∀ ⦃left right : α⦄ ⦃rest other : List Char⦄, EndsHere rest → EndsHere other →
    (describe left).toList ++ rest = (describe right).toList ++ other → view left = view right ∧ rest = other

theorem endsHere_nil : EndsHere [] := fun _ hmem => by cases hmem

theorem endsHere_cons {mark : Char} (hmark : mark ∈ marks) (rest : List Char) : EndsHere (mark :: rest) := by
  intro char hmem
  cases hmem
  exact hmark

section

variable {α β γ : Type} {describe : α → String} {view : α → β}

namespace Tells

theorem view_eq (htells : Tells describe view) {left right : α} (hsame : describe left = describe right) :
    view left = view right :=
  (htells endsHere_nil endsHere_nil (by rw [hsame])).1

theorem part (htells : Tells describe view) (part : γ → α) :
    Tells (fun value => describe (part value)) fun value => view (part value) :=
  fun _ _ _ _ hrest hother hsame => htells hrest hother hsame

theorem weaken {coarse : α → γ} (htells : Tells describe view)
    (hcoarse : ∀ left right, view left = view right → coarse left = coarse right) : Tells describe coarse := by
  intro left right rest other hrest hother hsame
  obtain ⟨hview, hends⟩ := htells hrest hother hsame
  exact ⟨hcoarse left right hview, hends⟩

/-- A word without marks in it tells what it stands for. -/
theorem word (hmarks : ∀ value, ∀ mark ∈ marks, mark ∉ (describe value).toList)
    (hview : ∀ left right, describe left = describe right → view left = view right) : Tells describe view := by
  intro left right rest other hrest hother hsame
  have hrun (value : α) {more : List Char} (hmore : EndsHere more) :
      ((describe value).toList ++ more).takeWhile (fun char => !marks.contains char) = (describe value).toList := by
    refine Address.takeWhile_run (fun char hmem => ?_) fun char hmem => ?_
    · simp only [List.contains_eq_mem, Bool.not_eq_true', decide_eq_false_iff_not]
      exact fun hmark => hmarks value char hmark hmem
    · simpa using hmore char hmem
  have hwords : (describe left).toList = (describe right).toList := by
    rw [← hrun left hrest, hsame, hrun right hother]
  rw [hwords] at hsame
  exact ⟨hview left right (String.toList_injective hwords), List.append_cancel_left hsame⟩

/-- A word that stands for everything tells only what everything has in common. -/
theorem fixed (text : String) (common : β) : Tells (fun _ : α => text) fun _ => common :=
  fun _ _ _ _ _ _ hsame => ⟨rfl, List.append_cancel_left hsame⟩

theorem quoted : Tells Text.quoted id := fun _ _ _ _ _ _ hsame => Text.quoted_append_inj hsame

theorem optional (htells : Tells describe view) : Tells (optional describe) (Option.map view) := by
  intro left right rest other hrest hother hsame
  cases left with
  | none =>
      cases right with
      | none => exact ⟨rfl, List.append_cancel_left hsame⟩
      | some right => simp [Description.optional] at hsame
  | some left =>
      cases right with
      | none => simp [Description.optional] at hsame
      | some right =>
          simp only [Description.optional, String.toList_append, List.append_assoc, List.append_cancel_left_eq] at hsame
          obtain ⟨hview, hends⟩ := htells (endsHere_cons (by decide) rest) (endsHere_cons (by decide) other) hsame
          exact ⟨congrArg some hview, List.tail_eq_of_cons_eq hends⟩

end Tells

/-! ### Lists -/

/-- The elements of a list after the first, each with a comma and a blank in front. -/
def more (describe : α → String) (values : List α) : List Char :=
  values.flatMap fun value => ", ".toList ++ (describe value).toList

theorem toList_list_cons (describe : α → String) (value : α) (values : List α) :
    (list describe (value :: values)).toList
      = '[' :: ((describe value).toList ++ (more describe values ++ [']'])) := by
  simp [list, more, String.toList_intercalate, Text.intercalate_cons, List.flatMap_map]

theorem endsHere_more (describe : α → String) (values : List α) {rest : List Char} (hrest : EndsHere rest) :
    EndsHere (more describe values ++ rest) := by
  cases values with
  | nil => exact hrest
  | cons value values => exact endsHere_cons (by decide) _

theorem Tells.more_inj (htells : Tells describe view) {left right : List α} {rest other : List Char}
    (hsame : more describe left ++ ']' :: rest = more describe right ++ ']' :: other) :
    left.map view = right.map view ∧ rest = other := by
  induction left generalizing right with
  | nil =>
      cases right with
      | nil => exact ⟨rfl, List.tail_eq_of_cons_eq hsame⟩
      | cons next right => simp [more] at hsame
  | cons value left ih =>
      cases right with
      | nil => simp [more] at hsame
      | cons next right =>
          simp only [more, List.flatMap_cons, List.append_assoc, List.append_cancel_left_eq] at hsame
          obtain ⟨hview, hmore⟩ := htells (endsHere_more describe left (endsHere_cons (by decide) rest))
            (endsHere_more describe right (endsHere_cons (by decide) other)) hsame
          obtain ⟨hviews, hends⟩ := ih hmore
          exact ⟨congrArg₂ List.cons hview hviews, hends⟩

/-- Descriptions none of which begins with a closing bracket. -/
def Opens (describe : α → String) : Prop :=
  ∀ value, ∃ first rest, (describe value).toList = first :: rest ∧ first ≠ ']'

theorem Opens.list_ne (hopens : Opens describe) (value : α) (values : List α) (rest other : List Char) :
    (list describe (value :: values)).toList ++ rest ≠ (list describe []).toList ++ other := by
  obtain ⟨first, inner, hvalue, hfirst⟩ := hopens value
  have hempty : (list describe []).toList = ['[', ']'] := by simp [list]
  rw [toList_list_cons, hvalue, hempty]
  intro hsame
  exact hfirst (List.head_eq_of_cons_eq (List.tail_eq_of_cons_eq hsame))

theorem opens_quoted : Opens Text.quoted := by
  intro text
  refine ⟨'"', text.toList.flatMap Text.quoteChar ++ ['"'], ?_, by decide⟩
  rw [Text.quoted, String.toList_ofList]

theorem Tells.list (htells : Tells describe view) (hopens : Opens describe) :
    Tells (list describe) (List.map view) := by
  intro left right rest other hrest hother hsame
  cases left with
  | nil =>
      cases right with
      | nil => exact ⟨rfl, List.append_cancel_left hsame⟩
      | cons next right => exact absurd hsame.symm (hopens.list_ne next right other rest)
  | cons value left =>
      cases right with
      | nil => exact absurd hsame (hopens.list_ne value left rest other)
      | cons next right =>
          simp only [toList_list_cons, List.cons_append, List.append_assoc, List.nil_append, List.cons.injEq,
            true_and] at hsame
          obtain ⟨hview, hmore⟩ := htells (endsHere_more describe left (endsHere_cons (by decide) rest))
            (endsHere_more describe right (endsHere_cons (by decide) other)) hsame
          obtain ⟨hviews, hends⟩ := htells.more_inj hmore
          exact ⟨congrArg₂ List.cons hview hviews, hends⟩

/-! ### Records -/

def listed (fields : List (String × String)) : List Char :=
  fields.flatMap fun field => ", ".toList ++ (field.1.toList ++ (": ".toList ++ field.2.toList))

def closing (isOpen : Bool) : List Char := (if isOpen then ", ..".toList else []) ++ " \x7d".toList

/-- A record lists its fields behind its name, the first one without a comma. -/
theorem toList_record (name : String) {fields : List (String × String)} (hsome : fields ≠ []) (isOpen : Bool) :
    ∃ chars, (record name fields isOpen).toList = name.toList ++ (" \x7b ".toList ++ chars)
      ∧ listed fields ++ closing isOpen = ", ".toList ++ chars := by
  obtain ⟨first, rest, rfl⟩ := List.exists_cons_of_ne_nil hsome
  refine ⟨first.1.toList ++ (": ".toList ++ (first.2.toList ++ (listed rest ++ closing isOpen))), ?_, ?_⟩
  · cases isOpen <;>
      simp [record, listed, closing, String.toList_intercalate, Text.intercalate_cons, List.flatMap_map,
        List.flatMap_append]
  · simp [listed]

theorem endsHere_listed (fields : List (String × String)) {rest : List Char} (hrest : EndsHere rest) :
    EndsHere (listed fields ++ rest) := by
  cases fields with
  | nil => exact hrest
  | cons field fields => exact endsHere_cons (by decide) _

theorem endsHere_closing (isOpen : Bool) (rest : List Char) : EndsHere (closing isOpen ++ rest) := by
  cases isOpen <;> exact endsHere_cons (by decide) _

theorem opens_record (name : String) {first : Char} {letters : List Char} (hname : name.toList = first :: letters)
    (hfirst : first ≠ ']') {fields : α → List (String × String)} (hsome : ∀ value, fields value ≠ [])
    (isOpen : Bool) : Opens fun value => record name (fields value) isOpen := by
  intro value
  obtain ⟨chars, hrecord, _⟩ := toList_record name (hsome value) isOpen
  rw [hname] at hrecord
  exact ⟨first, _, hrecord, hfirst⟩

/-- The fields that are listed for a value tell something about it. -/
def FieldsTell (fields : α → List (String × String)) (view : α → β) : Prop :=
  ∀ ⦃left right : α⦄ ⦃rest other : List Char⦄, EndsHere rest → EndsHere other →
    listed (fields left) ++ rest = listed (fields right) ++ other → view left = view right ∧ rest = other

namespace FieldsTell

variable {fields : α → List (String × String)}

theorem nil : FieldsTell (fun _ : α => []) fun _ => () := fun _ _ _ _ _ _ hsame => ⟨rfl, hsame⟩

theorem cons (label : String) (htells : Tells describe view) {others : α → γ} (hfields : FieldsTell fields others) :
    FieldsTell (fun value => (label, describe value) :: fields value) fun value => (view value, others value) := by
  intro left right rest other hrest hother hsame
  simp only [listed, List.flatMap_cons, List.append_assoc, List.append_cancel_left_eq] at hsame
  obtain ⟨hview, hmore⟩ := htells (endsHere_listed (fields left) hrest) (endsHere_listed (fields right) hother) hsame
  obtain ⟨hothers, hends⟩ := hfields hrest hother hmore
  exact ⟨Prod.ext hview hothers, hends⟩

theorem record (hfields : FieldsTell fields view) (name : String) (hsome : ∀ value, fields value ≠ [])
    (isOpen : Bool) : Tells (fun value => record name (fields value) isOpen) view := by
  intro left right rest other hrest hother hsame
  obtain ⟨leftChars, hleft, hlisted⟩ := toList_record name (hsome left) isOpen
  obtain ⟨rightChars, hright, hothers⟩ := toList_record name (hsome right) isOpen
  simp only [hleft, hright, List.append_assoc, List.append_cancel_left_eq] at hsame
  have hclosed : listed (fields left) ++ (closing isOpen ++ rest)
      = listed (fields right) ++ (closing isOpen ++ other) := by
    rw [← List.append_assoc, ← List.append_assoc, hlisted, hothers, List.append_assoc, hsame, List.append_assoc]
  obtain ⟨hview, hends⟩ := hfields (endsHere_closing isOpen rest) (endsHere_closing isOpen other) hclosed
  exact ⟨hview, List.append_cancel_left hends⟩

end FieldsTell

end

/-! ### Words -/

theorem isDigit_of_mark : ∀ mark ∈ marks, mark.isDigit = false := forall_mem_marks.2 (by decide)

namespace Tells

theorem flag : Tells flag id := by
  refine .word (fun value => forall_mem_marks.2 (by cases value <;> decide)) fun left right hsame => ?_
  cases left <;> cases right <;> first | rfl | exact absurd hsame (by decide)

theorem natText : Tells Text.natText id :=
  .word (fun value mark hmark => Text.not_mem_natText (isDigit_of_mark mark hmark) value)
    fun _ _ hsame => Text.natText_injective hsame

theorem intText : Tells Text.intText id := by
  have hsign (value : Nat) (rest : String) : Text.natText value ≠ "-" ++ rest := by
    intro hsame
    refine Text.not_mem_natText (by decide : '-'.isDigit = false) value ?_
    rw [hsame, String.toList_append]
    exact List.mem_append_left _ (by decide)
  refine .word (fun value mark hmark => ?_) fun left right hsame => ?_
  · have hnumeral := Text.not_mem_natText (isDigit_of_mark mark hmark)
    have hdash : mark ≠ '-' := by
      rintro rfl
      exact absurd hmark (by decide)
    cases value with
    | ofNat value => exact hnumeral value
    | negSucc value => simp [Text.intText, hnumeral, hdash]
  · cases left with
    | ofNat left =>
        cases right with
        | ofNat right => exact congrArg Int.ofNat (Text.natText_injective hsame)
        | negSucc right => exact absurd hsame (hsign left _)
    | negSucc left =>
        cases right with
        | ofNat right => exact absurd hsame.symm (hsign right _)
        | negSucc right =>
            have hnumeral : Text.natText (left + 1) = Text.natText (right + 1) := by
              simpa [Text.intText] using hsame
            exact congrArg Int.negSucc (Nat.succ.inj (Text.natText_injective hnumeral))

theorem uuid : Tells Uuid.text id := by
  intro left right rest other hrest hother hsame
  have hlength (id : Uuid) : id.text.toList.length = 36 := by
    rw [Uuid.text, String.toList_ofList]
    exact Uuid.length_hyphenate (Text.length_hexFixed _ _)
  obtain ⟨htext, hends⟩ := List.append_inj hsame ((hlength left).trans (hlength right).symm)
  exact ⟨Uuid.text_injective (String.toList_injective htext), hends⟩

theorem address : Tells Address.text id := by
  have hmarks : ∀ mark ∈ marks, mark.isDigit = false ∧ Text.hexDigit? mark = none ∧ mark ≠ '.' ∧ mark ≠ ':' :=
    forall_mem_marks.2 (by decide)
  refine .word (fun address mark hmark => ?_) fun _ _ hsame => Address.text_injective hsame
  obtain ⟨hdecimal, hdigit, hpoint, hcolon⟩ := hmarks mark hmark
  exact Address.not_mem_text hdecimal hdigit hpoint hcolon address

theorem instant : Tells Instant.text Instant.text := by
  refine .word (fun instant mark hmark => ?_) fun _ _ hsame => hsame
  have hothers : ∀ mark ∈ marks, mark ∉ ['-', '+', ':', '.', 'T', 'Z'] := forall_mem_marks.2 (by decide)
  have hother := hothers mark hmark
  have hpadded := Text.not_mem_padded (isDigit_of_mark mark hmark)
  simp only [List.mem_cons, List.not_mem_nil, or_false, not_or] at hother
  have hyear (year : Int) : mark ∉ (Instant.yearText year).toList := by
    unfold Instant.yearText
    split
    · exact hpadded _ _
    · split <;> simp [hpadded, hother]
  have hfraction (nanos : Nat) : mark ∉ (Instant.fractionText nanos).toList := by
    unfold Instant.fractionText
    split
    · simp
    · split
      · simp [hpadded, hother]
      · split <;> simp [hpadded, hother]
  simp [Instant.text, hpadded, hyear, hfraction, hother]

end Tells

end Description

end RouterPoll
