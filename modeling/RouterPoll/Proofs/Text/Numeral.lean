import Mathlib.Algebra.Group.Nat.Defs
import Mathlib.Data.List.Basic
import RouterPoll.Text.Numeral

/-!
# Numerals: what is written is read

Digits are read from the left, so a run of digits can be read in parts, each of which goes on from the number that the part before it gave. Numbers that are written with the same number of digits are in the order of their texts.
-/

namespace RouterPoll

namespace Text

theorem readDigits_append (base : Nat) (digit : Char → Option Nat) (total : Nat)
    (chars more : List Char) : readDigits base digit total (chars ++ more)
      = (readDigits base digit total chars).bind (readDigits base digit · more) := by
  induction chars generalizing total with
  | nil => rfl
  | cons char chars ih =>
      rw [List.cons_append, readDigits, readDigits]
      cases digit char with
      | none => rfl
      | some value => exact ih _

theorem intercalate_cons (between first : List Char) (rest : List (List Char)) :
    between.intercalate (first :: rest) = first ++ rest.flatMap (between ++ ·) := by
  induction rest generalizing first with
  | nil => simp
  | cons next rest ih => rw [List.intercalate_cons_cons, ih, List.flatMap_cons, List.append_assoc, List.append_assoc]

theorem hexDigit?_digitChar {value : Nat} (hvalue : value < 16) :
    hexDigit? (Nat.digitChar value) = some value := by
  have hdigits : ∀ digit < 16, hexDigit? (Nat.digitChar digit) = some digit := by decide
  exact hdigits value hvalue

theorem hexDigit?_hexDigit (value : Nat) : hexDigit? (hexDigit value) = some (value % 16) :=
  hexDigit?_digitChar (Nat.mod_lt _ (by decide))

@[simp] theorem length_hexFixed (width value : Nat) : (hexFixed width value).length = width := by
  induction width generalizing value with
  | zero => rfl
  | succ width ih => rw [hexFixed, List.length_append, ih, List.length_singleton]

theorem readDigits_hexFixed (width total value : Nat) :
    readDigits 16 hexDigit? total (hexFixed width value)
      = some (16 ^ width * total + value % 16 ^ width) := by
  induction width generalizing value with
  | zero => simp [hexFixed, readDigits, Nat.mod_one]
  | succ width ih =>
      have hmod : value % 16 ^ (width + 1) = 16 * (value / 16 % 16 ^ width) + value % 16 := by
        rw [Nat.pow_succ', Nat.mod_mul]
        omega
      rw [hexFixed, readDigits_append, ih]
      simp only [Option.bind_some, readDigits, hexDigit?_hexDigit]
      rw [hmod, Nat.pow_succ']
      congr 1
      rw [Nat.mul_add, Nat.mul_assoc]
      omega

theorem hexDigits?_hexFixed {width value : Nat} (hwidth : 0 < width) (hvalue : value < 16 ^ width) :
    hexDigits? (hexFixed width value) = some value := by
  have hsome : hexFixed width value ≠ [] := by
    intro hnil
    have hlength := length_hexFixed width value
    rw [hnil, List.length_nil] at hlength
    omega
  rw [hexDigits?, List.isEmpty_eq_false_iff.2 hsome]
  rw [if_neg Bool.false_ne_true, readDigits_hexFixed, Nat.mul_zero, Nat.zero_add,
    Nat.mod_eq_of_lt hvalue]

/-! ### The order of texts -/

/-- Of two texts the fronts decide, where they are of one length and differ. -/
theorem append_lt_append_iff {front other rest last : List Char}
    (hlength : front.length = other.length) :
    front ++ rest < other ++ last ↔ front < other ∨ front = other ∧ rest < last := by
  induction front generalizing other with
  | nil =>
      rw [List.length_nil] at hlength
      rw [List.length_eq_zero_iff.1 hlength.symm]
      simp
  | cons char front ih =>
      cases other with
      | nil => cases hlength
      | cons char' other =>
          have hrest := ih (Nat.succ.inj hlength : front.length = other.length)
          rw [List.cons_append, List.cons_append, List.cons_lt_cons_iff, List.cons_lt_cons_iff,
            List.cons.injEq, hrest]
          grind

theorem hexDigit_lt_iff (left right : Nat) :
    hexDigit left < hexDigit right ↔ left % 16 < right % 16 := by
  have hdigits : ∀ first < 16, ∀ second < 16,
      Nat.digitChar first < Nat.digitChar second ↔ first < second := by decide
  exact hdigits _ (Nat.mod_lt _ (by decide)) _ (Nat.mod_lt _ (by decide))

theorem hexFixed_inj {width left right : Nat} (hleft : left < 16 ^ width)
    (hright : right < 16 ^ width) (hsame : hexFixed width left = hexFixed width right) :
    left = right := by
  have hread := readDigits_hexFixed width 0 left
  rw [hsame, readDigits_hexFixed, Nat.mod_eq_of_lt hleft, Nat.mod_eq_of_lt hright] at hread
  simpa using hread.symm

theorem hexFixed_lt_iff {width left right : Nat} (hleft : left < 16 ^ width)
    (hright : right < 16 ^ width) : hexFixed width left < hexFixed width right ↔ left < right := by
  induction width generalizing left right with
  | zero =>
      rw [Nat.pow_zero, Nat.lt_one_iff] at hleft hright
      simp [hexFixed, hleft, hright]
  | succ width ih =>
      have hfront : left / 16 < 16 ^ width := by
        rw [Nat.pow_succ] at hleft
        omega
      have hother : right / 16 < 16 ^ width := by
        rw [Nat.pow_succ] at hright
        omega
      have hsame : hexFixed width (left / 16) = hexFixed width (right / 16) ↔ left / 16 = right / 16 :=
        ⟨hexFixed_inj hfront hother, fun hequal => by rw [hequal]⟩
      rw [hexFixed, hexFixed, append_lt_append_iff (by simp), ih hfront hother, hsame,
        List.cons_lt_cons_iff, hexDigit_lt_iff]
      simp only [List.not_lt_nil, and_false, or_false]
      omega

/-! ### Decimal numerals -/

theorem toList_natText (value : Nat) : (natText value).toList = Nat.toDigits 10 value :=
  Nat.toList_repr

theorem isDigit_of_mem_natText {value : Nat} {char : Char} (hmem : char ∈ (natText value).toList) :
    char.isDigit = true := by
  rw [toList_natText] at hmem
  exact Nat.isDigit_of_mem_toDigits (by decide) (by decide) hmem

theorem natText_ne_nil (value : Nat) : (natText value).toList ≠ [] := by
  rw [toList_natText]
  exact Nat.toDigits_ne_nil

theorem digit?_digitChar {value : Nat} (hvalue : value < 10) : digit? (Nat.digitChar value) = some value := by
  have hdigits : ∀ digit < 10, digit? (Nat.digitChar digit) = some digit := by decide
  exact hdigits value hvalue

/-- A number is read from its digits in any base as it was written to them, the last digit at the end. -/
theorem readDigits_toDigits_of {base : Nat} {digit : Char → Option Nat} (hbase : 1 < base)
    (hdigit : ∀ value < base, digit (Nat.digitChar value) = some value) (value : Nat) :
    readDigits base digit 0 (Nat.toDigits base value) = some value := by
  induction value using Nat.strongRecOn with
  | ind value ih =>
      rw [Nat.toDigits_eq_if hbase]
      split
      · rename_i hsmall
        simp [readDigits, hdigit value hsmall]
      · rename_i hlarge
        have hfront := ih (value / base) (Nat.div_lt_self (by omega) hbase)
        have hlast : value % base < base := Nat.mod_lt _ (by omega)
        rw [readDigits_append, hfront]
        simp only [Option.bind_some, readDigits, hdigit _ hlast, Nat.div_add_mod]

theorem readDigits_toDigits (value : Nat) : readDigits 10 digit? 0 (Nat.toDigits 10 value) = some value :=
  readDigits_toDigits_of (by decide) (fun _ hvalue => digit?_digitChar hvalue) value

@[simp] theorem digits?_natText (value : Nat) : digits? (natText value).toList = some value := by
  rw [digits?, List.isEmpty_eq_false_iff.2 (natText_ne_nil value), if_neg Bool.false_ne_true, toList_natText,
    readDigits_toDigits]

theorem natText_injective {left right : Nat} (htext : natText left = natText right) : left = right := by
  have hdigits : digits? (natText left).toList = digits? (natText right).toList := by rw [htext]
  rw [digits?_natText, digits?_natText] at hdigits
  exact Option.some.inj hdigits

theorem not_mem_natText {mark : Char} (hdigit : mark.isDigit = false) (value : Nat) :
    mark ∉ (natText value).toList :=
  fun hmem => Bool.false_ne_true (hdigit.symm.trans (isDigit_of_mem_natText hmem))

theorem not_mem_padded {mark : Char} (hdigit : mark.isDigit = false) (width value : Nat) :
    mark ∉ (padded width value).toList := by
  have hzero : mark ≠ '0' := by
    rintro rfl
    exact absurd hdigit (by decide)
  rw [padded, String.toList_append, String.toList_ofList, List.mem_append, not_or]
  exact ⟨fun hmem => hzero (List.eq_of_mem_replicate hmem), not_mem_natText hdigit value⟩

theorem length_natText_le {value width : Nat} (hwidth : 0 < width) (hvalue : value < 10 ^ width) :
    (natText value).toList.length ≤ width := by
  rw [toList_natText]
  exact (Nat.length_toDigits_le_iff (by decide) hwidth).2 hvalue

theorem head?_natText (value : Nat) (hzero : (natText value).toList.head? = some '0') : value = 0 := by
  rw [toList_natText] at hzero
  induction value using Nat.strongRecOn with
  | ind value ih =>
      rw [Nat.toDigits_eq_if (by decide)] at hzero
      split at hzero
      · simpa using hzero
      · have hfront : (Nat.toDigits 10 (value / 10)).head? = some '0' := by
          rwa [List.head?_append_of_ne_nil _ Nat.toDigits_ne_nil] at hzero
        have hnone := ih (value / 10) (by omega) hfront
        omega

/-! ### Hexadecimal numerals -/

theorem toList_hexText (value : Nat) : (hexText value).toList = Nat.toDigits 16 value :=
  String.toList_ofList

theorem isSome_of_mem_hexText {value : Nat} {char : Char} (hmem : char ∈ (hexText value).toList) :
    (hexDigit? char).isSome = true := by
  rw [toList_hexText] at hmem
  induction value using Nat.strongRecOn with
  | ind value ih =>
      rw [Nat.toDigits_eq_if (by decide)] at hmem
      split at hmem
      · rename_i hsmall
        rw [List.mem_singleton.1 hmem, hexDigit?_digitChar hsmall]
        rfl
      · rcases List.mem_append.1 hmem with hfront | hlast
        · exact ih (value / 16) (by omega) hfront
        · rw [List.mem_singleton.1 hlast, hexDigit?_digitChar (Nat.mod_lt _ (by decide))]
          rfl

theorem hexText_ne_nil (value : Nat) : (hexText value).toList ≠ [] := by
  rw [toList_hexText]
  exact Nat.toDigits_ne_nil

@[simp] theorem hexDigits?_hexText (value : Nat) : hexDigits? (hexText value).toList = some value := by
  rw [hexDigits?, List.isEmpty_eq_false_iff.2 (hexText_ne_nil value), if_neg Bool.false_ne_true,
    toList_hexText]
  exact readDigits_toDigits_of (by decide) (fun _ hvalue => hexDigit?_digitChar hvalue) value

theorem length_hexText_le {value width : Nat} (hwidth : 0 < width) (hvalue : value < 16 ^ width) :
    (hexText value).toList.length ≤ width := by
  rw [toList_hexText]
  exact (Nat.length_toDigits_le_iff (by decide) hwidth).2 hvalue

end Text

end RouterPoll
