import Mathlib.Data.String.Basic
import RouterPoll.Net.Uuid
import RouterPoll.Proofs.Text.Numeral

/-!
# Identifiers: what is written is read

An identifier is read back from its written form, so no two identifiers are written alike. The hyphens stand at the same places in all of them, so the order of the written forms is that of the numbers.
-/

namespace RouterPoll

namespace Uuid

theorem length_hyphenate {digits : List Char} (hlength : digits.length = 32) :
    (hyphenate digits).length = 36 := by
  simp [hyphenate, hlength]

theorem groups_append (digits : List Char) :
    digits.take 8 ++ ((digits.drop 8).take 4 ++ ((digits.drop 12).take 4 ++ ((digits.drop 16).take 4
      ++ digits.drop 20))) = digits := by
  have hgroup (count : Nat) :
      (digits.drop count).take 4 ++ digits.drop (count + 4) = digits.drop count := by
    rw [← List.drop_drop, List.take_append_drop]
  rw [hgroup 16, hgroup 12, hgroup 8, List.take_append_drop]

theorem ofHyphenated?_hyphenate {digits : List Char} (hlength : digits.length = 32) :
    ofHyphenated? (hyphenate digits) = ofHexDigits? digits := by
  have hgroups := groups_append digits
  unfold ofHyphenated?
  simp [hyphenate, List.drop_append, List.drop_take, hlength, hgroups]

theorem parse?_text (id : Uuid) : parse? id.text = some id := by
  have hdigits : (Text.hexFixed 32 id.value.toNat).length = 32 := Text.length_hexFixed _ _
  have hvalue : id.value.toNat < 16 ^ 32 := id.value.isLt
  have hread : ofHexDigits? (Text.hexFixed 32 id.value.toNat) = some id := by
    rw [ofHexDigits?, hdigits, Text.hexDigits?_hexFixed (by decide) hvalue]
    simp
  unfold parse? text
  rw [String.toList_ofList]
  simp [chars, length_hyphenate hdigits, ofHyphenated?_hyphenate hdigits, hread]

theorem text_injective {left right : Uuid} (htext : left.text = right.text) : left = right := by
  have hparse : parse? left.text = parse? right.text := congrArg parse? htext
  rw [parse?_text, parse?_text] at hparse
  exact Option.some.inj hparse

/-! ### The order of identifiers -/

theorem toNat_inj {left right : Uuid} : left.value.toNat = right.value.toNat ↔ left = right := by
  obtain ⟨left⟩ := left
  obtain ⟨right⟩ := right
  rw [Uuid.mk.injEq]
  exact BitVec.toNat_inj

theorem hyphenate_lt_iff {left right : List Char} (hleft : left.length = 32)
    (hright : right.length = 32) : hyphenate left < hyphenate right ↔ left < right := by
  conv_rhs => rw [← groups_append left, ← groups_append right]
  unfold hyphenate
  have hgroup (skipped taken : Nat) :
      ((left.drop skipped).take taken).length = ((right.drop skipped).take taken).length := by
    rw [List.length_take, List.length_take, List.length_drop, List.length_drop, hleft, hright]
  have hfirst : (left.take 8).length = (right.take 8).length := hgroup 0 8
  simp only [Text.append_lt_append_iff hfirst, Text.append_lt_append_iff (hgroup _ _),
    List.cons_lt_cons_iff, Std.lt_irrefl, false_or, true_and]

theorem text_lt_iff {left right : Uuid} :
    left.text < right.text ↔ left.value.toNat < right.value.toNat := by
  rw [String.lt_iff_toList_lt, text, text, String.toList_ofList, String.toList_ofList, chars, chars,
    hyphenate_lt_iff (Text.length_hexFixed _ _) (Text.length_hexFixed _ _)]
  exact Text.hexFixed_lt_iff left.value.isLt right.value.isLt

theorem notAfter_eq_text_le (left right : Uuid) :
    left.notAfter right = decide (left.text ≤ right.text) := by
  rw [notAfter, decide_eq_decide, ← Nat.not_lt, ← text_lt_iff]
  exact not_lt

end Uuid

end RouterPoll
