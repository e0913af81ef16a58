import RouterPoll.Proofs.Text.Numeral
import RouterPoll.Text.Quoted

/-!
# Quoted text: what is written is read

A quoted text is read character by character up to the mark that closes it. Each character is read back from the way it is written, whatever follows, and none is written with a closing mark in front. So a quoted text tells what it quotes and where it ends.
-/

namespace RouterPoll

namespace Text

/-- The character that is written at the front of a quoted text, and what follows; none is before the closing mark. -/
def unquoteChar? : List Char → Option (Char × List Char)
  | [] => none
  | '"' :: _ => none
  | '\\' :: '"' :: rest => some ('"', rest)
  | '\\' :: '\\' :: rest => some ('\\', rest)
  | '\\' :: 'n' :: rest => some ('\n', rest)
  | '\\' :: 'r' :: rest => some ('\r', rest)
  | '\\' :: 't' :: rest => some ('\t', rest)
  | '\\' :: '0' :: rest => some ('\x00', rest)
  | '\\' :: 'u' :: '{' :: rest =>
    (hexDigits? (rest.takeWhile (· != '}'))).map fun code =>
      (Char.ofNat code, (rest.dropWhile (· != '}')).drop 1)
  | char :: rest => some (char, rest)

theorem unquoteChar?_spelled (char : Char) (rest : List Char) :
    unquoteChar? (spelled char ++ rest) = some (char, rest) := by
  have hdigits : ∀ digit ∈ (hexText char.toNat).toList, (digit != '}') = true := by
    intro digit hmem
    have hsome := isSome_of_mem_hexText hmem
    rw [bne_iff_ne]
    rintro rfl
    revert hsome
    decide
  have hspelled : spelled char ++ rest = '\\' :: 'u' :: '{' :: ((hexText char.toNat).toList ++ '}' :: rest) := by
    simp [spelled]
  rw [hspelled, unquoteChar?, List.takeWhile_append_of_pos hdigits, List.dropWhile_append_of_pos hdigits]
  simp

theorem unquoteChar?_plain {char : Char} (hmark : char ≠ '"') (hbackslash : char ≠ '\\') (rest : List Char) :
    unquoteChar? (char :: rest) = some (char, rest) := by
  rw [unquoteChar?] <;> simp [hmark, hbackslash]

theorem unquoteChar?_quoteChar (char : Char) (rest : List Char) :
    unquoteChar? (quoteChar char ++ rest) = some (char, rest) := by
  unfold quoteChar
  split
  · rfl
  · rfl
  · rfl
  · rfl
  · rfl
  · rfl
  · rename_i hmark hbackslash _ _ _ _
    split
    · exact unquoteChar?_spelled char rest
    · exact unquoteChar?_plain hmark hbackslash rest

/-- Two quoted texts that are equal up to their closing marks quote the same. -/
theorem flatMap_quoteChar_inj {left right rest other : List Char}
    (hsame : left.flatMap quoteChar ++ '"' :: rest = right.flatMap quoteChar ++ '"' :: other) :
    left = right ∧ rest = other := by
  induction left generalizing right with
  | nil =>
      cases right with
      | nil => exact ⟨rfl, List.tail_eq_of_cons_eq hsame⟩
      | cons char right =>
          have hread := congrArg unquoteChar? hsame
          rw [List.flatMap_cons, List.append_assoc, unquoteChar?_quoteChar] at hread
          cases hread
  | cons char left ih =>
      have hread := congrArg unquoteChar? hsame
      rw [List.flatMap_cons, List.append_assoc, unquoteChar?_quoteChar] at hread
      cases right with
      | nil => cases hread
      | cons next right =>
          rw [List.flatMap_cons, List.append_assoc, unquoteChar?_quoteChar] at hread
          simp only [Option.some.injEq, Prod.mk.injEq] at hread
          obtain ⟨rfl, hmore⟩ := hread
          obtain ⟨rfl, hrest⟩ := ih hmore
          exact ⟨rfl, hrest⟩

theorem quoted_append_inj {left right : String} {rest other : List Char}
    (hsame : (quoted left).toList ++ rest = (quoted right).toList ++ other) : left = right ∧ rest = other := by
  simp only [quoted, String.toList_ofList, List.cons_append, List.append_assoc, List.cons.injEq, true_and,
    List.nil_append] at hsame
  obtain ⟨htext, hrest⟩ := flatMap_quoteChar_inj hsame
  exact ⟨String.toList_injective htext, hrest⟩

end Text

end RouterPoll
