import Mathlib.Data.List.TakeWhile
import RouterPoll.Json.Parser
import RouterPoll.Proofs.Refusal
import RouterPoll.Proofs.Text.Numeral

/-!
# Texts and numbers read from their texts

A text is written one character at a time, and each way of writing a character is read as that character. What is read of a numeral does not depend on what follows it, as long as that does not go on with the numeral, so a number that is read from its text alone is read from it in front of anything a document puts behind a number. Whole numbers of 64 bits are read from their texts; of a double this is a property of its digits.
-/

namespace RouterPoll

namespace Json

namespace Parser

open Text (Mark)

def marked (chars : List Char) : List Mark := chars.map some

@[simp] theorem marked_nil : marked [] = [] := rfl

@[simp] theorem marked_cons (char : Char) (chars : List Char) :
    marked (char :: chars) = some char :: marked chars := rfl

@[simp] theorem marked_append (chars more : List Char) :
    marked (chars ++ more) = marked chars ++ marked more := List.map_append

/-! ### Texts -/

theorem unit?_hexFixed {value : Nat} (hvalue : value < 16 ^ 4) (rest : List Mark) :
    unit? (marked (Text.hexFixed 4 value) ++ rest) = .ok (value, rest) := by
  have hread := Text.hexDigits?_hexFixed (by decide) hvalue
  simp only [Text.hexFixed, List.nil_append, List.cons_append, marked_cons, marked_nil] at hread ⊢
  rw [unit?, hread]

theorem escaped_hexFixed {value : Nat} (hvalue : value < 0x20) (rest : List Mark) :
    escaped (some 'u' :: (marked (Text.hexFixed 4 value) ++ rest)) = .ok (.char (Char.ofNat value), 5) := by
  have hlow : isLow value = false := by
    rw [isLow, Bool.and_eq_false_iff, decide_eq_false_iff_not]
    omega
  have hhigh : isHigh value = false := by
    rw [isHigh, Bool.and_eq_false_iff, decide_eq_false_iff_not]
    omega
  rw [escaped, unit?_hexFixed (Nat.lt_trans hvalue (by decide))]
  show (if isLow value then _ else if isHigh value then _ else _) = _
  rw [hlow, hhigh]
  rfl

theorem scanText_escape (char : Char) (content : List Char) (rest : List Mark) :
    scanText 0 (.ok content) (marked (escape char) ++ rest) = scanText 0 (.ok (char :: content)) rest := by
  unfold escape
  split
  · rfl
  · rfl
  · rfl
  · rfl
  · rfl
  · rename_i hquote hslash _ _ _
    -- the escapes without a character literal of their own are told apart by number
    split
    · rename_i hback
      have hchar : char = Char.ofNat 0x08 := Char.toNat_inj.1 (beq_iff_eq.1 hback)
      subst hchar
      rfl
    · split
      · rename_i hfeed
        have hchar : char = Char.ofNat 0x0C := Char.toNat_inj.1 (beq_iff_eq.1 hfeed)
        subst hchar
        rfl
      · split
        · rename_i hcontrol
          show scanText 0 (.ok content) (some '\\' :: some 'u' :: (marked (Text.hexFixed 4 char.toNat) ++ rest)) = _
          rw [scanText, escaped_hexFixed hcontrol, Char.ofNat_toNat]
          rfl
        · rename_i hplain
          show scanText 0 (.ok content) (some char :: rest) = _
          rw [scanText.eq_5, if_neg hplain]
          · rfl
          · exact hquote
          · exact hslash

theorem scanText_written (chars content : List Char) (rest : List Mark) :
    scanText 0 (.ok content) (marked (chars.flatMap escape) ++ some '"' :: rest)
      = .closed (.ok (String.ofList (content.reverse ++ chars))) rest := by
  induction chars generalizing content with
  | nil =>
      rw [List.append_nil]
      rfl
  | cons char chars ih =>
      rw [List.flatMap_cons, marked_append, List.append_assoc, scanText_escape, ih, List.reverse_cons,
        List.append_assoc, List.singleton_append]

theorem marked_writeText (value : String) (rest : List Char) :
    marked (writeText value rest) = some '"' :: (marked (value.toList.flatMap escape) ++ some '"' :: marked rest) := by
  rw [writeText, marked_cons, marked_append, marked_cons]

theorem scanText_writeText (value : String) (rest : List Char) :
    scanText 0 (.ok []) (marked (value.toList.flatMap escape) ++ some '"' :: marked rest)
      = .closed (.ok value) (marked rest) := by
  rw [scanText_written, List.reverse_nil, List.nil_append, String.ofList_toList]

/-! ### Numbers -/

def continuesNumber : Mark → Bool
  | some char => char.isDigit || char == '.' || char == 'e' || char == 'E'
  | none => false

/-- Marks in front of which a numeral is at its end. -/
def EndsNumber (rest : List Mark) : Prop := ∀ mark ∈ rest.head?, continuesNumber mark = false

variable {marks rest left : List Mark} {digits : List Char}

theorem isDigit_of_endsNumber {mark : Mark} (hends : EndsNumber (mark :: rest)) : isDigit mark = false := by
  have hcontinues := hends mark rfl
  cases mark with
  | none => rfl
  | some char =>
      simp only [continuesNumber, Bool.or_eq_false_iff] at hcontinues
      exact hcontinues.1.1.1

theorem EndsNumber.spanDigits_append (hends : EndsNumber rest) (marks : List Mark) :
    spanDigits (marks ++ rest) = ((spanDigits marks).1, (spanDigits marks).2 ++ rest) := by
  have hsplit : (marks ++ rest).takeWhile isDigit = marks.takeWhile isDigit
      ∧ (marks ++ rest).dropWhile isDigit = marks.dropWhile isDigit ++ rest := by
    induction marks with
    | nil =>
        cases rest with
        | nil => exact ⟨rfl, rfl⟩
        | cons mark rest =>
            rw [List.nil_append, List.takeWhile_cons, List.dropWhile_cons, isDigit_of_endsNumber hends]
            exact ⟨rfl, rfl⟩
    | cons mark marks ih =>
        rw [List.cons_append, List.takeWhile_cons, List.takeWhile_cons, List.dropWhile_cons,
          List.dropWhile_cons, ih.1, ih.2]
        refine ⟨rfl, ?_⟩
        split <;> rfl
  rw [spanDigits, spanDigits, hsplit.1, hsplit.2]

theorem EndsNumber.someDigits_append (hends : EndsNumber rest)
    (hdigits : someDigits marks = .ok (digits, left)) :
    someDigits (marks ++ rest) = .ok (digits, left ++ rest) := by
  rw [someDigits] at hdigits ⊢
  rw [hends.spanDigits_append]
  cases hspan : spanDigits marks with
  | mk front back =>
      rw [hspan] at hdigits
      cases front with
      | nil => cases back <;> cases hdigits
      | cons digit front =>
          cases hdigits
          rfl

theorem EndsNumber.wholePart_append (hends : EndsNumber rest)
    (hdigits : wholePart marks = .ok (digits, left)) :
    wholePart (marks ++ rest) = .ok (digits, left ++ rest) := by
  obtain ⟨⟨front, back⟩, hsome, hwhole⟩ := bind_eq_ok.1 hdigits
  refine bind_eq_ok.2 ⟨(front, back ++ rest), hends.someDigits_append hsome, ?_⟩
  simp only at hwhole ⊢
  split at hwhole
  · cases hwhole
  · cases hwhole
    rfl

theorem EndsNumber.fractionPart_append (hends : EndsNumber rest) {fraction : Option (List Char)}
    (hfraction : fractionPart marks = .ok (fraction, left)) :
    fractionPart (marks ++ rest) = .ok (fraction, left ++ rest) := by
  unfold fractionPart at hfraction
  split at hfraction
  · rename_i more
    cases hsome : someDigits more with
    | error flaw =>
        rw [hsome] at hfraction
        cases hfraction
    | ok pair =>
        obtain ⟨digits, back⟩ := pair
        rw [hsome] at hfraction
        cases hfraction
        rw [List.cons_append, fractionPart, hends.someDigits_append hsome]
        rfl
  · rename_i hpoint
    cases hfraction
    cases marks with
    | nil =>
        unfold fractionPart
        split
        · rename_i more hrest
          rw [List.nil_append] at hrest
          have hcontinues := hends (some '.') (by rw [hrest]; rfl)
          cases hcontinues
        · rfl
    | cons mark marks =>
        unfold fractionPart
        split
        · rename_i more hrest
          cases hrest
          exact (hpoint marks rfl).elim
        · rfl

def signAt (marks : List Mark) : Bool × List Mark :=
  match marks with
  | some '-' :: rest => (true, rest)
  | some '+' :: rest => (false, rest)
  | _ => (false, marks)

theorem signAt_append (hmarks : marks ≠ []) (rest : List Mark) :
    signAt (marks ++ rest) = ((signAt marks).1, (signAt marks).2 ++ rest) := by
  cases marks with
  | nil => exact absurd rfl hmarks
  | cons mark marks =>
      unfold signAt
      split
      · rename_i hsign
        cases hsign
        rfl
      · rename_i hsign
        cases hsign
        rfl
      · rename_i hminus hplus
        split
        · rename_i hsign
          cases hsign
          exact (hminus _ rfl).elim
        · rename_i hsign
          cases hsign
          exact (hplus _ rfl).elim
        · rfl

theorem exponentPart_cons (letter : Char) (rest : List Mark) :
    exponentPart (some letter :: rest)
      = if letter == 'e' || letter == 'E' then do
          let (digits, left) ← someDigits (signAt rest).2
          let size : Int := (Text.digits? digits).getD 0
          .ok (some (if (signAt rest).1 then -size else size), left)
        else .ok (none, some letter :: rest) :=
  rfl

theorem EndsNumber.exponentPart_append (hends : EndsNumber rest) {exponent : Option Int}
    (hexponent : exponentPart marks = .ok (exponent, left)) :
    exponentPart (marks ++ rest) = .ok (exponent, left ++ rest) := by
  cases marks with
  | nil =>
      cases hexponent
      cases rest with
      | nil => rfl
      | cons mark rest =>
          cases mark with
          | none => rfl
          | some letter =>
              have hletter := hends (some letter) rfl
              simp only [continuesNumber, Bool.or_eq_false_iff] at hletter
              rw [List.nil_append, exponentPart_cons, hletter.1.2, hletter.2]
              rfl
  | cons mark marks =>
      cases mark with
      | none =>
          cases hexponent
          rfl
      | some letter =>
          rw [List.cons_append, exponentPart_cons]
          rw [exponentPart_cons] at hexponent
          split at hexponent
          · rename_i hletter
            obtain ⟨⟨digits, back⟩, hsome, hsize⟩ := bind_eq_ok.1 hexponent
            have hmarks : marks ≠ [] := by
              rintro rfl
              cases hsome
            cases hsize
            rw [if_pos hletter, signAt_append hmarks]
            refine bind_eq_ok.2 ⟨(digits, left ++ rest), hends.someDigits_append hsome, rfl⟩
          · rename_i hletter
            cases hexponent
            rw [if_neg hletter]
            rfl

def minusAt (marks : List Mark) : Bool × List Mark :=
  match marks with
  | some '-' :: rest => (true, rest)
  | _ => (false, marks)

theorem minusAt_append (hmarks : marks ≠ []) (rest : List Mark) :
    minusAt (marks ++ rest) = ((minusAt marks).1, (minusAt marks).2 ++ rest) := by
  cases marks with
  | nil => exact absurd rfl hmarks
  | cons mark marks =>
      unfold minusAt
      split
      · rename_i hsign
        cases hsign
        rfl
      · rename_i hminus
        split
        · rename_i hsign
          cases hsign
          exact (hminus _ rfl).elim
        · rfl

theorem readNumber_eq (marks : List Mark) :
    readNumber marks = do
      let (whole, rest) ← wholePart (minusAt marks).2
      let (fraction, rest) ← fractionPart rest
      let (exponent, rest) ← exponentPart rest
      return (numberNode (minusAt marks).1 whole fraction exponent, rest) :=
  rfl

variable {node : Node}

/-- What is read of a numeral does not depend on what follows it. -/
theorem EndsNumber.readNumber_append (hends : EndsNumber rest) (hread : readNumber marks = .ok (node, left)) :
    readNumber (marks ++ rest) = .ok (node, left ++ rest) := by
  have hmarks : marks ≠ [] := by
    rintro rfl
    cases hread
  rw [readNumber_eq] at hread
  obtain ⟨⟨whole, afterWhole⟩, hwhole, hread⟩ := bind_eq_ok.1 hread
  obtain ⟨⟨fraction, afterFraction⟩, hfraction, hread⟩ := bind_eq_ok.1 hread
  obtain ⟨⟨exponent, afterExponent⟩, hexponent, hread⟩ := bind_eq_ok.1 hread
  cases hread
  rw [readNumber_eq, minusAt_append hmarks]
  refine bind_eq_ok.2 ⟨(whole, afterWhole ++ rest), hends.wholePart_append hwhole, ?_⟩
  refine bind_eq_ok.2 ⟨(fraction, afterFraction ++ rest), hends.fractionPart_append hfraction, ?_⟩
  exact bind_eq_ok.2 ⟨(exponent, left ++ rest), hends.exponentPart_append hexponent, rfl⟩

/-- A numeral begins with a minus or with a digit. -/
theorem exists_of_readNumber (hread : readNumber marks = .ok (node, left)) :
    ∃ char more, marks = some char :: more ∧ (char == '-' || char.isDigit) = true := by
  rw [readNumber_eq] at hread
  obtain ⟨⟨whole, afterWhole⟩, hwhole, _⟩ := bind_eq_ok.1 hread
  obtain ⟨⟨digits, afterDigits⟩, hdigits, _⟩ := bind_eq_ok.1 hwhole
  cases marks with
  | nil => cases hdigits
  | cons mark more =>
      by_cases hminus : mark = some '-'
      · exact ⟨'-', more, by rw [hminus], rfl⟩
      · have hsame : minusAt (mark :: more) = (false, mark :: more) := by
          unfold minusAt
          split
          · rename_i hsign
            cases hsign
            exact absurd rfl hminus
          · rfl
        rw [hsame] at hdigits
        cases hdigit : isDigit mark with
        | false =>
            rw [someDigits, spanDigits, List.takeWhile_cons, List.dropWhile_cons, hdigit] at hdigits
            cases hdigits
        | true =>
            cases mark with
            | none => cases hdigit
            | some char => exact ⟨char, more, rfl, by rw [show char.isDigit = true from hdigit, Bool.or_true]⟩

/-! ### Whole numbers -/

theorem spanDigits_marked {chars : List Char} (hdigits : ∀ char ∈ chars, char.isDigit = true) :
    spanDigits (marked chars) = (chars, []) := by
  have hall : ∀ mark ∈ marked chars, isDigit mark = true := by
    intro mark hmem
    obtain ⟨char, hchar, rfl⟩ := List.mem_map.1 hmem
    exact hdigits char hchar
  have htake : (marked chars).takeWhile isDigit = marked chars := List.takeWhile_eq_self_iff.2 hall
  have hdrop : (marked chars).dropWhile isDigit = [] := List.dropWhile_eq_nil_iff.2 hall
  rw [spanDigits, htake, hdrop, marked, List.filterMap_map]
  simp

theorem wholePart_natText (value : Nat) :
    wholePart (marked (Text.natText value).toList) = .ok ((Text.natText value).toList, []) := by
  have hspan : spanDigits (marked (Text.natText value).toList) = ((Text.natText value).toList, []) :=
    spanDigits_marked fun char hmem => Text.isDigit_of_mem_natText hmem
  cases hchars : (Text.natText value).toList with
  | nil => exact absurd hchars (Text.natText_ne_nil value)
  | cons first chars =>
      rw [hchars] at hspan
      have hsome : someDigits (marked (first :: chars)) = .ok (first :: chars, []) := by
        rw [someDigits, hspan]
      refine bind_eq_ok.2 ⟨_, hsome, ?_⟩
      simp only
      split
      · rename_i hzero
        cases hzero
        have hvalue := Text.head?_natText value (by rw [hchars]; rfl)
        rw [hvalue] at hchars
        cases hchars
      · rfl

theorem readNumber_natText {value : Nat} (hvalue : value < Text.limit64) :
    readNumber (marked (Text.natText value).toList) = .ok (.number (.whole value), []) := by
  obtain ⟨first, chars, hchars⟩ := List.exists_cons_of_ne_nil (Text.natText_ne_nil value)
  have hmem : first ∈ (Text.natText value).toList := by
    rw [hchars]
    exact List.mem_cons_self
  have hfirst : first.isDigit = true := Text.isDigit_of_mem_natText hmem
  have hminus : minusAt (marked (Text.natText value).toList) = (false, marked (Text.natText value).toList) := by
    rw [hchars]
    unfold minusAt
    split
    · rename_i hsign
      cases hsign
      cases hfirst
    · rfl
  rw [readNumber_eq, hminus]
  refine bind_eq_ok.2 ⟨_, wholePart_natText value, ?_⟩
  show Except.ok (numberNode false (Text.natText value).toList none none, []) = _
  rw [numberNode, Text.digits?_natText]
  simp only [Option.getD_some, Bool.false_eq_true, if_false, if_pos hvalue]

theorem readNumber_negative {value : Nat} (hpos : 0 < value) (hvalue : value ≤ Text.signedLimit64) :
    readNumber (marked ('-' :: (Text.natText value).toList)) = .ok (.number (.whole (-(value : Int))), []) := by
  refine bind_eq_ok.2 ⟨_, wholePart_natText value, ?_⟩
  show Except.ok (numberNode true (Text.natText value).toList none none, []) = _
  rw [numberNode, Text.digits?_natText]
  have hfits : (decide (0 < value) && decide (value ≤ Text.signedLimit64)) = true := by simp [hpos, hvalue]
  simp only [Option.getD_some, if_pos, hfits]

end Parser

/-! ### Exact numbers -/

namespace Number

/-- Whether the text of a number is read as that number. -/
def isExact (number : Number) : Bool :=
  match Parser.readNumber (Parser.marked (writeNumber number [])) with
  | .ok (.number other, []) => other == number
  | _ => false

theorem isExact_iff {number : Number} :
    number.isExact = true ↔ Parser.readNumber (Parser.marked (writeNumber number [])) = .ok (.number number, []) := by
  rw [isExact]
  constructor
  · intro hexact
    split at hexact
    · rename_i hread
      rw [hread, beq_iff_eq.1 hexact]
    · cases hexact
  · intro hread
    rw [hread]
    exact beq_self_eq_true number

theorem isExact_whole {value : Int} (hlow : -Text.signedLimit64 ≤ value) (hhigh : value < Text.limit64) :
    (whole value).isExact = true := by
  rw [isExact_iff, writeNumber, List.append_nil]
  cases value with
  | ofNat value => exact Parser.readNumber_natText (by simpa using hhigh)
  | negSucc value =>
      have hsize : value + 1 ≤ Text.signedLimit64 := by omega
      rw [Text.intText, String.toList_append]
      exact Parser.readNumber_negative (Nat.succ_pos value) hsize

theorem write_append (number : Number) (rest : List Char) :
    writeNumber number rest = writeNumber number [] ++ rest := by
  cases number <;> rw [writeNumber, writeNumber, List.append_nil]

theorem readNumber_written {number : Number} (hexact : number.isExact = true) {rest : List Char}
    (hends : Parser.EndsNumber (Parser.marked rest)) :
    Parser.readNumber (Parser.marked (writeNumber number rest)) = .ok (.number number, Parser.marked rest) := by
  rw [write_append, Parser.marked_append]
  exact hends.readNumber_append (isExact_iff.1 hexact)

end Number

end Json

end RouterPoll
