import Mathlib.Data.Nat.Digits.Defs
import RouterPoll.Proofs.Text.Numeral
import RouterPoll.RouterOs.Uptime

/-!
# Which uptimes are read

An uptime is spelled as spans, each a number with its unit, and perhaps a clock at the end. The texts that are read are the ones that spell an uptime of which every number and the seconds in all fit a 64-bit word, and those seconds are what is read: no sum is cut short, and a check on the way fails only where the seconds in all do not fit. Reading never breaks off, since only digits and letters of one byte are ever cut off.
-/

namespace RouterPoll

namespace Text

/-! ### Numerals -/

/-- A numeral: decimal digits, at least one. -/
structure Numeral where
  digits : List (Fin 10)
  ne_nil : digits ≠ []

namespace Numeral

def chars (numeral : Numeral) : List Char := numeral.digits.map fun digit => Nat.digitChar digit.val

def value (numeral : Numeral) : Nat := Nat.ofDigits 10 (numeral.digits.reverse.map (·.val))

theorem chars_ne_nil (numeral : Numeral) : numeral.chars ≠ [] := mt List.map_eq_nil_iff.1 numeral.ne_nil

end Numeral

theorem digit?_digitChar_fin (digit : Fin 10) : digit? (Nat.digitChar digit.val) = some digit.val :=
  digit?_digitChar digit.isLt

theorem exists_digit {char : Char} (hdigit : (digit? char).isSome) :
    ∃ digit : Fin 10, Nat.digitChar digit.val = char := by
  have hbounds : '0' ≤ char ∧ char ≤ '9' := by
    rw [digit?] at hdigit
    split at hdigit
    · rename_i hboth
      simpa using hboth
    · cases hdigit
  have hlow : 48 ≤ char.toNat := hbounds.1
  have hhigh : char.toNat ≤ 57 := hbounds.2
  refine ⟨⟨char.toNat - 48, by omega⟩, Char.toNat_inj.1 ?_⟩
  rw [Nat.toNat_digitChar_of_lt_ten (by omega)]
  exact Nat.add_sub_of_le hlow

theorem exists_digits {chars : List Char} (hdigits : ∀ char ∈ chars, (digit? char).isSome) :
    ∃ digits : List (Fin 10), (digits.map fun digit => Nat.digitChar digit.val) = chars := by
  induction chars with
  | nil => exact ⟨[], rfl⟩
  | cons char chars ih =>
      obtain ⟨digit, hdigit⟩ := exists_digit (hdigits char List.mem_cons_self)
      obtain ⟨digits, hrest⟩ := ih fun other hmem => hdigits other (List.mem_cons_of_mem _ hmem)
      exact ⟨digit :: digits, by rw [List.map_cons, hdigit, hrest]⟩

theorem exists_numeral {chars : List Char} (hsome : chars ≠ []) (hdigits : ∀ char ∈ chars, (digit? char).isSome) :
    ∃ numeral : Numeral, numeral.chars = chars := by
  obtain ⟨digits, rfl⟩ := exists_digits hdigits
  exact ⟨⟨digits, mt List.map_eq_nil_iff.2 hsome⟩, rfl⟩

theorem Numeral.isSome_of_mem {numeral : Numeral} {char : Char} (hmem : char ∈ numeral.chars) :
    (digit? char).isSome := by
  obtain ⟨digit, -, rfl⟩ := List.mem_map.1 hmem
  rw [digit?_digitChar_fin, Option.isSome_some]

theorem Numeral.isSome_of_head? {numeral : Numeral} {rest : List Char} {char : Char}
    (hhead : (numeral.chars ++ rest).head? = some char) : (digit? char).isSome := by
  rw [List.head?_append_of_ne_nil _ numeral.chars_ne_nil] at hhead
  exact Numeral.isSome_of_mem (List.mem_of_head? hhead)

theorem isSome_of_readDigits {base total value : Nat} {digit : Char → Option Nat} {chars : List Char}
    (hread : readDigits base digit total chars = some value) : ∀ char ∈ chars, (digit char).isSome := by
  induction chars generalizing total with
  | nil => exact fun _ hmem => nomatch hmem
  | cons char chars ih =>
      rw [readDigits] at hread
      split at hread
      · rename_i found hfound
        intro other hmem
        rcases List.mem_cons.1 hmem with rfl | hrest
        · rw [hfound, Option.isSome_some]
        · exact ih hread other hrest
      · cases hread

theorem readDigits_digits (total : Nat) (digits : List (Fin 10)) :
    readDigits 10 digit? total (digits.map fun digit => Nat.digitChar digit.val)
      = some (10 ^ digits.length * total + Nat.ofDigits 10 (digits.reverse.map (·.val))) := by
  induction digits generalizing total with
  | nil => simp [readDigits]
  | cons digit digits ih =>
      rw [List.map_cons, readDigits, digit?_digitChar_fin]
      dsimp only
      rw [ih, List.reverse_cons, List.map_append, Nat.ofDigits_append, List.map_singleton, Nat.ofDigits_singleton,
        List.length_map, List.length_reverse, List.length_cons, Nat.pow_succ]
      congr 1
      ring

theorem digits?_chars (numeral : Numeral) : digits? numeral.chars = some numeral.value := by
  rw [digits?, List.isEmpty_eq_false_iff.2 numeral.chars_ne_nil, if_neg Bool.false_ne_true, Numeral.chars,
    readDigits_digits, Nat.mul_zero, Nat.zero_add, Numeral.value]

theorem exists_of_digits? {chars : List Char} {value : Nat} (hread : digits? chars = some value) :
    ∃ numeral : Numeral, numeral.chars = chars := by
  rw [digits?] at hread
  split at hread
  · cases hread
  · rename_i hsome
    exact exists_numeral (mt List.isEmpty_iff.2 hsome) (isSome_of_readDigits hread)

/-- A numeral with perhaps a plus sign in front of it. -/
structure Literal where
  plus : Bool
  numeral : Numeral

namespace Literal

def chars (literal : Literal) : List Char :=
  if literal.plus then '+' :: literal.numeral.chars else literal.numeral.chars

def value (literal : Literal) : Nat := literal.numeral.value

end Literal

theorem dropPlus_chars (numeral : Numeral) : dropPlus numeral.chars = numeral.chars := by
  unfold dropPlus
  split
  · rename_i rest hplus
    have hdigit : (digit? '+').isSome := Numeral.isSome_of_mem (hplus ▸ List.mem_cons_self)
    exact absurd hdigit (by decide)
  · rfl

theorem dropPlus_literal (literal : Literal) : dropPlus literal.chars = literal.numeral.chars := by
  rw [Literal.chars]
  split
  · rfl
  · exact dropPlus_chars literal.numeral

theorem exists_of_dropPlus {chars : List Char} {numeral : Numeral} (hnumeral : numeral.chars = dropPlus chars) :
    ∃ literal : Literal, literal.chars = chars := by
  unfold dropPlus at hnumeral
  split at hnumeral
  · exact ⟨⟨true, numeral⟩, congrArg ('+' :: ·) hnumeral⟩
  · exact ⟨⟨false, numeral⟩, hnumeral⟩

theorem exists_of_unsigned? {limit value : Nat} {chars : List Char} (hread : unsigned? limit chars = some value) :
    ∃ literal : Literal, literal.chars = chars := by
  rw [unsigned?, Option.filter_eq_some_iff] at hread
  obtain ⟨numeral, hnumeral⟩ := exists_of_digits? hread.1
  exact exists_of_dropPlus hnumeral

end Text

namespace RouterOs

open Text (Numeral Literal)

/-! ### Numbers and sums that fit -/

theorem number?_literal (literal : Literal) : number? literal.chars = word? literal.value := by
  rw [number?, Text.unsigned?, Text.dropPlus_literal, Text.digits?_chars, word?, Literal.value]
  simp [Option.filter]

theorem number?_numeral (numeral : Numeral) : number? numeral.chars = word? numeral.value :=
  number?_literal ⟨false, numeral⟩

theorem word?_of_lt {value : Nat} (hfits : value < Text.limit64) : word? value = some value := if_pos hfits

theorem word?_of_le {value : Nat} (hlarge : Text.limit64 ≤ value) : word? value = none := if_neg (Nat.not_lt.2 hlarge)

theorem word?_eq_some_iff {value seconds : Nat} :
    word? value = some seconds ↔ value < Text.limit64 ∧ value = seconds := by
  rw [word?, Option.ite_none_right_eq_some, Option.some_inj]

/-- Whether a part fits is settled by the whole. -/
theorem bind_word?_of_le {part whole : Nat} {rest : Nat → Option Nat} (hle : part ≤ whole)
    (hrest : rest part = word? whole) : (word? part).bind rest = word? whole := by
  rcases Nat.lt_or_ge part Text.limit64 with hfits | hlarge
  · rw [word?_of_lt hfits, Option.bind_some, hrest]
  · rw [word?_of_le hlarge, word?_of_le (hlarge.trans hle), Option.bind_none]

theorem addUnits?_eq (total count unit : Nat) : addUnits? total count unit = word? (total + count * unit) :=
  bind_word?_of_le (Nat.le_add_left _ _) rfl

/-! ### Uptimes as they are spelled -/

inductive TimeUnit
  | week
  | day
  | hour
  | minute
  | second
  | millisecond

namespace TimeUnit

def chars : TimeUnit → List Char
  | week => ['w']
  | day => ['d']
  | hour => ['h']
  | minute => ['m']
  | second => ['s']
  | millisecond => ['m', 's']

theorem chars_ne_nil (unit : TimeUnit) : unit.chars ≠ [] := by cases unit <;> exact List.cons_ne_nil _ _

/-- The whole seconds in a unit. -/
def seconds : TimeUnit → Nat
  | week => 7 * 24 * 3600
  | day => 24 * 3600
  | hour => 3600
  | minute => 60
  | second => 1
  | millisecond => 0

end TimeUnit

structure Span where
  count : Numeral
  unit : TimeUnit

def Span.chars (span : Span) : List Char := span.count.chars ++ span.unit.chars

def Span.seconds (span : Span) : Nat := span.count.value * span.unit.seconds

/-- Hours, minutes and seconds, of which only the hours need to be digits alone. -/
structure Clock where
  hours : Numeral
  minutes : Literal
  seconds : Literal

def Clock.chars (clock : Clock) : List Char :=
  clock.hours.chars ++ ':' :: (clock.minutes.chars ++ ':' :: clock.seconds.chars)

def Clock.numbers (clock : Clock) : List Nat := [clock.hours.value, clock.minutes.value, clock.seconds.value]

def Clock.total (clock : Clock) : Nat := clock.hours.value * 3600 + clock.minutes.value * 60 + clock.seconds.value

/-- Spans, and perhaps a clock after them. -/
structure Uptime where
  spans : List Span
  clock : Option Clock

namespace Uptime

def chars (uptime : Uptime) : List Char :=
  uptime.spans.flatMap Span.chars ++ (uptime.clock.map Clock.chars).getD []

def numbers (uptime : Uptime) : List Nat :=
  uptime.spans.map (·.count.value) ++ (uptime.clock.map Clock.numbers).getD []

/-- The seconds in all, as a sum that has no bound. -/
def seconds (uptime : Uptime) : Nat :=
  (uptime.spans.map Span.seconds).sum + (uptime.clock.map Clock.total).getD 0

/-- Every number and the seconds in all fit a 64-bit word. -/
structure Fits (uptime : Uptime) : Prop where
  number_lt : ∀ number ∈ uptime.numbers, number < Text.limit64
  seconds_lt : uptime.seconds < Text.limit64

end Uptime

theorem TimeUnit.unit?_eq_some_iff {char : Char} {seconds : Nat} : unit? char = some seconds
    ↔ ∃ unit : TimeUnit, unit.chars = [char] ∧ unit.seconds = seconds := by
  constructor
  · intro hunit
    unfold unit? at hunit
    split at hunit
    · exact ⟨.week, rfl, Option.some.inj hunit⟩
    · exact ⟨.day, rfl, Option.some.inj hunit⟩
    · exact ⟨.hour, rfl, Option.some.inj hunit⟩
    · exact ⟨.minute, rfl, Option.some.inj hunit⟩
    · exact ⟨.second, rfl, Option.some.inj hunit⟩
    · cases hunit
  · rintro ⟨unit, hchars, rfl⟩
    cases unit <;> cases hchars <;> rfl

/-! ### One step of reading -/

theorem isCut_succ {char : Char} (hbyte : char.utf8Size = 1) (count : Nat) (rest : List Char) :
    Text.isCut (count + 1) (char :: rest) = Text.isCut count rest := by
  simp [Text.isCut, hbyte]

theorem isCut_one {char : Char} (hbyte : char.utf8Size = 1) (rest : List Char) :
    Text.isCut 1 (char :: rest) = true := (isCut_succ hbyte 0 rest).trans (by rw [Text.isCut])

theorem utf8Size_of_digit? {char : Char} (hdigit : (Text.digit? char).isSome) : char.utf8Size = 1 := by
  obtain ⟨digit, rfl⟩ := Text.exists_digit hdigit
  have hall : ∀ digit : Fin 10, (Nat.digitChar digit.val).utf8Size = 1 := by decide
  exact hall digit

/-- What one character comes to, stated once for all the steps below. -/
theorem addUp_cons (total : Nat) (digits : List Char) (char : Char) (rest : List Char) :
    addUp total digits (char :: rest) =
      if (Text.digit? char).isSome then
        if Text.isCut 1 (char :: rest) then addUp total (digits ++ [char]) rest else none
      else if char == ':' then
        some ((clock? (digits ++ char :: rest)).bind fun seconds => word? (total + seconds))
      else
        match number? digits, char, rest with
        | none, _, _ => some none
        | some count, 'm', 's' :: rest =>
          match addUnits? total count 0 with
          | none => some none
          | some total => if Text.isCut 2 ('m' :: 's' :: rest) then addUp total [] rest else none
        | some count, char, rest =>
          match (unit? char).bind (addUnits? total count) with
          | none => some none
          | some total => if Text.isCut 1 (char :: rest) then addUp total [] rest else none :=
  addUp.eq_def total digits (char :: rest)

theorem addUp_digit {char : Char} (hdigit : (Text.digit? char).isSome) (total : Nat) (digits rest : List Char) :
    addUp total digits (char :: rest) = addUp total (digits ++ [char]) rest := by
  rw [addUp_cons, if_pos hdigit, if_pos (isCut_one (utf8Size_of_digit? hdigit) rest)]

theorem addUp_numeral (total : Nat) (numeral : Numeral) (rest : List Char) :
    addUp total [] (numeral.chars ++ rest) = addUp total numeral.chars rest := by
  have hrun (chars digits : List Char) (hdigits : ∀ char ∈ chars, (Text.digit? char).isSome) :
      addUp total digits (chars ++ rest) = addUp total (digits ++ chars) rest := by
    induction chars generalizing digits with
    | nil => rw [List.nil_append, List.append_nil]
    | cons char chars ih =>
        rw [List.cons_append, addUp_digit (hdigits char List.mem_cons_self),
          ih _ fun other hmem => hdigits other (List.mem_cons_of_mem _ hmem), List.append_assoc, List.singleton_append]
  exact hrun numeral.chars [] fun _ hmem => Numeral.isSome_of_mem hmem

theorem addUp_colon (total : Nat) (digits rest : List Char) : addUp total digits (':' :: rest)
    = some ((clock? (digits ++ ':' :: rest)).bind fun seconds => word? (total + seconds)) := by
  rw [addUp_cons, if_neg (by decide), if_pos (by decide)]

theorem addUp_letter {char : Char} {unit : Nat} (hunit : unit? char = some unit) {rest : List Char}
    (hminute : char = 'm' → rest.head? ≠ some 's') (total : Nat) (digits : List Char) :
    addUp total digits (char :: rest)
      = ((number? digits).bind (addUnits? total · unit)).elim (some none) (addUp · [] rest) := by
  obtain ⟨spelled, hchars, -⟩ := TimeUnit.unit?_eq_some_iff.1 hunit
  have hother : ¬(Text.digit? char).isSome ∧ char ≠ ':' ∧ char.utf8Size = 1 := by
    cases spelled <;> cases hchars <;> decide
  rw [addUp_cons, if_neg hother.1, if_neg (mt beq_iff_eq.1 hother.2.1)]
  split
  · rename_i hnumber
    rw [hnumber]
    rfl
  · exact absurd rfl (hminute rfl)
  · rename_i hnumber _
    rw [hnumber, Option.bind_some, hunit, Option.bind_some]
    split
    · rename_i hsum
      rw [hsum]
      rfl
    · rename_i hsum
      rw [hsum, if_pos (isCut_one hother.2.2 _)]
      rfl

theorem addUp_milliseconds (total : Nat) (digits rest : List Char) : addUp total digits ('m' :: 's' :: rest)
    = ((number? digits).bind (addUnits? total · 0)).elim (some none) (addUp · [] rest) := by
  have hcut : Text.isCut 2 ('m' :: 's' :: rest) = true :=
    (isCut_succ (by decide) 1 _).trans (isCut_one (by decide) rest)
  rw [addUp_cons, if_neg (by decide), if_neg (by decide)]
  split
  · rename_i hnumber
    rw [hnumber]
    rfl
  · rename_i hnumber _ hrest
    cases hrest
    rw [hnumber, Option.bind_some]
    split
    · rename_i hsum
      rw [hsum]
      rfl
    · rename_i hsum
      rw [hsum, if_pos hcut]
      rfl
  · rename_i hother
    exact (hother rest rfl rfl).elim

theorem addUp_unit {unit : TimeUnit} {rest : List Char} (hminute : unit = .minute → rest.head? ≠ some 's')
    (total : Nat) (digits : List Char) : addUp total digits (unit.chars ++ rest)
      = ((number? digits).bind (addUnits? total · unit.seconds)).elim (some none) (addUp · [] rest) := by
  cases unit with
  | millisecond => exact addUp_milliseconds total digits rest
  | minute => exact addUp_letter rfl (fun _ => hminute rfl) total digits
  | week => exact addUp_letter rfl (fun hletter => absurd hletter (by decide)) total digits
  | day => exact addUp_letter rfl (fun hletter => absurd hletter (by decide)) total digits
  | hour => exact addUp_letter rfl (fun hletter => absurd hletter (by decide)) total digits
  | second => exact addUp_letter rfl (fun hletter => absurd hletter (by decide)) total digits

theorem addUp_other {char : Char} (hdigit : ¬(Text.digit? char).isSome) (hcolon : char ≠ ':') (total : Nat)
    (digits rest : List Char) : addUp total digits (char :: rest) = some none
      ∨ ∃ (unit : TimeUnit) (more : List Char), unit.chars ++ more = char :: rest
        ∧ (unit = .minute → more.head? ≠ some 's') := by
  cases hunit : unit? char with
  | none =>
      left
      rw [addUp_cons, if_neg hdigit, if_neg (mt beq_iff_eq.1 hcolon)]
      split
      · rfl
      · cases hunit
      · rw [hunit]
        rfl
  | some seconds =>
      right
      obtain ⟨unit, hchars, -⟩ := TimeUnit.unit?_eq_some_iff.1 hunit
      by_cases hmilli : unit = .minute ∧ rest.head? = some 's'
      · obtain ⟨rfl, hhead⟩ := hmilli
        cases hchars
        obtain ⟨more, rfl⟩ := List.head?_eq_some_iff.1 hhead
        exact ⟨.millisecond, more, rfl, fun hminute => nomatch hminute⟩
      · exact ⟨unit, rest, by rw [hchars, List.singleton_append], fun hminute hhead => hmilli ⟨hminute, hhead⟩⟩

/-! ### What is spelled is read -/

theorem colon_notMem_numeral (numeral : Numeral) : ':' ∉ numeral.chars := fun hmem =>
  absurd (Numeral.isSome_of_mem hmem) (by decide)

theorem colon_notMem_literal (literal : Literal) : ':' ∉ literal.chars := by
  rw [Literal.chars]
  split
  · exact List.not_mem_cons_of_ne_of_not_mem (by decide) (colon_notMem_numeral literal.numeral)
  · exact colon_notMem_numeral literal.numeral

theorem splitOn_clock (clock : Clock) :
    clock.chars.splitOn ':' = [clock.hours.chars, clock.minutes.chars, clock.seconds.chars] := by
  have hparts : [':'].intercalate [clock.hours.chars, clock.minutes.chars, clock.seconds.chars] = clock.chars := by
    simp [List.intercalate, Clock.chars]
  rw [← hparts]
  refine List.splitOn_intercalate ':' ?_ (List.cons_ne_nil _ _)
  simp only [List.forall_mem_cons, List.not_mem_nil, false_implies, implies_true, and_true]
  exact ⟨colon_notMem_numeral _, colon_notMem_literal _, colon_notMem_literal _⟩

theorem Clock.number_le {clock : Clock} {number : Nat} (hmem : number ∈ clock.numbers) : number ≤ clock.total := by
  simp only [numbers, List.mem_cons, List.not_mem_nil, or_false] at hmem
  rw [total]
  omega

theorem clock?_chars (clock : Clock) : clock? clock.chars = word? clock.total := by
  have hread : clock? clock.chars = (number? clock.hours.chars).bind fun hours =>
      (number? clock.minutes.chars).bind fun minutes => (number? clock.seconds.chars).bind fun seconds =>
        (word? (hours * 3600)).bind fun front => (word? (minutes * 60)).bind fun middle =>
          (word? (front + middle)).bind fun sum => word? (sum + seconds) := by
    rw [clock?, splitOn_clock, List.mapM_cons, List.mapM_cons, List.mapM_cons, List.mapM_nil]
    cases number? clock.hours.chars <;> cases number? clock.minutes.chars <;>
      cases number? clock.seconds.chars <;> rfl
  rw [hread, number?_numeral, number?_literal, number?_literal, Clock.total]
  -- Each of the six checks is on a part of the sum, so it fails only where the check on the sum does.
  exact bind_word?_of_le (by omega) <| bind_word?_of_le (by omega) <| bind_word?_of_le (by omega) <|
    bind_word?_of_le (by omega) <| bind_word?_of_le (by omega) <| bind_word?_of_le (by omega) rfl

namespace Uptime

theorem chars_cons (span : Span) (spans : List Span) (clock : Option Clock) :
    chars ⟨span :: spans, clock⟩ = span.count.chars ++ (span.unit.chars ++ chars ⟨spans, clock⟩) := by
  rw [chars, List.flatMap_cons, List.append_assoc, Span.chars, List.append_assoc]
  rfl

theorem seconds_cons (span : Span) (spans : List Span) (clock : Option Clock) :
    seconds ⟨span :: spans, clock⟩ = span.seconds + seconds ⟨spans, clock⟩ := by
  rw [seconds, List.map_cons, List.sum_cons, Nat.add_assoc]
  rfl

theorem isSome_of_head? {uptime : Uptime} {char : Char} (hhead : uptime.chars.head? = some char) :
    (Text.digit? char).isSome := by
  obtain ⟨_ | ⟨span, spans⟩, _ | clock⟩ := uptime
  · cases hhead
  · exact Numeral.isSome_of_head? hhead
  · rw [chars_cons] at hhead
    exact Numeral.isSome_of_head? hhead
  · rw [chars_cons] at hhead
    exact Numeral.isSome_of_head? hhead

end Uptime

theorem addUp_clock (clock : Clock) (total : Nat) : addUp total [] clock.chars = some (word? (total + clock.total)) := by
  rw [Clock.chars, addUp_numeral, addUp_colon]
  show some ((clock? clock.chars).bind _) = _
  rw [clock?_chars, bind_word?_of_le (Nat.le_add_left _ _) rfl]

theorem addUp_span (span : Span) {rest : List Char} (hrest : rest.head? ≠ some 's') (total : Nat) :
    addUp total [] (span.count.chars ++ (span.unit.chars ++ rest))
      = ((word? span.count.value).bind fun _ => word? (total + span.seconds)).elim (some none) (addUp · [] rest) := by
  rw [addUp_numeral, addUp_unit fun _ => hrest, number?_numeral]
  rcases Nat.lt_or_ge span.count.value Text.limit64 with hfits | hlarge
  · rw [word?_of_lt hfits, Option.bind_some, Option.bind_some, addUnits?_eq]
    rfl
  · rw [word?_of_le hlarge, Option.bind_none, Option.bind_none]

/-- Reading what spells an uptime gives its seconds, if every number and the sum so far fit. -/
theorem addUp_chars_iff (uptime : Uptime) {total : Nat} (htotal : total < Text.limit64) {seconds : Nat} :
    addUp total [] uptime.chars = some (some seconds) ↔ (∀ number ∈ uptime.numbers, number < Text.limit64)
      ∧ total + uptime.seconds < Text.limit64 ∧ total + uptime.seconds = seconds := by
  obtain ⟨spans, clock⟩ := uptime
  induction spans generalizing total with
  | nil =>
      cases clock with
      | none =>
          show addUp total [] [] = _ ↔ _
          simp [addUp, Uptime.numbers, Uptime.seconds, htotal]
      | some clock =>
          show addUp total [] clock.chars = _ ↔ (∀ number ∈ clock.numbers, _) ∧ total + (0 + clock.total) < _
            ∧ total + (0 + clock.total) = _
          rw [addUp_clock, Option.some_inj, word?_eq_some_iff, Nat.zero_add]
          constructor
          · exact fun hsum => ⟨fun number hmem =>
              (Clock.number_le hmem).trans_lt ((Nat.le_add_left _ _).trans_lt hsum.1), hsum⟩
          · exact And.right
  | cons span spans ih =>
      have hrest : (Uptime.chars ⟨spans, clock⟩).head? ≠ some 's' := fun hhead =>
        absurd (Uptime.isSome_of_head? hhead) (by decide)
      have hnumbers : (∀ number ∈ Uptime.numbers ⟨span :: spans, clock⟩, number < Text.limit64)
          ↔ span.count.value < Text.limit64 ∧ ∀ number ∈ Uptime.numbers ⟨spans, clock⟩, number < Text.limit64 :=
        List.forall_mem_cons
      rw [Uptime.chars_cons, addUp_span span hrest, hnumbers, Uptime.seconds_cons, ← Nat.add_assoc]
      rcases Nat.lt_or_ge span.count.value Text.limit64 with hnumber | hlarge
      · rw [word?_of_lt hnumber, Option.bind_some]
        rcases Nat.lt_or_ge (total + span.seconds) Text.limit64 with hsum | hlarge
        · rw [word?_of_lt hsum, Option.elim_some, ih hsum, and_iff_right hnumber]
        · rw [word?_of_le hlarge, Option.elim_none]
          simp only [Option.some_inj, reduceCtorEq, false_iff]
          omega
      · rw [word?_of_le hlarge, Option.bind_none, Option.elim_none]
        simp only [Option.some_inj, reduceCtorEq, false_iff]
        omega

/-! ### What is read is spelled -/

theorem forall₂_of_mapM {α β : Type} {read : α → Option β} {items : List α} {values : List β}
    (hread : items.mapM read = some values) : List.Forall₂ (fun item value => read item = some value) items values := by
  induction items generalizing values with
  | nil =>
      rw [List.mapM_nil] at hread
      cases hread
      exact .nil
  | cons item items ih =>
      rw [List.mapM_cons] at hread
      obtain ⟨value, hvalue, hread⟩ := Option.bind_eq_some_iff.1 hread
      obtain ⟨rest, hrest, hread⟩ := Option.bind_eq_some_iff.1 hread
      cases hread
      exact .cons hvalue (ih hrest)

theorem splitOn_digits {digits : List Char} (hdigits : ∀ char ∈ digits, (Text.digit? char).isSome) (rest : List Char) :
    (digits ++ ':' :: rest).splitOn ':' = digits :: rest.splitOn ':' := by
  have hcolon : ∀ char ∈ digits, (char == ':') = false := by
    intro char hmem
    refine beq_eq_false_iff_ne.2 ?_
    rintro rfl
    exact absurd (hdigits _ hmem) (by decide)
  rw [List.splitOn_eq_splitOnP, List.splitOn_eq_splitOnP]
  exact List.splitOnP_append_cons_of_forall_mem hcolon ':' (beq_self_eq_true _) rest

theorem exists_numeral_of_number? {digits : List Char} {value : Nat}
    (hdigits : ∀ char ∈ digits, (Text.digit? char).isSome) (hnumber : number? digits = some value) :
    ∃ numeral : Numeral, numeral.chars = digits := by
  refine Text.exists_numeral ?_ hdigits
  rintro rfl
  cases hnumber

theorem exists_clock {digits rest : List Char} {seconds : Nat} (hdigits : ∀ char ∈ digits, (Text.digit? char).isSome)
    (hclock : clock? (digits ++ ':' :: rest) = some seconds) :
    ∃ clock : Clock, clock.chars = digits ++ ':' :: rest := by
  rw [clock?, splitOn_digits hdigits] at hclock
  split at hclock
  · rename_i hread
    have hparts := forall₂_of_mapM hread
    generalize hsplit : rest.splitOn ':' = parts at hparts
    obtain - | ⟨hhours, - | ⟨hminutes, - | ⟨hseconds, - | -⟩⟩⟩ := hparts
    obtain ⟨hours, rfl⟩ := exists_numeral_of_number? hdigits hhours
    obtain ⟨minutes, rfl⟩ := Text.exists_of_unsigned? hminutes
    obtain ⟨seconds, rfl⟩ := Text.exists_of_unsigned? hseconds
    have hrest : rest = minutes.chars ++ ':' :: seconds.chars := by
      have hjoined : [':'].intercalate (rest.splitOn ':') = rest := List.intercalate_splitOn ':'
      rw [← hjoined, hsplit]
      simp [List.intercalate]
    exact ⟨⟨hours, minutes, seconds⟩, by rw [Clock.chars, hrest]⟩
  · cases hclock

/-- A number and a unit in front of an uptime spell another one. -/
theorem exists_longer {digits : List Char} {count : Nat} (hdigits : ∀ char ∈ digits, (Text.digit? char).isSome)
    (hcount : number? digits = some count) (unit : TimeUnit) (uptime : Uptime) :
    ∃ longer : Uptime, longer.chars = digits ++ (unit.chars ++ uptime.chars) := by
  obtain ⟨numeral, rfl⟩ := exists_numeral_of_number? hdigits hcount
  exact ⟨⟨⟨numeral, unit⟩ :: uptime.spans, uptime.clock⟩, Uptime.chars_cons ⟨numeral, unit⟩ uptime.spans uptime.clock⟩

/-- Reading never breaks off, and where it gives seconds, what was read spells an uptime; `digits` are those read since the last unit. -/
theorem exists_of_addUp (chars : List Char) {digits : List Char}
    (hdigits : ∀ char ∈ digits, (Text.digit? char).isSome) (total : Nat) :
    ∃ answer, addUp total digits chars = some answer
      ∧ ∀ seconds ∈ answer, ∃ uptime : Uptime, uptime.chars = digits ++ chars := by
  induction hlength : chars.length using Nat.strongRecOn generalizing chars digits total with
  | ind length ih =>
      subst hlength
      cases chars with
      | nil =>
          refine ⟨_, addUp.eq_1 total digits, fun seconds hseconds => ?_⟩
          split at hseconds
          · rename_i hnone
            exact ⟨⟨[], none⟩, (List.append_nil digits ▸ (List.isEmpty_iff.1 hnone).symm :)⟩
          · cases hseconds
      | cons char rest =>
          by_cases hdigit : (Text.digit? char).isSome
          · have hmore : ∀ other ∈ digits ++ [char], (Text.digit? other).isSome := by
              intro other hmem
              rcases List.mem_append.1 hmem with hfront | hlast
              · exact hdigits other hfront
              · exact List.mem_singleton.1 hlast ▸ hdigit
            rw [addUp_digit hdigit]
            have hread := ih _ (Nat.lt_succ_self _) rest hmore total rfl
            rwa [List.append_assoc] at hread
          · by_cases hcolon : char = ':'
            · subst hcolon
              refine ⟨_, addUp_colon total digits rest, fun seconds hseconds => ?_⟩
              obtain ⟨sum, hclock, -⟩ := Option.bind_eq_some_iff.1 hseconds
              obtain ⟨clock, hchars⟩ := exists_clock hdigits hclock
              exact ⟨⟨[], some clock⟩, hchars⟩
            · obtain hrefused | ⟨unit, more, hchars, hminute⟩ := addUp_other hdigit hcolon total digits rest
              · exact ⟨none, hrefused, fun _ hmem => nomatch hmem⟩
              · rw [← hchars, addUp_unit hminute]
                cases hsum : (number? digits).bind (addUnits? total · unit.seconds) with
                | none => exact ⟨none, rfl, fun _ hmem => nomatch hmem⟩
                | some sum =>
                    have hlonger : more.length < (char :: rest).length := by
                      rw [← hchars, List.length_append]
                      exact Nat.lt_add_of_pos_left (List.length_pos_iff.2 unit.chars_ne_nil)
                    obtain ⟨answer, hanswer, hmore⟩ :=
                      ih _ hlonger more (fun _ hmem => nomatch hmem : ∀ char ∈ [], _) sum rfl
                    refine ⟨answer, hanswer, fun seconds hseconds => ?_⟩
                    obtain ⟨count, hcount, -⟩ := Option.bind_eq_some_iff.1 hsum
                    obtain ⟨uptime, rfl⟩ := hmore seconds hseconds
                    exact exists_longer hdigits hcount unit uptime

/-- Reading never breaks off. What it reads is the seconds of the uptime that is spelled between the blanks around a text, and it reads nothing where none is spelled, or one of which a number or the seconds in all do not fit. -/
theorem uptime?_eq_some_iff (text : String) : (readUptime text).isSome ∧ ∀ seconds, uptime? text = some seconds
    ↔ ∃ uptime : Uptime, uptime.chars = Text.trimBlank text.toList ∧ uptime.chars ≠ [] ∧ uptime.Fits
      ∧ uptime.seconds = seconds := by
  obtain ⟨answer, hanswer, hspelled⟩ :=
    exists_of_addUp (Text.trimBlank text.toList) (fun _ hmem => nomatch hmem : ∀ char ∈ [], _) 0
  have hread (uptime : Uptime) (seconds : Nat) : addUp 0 [] uptime.chars = some (some seconds)
      ↔ uptime.Fits ∧ uptime.seconds = seconds := by
    rw [addUp_chars_iff uptime (by decide), Nat.zero_add, ← and_assoc]
    exact and_congr_left fun _ => ⟨fun hfits => ⟨hfits.1, hfits.2⟩, fun hfits => ⟨hfits.1, hfits.2⟩⟩
  rw [uptime?, readUptime]
  generalize Text.trimBlank text.toList = chars at hanswer hspelled
  by_cases hnil : chars = []
  · subst hnil
    refine ⟨rfl, fun seconds => ⟨fun hnone => ?_, ?_⟩⟩
    · cases hnone
    · rintro ⟨uptime, hchars, hsome, -⟩
      exact absurd hchars hsome
  · simp only [List.isEmpty_eq_false_iff.2 hnil, Bool.false_eq_true, if_false, hanswer]
    refine ⟨rfl, fun seconds => ⟨?_, ?_⟩⟩
    · rintro (rfl : answer = some seconds)
      obtain ⟨uptime, rfl⟩ := hspelled seconds rfl
      exact ⟨uptime, rfl, hnil, (hread uptime seconds).1 hanswer⟩
    · rintro ⟨uptime, rfl, -, hfits⟩
      exact Option.some.inj (hanswer.symm.trans ((hread uptime seconds).2 hfits))

end RouterOs

end RouterPoll
