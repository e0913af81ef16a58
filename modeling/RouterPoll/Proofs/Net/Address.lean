import Mathlib.Algebra.Order.Group.Nat
import Mathlib.Data.List.TakeWhile
import RouterPoll.Net.Address
import RouterPoll.Proofs.Text.Numeral

/-!
# Addresses: what is written is read

Every address is read back from its text. Octets and groups are read from the front of what is left, so each is read back in front of anything that does not go on with it: a point, a colon, or the end. Groups with a gap are read in two parts, and the gap has the length of the zeros that were left out, because eight groups are missing no others. Only the text of an address with an embedded one of version 4 has points in it, so nowhere else are groups taken for octets.
-/

namespace RouterPoll

namespace Address

theorem takeWhile_eq_nil {p : Char → Bool} {chars : List Char} (hhead : ∀ char ∈ chars.head?, p char = false) :
    chars.takeWhile p = [] := by
  cases chars with
  | nil => rfl
  | cons char chars => rw [List.takeWhile_cons, hhead char rfl, if_neg Bool.false_ne_true]

/-- A run of characters is read to its end in front of anything that does not go on with it. -/
theorem takeWhile_run {p : Char → Bool} {run rest : List Char} (hrun : ∀ char ∈ run, p char = true)
    (hrest : ∀ char ∈ rest.head?, p char = false) : (run ++ rest).takeWhile p = run := by
  rw [List.takeWhile_append_of_pos hrun, takeWhile_eq_nil hrest, List.append_nil]

/-! ### Octets -/

theorem octet?_natText {value : Nat} {rest : List Char} (hvalue : value < 256)
    (hrest : ∀ char ∈ rest.head?, char.isDigit = false) :
    octet? ((Text.natText value).toList ++ rest) = some (value, rest) := by
  have hrun : ((Text.natText value).toList ++ rest).takeWhile Char.isDigit = (Text.natText value).toList :=
    takeWhile_run (fun _ hmem => Text.isDigit_of_mem_natText hmem) hrest
  have hlength : (Text.natText value).toList.length ≤ 3 :=
    Text.length_natText_le (by decide) (by omega)
  have hzero : (1 < (Text.natText value).toList.length
      && (Text.natText value).toList.head? == some '0') = false := by
    rw [Bool.and_eq_false_iff, beq_eq_false_iff_ne, decide_eq_false_iff_not]
    by_cases hhead : (Text.natText value).toList.head? = some '0'
    · rw [Text.head?_natText value hhead]
      exact .inl (by decide)
    · exact .inr hhead
  unfold octet?
  rw [hrun]
  simp only [Text.digits?_natText, hzero, Bool.or_false]
  rw [if_neg (by simp; omega), List.drop_left]

theorem octet?_eq_none {chars : List Char} (hhead : ∀ char ∈ chars.head?, char.isDigit = false) :
    octet? chars = none := by
  unfold octet?
  rw [takeWhile_eq_nil hhead]
  rfl

theorem octets?_eq_none {chars : List Char} (hhead : ∀ char ∈ chars.head?, char.isDigit = false) :
    octets? chars = none := by
  unfold octets?
  rw [octet?_eq_none hhead]
  rfl

/-- What is read as octets has a point behind the first one. -/
theorem octets?_eq_none_of_not_mem {chars : List Char} (hpoint : '.' ∉ chars) : octets? chars = none := by
  unfold octets?
  cases hfirst : octet? chars with
  | none => rfl
  | some found =>
      obtain ⟨first, rest⟩ := found
      have hdrop : rest = chars.drop (chars.takeWhile Char.isDigit).length := by
        unfold octet? at hfirst
        simp only at hfirst
        split at hfirst
        · cases hfirst
        · split at hfirst
          · cases hfirst
          · cases hfirst
            rfl
      have hexpect : expect '.' rest = none := by
        cases rest with
        | nil => rfl
        | cons char rest =>
            have hmem : char ∈ chars := List.mem_of_mem_drop (hdrop ▸ List.mem_cons_self)
            have hne : char ≠ '.' := fun hsame => hpoint (hsame ▸ hmem)
            simp [expect, hne]
      show (expect '.' rest).bind _ = none
      rw [hexpect]
      rfl

theorem toList_octetsText (a b c d : Nat) : (octetsText [a, b, c, d]).toList
    = (Text.natText a).toList ++ '.' :: ((Text.natText b).toList ++ '.' :: ((Text.natText c).toList
      ++ '.' :: (Text.natText d).toList)) := by
  rw [octetsText, String.toList_intercalate]
  simp [List.intercalate_cons_cons]

theorem octets?_octetsText {a b c d : Nat} (ha : a < 256) (hb : b < 256) (hc : c < 256) (hd : d < 256) :
    octets? (octetsText [a, b, c, d]).toList = some ((a, b, c, d), []) := by
  have hpoint (more : List Char) : ∀ char ∈ ('.' :: more).head?, char.isDigit = false := by
    intro char hchar
    cases hchar
    rfl
  have hlast : octet? ((Text.natText d).toList ++ []) = some (d, []) := octet?_natText hd (by simp)
  rw [List.append_nil] at hlast
  rw [toList_octetsText]
  simp [octets?, octet?_natText ha (hpoint _), octet?_natText hb (hpoint _),
    octet?_natText hc (hpoint _), hlast, expect]

/-! ### Groups -/

/-- What may stand behind a group: nothing, or a colon. -/
def EndsGroup (rest : List Char) : Prop := ∀ char ∈ rest.head?, char = ':'

theorem endsGroup_colon (rest : List Char) : EndsGroup (':' :: rest) := by
  intro char hchar
  exact (Option.some.inj hchar).symm

theorem EndsGroup.isNone_hexDigit? {rest : List Char} (hends : EndsGroup rest) :
    ∀ char ∈ rest.head?, (Text.hexDigit? char).isSome = false := by
  intro char hchar
  rw [hends char hchar]
  decide

theorem group?_hexText {group : Nat} {rest : List Char} (hgroup : group < 65536) (hends : EndsGroup rest) :
    group? ((Text.hexText group).toList ++ rest) = some (group, rest) := by
  have hrun : ((Text.hexText group).toList ++ rest).takeWhile (fun char => (Text.hexDigit? char).isSome)
      = (Text.hexText group).toList :=
    takeWhile_run (fun _ hmem => Text.isSome_of_mem_hexText hmem) hends.isNone_hexDigit?
  have hlength : (Text.hexText group).toList.length ≤ 4 := Text.length_hexText_le (by decide) hgroup
  unfold group?
  rw [hrun]
  simp only [Text.hexDigits?_hexText]
  rw [if_neg (not_lt.2 hlength), List.drop_left]

theorem group?_eq_none {chars : List Char} (hends : EndsGroup chars) : group? chars = none := by
  unfold group?
  rw [takeWhile_eq_nil hends.isNone_hexDigit?]
  rfl

def colonGroups (groups : List Nat) : List Char :=
  groups.flatMap fun group => ':' :: (Text.hexText group).toList

theorem toList_groupsText (group : Nat) (groups : List Nat) :
    (groupsText (group :: groups)).toList = (Text.hexText group).toList ++ colonGroups groups := by
  rw [groupsText, String.toList_intercalate, List.map_cons, List.map_cons, Text.intercalate_cons, List.map_map,
    List.flatMap_map]
  rfl

theorem endsGroup_colonGroups (groups : List Nat) {rest : List Char} (hends : EndsGroup rest) :
    EndsGroup (colonGroups groups ++ rest) := by
  cases groups with
  | nil => exact hends
  | cons group groups => exact endsGroup_colon _

theorem not_mem_hexText {mark : Char} (hdigit : Text.hexDigit? mark = none) (group : Nat) :
    mark ∉ (Text.hexText group).toList := by
  intro hmem
  have hsome := Text.isSome_of_mem_hexText hmem
  rw [hdigit] at hsome
  cases hsome

theorem not_mem_colonGroups {mark : Char} (hdigit : Text.hexDigit? mark = none) (hcolon : mark ≠ ':')
    (groups : List Nat) : mark ∉ colonGroups groups := by
  rw [colonGroups, List.mem_flatMap]
  rintro ⟨group, _, hmem⟩
  rcases List.mem_cons.1 hmem with hhead | htail
  · exact hcolon hhead
  · exact not_mem_hexText hdigit group htail

theorem not_mem_groupsText {mark : Char} (hdigit : Text.hexDigit? mark = none) (hcolon : mark ≠ ':')
    (groups : List Nat) : mark ∉ (groupsText groups).toList := by
  cases groups with
  | nil => exact List.not_mem_nil
  | cons group groups =>
      rw [toList_groupsText, List.mem_append, not_or]
      exact ⟨not_mem_hexText hdigit group, not_mem_colonGroups hdigit hcolon groups⟩

/-- What stands behind the last group: nothing, or a gap, with no points in it. -/
structure EndsGroups (rest : List Char) : Prop where
  noPoint : '.' ∉ rest
  gap : rest = [] ∨ ∃ more, rest = ':' :: ':' :: more

theorem endsGroups_nil : EndsGroups [] := ⟨List.not_mem_nil, .inl rfl⟩

theorem EndsGroups.endsGroup {rest : List Char} (hends : EndsGroups rest) : EndsGroup rest := by
  rcases hends.gap with rfl | ⟨more, rfl⟩
  · intro char hchar
    cases hchar
  · exact endsGroup_colon _

variable {groups : List Nat} {rest : List Char} {room : Nat}

theorem readGroups_group {group : Nat} {chars inner : List Char} {isFirst : Bool}
    (hinner : (if isFirst then some chars else expect ':' chars) = some inner) (hpoint : '.' ∉ inner)
    (hgroup : group? inner = some (group, rest)) :
    readGroups (room + 1) isFirst chars
      = (group :: (readGroups room false rest).1, (readGroups room false rest).2) := by
  have hoctets : (if room == 0 then none else octets? inner) = none := by
    rw [octets?_eq_none_of_not_mem hpoint, ite_self]
  rw [readGroups, hinner]
  simp only [hoctets, hgroup]

theorem readGroups_end {chars inner : List Char} {isFirst : Bool}
    (hinner : (if isFirst then some chars else expect ':' chars) = some inner) (hends : EndsGroup inner) :
    readGroups room isFirst chars = ([], false, chars) := by
  have hdigit : ∀ char ∈ inner.head?, char.isDigit = false := by
    intro char hchar
    rw [hends char hchar]
    decide
  have hoctets : octets? inner = none := octets?_eq_none hdigit
  cases room with
  | zero => rfl
  | succ room =>
      rw [readGroups, hinner]
      simp only [hoctets, group?_eq_none hends, ite_self]

theorem readGroups_colonGroups (hroom : groups.length ≤ room) (hgroups : ∀ group ∈ groups, group < 65536)
    (hends : EndsGroups rest) :
    readGroups room false (colonGroups groups ++ rest) = (groups, false, rest) := by
  induction groups generalizing room with
  | nil =>
      rcases hends.gap with rfl | ⟨more, rfl⟩
      · cases room <;> rfl
      · have hcolon : expect ':' (':' :: ':' :: more) = some (':' :: more) := rfl
        exact readGroups_end hcolon (endsGroup_colon _)
  | cons group groups ih =>
      obtain ⟨room, rfl⟩ := Nat.exists_eq_succ_of_ne_zero (Nat.ne_zero_of_lt hroom)
      have hrest := ih (Nat.le_of_succ_le_succ hroom) fun other hmem =>
        hgroups other (List.mem_cons_of_mem _ hmem)
      have hpoint : '.' ∉ (Text.hexText group).toList ++ (colonGroups groups ++ rest) := by
        rw [List.mem_append, List.mem_append, not_or, not_or]
        exact ⟨not_mem_hexText rfl group, not_mem_colonGroups rfl (by decide) groups, hends.noPoint⟩
      have hgroup := group?_hexText (hgroups group List.mem_cons_self)
        (endsGroup_colonGroups groups hends.endsGroup)
      have hchars : colonGroups (group :: groups) ++ rest
          = ':' :: ((Text.hexText group).toList ++ (colonGroups groups ++ rest)) := by
        simp [colonGroups]
      rw [hchars, readGroups_group (by rfl) hpoint hgroup, hrest]

/-- Groups are read to the last one, in front of the end or of a gap. -/
theorem readGroups_groupsText (hroom : groups.length ≤ room) (hgroups : ∀ group ∈ groups, group < 65536)
    (hends : EndsGroups rest) :
    readGroups room true ((groupsText groups).toList ++ rest) = (groups, false, rest) := by
  cases groups with
  | nil => exact readGroups_end (by rfl) hends.endsGroup
  | cons group groups =>
      obtain ⟨room, rfl⟩ := Nat.exists_eq_succ_of_ne_zero (Nat.ne_zero_of_lt hroom)
      have hrest := readGroups_colonGroups (Nat.le_of_succ_le_succ hroom)
        (fun other hmem => hgroups other (List.mem_cons_of_mem _ hmem)) hends
      have hpoint : '.' ∉ (groupsText (group :: groups)).toList ++ rest := by
        rw [List.mem_append, not_or]
        exact ⟨not_mem_groupsText rfl (by decide) _, hends.noPoint⟩
      rw [toList_groupsText, List.append_assoc] at hpoint ⊢
      have hgroup := group?_hexText (hgroups group List.mem_cons_self)
        (endsGroup_colonGroups groups hends.endsGroup)
      rw [readGroups_group (by rfl) hpoint hgroup, hrest]

/-! ### The longest run of zeros -/

theorem eq_replicate_zeroRun (groups : List Nat) :
    ∃ back, groups = List.replicate (zeroRun groups) 0 ++ back := by
  refine ⟨groups.dropWhile (· == 0), ?_⟩
  have hzeros : groups.takeWhile (· == 0) = List.replicate (zeroRun groups) 0 := by
    refine List.eq_replicate_of_mem fun group hmem => ?_
    have hzero := List.mem_takeWhile_imp hmem
    exact beq_iff_eq.1 hzero
  rw [← hzeros, List.takeWhile_append_dropWhile]

/-- The run that is left out is one of zeros, and stands where it is said to. -/
theorem longestZeroRun_eq {place start length : Nat} (hrun : longestZeroRun place groups = (start, length))
    (hlength : 0 < length) : ∃ front back, groups = front ++ List.replicate length 0 ++ back
      ∧ start = place + front.length := by
  induction groups generalizing place with
  | nil =>
      cases hrun
      exact absurd hlength (Nat.lt_irrefl 0)
  | cons group groups ih =>
      rw [longestZeroRun] at hrun
      split at hrun
      · cases hrun
        obtain ⟨back, hback⟩ := eq_replicate_zeroRun (group :: groups)
        exact ⟨[], back, hback, rfl⟩
      · obtain ⟨front, back, rfl, rfl⟩ := ih hrun
        exact ⟨group :: front, back, rfl, by rw [List.length_cons]; omega⟩

/-! ### Addresses -/

theorem parseGroups?_compressed (hlength : groups.length = 8) (hgroups : ∀ group ∈ groups, group < 65536) :
    parseGroups? (compressed groups).toList = ofGroups? groups := by
  rcases hrun : longestZeroRun 0 groups with ⟨start, length⟩
  unfold compressed
  rw [hrun]
  simp only
  split
  · rename_i hlong
    obtain ⟨front, back, rfl, hstart⟩ := longestZeroRun_eq hrun (Nat.lt_of_succ_lt hlong)
    rw [Nat.zero_add] at hstart
    subst hstart
    rw [List.length_append, List.length_append, List.length_replicate] at hlength
    have htake : (front ++ List.replicate length 0 ++ back).take front.length = front := by
      rw [List.append_assoc, List.take_left]
    have hdrop : (front ++ List.replicate length 0 ++ back).drop (front.length + length) = back := by
      refine List.drop_left' ?_
      rw [List.length_append, List.length_replicate]
    have hpoint : '.' ∉ (groupsText back).toList := not_mem_groupsText rfl (by decide) back
    have hends : EndsGroups (':' :: ':' :: (groupsText back).toList) := ⟨by simpa using hpoint, .inr ⟨_, rfl⟩⟩
    have hfront : readGroups 8 true ((groupsText front).toList ++ ':' :: ':' :: (groupsText back).toList)
        = (front, false, ':' :: ':' :: (groupsText back).toList) :=
      readGroups_groupsText (by omega) (fun group hmem => hgroups group (by simp [hmem])) hends
    have hback : readGroups (7 - front.length) true ((groupsText back).toList ++ []) = (back, false, []) :=
      readGroups_groupsText (by omega) (fun group hmem => hgroups group (by simp [hmem])) endsGroups_nil
    have hne : (front.length == 8) = false := by
      rw [beq_eq_false_iff_ne]
      omega
    have hgap : 8 - front.length - back.length = length := by omega
    rw [List.append_nil] at hback
    rw [htake, hdrop, String.toList_append, String.toList_append, List.append_assoc]
    show parseGroups? ((groupsText front).toList ++ ':' :: ':' :: (groupsText back).toList) = _
    simp only [parseGroups?, hfront, hne, hback, hgap, Bool.false_eq_true, if_false, List.isEmpty_nil, if_true]
  · have hread : readGroups 8 true ((groupsText groups).toList ++ []) = (groups, false, []) :=
      readGroups_groupsText hlength.le hgroups endsGroups_nil
    rw [List.append_nil] at hread
    simp only [parseGroups?, hread, hlength, beq_self_eq_true, if_true, List.isEmpty_nil]

theorem parseGroups?_embedded {high low : Nat} (hhigh : high < 65536) (hlow : low < 65536) :
    parseGroups? ("::ffff:" ++ octetsText [high / 256, high % 256, low / 256, low % 256]).toList
      = ofGroups? [0, 0, 0, 0, 0, 0xFFFF, high, low] := by
  have hoctets : octets? (octetsText [high / 256, high % 256, low / 256, low % 256]).toList
      = some ((high / 256, high % 256, low / 256, low % 256), []) :=
    octets?_octetsText (by omega) (by omega) (by omega) (by omega)
  have hjoin (value : Nat) : value / 256 * 256 + value % 256 = value := Nat.div_add_mod' value 256
  generalize octetsText [high / 256, high % 256, low / 256, low % 256] = text at hoctets ⊢
  have hchars : ("::ffff:" ++ text).toList = ':' :: ':' :: 'f' :: 'f' :: 'f' :: 'f' :: ':' :: text.toList := by
    rw [String.toList_append]
    rfl
  have hhead : readGroups 8 true (':' :: ':' :: 'f' :: 'f' :: 'f' :: 'f' :: ':' :: text.toList)
      = ([], false, ':' :: ':' :: 'f' :: 'f' :: 'f' :: 'f' :: ':' :: text.toList) :=
    readGroups_end (by rfl) (endsGroup_colon _)
  have hlast : readGroups 6 false (':' :: text.toList) = ([high, low], true, []) := by
    rw [readGroups]
    simp [expect, hoctets, hjoin]
  have hnone : octets? ('f' :: 'f' :: 'f' :: 'f' :: ':' :: text.toList) = none :=
    octets?_eq_none (by simp [Char.isDigit])
  have hgroup : group? ('f' :: 'f' :: 'f' :: 'f' :: ':' :: text.toList) = some (0xFFFF, ':' :: text.toList) :=
    group?_hexText (by decide : 0xFFFF < 65536) (endsGroup_colon _)
  have htail : readGroups 7 true ('f' :: 'f' :: 'f' :: 'f' :: ':' :: text.toList)
      = ([0xFFFF, high, low], true, []) := by
    rw [readGroups]
    simp [hnone, hgroup, hlast]
  rw [hchars]
  simp [parseGroups?, hhead, htail]

theorem parseOctets?_eq_none {chars : List Char} (hpoint : '.' ∉ chars ∨ ∃ rest, chars = ':' :: rest) :
    parseOctets? chars = none := by
  have hoctets : octets? chars = none := by
    rcases hpoint with hpoint | ⟨rest, rfl⟩
    · exact octets?_eq_none_of_not_mem hpoint
    · exact octets?_eq_none (by simp [Char.isDigit])
  rw [parseOctets?, hoctets]

theorem not_mem_compressed {mark : Char} (hdigit : Text.hexDigit? mark = none) (hcolon : mark ≠ ':')
    (groups : List Nat) : mark ∉ (compressed groups).toList := by
  unfold compressed
  simp only
  split
  · rw [String.toList_append, String.toList_append, List.mem_append, List.mem_append, not_or, not_or]
    exact ⟨⟨not_mem_groupsText hdigit hcolon _, by simpa using hcolon⟩, not_mem_groupsText hdigit hcolon _⟩
  · exact not_mem_groupsText hdigit hcolon groups

theorem parse?_v6Text (hlength : groups.length = 8) (hgroups : ∀ group ∈ groups, group < 65536) :
    parse? (v6Text groups) = ofGroups? groups := by
  unfold parse? v6Text
  split
  · rename_i high low
    rw [parseOctets?_eq_none (.inr ⟨_, by rw [String.toList_append]; rfl⟩), Option.none_or]
    exact parseGroups?_embedded (hgroups high (by simp)) (hgroups low (by simp))
  · rw [parseOctets?_eq_none (.inl (not_mem_compressed rfl (by decide) groups)), Option.none_or,
      parseGroups?_compressed hlength hgroups]

theorem ofGroups?_toNat (groups : Vector UInt16 8) :
    ofGroups? (groups.toList.map UInt16.toNat) = some (v6 groups) := by
  have hlength : (groups.toList.map UInt16.toNat).length = 8 := by
    rw [List.length_map, Vector.length_toList]
  have hsame : (groups.toList.map UInt16.toNat).map Nat.toUInt16 = groups.toList := by
    rw [List.map_map]
    simp [Function.comp_def]
  unfold ofGroups?
  rw [dif_pos hlength]
  simp only [hsame]
  rfl

theorem parse?_text (address : Address) : parse? address.text = some address := by
  cases address with
  | v4 a b c d =>
      have hoctets := octets?_octetsText a.toNat_lt b.toNat_lt c.toNat_lt d.toNat_lt
      show (parseOctets? (octetsText [a.toNat, b.toNat, c.toNat, d.toNat]).toList).or _ = _
      rw [parseOctets?, hoctets]
      simp
  | v6 groups =>
      refine (parse?_v6Text ?_ ?_).trans (ofGroups?_toNat groups)
      · rw [List.length_map, Vector.length_toList]
      · intro group hmem
        obtain ⟨value, _, rfl⟩ := List.mem_map.1 hmem
        exact value.toNat_lt

theorem text_injective {left right : Address} (htext : left.text = right.text) : left = right := by
  have hparse : parse? left.text = parse? right.text := congrArg parse? htext
  rw [parse?_text, parse?_text] at hparse
  exact Option.some.inj hparse

theorem not_mem_octetsText {mark : Char} (hdigit : mark.isDigit = false) (hpoint : mark ≠ '.') (a b c d : Nat) :
    mark ∉ (octetsText [a, b, c, d]).toList := by
  simp [toList_octetsText, Text.not_mem_natText hdigit, hpoint]

theorem not_mem_text {mark : Char} (hdecimal : mark.isDigit = false) (hdigit : Text.hexDigit? mark = none)
    (hpoint : mark ≠ '.') (hcolon : mark ≠ ':') (address : Address) : mark ∉ address.text.toList := by
  cases address with
  | v4 a b c d => exact not_mem_octetsText hdecimal hpoint _ _ _ _
  | v6 groups =>
      have hletter : mark ≠ 'f' := by
        rintro rfl
        exact absurd hdigit (by decide)
      rw [text]
      unfold v6Text
      split
      · rw [String.toList_append, List.mem_append, not_or]
        exact ⟨by simp [hcolon, hletter], not_mem_octetsText hdecimal hpoint _ _ _ _⟩
      · exact not_mem_compressed hdigit hcolon _

end Address

end RouterPoll
