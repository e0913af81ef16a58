import Mathlib.Data.List.Lex
import Mathlib.Data.List.TakeWhile
import RouterPoll.Proofs.Snmp.Course

/-!
# Reading a column

A walk along an agent that serves its objects in the order of their names, as many at a time as it likes. The objects below a root stand together in that order, so a page either lies in the column as a whole or shows where it ends. What a walk has read and what is still ahead of it therefore make up the same column after every page, wherever pages begin and end.
-/

namespace RouterPoll

namespace Snmp

/-! ### The order of names -/

theorem before_iff_lt (left right : Oid) : left.before right = true ↔ left < right := by
  induction left generalizing right with
  | nil => cases right <;> simp [Oid.before]
  | cons first rest ih =>
      cases right with
      | nil => simp [Oid.before]
      | cons other others => simp [Oid.before, List.cons_lt_cons_iff, ih]

theorem before_of_isPrefixOf {root oid : Oid} (hbelow : root.isPrefixOf oid = true) (hne : oid ≠ root) :
    root.before oid = true := by
  induction root generalizing oid with
  | nil => cases oid <;> simp_all [Oid.before]
  | cons first rest ih =>
      cases oid with
      | nil => simp at hbelow
      | cons other others =>
          simp only [List.isPrefixOf_cons_cons, Bool.and_eq_true, beq_iff_eq] at hbelow
          obtain ⟨rfl, hbelow⟩ := hbelow
          simp [Oid.before, ih hbelow fun heq => hne (by rw [heq])]

/-- What comes after a root and is not below it comes after everything below it. -/
theorem before_of_not_isPrefixOf {root inside outside : Oid} (hinside : root.isPrefixOf inside = true)
    (houtside : root.isPrefixOf outside = false) (hafter : root.before outside = true) :
    inside.before outside = true := by
  induction root generalizing inside outside with
  | nil => simp at houtside
  | cons first rest ih =>
      cases inside with
      | nil => simp at hinside
      | cons inner inners =>
          cases outside with
          | nil => simp [Oid.before] at hafter
          | cons outer outers =>
              simp only [List.isPrefixOf_cons_cons, Bool.and_eq_true, beq_iff_eq] at hinside
              obtain ⟨rfl, hinside⟩ := hinside
              simp only [Oid.before, Bool.or_eq_true, decide_eq_true_eq, Bool.and_eq_true, beq_iff_eq] at hafter ⊢
              refine hafter.imp_right fun hsame => ⟨hsame.1, ih hinside ?_ hsame.2⟩
              simpa [hsame.1] using houtside

/-! ### Agents that serve their objects -/

/-- The objects of an agent in the order of their names, each with a value of its own. -/
structure Mib where
  objects : List Binding
  sorted : objects.Pairwise fun left right => left.oid.before right.oid = true
  unmarked : ∀ object ∈ objects, object.value ≠ .endOfMib

namespace Mib

def after (mib : Mib) (oid : Oid) : List Binding :=
  mib.objects.filter fun object => oid.before object.oid

/-- What may be answered when at most `limit` objects after a name are asked for: the next ones, any number of them; all there are and a mark behind them; or, where there are none, nothing at all, or the name itself with a value that says nothing. -/
inductive Answers (mib : Mib) (oid : Oid) (limit : Nat) : List Binding → Prop
  | next (count : Nat) (hcount : 1 ≤ count) (hlimit : count ≤ limit) (hmore : mib.after oid ≠ []) :
    Answers mib oid limit ((mib.after oid).take count)
  | mark (name : Oid) (marks : List Binding) (hroom : (mib.after oid).length < limit) :
    Answers mib oid limit (mib.after oid ++ ⟨name, .endOfMib⟩ :: marks)
  | nothing (hdone : mib.after oid = []) : Answers mib oid limit []
  | echo (value : Value) (hvalue : value.metric? = none) (hdone : mib.after oid = []) :
    Answers mib oid limit [⟨oid, value⟩]

/-- The agent answers every request for further objects from these, whatever it has been asked before. -/
structure IsServedBy (mib : Mib) (responder : Responder) : Prop where
  next : ∀ requests oid, mib.Answers oid 1 (responder (.next oid :: requests))
  bulk : ∀ requests oid limit, 1 ≤ limit → mib.Answers oid limit (responder (.bulk oid limit :: requests))

/-- The row of an object: the last arc of its name, if the name can be read, and its value, if it has a metric form. -/
def rowOf (object : Binding) : Option Row := do
  guard (object.oid.drop 2 |>.all (· < 2 ^ 63))
  return (← object.oid.getLast?, ← object.value.metric?)

/-- The rows of all objects strictly below a root, in the order of their names. -/
def column (mib : Mib) (root : Oid) : List Row :=
  (mib.objects.filter fun object => root.isPrefixOf object.oid && object.oid != root).filterMap rowOf

end Mib

theorem Mib.rowOf_eq_row? : Mib.rowOf = Binding.row? := by
  funext object
  have hlimit : (object.oid.drop 2).all (· < 2 ^ 63) = object.oid.isReadable := rfl
  rw [Mib.rowOf, hlimit, Binding.row?]
  cases object.oid.isReadable <;> cases object.oid.getLast? <;> cases object.value.metric? <;> rfl

/-! ### Pages -/

/-- A binding that lets a page go on. -/
def Binding.isInside (root : Oid) (binding : Binding) : Bool :=
  root.isPrefixOf binding.oid && binding.value != .endOfMib

theorem ofBindings_eq (root : Oid) (bindings : List Binding) : Page.ofBindings root bindings
    = ⟨(bindings.takeWhile (Binding.isInside root)).filterMap Binding.row?,
        ((bindings.takeWhile (Binding.isInside root)).getLast?).map (·.oid),
        !bindings.all (Binding.isInside root)⟩ := by
  induction bindings with
  | nil => rfl
  | cons binding rest ih =>
      by_cases hinside : binding.isInside root = true
      · have hgoes : (!root.isPrefixOf binding.oid || binding.value == .endOfMib) = false := by
          simpa [Binding.isInside] using hinside
        rw [Page.ofBindings, hgoes, if_neg Bool.false_ne_true, ih, List.takeWhile_cons_of_pos hinside,
          List.all_cons, hinside, Bool.true_and, List.getLast?_cons, List.filterMap_cons]
        cases binding.row? <;> cases (List.takeWhile (Binding.isInside root) rest).getLast? <;> rfl
      · have hends : (!root.isPrefixOf binding.oid || binding.value == .endOfMib) = true := by
          rw [Binding.isInside] at hinside
          cases hbelow : root.isPrefixOf binding.oid <;> simp_all
        rw [Page.ofBindings, hends, if_pos rfl, List.takeWhile_cons_of_neg hinside, List.all_cons]
        simp [hinside]

theorem takeWhile_append_outside {root : Oid} {outside : Binding} (houtside : outside.isInside root = false)
    (front back : List Binding) :
    (front ++ outside :: back).takeWhile (Binding.isInside root) = front.takeWhile (Binding.isInside root) := by
  rw [List.takeWhile_append, List.takeWhile_cons_of_neg (by simp [houtside]), List.append_nil]
  split
  · next hlength => exact ((List.takeWhile_prefix _).eq_of_length hlength).symm
  · rfl

/-! ### What is ahead -/

namespace Mib

variable {mib : Mib} {root oid : Oid}

def ahead (mib : Mib) (root oid : Oid) : List Row :=
  ((mib.after oid).filter fun object => root.isPrefixOf object.oid).filterMap Binding.row?

theorem ahead_root : mib.ahead root root = mib.column root := by
  rw [ahead, after, column, rowOf_eq_row?, List.filter_filter]
  congr 1
  apply List.filter_congr
  intro object _
  cases hbelow : root.isPrefixOf object.oid with
  | false => rfl
  | true =>
      rw [Bool.true_and, Bool.true_and, Bool.eq_iff_iff, bne_iff_ne]
      constructor
      · intro hbefore heq
        rw [heq, before_iff_lt] at hbefore
        exact lt_irrefl _ hbefore
      · exact before_of_isPrefixOf hbelow

theorem before_of_mem_after {object : Binding} (hmem : object ∈ mib.after oid) : oid.before object.oid = true :=
  (List.mem_filter.1 hmem).2

theorem sorted_after (mib : Mib) (oid : Oid) :
    (mib.after oid).Pairwise fun left right => left.oid.before right.oid = true :=
  mib.sorted.filter _

theorem isInside_of_mem_after {object : Binding} (hmem : object ∈ mib.after oid) :
    object.isInside root = root.isPrefixOf object.oid := by
  have hvalue : object.value ≠ .endOfMib := mib.unmarked object (List.mem_of_mem_filter hmem)
  rw [Binding.isInside, bne_iff_ne.2 hvalue, Bool.and_true]

/-- Nothing is skipped after an object. -/
theorem after_eq_of_after_eq_append {front rest : List Binding} {last : Binding}
    (hafter : mib.after oid = front ++ last :: rest) : mib.after last.oid = rest := by
  have hmem : last ∈ mib.after oid := by simp [hafter]
  have hbefore := before_of_mem_after hmem
  have hfilter : mib.after last.oid = (mib.after oid).filter fun object => last.oid.before object.oid := by
    rw [after, after, List.filter_filter]
    apply List.filter_congr
    intro object _
    rw [Bool.eq_iff_iff, Bool.and_eq_true, before_iff_lt, before_iff_lt, iff_self_and]
    exact lt_trans ((before_iff_lt _ _).1 hbefore)
  have hsorted := hafter ▸ mib.sorted_after oid
  obtain ⟨-, hrest, hfront⟩ := List.pairwise_append.1 hsorted
  rw [hfilter, hafter, List.filter_append, List.filter_eq_nil_iff.2, List.nil_append, List.filter_cons_of_neg,
    List.filter_eq_self.2]
  · exact (List.pairwise_cons.1 hrest).1
  · rw [before_iff_lt]
    exact lt_irrefl _
  · intro object hmem hlater
    have hearlier := hfront object hmem last (List.mem_cons_self ..)
    rw [before_iff_lt] at hlater hearlier
    exact lt_asymm hlater hearlier

theorem root_before_of_mem_after {object : Binding} (hroot : root.isPrefixOf oid = true)
    (hmem : object ∈ mib.after oid) : root.before object.oid = true := by
  have hbefore := before_of_mem_after hmem
  by_cases heq : oid = root
  · exact heq ▸ hbefore
  · have hbelow := before_of_isPrefixOf hroot heq
    rw [before_iff_lt] at hbefore hbelow ⊢
    exact lt_trans hbelow hbefore

theorem takeWhile_after (hroot : root.isPrefixOf oid = true) :
    (mib.after oid).takeWhile (Binding.isInside root)
      = (mib.after oid).filter fun object => root.isPrefixOf object.oid := by
  have hnext : ∀ object ∈ mib.after oid,
      root.before object.oid = true ∧ object.isInside root = root.isPrefixOf object.oid :=
    fun object hmem => ⟨root_before_of_mem_after hroot hmem, isInside_of_mem_after hmem⟩
  have hsorted := mib.sorted_after oid
  generalize mib.after oid = objects at hnext hsorted
  induction objects with
  | nil => rfl
  | cons object rest ih =>
      obtain ⟨hfirst, hothers⟩ := List.forall_mem_cons.1 hnext
      obtain ⟨hlater, hsorted⟩ := List.pairwise_cons.1 hsorted
      cases hbelow : root.isPrefixOf object.oid with
      | true =>
          rw [List.takeWhile_cons_of_pos (hfirst.2.trans hbelow), List.filter_cons, if_pos hbelow, ih hothers hsorted]
      | false =>
          rw [List.takeWhile_cons_of_neg (by simp [hfirst.2, hbelow]), List.filter_cons,
            if_neg (by simp [hbelow]), eq_comm, List.filter_eq_nil_iff]
          intro other hmem hinside
          -- an object below the root would have to come before the one that is not
          have hearlier := before_of_not_isPrefixOf hinside hbelow hfirst.1
          have hafter := hlater other hmem
          rw [before_iff_lt] at hearlier hafter
          exact lt_asymm hearlier hafter

theorem ahead_eq_takeWhile (hroot : root.isPrefixOf oid = true) : mib.ahead root oid
    = ((mib.after oid).takeWhile (Binding.isInside root)).filterMap Binding.row? := by
  rw [ahead, takeWhile_after hroot]

/-! ### A page of an agent that serves its objects -/

/-- The page ends the walk: it shows the end of the column, or leads nowhere. -/
def Closes (page : Page) (oid : Oid) : Prop := page.ended = true ∨ page.last = none ∨ page.last = some oid

/-- The page reads the objects up to `last`, and the column goes on after it. -/
structure Opens (mib : Mib) (root oid : Oid) (page : Page) (last : Binding) : Prop where
  mem : last ∈ mib.after oid
  below : root.isPrefixOf last.oid = true
  ended : page.ended = false
  last_eq : page.last = some last.oid
  ahead_eq : mib.ahead root oid = page.rows ++ mib.ahead root last.oid

theorem opens_of_all_inside {front rest : List Binding} {last : Binding} (hroot : root.isPrefixOf oid = true)
    (hafter : mib.after oid = front ++ last :: rest)
    (hinside : ∀ object ∈ front ++ [last], object.isInside root = true) :
    mib.Opens root oid (Page.ofBindings root (front ++ [last])) last := by
  have hmem : last ∈ mib.after oid := by simp [hafter]
  have hbelow : root.isPrefixOf last.oid = true :=
    (isInside_of_mem_after hmem).symm.trans (hinside last (by simp))
  have hall : (front ++ [last]).takeWhile (Binding.isInside root) = front ++ [last] :=
    List.takeWhile_eq_self_iff.2 hinside
  rw [ofBindings_eq, hall]
  refine ⟨hmem, hbelow, ?_, ?_, ?_⟩
  · rw [List.all_eq_true.2 hinside]
    rfl
  · simp
  · rw [ahead_eq_takeWhile hroot, ahead_eq_takeWhile hbelow, after_eq_of_after_eq_append hafter, hafter,
      List.append_cons, List.takeWhile_append_of_pos hinside, List.filterMap_append]

theorem closes_of_outside {front back : List Binding} {outside : Binding} (hroot : root.isPrefixOf oid = true)
    (houtside : outside.isInside root = false)
    (hahead : (mib.after oid).takeWhile (Binding.isInside root) = front.takeWhile (Binding.isInside root)) :
    Closes (Page.ofBindings root (front ++ outside :: back)) oid
      ∧ mib.ahead root oid = (Page.ofBindings root (front ++ outside :: back)).rows := by
  rw [ofBindings_eq, takeWhile_append_outside houtside, ahead_eq_takeWhile hroot, hahead]
  exact ⟨.inl (by simp [houtside]), rfl⟩

/-- A page reads a part of what is ahead, and the rest is ahead of its last object; or it reads all of it. -/
theorem Answers.page {limit : Nat} {bindings : List Binding} (hanswers : mib.Answers oid limit bindings)
    (hroot : root.isPrefixOf oid = true) :
    (∃ last, mib.Opens root oid (Page.ofBindings root bindings) last)
      ∨ Closes (Page.ofBindings root bindings) oid
        ∧ mib.ahead root oid = (Page.ofBindings root bindings).rows := by
  cases hanswers with
  | next count hcount hlimit hmore =>
      by_cases hinside : ∀ object ∈ (mib.after oid).take count, object.isInside root = true
      · left
        obtain hnil | ⟨front, last, hread⟩ := List.eq_nil_or_concat' ((mib.after oid).take count)
        · obtain hzero | hnone := List.take_eq_nil_iff.1 hnil
          · omega
          · exact absurd hnone hmore
        · have hafter := (List.take_append_drop count (mib.after oid)).symm
          rw [hread, List.append_assoc, List.singleton_append] at hafter
          rw [hread] at hinside ⊢
          exact ⟨last, opens_of_all_inside hroot hafter hinside⟩
      · right
        obtain ⟨outside, hmem, houtside⟩ :
            ∃ outside ∈ (mib.after oid).take count, outside.isInside root = false := by simpa using hinside
        obtain ⟨front, back, hread⟩ := List.append_of_mem hmem
        have hafter := (List.take_append_drop count (mib.after oid)).symm
        rw [hread, List.append_assoc, List.cons_append] at hafter
        rw [hread]
        refine closes_of_outside hroot houtside ?_
        rw [hafter, takeWhile_append_outside houtside]
  | mark name marks hroom =>
      right
      exact closes_of_outside hroot (by simp [Binding.isInside]) rfl
  | nothing hdone =>
      right
      refine ⟨.inr (.inl rfl), ?_⟩
      rw [ahead, hdone]
      rfl
  | echo value hvalue hdone =>
      right
      have hrow : Binding.row? ⟨oid, value⟩ = none := by
        rw [Binding.row?, hvalue]
        split <;> trivial
      have hahead : mib.ahead root oid = [] := by
        rw [ahead, hdone]
        rfl
      rw [ofBindings_eq, hahead]
      cases hinside : Binding.isInside root ⟨oid, value⟩ <;> simp [Closes, hinside, hrow]

/-! ### The walk -/

theorem after_lt_of_mem {last : Binding} (hmem : last ∈ mib.after oid) :
    (mib.after last.oid).length < (mib.after oid).length := by
  obtain ⟨front, rest, hafter⟩ := List.append_of_mem hmem
  rw [after_eq_of_after_eq_append hafter, hafter, List.length_append, List.length_cons]
  omega

theorem IsServedBy.answers_page {responder : Responder} (hserved : mib.IsServedBy responder)
    (session : Session) (leg : Leg) :
    ∃ limit, mib.Answers leg.current limit (responder (session.pageRequest leg.current :: leg.requests)) := by
  rw [Session.pageRequest]
  split
  · exact ⟨walkRepetitions, hserved.bulk leg.requests leg.current walkRepetitions (by decide)⟩
  · exact ⟨1, hserved.next leg.requests leg.current⟩

theorem not_goesOn_of_closes {responder : Responder} {session : Session} {leg : Leg}
    (hcloses : Closes (leg.page responder session root) leg.current) : ¬ leg.GoesOn responder session root := by
  rintro ⟨⟨hended, last, hlast, hother⟩, -⟩
  obtain htrue | hnone | hsame := hcloses
  · exact Bool.false_ne_true (hended.symm.trans htrue)
  · exact Option.some_ne_none last (hlast.symm.trans hnone)
  · exact hother (Option.some.inj (hlast.symm.trans hsame))

/-- From every leg a walk returns the rows it has and those ahead of it. -/
theorem IsServedBy.walk_leg {responder : Responder} {session : Session} (hserved : mib.IsServedBy responder)
    (leg : Leg) (hroot : root.isPrefixOf leg.current = true) :
    ∃ heard, leg.walk responder session root
      = some (.ok ((leg.rows ++ mib.ahead root leg.current).take maxWalkRows), heard) := by
  -- the objects after the last name become fewer with every page
  induction hsize : (mib.after leg.current).length using Nat.strong_induction_on generalizing leg with
  | _ size ih =>
    obtain ⟨limit, hanswers⟩ := hserved.answers_page session leg
    obtain ⟨last, hopens⟩ | ⟨hcloses, hahead⟩ := hanswers.page hroot
    · have hcurrent : (leg.next responder session root).current = last.oid := by
        rw [Leg.next, Leg.page, hopens.last_eq]
        rfl
      have hrows : leg.rows ++ mib.ahead root leg.current
          = (leg.next responder session root).rows ++ mib.ahead root last.oid := by
        rw [hopens.ahead_eq, ← List.append_assoc]
        rfl
      rw [hrows]
      by_cases hgoes : leg.GoesOn responder session root
      · rw [Leg.walk_of_goesOn hgoes, ← hcurrent]
        refine ih _ ?_ _ (hcurrent ▸ hopens.below) rfl
        rw [hcurrent, ← hsize]
        exact after_lt_of_mem hopens.mem
      · have hother : last.oid ≠ leg.current := by
          intro heq
          have hbefore := before_of_mem_after hopens.mem
          rw [heq, before_iff_lt] at hbefore
          exact lt_irrefl _ hbefore
        have hfull : maxWalkRows ≤ (leg.next responder session root).rows.length := by
          by_contra hroom
          exact hgoes ⟨⟨hopens.ended, last.oid, hopens.last_eq, hother⟩, by omega⟩
        rw [Leg.walk_of_not_goesOn hgoes, List.take_append_of_le_length hfull]
        exact ⟨_, rfl⟩
    · rw [Leg.walk_of_not_goesOn (not_goesOn_of_closes hcloses), hahead]
      exact ⟨_, rfl⟩

end Mib

/-- A walk of an agent that serves its objects reads the rows of the column up to the limit: with requests for single objects as with pages of any sizes, and whatever the agent has been asked before. -/
theorem walk_reads_column {mib : Mib} {responder : Responder} (hserved : mib.IsServedBy responder)
    (session : Session) (root : Oid) (heard : Heard) :
    ∃ heard', session.walk responder.link root heard
      = some (.ok ((mib.column root).take maxWalkRows), heard') := by
  rw [← Mib.ahead_root]
  exact hserved.walk_leg ⟨heard.requests, root, []⟩ (List.isPrefixOf_iff_prefix.2 (List.prefix_refl root))

/-! ### An agent that serves its objects -/

/-- An agent that gives the object it is asked for, and of the next ones as many as it likes, at most as many as it is asked for. -/
def Mib.agent (mib : Mib) (size : List Request → Nat) : Responder
  | [] => []
  | .get oid :: _ => (mib.objects.find? (·.oid == oid)).toList
  | .next oid :: _ => (mib.after oid).take 1
  | .bulk oid limit :: earlier => (mib.after oid).take (1 + size earlier % limit)

theorem Mib.isServedBy_agent (mib : Mib) (size : List Request → Nat) : mib.IsServedBy (mib.agent size) := by
  have htake : ∀ oid limit count, 1 ≤ count → count ≤ limit →
      mib.Answers oid limit ((mib.after oid).take count) := by
    intro oid limit count hcount hlimit
    by_cases hdone : mib.after oid = []
    · rw [hdone, List.take_nil]
      exact .nothing hdone
    · exact .next count hcount hlimit hdone
  constructor
  · intro requests oid
    exact htake oid 1 1 (by omega) (by omega)
  · intro requests oid limit hlimit
    have hsize : size requests % limit < limit := Nat.mod_lt _ hlimit
    exact htake oid limit _ (by omega) (by omega)

/-- Three processors, one of which says nothing about its load, between other objects. -/
def processorMib : Mib where
  objects := [⟨sysName, .octets []⟩, ⟨hrProcessorLoad ++ [1], .integer 10⟩, ⟨hrProcessorLoad ++ [2], .null⟩,
    ⟨hrProcessorLoad ++ [3], .integer 30⟩, ⟨[1, 3, 6, 1, 4, 1], .integer 1⟩]
  sorted := by decide
  unmarked := by decide

theorem walk_reads_column_pages :
    processorMib.IsServedBy (processorMib.agent List.length)
    ∧ ∃ heard, Session.walk ⟨"192.0.2.1:161", true, 150, 0⟩ (processorMib.agent List.length).link
        hrProcessorLoad ⟨[]⟩ = some (.ok [(1, .integer 10), (3, .integer 30)], heard) :=
  ⟨processorMib.isServedBy_agent _,
    walk_reads_column (processorMib.isServedBy_agent List.length) _ hrProcessorLoad ⟨[]⟩⟩

/-- Two processors, the second with an arc that does not fit the words arcs are read into. -/
def longArcMib : Mib where
  objects := [⟨hrProcessorLoad ++ [1], .integer 10⟩, ⟨hrProcessorLoad ++ [2 ^ 63], .integer 30⟩]
  sorted := by decide
  unmarked := by decide

/-- The row of an object whose arc takes all 64 bits is left out. -/
theorem walk_skips_long_arc :
    ⟨hrProcessorLoad ++ [2 ^ 63], .integer 30⟩ ∈ longArcMib.objects
    ∧ longArcMib.IsServedBy (longArcMib.agent List.length)
    ∧ ∃ heard, Session.walk ⟨"192.0.2.1:161", true, 150, 0⟩ (longArcMib.agent List.length).link
        hrProcessorLoad ⟨[]⟩ = some (.ok [(1, .integer 10)], heard) :=
  ⟨by decide, longArcMib.isServedBy_agent _,
    (longArcMib.isServedBy_agent List.length).walk_leg ⟨[], hrProcessorLoad, []⟩ rfl⟩

end Snmp

end RouterPoll
