import Mathlib.Data.Nat.Find
import Mathlib.Data.Set.Finite.Lemmas
import Mathlib.Order.OrderIsoNat
import RouterPoll.Snmp.Adapter

/-!
# Where a walk leads

A walk along an agent that answers every request in time. What such an agent binds may depend on everything it has been asked, so the walk is laid out as if every page led on: leg after leg, each with the requests sent so far, the name to ask for next and the rows collected. The walk follows these legs up to the first page that ends it, and never returns where none does. Rows count towards the limit and names do not, so a walk that never returns gets no row any more from some leg on.
-/

namespace RouterPoll

namespace Snmp

/-! ### Agents that answer -/

/-- An agent that answers every request in time: what it binds, by the requests it has got, the newest first. -/
abbrev Responder := List Request → List Binding

/-- The requests an agent has got, the newest first. Nobody calls the poll off. -/
structure Heard where
  requests : List Request
  deriving DecidableEq

instance : Surroundings Heard where
  isCancelled _ := false
  now _ := default

def Responder.link (responder : Responder) : Link Heard where
  send request heard :=
    (.bindings (responder (request :: heard.requests)), ⟨request :: heard.requests⟩)
  pause heard := heard

/-! ### Legs -/

/-- A walk under way: the requests sent, the name to ask for next, and the rows collected. -/
structure Leg where
  requests : List Request
  current : Oid
  rows : List Row

namespace Leg

variable (responder : Responder) (session : Session) (root : Oid)

def page (leg : Leg) : Page :=
  Page.ofBindings root (responder (session.pageRequest leg.current :: leg.requests))

/-- The walk after that page, as if the page led on. -/
def next (leg : Leg) : Leg where
  requests := session.pageRequest leg.current :: leg.requests
  current := (leg.page responder session root).last.getD leg.current
  rows := leg.rows ++ (leg.page responder session root).rows

/-- The next page belongs to the column as a whole, and its last name is another than the one asked for. -/
def LeadsOn (leg : Leg) : Prop :=
  (leg.page responder session root).ended = false
    ∧ ∃ last, (leg.page responder session root).last = some last ∧ last ≠ leg.current

/-- The walk goes on after the next page: it leads on, and there is room for more rows. -/
def GoesOn (leg : Leg) : Prop :=
  leg.LeadsOn responder session root
    ∧ (leg.next responder session root).rows.length < maxWalkRows

def walk (leg : Leg) : Option (Except PollError (List Row) × Heard) :=
  session.walkFrom responder.link root leg.current leg.rows ⟨leg.requests⟩

variable {responder : Responder} {session : Session} {root : Oid} {leg : Leg}

theorem next?_of_goesOn (hgoes : leg.GoesOn responder session root) :
    (leg.page responder session root).next? leg.current (leg.next responder session root).rows.length
      = some (leg.next responder session root).current := by
  obtain ⟨⟨hended, last, hlast, hother⟩, hroom⟩ := hgoes
  simp [Page.next?, next, hlast, hended, hother] at hroom ⊢
  exact hroom

theorem next?_of_not_goesOn (hstops : ¬ leg.GoesOn responder session root) :
    (leg.page responder session root).next? leg.current (leg.next responder session root).rows.length
      = none := by
  cases hlast : (leg.page responder session root).last with
  | none => simp [Page.next?, hlast]
  | some last =>
      simp only [Page.next?, hlast]
      rw [if_neg]
      intro hgoes
      simp only [Bool.and_eq_true, Bool.not_eq_true', bne_iff_ne, ne_eq, decide_eq_true_eq] at hgoes
      exact hstops ⟨⟨hgoes.1.1, last, hlast, hgoes.1.2⟩, hgoes.2⟩

theorem walk_eq : leg.walk responder session root
    = match (leg.page responder session root).next? leg.current
        (leg.next responder session root).rows.length with
      | some last => session.walkFrom responder.link root last (leg.next responder session root).rows
          ⟨(leg.next responder session root).requests⟩
      | none => some (.ok ((leg.next responder session root).rows.take maxWalkRows),
          ⟨(leg.next responder session root).requests⟩) := by
  rw [walk, Session.walkFrom]
  rfl

theorem walk_of_goesOn (hgoes : leg.GoesOn responder session root) :
    leg.walk responder session root
      = (leg.next responder session root).walk responder session root := by
  rw [walk_eq, next?_of_goesOn hgoes]
  rfl

theorem walk_of_not_goesOn (hstops : ¬ leg.GoesOn responder session root) :
    leg.walk responder session root
      = some (.ok ((leg.next responder session root).rows.take maxWalkRows),
          ⟨(leg.next responder session root).requests⟩) := by
  rw [walk_eq, next?_of_not_goesOn hstops]

end Leg

/-! ### The course of a walk -/

section

variable (responder : Responder) (session : Session) (root : Oid) (requests : List Request)

/-- The legs of a walk, as if every page led on. -/
def course : Nat → Leg
  | 0 => ⟨requests, root, []⟩
  | count + 1 => (course count).next responder session root

/-- The walk gets nowhere: every page leads on, and from some leg on none brings a row, with room for more. -/
structure IsTreadmill : Prop where
  leadsOn : ∀ count, (course responder session root requests count).LeadsOn responder session root
  idle : ∃ start, (course responder session root requests start).rows.length < maxWalkRows
    ∧ ∀ count ≥ start, ((course responder session root requests count).page responder session root).rows = []

variable {responder : Responder} {session : Session} {root : Oid} {requests : List Request}

theorem length_requests_course (count : Nat) :
    (course responder session root requests count).requests.length = requests.length + count := by
  induction count with
  | zero => rfl
  | succ count ih =>
      rw [course, Leg.next, List.length_cons, ih]
      omega

theorem rows_course_succ (count : Nat) :
    (course responder session root requests (count + 1)).rows
      = (course responder session root requests count).rows
        ++ ((course responder session root requests count).page responder session root).rows := rfl

theorem length_rows_course_mono :
    Monotone fun count => (course responder session root requests count).rows.length := by
  apply monotone_nat_of_le_succ
  intro count
  rw [rows_course_succ, List.length_append]
  omega

theorem walk_eq_walk_course {count : Nat}
    (hgoes : ∀ earlier < count, (course responder session root requests earlier).GoesOn responder session root) :
    session.walk responder.link root ⟨requests⟩
      = (course responder session root requests count).walk responder session root := by
  induction count with
  | zero => rfl
  | succ count ih =>
      rw [ih fun earlier hearlier => hgoes earlier (by omega), Leg.walk_of_goesOn (hgoes count (by omega)), course]

theorem exists_walk_eq_some
    (hstops : ¬ ∀ count, (course responder session root requests count).GoesOn responder session root) :
    ∃ count, session.walk responder.link root ⟨requests⟩
      = some (.ok ((course responder session root requests count).rows.take maxWalkRows),
          ⟨(course responder session root requests count).requests⟩) := by
  classical
  have hfirst := not_forall.1 hstops
  refine ⟨Nat.find hfirst + 1, ?_⟩
  have hearlier : ∀ earlier < Nat.find hfirst,
      (course responder session root requests earlier).GoesOn responder session root :=
    fun earlier hlt => not_not.1 (Nat.find_min hfirst hlt)
  rw [walk_eq_walk_course hearlier, Leg.walk_of_not_goesOn (Nat.find_spec hfirst), course]

/-- What a walk returns from a leg it does not return from if every leg goes on. -/
theorem walk_eq_none
    (hgoes : ∀ count, (course responder session root requests count).GoesOn responder session root) :
    session.walk responder.link root ⟨requests⟩ = none := by
  -- induction on the recursion of the walk: no call made from a leg of the course returns anything
  have hcalls : ∀ (current : Oid) (rows : List Row) (heard : Heard) (returned : Except PollError (List Row) × Heard),
      session.walkFrom responder.link root current rows heard = some returned →
      ∀ count, course responder session root requests count ≠ ⟨heard.requests, current, rows⟩ := by
    apply Session.walkFrom.partial_correctness
    intro walkFrom ih current rows heard returned hreturned count hleg
    have hnext := Leg.next?_of_goesOn (hgoes count)
    rw [hleg] at hnext
    change (match (Leg.page responder session root ⟨heard.requests, current, rows⟩).next? current
        (Leg.next responder session root ⟨heard.requests, current, rows⟩).rows.length with
      | some last => walkFrom last _ ⟨_⟩
      | none => _) = some returned at hreturned
    rw [hnext] at hreturned
    refine ih _ _ _ _ hreturned (count + 1) ?_
    rw [course, hleg]
    rfl
  apply Option.eq_none_iff_forall_ne_some.2
  intro returned hreturned
  exact hcalls root [] ⟨requests⟩ returned hreturned 0 rfl

/-- Rows count towards the limit, so what a walk collects on for ever stays the same from some leg on. -/
theorem isTreadmill_iff : IsTreadmill responder session root requests
    ↔ ∀ count, (course responder session root requests count).GoesOn responder session root := by
  constructor
  · rintro ⟨hleadsOn, start, hroom, hidle⟩ count
    have hstays : ∀ further, (course responder session root requests (start + further)).rows
        = (course responder session root requests start).rows := by
      intro further
      induction further with
      | zero => rfl
      | succ further ih =>
          rw [← Nat.add_assoc, rows_course_succ, hidle (start + further) (by omega), List.append_nil, ih]
    refine ⟨hleadsOn count, lt_of_le_of_lt ?_ hroom⟩
    rw [← hstays (count + 1)]
    exact length_rows_course_mono (by omega : count + 1 ≤ start + (count + 1))
  · intro hgoes
    have hroom : ∀ count, (course responder session root requests count).rows.length < maxWalkRows := by
      intro count
      cases count with
      | zero => exact (by decide : 0 < maxWalkRows)
      | succ count => exact (hgoes count).2
    obtain ⟨start, hstart⟩ := WellFoundedGT.monotone_chain_condition
      (⟨fun count => (⟨_, hroom count⟩ : Fin maxWalkRows), fun _ _ hle => length_rows_course_mono hle⟩ :
        Nat →o Fin maxWalkRows)
    refine ⟨fun count => (hgoes count).1, start, hroom start, fun count hcount => ?_⟩
    have hnow := Fin.val_eq_of_eq (hstart count hcount)
    have hthen := Fin.val_eq_of_eq (hstart (count + 1) (by omega))
    change _ = (course responder session root requests count).rows.length at hnow
    change _ = (course responder session root requests (count + 1)).rows.length at hthen
    rw [rows_course_succ, List.length_append] at hthen
    apply List.eq_nil_of_length_eq_zero
    omega

/-- A walk returns with its rows, after finitely many requests, unless the agent keeps it on a treadmill; then it never returns. -/
theorem walk_returns_iff :
    ((∃ count, session.walk responder.link root ⟨requests⟩
        = some (.ok ((course responder session root requests count).rows.take maxWalkRows),
            ⟨(course responder session root requests count).requests⟩)
      ∧ (course responder session root requests count).requests.length = requests.length + count)
      ↔ ¬ IsTreadmill responder session root requests)
    ∧ (session.walk responder.link root ⟨requests⟩ = none ↔ IsTreadmill responder session root requests) := by
  have hnone : IsTreadmill responder session root requests → session.walk responder.link root ⟨requests⟩ = none :=
    fun htreadmill => walk_eq_none (isTreadmill_iff.1 htreadmill)
  have hreturns : ¬ IsTreadmill responder session root requests → ∃ count,
      session.walk responder.link root ⟨requests⟩
        = some (.ok ((course responder session root requests count).rows.take maxWalkRows),
            ⟨(course responder session root requests count).requests⟩) := by
    intro hno
    exact exists_walk_eq_some fun hgoes => hno (isTreadmill_iff.2 hgoes)
  refine ⟨⟨?_, ?_⟩, ?_, hnone⟩
  · rintro ⟨count, hwalk, -⟩ htreadmill
    rw [hnone htreadmill] at hwalk
    cases hwalk
  · intro hno
    obtain ⟨count, hwalk⟩ := hreturns hno
    exact ⟨count, hwalk, length_requests_course count⟩
  · intro hwalk
    by_contra hno
    obtain ⟨count, hreturned⟩ := hreturns hno
    rw [hwalk] at hreturned
    cases hreturned

end

/-! ### A carousel -/

/-- An agent with two processors whose load it does not know: after each of them it names the other one. -/
def carousel : Responder := fun requests => [⟨hrProcessorLoad ++ [1 + requests.length % 2], .null⟩]

theorem page_carousel (session : Session) (leg : Leg) :
    leg.page carousel session hrProcessorLoad
      = ⟨[], some (hrProcessorLoad ++ [1 + (leg.requests.length + 1) % 2]), false⟩ := by
  simp [Leg.page, carousel, Page.ofBindings, Binding.row?, Value.metric?]

theorem rows_carousel (session : Session) (count : Nat) :
    (course carousel session hrProcessorLoad [] count).rows = [] := by
  induction count with
  | zero => rfl
  | succ count ih => rw [rows_course_succ, ih, page_carousel, List.nil_append]

theorem current_carousel_succ (session : Session) (count : Nat) :
    (course carousel session hrProcessorLoad [] (count + 1)).current
      = hrProcessorLoad ++ [1 + (count + 1) % 2] := by
  rw [course, Leg.next, page_carousel, length_requests_course, List.length_nil, Nat.zero_add]
  rfl

theorem leadsOn_carousel (session : Session) (count : Nat) :
    (course carousel session hrProcessorLoad [] count).LeadsOn carousel session hrProcessorLoad := by
  rw [Leg.LeadsOn, page_carousel, length_requests_course]
  refine ⟨rfl, _, rfl, ?_⟩
  cases count with
  | zero => simp [course]
  | succ count =>
      rw [current_carousel_succ]
      simp only [List.length_nil, ne_eq, List.append_cancel_left_eq, List.cons.injEq, and_true]
      omega

theorem walk_carousel (session : Session) : session.walk carousel.link hrProcessorLoad ⟨[]⟩ = none := by
  apply walk_eq_none
  intro count
  refine ⟨leadsOn_carousel session count, ?_⟩
  change (course carousel session hrProcessorLoad [] (count + 1)).rows.length < maxWalkRows
  rw [rows_carousel]
  decide

/-- A carousel brings a walk back to where it was, again and again, without a row that would count. -/
theorem walk_carousel_never_returns :
    Session.walk ⟨"192.0.2.1:161", false, 150, 0⟩ carousel.link hrProcessorLoad ⟨[]⟩ = none
    ∧ Session.walk ⟨"192.0.2.1:161", true, 150, 0⟩ carousel.link hrProcessorLoad ⟨[]⟩ = none :=
  ⟨walk_carousel _, walk_carousel _⟩

end Snmp

end RouterPoll
