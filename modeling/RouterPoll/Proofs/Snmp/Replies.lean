import RouterPoll.Proofs.Snmp.Column
import RouterPoll.Proofs.Snmp.Readings
import RouterPoll.Proofs.Snmp.Retries

/-!
# What an agent replies to a poll

The readings of a poll told by the replies of the agent alone. An object is given when one of the attempts to ask for it is answered with a value. The rows of a column are those of the pages up to the first one that does not lead on. A query is asked for in what is around after the one before it; the cells of a memory row only if there is such a row, and the other columns of the interfaces only if these have descriptions. `Reads` has the readings that come about in this way, and `run_read_iff` says that the poll makes these and no others.
-/

namespace RouterPoll

namespace Snmp

section

variable {ε : Type} [Surroundings ε]

/-! ### Objects -/

namespace Session

/-- What asking for an object gives, and what is around then. -/
def Gives (session : Session) (link : Link ε) (oid : Oid) (env : ε) (value : Option MetricValue) (next : ε) : Prop :=
  ∃ made answer, session.Ending link oid env made answer next ∧ value = answer.toOption.join

variable {session : Session} {link : Link ε} {oid : Oid} {env next : ε}

theorem get_eq_iff {answer : Except PollError (Option MetricValue)} :
    session.get link oid env = (answer, next) ↔ ∃ made, session.Ending link oid env made answer next := by
  have hplain {made : Nat} {found : Except PollError (Option MetricValue)} {after : ε}
      (hending : session.Ending link oid env made found after) : session.get link oid env = (found, after) := by
    have hrecorded := getWith_recorded session link oid session.retries env []
    rw [← get, ← get, hending.get_eq] at hrecorded
    exact hrecorded
  constructor
  · intro hget
    obtain ⟨made, found, after, hending⟩ := exists_ending session link oid env
    cases (hplain hending).symm.trans hget
    exact ⟨made, hending⟩
  · rintro ⟨_, hending⟩
    exact hplain hending

theorem gives_iff {value : Option MetricValue} :
    session.Gives link oid env value next ↔
      ∃ answer, session.get link oid env = (answer, next) ∧ value = given? answer := by
  have hgiven : ∀ answer : Except PollError (Option MetricValue), answer.toOption.join = given? answer := by
    rintro (_ | _) <;> rfl
  simp only [Gives, get_eq_iff, hgiven]
  exact ⟨fun ⟨made, answer, hending, hvalue⟩ => ⟨answer, ⟨made, hending⟩, hvalue⟩,
    fun ⟨answer, ⟨made, hending⟩, hvalue⟩ => ⟨made, answer, hending, hvalue⟩⟩

end Session

/-! ### Columns -/

/-- The rows on a page: those of its bindings before the first one outside of the column. -/
def pageRows (root : Oid) (bindings : List Binding) : List Row :=
  (bindings.takeWhile (·.isInside root)).filterMap Mib.rowOf

/-- A page leads on to its last binding: all of it is in the column, it ends with another name than the one asked for, and there is room for more rows. -/
structure LeadsTo (root current : Oid) (rows : List Row) (bindings : List Binding) (last : Binding) : Prop where
  inside : ∀ binding ∈ bindings, binding.isInside root = true
  ends : bindings.getLast? = some last
  other : last.oid ≠ current
  room : (rows ++ pageRows root bindings).length < maxWalkRows

theorem next?_eq_some_iff {root current oid : Oid} {rows : List Row} {bindings : List Binding} :
    (Page.ofBindings root bindings).next? current (rows ++ pageRows root bindings).length = some oid
      ↔ ∃ last, LeadsTo root current rows bindings last ∧ last.oid = oid := by
  rw [ofBindings_eq]
  cases hall : bindings.all (Binding.isInside root) with
  | false =>
      refine iff_of_false ?_ fun ⟨last, hleads, _⟩ => ?_
      · rw [Page.next?]
        split <;> simp
      · rw [List.all_eq_true.2 hleads.inside] at hall
        cases hall
  | true =>
      have hinside := List.all_eq_true.1 hall
      rw [List.takeWhile_eq_self_iff.2 hinside]
      cases hlast : bindings.getLast? with
      | none =>
          refine iff_of_false (fun hnext => by cases hnext) fun ⟨last, hleads, _⟩ => ?_
          cases hlast.symm.trans hleads.ends
      | some last =>
          simp only [Page.next?, Option.map_some, Bool.not_true, Bool.not_false, Bool.true_and, Bool.and_eq_true,
            bne_iff_ne, ne_eq, decide_eq_true_eq, Option.ite_none_right_eq_some, Option.some.injEq]
          constructor
          · rintro ⟨⟨hother, hroom⟩, rfl⟩
            exact ⟨last, ⟨hinside, hlast, hother, hroom⟩, rfl⟩
          · rintro ⟨other, ⟨_, hsame, hother, hroom⟩, rfl⟩
            cases hlast.symm.trans hsame
            exact ⟨⟨hother, hroom⟩, rfl⟩

theorem next?_eq_none_iff {root current : Oid} {rows : List Row} {bindings : List Binding} :
    (Page.ofBindings root bindings).next? current (rows ++ pageRows root bindings).length = none
      ↔ ∀ last, ¬ LeadsTo root current rows bindings last := by
  rw [Option.eq_none_iff_forall_ne_some]
  constructor
  · intro hnone last hleads
    exact hnone last.oid (next?_eq_some_iff.2 ⟨last, hleads, rfl⟩)
  · intro hends oid hoid
    obtain ⟨last, hleads, _⟩ := next?_eq_some_iff.1 hoid
    exact hends last hleads

theorem rows_ofBindings (root : Oid) (bindings : List Binding) :
    (Page.ofBindings root bindings).rows = pageRows root bindings := by
  rw [ofBindings_eq, pageRows, Mib.rowOf_eq_row?]

namespace Session

def walkError? (session : Session) : Reply → Option PollError
  | .bindings _ => none
  | .faulty reason => some (.protocol ("walk on " ++ session.target ++ ": " ++ reason))
  | .silence => some (.timeout "snmp walk" (session.timeoutMs / 1000))
  | .interrupted => some .cancelled

/-- How a walk ends that has come to a name with some rows. -/
inductive Walks (session : Session) (link : Link ε) (root : Oid) :
    Oid → List Row → ε → Except PollError (List Row) → ε → Prop where
  | barred {current : Oid} {rows : List Row} {env : ε} (hcancelled : Surroundings.isCancelled env = true) :
      Walks session link root current rows env (.error .cancelled) env
  | failed {current : Oid} {rows : List Row} {env after : ε} {reply : Reply} {error : PollError}
      (hbegins : Surroundings.isCancelled env = false)
      (hsend : link.send (session.pageRequest current) env = (reply, after))
      (herror : session.walkError? reply = some error) :
      Walks session link root current rows env (.error error) after
  | ended {current : Oid} {rows : List Row} {env after : ε} {bindings : List Binding}
      (hbegins : Surroundings.isCancelled env = false)
      (hsend : link.send (session.pageRequest current) env = (.bindings bindings, after))
      (hends : ∀ last, ¬ LeadsTo root current rows bindings last) :
      Walks session link root current rows env (.ok ((rows ++ pageRows root bindings).take maxWalkRows)) after
  | led {current : Oid} {rows : List Row} {env next after : ε} {bindings : List Binding} {last : Binding}
      {answer : Except PollError (List Row)} (hbegins : Surroundings.isCancelled env = false)
      (hsend : link.send (session.pageRequest current) env = (.bindings bindings, next))
      (hleads : LeadsTo root current rows bindings last)
      (hrest : Walks session link root last.oid (rows ++ pageRows root bindings) next answer after) :
      Walks session link root current rows env answer after

variable {session : Session} {link : Link ε} {root : Oid}

section

variable {current : Oid} {rows : List Row} {env after : ε} {answer : Except PollError (List Row)}

theorem walks_of_walkFrom (hwalk : session.walkFrom link root current rows env = some (answer, after)) :
    session.Walks link root current rows env answer after := by
  -- induction on the recursion of the walk
  refine walkFrom.partial_correctness session link root
    (fun current rows env returned => session.Walks link root current rows env returned.1 returned.2)
    ?_ current rows env _ hwalk
  intro walkFrom ih current rows env returned hreturned
  cases hcancelled : Surroundings.isCancelled env with
  | true =>
      rw [Link.exchange, if_pos hcancelled] at hreturned
      cases hreturned
      exact .barred hcancelled
  | false =>
      rw [Link.exchange, if_neg (ne_true_of_eq_false hcancelled)] at hreturned
      rcases hsend : link.send (session.pageRequest current) env with ⟨reply, next⟩
      rw [hsend] at hreturned
      cases reply with
      | faulty | silence | interrupted =>
          cases hreturned
          exact .failed hcancelled hsend rfl
      | bindings bindings =>
          dsimp only at hreturned
          rw [rows_ofBindings] at hreturned
          cases hnext : (Page.ofBindings root bindings).next? current (rows ++ pageRows root bindings).length with
          | some oid =>
              rw [hnext] at hreturned
              obtain ⟨last, hleads, rfl⟩ := next?_eq_some_iff.1 hnext
              exact .led hcancelled hsend hleads (ih _ _ _ _ hreturned)
          | none =>
              rw [hnext] at hreturned
              cases hreturned
              exact .ended hcancelled hsend (next?_eq_none_iff.1 hnext)

theorem Walks.walkFrom_eq (hwalks : session.Walks link root current rows env answer after) :
    session.walkFrom link root current rows env = some (answer, after) := by
  induction hwalks with
  | barred hcancelled => rw [walkFrom, Link.exchange, if_pos hcancelled]
  | @failed current rows env after reply error hbegins hsend herror =>
      rw [walkFrom, Link.exchange, if_neg (ne_true_of_eq_false hbegins), hsend]
      cases reply <;> cases herror <;> rfl
  | ended hbegins hsend hends =>
      rw [walkFrom, Link.exchange, if_neg (ne_true_of_eq_false hbegins), hsend]
      dsimp only
      rw [rows_ofBindings, next?_eq_none_iff.2 hends]
  | led hbegins hsend hleads _ ih =>
      rw [walkFrom, Link.exchange, if_neg (ne_true_of_eq_false hbegins), hsend]
      dsimp only
      rw [rows_ofBindings, next?_eq_some_iff.2 ⟨_, hleads, rfl⟩]
      exact ih

theorem walkFrom_eq_some_iff :
    session.walkFrom link root current rows env = some (answer, after)
      ↔ session.Walks link root current rows env answer after :=
  ⟨walks_of_walkFrom, Walks.walkFrom_eq⟩

end

end Session

/-! ### Queries -/

namespace Session

variable (session : Session) (link : Link ε)

/-- The rows that a walk of a column reads, if it does not fail, and what is around then. -/
def Lists (root : Oid) (env : ε) (rows : Option (List Row)) (next : ε) : Prop :=
  ∃ answer, session.Walks link root root [] env answer next ∧ rows = answer.toOption

/-- The number in the cell of a row. Where there is no row nothing is asked for. -/
def GivesCell (column : Oid) (row? : Option Nat) (env : ε) (number : Option Int) (next : ε) : Prop :=
  match row? with
  | none => number = none ∧ next = env
  | some index => ∃ value, session.Gives link (column ++ [index]) env value next
    ∧ number = value.bind MetricValue.asInteger?

/-- The rows of a column beside others. Where there are no others nothing is asked for. -/
def ListsBeside (others : Option (List Row)) (root : Oid) (env : ε) (rows : Option (List Row)) (next : ε) : Prop :=
  match others with
  | none => rows = none ∧ next = env
  | some _ => session.Lists link root env rows next

end Session

namespace Query

def all : List Query :=
  [systemName, uptime, interfaceCount, processorLoads, storageTypes, storageUnits, storageSize, storageUsed,
    descriptions, adminStatus, operStatus, inOctets, outOctets]

/-- A reading is what the agent replies to its query. -/
def IsAnswered (session : Session) (link : Link ε) (readings : Readings) : Query → ε → ε → Prop
  | systemName, env, next => session.Gives link sysName env (readings .systemName) next
  | uptime, env, next => session.Gives link sysUptime env (readings .uptime) next
  | interfaceCount, env, next => session.Gives link ifNumber env (readings .interfaceCount) next
  | processorLoads, env, next => session.Lists link hrProcessorLoad env (readings .processorLoads) next
  | storageTypes, env, next => session.Lists link hrStorageType env (readings .storageTypes) next
  | storageUnits, env, next =>
    session.GivesCell link hrStorageUnits readings.ramRow? env (readings .storageUnits) next
  | storageSize, env, next => session.GivesCell link hrStorageSize readings.ramRow? env (readings .storageSize) next
  | storageUsed, env, next => session.GivesCell link hrStorageUsed readings.ramRow? env (readings .storageUsed) next
  | descriptions, env, next => session.Lists link ifDescr env (readings .descriptions) next
  | adminStatus, env, next =>
    session.ListsBeside link (readings .descriptions) ifAdminStatus env (readings .adminStatus) next
  | operStatus, env, next =>
    session.ListsBeside link (readings .descriptions) ifOperStatus env (readings .operStatus) next
  | inOctets, env, next =>
    session.ListsBeside link (readings .descriptions) ifInOctets env (readings .inOctets) next
  | outOctets, env, next =>
    session.ListsBeside link (readings .descriptions) ifOutOctets env (readings .outOctets) next

end Query

/-- The readings of some queries are what the agent replies to them, one after the other. -/
inductive Reads (session : Session) (link : Link ε) (readings : Readings) : List Query → ε → ε → Prop where
  | done {env : ε} : Reads session link readings [] env env
  | asked {query : Query} {rest : List Query} {env next after : ε}
      (hanswered : query.IsAnswered session link readings env next)
      (hrest : Reads session link readings rest next after) :
      Reads session link readings (query :: rest) env after

section

variable {session : Session} {link : Link ε} {readings : Readings} {env next after : ε}

theorem reads_nil_iff : Reads session link readings [] env after ↔ env = after :=
  ⟨fun hreads => by cases hreads; rfl, fun hsame => hsame ▸ .done⟩

theorem reads_cons_iff {query : Query} {rest : List Query} : Reads session link readings (query :: rest) env after
    ↔ ∃ next, query.IsAnswered session link readings env next ∧ Reads session link readings rest next after := by
  constructor
  · rintro (_ | ⟨hanswered, hrest⟩)
    exact ⟨_, hanswered, hrest⟩
  · rintro ⟨next, hanswered, hrest⟩
    exact .asked hanswered hrest

/-! ### What the poll reads -/

omit [Surroundings ε] in
theorem run_bind_iff {α β : Type} {steps : Steps ε α} {rest : α → Steps ε β} {result : β × ε} :
    (steps >>= rest).run env = some result
      ↔ ∃ value next, steps.run env = some (value, next) ∧ (rest value).run next = some result := by
  rw [StateT.run_bind]
  rcases steps.run env with _ | ⟨value, next⟩ <;> simp

theorem gives_iff_run {oid : Oid} {value : Option MetricValue} : session.Gives link oid env value next
    ↔ ∃ answer, (get session link oid).run env = some (answer, next) ∧ given? answer = value := by
  rw [Session.gives_iff]
  exact exists_congr fun answer => and_congr Option.some_inj.symm eq_comm

theorem lists_iff_run {root : Oid} {rows : Option (List Row)} : session.Lists link root env rows next
    ↔ ∃ answer, (walk session link root).run env = some (answer, next) ∧ answer.toOption = rows :=
  exists_congr fun _ => and_congr Session.walkFrom_eq_some_iff.symm eq_comm

theorem givesCell_iff_run {column : Oid} {index : Nat} {number : Option Int} :
    session.GivesCell link column (some index) env number next
      ↔ ∃ answer, (getCell session link column index).run env = some (answer, next) ∧ given? answer = number := by
  have hcell (value : Except PollError (Option MetricValue)) :
      given? (value.map fun value => value.bind MetricValue.asInteger?)
        = (given? value).bind MetricValue.asInteger? := by
    rcases value with _ | _ <;> rfl
  constructor
  · rintro ⟨value, hgives, rfl⟩
    obtain ⟨answer, hget, rfl⟩ := Session.gives_iff.1 hgives
    refine ⟨_, congrArg some ?_, hcell answer⟩
    rw [Session.getCell, hget]
  · rintro ⟨answer, hrun, rfl⟩
    rcases hget : session.get link (column ++ [index]) env with ⟨found, after⟩
    have hsame := Option.some.inj hrun
    rw [Session.getCell, hget] at hsame
    cases hsame
    exact ⟨given? found, Session.gives_iff.2 ⟨found, hget, rfl⟩, hcell found⟩

theorem run_readMemory_iff {row? : Option Nat} {units size used : Option Int} :
    (readMemory session link row?).run env = some ((units, size, used), after)
      ↔ ∃ first second, session.GivesCell link hrStorageUnits row? env units first
        ∧ session.GivesCell link hrStorageSize row? first size second
        ∧ session.GivesCell link hrStorageUsed row? second used after := by
  cases row? with
  | none =>
      simp only [Session.GivesCell]
      constructor
      · intro hrun
        cases hrun
        exact ⟨_, _, ⟨rfl, rfl⟩, ⟨rfl, rfl⟩, rfl, rfl⟩
      · rintro ⟨_, _, ⟨rfl, rfl⟩, ⟨rfl, rfl⟩, rfl, rfl⟩
        rfl
  | some index =>
      simp only [readMemory, run_bind_iff, givesCell_iff_run]
      constructor
      · rintro ⟨units, first, hunits, size, second, hsize, used, third, hused, hdone⟩
        cases hdone
        exact ⟨first, second, ⟨_, hunits, rfl⟩, ⟨_, hsize, rfl⟩, _, hused, rfl⟩
      · rintro ⟨first, second, ⟨_, hunits, rfl⟩, ⟨_, hsize, rfl⟩, _, hused, rfl⟩
        exact ⟨_, _, hunits, _, _, hsize, _, _, hused, rfl⟩

theorem run_readColumns_iff {others : Option (List Row)} {admin oper received sent : Option (List Row)} :
    (readColumns session link others).run env = some ((admin, oper, received, sent), after)
      ↔ ∃ first second third, session.ListsBeside link others ifAdminStatus env admin first
        ∧ session.ListsBeside link others ifOperStatus first oper second
        ∧ session.ListsBeside link others ifInOctets second received third
        ∧ session.ListsBeside link others ifOutOctets third sent after := by
  cases others with
  | none =>
      simp only [Session.ListsBeside]
      constructor
      · intro hrun
        cases hrun
        exact ⟨_, _, _, ⟨rfl, rfl⟩, ⟨rfl, rfl⟩, ⟨rfl, rfl⟩, rfl, rfl⟩
      · rintro ⟨_, _, _, ⟨rfl, rfl⟩, ⟨rfl, rfl⟩, ⟨rfl, rfl⟩, rfl, rfl⟩
        rfl
  | some rows =>
      simp only [Session.ListsBeside, readColumns, run_bind_iff, lists_iff_run]
      constructor
      · rintro ⟨_, first, hadmin, _, second, hoper, _, third, hreceived, _, _, hsent, hdone⟩
        cases hdone
        exact ⟨first, second, third, ⟨_, hadmin, rfl⟩, ⟨_, hoper, rfl⟩, ⟨_, hreceived, rfl⟩, _, hsent, rfl⟩
      · rintro ⟨_, _, _, ⟨_, hadmin, rfl⟩, ⟨_, hoper, rfl⟩, ⟨_, hreceived, rfl⟩, _, hsent, rfl⟩
        exact ⟨_, _, hadmin, _, _, hoper, _, _, hreceived, _, _, hsent, rfl⟩

/-- The poll reads what the agent replies to the queries. -/
theorem run_read_iff :
    (read session link).run env = some (readings, after) ↔ Reads session link readings Query.all env after := by
  simp only [Query.all, reads_cons_iff, reads_nil_iff, Query.IsAnswered, gives_iff_run, lists_iff_run,
    Readings.ramRow?_eq]
  constructor
  · intro hrun
    simp only [read, run_bind_iff] at hrun
    obtain ⟨name, _, hname, ticks, _, hticks, count, _, hcount, loads, _, hloads, types, _, htypes,
      ⟨units, size, used⟩, _, hmemory, rows, _, hrows, ⟨admin, oper, received, sent⟩, _, hcolumns, hdone⟩ := hrun
    obtain ⟨_, _, hunits, hsize, hused⟩ := run_readMemory_iff.1 hmemory
    obtain ⟨_, _, _, hadmin, hoper, hreceived, hsent⟩ := run_readColumns_iff.1 hcolumns
    cases hdone
    exact ⟨_, ⟨_, hname, rfl⟩, _, ⟨_, hticks, rfl⟩, _, ⟨_, hcount, rfl⟩, _, ⟨_, hloads, rfl⟩, _, ⟨_, htypes, rfl⟩,
      _, hunits, _, hsize, _, hused, _, ⟨_, hrows, rfl⟩, _, hadmin, _, hoper, _, hreceived, _, hsent, rfl⟩
  · rintro ⟨_, ⟨_, hname, hnamed⟩, _, ⟨_, hticks, hticked⟩, _, ⟨_, hcount, hcounted⟩, _, ⟨_, hloads, hloaded⟩,
      _, ⟨_, htypes, htyped⟩, _, hunits, _, hsize, _, hused, _, ⟨_, hrows, hrowed⟩, _, hadmin, _, hoper,
      _, hreceived, _, hsent, rfl⟩
    rw [← htyped] at hunits hsize hused
    rw [← hrowed] at hadmin hoper hreceived hsent
    simp only [read, run_bind_iff]
    refine ⟨_, _, hname, _, _, hticks, _, _, hcount, _, _, hloads, _, _, htypes, (_, _, _), _,
      run_readMemory_iff.2 ⟨_, _, hunits, hsize, hused⟩, _, _, hrows, (_, _, _, _), _,
      run_readColumns_iff.2 ⟨_, _, _, hadmin, hoper, hreceived, hsent⟩, ?_⟩
    refine congrArg (fun found => some (found, _)) ?_
    funext query
    cases query <;> first | rfl | assumption

end

end

/-! ### Agents that serve their objects -/

namespace Mib

variable (mib : Mib)

def value? (oid : Oid) : Option MetricValue := (mib.objects.find? (·.oid == oid)).bind (·.value.metric?)

def rows (root : Oid) : List Row := (mib.column root).take maxWalkRows

def ramRow? : Option Nat :=
  ((mib.rows hrStorageType).find? fun row => row.2 = .text "1.3.6.1.2.1.25.2.1.2").map (·.1)

def ramCell? (column : Oid) : Option Int :=
  mib.ramRow?.bind fun index => (mib.value? (column ++ [index])).bind MetricValue.asInteger?

/-- What a poll reads of an agent that serves these objects. -/
def readings : Readings
  | .systemName => mib.value? sysName
  | .uptime => mib.value? sysUptime
  | .interfaceCount => mib.value? ifNumber
  | .processorLoads => some (mib.rows hrProcessorLoad)
  | .storageTypes => some (mib.rows hrStorageType)
  | .storageUnits => mib.ramCell? hrStorageUnits
  | .storageSize => mib.ramCell? hrStorageSize
  | .storageUsed => mib.ramCell? hrStorageUsed
  | .descriptions => some (mib.rows ifDescr)
  | .adminStatus => some (mib.rows ifAdminStatus)
  | .operStatus => some (mib.rows ifOperStatus)
  | .inOctets => some (mib.rows ifInOctets)
  | .outOctets => some (mib.rows ifOutOctets)

variable (size : List Request → Nat) (session : Session)

theorem get_agent (oid : Oid) (heard : Heard) : ∃ next,
    session.get (mib.agent size).link oid heard = (.ok (mib.value? oid), next) := by
  rw [Session.get, Session.getWith]
  refine ⟨⟨.get oid :: heard.requests⟩, congrArg (fun value => (Except.ok value, _)) ?_⟩
  show Session.firstMetric? (mib.objects.find? (·.oid == oid)).toList = _
  rw [Session.firstMetric?_eq, Option.head?_toList, value?]

theorem exists_gives (oid : Oid) (heard : Heard) : ∃ next,
    session.Gives (mib.agent size).link oid heard (mib.value? oid) next := by
  obtain ⟨next, hget⟩ := mib.get_agent size session oid heard
  exact ⟨next, Session.gives_iff.2 ⟨_, hget, rfl⟩⟩

theorem exists_lists (root : Oid) (heard : Heard) : ∃ next,
    session.Lists (mib.agent size).link root heard (some (mib.rows root)) next := by
  obtain ⟨next, hwalk⟩ : ∃ next, session.walk (mib.agent size).link root heard
      = some (.ok ((mib.ahead root root).take maxWalkRows), next) :=
    (mib.isServedBy_agent size).walk_leg ⟨heard.requests, root, []⟩
      (List.isPrefixOf_iff_prefix.2 (List.prefix_refl root))
  rw [ahead_root] at hwalk
  exact ⟨next, lists_iff_run.2 ⟨_, hwalk, rfl⟩⟩

theorem exists_givesCell (column : Oid) (heard : Heard) : ∃ next,
    session.GivesCell (mib.agent size).link column mib.readings.ramRow? heard (mib.ramCell? column) next := by
  have hrow : mib.readings.ramRow? = mib.ramRow? := rfl
  rw [hrow, ramCell?]
  cases mib.ramRow? with
  | none => exact ⟨heard, rfl, rfl⟩
  | some index =>
      obtain ⟨next, hgives⟩ := mib.exists_gives size session (column ++ [index]) heard
      exact ⟨next, _, hgives, rfl⟩

/-- A poll of an agent that serves its objects reads what these say. -/
theorem exists_reads (heard : Heard) :
    ∃ done, Reads session (mib.agent size).link mib.readings Query.all heard done := by
  have hanswered (query : Query) (heard : Heard) : ∃ next,
      query.IsAnswered session (mib.agent size).link mib.readings heard next := by
    cases query with
    | systemName | uptime | interfaceCount => exact mib.exists_gives size session _ heard
    | storageUnits | storageSize | storageUsed => exact mib.exists_givesCell size session _ heard
    | _ => exact mib.exists_lists size session _ heard
  induction Query.all generalizing heard with
  | nil => exact ⟨heard, .done⟩
  | cons query rest ih =>
      obtain ⟨next, hnext⟩ := hanswered query heard
      obtain ⟨done, hdone⟩ := ih next
      exact ⟨done, .asked hnext hdone⟩

end Mib

end Snmp

end RouterPoll
