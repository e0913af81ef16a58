import RouterPoll.Adapter.Contract
import RouterPoll.Snmp.Value

/-!
# Sessions with an agent

Reading single objects and whole table columns over a link to an agent. A link answers one request at a time, or keeps silent, or reports an error of the exchange. A request for one object is repeated after silence, as often as the session allows and with a pause before each repetition. A walk reads a column page by page, from the name where the last page ended, and stops at the end of the column, at the row limit, or when a page leads nowhere. Nothing is sent once the poll is called off.
-/

namespace RouterPoll

namespace Snmp

inductive Request where
  | get (oid : Oid)
  | next (oid : Oid)
  | bulk (oid : Oid) (repetitions : Nat)
  deriving DecidableEq

/-- What comes of a request: bindings, an error of the exchange, no answer in time, or the end of the poll while waiting. -/
inductive Reply where
  | bindings (bindings : List Binding)
  | faulty (reason : String)
  | silence
  | interrupted
  deriving DecidableEq

/-- A way to reach an agent: sending a request, and waiting before a repetition. -/
structure Link (ε : Type) where
  send : Request → ε → Reply × ε
  pause : ε → ε

/-- A link on which nothing is ever heard. -/
def Link.silent : Link ε where
  send _ env := (.silence, env)
  pause env := env

/-- An open session with its settings. -/
structure Session where
  target : String
  bulk : Bool
  timeoutMs : Nat
  retries : Nat
  deriving DecidableEq

def maxWalkRows : Nat := 512

def walkRepetitions : Nat := 16

section

variable {ε : Type} [Surroundings ε]

/-- One exchange; nothing is sent once the poll is called off. -/
def Link.exchange (link : Link ε) (request : Request) (env : ε) : Reply × ε :=
  if Surroundings.isCancelled env then (.interrupted, env) else link.send request env

namespace Session

def timeout (session : Session) (operation : String) : PollError :=
  .timeout operation (session.timeoutMs / 1000)

/-- The metric of the first binding, if it has one. -/
def firstMetric? : List Binding → Option MetricValue
  | [] => none
  | binding :: _ => binding.value.metric?

/-- The value of one object. After silence the request is repeated while `retries` lasts. -/
def getWith (session : Session) (link : Link ε) (oid : Oid) :
    Nat → ε → Except PollError (Option MetricValue) × ε
  | retries, env =>
    let (reply, env) := link.exchange (.get oid) env
    match reply with
    | .bindings bindings => (.ok (firstMetric? bindings), env)
    | .faulty reason =>
      (.error (.protocol ("get from " ++ session.target ++ ": " ++ reason)), env)
    | .interrupted => (.error .cancelled, env)
    | .silence =>
      match retries with
      | 0 => (.error (session.timeout "snmp get"), env)
      | retries + 1 =>
        if Surroundings.isCancelled env then (.error .cancelled, env)
        else
          let env := link.pause env
          if Surroundings.isCancelled env then (.error .cancelled, env)
          else getWith session link oid retries env

def get (session : Session) (link : Link ε) (oid : Oid) :
    ε → Except PollError (Option MetricValue) × ε :=
  session.getWith link oid session.retries

/-- The whole number in one cell of a table. -/
def getCell (session : Session) (link : Link ε) (column : Oid) (index : Nat) (env : ε) :
    Except PollError (Option Int) × ε :=
  let (answer, env) := session.get link (column ++ [index]) env
  (answer.map fun value => value.bind MetricValue.asInteger?, env)

end Session

/-! ### Walking a column -/

/-- A row of a column: the last arc of its name, and its value. -/
abbrev Row := Nat × MetricValue

/-- What one page holds of a column: its rows, the last name in it, and whether the column ended there. -/
structure Page where
  rows : List Row
  last : Option Oid
  ended : Bool
  deriving DecidableEq

/-- The row of a binding, if its name can be read and its value has a metric form. -/
def Binding.row? (binding : Binding) : Option Row :=
  match binding.oid.getLast?.filter (fun _ => binding.oid.isReadable), binding.value.metric? with
  | some index, some value => some (index, value)
  | _, _ => none

/-- The part of a page that belongs to the column below `root`. -/
def Page.ofBindings (root : Oid) : List Binding → Page
  | [] => ⟨[], none, false⟩
  | binding :: rest =>
    if !root.isPrefixOf binding.oid || binding.value == .endOfMib then ⟨[], none, true⟩
    else
      let page := Page.ofBindings root rest
      ⟨binding.row?.toList ++ page.rows, page.last.or (some binding.oid), page.ended⟩

/-- Where a walk goes on after a page, if it does. -/
def Page.next? (page : Page) (current : Oid) (rowsSoFar : Nat) : Option Oid :=
  match page.last with
  | some last =>
    if !page.ended && last != current && rowsSoFar < maxWalkRows then some last else none
  | none => none

namespace Session

def pageRequest (session : Session) (current : Oid) : Request :=
  if session.bulk then .bulk current walkRepetitions else .next current

/-- The pages from a name on, after the rows read before. There is no answer when the agent leads on for ever. -/
def walkFrom (session : Session) (link : Link ε) (root current : Oid) (rows : List Row) (env : ε) :
    Option (Except PollError (List Row) × ε) :=
  match link.exchange (session.pageRequest current) env with
  | (.faulty reason, env) =>
    some (.error (.protocol ("walk on " ++ session.target ++ ": " ++ reason)), env)
  | (.silence, env) => some (.error (session.timeout "snmp walk"), env)
  | (.interrupted, env) => some (.error .cancelled, env)
  | (.bindings bindings, env) =>
    let page := Page.ofBindings root bindings
    let rows := rows ++ page.rows
    match page.next? current rows.length with
    | some last => session |>.walkFrom link root last rows env
    | none => some (.ok (rows.take maxWalkRows), env)
partial_fixpoint

/-- The rows of the column below `root`, at most the row limit. -/
def walk (session : Session) (link : Link ε) (root : Oid) (env : ε) :
    Option (Except PollError (List Row) × ε) :=
  session.walkFrom link root root [] env

end Session

end

end Snmp

end RouterPoll
