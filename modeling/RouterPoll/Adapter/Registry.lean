import RouterPoll.Adapter.Contract

/-!
# The registry of adapters

Adapters in the order of their registration, each name once. For a device the registry selects candidates: those that answer to an entry of the device's method order and can handle it, entry by entry, or, if there are none, all that can handle it. The candidates are tried in this order until one succeeds, and nothing is tried once the poll is called off.
-/

namespace RouterPoll

structure Registry (ε : Type) where
  adapters : List (Adapter ε)

/-- How a poll through the registry ended. It crashes when an adapter crashes over the question whether it can handle the device, and stalls when an adapter does not return before the poll is called off. -/
inductive FallbackEnd where
  | settled (answer : Except PollError PollResult)
  | crashed
  | stalled

namespace Registry

variable {ε : Type}

def empty : Registry ε := ⟨[]⟩

def names (registry : Registry ε) : List String := registry.adapters.map (·.name)

def find? (registry : Registry ε) (name : String) : Option (Adapter ε) :=
  registry.adapters.find? (·.name == name)

/-- The registry with one more adapter, and whether it was taken. An adapter whose name is there already is not. -/
def register (registry : Registry ε) (adapter : Adapter ε) : Registry ε × Bool :=
  if registry.names.contains adapter.name then (registry, false)
  else (⟨registry.adapters ++ [adapter]⟩, true)

/-! ### Selection -/

/-- The adapters that can handle a device, in order. -/
def capable (device : Device) : List (Adapter ε) → Option (List (Adapter ε))
  | [] => some []
  | adapter :: rest => do
    let handles ← adapter.canHandle device
    let others ← capable device rest
    return if handles then adapter :: others else others

/-- The selection extended by the adapters that answer to one entry. An adapter that was selected before is not asked again. -/
def selectEntry (device : Device) (entry : String) :
    List (Adapter ε) → List (Adapter ε) → Option (List (Adapter ε))
  | [], selected => some selected
  | adapter :: rest, selected =>
    if adapter.answersTo entry && !selected.any (·.name == adapter.name) then do
      let handles ← adapter.canHandle device
      selectEntry device entry rest (if handles then selected ++ [adapter] else selected)
    else selectEntry device entry rest selected

def selectEntries (registry : Registry ε) (device : Device) :
    List String → List (Adapter ε) → Option (List (Adapter ε))
  | [], selected => some selected
  | entry :: rest, selected => do
    let selected ← selectEntry device entry registry.adapters selected
    selectEntries registry device rest selected

/-- The candidates for a device, in the order in which they are tried. -/
def selectOrdered (registry : Registry ε) (device : Device) : Option (List (Adapter ε)) := do
  let selected ← registry.selectEntries device device.methodOrder []
  if selected.isEmpty then capable device registry.adapters else some selected

/-- What the adapters that can handle a device can collect, sorted and each once. -/
def supportedMetrics (registry : Registry ε) (device : Device) : Option (List String) := do
  let adapters ← capable device registry.adapters
  return ((adapters.flatMap (·.supportedMetrics)).mergeSort
    fun left right => decide (left ≤ right)).eraseReps

/-! ### Polling -/

/-- The text under which the failure of an adapter is remembered. -/
def failureText (name message : String) : String := name ++ ": " ++ message

/-- What an attempt means for whoever tries the candidates: a result it would return, or the message of a failure. -/
inductive Verdict where
  | succeeded (result : PollResult)
  | failed (message : String)

def judge (result : PollResult) : Verdict :=
  if result.success then .succeeded result
  else .failed (result.error.getD "poll reported failure")

/-- The verdict on an attempt; a refused session counts like the result it carries, and a stalled attempt has none. -/
def verdict? : Attempt → Option Verdict
  | .answered result => some (judge result)
  | .refused failure => some (judge failure.result)
  | .crashed => some (.failed "adapter panicked during poll")
  | .stalled => none

/-- Tries candidates until one succeeds. `attempted` counts all candidates, tried or not. -/
def tryEach [Surroundings ε] (device : Device) (attempted : Nat) :
    List (Adapter ε) → String → ε → FallbackEnd × ε
  | [], lastError, env =>
    if Surroundings.isCancelled env then (.settled (.error .cancelled), env)
    else (.settled (.error (.allAdaptersFailed attempted lastError)), env)
  | adapter :: rest, _lastError, env =>
    if Surroundings.isCancelled env then (.settled (.error .cancelled), env)
    else
      let (attempt, env) := adapter.poll device env
      match verdict? attempt with
      | none => (.stalled, env)
      | some (.succeeded result) => (.settled (.ok result), env)
      | some (.failed message) =>
        tryEach device attempted rest (failureText adapter.name message) env

def pollWithFallback [Surroundings ε] (registry : Registry ε) (device : Device) (env : ε) :
    FallbackEnd × ε :=
  match registry.selectOrdered device with
  | none => (.crashed, env)
  | some [] => (.settled (.error (.noSuitableAdapter device.name)), env)
  | some candidates => tryEach device candidates.length candidates "" env

/-- Asks candidates for their health until one is well, and gives its name. -/
def askEach (device : Device) (attempted : Nat) :
    List (Adapter ε) → String → ε → Except PollError String × ε
  | [], lastError, env => (.error (.allAdaptersFailed attempted lastError), env)
  | adapter :: rest, _lastError, env =>
    let (health, env) := adapter.checkHealth device env
    match health with
    | .ok _ => (.ok adapter.name, env)
    | .error .cancelled => (.error .cancelled, env)
    | .error error =>
      askEach device attempted rest (failureText adapter.name error.message) env

/-- The name of the first candidate that is well; no answer when an adapter crashes over the device. -/
def healthWithFallback (registry : Registry ε) (device : Device) (env : ε) :
    Option (Except PollError String) × ε :=
  match registry.selectOrdered device with
  | none => (none, env)
  | some [] => (some (.error (.noSuitableAdapter device.name)), env)
  | some candidates =>
    let (answer, env) := askEach device candidates.length candidates "" env
    (some answer, env)

end Registry

end RouterPoll
