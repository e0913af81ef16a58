import RouterPoll.Decode.Fields
import RouterPoll.Poll.Result
import RouterPoll.RouterOs.Entry

/-!
# The system resource

What a router says about itself: load, memory, uptime, board and version. Every field may be missing, and one that makes no sense adds no metric.
-/

namespace RouterPoll

namespace RouterOs

structure SystemResource where
  cpuLoad : Option Json
  totalMemory : Option Json
  freeMemory : Option Json
  uptime : Option String
  boardName : Option String
  version : Option String

/-- Any value that nests at most `room` deep. -/
def readAny (room : Nat) : Decode.Reader Json := fun _ node =>
  (node.value? room).mapError Decode.Error.flaw

namespace SystemResource

/-- Inside the resource, values nest one level less deep than a whole document may. -/
def read : Decode.Reader SystemResource :=
  let value (name : String) := Decode.Fields.optional name (readAny (Json.depthLimit - 1))
  let text (name : String) := Decode.Fields.optional name Decode.readText
  Decode.Fields.reader "SystemResource" (mk
    <$> value "cpu-load" <*> value "total-memory" <*> value "free-memory"
    <*> text "uptime" <*> text "board-name" <*> text "version")

def mebibyte : Nat := 1024 * 1024

/-- The metrics of the memory, which needs a size other than zero. -/
def memoryMetrics (total free : Nat) : List (String × MetricValue) :=
  if total == 0 then []
  else
    let used := total - free
    [(Metrics.memoryTotalMb, .ofNat (total / mebibyte)),
      (Metrics.memoryFreeMb, .ofNat (free / mebibyte)),
      (Metrics.memoryUsedMb, .ofNat (used / mebibyte)),
      (Metrics.memoryPercent, .float (Decimal.ofNat used / Decimal.ofNat total * 100.0))]

def memory (resource : SystemResource) : List (String × MetricValue) :=
  match resource.totalMemory.bind natOf?, resource.freeMemory.bind natOf? with
  | some total, some free => memoryMetrics total free
  | _, _ => []

/-- The metrics of a resource put into a bag. -/
def addTo (resource : SystemResource) (metrics : Metrics) : Metrics :=
  let cpu := (resource.cpuLoad.bind floatOf?).map MetricValue.float
  let uptime := (resource.uptime.bind uptime?).map MetricValue.ofNat
  ((((metrics.setIf Metrics.cpuPercent cpu).setAll resource.memory).setIf
    Metrics.uptimeSeconds uptime).setIf
    Metrics.boardName (resource.boardName.map .text)).setIf
    Metrics.firmwareVersion (resource.version.map .text)

end SystemResource

end RouterOs

end RouterPoll
