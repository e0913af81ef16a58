import RouterPoll.Proofs.Poll.Document
import RouterPoll.Proofs.RouterOs.Result
import RouterPoll.Proofs.Store.Replay

/-!
# Points read back from their rows

A database takes every metrics point. The metrics and the interfaces of a point are kept as texts, the doubles among its typed columns as doubles, and its time in milliseconds. A row gives its point back when all doubles among the metrics are finite. Otherwise the text of the metrics holds a `null` that is no metric, so the row that was written without complaint is refused when it is read. A store in memory keeps the point as it is.
-/

namespace RouterPoll

/-! ### Columns for doubles -/

namespace Column

/-- What a column keeps of a double that is a number: all but the sign of a zero. -/
def Keeps (given kept : Option Float) : Prop :=
  kept = given ∨ ∃ zero, given = some zero ∧ (zero == 0.0) = true ∧ kept = some 0.0

theorem keeps_ofFloat {given : Option Float} (hnumber : ∀ value ∈ given, value.isNaN = false) :
    Keeps given (ofFloat given) := by
  cases given with
  | none => exact .inl rfl
  | some value =>
      rw [ofFloat, Option.bind_some, hnumber value rfl, if_neg Bool.false_ne_true]
      split
      · rename_i hzero
        exact .inr ⟨value, rfl, hzero, rfl⟩
      · exact .inl rfl

end Column

/-! ### Points -/

/-- What a point is like after it was written and is read back under a clock: its time is cut to milliseconds, and a zero may have lost its sign. -/
structure MetricsPoint.IsKeptAs (point : MetricsPoint) (clock : Instant) (kept : MetricsPoint) : Prop where
  tenantId : kept.tenantId = point.tenantId
  deviceId : kept.deviceId = point.deviceId
  timestamp : kept.timestamp = point.timestamp.stored clock
  cut : point.timestamp.IsOrdinary → kept.timestamp = point.timestamp.cut
  adapter : kept.adapter = point.adapter
  cpuPercent : Column.Keeps point.cpuPercent kept.cpuPercent
  memoryPercent : Column.Keeps point.memoryPercent kept.memoryPercent
  uptimeSeconds : kept.uptimeSeconds = point.uptimeSeconds
  temperatureCelsius : Column.Keeps point.temperatureCelsius kept.temperatureCelsius
  metrics : kept.metrics = point.metrics
  interfaces : kept.interfaces = point.interfaces

def MetricsPoint.asRead (point : MetricsPoint) (clock : Instant) : MetricsPoint :=
  { point with
    timestamp := point.timestamp.stored clock
    cpuPercent := Column.ofFloat point.cpuPercent
    memoryPercent := Column.ofFloat point.memoryPercent
    temperatureCelsius := Column.ofFloat point.temperatureCelsius }

/-! ### Rows -/

theorem Column.toValue_compact {α : Type} {value : Json} (hexact : value.IsExact) (read : Decode.Reader α) :
    Column.toValue read value.compact
      = (read .text (Json.Node.ofValue value)).mapError fun error => .serialization error.message := by
  rw [Column.toValue, Json.Document.ofText_compact hexact, Decode.readDocument]
  cases read .text (Json.Node.ofValue value) <;> rfl

/-- The refusal of a row whose metrics hold what is no metric. -/
def Column.noMetric : StorageError := .serialization (Decode.Error.noVariant "MetricValue").message

theorem Column.toValue_metrics {metrics : Metrics} (hbag : metrics.IsBag) (hexact : metrics.isExact = true) :
    Column.toValue Metrics.read metrics.document.compact
      = if metrics.isFinite then .ok metrics else .error Column.noMetric := by
  rw [Column.toValue_compact (Metrics.isExact_document hbag hexact), Metrics.read_document hbag]
  cases metrics.isFinite <;> rfl

/-- What a document holds for a reader is what a column with its text has. -/
theorem Column.toValue_of_holds {α : Type} {read : Decode.Reader α} {document : Json} {value : α}
    (hholds : Decode.Holds read document value) : Column.toValue read document.compact = .ok value := by
  rw [Column.toValue_compact hholds.exact, hholds.read]
  rfl

theorem Column.toValue_interfaces {interfaces : List InterfaceStatus} (hfits : ∀ status ∈ interfaces, status.Fits) :
    Column.toValue (Decode.listOf InterfaceStatus.read)
      (Json.array (interfaces.map InterfaceStatus.document)).compact = .ok interfaces :=
  Column.toValue_of_holds (Decode.holds_list fun status hmem => (hfits status hmem).holds)

theorem PointRow.toPoint_ofPoint {point : MetricsPoint} (hbag : point.metrics.IsBag) (hexact : point.metrics.isExact = true)
    (hfits : ∀ status ∈ point.interfaces, status.Fits) (clock : Instant) :
    (ofPoint point).toPoint clock point.deviceId
      = if point.metrics.isFinite then .ok (point.asRead clock) else .error Column.noMetric := by
  have htenant : Column.toUuid point.tenantId.text = .ok point.tenantId := by
    rw [Column.toUuid, Uuid.parse?_text]
  simp only [toPoint, ofPoint, htenant, Column.toValue_metrics hbag hexact, Column.toValue_interfaces hfits]
  cases point.metrics.isFinite <;> rfl

/-! ### What was written last is what is read -/

theorem MemoryStore.latestMetrics?_writeMetrics (store : MemoryStore) (point : MetricsPoint) :
    (store.writeMetrics point).latestMetrics? point.deviceId = some point := by
  rw [latestMetrics?, writeMetrics, Table.get?_put_self, Option.bind_some, pushNewest]
  split <;> rfl

theorem Database.latestMetrics?_writeMetrics {database : Database} {point : MetricsPoint}
    (hnewest : ∀ row ∈ database.pointsOf point.deviceId, row.timestamp ≤ point.timestamp.toMillis)
    (clock : Instant) : (database.writeMetrics point).latestMetrics? clock point.deviceId
      = ((PointRow.ofPoint point).toPoint clock point.deviceId).map some := by
  have hrows : (database.writeMetrics point).points.filter (·.deviceId == point.deviceId.text)
      = PointRow.ofPoint point :: database.pointsOf point.deviceId :=
    List.filter_cons_of_pos (beq_self_eq_true point.deviceId.text)
  rw [latestMetrics?, hrows, latestRow?_cons hnewest]

theorem MetricsPoint.isKeptAs_ofResult {result : PollResult} (hfinite : result.metrics.isFinite = true)
    (tenantId deviceId : Uuid) (timestamp clock : Instant) :
    (ofResult tenantId deviceId timestamp result).IsKeptAs clock
      ((ofResult tenantId deviceId timestamp result).asRead clock) where
  tenantId := rfl
  deviceId := rfl
  timestamp := rfl
  cut hordinary := Column.toInstant_toMillis hordinary
  adapter := rfl
  cpuPercent := Column.keeps_ofFloat fun _ hvalue => Metrics.isNaN_of_isFinite hfinite hvalue
  memoryPercent := Column.keeps_ofFloat fun _ hvalue => Metrics.isNaN_of_isFinite hfinite hvalue
  uptimeSeconds := rfl
  temperatureCelsius :=
    Column.keeps_ofFloat fun _ hvalue => Metrics.isNaN_of_isFinite hfinite (Option.filter_eq_some_iff.1 hvalue).1
  metrics := rfl
  interfaces := rfl

/-- The point written last is read back when all doubles among its metrics are finite, and otherwise no point of the device is read at all, although the write did not refuse it. That is so under any clock, and for whatever the adapter for RouterOS answers as for every typed result. -/
theorem latest_metrics_of_written (database : Database) {result : PollResult}
    (htyped : result.IsTyped ∨ RouterOs.IsAnswer result)
    (hexact : result.metrics.isExact = true) (tenantId deviceId : Uuid) (timestamp : Instant)
    (hnewest : ∀ row ∈ database.pointsOf deviceId, row.timestamp ≤ timestamp.toMillis) :
    ∃ after, Store.writeMetrics database (.ofResult tenantId deviceId timestamp result) = .ok after
      ∧ (result.metrics.isFinite = true → ∀ clock, ∃ kept, after.latestMetrics? clock deviceId = .ok (some kept)
        ∧ kept.metrics = result.metrics ∧ kept.interfaces = result.interfaces
        ∧ ∀ store : MemoryStore, ∃ held point,
          Store.writeMetrics store (.ofResult tenantId deviceId timestamp result) = .ok held
            ∧ held.latestMetrics? deviceId = some point ∧ point.IsKeptAs clock kept)
      ∧ (result.metrics.isFinite = false → ∀ clock, after.latestMetrics? clock deviceId
        = .error (.serialization "data did not match any variant of untagged enum MetricValue")) := by
  replace htyped : result.IsTyped := htyped.elim id RouterOs.IsAnswer.isTyped
  obtain ⟨point, hpoint⟩ : ∃ point, MetricsPoint.ofResult tenantId deviceId timestamp result = point := ⟨_, rfl⟩
  have hdevice : point.deviceId = deviceId := by rw [← hpoint]; rfl
  have htime : point.timestamp = timestamp := by rw [← hpoint]; rfl
  have hmetrics : point.metrics = result.metrics := by rw [← hpoint]; rfl
  have hinterfaces : point.interfaces = result.interfaces := by rw [← hpoint]; rfl
  have hread (clock : Instant) : (database.writeMetrics point).latestMetrics? clock deviceId
      = ((PointRow.ofPoint point).toPoint clock deviceId).map some := by
    rw [← htime, ← hdevice] at hnewest
    rw [← hdevice]
    exact Database.latestMetrics?_writeMetrics hnewest clock
  have hrow (clock : Instant) : (PointRow.ofPoint point).toPoint clock deviceId
      = if result.metrics.isFinite then .ok (point.asRead clock) else .error Column.noMetric := by
    rw [← hmetrics] at hexact ⊢
    rw [← hdevice]
    exact PointRow.toPoint_ofPoint (hmetrics ▸ htyped.metrics) hexact (hinterfaces ▸ htyped.interfaces) clock
  rw [hpoint]
  refine ⟨database.writeMetrics point, rfl, fun hfinite clock => ?_, fun hinfinite clock => ?_⟩
  · refine ⟨point.asRead clock, ?_, hmetrics, ?_, fun store => ?_⟩
    · rw [hread, hrow, if_pos hfinite]
      rfl
    · exact hinterfaces
    · refine ⟨store.writeMetrics point, point, rfl, ?_, ?_⟩
      · rw [← hdevice, store.latestMetrics?_writeMetrics]
      · subst hpoint
        exact MetricsPoint.isKeptAs_ofResult hfinite tenantId deviceId timestamp clock
  · rw [hread, hrow, hinfinite]
    rfl

/-- A result with a metric of every kind and an interface; its load is a zero with a sign. -/
def PollResult.sample : PollResult :=
  { (PollResult.start (.sample 1) "snmp" ⟨1000, 0⟩).succeed ⟨1001, 0⟩ with
    metrics := ⟨[("cpu_percent", .float (-0.0)), ("fan_failed", .bool false), ("power_dbm", .float (-44.4)),
      ("system_name", .text "edge \"1\""), ("uptime_seconds", .integer 86400)]⟩
    interfaces := [⟨"ether1", some 1, true, true, 18446744073709551615, 0, 0, 0⟩] }

def Database.samplePoint : Database :=
  (Database.create "poll.db").writeMetrics (.ofResult .nil ⟨1⟩ ⟨1000, 0⟩ .sample)

theorem latest_metrics_of_written_sample :
    (PollResult.sample.metrics.isExact = true ∧ PollResult.sample.IsTyped
      ∧ ∀ row ∈ Database.samplePoint.pointsOf ⟨1⟩, row.timestamp ≤ Instant.toMillis ⟨1001, 500000⟩)
    ∧ ∃ after kept, Store.writeMetrics Database.samplePoint (.ofResult .nil ⟨1⟩ ⟨1001, 500000⟩ .sample) = .ok after
      ∧ after.latestMetrics? ⟨1002, 0⟩ ⟨1⟩ = .ok (some kept) ∧ kept.metrics = PollResult.sample.metrics
      ∧ kept.interfaces = PollResult.sample.interfaces ∧ kept.timestamp = ⟨1001, 0⟩ := by
  have hexact : PollResult.sample.metrics.isExact = true := by decide +kernel
  have hfinite : PollResult.sample.metrics.isFinite = true := by decide +kernel
  have htyped : PollResult.sample.IsTyped := by
    refine ⟨⟨by decide, by decide +kernel⟩, fun status hmem => ?_⟩
    obtain rfl := List.mem_singleton.1 hmem
    exact ⟨by decide, by decide, by decide, by decide, by decide⟩
  have hnewest : ∀ row ∈ Database.samplePoint.pointsOf ⟨1⟩, row.timestamp ≤ Instant.toMillis ⟨1001, 500000⟩ := by
    decide +kernel
  obtain ⟨after, hwrite, hread, _⟩ :=
    latest_metrics_of_written Database.samplePoint (.inl htyped) hexact .nil ⟨1⟩ ⟨1001, 500000⟩ hnewest
  obtain ⟨kept, hlatest, hmetrics, hinterfaces, hsame⟩ := hread hfinite ⟨1002, 0⟩
  obtain ⟨held, point, hheld, hpoint, hkept⟩ := hsame .empty
  cases hheld
  cases hpoint
  exact ⟨⟨hexact, htyped, hnewest⟩, after, kept, hwrite, hlatest, hmetrics, hinterfaces, hkept.timestamp⟩

open RouterOs in
/-- A router whose load is no number answers the poll, and its point is written, but then no point of it can be read. -/
theorem latest_metrics_lost_after_nan_load :
    (Decode.readDocument SystemResource.read (.ofText "\x7b\"cpu-load\":\"nan\"\x7d")).toOption.map (fun resource =>
      ((Database.create "poll.db").writeMetrics (.ofResult .nil ⟨1⟩ ⟨1000, 0⟩
        { (PollResult.start (.sample 1) "mikrotik_api" ⟨1000, 0⟩).succeed ⟨1001, 0⟩ with
          metrics := resource.addTo .empty })).latestMetrics? ⟨1002, 0⟩ ⟨1⟩)
      = some (.error (.serialization "data did not match any variant of untagged enum MetricValue")) := by
  decide +kernel

end RouterPoll
