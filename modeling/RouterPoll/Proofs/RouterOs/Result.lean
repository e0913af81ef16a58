import RouterPoll.Proofs.Json.Sized
import RouterPoll.Proofs.Poll.Document
import RouterPoll.RouterOs.Adapter

/-!
# What a RouterOS poll brings back

Whatever a router answers, the result of a poll is of the types it is declared with: its metrics are a bag, and the counters of its interfaces have 64 bits. The counts among the metrics are cut to what a metric can hold, and the counters are read from texts, whose numbers have 64 bits.
-/

namespace RouterPoll

namespace RouterOs

/-! ### Rows of tables -/

theorem natOf?_lt {value : Json} (hsized : value.IsSized) {count : Nat} (hcount : natOf? value = some count) :
    count < Text.limit64 := by
  unfold natOf? at hcount
  split at hcount
  · cases hcount
    cases hsized with
    | number hsized => exact Int.ofNat_lt.1 hsized.2
  · exact of_decide_eq_true (Option.filter_eq_some_iff.1 hcount).2
  · cases hcount

theorem counter_lt {row : Json} (hsized : row.IsSized) (key : String) : counter key row < Text.limit64 := by
  rw [counter]
  cases hcount : (row.field? key).bind natOf? with
  | none => decide
  | some count =>
      obtain ⟨field, hfield, hnat⟩ := Option.bind_eq_some_iff.1 hcount
      exact natOf?_lt (hsized.field? hfield) hnat

theorem fits_interface? {row : Json} (hsized : row.IsSized) {status : InterfaceStatus}
    (hstatus : interface? row = some status) : status.Fits := by
  obtain ⟨name, _, hstatus⟩ := Option.bind_eq_some_iff.1 hstatus
  cases hstatus
  exact ⟨fun _ hindex => absurd hindex (Option.not_mem_none _), counter_lt hsized _, counter_lt hsized _, counter_lt hsized _,
    counter_lt hsized _⟩

theorem isSized_rowsOf {marks : List Text.Mark} {rows : List Json}
    (hrows : rowsOf (Json.Parser.document marks) = some rows) : ∀ row ∈ rows, row.IsSized := by
  have hroot := Json.Parser.isSized_document marks
  unfold rowsOf at hrows
  split at hrows
  · rename_i items harray _
    rw [harray] at hroot
    cases hroot with
    | array hitems =>
        cases hvalues : Json.Node.itemValues? (Json.depthLimit - 1) items with
        | error flaw =>
            rw [hvalues] at hrows
            cases hrows
        | ok values =>
            rw [hvalues] at hrows
            cases hrows
            exact Json.Node.isSized_of_itemValues? (fun item hmem => (hitems item hmem).givesSized) hvalues
  · cases hrows

/-! ### Replies -/

theorem exists_of_interpret {α : Type} {session : Session} {path url : String} {payload : Payload α} {reply : Reply}
    {value : α} (hvalue : session.interpret path url payload reply = .ok value) :
    ∃ body, payload (Json.Document.ofBytes body) = some value := by
  unfold Session.interpret at hvalue
  split at hvalue
  case h_5 status body =>
    split at hvalue
    · split at hvalue
      · rename_i found hfound
        cases hvalue
        exact ⟨body, hfound⟩
      · cases hvalue
    · split at hvalue <;> cases hvalue
  all_goals cases hvalue

section

variable {ε : Type} [Surroundings ε]

theorem exists_of_get {α : Type} {session : Session} {link : Link ε} {payload : Payload α} {path : String} {env : ε}
    {value : α} (hvalue : (session.get link payload path env).1 = .ok value) :
    ∃ body, payload (Json.Document.ofBytes body) = some value := by
  unfold Session.get at hvalue
  split at hvalue
  · cases hvalue
  · split at hvalue
    · cases hvalue
    · split at hvalue
      · cases hvalue
      · split at hvalue
        · cases hvalue
        · exact exists_of_interpret hvalue

def IsSizedTable (table : Table) : Prop := ∀ rows ∈ table, ∀ row ∈ rows, row.IsSized

theorem isSized_tableIf (asked : Bool) (session : Session) (link : Link ε) (path : String) (env : ε) :
    IsSizedTable (tableIf asked session link path env).1 := by
  intro rows hrows
  unfold tableIf at hrows
  split at hrows
  · cases hget : (session.get link rowsOf path env).1 with
    | error error =>
        simp only [hget] at hrows
        cases hrows
    | ok found =>
        simp only [hget] at hrows
        cases hrows
        obtain ⟨body, hbody⟩ := exists_of_get hget
        exact isSized_rowsOf hbody
  · cases hrows

/-! ### Results -/

theorem isBag_addTo (resource : SystemResource) {metrics : Metrics} (hbag : metrics.IsBag) :
    (resource.addTo metrics).IsBag := by
  have hmemory : ∀ entry ∈ resource.memory, entry.2.fits = true := by
    unfold SystemResource.memory
    split
    · unfold SystemResource.memoryMetrics
      split
      · exact fun _ hmem => absurd hmem List.not_mem_nil
      · simp only [List.forall_mem_cons, List.not_mem_nil, false_implies, implies_true, and_true]
        exact ⟨MetricValue.fits_ofNat _, MetricValue.fits_ofNat _, MetricValue.fits_ofNat _, rfl⟩
    · exact fun _ hmem => absurd hmem List.not_mem_nil
  unfold SystemResource.addTo
  refine ((((hbag.setIf _ ?_).setAll hmemory).setIf _ ?_).setIf _ ?_).setIf _ ?_
  all_goals
    intro value hvalue
    obtain ⟨given, _, rfl⟩ := Option.map_eq_some_iff.1 hvalue
  · rfl
  · exact MetricValue.fits_ofNat given
  · rfl
  · rfl

variable {result : PollResult} {table : Table}

theorem isTyped_addInterfaces (htyped : result.IsTyped) (htable : IsSizedTable table) :
    (addInterfaces table result).IsTyped := by
  cases table with
  | none => exact htyped
  | some rows =>
      refine ⟨htyped.metrics.set _ (MetricValue.fits_ofNat _), fun status hmem => ?_⟩
      obtain ⟨row, hrow, hstatus⟩ := List.mem_filterMap.1 hmem
      exact fits_interface? (htable rows rfl row hrow) hstatus

theorem isTyped_addPppoe (htyped : result.IsTyped) : (addPppoe table result).IsTyped := by
  cases table with
  | none => exact htyped
  | some rows => exact ⟨htyped.metrics.set _ (MetricValue.fits_ofNat _), htyped.interfaces⟩

theorem isTyped_addNat (htyped : result.IsTyped) : (addNat table result).IsTyped := by
  cases table with
  | none => exact htyped
  | some rows => exact ⟨htyped.metrics.set _ (MetricValue.fits_ofNat _), htyped.interfaces⟩

theorem isTyped_addLeases (htyped : result.IsTyped) : (addLeases table result).IsTyped := by
  cases table with
  | none => exact htyped
  | some rows => exact ⟨htyped.metrics.set _ (MetricValue.fits_ofNat _), htyped.interfaces⟩

theorem isTyped_collect (session : Session) (link : Link ε) (device : Device) (htyped : result.IsTyped) (env : ε) :
    (collect session link device result env).1.IsTyped :=
  isTyped_addLeases (isTyped_addNat (isTyped_addPppoe (isTyped_addInterfaces htyped (isSized_tableIf true session link
    interfacePath env))))

theorem isTyped_conclude (htyped : result.IsTyped) (env : ε) : (result.conclude env).IsTyped := by
  unfold PollResult.conclude
  split <;> exact ⟨htyped.metrics, htyped.interfaces⟩

/-- Every result that a router's answers make the adapter build is typed. -/
theorem isTyped_of_answered {link : Link ε} {settings : TransportSettings} {device : Device} {env : ε}
    (hanswered : (poll link settings device env).1 = .answered result) : result.IsTyped := by
  unfold poll at hanswered
  dsimp only at hanswered
  split at hanswered
  · cases hanswered
  · rename_i session _
    split at hanswered
    · cases hanswered
    · rename_i resource _
      cases hanswered
      refine isTyped_conclude (isTyped_collect session link device ⟨isBag_addTo resource Metrics.isBag_empty, ?_⟩ _) _
      exact fun _ hmem => absurd hmem List.not_mem_nil

end

/-- A result that the adapter makes of what some router answers. -/
def IsAnswer (result : PollResult) : Prop :=
  ∃ (ε : Type) (_ : Surroundings ε) (link : Link ε) (settings : TransportSettings) (device : Device) (env : ε),
    (poll link settings device env).1 = .answered result

theorem IsAnswer.isTyped {result : PollResult} (hanswer : IsAnswer result) : result.IsTyped := by
  obtain ⟨ε, _, link, settings, device, env, hanswered⟩ := hanswer
  exact isTyped_of_answered hanswered

end RouterOs

end RouterPoll
