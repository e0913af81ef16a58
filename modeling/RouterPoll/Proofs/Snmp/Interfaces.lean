import RouterPoll.Proofs.Snmp.Partial
import RouterPoll.Proofs.Store.Table

/-!
# The table of interfaces

The columns of the table of interfaces are walked one after the other, and the rows of each are applied as they come, every row to the first interface that has its index. Where no index is described twice, an interface ends up with what the last row with its index says in each column, whatever else the columns hold: rows in any order, rows that say it again, rows about interfaces that nobody described. A column that could not be walked says nothing.
-/

namespace RouterPoll

namespace Snmp

/-! ### One column -/

/-- The last row of a column about an index, if there is an index and such a row. -/
def lastAbout (rows : List Row) (index : Option Nat) : Option Row := index.bind (lastBearing (·.1) rows)

theorem lastAbout_cons (row : Row) (rows : List Row) (index : Option Nat) : lastAbout (row :: rows) index
    = (lastAbout rows index).or (if index = some row.1 then some row else none) := by
  cases index with
  | none => rfl
  | some index =>
      have hlast : lastBearing (·.1) (row :: rows) index
          = (lastBearing (·.1) rows index).or (if row.1 == index then some row else none) :=
        lastBearing_cons row rows index
      by_cases hsame : row.1 = index
      · rw [if_pos (beq_iff_eq.2 hsame)] at hlast
        rw [if_pos (congrArg some hsame.symm)]
        exact hlast
      · rw [if_neg (mt beq_iff_eq.1 hsame)] at hlast
        rw [if_neg fun hother => hsame (Option.some_inj.1 hother).symm]
        exact hlast

namespace Column

/-- A column of which each number takes the place of the one before, and none touches the index. -/
structure Overwrites (column : Column) : Prop where
  index_apply : ∀ value status, (column.apply value status).index = status.index
  apply_apply : ∀ first last status,
    column.apply last (column.apply first status) = column.apply last status

theorem overwrites_of_mem {column : Column} (hmem : column ∈ columns) : column.Overwrites := by
  simp only [columns, List.mem_cons, List.not_mem_nil, or_false] at hmem
  obtain rfl | rfl | rfl | rfl := hmem <;> exact ⟨fun _ _ => rfl, fun _ _ _ => rfl⟩

/-- An interface after the rows of a column, of which the last one about it counts. -/
def settle (column : Column) (rows : List Row) (status : InterfaceStatus) : InterfaceStatus :=
  match lastAbout rows status.index with
  | some row => column.apply (row.2.asInteger?.getD 0) status
  | none => status

variable {column : Column} {rows : List Row} {row : Row} {status : InterfaceStatus}

theorem settle_nil : column.settle [] status = status := by
  rw [settle]
  cases status.index <;> rfl

theorem settle_singleton : column.settle [row] status
    = if status.index = some row.1 then column.apply (row.2.asInteger?.getD 0) status else status := by
  have hnone : lastAbout [] status.index = none := by cases status.index <;> rfl
  rw [settle, lastAbout_cons, hnone, Option.none_or]
  by_cases hsame : status.index = some row.1
  · rw [if_pos hsame, if_pos hsame]
  · rw [if_neg hsame, if_neg hsame]

theorem index_settle (hcolumn : column.Overwrites) (rows : List Row) (status : InterfaceStatus) :
    (column.settle rows status).index = status.index := by
  rw [settle]
  split
  · exact hcolumn.index_apply ..
  · rfl

/-- A row counts only where no later one is about the same interface. -/
theorem settle_settle (hcolumn : column.Overwrites) :
    column.settle rows (column.settle [row] status) = column.settle (row :: rows) status := by
  rw [settle.eq_def column rows, index_settle hcolumn, settle.eq_def column (row :: rows), lastAbout_cons]
  cases lastAbout rows status.index with
  | none =>
      rw [Option.none_or]
      show column.settle [row] status = _
      rw [settle_singleton]
      by_cases hsame : status.index = some row.1
      · rw [if_pos hsame, if_pos hsame]
      · rw [if_neg hsame, if_neg hsame]
  | some last =>
      show column.apply _ (column.settle [row] status) = column.apply _ status
      rw [settle_singleton]
      split
      · exact hcolumn.apply_apply ..
      · rfl

end Column

/-! ### The rows of a column, one by one -/

def IsIndexed (interfaces : List InterfaceStatus) : Prop := (interfaces.filterMap (·.index)).Nodup

section

variable {column : Column} {interfaces : List InterfaceStatus}

theorem IsIndexed.map_settle (hindexed : IsIndexed interfaces) (hcolumn : column.Overwrites)
    (rows : List Row) : IsIndexed (interfaces.map (column.settle rows)) := by
  rw [IsIndexed, List.filterMap_map]
  have hsame : (·.index) ∘ column.settle rows = fun status : InterfaceStatus => status.index :=
    funext (column.index_settle hcolumn rows)
  rw [hsame]
  exact hindexed

theorem applyRow_eq (hindexed : IsIndexed interfaces) (row : Row) :
    applyRow column row interfaces = interfaces.map (column.settle [row]) := by
  induction interfaces with
  | nil => rfl
  | cons status rest ih =>
      rw [applyRow, List.map_cons, Column.settle_singleton]
      by_cases hsame : status.index = some row.1
      · have hothers : ∀ other ∈ rest, column.settle [row] other = other := by
          intro other hmem
          rw [Column.settle_singleton, if_neg]
          intro hother
          rw [IsIndexed, List.filterMap_cons_some hsame, List.nodup_cons] at hindexed
          exact hindexed.1 (List.mem_filterMap.2 ⟨other, hmem, hother⟩)
        rw [if_pos (beq_iff_eq.2 hsame), if_pos hsame, List.map_congr_left hothers, List.map_id']
      · have hrest : IsIndexed rest :=
          hindexed.sublist ((List.sublist_cons_self status rest).filterMap _)
        rw [if_neg (mt beq_iff_eq.1 hsame), if_neg hsame, ih hrest]

theorem applyRows_eq (hcolumn : column.Overwrites) (hindexed : IsIndexed interfaces) (rows : List Row) :
    applyRows column rows interfaces = interfaces.map (column.settle rows) := by
  induction rows generalizing interfaces with
  | nil =>
      rw [List.map_congr_left fun status _ => Column.settle_nil, List.map_id']
      rfl
  | cons row rows ih =>
      rw [applyRows, List.foldl_cons, ← applyRows, applyRow_eq hindexed,
        ih (hindexed.map_settle hcolumn [row]), List.map_map]
      exact List.map_congr_left fun status _ => Column.settle_settle hcolumn

end

/-! ### All columns -/

/-- The number in the last row of a column about an index: zero if the column could not be walked, if no row is about the index, or if there is no number in the last one. -/
def lastNumber (rows : Option (List Row)) (index : Option Nat) : Int :=
  ((lastAbout (rows.getD []) index).bind fun row => row.2.asInteger?).getD 0

/-- The interface of a description row, joined by its index to what the other columns say of it. An index that does not fit 32 bits is none, and nothing is about it. -/
def joined (admin oper received sent : Option (List Row)) (row : Row) : InterfaceStatus :=
  let index := if row.1 < Text.limit32 then some row.1 else none
  { name := row.2.shown
    index
    operUp := lastNumber oper index == 1
    adminUp := lastNumber admin index == 1
    rxBytes := (lastNumber received index).toNat
    txBytes := (lastNumber sent index).toNat
    rxPackets := 0
    txPackets := 0 }

/-- Where a zero says nothing new, an interface after a column has the number in the last row about it. -/
theorem Column.settle_of_zero {column : Column} {status : InterfaceStatus} (hzero : column.apply 0 status = status)
    (rows : Option (List Row)) :
    column.settle (rows.getD []) status = column.apply (lastNumber rows status.index) status := by
  rw [settle, lastNumber]
  cases lastAbout (rows.getD []) status.index with
  | none => exact hzero.symm
  | some row => rfl

section

variable {rows : List Row} {admin oper received sent : Option (List Row)}

theorem isIndexed_described (hnodup : (rows.map (·.1)).Nodup) : IsIndexed (rows.map interfaceOf) := by
  have hindices : (rows.map interfaceOf).filterMap (·.index) = (rows.map (·.1)).filter (· < Text.limit32) := by
    rw [List.filterMap_map, ← List.filterMap_eq_filter, List.filterMap_map]
    refine List.filterMap_congr fun row _ => ?_
    simp [interfaceOf, Option.guard]
  rw [IsIndexed, hindices]
  exact hnodup.filter _

theorem settle_columns (row : Row) : outColumn.settle (sent.getD []) (inColumn.settle (received.getD [])
    (operColumn.settle (oper.getD []) (adminColumn.settle (admin.getD []) (interfaceOf row))))
      = joined admin oper received sent row := by
  rw [adminColumn.settle_of_zero rfl, operColumn.settle_of_zero rfl, inColumn.settle_of_zero rfl,
    outColumn.settle_of_zero rfl]
  rfl

theorem interfacesFrom_eq (hnodup : (rows.map (·.1)).Nodup) :
    interfacesFrom rows admin oper received sent = rows.map (joined admin oper received sent) := by
  have hadmin : adminColumn.Overwrites := Column.overwrites_of_mem (by simp [columns])
  have hoper : operColumn.Overwrites := Column.overwrites_of_mem (by simp [columns])
  have hreceived : inColumn.Overwrites := Column.overwrites_of_mem (by simp [columns])
  have hsent : outColumn.Overwrites := Column.overwrites_of_mem (by simp [columns])
  have hdescribed := isIndexed_described hnodup
  have hfirst := hdescribed.map_settle hadmin (admin.getD [])
  have hsecond := hfirst.map_settle hoper (oper.getD [])
  have hthird := hsecond.map_settle hreceived (received.getD [])
  rw [interfacesFrom, applyRows_eq hadmin hdescribed, applyRows_eq hoper hfirst, applyRows_eq hreceived hsecond,
    applyRows_eq hsent hthird, List.map_map, List.map_map, List.map_map, List.map_map]
  exact List.map_congr_left fun row _ => settle_columns row

end

/-- Where the descriptions could be walked and no index is described twice, there is one interface for each description, in their order, and in each of the other columns the last row about its index says what there is to say of it. A column that could not be walked, or has no row about an index, leaves what is known of an interface without rows; and rows about one interface say nothing of another. -/
theorem collectInterfaces_joins {ε : Type} [Surroundings ε] {session : Session} {link : Link ε}
    {start described administered operated received after : ε} {rows : List Row}
    {admin oper input output : Except PollError (List Row)}
    (hrows : session.walk link ifDescr start = some (.ok rows, described)) (hnodup : (rows.map (·.1)).Nodup)
    (hadmin : session.walk link ifAdminStatus described = some (admin, administered))
    (hoper : session.walk link ifOperStatus administered = some (oper, operated))
    (hinput : session.walk link ifInOctets operated = some (input, received))
    (houtput : session.walk link ifOutOctets received = some (output, after)) (result : PollResult) :
    ∃ collected, (collectInterfaces session link result).run start = some (collected, after)
      ∧ collected.interfaces
        = rows.map (joined admin.toOption oper.toOption input.toOption output.toOption) := by
  refine ⟨withInterfaces (interfacesFrom rows admin.toOption oper.toOption input.toOption output.toOption) result,
    ?_, interfacesFrom_eq hnodup⟩
  have hwalk (root : Oid) : (walk session link root).run = session.walk link root := rfl
  have hcolumns : (readColumns session link (some rows)).run described
      = some ((admin.toOption, oper.toOption, input.toOption, output.toOption), after) := by
    simp only [readColumns, StateT.run_bind, hwalk, hadmin, hoper, hinput, houtput, Option.bind_eq_bind,
      Option.bind_some]
    rfl
  rw [collectInterfaces_eq, StateT.run_bind, hwalk, hrows, Option.bind_eq_bind, Option.bind_some]
  dsimp only [Except.toOption] at hcolumns ⊢
  rw [StateT.run_bind, hcolumns]
  rfl

/-! ### A switch with three ports -/

/-- An agent with a table of interfaces and one page for each column. The states in operation can not be read; the index of the third interface does not fit 32 bits. -/
def switchAgent : Link Heard where
  send request heard :=
    let rowsOf (column : Oid) : List (Nat × Value) :=
      if column == ifDescr then
        [(1, .octets [112, 49]), (7, .octets [112, 55]), (4294967296, .octets [112, 57])]
      else if column == ifAdminStatus then [(7, .integer 1), (1, .integer 1), (7, .integer 2), (9, .integer 1)]
      else if column == ifInOctets then [(1, .integer (-5)), (7, .counter32 10), (7, .octets [49])]
      else [(7, .counter64 30), (4294967296, .counter32 40)]
    let heard : Heard := ⟨request :: heard.requests⟩
    match request with
    | .bulk column _ =>
      if column == ifOperStatus then (.silence, heard)
      else (.bindings ((rowsOf column).map (fun row => ⟨column ++ [row.1], row.2⟩) ++ [⟨column, .endOfMib⟩]), heard)
    | _ => (.silence, heard)
  pause heard := heard

def switchSession : Session := ⟨"192.0.2.1:161", true, 30000, 3⟩

theorem collectInterfaces_joins_switch : ∃ collected after,
    (collectInterfaces switchSession switchAgent (.start (.sample 1) adapterName default)).run ⟨[]⟩ = some (collected, after)
    ∧ collected.interfaces = [
      { name := "p1", index := some 1, operUp := false, adminUp := true, rxBytes := 0, txBytes := 0,
        rxPackets := 0, txPackets := 0 },
      { name := "p7", index := some 7, operUp := false, adminUp := false, rxBytes := 0, txBytes := 30,
        rxPackets := 0, txPackets := 0 },
      { name := "p9", index := none, operUp := false, adminUp := false, rxBytes := 0, txBytes := 0,
        rxPackets := 0, txPackets := 0 }] := by
  have hrows : switchSession.walk switchAgent ifDescr ⟨[]⟩
      = some (.ok [(1, .text "p1"), (7, .text "p7"), (4294967296, .text "p9")],
        ⟨[.bulk ifDescr walkRepetitions]⟩) := by
    rw [Session.walk, Session.walkFrom]
    rfl
  have hadmin (requests : List Request) : switchSession.walk switchAgent ifAdminStatus ⟨requests⟩
      = some (.ok [(7, .integer 1), (1, .integer 1), (7, .integer 2), (9, .integer 1)],
        ⟨.bulk ifAdminStatus walkRepetitions :: requests⟩) := by
    rw [Session.walk, Session.walkFrom]
    rfl
  have hoper (requests : List Request) : switchSession.walk switchAgent ifOperStatus ⟨requests⟩
      = some (.error (switchSession.timeout "snmp walk"), ⟨.bulk ifOperStatus walkRepetitions :: requests⟩) := by
    rw [Session.walk, Session.walkFrom]
    rfl
  have hinput (requests : List Request) : switchSession.walk switchAgent ifInOctets ⟨requests⟩
      = some (.ok [(1, .integer (-5)), (7, .integer 10), (7, .text "1")],
        ⟨.bulk ifInOctets walkRepetitions :: requests⟩) := by
    rw [Session.walk, Session.walkFrom]
    rfl
  have houtput (requests : List Request) : switchSession.walk switchAgent ifOutOctets ⟨requests⟩
      = some (.ok [(7, .integer 30), (4294967296, .integer 40)],
        ⟨.bulk ifOutOctets walkRepetitions :: requests⟩) := by
    rw [Session.walk, Session.walkFrom]
    rfl
  obtain ⟨collected, hcollected, hinterfaces⟩ :=
    collectInterfaces_joins hrows (by decide) (hadmin _) (hoper _) (hinput _) (houtput _) _
  exact ⟨collected, _, hcollected, hinterfaces⟩

end Snmp

end RouterPoll
