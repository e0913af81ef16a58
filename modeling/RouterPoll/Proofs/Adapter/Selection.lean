import Mathlib.Data.List.Nodup
import RouterPoll.Adapter.Script
import RouterPoll.Adapter.Standard
import RouterPoll.Proofs.Adapter.Registry
import RouterPoll.Proofs.Store.Memory

/-!
# The order of candidates

A registry selects, entry by entry, the adapters that answer to an entry and can handle the device. An adapter is selected at the first entry it answers to, so the selection is sorted by the place of that entry and then by registration. It is empty only if no capable adapter answers to any entry, and then all capable adapters are selected in the order of their registration. Without an explicit order the entries name all enabled methods, so nobody who needs an enabled method is left out, and the preferred entry, unless it is empty, comes first.
-/

namespace RouterPoll

variable {ε : Type}

namespace Adapter

def isCapable (device : Device) (adapter : Adapter ε) : Bool := adapter.canHandle device == some true

/-- The place of the first entry that an adapter answers to. -/
def rank (entries : List String) (adapter : Adapter ε) : Nat := entries.findIdx adapter.answersTo

theorem isCapable_iff {device : Device} {adapter : Adapter ε} :
    adapter.isCapable device = true ↔ adapter.canHandle device = some true := by
  simp [isCapable]

theorem rank_lt_iff {entries : List String} {adapter : Adapter ε} :
    adapter.rank entries < entries.length ↔ entries.any adapter.answersTo = true := by
  rw [rank, List.findIdx_lt_length, List.any_eq_true]

theorem rank_append_of_any {front : List String} {adapter : Adapter ε} (rest : List String)
    (hany : front.any adapter.answersTo = true) : adapter.rank (front ++ rest) = adapter.rank front := by
  have hlt := rank_lt_iff.2 hany
  unfold rank at hlt ⊢
  rw [List.findIdx_append, if_pos hlt]

theorem rank_append_singleton {front : List String} {entry : String} {adapter : Adapter ε}
    (hnone : front.any adapter.answersTo = false) (hentry : adapter.answersTo entry = true) :
    adapter.rank (front ++ [entry]) = front.length := by
  have hge : ¬ front.findIdx adapter.answersTo < front.length := by
    intro hlt
    have hany := rank_lt_iff.1 hlt
    rw [hnone] at hany
    cases hany
  unfold rank
  rw [List.findIdx_append, if_neg hge]
  simp [List.findIdx_cons, hentry]

end Adapter

namespace Registry

variable {registry : Registry ε} {device : Device}

/-! ### Registration -/

/-- The registry that was offered some adapters, one after the other. -/
def offered (given : List (Adapter ε)) : Registry ε :=
  given.foldl (fun registry adapter => (registry.register adapter).1) empty

theorem nodup_names_register (hnames : registry.names.Nodup) (adapter : Adapter ε) :
    (registry.register adapter).1.names.Nodup := by
  unfold register
  split
  · exact hnames
  · rename_i hnew
    simp only [names, List.map_append, List.map_cons, List.map_nil]
    apply List.Nodup.append hnames (List.nodup_singleton _)
    intro name hmem hother
    rw [List.mem_singleton.1 hother] at hmem
    exact hnew (List.contains_iff_mem.2 hmem)

theorem nodup_names_offered (given : List (Adapter ε)) : (offered given).names.Nodup := by
  suffices hfold : ∀ registry : Registry ε, registry.names.Nodup →
      (given.foldl (fun registry adapter => (registry.register adapter).1) registry).names.Nodup from
    hfold empty List.nodup_nil
  induction given with
  | nil => exact fun _ hnames => hnames
  | cons adapter given ih => exact fun registry hnames => ih _ (nodup_names_register hnames adapter)

def place (registry : Registry ε) (adapter : Adapter ε) : Nat := registry.names.idxOf adapter.name

theorem pairwise_place (hnames : registry.names.Nodup) :
    registry.adapters.Pairwise fun left right => registry.place left < registry.place right := by
  have hsorted : registry.names.Pairwise
      fun left right => registry.names.idxOf left < registry.names.idxOf right := by
    rw [List.pairwise_iff_getElem]
    intro first second hfirst hsecond hlt
    rwa [hnames.idxOf_getElem _ hfirst, hnames.idxOf_getElem _ hsecond]
  rw [names, List.pairwise_map] at hsorted
  exact hsorted

theorem eq_of_name_eq (hnames : registry.names.Nodup) {left right : Adapter ε} (hleft : left ∈ registry.adapters)
    (hright : right ∈ registry.adapters) (hname : left.name = right.name) : left = right :=
  List.inj_on_of_nodup_map hnames hleft hright hname

/-! ### One entry -/

/-- Whether an adapter is selected at an entry: it answers to it, is not selected yet, and is capable. -/
def joins (device : Device) (entry : String) (selected : List (Adapter ε)) (adapter : Adapter ε) : Bool :=
  adapter.answersTo entry && !selected.any (·.name == adapter.name) && adapter.isCapable device

theorem selectEntry_eq {entry : String} {adapters selected candidates : List (Adapter ε)}
    (hnames : (adapters.map (·.name)).Nodup)
    (hselect : selectEntry device entry adapters selected = some candidates) :
    candidates = selected ++ adapters.filter (joins device entry selected) := by
  induction adapters generalizing selected with
  | nil =>
      cases hselect
      simp
  | cons adapter rest ih =>
      obtain ⟨hfresh, hrest⟩ := List.nodup_cons.1 hnames
      rw [selectEntry] at hselect
      split at hselect
      · rename_i hasked
        simp only [Option.bind_eq_bind, Option.bind_eq_some_iff] at hselect
        obtain ⟨handles, hhandles, hselect⟩ := hselect
        have hthen := ih hrest hselect
        cases handles with
        | false => simpa [joins, hasked, Adapter.isCapable, hhandles] using hthen
        | true =>
            -- the adapters behind have other names, so for them nothing has changed
            have hsame : ∀ other ∈ rest, (selected ++ [adapter]).any (·.name == other.name)
                = selected.any (·.name == other.name) := by
              intro other hmem
              have hne : adapter.name ≠ other.name := fun hname =>
                hfresh (List.mem_map.2 ⟨other, hmem, hname.symm⟩)
              simp [hne]
            simp only [if_true] at hthen
            rw [hthen, List.append_assoc]
            congr 1
            rw [List.filter_cons_of_pos (by simp [joins, hasked, Adapter.isCapable, hhandles])]
            apply congrArg (adapter :: ·)
            apply List.filter_congr
            intro other hmem
            rw [joins, joins, hsame other hmem]
      · rename_i hunasked
        rw [ih hrest hselect, List.filter_cons_of_neg]
        intro hasked
        rw [joins, Bool.and_eq_true] at hasked
        exact hunasked hasked.1

theorem isSome_selectEntry (entry : String) {adapters : List (Adapter ε)}
    (hanswers : ∀ adapter ∈ adapters, (adapter.canHandle device).isSome = true) (selected : List (Adapter ε)) :
    (selectEntry device entry adapters selected).isSome = true := by
  induction adapters generalizing selected with
  | nil => rfl
  | cons adapter rest ih =>
      obtain ⟨hfirst, hrest⟩ := List.forall_mem_cons.1 hanswers
      obtain ⟨handles, hhandles⟩ := Option.isSome_iff_exists.1 hfirst
      rw [selectEntry, hhandles]
      split
      · exact ih hrest _
      · exact ih hrest _

/-! ### All entries -/

/-- What some entries select: the capable adapters that answer to one of them, sorted by the first entry they answer to and then by registration. -/
structure IsByEntries (registry : Registry ε) (device : Device) (entries : List String)
    (selection : List (Adapter ε)) : Prop where
  mem_iff : ∀ adapter, adapter ∈ selection ↔ adapter ∈ registry.adapters
    ∧ adapter.canHandle device = some true ∧ ∃ entry ∈ entries, adapter.answersTo entry = true
  sorted : selection.Pairwise fun left right => left.rank entries < right.rank entries
    ∨ left.rank entries = right.rank entries ∧ registry.place left < registry.place right

theorem isByEntries_nil : registry.IsByEntries device [] [] := ⟨by simp, List.Pairwise.nil⟩

theorem IsByEntries.any_name_iff {entries : List String} {selection : List (Adapter ε)}
    (hentries : registry.IsByEntries device entries selection) (hnames : registry.names.Nodup)
    {adapter : Adapter ε} (hmem : adapter ∈ registry.adapters) :
    selection.any (·.name == adapter.name) = true ↔ adapter ∈ selection := by
  rw [List.any_eq_true]
  constructor
  · rintro ⟨other, hother, hname⟩
    have hregistered := ((hentries.mem_iff other).1 hother).1
    rwa [← eq_of_name_eq hnames hregistered hmem (beq_iff_eq.1 hname)]
  · intro hselected
    exact ⟨adapter, hselected, beq_self_eq_true _⟩

theorem IsByEntries.mem_joins_iff {front : List String} {selected : List (Adapter ε)}
    (hfront : registry.IsByEntries device front selected) (hnames : registry.names.Nodup) (entry : String)
    (adapter : Adapter ε) :
    adapter ∈ registry.adapters.filter (joins device entry selected) ↔ adapter ∈ registry.adapters
      ∧ adapter.canHandle device = some true ∧ adapter.answersTo entry = true
      ∧ front.any adapter.answersTo = false := by
  rw [List.mem_filter]
  refine and_congr_right fun hmem => ?_
  have hselected := hfront.any_name_iff hnames hmem
  rw [hfront.mem_iff] at hselected
  simp only [joins, Bool.and_eq_true, Bool.not_eq_true', Adapter.isCapable_iff, ← Bool.not_eq_true, hselected,
    List.any_eq_true]
  grind

/-- An adapter that was not selected before comes with the first entry it answers to, behind all that were. -/
theorem IsByEntries.selectEntry {front : List String} {entry : String} {selected next : List (Adapter ε)}
    (hfront : registry.IsByEntries device front selected) (hnames : registry.names.Nodup)
    (hselect : Registry.selectEntry device entry registry.adapters selected = some next) :
    registry.IsByEntries device (front ++ [entry]) next := by
  have hnew := hfront.mem_joins_iff hnames entry
  rw [selectEntry_eq hnames hselect]
  constructor
  · intro adapter
    rw [List.mem_append, hnew, hfront.mem_iff]
    simp only [List.mem_append, List.mem_singleton, ← Bool.not_eq_true, List.any_eq_true]
    grind
  · have hold : ∀ adapter ∈ selected, front.any adapter.answersTo = true := by
      intro adapter hmem
      exact List.any_eq_true.2 ((hfront.mem_iff adapter).1 hmem).2.2
    have hrank : ∀ adapter ∈ registry.adapters.filter (joins device entry selected),
        adapter.rank (front ++ [entry]) = front.length := by
      intro adapter hmem
      obtain ⟨_, _, hentry, hnone⟩ := (hnew adapter).1 hmem
      exact Adapter.rank_append_singleton hnone hentry
    rw [List.pairwise_append]
    refine ⟨?_, ?_, ?_⟩
    · apply hfront.sorted.imp_of_mem
      intro left right hleft hright hlt
      rwa [Adapter.rank_append_of_any _ (hold left hleft), Adapter.rank_append_of_any _ (hold right hright)]
    · apply ((pairwise_place hnames).filter _).imp_of_mem
      intro left right hleft hright hlt
      exact .inr ⟨by rw [hrank left hleft, hrank right hright], hlt⟩
    · intro left hleft right hright
      rw [hrank right hright, Adapter.rank_append_of_any _ (hold left hleft)]
      exact .inl (Adapter.rank_lt_iff.2 (hold left hleft))

theorem IsByEntries.selectEntries {front rest : List String} {selected candidates : List (Adapter ε)}
    (hfront : registry.IsByEntries device front selected) (hnames : registry.names.Nodup)
    (hselect : registry.selectEntries device rest selected = some candidates) :
    registry.IsByEntries device (front ++ rest) candidates := by
  induction rest generalizing front selected with
  | nil =>
      cases hselect
      rwa [List.append_nil]
  | cons entry rest ih =>
      simp only [Registry.selectEntries, Option.bind_eq_bind, Option.bind_eq_some_iff] at hselect
      obtain ⟨next, hnext, hselect⟩ := hselect
      rw [List.append_cons]
      exact ih (hfront.selectEntry hnames hnext) hselect

theorem isSome_selectEntries (hanswers : ∀ adapter ∈ registry.adapters, (adapter.canHandle device).isSome = true)
    (entries : List String) (selected : List (Adapter ε)) :
    (registry.selectEntries device entries selected).isSome = true := by
  induction entries generalizing selected with
  | nil => rfl
  | cons entry rest ih =>
      obtain ⟨next, hnext⟩ := Option.isSome_iff_exists.1 (isSome_selectEntry entry hanswers selected)
      rw [selectEntries, hnext]
      exact ih next

/-! ### All that are capable -/

theorem capable_eq {adapters candidates : List (Adapter ε)} (hcapable : capable device adapters = some candidates) :
    candidates = adapters.filter (·.isCapable device) := by
  induction adapters generalizing candidates with
  | nil =>
      cases hcapable
      rfl
  | cons adapter rest ih =>
      simp only [capable, Option.bind_eq_bind, Option.bind_eq_some_iff] at hcapable
      obtain ⟨handles, hhandles, others, hothers, hsome⟩ := hcapable
      cases hsome
      rw [ih hothers, List.filter_cons, Adapter.isCapable, hhandles]
      cases handles <;> rfl

theorem isSome_capable {adapters : List (Adapter ε)}
    (hanswers : ∀ adapter ∈ adapters, (adapter.canHandle device).isSome = true) :
    (capable device adapters).isSome = true := by
  induction adapters with
  | nil => rfl
  | cons adapter rest ih =>
      obtain ⟨hfirst, hrest⟩ := List.forall_mem_cons.1 hanswers
      obtain ⟨handles, hhandles⟩ := Option.isSome_iff_exists.1 hfirst
      obtain ⟨others, hothers⟩ := Option.isSome_iff_exists.1 (ih hrest)
      rw [capable, hhandles, hothers]
      rfl

/-! ### The selection -/

/-- Whether some capable adapter answers to an entry of the method order of a device. -/
def IsWanted (registry : Registry ε) (device : Device) : Prop :=
  ∃ adapter ∈ registry.adapters, adapter.canHandle device = some true
    ∧ ∃ entry ∈ device.methodOrder, adapter.answersTo entry = true

theorem isSome_selectOrdered (hanswers : ∀ adapter ∈ registry.adapters, (adapter.canHandle device).isSome = true) :
    (registry.selectOrdered device).isSome = true := by
  obtain ⟨selected, hselected⟩ :=
    Option.isSome_iff_exists.1 (isSome_selectEntries hanswers device.methodOrder [])
  rw [selectOrdered, hselected]
  simp only [Option.bind_eq_bind, Option.bind_some]
  split
  · exact isSome_capable hanswers
  · rfl

/-- The selection is that of the entries if anybody capable answers to one, and otherwise all that are capable. -/
theorem selectOrdered_cases (hnames : registry.names.Nodup) {selection : List (Adapter ε)}
    (hselect : registry.selectOrdered device = some selection) :
    registry.IsWanted device ∧ registry.IsByEntries device device.methodOrder selection
      ∨ ¬ registry.IsWanted device ∧ selection = registry.adapters.filter (·.isCapable device) := by
  simp only [selectOrdered, Option.bind_eq_bind, Option.bind_eq_some_iff] at hselect
  obtain ⟨selected, hselected, hselect⟩ := hselect
  have hentries := isByEntries_nil.selectEntries hnames hselected
  rw [List.nil_append] at hentries
  split at hselect
  · rename_i hempty
    refine .inr ⟨?_, capable_eq hselect⟩
    rintro ⟨adapter, hwanted⟩
    have hmem := (hentries.mem_iff adapter).2 hwanted
    rw [List.isEmpty_iff.1 hempty] at hmem
    cases hmem
  · rename_i hsome
    cases hselect
    obtain ⟨adapter, hmem⟩ := List.exists_mem_of_ne_nil selection (mt List.isEmpty_iff.2 hsome)
    exact .inl ⟨⟨adapter, (hentries.mem_iff adapter).1 hmem⟩, hentries⟩

theorem mem_registered_of_selectOrdered (hnames : registry.names.Nodup) {selection : List (Adapter ε)}
    (hselect : registry.selectOrdered device = some selection) {adapter : Adapter ε} (hmem : adapter ∈ selection) :
    adapter ∈ registry.adapters ∧ adapter.canHandle device = some true := by
  rcases selectOrdered_cases hnames hselect with ⟨_, hentries⟩ | ⟨_, hall⟩
  · obtain ⟨hregistered, hcapable, _⟩ := (hentries.mem_iff adapter).1 hmem
    exact ⟨hregistered, hcapable⟩
  · rw [hall, List.mem_filter, Adapter.isCapable_iff] at hmem
    exact hmem

theorem nodup_selectOrdered (hnames : registry.names.Nodup) {selection : List (Adapter ε)}
    (hselect : registry.selectOrdered device = some selection) : (selection.map (·.name)).Nodup := by
  rcases selectOrdered_cases hnames hselect with ⟨_, hentries⟩ | ⟨_, hall⟩
  · apply List.pairwise_map.2
    apply hentries.sorted.imp_of_mem
    intro left right hleft hright hlt hname
    -- two adapters of one name are one adapter, which does not stand before itself
    have hsame := eq_of_name_eq hnames ((hentries.mem_iff left).1 hleft).1
      ((hentries.mem_iff right).1 hright).1 hname
    subst hsame
    omega
  · rw [hall]
    exact hnames.sublist (List.filter_sublist.map _)

end Registry

/-! ### Enabled methods -/

/-- Whether the method of an adapter is switched on for a device. -/
def Adapter.IsEnabledOn (device : Device) (adapter : Adapter ε) : Prop :=
  ∃ set ∈ device.capabilities, set.isEnabled adapter.method = true

theorem CapabilitySet.mem_enabledMethods {set : CapabilitySet} {method : Method} :
    method ∈ set.enabledMethods ↔ set.isEnabled method = true := by
  unfold enabledMethods
  cases method <;> simp

theorem CapabilitySet.text_mem_methodOrder {set : CapabilitySet} (horder : set.fallbackOrder = []) {method : Method}
    (henabled : set.isEnabled method = true) : method.text ∈ set.methodOrder := by
  have hmethod : method.text ∈ set.enabledMethods.map Method.text :=
    List.mem_map_of_mem (mem_enabledMethods.2 henabled)
  rw [methodOrder, horder, List.isEmpty_nil, if_pos rfl, List.mem_append, List.mem_filter]
  by_cases hpreferred : method.text ∈ set.preferred
  · exact .inl hpreferred
  · exact .inr ⟨hmethod, by simp [hpreferred]⟩

theorem CapabilitySet.methodOrder_of_preferred {set : CapabilitySet} (horder : set.fallbackOrder = [])
    {preferred : String} (hpreferred : set.preferredMethod = some preferred) (hsome : preferred ≠ "") :
    ∃ rest, set.methodOrder = preferred :: rest := by
  rw [methodOrder, horder, List.isEmpty_nil, if_pos rfl, CapabilitySet.preferred, hpreferred]
  simp [Option.filter, hsome]

theorem Snmp.isEnabled_of_canHandle {device : Device} (hhandles : Snmp.canHandle device = true) :
    ∃ set ∈ device.capabilities, set.isEnabled .snmp = true := by
  unfold Snmp.canHandle Snmp.capability? at hhandles
  split at hhandles
  · cases hhandles
  · rename_i capability hcapability
    obtain ⟨hfound, henabled⟩ := Option.filter_eq_some_iff.1 hcapability
    obtain ⟨set, hset, hsnmp⟩ := Option.bind_eq_some_iff.1 hfound
    refine ⟨set, hset, ?_⟩
    rw [CapabilitySet.isEnabled, hsnmp]
    exact henabled

theorem RouterOs.isEnabled_of_canHandle {device : Device} (hhandles : RouterOs.canHandle device = true) :
    ∃ set ∈ device.capabilities, set.isEnabled .api = true := by
  unfold RouterOs.canHandle at hhandles
  obtain ⟨capability, hcapability, _⟩ := (Option.any_eq_true _ _).1 hhandles
  obtain ⟨hfound, henabled⟩ := Option.filter_eq_some_iff.1 hcapability
  obtain ⟨set, hset, hapi⟩ := Option.bind_eq_some_iff.1 hfound
  refine ⟨set, hset, ?_⟩
  rw [CapabilitySet.isEnabled, hapi]
  exact (Bool.and_eq_true_iff.1 henabled).1

theorem Registry.isEnabledOn_of_mem_standard [Surroundings ε] {agents : Snmp.Link ε} {services : RouterOs.Link ε}
    {settings : TransportSettings} {adapter : Adapter ε} {device : Device}
    (hmem : adapter ∈ (standard agents services settings).adapters)
    (hhandles : adapter.canHandle device = some true) : adapter.IsEnabledOn device := by
  have hadapters : (standard agents services settings).adapters
      = [Snmp.adapter agents settings, RouterOs.adapter services settings] := rfl
  rw [hadapters, List.mem_pair] at hmem
  rcases hmem with rfl | rfl
  · exact Snmp.isEnabled_of_canHandle (Option.some.inj hhandles)
  · exact RouterOs.isEnabled_of_canHandle (Option.some.inj hhandles)

namespace Registry

variable {registry : Registry ε} {device : Device} {selection : List (Adapter ε)}

/-- Without an explicit order nobody who needs an enabled method is left out. -/
theorem perm_capable_of_enabled (hnames : registry.names.Nodup)
    (hselect : registry.selectOrdered device = some selection)
    (horder : ∀ set ∈ device.capabilities, set.fallbackOrder = [])
    (henabled : ∀ adapter ∈ registry.adapters, adapter.canHandle device = some true → adapter.IsEnabledOn device) :
    selection.Perm (registry.adapters.filter (·.isCapable device)) := by
  rcases selectOrdered_cases hnames hselect with ⟨_, hentries⟩ | ⟨_, hall⟩
  · have hnodup := List.Nodup.of_map _ (nodup_selectOrdered hnames hselect)
    have hregistered := List.Nodup.of_map _ (show (registry.adapters.map (·.name)).Nodup from hnames)
    rw [List.perm_ext_iff_of_nodup hnodup (hregistered.filter _)]
    intro adapter
    rw [hentries.mem_iff, List.mem_filter, Adapter.isCapable_iff]
    refine and_congr_right fun hmem => and_iff_left_of_imp fun hcapable => ?_
    obtain ⟨set, hset, hmethod⟩ := henabled adapter hmem hcapable
    refine ⟨adapter.method.text, ?_, by simp [Adapter.answersTo]⟩
    rw [Device.methodOrder, hset]
    exact CapabilitySet.text_mem_methodOrder (horder set hset) hmethod
  · rw [hall]

/-- Without an explicit order those that answer to the preferred entry come before all others. -/
theorem pairwise_preferred (hnames : registry.names.Nodup) (hselect : registry.selectOrdered device = some selection)
    {set : CapabilitySet} (hset : device.capabilities = some set) (horder : set.fallbackOrder = [])
    {preferred : String} (hpreferred : set.preferredMethod = some preferred) (hsome : preferred ≠ "") :
    selection.Pairwise fun left right => right.answersTo preferred = true → left.answersTo preferred = true := by
  obtain ⟨rest, hrest⟩ := CapabilitySet.methodOrder_of_preferred horder hpreferred hsome
  have hmethods : device.methodOrder = preferred :: rest := by
    rw [Device.methodOrder, hset]
    exact hrest
  have hrank : ∀ adapter : Adapter ε, adapter.rank device.methodOrder = 0 ↔ adapter.answersTo preferred = true := by
    intro adapter
    rw [hmethods, Adapter.rank, List.findIdx_cons]
    cases adapter.answersTo preferred <;> simp
  rcases selectOrdered_cases hnames hselect with ⟨_, hentries⟩ | ⟨hunwanted, hall⟩
  · apply hentries.sorted.imp
    intro left right hlt hright
    rw [← hrank] at hright ⊢
    omega
  · apply List.pairwise_of_forall_mem_list
    intro left _ right hright hanswers
    rw [hall, List.mem_filter, Adapter.isCapable_iff] at hright
    exact absurd ⟨right, hright.1, hright.2, preferred, by simp [hmethods], hanswers⟩ hunwanted

/-- The selection: whom it consists of, in which order, and what is left of that when a device gives no order of its own. Only an empty preference is none, which shows where an adapter has an empty name. -/
theorem selectOrdered_exact [Surroundings ε] (given : List (Adapter ε)) (device : Device) :
    ((∀ adapter ∈ (offered given).adapters, (adapter.canHandle device).isSome = true) →
        ((offered given).selectOrdered device).isSome = true)
      ∧ (∀ selection, (offered given).selectOrdered device = some selection →
        (selection.map (·.name)).Nodup
          ∧ (∀ adapter ∈ selection, adapter ∈ (offered given).adapters ∧ adapter.canHandle device = some true)
          ∧ ((offered given).IsWanted device →
            (offered given).IsByEntries device device.methodOrder selection)
          ∧ (¬ (offered given).IsWanted device →
            selection = (offered given).adapters.filter (·.isCapable device))
          ∧ ((∀ set ∈ device.capabilities, set.fallbackOrder = []) →
            (∀ adapter ∈ (offered given).adapters, adapter.canHandle device = some true →
              adapter.IsEnabledOn device) →
            selection.Perm ((offered given).adapters.filter (·.isCapable device))
              ∧ ∀ set ∈ device.capabilities, ∀ preferred ∈ set.preferredMethod,
                (preferred ≠ "" ∨ ∀ adapter ∈ (offered given).adapters, adapter.name ≠ "") →
                selection.Pairwise fun left right =>
                  right.answersTo preferred = true → left.answersTo preferred = true))
      ∧ ∀ (agents : Snmp.Link ε) (services : RouterOs.Link ε) (settings : TransportSettings),
        ∀ adapter ∈ (standard agents services settings).adapters,
          adapter.canHandle device = some true → adapter.IsEnabledOn device := by
  have hnames := nodup_names_offered given
  refine ⟨isSome_selectOrdered, ?_, fun _ _ _ _ => isEnabledOn_of_mem_standard⟩
  intro selection hselect
  have hregistered : ∀ adapter ∈ selection, adapter ∈ (offered given).adapters
      ∧ adapter.canHandle device = some true := fun _ => mem_registered_of_selectOrdered hnames hselect
  refine ⟨nodup_selectOrdered hnames hselect, hregistered, ?_, ?_, ?_⟩
  · intro hwanted
    rcases selectOrdered_cases hnames hselect with ⟨_, hentries⟩ | ⟨hunwanted, _⟩
    · exact hentries
    · exact absurd hwanted hunwanted
  · intro hunwanted
    rcases selectOrdered_cases hnames hselect with ⟨hwanted, _⟩ | ⟨_, hall⟩
    · exact absurd hwanted hunwanted
    · exact hall
  · intro horder henabled
    refine ⟨perm_capable_of_enabled hnames hselect horder henabled, ?_⟩
    intro set hset preferred hpreferred hnamed
    by_cases hempty : preferred = ""
    · subst hempty
      have hnone : ∀ adapter ∈ (offered given).adapters, adapter.answersTo "" = false := by
        intro adapter hmem
        have hname := (hnamed.resolve_left (absurd rfl)) adapter hmem
        have hmethod : adapter.method.text ≠ "" := by cases adapter.method <;> decide
        simp [Adapter.answersTo, hname, hmethod]
      apply List.pairwise_of_forall_mem_list
      intro left hleft right hright hanswers
      rw [hnone right (hregistered right hright).1] at hanswers
      cases hanswers
    · exact pairwise_preferred hnames hselect hset (horder set hset) hpreferred hempty

/-! ### Preferences -/

def obliging (number : Nat) (name : String) (method : Method) : Adapter Rehearsal :=
  Script.adapter number ⟨name, method, .always true, ⟨.success default, []⟩, [], none, []⟩

def preferring (entry : String) : Device :=
  { Device.sample 1 with
    capabilities := some {
      snmp := some ⟨true, .v2c, some ⟨"public"⟩, 161, none, none, none⟩
      api := some ⟨true, "mikrotik", none, none, "admin", ⟨"secret"⟩, false, true, none⟩
      ssh := none
      preferredMethod := some entry
      fallbackOrder := [] } }

/-- Of two adapters with one name the second is turned away. -/
def crowd : List (Adapter Rehearsal) :=
  [obliging 0 "snmp" .snmp, obliging 1 "mikrotik_api" .api, obliging 2 "snmp" .ssh, obliging 3 "backup" .snmp]

theorem adapters_crowd : (offered crowd).adapters
    = [obliging 0 "snmp" .snmp, obliging 1 "mikrotik_api" .api, obliging 3 "backup" .snmp] := rfl

theorem isEnabledOn_of_mem_crowd (entry : String) :
    ∀ adapter ∈ (offered crowd).adapters, adapter.IsEnabledOn (preferring entry) := by
  intro adapter hmem
  simp only [adapters_crowd, List.mem_cons, List.not_mem_nil, or_false] at hmem
  rcases hmem with rfl | rfl | rfl <;> exact ⟨_, rfl, rfl⟩

theorem selectOrdered_exact_crowd :
    ((∀ adapter ∈ (offered crowd).adapters, (adapter.canHandle (preferring "api")).isSome = true)
      ∧ (∀ set ∈ (preferring "api").capabilities, set.fallbackOrder = [])
      ∧ ∀ adapter ∈ (offered crowd).adapters, adapter.IsEnabledOn (preferring "api"))
    ∧ ∃ selection, (offered crowd).selectOrdered (preferring "api") = some selection
      ∧ selection.map (·.name) = ["mikrotik_api", "snmp", "backup"]
      ∧ (offered crowd).IsByEntries (preferring "api") ["api", "snmp"] selection
      ∧ selection.Perm ((offered crowd).adapters.filter (·.isCapable (preferring "api")))
      ∧ selection.Pairwise fun left right => right.answersTo "api" = true → left.answersTo "api" = true := by
  have hanswers : ∀ adapter ∈ (offered crowd).adapters, (adapter.canHandle (preferring "api")).isSome = true := by
    decide
  have horder : ∀ set ∈ (preferring "api").capabilities, set.fallbackOrder = [] := by decide
  have henabled := isEnabledOn_of_mem_crowd "api"
  obtain ⟨hsome, hexact, _⟩ := selectOrdered_exact crowd (preferring "api")
  obtain ⟨selection, hselection⟩ := Option.isSome_iff_exists.1 (hsome hanswers)
  obtain ⟨_, _, hwanted, _, hpreferred⟩ := hexact selection hselection
  obtain ⟨hperm, hfirst⟩ := hpreferred horder fun adapter hmem _ => henabled adapter hmem
  have hnames : ((offered crowd).selectOrdered (preferring "api")).map (·.map (·.name))
      = some ["mikrotik_api", "snmp", "backup"] := by decide
  rw [hselection] at hnames
  refine ⟨⟨hanswers, horder, henabled⟩, selection, hselection, Option.some.inj hnames, hwanted ?_, hperm, ?_⟩
  · exact ⟨obliging 0 "snmp" .snmp, by simp [adapters_crowd], rfl, "snmp", by decide, rfl⟩
  · exact hfirst _ rfl "api" rfl (.inl (by decide))

/-- An adapter with an empty name does not come first where the preferred entry is empty. -/
theorem empty_preference_is_none : ∃ selection,
    (offered [obliging 0 "snmp" .snmp, obliging 1 "" .api]).selectOrdered (preferring "") = some selection
      ∧ (∀ set ∈ (preferring "").capabilities, set.fallbackOrder = [] ∧ set.preferredMethod = some "")
      ∧ (∀ adapter ∈ (offered [obliging 0 "snmp" .snmp, obliging 1 "" .api]).adapters,
        adapter.IsEnabledOn (preferring ""))
      ∧ selection.map (·.name) = ["snmp", ""]
      ∧ ¬ selection.Pairwise fun left right => right.answersTo "" = true → left.answersTo "" = true := by
  refine ⟨[obliging 0 "snmp" .snmp, obliging 1 "" .api], rfl, by decide, ?_, by decide, by decide⟩
  have hadapters : (offered [obliging 0 "snmp" .snmp, obliging 1 "" .api]).adapters
      = [obliging 0 "snmp" .snmp, obliging 1 "" .api] := rfl
  intro adapter hmem
  rw [hadapters, List.mem_pair] at hmem
  rcases hmem with rfl | rfl <;> exact ⟨_, rfl, rfl⟩

end Registry

end RouterPoll
