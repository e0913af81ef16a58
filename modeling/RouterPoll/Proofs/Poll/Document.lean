import Mathlib.Data.String.Basic
import RouterPoll.Poll.Document
import RouterPoll.Proofs.Decimal.Binary64
import RouterPoll.Proofs.Decode.Written

/-!
# Interfaces and metrics read from their documents

An interface is read from its document as it is. A metric has no tag in its document, so what it is read as has to follow from the shape of its value: a whole number of 64 bits keeps its kind, and so does a double that is finite. Of a double that is not finite the document holds nothing, and such a bag of metrics is not read at all.
-/

namespace RouterPoll

open Decode (Source Holds FieldsHold holds_text holds_bool holds_nat32 holds_nat64 holds_nat? holds_object)
open Json (Node)

/-! ### Interfaces -/

structure InterfaceStatus.Fits (status : InterfaceStatus) : Prop where
  index : ∀ index ∈ status.index, index < Text.limit32
  rxBytes : status.rxBytes < Text.limit64
  txBytes : status.txBytes < Text.limit64
  rxPackets : status.rxPackets < Text.limit64
  txPackets : status.txPackets < Text.limit64

theorem InterfaceStatus.Fits.holds {status : InterfaceStatus} (hfits : status.Fits) :
    Holds InterfaceStatus.read status.document status := by
  refine holds_object rfl (by decide) ?_
  show FieldsHold _ _ (InterfaceStatus.mk status.name status.index status.operUp status.adminUp status.rxBytes
    status.txBytes status.rxPackets status.txPackets)
  refine .seq (.seq (.seq (.seq (.seq (.seq (.seq (.map _ ?_) ?_) ?_) ?_) ?_) ?_) ?_) ?_
  · exact .field rfl (holds_text _)
  · exact .optional rfl (holds_nat? holds_nat32 hfits.index)
  · exact .field rfl (holds_bool _)
  · exact .field rfl (holds_bool _)
  · exact .field rfl (holds_nat64 hfits.rxBytes)
  · exact .field rfl (holds_nat64 hfits.txBytes)
  · exact .field rfl (holds_nat64 hfits.rxPackets)
  · exact .field rfl (holds_nat64 hfits.txPackets)

/-! ### Metrics -/

/-- Whether a document can express a metric: its doubles are finite. -/
def MetricValue.isFinite : MetricValue → Bool
  | float value => Decimal.isFinite value
  | _ => true

def MetricValue.fits : MetricValue → Bool
  | integer value => -Text.signedLimit64 ≤ value && value ≤ Text.maxSigned64
  | _ => true

theorem MetricValue.read_document {value : MetricValue} (hfits : value.fits = true) (source : Source) :
    MetricValue.read source (Node.ofValue value.document)
      = if value.isFinite then .ok value else .error (.noVariant "MetricValue") := by
  cases value with
  | bool value => rfl
  | integer value =>
      rw [fits, Bool.and_eq_true, decide_eq_true_eq, decide_eq_true_eq] at hfits
      show Except.ok (MetricValue.ofNumber (.whole value)) = _
      rw [ofNumber, if_pos hfits.2]
      rfl
  | float value =>
      rw [document, isFinite]
      cases Decimal.isFinite value <;> rfl
  | text value => rfl

theorem MetricValue.fits_ofNat (value : Nat) : (ofNat value).fits = true := by
  rw [ofNat, fits, Bool.and_eq_true, decide_eq_true_eq, decide_eq_true_eq]
  have hmax : (Text.maxSigned64 : Int) = 9223372036854775807 := rfl
  have hlow : (Text.signedLimit64 : Int) = 9223372036854775808 := rfl
  omega

/-- Whether the double of a metric, if it is finite, is read from its text as it is. -/
def MetricValue.isExact : MetricValue → Bool
  | float value => !Decimal.isFinite value || (Json.Number.double value).isExact
  | _ => true

theorem MetricValue.isExact_document {value : MetricValue} (hfits : value.fits = true)
    (hexact : value.isExact = true) : value.document.IsExact := by
  cases value with
  | bool value => exact .bool value
  | integer value =>
      rw [fits, Bool.and_eq_true, decide_eq_true_eq, decide_eq_true_eq] at hfits
      exact .number (Json.Number.isExact_whole hfits.1 (Int.lt_of_le_of_lt hfits.2 (by decide)))
  | float value =>
      rw [isExact] at hexact
      rw [document]
      cases hfinite : Decimal.isFinite value with
      | false => exact .null
      | true =>
          rw [hfinite] at hexact
          exact .number hexact
  | text value => exact .string value

namespace Metrics

/-- A bag as it is put together by setting one metric after the other: sorted by name, and with whole numbers of 64 bits. -/
structure IsBag (metrics : Metrics) : Prop where
  sorted : metrics.entries.Pairwise fun left right => left.1 < right.1
  fits : ∀ entry ∈ metrics.entries, entry.2.fits = true

def isFinite (metrics : Metrics) : Bool := metrics.entries.all fun entry => entry.2.isFinite

def isExact (metrics : Metrics) : Bool := metrics.entries.all fun entry => entry.2.isExact

theorem isExact_document {metrics : Metrics} (hbag : metrics.IsBag) (hexact : metrics.isExact = true) :
    metrics.document.IsExact := by
  refine .object fun field hfield => ?_
  obtain ⟨entry, hmem, rfl⟩ := List.mem_map.1 hfield
  exact MetricValue.isExact_document (hbag.fits entry hmem) (List.all_eq_true.1 hexact entry hmem)

theorem mem_insertEntry {name : String} {value : MetricValue} {entries : List (String × MetricValue)}
    {entry : String × MetricValue} (hmem : entry ∈ insertEntry name value entries) :
    entry = (name, value) ∨ entry ∈ entries := by
  induction entries with
  | nil => exact .inl (List.mem_singleton.1 hmem)
  | cons first entries ih =>
      obtain ⟨known, old⟩ := first
      rw [insertEntry] at hmem
      split at hmem
      · exact (List.mem_cons.1 hmem)
      · split at hmem
        · exact (List.mem_cons.1 hmem).imp_right (List.mem_cons_of_mem _)
        · rcases List.mem_cons.1 hmem with rfl | hmem
          · exact .inr List.mem_cons_self
          · exact (ih hmem).imp_right (List.mem_cons_of_mem _)

theorem sorted_insertEntry {name : String} {value : MetricValue} {entries : List (String × MetricValue)}
    (hsorted : entries.Pairwise fun left right => left.1 < right.1) :
    (insertEntry name value entries).Pairwise fun left right => left.1 < right.1 := by
  induction entries with
  | nil => exact List.pairwise_singleton _ _
  | cons first entries ih =>
      obtain ⟨known, old⟩ := first
      obtain ⟨hfirst, hrest⟩ := List.pairwise_cons.1 hsorted
      rw [insertEntry]
      split
      · rename_i hbefore
        refine List.pairwise_cons.2 ⟨List.forall_mem_cons.2 ⟨hbefore, fun entry hmem => ?_⟩, hsorted⟩
        exact lt_trans hbefore (hfirst entry hmem)
      · rename_i hnotBefore
        split
        · rename_i hsame
          rw [beq_iff_eq] at hsame
          subst hsame
          exact List.pairwise_cons.2 ⟨hfirst, hrest⟩
        · rename_i hother
          have hbehind : known < name :=
            lt_of_le_of_ne (not_lt.1 hnotBefore) fun hsame => hother (beq_iff_eq.2 hsame.symm)
          refine List.pairwise_cons.2 ⟨fun entry hmem => ?_, ih hrest⟩
          rcases mem_insertEntry hmem with rfl | hmem
          · exact hbehind
          · exact hfirst entry hmem

theorem isBag_empty : empty.IsBag := ⟨List.Pairwise.nil, fun _ hmem => absurd hmem List.not_mem_nil⟩

theorem IsBag.set {metrics : Metrics} (hbag : metrics.IsBag) (name : String) {value : MetricValue}
    (hfits : value.fits = true) : (metrics.set name value).IsBag := by
  refine ⟨sorted_insertEntry hbag.sorted, fun entry hmem => ?_⟩
  rcases mem_insertEntry hmem with rfl | hmem
  · exact hfits
  · exact hbag.fits entry hmem

theorem IsBag.setIf {metrics : Metrics} (hbag : metrics.IsBag) (name : String) {value : Option MetricValue}
    (hfits : ∀ given ∈ value, given.fits = true) : (metrics.setIf name value).IsBag := by
  cases value with
  | none => exact hbag
  | some value => exact hbag.set name (hfits value rfl)

theorem IsBag.setAll {metrics : Metrics} (hbag : metrics.IsBag) {values : List (String × MetricValue)}
    (hfits : ∀ entry ∈ values, entry.2.fits = true) : (metrics.setAll values).IsBag := by
  induction values generalizing metrics with
  | nil => exact hbag
  | cons entry values ih =>
      obtain ⟨hfirst, hrest⟩ := List.forall_mem_cons.1 hfits
      exact ih (hbag.set entry.1 hfirst) hrest

theorem insertEntry_of_lt {name : String} {value : MetricValue} {entries : List (String × MetricValue)}
    (hlast : ∀ entry ∈ entries, entry.1 < name) : insertEntry name value entries = entries ++ [(name, value)] := by
  induction entries with
  | nil => rfl
  | cons entry entries ih =>
      obtain ⟨known, old⟩ := entry
      have hknown : known < name := hlast (known, old) List.mem_cons_self
      rw [insertEntry, if_neg (lt_asymm hknown), if_neg (by rw [beq_iff_eq]; exact (ne_of_lt hknown).symm),
        ih fun other hmem => hlast other (List.mem_cons_of_mem _ hmem)]
      rfl

theorem readEntries_document (known : List (String × MetricValue)) {entries : List (String × MetricValue)}
    (hsorted : (known ++ entries).Pairwise fun left right => left.1 < right.1)
    (hfits : ∀ entry ∈ entries, entry.2.fits = true) (source : Source) :
    readEntries source ⟨known⟩ (Node.ofFields (entries.map fun entry => (entry.1, entry.2.document)))
      = if entries.all fun entry => entry.2.isFinite then .ok ⟨known ++ entries⟩
        else .error (.noVariant "MetricValue") := by
  -- every name comes after those already read, so setting it puts it at the end
  induction entries generalizing known with
  | nil => rw [List.append_nil]; rfl
  | cons entry entries ih =>
      obtain ⟨name, value⟩ := entry
      have hlast : ∀ other ∈ known, other.1 < name := fun other hmem =>
        (List.pairwise_append.1 hsorted).2.2 other hmem (name, value) List.mem_cons_self
      rw [List.map_cons, Node.ofFields, readEntries,
        MetricValue.read_document (hfits (name, value) List.mem_cons_self), List.all_cons]
      cases value.isFinite with
      | false => rfl
      | true =>
          have hrest := ih (known ++ [(name, value)]) (by simpa using hsorted)
            fun other hmem => hfits other (List.mem_cons_of_mem _ hmem)
          show readEntries source (set ⟨known⟩ name value) _ = _
          rw [set, insertEntry_of_lt hlast, hrest, List.append_assoc, List.singleton_append, Bool.true_and]

/-- A bag is read back from its document when all its doubles are finite, and not at all otherwise. -/
theorem read_document {metrics : Metrics} (hbag : metrics.IsBag) (source : Source) :
    Metrics.read source (Node.ofValue metrics.document)
      = if metrics.isFinite then .ok metrics else .error (.noVariant "MetricValue") :=
  readEntries_document [] hbag.sorted hbag.fits source

theorem isNaN_of_isFinite {metrics : Metrics} (hfinite : metrics.isFinite = true) {name : String} {value : Float}
    (hvalue : (metrics.get? name).bind MetricValue.asFloat? = some value) : value.isNaN = false := by
  obtain ⟨metric, hmetric, hfloat⟩ := Option.bind_eq_some_iff.1 hvalue
  cases metric with
  | integer whole =>
      cases hfloat
      exact Decimal.isNaN_ofInt whole
  | float double =>
      cases hfloat
      obtain ⟨before, behind, hentries, _⟩ := List.lookup_eq_some_iff.1 hmetric
      have hmem : (name, MetricValue.float value) ∈ metrics.entries := by
        rw [hentries]
        exact List.mem_append_right _ List.mem_cons_self
      exact Decimal.isNaN_eq_false_of_isFinite (List.all_eq_true.1 hfinite _ hmem)
  | bool flag => cases hfloat
  | text text => cases hfloat

end Metrics

/-! ### Results -/

/-- Results as adapters build them: the metrics are a bag, and the counters fit their widths. -/
structure PollResult.IsTyped (result : PollResult) : Prop where
  metrics : result.metrics.IsBag
  interfaces : ∀ status ∈ result.interfaces, status.Fits

end RouterPoll
