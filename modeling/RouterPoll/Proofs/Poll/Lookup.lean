import Mathlib.Data.String.Basic
import RouterPoll.Poll.Metric

/-!
# Metrics found under a name

What setting metrics changes for the one who asks for a name: the metric of that name, and no other.
-/

namespace RouterPoll

namespace Metrics

theorem lookup_cons_eq (name known : String) (value : MetricValue) (entries : List (String × MetricValue)) :
    ((known, value) :: entries).lookup name = if name = known then some value else entries.lookup name := by
  by_cases hsame : name = known
  · rw [if_pos hsame, List.lookup_cons, beq_iff_eq.2 hsame]
  · rw [if_neg hsame, List.lookup_cons, beq_eq_false_iff_ne.2 hsame]

theorem lookup_insertEntry (name other : String) (value : MetricValue) (entries : List (String × MetricValue)) :
    (insertEntry name value entries).lookup other
      = if other = name then some value else entries.lookup other := by
  induction entries with
  | nil => exact lookup_cons_eq ..
  | cons entry entries ih =>
      obtain ⟨known, old⟩ := entry
      rw [insertEntry]
      split
      · exact lookup_cons_eq ..
      · split
        · rename_i hsame
          rw [beq_iff_eq] at hsame
          subst hsame
          rw [lookup_cons_eq, lookup_cons_eq]
          split <;> rfl
        · rename_i hdiffers
          have hne : known ≠ name := fun hsame => hdiffers (beq_iff_eq.2 hsame.symm)
          rw [lookup_cons_eq, lookup_cons_eq, ih]
          by_cases hknown : other = known
          · subst hknown
            rw [if_pos rfl, if_neg hne, if_pos rfl]
          · rw [if_neg hknown, if_neg hknown]

variable (metrics : Metrics) (name : String)

theorem get?_empty : empty.get? name = none := rfl

theorem get?_set_self (value : MetricValue) : (metrics.set name value).get? name = some value := by
  rw [get?, set, lookup_insertEntry, if_pos rfl]

theorem get?_setIf_self (value : Option MetricValue) :
    (metrics.setIf name value).get? name = value.or (metrics.get? name) := by
  cases value with
  | none => rfl
  | some value => exact get?_set_self metrics name value

variable {metrics name} {other : String}

theorem get?_set_of_ne (hother : other ≠ name) (value : MetricValue) :
    (metrics.set name value).get? other = metrics.get? other := by
  rw [get?, set, lookup_insertEntry, if_neg hother, get?]

theorem get?_setIf_of_ne (hother : other ≠ name) (value : Option MetricValue) :
    (metrics.setIf name value).get? other = metrics.get? other := by
  cases value with
  | none => rfl
  | some value => exact get?_set_of_ne hother value

theorem get?_setIf_congr {metrics metrics' : Metrics} {value value' : Option MetricValue}
    (hvalue : other = name → value = value') (hmetrics : metrics.get? other = metrics'.get? other) :
    (metrics.setIf name value).get? other = (metrics'.setIf name value').get? other := by
  by_cases hsame : other = name
  · rw [hvalue hsame, ← hsame, get?_setIf_self, get?_setIf_self, hmetrics]
  · rw [get?_setIf_of_ne hsame, get?_setIf_of_ne hsame, hmetrics]

theorem get?_setAll (metrics : Metrics) (values : List (String × MetricValue)) (name : String) :
    (metrics.setAll values).get? name = (values.reverse.lookup name).or (metrics.get? name) := by
  induction values generalizing metrics with
  | nil => rfl
  | cons entry values ih =>
      obtain ⟨known, value⟩ := entry
      rw [setAll, List.foldl_cons, ← setAll, ih, List.reverse_cons, List.lookup_append, Option.or_assoc,
        lookup_cons_eq]
      congr 1
      by_cases hsame : name = known
      · rw [if_pos hsame, hsame, get?_set_self]
        rfl
      · rw [if_neg hsame, get?_set_of_ne hsame]
        rfl

theorem get?_setAll_of_forall_ne {values : List (String × MetricValue)} (hvalues : ∀ entry ∈ values, entry.1 ≠ name) :
    (metrics.setAll values).get? name = metrics.get? name := by
  have hnone : values.reverse.lookup name = none := by
    rw [List.lookup_eq_none_iff]
    intro entry hmem
    rw [bne_iff_ne]
    exact (hvalues entry (List.mem_reverse.1 hmem)).symm
  rw [get?_setAll, hnone, Option.none_or]

end Metrics

end RouterPoll
