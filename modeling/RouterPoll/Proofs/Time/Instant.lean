import Mathlib.Order.Defs.PartialOrder
import RouterPoll.Device.Basic

/-!
# The order of instants

Instants are ordered by second and then by fraction. A device that is due stays due as time passes, as long as nobody polls it.
-/

namespace RouterPoll

namespace Instant

theorem before_iff {left right : Instant} : left.before right = true ↔
    left.seconds < right.seconds ∨ left.seconds = right.seconds ∧ left.nanos < right.nanos := by
  simp [before]

theorem not_before_iff {left right : Instant} : left.before right = false ↔
    right.seconds < left.seconds ∨ right.seconds = left.seconds ∧ right.nanos ≤ left.nanos := by
  rw [← Bool.not_eq_true, before_iff]
  omega

@[simp] theorem before_self (instant : Instant) : instant.before instant = false :=
  not_before_iff.2 (.inr ⟨rfl, Nat.le_refl _⟩)

theorem before_of_before_of_not_before {first second third : Instant}
    (hfirst : first.before second = true) (hlater : third.before second = false) :
    first.before third = true := by
  rw [before_iff] at *
  rw [not_before_iff] at hlater
  omega

instance : Preorder Instant where
  le first second := second.before first = false
  le_refl := before_self
  le_trans first second third hfirst hsecond := by
    rw [not_before_iff] at *
    omega

theorem le_iff {first second : Instant} : first ≤ second ↔ second.before first = false := Iff.rfl

instance (first second : Instant) : Decidable (first ≤ second) :=
  inferInstanceAs (Decidable (second.before first = false))

/-- An instant of the covered years. -/
def IsCovered (instant : Instant) : Prop :=
  inRange instant.seconds = true ∧ instant.nanos < 2 * nanosPerSecond

/-- What a clock shows: an instant of the covered years that is not in a leap second. -/
def IsOrdinary (instant : Instant) : Prop :=
  inRange instant.seconds = true ∧ instant.nanos < nanosPerSecond

instance (instant : Instant) : Decidable instant.IsCovered := inferInstanceAs (Decidable (_ ∧ _))

instance (instant : Instant) : Decidable instant.IsOrdinary := inferInstanceAs (Decidable (_ ∧ _))

/-- Milliseconds keep the order of ordinary instants; a leap second is counted into the next one. -/
theorem toMillis_mono {first second : Instant} (hordinary : first.IsOrdinary) (hle : first ≤ second) :
    first.toMillis ≤ second.toMillis := by
  have hnanos : first.nanos < 1000000000 := hordinary.2
  rw [le_iff, not_before_iff] at hle
  unfold toMillis
  omega

theorem inRange_iff {seconds : Int} :
    inRange seconds = true ↔ firstSecond ≤ seconds ∧ seconds ≤ lastSecond := by
  simp [inRange]

end Instant

namespace Device

theorem isDue_iff {device : Device} {now : Instant} : device.isDue now = some true ↔
    device.pollingEnabled = true ∧ device.status = .active ∧ ∀ last ∈ device.lastPolledAt,
      ∃ next, last.addSeconds device.pollingInterval = some next ∧ next.before now = true := by
  unfold isDue
  cases henabled : device.pollingEnabled with
  | false => simp
  | true =>
      cases hstatus : device.status with
      | active =>
          cases device.lastPolledAt with
          | none => simp
          | some last => simp
      | inactive => simp
      | maintenance => simp

theorem isDue_of_later {device : Device} {now later : Instant}
    (hdue : device.isDue now = some true) (hlater : later.before now = false) :
    device.isDue later = some true := by
  obtain ⟨henabled, hactive, hpassed⟩ := isDue_iff.1 hdue
  refine isDue_iff.2 ⟨henabled, hactive, ?_⟩
  intro last hlast
  obtain ⟨next, hnext, hbefore⟩ := hpassed last hlast
  exact ⟨next, hnext, Instant.before_of_before_of_not_before hbefore hlater⟩

end Device

end RouterPoll
