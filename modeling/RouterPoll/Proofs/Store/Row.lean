import RouterPoll.Proofs.Net.Uuid
import RouterPoll.Proofs.Refusal
import RouterPoll.Proofs.Time.Instant
import RouterPoll.Store.Row

/-!
# Rows of devices

A row whose columns were written by the store is sound: its id is that of a device, its interval fits its width, and its last poll, if it has one, lies in the covered years. Of a sound row the database and the library say the same when they are asked whether the device is due, but that the database counts in whole milliseconds.
-/

namespace RouterPoll

/-! ### Times in columns -/

/-- An instant without what is shorter than a millisecond. -/
def Instant.cut (instant : Instant) : Instant := ⟨instant.seconds, instant.nanos / 1000000 * 1000000⟩

namespace Column

/-- Milliseconds that stand for an instant of the covered years. -/
def IsReadable (millis : Int) : Prop := Instant.inRange (millis / 1000) = true

instance (millis : Int) : Decidable (IsReadable millis) := inferInstanceAs (Decidable (_ = true))

variable {millis other : Int} {clock : Instant}

theorem toInstant_of_isReadable (hreadable : IsReadable millis) :
    toInstant clock millis = ⟨millis / 1000, (millis % 1000).toNat * 1000000⟩ := by
  unfold IsReadable at hreadable
  rw [toInstant, Instant.ofMillis?, if_pos hreadable]
  rfl

theorem isReadable_toMillis {instant : Instant} (hordinary : instant.IsOrdinary) :
    IsReadable instant.toMillis := by
  obtain ⟨hrange, hnanos⟩ := hordinary
  unfold Instant.nanosPerSecond at hnanos
  have hseconds : instant.toMillis / 1000 = instant.seconds := by
    unfold Instant.toMillis
    omega
  rw [IsReadable, hseconds]
  exact hrange

theorem toInstant_toMillis {instant : Instant} (hordinary : instant.IsOrdinary) :
    toInstant clock instant.toMillis = instant.cut := by
  rw [toInstant_of_isReadable (isReadable_toMillis hordinary), Instant.cut, Instant.mk.injEq]
  have hnanos := hordinary.2
  unfold Instant.nanosPerSecond at hnanos
  unfold Instant.toMillis
  omega

/-- The milliseconds of an instant of the covered years. -/
def IsCovered (millis : Int) : Prop :=
  Instant.firstSecond * 1000 ≤ millis ∧ millis < (Instant.lastSecond + 2) * 1000

theorem isCovered_toMillis {instant : Instant} (hcovered : instant.IsCovered) :
    IsCovered instant.toMillis := by
  obtain ⟨hrange, hnanos⟩ := hcovered
  rw [Instant.inRange_iff] at hrange
  unfold IsCovered Instant.toMillis
  unfold Instant.nanosPerSecond at hnanos
  omega

theorem isCovered_of_isReadable (hreadable : IsReadable millis) : IsCovered millis := by
  unfold IsReadable at hreadable
  rw [Instant.inRange_iff] at hreadable
  unfold IsCovered
  omega

theorem before_toInstant_iff (hmillis : IsReadable millis) (hother : IsReadable other) :
    (toInstant clock millis).before (toInstant clock other) = true ↔ millis < other := by
  rw [toInstant_of_isReadable hmillis, toInstant_of_isReadable hother, Instant.before_iff]
  simp only
  omega

theorem toInstant_inj (hmillis : IsReadable millis) (hother : IsReadable other) :
    toInstant clock millis = toInstant clock other ↔ millis = other := by
  rw [toInstant_of_isReadable hmillis, toInstant_of_isReadable hother, Instant.mk.injEq]
  omega

theorem addSeconds_toInstant (hmillis : IsReadable millis) (count : Nat) :
    (toInstant clock millis).addSeconds count
      = if Instant.inRange ((millis + count * 1000) / 1000) then
          some (toInstant clock (millis + count * 1000))
        else none := by
  by_cases hcount : count = 0
  · subst hcount
    have hsame : millis + (0 : Nat) * 1000 = millis := by omega
    rw [Instant.addSeconds, if_pos (beq_self_eq_true _), hsame]
    exact (if_pos hmillis).symm
  · have hleap : Instant.isLeap ⟨millis / 1000, (millis % 1000).toNat * 1000000⟩ = false := by
      rw [Instant.isLeap, decide_eq_false_iff_not]
      unfold Instant.nanosPerSecond
      simp only
      omega
    have hseconds : (millis + count * 1000) / 1000 = millis / 1000 + count := by omega
    have hfraction : (millis + count * 1000) % 1000 = millis % 1000 := by omega
    rw [toInstant_of_isReadable hmillis, Instant.addSeconds, if_neg (mt beq_iff_eq.1 hcount), hleap,
      if_neg Bool.false_ne_true, hseconds]
    simp only
    by_cases hrange : Instant.inRange (millis / 1000 + count) = true
    · rw [if_pos hrange, if_pos hrange, toInstant_of_isReadable (by rw [IsReadable, hseconds]; exact hrange),
        hseconds, hfraction]
    · rw [if_neg hrange, if_neg hrange]

/-- The instant some seconds after a column lies before now if the milliseconds say so. -/
theorem passed_of_lt {count : Nat} {now : Instant} (hcovered : IsCovered millis)
    (hnow : now.IsOrdinary) (hlt : millis + count * 1000 < now.toMillis) :
    ∃ next, (toInstant clock millis).addSeconds count = some next ∧ next.before now = true := by
  obtain ⟨hrange, hnanos⟩ := hnow
  obtain ⟨hfirst, _⟩ := hcovered
  rw [Instant.inRange_iff] at hrange
  unfold Instant.toMillis at hlt
  unfold Instant.nanosPerSecond at hnanos
  have hmillis : IsReadable millis := by
    rw [IsReadable, Instant.inRange_iff]
    omega
  have hnext : IsReadable (millis + count * 1000) := by
    rw [IsReadable, Instant.inRange_iff]
    omega
  refine ⟨toInstant clock (millis + count * 1000), ?_, ?_⟩
  · rw [addSeconds_toInstant hmillis]
    exact if_pos hnext
  · rw [toInstant_of_isReadable hnext, Instant.before_iff]
    simp only
    omega

end Column

/-- A time as it comes back from a column to a reader with a clock. -/
def Instant.stored (instant clock : Instant) : Instant := Column.toInstant clock instant.toMillis

/-- A leap second is counted into the second after it. After the last second there is none, so what comes back then is what the clock shows. -/
theorem Instant.stored_of_leap {instant : Instant} (hcovered : instant.IsCovered)
    (hleap : nanosPerSecond ≤ instant.nanos) (clock : Instant) :
    instant.stored clock = if inRange (instant.seconds + 1) then
        ⟨instant.seconds + 1, (instant.nanos - nanosPerSecond) / 1000000 * 1000000⟩
      else clock := by
  have hnanos := hcovered.2
  unfold nanosPerSecond at hleap hnanos
  have hseconds : instant.toMillis / 1000 = instant.seconds + 1 := by
    unfold toMillis
    omega
  have hfraction : (instant.toMillis % 1000).toNat * 1000000
      = (instant.nanos - 1000000000) / 1000000 * 1000000 := by
    unfold toMillis
    omega
  unfold stored
  by_cases hrange : inRange (instant.seconds + 1) = true
  · have hreadable : Column.IsReadable instant.toMillis := by
      rw [Column.IsReadable, hseconds, hrange]
    rw [if_pos hrange, Column.toInstant_of_isReadable hreadable, hseconds, hfraction]
    rfl
  · have hnone : Instant.ofMillis? instant.toMillis = none := by
      rw [ofMillis?, hseconds, if_neg hrange]
    rw [if_neg hrange, Column.toInstant, hnone]
    rfl

/-- Half a second into a leap second at the end of the covered years. -/
example : Instant.stored ⟨8210266876799, 1500000000⟩ ⟨1000, 0⟩ = ⟨1000, 0⟩ := by decide

/-! ### Sound rows -/

theorem Quantity.fits_iff {value : Int} : Quantity.fits value = true
    ↔ -9223372036854775808 ≤ value ∧ value ≤ 9223372036854775807 := by
  unfold Quantity.fits
  rw [Bool.and_eq_true, decide_eq_true_iff, decide_eq_true_iff]
  rfl

namespace Cell

theorem whole_times {value : Nat} (hvalue : value < Text.limit32) :
    (whole value).times (whole 1000) = whole (value * 1000) := by
  have hfits : Quantity.fits (value * 1000) = true := by
    unfold Text.limit32 at hvalue
    rw [Quantity.fits_iff]
    omega
  show Quantity.combine (· * ·) (· * ·) (.whole value) (.whole 1000) = _
  simp only [Quantity.combine, hfits, if_true]
  rfl

theorem whole_plus {millis : Int} {value : Nat} (hcovered : Column.IsCovered millis)
    (hvalue : value < Text.limit32) :
    (whole millis).plus (whole (value * 1000)) = whole (millis + value * 1000) := by
  have hfirst : Instant.firstSecond = -8334601228800 := by decide
  have hlast : Instant.lastSecond = 8210266876799 := by decide
  have hfits : Quantity.fits (millis + value * 1000) = true := by
    unfold Column.IsCovered at hcovered
    unfold Text.limit32 at hvalue
    rw [Quantity.fits_iff]
    omega
  show Quantity.combine (· + ·) (· + ·) (.whole millis) (.whole (value * 1000)) = _
  simp only [Quantity.combine, hfits, if_true]
  rfl

theorem whole_order (left right : Int) : (whole left).order (whole right) = compare left right := rfl

/-- Of the cells that are equal to one only the number itself reads as a flag. -/
theorem readFlag_of_order {cell : Cell} {column : String} {flag : Bool}
    (hone : cell.order (whole 1) = .eq) (hflag : cell.readFlag column = .ok flag) : flag = true := by
  cases cell with
  | null => cases hone
  | text value => cases hone
  | number value =>
      cases value with
      | real value => cases hflag
      | whole value =>
          have hvalue : value = 1 := Int.compare_eq_eq.1 hone
          subst hvalue
          exact (Except.ok.inj hflag).symm

end Cell

namespace DeviceRow

/-- A row as the store writes it, with what it says of interval and last poll. -/
structure IsSound (row : DeviceRow) : Prop where
  id : ∃ id : Uuid, row.id = id.text
  interval : ∃ interval < Text.limit32, row.pollingInterval = .whole (interval : Nat)
  lastPolledAt : ∃ last : Option Int, row.lastPolledAt = .ofWhole? last
    ∧ ∀ millis ∈ last, Column.IsCovered millis

variable {row : DeviceRow} {device : Device} {clock : Instant}

theorem toDevice_ok (hdevice : row.toDevice clock = .ok device) :
    Column.toUuid row.id = .ok device.id ∧ Column.toStatus row.status = .ok device.status
      ∧ row.pollingEnabled.readFlag (Text.quoted "polling_enabled") = .ok device.pollingEnabled
      ∧ (∃ interval, row.pollingInterval.readWhole (Text.quoted "polling_interval_secs") = .ok interval
        ∧ device.pollingInterval = Column.toNat Text.limit32 (Text.limit32 - 1) interval)
      ∧ ∃ last, row.lastPolledAt.readWhole? (Text.quoted "last_polled_at") = .ok last
        ∧ device.lastPolledAt = last.map (Column.toInstant clock) := by
  unfold toDevice at hdevice
  obtain ⟨interval, hinterval, hdevice⟩ := bind_eq_ok.1 hdevice
  obtain ⟨last, hlast, hdevice⟩ := bind_eq_ok.1 hdevice
  obtain ⟨id, hid, hdevice⟩ := bind_eq_ok.1 hdevice
  obtain ⟨tenantId, _, hdevice⟩ := bind_eq_ok.1 hdevice
  obtain ⟨address, _, hdevice⟩ := bind_eq_ok.1 hdevice
  obtain ⟨status, hstatus, hdevice⟩ := bind_eq_ok.1 hdevice
  obtain ⟨enabled, henabled, hdevice⟩ := bind_eq_ok.1 hdevice
  cases hdevice
  exact ⟨hid, hstatus, henabled, ⟨interval, hinterval, rfl⟩, last, hlast, rfl⟩

theorem IsSound.id_eq (hsound : row.IsSound) (hdevice : row.toDevice clock = .ok device) :
    row.id = device.id.text := by
  obtain ⟨id, hid⟩ := hsound.id
  have hread := (toDevice_ok hdevice).1
  rw [hid, Column.toUuid, Uuid.parse?_text] at hread
  cases hread
  exact hid

theorem lt_of_isDue {count : Nat} {millis nowMillis : Int} (hcount : count < Text.limit32)
    (hinterval : row.pollingInterval = .whole count) (hlast : row.lastPolledAt = .whole millis)
    (hcovered : Column.IsCovered millis) (hdue : row.isDue nowMillis = true) :
    millis + count * 1000 < nowMillis := by
  unfold isDue at hdue
  rw [Bool.and_eq_true] at hdue
  have hpassed := hdue.2
  rw [hlast, hinterval] at hpassed
  have hsum := Cell.whole_plus hcovered hcount
  rw [← Cell.whole_times hcount] at hsum
  change (_ && ((Cell.whole millis).plus ((Cell.whole count).times (.whole 1000))).order
    (.whole nowMillis) == .lt) = true at hpassed
  rw [hsum, Cell.whole_order, Bool.and_eq_true, beq_iff_eq] at hpassed
  exact Int.compare_eq_lt.1 hpassed.2

theorem IsSound.isDue (hsound : row.IsSound) (hdevice : row.toDevice clock = .ok device) {now : Instant}
    (hnow : now.IsOrdinary) (hdue : row.isDue now.toMillis = true) : device.isDue now = some true := by
  obtain ⟨_, hstatus, henabled, ⟨interval, hinterval, hdeviceInterval⟩, last, hlast, hdeviceLast⟩ :=
    toDevice_ok hdevice
  obtain ⟨count, hcount, hcell⟩ := hsound.interval
  obtain ⟨written, hwritten, hcovered⟩ := hsound.lastPolledAt
  have hcolumns := hdue
  unfold DeviceRow.isDue at hcolumns
  rw [Bool.and_eq_true, Bool.and_eq_true] at hcolumns
  obtain ⟨⟨hone, hactive⟩, _⟩ := hcolumns
  refine Device.isDue_iff.2 ⟨Cell.readFlag_of_order (beq_iff_eq.1 hone) henabled, ?_, ?_⟩
  · rw [beq_iff_eq.1 hactive, Column.toStatus, DeviceStatus.ofText?_text] at hstatus
    exact (Except.ok.inj hstatus).symm
  · intro instant hinstant
    have hsame : device.pollingInterval = count := by
      rw [hcell] at hinterval
      cases hinterval
      rw [hdeviceInterval, Column.toNat, if_pos ⟨Int.natCast_nonneg _, Int.ofNat_lt.2 hcount⟩]
      rfl
    rw [hwritten] at hlast
    rw [hsame]
    cases written with
    | none =>
        cases hlast
        rw [hdeviceLast] at hinstant
        cases hinstant
    | some millis =>
        cases hlast
        rw [hdeviceLast] at hinstant
        cases hinstant
        have hmillis := hcovered millis rfl
        exact Column.passed_of_lt hmillis hnow (lt_of_isDue hcount hcell hwritten hmillis hdue)

end DeviceRow

end RouterPoll
