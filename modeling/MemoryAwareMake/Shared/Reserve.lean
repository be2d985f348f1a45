import MemoryAwareMake.Shared.Region

/-!
# MemoryAwareMake — `reserve_memory_mb`

The body of `reserve_memory_mb (pid, mb, filepath)` (`main.c`) once the region is mapped,
executed as one atomic step (the interleaved execution is `Shared/Interleave.lean`):

1. the bounded scan of `reservations[0 .. reservation_count)` for `pid` (`findReservation`);
2. if absent and `mb == 0`, nothing to do; otherwise, under `reserved_count_mutex`, the first
   slot with pid `0` is claimed for `pid` with amount `0`, extending `reservation_count`
   (`findEmptySlot`, `claimSlot`); a full table returns `0` and changes nothing;
3. on the chosen slot, `mb <= 0` releases it (`releaseSlot`) and `mb > 0` overwrites its
   amount (`overwriteSlot`), adjusting `total_reserved_mb` under its mutex.

`filepath` only feeds a debug message and is not modelled. `reserveMemoryMb_cases` is the
inversion lemma the invariant proofs use instead of unfolding the definition, and
`findReservation_some`, `findReservation_none`, `findEmptySlot_some`, `findEmptySlot_none` say
what each search returns.
-/

namespace MemoryAwareMake

/-- The unlocked scan `for (i = 0; i < count && i < MAX_RESERVATIONS; i++)`: the first slot
below `count` whose pid is `pid`. -/
def findReservation (sd : SharedMemoryData) (count : Nat) (pid : Int) :
    Option (Fin maxReservations) :=
  Fin.find fun i => i.val < count ∧ (sd.reservations i).pid = pid

/-- The scan under `reserved_count_mutex`: the first slot whose pid is `0`. -/
def findEmptySlot (sd : SharedMemoryData) : Option (Fin maxReservations) :=
  Fin.find fun i => (sd.reservations i).pid = 0

/-- `res->pid = pid; res->reserved_mb = 0;` and
`if (empty_slot >= count) shared_data->reservation_count = empty_slot + 1;`. -/
def claimSlot (sd : SharedMemoryData) (i : Fin maxReservations) (pid : Int) :
    SharedMemoryData :=
  { sd with
    reservations := Function.update sd.reservations i ⟨pid, 0⟩
    reservationCount := if sd.reservationCount ≤ i.val then i.val + 1 else sd.reservationCount }

/-- The `mb <= 0` branch on slot `i`: subtract the old amount from `total_reserved_mb`, zero the
amount, free the slot if it still holds `pid`, and return `1` when `mb == 0` or `-mb` equals
the old amount. -/
def releaseSlot (sd : SharedMemoryData) (i : Fin maxReservations) (pid mb : Int) :
    SharedMemoryData × Int :=
  let oldValue := (sd.reservations i).reservedMb
  let res : PidReservation := { sd.reservations i with reservedMb := 0 }
  ({ sd with
      totalReservedMb := ulongSub sd.totalReservedMb oldValue
      reservations := Function.update sd.reservations i
        (if res.pid = pid then { res with pid := 0 } else res) },
   if mb = 0 ∨ (mb < 0 ∧ oldValue = ulongOfLong (-mb)) then 1 else 0)

/-- The `mb > 0` branch on slot `i`: overwrite the amount and move `total_reserved_mb` by the
difference, clamping at `0` where the old amount exceeds the total. -/
def overwriteSlot (sd : SharedMemoryData) (i : Fin maxReservations) (mb : Int) :
    SharedMemoryData :=
  let oldValue := (sd.reservations i).reservedMb
  let m := ulongOfLong mb
  { sd with
    reservations := Function.update sd.reservations i { sd.reservations i with reservedMb := m }
    totalReservedMb :=
      if oldValue ≤ m then (sd.totalReservedMb + (m - oldValue)) % ulongSize
      else if sd.totalReservedMb < oldValue - m then 0
      else sd.totalReservedMb - (oldValue - m) }

/-- What `reserve_memory_mb` does once slot `i` is chosen. -/
def reserveAt (sd : SharedMemoryData) (i : Fin maxReservations) (pid mb : Int) :
    SharedMemoryData × Int :=
  if mb ≤ 0 then releaseSlot sd i pid mb else (overwriteSlot sd i mb, 0)

/-- `reserve_memory_mb (pid, mb, filepath)` on a mapped region: the new region and the
returned `int`. -/
def reserveMemoryMb (sd : SharedMemoryData) (pid mb : Int) : SharedMemoryData × Int :=
  match findReservation sd sd.reservationCount pid with
  | some i => reserveAt sd i pid mb
  | none =>
    if mb = 0 then (sd, 0)
    else
      match findEmptySlot sd with
      | some i => reserveAt (claimSlot sd i pid) i pid mb
      | none => (sd, 0)

/-! ## Field lemmas -/

section Fields

variable (sd : SharedMemoryData) (i : Fin maxReservations) (pid mb : Int)

@[simp] theorem claimSlot_totalReservedMb :
    (claimSlot sd i pid).totalReservedMb = sd.totalReservedMb := rfl

@[simp] theorem claimSlot_reservations :
    (claimSlot sd i pid).reservations = Function.update sd.reservations i ⟨pid, 0⟩ := rfl

@[simp] theorem claimSlot_reservationCount :
    (claimSlot sd i pid).reservationCount = max sd.reservationCount (i.val + 1) := by
  simp only [claimSlot]
  split <;> omega

@[simp] theorem releaseSlot_reservationCount :
    (releaseSlot sd i pid mb).1.reservationCount = sd.reservationCount := rfl

@[simp] theorem overwriteSlot_reservationCount :
    (overwriteSlot sd i mb).reservationCount = sd.reservationCount := rfl

@[simp] theorem overwriteSlot_reservations :
    (overwriteSlot sd i mb).reservations =
      Function.update sd.reservations i { sd.reservations i with reservedMb := ulongOfLong mb } :=
  rfl

theorem overwriteSlot_totalReservedMb :
    (overwriteSlot sd i mb).totalReservedMb =
      if (sd.reservations i).reservedMb ≤ ulongOfLong mb then
        (sd.totalReservedMb + (ulongOfLong mb - (sd.reservations i).reservedMb)) % ulongSize
      else if sd.totalReservedMb < (sd.reservations i).reservedMb - ulongOfLong mb then 0
      else sd.totalReservedMb - ((sd.reservations i).reservedMb - ulongOfLong mb) := rfl

@[simp] theorem releaseSlot_totalReservedMb :
    (releaseSlot sd i pid mb).1.totalReservedMb =
      ulongSub sd.totalReservedMb (sd.reservations i).reservedMb := rfl

/-- Releasing a slot that still holds the caller's pid frees it. -/
theorem releaseSlot_reservations_of_owner (hown : (sd.reservations i).pid = pid) :
    (releaseSlot sd i pid mb).1.reservations = Function.update sd.reservations i .free := by
  simp [releaseSlot, hown, PidReservation.free]

end Fields

/-! ## Inversion -/

section Search

variable {sd : SharedMemoryData} {count : Nat} {pid : Int} {i : Fin maxReservations}

/-- The unlocked scan stops at the first slot below `count` holding `pid`. -/
theorem findReservation_some (h : findReservation sd count pid = some i) :
    i.val < count ∧ (sd.reservations i).pid = pid ∧
      ∀ j : Fin maxReservations, j < i → (sd.reservations j).pid ≠ pid :=
  have ⟨hlt, hpid⟩ := Fin.find_spec _ h
  ⟨hlt, hpid, fun _ hj hp => Fin.find_min h hj ⟨Nat.lt_trans hj hlt, hp⟩⟩

theorem findReservation_none (h : findReservation sd count pid = none) :
    ∀ j : Fin maxReservations, j.val < count → (sd.reservations j).pid ≠ pid :=
  fun j hj hp => Fin.find_eq_none_iff.mp h j ⟨hj, hp⟩

theorem findEmptySlot_some (h : findEmptySlot sd = some i) : (sd.reservations i).pid = 0 :=
  Fin.find_spec _ h

/-- The scan under the mutex stops at the first free slot. -/
theorem findEmptySlot_min (h : findEmptySlot sd = some i) :
    ∀ j : Fin maxReservations, j < i → (sd.reservations j).pid ≠ 0 :=
  fun _ hj hp => Fin.find_min h hj hp

theorem findEmptySlot_none (h : findEmptySlot sd = none) :
    ∀ j : Fin maxReservations, (sd.reservations j).pid ≠ 0 :=
  Fin.find_eq_none_iff.mp h

end Search

/-- **Every call of `reserve_memory_mb` is one of four shapes**: an update of the slot the scan
finds; a no-op release of an absent pid; a claim of the first free slot followed by the update
of that slot; or a no-op on a full table. -/
theorem reserveMemoryMb_cases (sd : SharedMemoryData) (pid mb : Int) :
    (∃ i, findReservation sd sd.reservationCount pid = some i ∧
      reserveMemoryMb sd pid mb = reserveAt sd i pid mb) ∨
    (findReservation sd sd.reservationCount pid = none ∧ mb = 0 ∧
      reserveMemoryMb sd pid mb = (sd, 0)) ∨
    (findReservation sd sd.reservationCount pid = none ∧ mb ≠ 0 ∧
      ∃ i, findEmptySlot sd = some i ∧
        reserveMemoryMb sd pid mb = reserveAt (claimSlot sd i pid) i pid mb) ∨
    (findReservation sd sd.reservationCount pid = none ∧ mb ≠ 0 ∧ findEmptySlot sd = none ∧
      reserveMemoryMb sd pid mb = (sd, 0)) := by
  unfold reserveMemoryMb
  cases hf : findReservation sd sd.reservationCount pid with
  | some i => exact .inl ⟨i, rfl, rfl⟩
  | none =>
    by_cases h0 : mb = 0
    · exact .inr (.inl ⟨rfl, h0, if_pos h0⟩)
    · cases he : findEmptySlot sd with
      | some i => exact .inr (.inr (.inl ⟨rfl, h0, i, rfl, by simp [h0, he]⟩))
      | none => exact .inr (.inr (.inr ⟨rfl, h0, rfl, by simp [h0, he]⟩))

end MemoryAwareMake
