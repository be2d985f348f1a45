import Mathlib.Algebra.BigOperators.Fin
import Mathlib.Data.Fin.Tuple.Basic

/-!
# MemoryAwareMake — the shared accounting region

`struct shared_memory_data` (`main.c`) is the fixed-size object every build process of a host
maps: a table of `MAX_RESERVATIONS` per-process reservations, the high-water mark
`reservation_count`, the two published scalars and two process-shared mutexes.

This module holds the data model only:

* the `unsigned long` arithmetic the region's counters use (`ulongSize`, `ulongOfLong`,
  `ulongSub`);
* `PidReservation` / `SharedMemoryData`, the table as a function on `Fin maxReservations`;
* `reservedSum`, the full recomputation of the table that `memory_monitor_thread_func`
  compares with `total_reserved_mb`, and `monitorReservedSum`, the loop that does it.

`reserve_memory_mb` and its invariant live in `Shared/Reserve.lean` and
`Shared/Invariant.lean`.
-/

namespace MemoryAwareMake

/-! ## `unsigned long` and `long` -/

/-- `ULONG_MAX + 1 = 2 ^ 64`: `unsigned long` arithmetic is taken modulo this. -/
def ulongSize : Nat := 18446744073709551616

/-- The conversion `(unsigned long) x` of a `long`: two's complement, modulo `2 ^ 64`. -/
def ulongOfLong (x : Int) : Nat := (x % (ulongSize : Int)).toNat

/-- The conversion `(long) n` of an `unsigned long` (two's complement). -/
def longOfUlong (n : Nat) : Int :=
  if n % ulongSize < 9223372036854775808 then (n % ulongSize : Nat)
  else (n % ulongSize : Nat) - ulongSize

/-- `a - b` on `unsigned long` operands: wraps below zero. -/
def ulongSub (a b : Nat) : Nat := (a + ulongSize - b) % ulongSize

theorem ulongSub_of_le {a b : Nat} (hb : b ≤ a) (ha : a < ulongSize) : ulongSub a b = a - b := by
  unfold ulongSub
  rw [show a + ulongSize - b = (a - b) + ulongSize by omega, Nat.add_mod_right,
    Nat.mod_eq_of_lt (by omega)]

theorem ulongOfLong_of_nonneg {x : Int} (h0 : 0 ≤ x) (h : x < ulongSize) :
    ulongOfLong x = x.toNat := by
  unfold ulongOfLong
  rw [Int.emod_eq_of_lt h0 h]

theorem ulongOfLong_lt (x : Int) : ulongOfLong x < ulongSize := by
  unfold ulongOfLong ulongSize
  omega

/-! ## The region -/

/-- `MAX_RESERVATIONS`. -/
def maxReservations : Nat := 64

/-- The state of one `pthread_mutex_t` of the region: the all-zero bytes `memset` leaves (a
default, process-private mutex), or a mutex initialised with `PTHREAD_PROCESS_SHARED`. -/
inductive MutexInit where
  | zeroed
  | processShared
  deriving DecidableEq, Repr

/-- `struct pid_reservation`: the owning pid (`0` marks a free slot) and its amount. -/
structure PidReservation where
  pid : Int
  reservedMb : Nat
  deriving DecidableEq, Repr

/-- A free slot: what `memset` leaves and what a release writes back. -/
def PidReservation.free : PidReservation := ⟨0, 0⟩

/-- `struct shared_memory_data`. -/
structure SharedMemoryData where
  reservationCount : Nat
  reservations : Fin maxReservations → PidReservation
  unusedPeaksMb : Nat
  totalReservedMb : Nat
  reservedCountMutex : MutexInit
  totalReservedMbMutex : MutexInit

/-- The region after `memset (shared_data, 0, sizeof (struct shared_memory_data))`. -/
def SharedMemoryData.zero : SharedMemoryData :=
  ⟨0, fun _ => .free, 0, 0, .zeroed, .zeroed⟩

/-- The sum of `reserved_mb` over all `MAX_RESERVATIONS` slots, as a true (unbounded) sum. -/
def reservedSum (sd : SharedMemoryData) : Nat :=
  ∑ i, (sd.reservations i).reservedMb

/-- The recomputation loop of `memory_monitor_thread_func`:
`for (i = 0; i < count; i++) total_reserved_mb += reservations[i].reserved_mb;`
in `unsigned long`, over the first `k` slots. -/
def monitorReservedSumUpTo (sd : SharedMemoryData) : Nat → Nat
  | 0 => 0
  | k + 1 =>
    (monitorReservedSumUpTo sd k +
      if h : k < maxReservations then (sd.reservations ⟨k, h⟩).reservedMb else 0) % ulongSize

/-- The monitor's recomputed total, read up to `reservation_count`. -/
def monitorReservedSum (sd : SharedMemoryData) : Nat :=
  monitorReservedSumUpTo sd sd.reservationCount

@[simp] theorem zero_reservations (i : Fin maxReservations) :
    SharedMemoryData.zero.reservations i = .free := rfl

@[simp] theorem free_pid : PidReservation.free.pid = 0 := rfl

@[simp] theorem free_reservedMb : PidReservation.free.reservedMb = 0 := rfl

end MemoryAwareMake
