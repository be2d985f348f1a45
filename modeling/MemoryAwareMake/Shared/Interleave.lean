import MemoryAwareMake.Shared.Invariant

/-!
# MemoryAwareMake — `reserve_memory_mb` under interleaving

The shared region is written by the top-level make's main thread, its monitor thread (the
release `reserve_memory_mb (pid, -profile_peak_mb, ...)` of `find_child_descendants`) and
every sub-make. Only the slot allocation and the two updates of `total_reserved_mb` run under
a mutex; the scan for the caller's slot, the read of the old amount and the writes of
`reserved_mb` and `pid` are plain memory accesses.

This module gives one call its program counter (`Pc`) and makes every unlocked access of
the region, and every critical section, one step (`stepCall`). A `schedule` picks which call
steps next, so `runSchedule` covers every interleaving of any number of calls. A call that
runs alone computes exactly the atomic `reserveMemoryMb` (`Shared/Alone.lean`), and calls on
distinct pids keep the accounting under every interleaving (`Shared/Concurrent.lean`).

* `interleaved_release_leaks_reservation` — a reservation of a child pid by its parent,
  interleaved with the monitor's release of that pid on discovery, ends with every call
  finished, the slot free and its amount still counted in `total_reserved_mb`.
-/

namespace MemoryAwareMake

/-- Where one call of `reserve_memory_mb` stands. `slot` is the chosen `res`, `old` the
`old_value` read from it. -/
inductive Pc where
  /-- `count = shared_data->reservation_count;` -/
  | start
  /-- The loop test at index `i` and the read of `reservations[i].pid`. -/
  | scan (i : Nat)
  /-- The critical section under `reserved_count_mutex`. -/
  | allocate
  /-- `old_value = res->reserved_mb;` -/
  | readOld (slot : Fin maxReservations)
  /-- The critical section `total_reserved_mb -= old_value`. -/
  | subTotal (slot : Fin maxReservations) (old : Nat)
  /-- `res->reserved_mb = 0;` -/
  | zeroMb (slot : Fin maxReservations) (old : Nat)
  /-- `if (res->pid == pid)` -/
  | testPid (slot : Fin maxReservations) (old : Nat)
  /-- `res->pid = 0;` -/
  | clearPid (slot : Fin maxReservations) (old : Nat)
  /-- `res->reserved_mb = (unsigned long)mb;` -/
  | writeMb (slot : Fin maxReservations) (old : Nat)
  /-- The critical section that moves `total_reserved_mb` by the difference. -/
  | addTotal (slot : Fin maxReservations) (old : Nat)
  /-- Returned. -/
  | done (ret : Int)
  deriving DecidableEq, Repr

/-- One call in progress: its arguments, its local `count` and where it stands. -/
structure Call where
  pid : Int
  mb : Int
  count : Nat
  pc : Pc
  deriving DecidableEq, Repr

/-- A call that has not started. -/
def Call.init (pid mb : Int) : Call := ⟨pid, mb, 0, .start⟩

/-- The value a release returns. -/
def releaseRet (mb : Int) (old : Nat) : Int :=
  if mb = 0 ∨ (mb < 0 ∧ old = ulongOfLong (-mb)) then 1 else 0

/-- The new `total_reserved_mb` after overwriting `old` with `m`. -/
def adjustTotal (total old m : Nat) : Nat :=
  if old ≤ m then (total + (m - old)) % ulongSize
  else if total < old - m then 0
  else total - (old - m)

/-- Write slot `i` of the table. -/
def SharedMemoryData.setSlot (sd : SharedMemoryData) (i : Fin maxReservations)
    (r : PidReservation) : SharedMemoryData :=
  { sd with reservations := Function.update sd.reservations i r }

section SetSlot

variable (sd : SharedMemoryData) (i : Fin maxReservations) (r : PidReservation)

@[simp] theorem SharedMemoryData.setSlot_reservations :
    (sd.setSlot i r).reservations = Function.update sd.reservations i r := rfl

@[simp] theorem SharedMemoryData.setSlot_reservationCount :
    (sd.setSlot i r).reservationCount = sd.reservationCount := rfl

@[simp] theorem SharedMemoryData.setSlot_totalReservedMb :
    (sd.setSlot i r).totalReservedMb = sd.totalReservedMb := rfl

/-- Writing slot `i` trades its old amount for `r`'s in the table's sum. -/
theorem reservedSum_setSlot :
    reservedSum (sd.setSlot i r) + (sd.reservations i).reservedMb =
      reservedSum sd + r.reservedMb :=
  reservedSum_update rfl

end SetSlot

/-- One step of one call. A finished call does not move. -/
def stepCall (sd : SharedMemoryData) (c : Call) : SharedMemoryData × Call :=
  match c.pc with
  | .start => (sd, { c with count := sd.reservationCount, pc := .scan 0 })
  | .scan i =>
    if h : i < c.count ∧ i < maxReservations then
      if (sd.reservations ⟨i, h.2⟩).pid = c.pid then (sd, { c with pc := .readOld ⟨i, h.2⟩ })
      else (sd, { c with pc := .scan (i + 1) })
    else if c.mb = 0 then (sd, { c with pc := .done 0 })
    else (sd, { c with pc := .allocate })
  | .allocate =>
    match findEmptySlot sd with
    | some e => (claimSlot sd e c.pid,
        { c with count := sd.reservationCount, pc := .readOld e })
    | none => (sd, { c with count := sd.reservationCount, pc := .done 0 })
  | .readOld s =>
    let old := (sd.reservations s).reservedMb
    (sd, { c with pc := if c.mb ≤ 0 then .subTotal s old else .writeMb s old })
  | .subTotal s old =>
    ({ sd with totalReservedMb := ulongSub sd.totalReservedMb old }, { c with pc := .zeroMb s old })
  | .zeroMb s old =>
    (sd.setSlot s { sd.reservations s with reservedMb := 0 }, { c with pc := .testPid s old })
  | .testPid s old =>
    (sd, { c with pc := if (sd.reservations s).pid = c.pid then .clearPid s old
                        else .done (releaseRet c.mb old) })
  | .clearPid s old =>
    (sd.setSlot s { sd.reservations s with pid := 0 }, { c with pc := .done (releaseRet c.mb old) })
  | .writeMb s old =>
    (sd.setSlot s { sd.reservations s with reservedMb := ulongOfLong c.mb },
      { c with pc := .addTotal s old })
  | .addTotal _ old =>
    ({ sd with totalReservedMb := adjustTotal sd.totalReservedMb old (ulongOfLong c.mb) },
      { c with pc := .done 0 })
  | .done _ => (sd, c)

/-- Step call number `k` of `calls` (no-op for an index past the end). -/
def stepAt (sd : SharedMemoryData) (calls : List Call) (k : Nat) :
    SharedMemoryData × List Call :=
  match calls[k]? with
  | some c => let r := stepCall sd c; (r.1, calls.set k r.2)
  | none => (sd, calls)

/-- Run the calls under a schedule: each entry names the call that takes the next step. -/
def runSchedule (sd : SharedMemoryData) (calls : List Call) : List Nat → SharedMemoryData × List Call
  | [] => (sd, calls)
  | k :: ks => let r := stepAt sd calls k; runSchedule r.1 r.2 ks

/-- The call has returned. -/
def Pc.isDone : Pc → Bool
  | .done _ => true
  | _ => false

/-- No call is in progress. -/
def Quiescent (calls : List Call) : Prop :=
  ∀ c ∈ calls, c.pc.isDone

instance (calls : List Call) : Decidable (Quiescent calls) :=
  inferInstanceAs (Decidable (∀ c ∈ calls, c.pc.isDone))

/-- Sound accounting of the region: `total_reserved_mb` is the sum of `reserved_mb` over the
occupied slots, and a free slot holds `0`. -/
def AccountingSound (sd : SharedMemoryData) : Prop :=
  sd.totalReservedMb = ∑ i, (if (sd.reservations i).pid ≠ 0 then (sd.reservations i).reservedMb else 0) ∧
    ∀ i, (sd.reservations i).pid = 0 → (sd.reservations i).reservedMb = 0

instance (sd : SharedMemoryData) : Decidable (AccountingSound sd) :=
  inferInstanceAs (Decidable (_ ∧ _))

/-- **The leak.** The parent reserves 100 MiB for its child pid `7` while the monitor, having
just discovered pid `7`, releases it. The parent claims a slot; the monitor's scan finds it
and frees it; the parent then writes its amount into the freed slot and adds it to the total.
Every call has returned, yet the free slot holds 100 MiB and `total_reserved_mb` counts them. -/
theorem interleaved_release_leaks_reservation :
    let r : SharedMemoryData × List Call := runSchedule .zero [Call.init 7 100, Call.init 7 (-100)]
      [0, 0, 0, 1, 1, 1, 1, 1, 1, 1, 0, 0, 0]
    Quiescent r.2 ∧ r.1.reservations ⟨0, by decide⟩ = ⟨0, 100⟩ ∧ r.1.totalReservedMb = 100 ∧
      ¬ AccountingSound r.1 := by
  decide

end MemoryAwareMake
