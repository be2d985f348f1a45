import MemoryAwareMake.Shared.Reserve
import Mathlib.Algebra.Order.BigOperators.Group.Finset

/-!
# MemoryAwareMake — the reservation-table invariant

Calls of `reserve_memory_mb` made one at a time keep the shared table well formed
(`TableInv`): `total_reserved_mb` is the sum of every slot's amount, a free slot (pid `0`)
holds `0`, every occupied slot lies below `reservation_count`, and no pid occupies two slots.
The monitor's recomputation over `reservations[0 .. reservation_count)` then agrees with
`total_reserved_mb` (`monitorReservedSum_eq_total`).

* `reservedSum_update` — the sum after one slot is rewritten;
* `TableShape.update_own`, `TableShape.update_free`, `TableShape.claimSlot` — the shape of the
  table after one slot is rewritten;
* `claimSlot_inv`, `reserveAt_inv` — the two halves of a call keep the invariant;
* `reserveMemoryMb_inv` — one call keeps it (the step lemma);
* `runReserve_inv` — so does every sequence of calls (the run lemma), and
  `reservation_table_invariant` instantiates it from the zeroed region.

The only side condition is the one of the `unsigned long` counter: the true sum of the table
stays below `2 ^ 64` (`SumBounded`).
-/

namespace MemoryAwareMake

/-- The reservation-table invariant of the shared region. -/
structure TableInv (sd : SharedMemoryData) : Prop where
  total_eq : sd.totalReservedMb = reservedSum sd
  total_lt : sd.totalReservedMb < ulongSize
  free_zero : ∀ i, (sd.reservations i).pid = 0 → (sd.reservations i).reservedMb = 0
  count_le : sd.reservationCount ≤ maxReservations
  owned_lt : ∀ i, (sd.reservations i).pid ≠ 0 → i.val < sd.reservationCount
  pid_inj : ∀ i j, (sd.reservations i).pid ≠ 0 →
    (sd.reservations i).pid = (sd.reservations j).pid → i = j

/-! ## Sums over the table -/

/-- Rewriting slot `i` with `r` trades its old amount for `r`'s. -/
theorem reservedSum_update {sd sd' : SharedMemoryData} {i : Fin maxReservations}
    {r : PidReservation} (h : sd'.reservations = Function.update sd.reservations i r) :
    reservedSum sd' + (sd.reservations i).reservedMb = reservedSum sd + r.reservedMb := by
  unfold reservedSum
  have hupd : ∀ j, (sd'.reservations j).reservedMb =
      Function.update (fun k => (sd.reservations k).reservedMb) i r.reservedMb j := by
    intro j
    rw [h]
    exact Function.apply_update (fun _ r => PidReservation.reservedMb r) sd.reservations i r j
  simp only [hupd]
  rw [Finset.sum_update_of_mem (Finset.mem_univ i),
    Finset.sum_eq_add_sum_diff_singleton (Finset.mem_univ i)
      (fun k => (sd.reservations k).reservedMb)]
  omega

/-- One slot's amount never exceeds the sum of the table. -/
theorem reservedMb_le_reservedSum (sd : SharedMemoryData) (i : Fin maxReservations) :
    (sd.reservations i).reservedMb ≤ reservedSum sd := by
  unfold reservedSum
  exact Finset.single_le_sum (fun j _ => Nat.zero_le (sd.reservations j).reservedMb)
    (Finset.mem_univ i)

/-! ## Writing one slot

`TableShape` is `TableInv` without the total: the part that also holds between two steps of
interleaved calls (`Shared/Concurrent.lean`). After `reservations[i] = r` each of its fields
holds when it held of the other slots and holds of `r`. -/

/-- The shape of the table: the fields of `TableInv` that do not mention the total. -/
structure TableShape (sd : SharedMemoryData) : Prop where
  free_zero : ∀ i, (sd.reservations i).pid = 0 → (sd.reservations i).reservedMb = 0
  count_le : sd.reservationCount ≤ maxReservations
  owned_lt : ∀ i, (sd.reservations i).pid ≠ 0 → i.val < sd.reservationCount
  pid_inj : ∀ i j, (sd.reservations i).pid ≠ 0 →
    (sd.reservations i).pid = (sd.reservations j).pid → i = j

theorem TableInv.shape {sd : SharedMemoryData} (h : TableInv sd) : TableShape sd :=
  ⟨h.free_zero, h.count_le, h.owned_lt, h.pid_inj⟩

theorem TableShape.toTableInv {sd : SharedMemoryData} (h : TableShape sd)
    (htot : sd.totalReservedMb = reservedSum sd) (hlt : sd.totalReservedMb < ulongSize) :
    TableInv sd :=
  ⟨htot, hlt, h.free_zero, h.count_le, h.owned_lt, h.pid_inj⟩

section Update

variable {f : Fin maxReservations → PidReservation} {i : Fin maxReservations} {r : PidReservation}

theorem freeZero_update (hf : ∀ j, (f j).pid = 0 → (f j).reservedMb = 0)
    (hr : r.pid = 0 → r.reservedMb = 0) :
    ∀ j, (Function.update f i r j).pid = 0 → (Function.update f i r j).reservedMb = 0 :=
  (Function.forall_update_iff f
    fun (_ : Fin maxReservations) (r : PidReservation) => r.pid = 0 → r.reservedMb = 0).2
    ⟨hr, fun j _ => hf j⟩

theorem ownedLt_update {n : Nat} (hf : ∀ j, (f j).pid ≠ 0 → j.val < n)
    (hr : r.pid ≠ 0 → i.val < n) :
    ∀ j, (Function.update f i r j).pid ≠ 0 → j.val < n :=
  (Function.forall_update_iff f
    fun (j : Fin maxReservations) (r : PidReservation) => r.pid ≠ 0 → j.val < n).2
    ⟨hr, fun j _ => hf j⟩

/-- The new pid is `0` or held by no other slot. -/
theorem pidInj_update (hinj : ∀ j k, (f j).pid ≠ 0 → (f j).pid = (f k).pid → j = k)
    (hr : r.pid ≠ 0 → ∀ j, j ≠ i → (f j).pid ≠ r.pid) :
    ∀ j k, (Function.update f i r j).pid ≠ 0 →
      (Function.update f i r j).pid = (Function.update f i r k).pid → j = k := by
  intro j k hj hjk
  by_cases hji : j = i <;> by_cases hki : k = i
  · rw [hji, hki]
  · subst hji
    simp only [Function.update_same, Function.update_noteq hki] at hj hjk
    exact absurd hjk.symm (hr hj k hki)
  · subst hki
    simp only [Function.update_same, Function.update_noteq hji] at hj hjk
    exact absurd hjk (hr (hjk ▸ hj) j hji)
  · simp only [Function.update_noteq hji, Function.update_noteq hki] at hj hjk
    exact hinj j k hj hjk

end Update

section Shape

variable {sd sd' : SharedMemoryData} {i : Fin maxReservations} {r : PidReservation}

/-- Rewriting the amount of an occupied slot keeps the shape. -/
theorem TableShape.update_own (h : TableShape sd)
    (hres : sd'.reservations = Function.update sd.reservations i r)
    (hcount : sd'.reservationCount = sd.reservationCount) (hi : (sd.reservations i).pid ≠ 0)
    (hr : r.pid = (sd.reservations i).pid) : TableShape sd' := by
  refine ⟨?_, hcount ▸ h.count_le, ?_, ?_⟩ <;> rw [hres]
  · exact freeZero_update h.free_zero fun h0 => absurd (hr ▸ h0) hi
  · exact hcount ▸ ownedLt_update h.owned_lt fun _ => h.owned_lt i hi
  · exact pidInj_update h.pid_inj fun hne j hji hj =>
      hji (h.pid_inj j i (hj ▸ hne) (hj.trans hr))

/-- Freeing a slot, with amount `0`, keeps the shape. -/
theorem TableShape.update_free (h : TableShape sd)
    (hres : sd'.reservations = Function.update sd.reservations i r)
    (hcount : sd'.reservationCount = sd.reservationCount) (hr : r.pid = 0)
    (hr0 : r.reservedMb = 0) : TableShape sd' := by
  refine ⟨?_, hcount ▸ h.count_le, ?_, ?_⟩ <;> rw [hres]
  · exact freeZero_update h.free_zero fun _ => hr0
  · exact hcount ▸ ownedLt_update h.owned_lt fun h0 => absurd hr h0
  · exact pidInj_update h.pid_inj fun h0 => absurd hr h0

/-- Claiming a slot for a pid present nowhere in the table keeps the shape. -/
theorem TableShape.claimSlot (h : TableShape sd) {pid : Int} (hpid : pid ≠ 0)
    (habs : ∀ j, (sd.reservations j).pid ≠ pid) : TableShape (claimSlot sd i pid) := by
  refine ⟨freeZero_update h.free_zero fun h0 => absurd h0 hpid, ?_, ?_,
    pidInj_update h.pid_inj fun _ j _ => habs j⟩ <;> rw [claimSlot_reservationCount]
  · exact max_le h.count_le i.isLt
  · exact ownedLt_update (fun j hj => lt_max_of_lt_left (h.owned_lt j hj))
      fun _ => lt_max_of_lt_right (Nat.lt_succ_self _)

end Shape

/-! ## The two halves of a call -/

/-- Claiming a free slot for a pid present nowhere in the table keeps the invariant. -/
theorem claimSlot_inv {sd : SharedMemoryData} {i : Fin maxReservations} {pid : Int}
    (h : TableInv sd) (hpid : pid ≠ 0) (habs : ∀ j, (sd.reservations j).pid ≠ pid)
    (hfree : (sd.reservations i).pid = 0) : TableInv (claimSlot sd i pid) := by
  have hsum := reservedSum_update (claimSlot_reservations sd i pid)
  simp only [h.free_zero i hfree] at hsum
  refine (h.shape.claimSlot hpid habs).toTableInv ?_ h.total_lt
  -- the claimed slot held `0` and holds `0`
  rw [claimSlot_totalReservedMb, h.total_eq]
  omega

/-- Releasing the caller's slot keeps the invariant. -/
theorem releaseSlot_inv {sd : SharedMemoryData} {i : Fin maxReservations} {pid mb : Int}
    (h : TableInv sd) (hown : (sd.reservations i).pid = pid) :
    TableInv (releaseSlot sd i pid mb).1 := by
  have hres := releaseSlot_reservations_of_owner sd i pid mb hown
  have hsum := reservedSum_update hres
  have hle := reservedMb_le_reservedSum sd i
  have htot := h.total_eq
  have hM := h.total_lt
  simp only [free_reservedMb] at hsum
  -- the slot is freed, and its amount leaves the total
  refine (h.shape.update_free hres rfl rfl rfl).toTableInv ?_ ?_ <;>
    rw [releaseSlot_totalReservedMb, ulongSub_of_le (by omega) hM] <;> omega

/-- Overwriting the amount of the caller's slot keeps the invariant, as long as the new true
sum stays below `2 ^ 64`. -/
theorem overwriteSlot_inv {sd : SharedMemoryData} {i : Fin maxReservations} {pid mb : Int}
    (h : TableInv sd) (hpid : pid ≠ 0) (hown : (sd.reservations i).pid = pid)
    (hlt : reservedSum (overwriteSlot sd i mb) < ulongSize) :
    TableInv (overwriteSlot sd i mb) := by
  have hsum := reservedSum_update (overwriteSlot_reservations sd i mb)
  have hle := reservedMb_le_reservedSum sd i
  have htot := h.total_eq
  have hM := h.total_lt
  simp only at hsum
  -- the slot keeps its pid; the total moves by the difference of the amounts
  refine (h.shape.update_own (overwriteSlot_reservations sd i mb) rfl (hown ▸ hpid)
    rfl).toTableInv ?_ ?_ <;> rw [overwriteSlot_totalReservedMb]
  · split
    · rw [Nat.mod_eq_of_lt (by omega)]; omega
    · split <;> omega
  · split
    · exact Nat.mod_lt _ (by unfold ulongSize; omega)
    · split <;> omega

/-- Releasing or overwriting the caller's slot keeps the invariant. -/
theorem reserveAt_inv {sd : SharedMemoryData} {i : Fin maxReservations} {pid mb : Int}
    (h : TableInv sd) (hpid : pid ≠ 0) (hown : (sd.reservations i).pid = pid)
    (hlt : reservedSum (reserveAt sd i pid mb).1 < ulongSize) :
    TableInv (reserveAt sd i pid mb).1 := by
  unfold reserveAt at hlt ⊢
  split
  · exact releaseSlot_inv h hown
  · rw [if_neg ‹_›] at hlt
    exact overwriteSlot_inv h hpid hown hlt

/-! ## One call, then a run -/

/-- A pid the scan does not find below `reservation_count` owns no slot at all: every slot from
`reservation_count` on is free. -/
theorem TableInv.absent_of_findReservation_none {sd : SharedMemoryData} {pid : Int}
    (h : TableInv sd) (hpid : pid ≠ 0)
    (hf : findReservation sd sd.reservationCount pid = none) :
    ∀ j, (sd.reservations j).pid ≠ pid := by
  intro j hj
  by_cases hjc : j.val < sd.reservationCount
  · exact findReservation_none hf j hjc hj
  · exact hjc (h.owned_lt j (by rw [hj]; exact hpid))

/-- **Step lemma.** One `reserve_memory_mb` call with a nonzero pid keeps the invariant, as
long as the new true sum stays below `2 ^ 64`. -/
theorem reserveMemoryMb_inv {sd : SharedMemoryData} {pid mb : Int} (h : TableInv sd)
    (hpid : pid ≠ 0) (hlt : reservedSum (reserveMemoryMb sd pid mb).1 < ulongSize) :
    TableInv (reserveMemoryMb sd pid mb).1 := by
  rcases reserveMemoryMb_cases sd pid mb with
    ⟨i, hf, heq⟩ | ⟨-, -, heq⟩ | ⟨hf, -, i, he, heq⟩ | ⟨-, -, -, heq⟩
  · rw [heq] at hlt ⊢
    exact reserveAt_inv h hpid (findReservation_some hf).2.1 hlt
  · rw [heq]; exact h
  · rw [heq] at hlt ⊢
    exact reserveAt_inv (claimSlot_inv h hpid (h.absent_of_findReservation_none hpid hf)
      (findEmptySlot_some he)) hpid (by simp) hlt
  · rw [heq]; exact h

/-- One call `reserve_memory_mb (pid, mb, filepath)`; `filepath` only reaches a debug
message. -/
structure ReserveCall where
  pid : Int
  mb : Int
  deriving DecidableEq, Repr

/-- Calls executed one at a time. -/
def runReserve (sd : SharedMemoryData) : List ReserveCall → SharedMemoryData
  | [] => sd
  | c :: cs => runReserve (reserveMemoryMb sd c.pid c.mb).1 cs

/-- The side conditions along a call sequence: every pid is nonzero and the true sum of the
table stays below `2 ^ 64` after every call. -/
def SumBounded : SharedMemoryData → List ReserveCall → Prop
  | _, [] => True
  | sd, c :: cs => c.pid ≠ 0 ∧ reservedSum (reserveMemoryMb sd c.pid c.mb).1 < ulongSize ∧
      SumBounded (reserveMemoryMb sd c.pid c.mb).1 cs

instance decSumBounded : ∀ sd calls, Decidable (SumBounded sd calls)
  | _, [] => isTrue trivial
  | sd, c :: cs =>
    have := decSumBounded (reserveMemoryMb sd c.pid c.mb).1 cs
    inferInstanceAs (Decidable (_ ∧ _ ∧ _))

/-- **Run lemma.** Every sequence of calls meeting `SumBounded` keeps the invariant. -/
theorem runReserve_inv {sd : SharedMemoryData} {calls : List ReserveCall} (h : TableInv sd)
    (hb : SumBounded sd calls) : TableInv (runReserve sd calls) := by
  induction calls generalizing sd with
  | nil => exact h
  | cons c cs ih =>
    obtain ⟨hpid, hlt, hrest⟩ := hb
    exact ih (reserveMemoryMb_inv h hpid hlt) hrest

/-- The zeroed region is well formed. -/
theorem zero_inv : TableInv SharedMemoryData.zero := by
  refine ⟨by simp [reservedSum, SharedMemoryData.zero], by decide, by simp, by decide,
    by simp, by simp⟩

/-! ## The monitor's recomputation -/

/-- The amount of slot `j`, read as a natural-number index (`0` past the table). -/
def slotAmount (sd : SharedMemoryData) (j : Nat) : Nat :=
  if h : j < maxReservations then (sd.reservations ⟨j, h⟩).reservedMb else 0

theorem monitorReservedSumUpTo_eq (sd : SharedMemoryData) (k : Nat) :
    monitorReservedSumUpTo sd k = (∑ j ∈ Finset.range k, slotAmount sd j) % ulongSize := by
  induction k with
  | zero => simp [monitorReservedSumUpTo]
  | succ k ih =>
    rw [monitorReservedSumUpTo, ih, Finset.sum_range_succ, Nat.mod_add_mod]
    rfl

theorem reservedSum_eq_range (sd : SharedMemoryData) :
    reservedSum sd = ∑ j ∈ Finset.range maxReservations, slotAmount sd j := by
  rw [← Fin.sum_univ_eq_sum_range]
  simp [reservedSum, slotAmount]

/-- **The monitor never warns.** Under the invariant, the sum the monitor recomputes over
`reservations[0 .. reservation_count)` equals `total_reserved_mb`. -/
theorem monitorReservedSum_eq_total {sd : SharedMemoryData} (h : TableInv sd) :
    monitorReservedSum sd = sd.totalReservedMb := by
  have hsub : ∑ j ∈ Finset.range sd.reservationCount, slotAmount sd j =
      ∑ j ∈ Finset.range maxReservations, slotAmount sd j := by
    apply Finset.sum_subset (Finset.range_subset.mpr h.count_le)
    intro j hj hjc
    simp only [Finset.mem_range] at hj hjc
    -- a slot at or above `reservation_count` is free, so it holds `0`
    have hfree : (sd.reservations ⟨j, hj⟩).pid = 0 := by
      by_contra hne
      exact hjc (h.owned_lt ⟨j, hj⟩ hne)
    simp [slotAmount, hj, h.free_zero _ hfree]
  rw [monitorReservedSum, monitorReservedSumUpTo_eq, hsub, ← reservedSum_eq_range, ← h.total_eq,
    Nat.mod_eq_of_lt h.total_lt]

/-- **Reservation-table invariant.** From the zeroed region, after every sequence of
`reserve_memory_mb` calls with nonzero pids whose true running sum stays below `2 ^ 64`, the
table is well formed and the monitor's recomputation agrees with `total_reserved_mb`. -/
theorem reservation_table_invariant (calls : List ReserveCall)
    (hb : SumBounded SharedMemoryData.zero calls) :
    TableInv (runReserve .zero calls) ∧
      monitorReservedSum (runReserve .zero calls) = (runReserve .zero calls).totalReservedMb :=
  have h := runReserve_inv zero_inv hb
  ⟨h, monitorReservedSum_eq_total h⟩

/-- Two reservations, the exact release of one of them, and the release of an absent pid
(which claims a slot and frees it again). -/
theorem reservation_table_invariant_run :
    SumBounded .zero [⟨7, 100⟩, ⟨8, 50⟩, ⟨7, -100⟩, ⟨9, -5⟩] ∧
      (TableInv (runReserve .zero [⟨7, 100⟩, ⟨8, 50⟩, ⟨7, -100⟩, ⟨9, -5⟩]) ∧
        monitorReservedSum (runReserve .zero [⟨7, 100⟩, ⟨8, 50⟩, ⟨7, -100⟩, ⟨9, -5⟩]) =
          (runReserve .zero [⟨7, 100⟩, ⟨8, 50⟩, ⟨7, -100⟩, ⟨9, -5⟩]).totalReservedMb) :=
  ⟨by decide, reservation_table_invariant _ (by decide)⟩

end MemoryAwareMake
