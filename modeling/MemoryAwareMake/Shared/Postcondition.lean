import MemoryAwareMake.Shared.Invariant

/-!
# MemoryAwareMake — what one `reserve_memory_mb` call does

From a table with the invariant, for a nonzero pid `p` and an amount `mb` of type `long`
other than `LONG_MIN`, this module gives the region after `reserve_memory_mb (p, mb, path)`
in each shape of the call, in terms of the table before it, and reads the postcondition off
them: what `p` holds afterwards, the slots of the other owners, the total and the returned
value. The total moves by `mb` minus what `p` held modulo `2 ^ 64`: `total_reserved_mb` is an
`unsigned long`, and a reservation that takes the true sum to `2 ^ 64` or beyond wraps it
(`reserve_memory_mb_total_wraps`).

* `reserveMemoryMb_spec` — the six post-states: release or overwrite of `p`'s slot, a no-op
  release, a release that claims and frees the first free slot, a claim and write of that
  slot, a no-op on a full table;
* `reserveMemoryMb_frame`, `reserveMemoryMb_reserve`, `reserveMemoryMb_full`,
  `reserveMemoryMb_release`, `reserveMemoryMb_twice` — the parts of the postcondition;
* `reserve_memory_mb_postcondition` — the whole of it.
-/

namespace MemoryAwareMake

/-- What `pid` holds in the table: the amounts of the slots it owns (at most one under the
invariant). -/
def heldMb (sd : SharedMemoryData) (pid : Int) : Nat :=
  ∑ i, if (sd.reservations i).pid = pid then (sd.reservations i).reservedMb else 0

/-! ## What a pid holds, and where the scan finds it -/

section Held

variable {sd : SharedMemoryData} {pid : Int}

theorem heldMb_of_owner (h : TableInv sd) (hp : pid ≠ 0) {s : Fin maxReservations}
    (hs : (sd.reservations s).pid = pid) : heldMb sd pid = (sd.reservations s).reservedMb := by
  unfold heldMb
  rw [Finset.sum_eq_single s (fun j _ hj => if_neg fun hjp : (sd.reservations j).pid = pid =>
    hj (h.pid_inj j s (by rw [hjp]; exact hp) (hjp.trans hs.symm))) (by simp), if_pos hs]

theorem heldMb_of_absent (habs : ∀ i, (sd.reservations i).pid ≠ pid) : heldMb sd pid = 0 :=
  Finset.sum_eq_zero fun i _ => if_neg (habs i)

/-- The unlocked scan finds the only slot of `pid` when it lies below `count`. -/
theorem findReservation_of_unique {count : Nat} {s : Fin maxReservations}
    (hs : (sd.reservations s).pid = pid) (hlt : s.val < count)
    (huniq : ∀ j, (sd.reservations j).pid = pid → j = s) : findReservation sd count pid = some s :=
  Fin.find_eq_some_iff.mpr ⟨⟨hlt, hs⟩, fun j hj => (huniq j hj.2).symm ▸ le_refl s⟩

theorem findReservation_of_absent (habs : ∀ j, (sd.reservations j).pid ≠ pid) (count : Nat) :
    findReservation sd count pid = none :=
  Fin.find_eq_none_iff.mpr fun j hj => habs j hj.2

end Held

/-! ## The writes of one slot

`reserveAt` on the slot the call settles on, as an explicit region: the `mb <= 0` branch on
the caller's own slot and on a slot it has just claimed, and the `mb > 0` branch likewise.
Under the invariant the old amount is part of the total, so the clamp of the `mb > 0` branch
never fires. -/

section Writes

variable {sd : SharedMemoryData} {s : Fin maxReservations} {pid mb : Int}

theorem reserveAt_of_ne {i : Fin maxReservations} (hi : i ≠ s) :
    (reserveAt sd s pid mb).1.reservations i = sd.reservations i := by
  unfold reserveAt
  split_ifs <;> simp [releaseSlot, overwriteSlot, Function.update_noteq hi]

/-- The `mb <= 0` branch on the caller's slot frees it and takes its amount off the total. -/
theorem reserveAt_release (h : TableInv sd) (hown : (sd.reservations s).pid = pid)
    (hmb : mb ≤ 0) (hlo : -9223372036854775808 < mb) :
    reserveAt sd s pid mb =
      ({ sd with
          reservations := Function.update sd.reservations s .free
          totalReservedMb := sd.totalReservedMb - (sd.reservations s).reservedMb },
        if mb = 0 ∨ -mb = ((sd.reservations s).reservedMb : Int) then 1 else 0) := by
  have hle : (sd.reservations s).reservedMb ≤ sd.totalReservedMb :=
    h.total_eq ▸ reservedMb_le_reservedSum sd s
  have hret : (mb = 0 ∨ (mb < 0 ∧ (sd.reservations s).reservedMb = ulongOfLong (-mb))) ↔
      (mb = 0 ∨ -mb = ((sd.reservations s).reservedMb : Int)) := by
    rw [ulongOfLong, Int.emod_eq_of_lt (by omega) (by unfold ulongSize; omega)]
    omega
  simp only [reserveAt, if_pos hmb, releaseSlot, hret]
  congr
  · simp [hown, PidReservation.free]
  · exact ulongSub_of_le hle h.total_lt

/-- The `mb > 0` branch on slot `s` writes `mb` into it and moves the total by `mb` minus the
old amount, modulo `2 ^ 64`. -/
theorem reserveAt_overwrite (h : TableInv sd) (hmb : 0 < mb) (hhi : mb < 9223372036854775808) :
    reserveAt sd s pid mb =
      ({ sd with
          reservations := Function.update sd.reservations s
            { sd.reservations s with reservedMb := mb.toNat }
          totalReservedMb :=
            (sd.totalReservedMb + mb.toNat - (sd.reservations s).reservedMb) % ulongSize }, 0) := by
  have hle : (sd.reservations s).reservedMb ≤ sd.totalReservedMb :=
    h.total_eq ▸ reservedMb_le_reservedSum sd s
  have hM := h.total_lt
  have hm : ulongOfLong mb = mb.toNat := ulongOfLong_of_nonneg hmb.le (by unfold ulongSize; omega)
  simp only [reserveAt, if_neg (show ¬mb ≤ 0 by omega), overwriteSlot, hm]
  congr 2
  -- no clamp: the old amount is part of the total
  split_ifs
  · congr 1; omega
  · omega
  · rw [Nat.mod_eq_of_lt (by omega)]; omega

end Writes

/-! ## The six shapes of a call -/

section Spec

variable {sd : SharedMemoryData} {pid mb : Int}

theorem reserveMemoryMb_of_owner (h : TableInv sd) (hp : pid ≠ 0) {s : Fin maxReservations}
    (hs : (sd.reservations s).pid = pid) : reserveMemoryMb sd pid mb = reserveAt sd s pid mb := by
  have hlt := h.owned_lt s (by rw [hs]; exact hp)
  have huniq : ∀ j, (sd.reservations j).pid = pid → j = s := fun j hj =>
    h.pid_inj j s (by rw [hj]; exact hp) (hj.trans hs.symm)
  simp only [reserveMemoryMb, findReservation_of_unique hs hlt huniq]

/-- A release by a pid that owns nothing claims the first free slot and frees it again: only
`reservation_count` moves. -/
theorem reserveAt_claimSlot_release (h : TableInv sd) {e : Fin maxReservations}
    (he : (sd.reservations e).pid = 0) (hmb : mb < 0) (hlo : -9223372036854775808 < mb) :
    reserveAt (claimSlot sd e pid) e pid mb =
      ({ sd with reservationCount := max sd.reservationCount (e.val + 1) }, 0) := by
  have hfree : sd.reservations e = .free := by
    rw [PidReservation.free, ← he, ← h.free_zero e he]
  have hret : ¬(mb = 0 ∨ (mb < 0 ∧ 0 = ulongOfLong (-mb))) := by
    rw [ulongOfLong, Int.emod_eq_of_lt (by omega) (by unfold ulongSize; omega)]
    omega
  simp only [reserveAt, if_pos hmb.le, releaseSlot, claimSlot_reservations,
    Function.update_same, Function.update_idem, claimSlot_totalReservedMb, if_true,
    claimSlot_reservationCount, hret, if_false, ulongSub_of_le (Nat.zero_le _) h.total_lt,
    Nat.sub_zero]
  rw [show Function.update sd.reservations e ⟨0, 0⟩ = sd.reservations from
    Function.update_eq_self_iff.mpr hfree.symm]
  rfl

/-- A reservation by a pid that owns nothing claims the first free slot and writes `mb`
into it. -/
theorem reserveAt_claimSlot_overwrite (h : TableInv sd) (hp : pid ≠ 0)
    (habs : ∀ j, (sd.reservations j).pid ≠ pid) {e : Fin maxReservations}
    (he : (sd.reservations e).pid = 0) (hmb : 0 < mb) (hhi : mb < 9223372036854775808) :
    reserveAt (claimSlot sd e pid) e pid mb =
      ({ sd with
          reservations := Function.update sd.reservations e ⟨pid, mb.toNat⟩
          reservationCount := max sd.reservationCount (e.val + 1)
          totalReservedMb := (sd.totalReservedMb + mb.toNat) % ulongSize }, 0) := by
  rw [reserveAt_overwrite (claimSlot_inv h hp habs he) hmb hhi]
  simp only [claimSlot_reservations, Function.update_same, Function.update_idem,
    claimSlot_totalReservedMb, claimSlot_reservationCount, Nat.sub_zero]
  rfl

/-- **Every call on a table with the invariant ends in one of six regions**, each given from
the region before: `p` owns slot `s`, and the call frees it (`mb <= 0`) or writes `mb` into
it (`mb > 0`); or `p` owns no slot, and the call does nothing (`mb == 0`), claims the first
free slot and frees it again (`mb < 0`), claims it and writes `mb` into it (`mb > 0`), or does
nothing on a full table. -/
theorem reserveMemoryMb_spec (h : TableInv sd) (hp : pid ≠ 0) (hlo : -9223372036854775808 < mb)
    (hhi : mb < 9223372036854775808) :
    (∃ s, (sd.reservations s).pid = pid ∧ mb ≤ 0 ∧ reserveMemoryMb sd pid mb =
      ({ sd with
          reservations := Function.update sd.reservations s .free
          totalReservedMb := sd.totalReservedMb - (sd.reservations s).reservedMb },
        if mb = 0 ∨ -mb = ((sd.reservations s).reservedMb : Int) then 1 else 0)) ∨
    (∃ s, (sd.reservations s).pid = pid ∧ 0 < mb ∧ reserveMemoryMb sd pid mb =
      ({ sd with
          reservations := Function.update sd.reservations s ⟨pid, mb.toNat⟩
          totalReservedMb :=
            (sd.totalReservedMb + mb.toNat - (sd.reservations s).reservedMb) % ulongSize }, 0)) ∨
    ((∀ j, (sd.reservations j).pid ≠ pid) ∧ mb = 0 ∧ reserveMemoryMb sd pid mb = (sd, 0)) ∨
    ((∀ j, (sd.reservations j).pid ≠ pid) ∧ mb < 0 ∧ ∃ e, findEmptySlot sd = some e ∧
      reserveMemoryMb sd pid mb =
        ({ sd with reservationCount := max sd.reservationCount (e.val + 1) }, 0)) ∨
    ((∀ j, (sd.reservations j).pid ≠ pid) ∧ 0 < mb ∧ ∃ e, findEmptySlot sd = some e ∧
      reserveMemoryMb sd pid mb =
        ({ sd with
            reservations := Function.update sd.reservations e ⟨pid, mb.toNat⟩
            reservationCount := max sd.reservationCount (e.val + 1)
            totalReservedMb := (sd.totalReservedMb + mb.toNat) % ulongSize }, 0)) ∨
    ((∀ j, (sd.reservations j).pid ≠ pid) ∧ mb ≠ 0 ∧ (∀ j, (sd.reservations j).pid ≠ 0) ∧
      reserveMemoryMb sd pid mb = (sd, 0)) := by
  by_cases hown : ∃ s, (sd.reservations s).pid = pid
  · -- `p` owns slot `s`
    obtain ⟨s, hs⟩ := hown
    rw [reserveMemoryMb_of_owner h hp hs]
    by_cases hmb : mb ≤ 0
    · exact .inl ⟨s, hs, hmb, reserveAt_release h hs hmb hlo⟩
    · refine .inr (.inl ⟨s, hs, by omega, ?_⟩)
      rw [reserveAt_overwrite h (by omega) hhi, ← hs]
  · -- `p` owns no slot
    have habs : ∀ j, (sd.reservations j).pid ≠ pid := fun j hj => hown ⟨j, hj⟩
    simp only [reserveMemoryMb, findReservation_of_absent habs]
    by_cases h0 : mb = 0
    · exact .inr (.inr (.inl ⟨habs, h0, if_pos h0⟩))
    rw [if_neg h0]
    cases hf : findEmptySlot sd with
    | none => exact .inr (.inr (.inr (.inr (.inr ⟨habs, h0, findEmptySlot_none hf, rfl⟩))))
    | some e =>
      have he := findEmptySlot_some hf
      by_cases hneg : mb < 0
      · exact .inr (.inr (.inr (.inl ⟨habs, hneg, e, rfl,
          reserveAt_claimSlot_release h he hneg hlo⟩)))
      · exact .inr (.inr (.inr (.inr (.inl ⟨habs, by omega, e, rfl,
          reserveAt_claimSlot_overwrite h hp habs he (by omega) hhi⟩))))

end Spec

/-! ## The postcondition -/

/-- **The postcondition of `reserve_memory_mb (pid, mb, path)`** on the region `sd`. -/
structure ReservePost (sd : SharedMemoryData) (pid mb : Int) : Prop where
  /-- No slot owned by another pid changes. -/
  frame : ∀ j, (sd.reservations j).pid ≠ 0 → (sd.reservations j).pid ≠ pid →
    (reserveMemoryMb sd pid mb).1.reservations j = sd.reservations j
  /-- With a slot of its own or a free one, `pid` ends up owning exactly one slot, holding
  `mb`; the total moves by `mb` minus what `pid` held, modulo `2 ^ 64`; the call returns `0`. -/
  reserve : 0 < mb → ((∃ s, (sd.reservations s).pid = pid) ∨ ∃ j, (sd.reservations j).pid = 0) →
    (∃ s, (reserveMemoryMb sd pid mb).1.reservations s = ⟨pid, mb.toNat⟩ ∧
        ∀ j, ((reserveMemoryMb sd pid mb).1.reservations j).pid = pid → j = s) ∧
      (reserveMemoryMb sd pid mb).1.totalReservedMb =
        (sd.totalReservedMb + mb.toNat - heldMb sd pid) % ulongSize ∧
      (reserveMemoryMb sd pid mb).2 = 0
  /-- A full table refuses a pid that owns no slot: nothing changes and the call returns `0`. -/
  full : 0 < mb → (∀ j, (sd.reservations j).pid ≠ pid) → (∀ j, (sd.reservations j).pid ≠ 0) →
    reserveMemoryMb sd pid mb = (sd, 0)
  /-- A release leaves no slot with `pid`, takes what `pid` held off the total, and returns `1`
  exactly when `pid` owned a slot and `mb` is `0` or cancels the amount. -/
  release : mb ≤ 0 → (∀ j, ((reserveMemoryMb sd pid mb).1.reservations j).pid ≠ pid) ∧
    (reserveMemoryMb sd pid mb).1.totalReservedMb = sd.totalReservedMb - heldMb sd pid ∧
    ((reserveMemoryMb sd pid mb).2 = 1 ↔
      (∃ s, (sd.reservations s).pid = pid) ∧ (mb = 0 ∨ -mb = (heldMb sd pid : Int)))
  /-- A second identical call changes nothing more. -/
  twice : (reserveMemoryMb (reserveMemoryMb sd pid mb).1 pid mb).1 = (reserveMemoryMb sd pid mb).1

section Post

variable {sd : SharedMemoryData} {pid mb : Int}

theorem update_pid_unique {f : Fin maxReservations → PidReservation} {s : Fin maxReservations}
    {r : PidReservation} (hother : ∀ j, j ≠ s → (f j).pid ≠ pid) :
    ∀ j, (Function.update f s r j).pid = pid → j = s := fun j hj => by
  by_contra hjs
  rw [Function.update_noteq hjs] at hj
  exact hother j hjs hj

theorem TableInv.pid_ne_of_ne (h : TableInv sd) (hp : pid ≠ 0) {s : Fin maxReservations}
    (hs : (sd.reservations s).pid = pid) : ∀ j, j ≠ s → (sd.reservations j).pid ≠ pid :=
  fun j hjs hj => hjs (h.pid_inj j s (by rw [hj]; exact hp) (hj.trans hs.symm))

/-- Once its slot is freed, a pid owns none. -/
theorem TableInv.pid_ne_of_free (h : TableInv sd) (hp : pid ≠ 0) {s : Fin maxReservations}
    (hs : (sd.reservations s).pid = pid) :
    ∀ j, (Function.update sd.reservations s .free j).pid ≠ pid := fun j hj => by
  by_cases hjs : j = s
  · rw [hjs, Function.update_same] at hj
    exact hp (hj.symm.trans free_pid)
  · rw [Function.update_noteq hjs] at hj
    exact h.pid_ne_of_ne hp hs j hjs hj

theorem reserveMemoryMb_frame (h : TableInv sd) (hp : pid ≠ 0)
    (hlo : -9223372036854775808 < mb) (hhi : mb < 9223372036854775808) (j : Fin maxReservations)
    (hj0 : (sd.reservations j).pid ≠ 0) (hj : (sd.reservations j).pid ≠ pid) :
    (reserveMemoryMb sd pid mb).1.reservations j = sd.reservations j := by
  rcases reserveMemoryMb_spec h hp hlo hhi with ⟨s, hs, -, heq⟩ | ⟨s, hs, -, heq⟩ |
    ⟨-, -, heq⟩ | ⟨-, -, e, -, heq⟩ | ⟨-, -, e, he, heq⟩ | ⟨-, -, -, heq⟩ <;>
    rw [heq]
  -- the regions that keep every slot close by `rfl`; the slot written is the caller's or was free
  · exact Function.update_noteq (by rintro rfl; exact hj hs) _ _
  · exact Function.update_noteq (by rintro rfl; exact hj hs) _ _
  · exact Function.update_noteq (by rintro rfl; exact hj0 (findEmptySlot_some he)) _ _

theorem reserveMemoryMb_reserve (h : TableInv sd) (hp : pid ≠ 0)
    (hlo : -9223372036854775808 < mb) (hhi : mb < 9223372036854775808) (hmb : 0 < mb)
    (hroom : (∃ s, (sd.reservations s).pid = pid) ∨ ∃ j, (sd.reservations j).pid = 0) :
    (∃ s, (reserveMemoryMb sd pid mb).1.reservations s = ⟨pid, mb.toNat⟩ ∧
        ∀ j, ((reserveMemoryMb sd pid mb).1.reservations j).pid = pid → j = s) ∧
      (reserveMemoryMb sd pid mb).1.totalReservedMb =
        (sd.totalReservedMb + mb.toNat - heldMb sd pid) % ulongSize ∧
      (reserveMemoryMb sd pid mb).2 = 0 := by
  rcases reserveMemoryMb_spec h hp hlo hhi with ⟨-, -, hle, -⟩ | ⟨s, hs, -, heq⟩ |
    ⟨-, h0, -⟩ | ⟨-, hneg, -⟩ | ⟨habs, -, e, -, heq⟩ | ⟨habs, -, hfull, -⟩
  · omega
  · -- the caller's slot is overwritten
    rw [heq, heldMb_of_owner h hp hs]
    exact ⟨⟨s, by simp, update_pid_unique (h.pid_ne_of_ne hp hs)⟩, rfl, rfl⟩
  · omega
  · omega
  · -- the first free slot is claimed and written
    rw [heq, heldMb_of_absent habs]
    exact ⟨⟨e, by simp, update_pid_unique fun j _ => habs j⟩, rfl, rfl⟩
  · -- no room, against `hroom`
    rcases hroom with ⟨s, hs⟩ | ⟨j, hj⟩
    · exact absurd hs (habs s)
    · exact absurd hj (hfull j)

theorem reserveMemoryMb_full (hmb : 0 < mb) (habs : ∀ j, (sd.reservations j).pid ≠ pid)
    (hfull : ∀ j, (sd.reservations j).pid ≠ 0) : reserveMemoryMb sd pid mb = (sd, 0) := by
  have hnone : findEmptySlot sd = none := Fin.find_eq_none_iff.mpr hfull
  simp only [reserveMemoryMb, findReservation_of_absent habs, if_neg (show mb ≠ 0 by omega),
    hnone]

theorem reserveMemoryMb_release (h : TableInv sd) (hp : pid ≠ 0)
    (hlo : -9223372036854775808 < mb) (hhi : mb < 9223372036854775808) (hmb : mb ≤ 0) :
    (∀ j, ((reserveMemoryMb sd pid mb).1.reservations j).pid ≠ pid) ∧
      (reserveMemoryMb sd pid mb).1.totalReservedMb = sd.totalReservedMb - heldMb sd pid ∧
      ((reserveMemoryMb sd pid mb).2 = 1 ↔
        (∃ s, (sd.reservations s).pid = pid) ∧ (mb = 0 ∨ -mb = (heldMb sd pid : Int))) := by
  -- when `pid` owns nothing, nothing is released and the call returns `0`
  have hnone : (∀ j, (sd.reservations j).pid ≠ pid) →
      sd.totalReservedMb = sd.totalReservedMb - heldMb sd pid ∧
        ((0 : Int) = 1 ↔
          (∃ s, (sd.reservations s).pid = pid) ∧ (mb = 0 ∨ -mb = (heldMb sd pid : Int))) :=
    fun habs => ⟨by rw [heldMb_of_absent habs, Nat.sub_zero],
      iff_of_false (by decide) fun ⟨⟨s, hs⟩, _⟩ => habs s hs⟩
  rcases reserveMemoryMb_spec h hp hlo hhi with ⟨s, hs, -, heq⟩ | ⟨-, -, hpos, -⟩ |
    ⟨habs, -, heq⟩ | ⟨habs, -, e, -, heq⟩ | ⟨-, hpos, -⟩ | ⟨habs, -, -, heq⟩
  · -- the caller's slot is freed
    rw [heq, heldMb_of_owner h hp hs]
    refine ⟨h.pid_ne_of_free hp hs, rfl, ?_⟩
    dsimp only
    split_ifs with hc
    · exact iff_of_true rfl ⟨⟨s, hs⟩, hc⟩
    · exact iff_of_false (by decide) fun hh => hc hh.2
  · omega
  · rw [heq]; exact ⟨habs, hnone habs⟩
  · rw [heq]; exact ⟨habs, hnone habs⟩
  · omega
  · rw [heq]; exact ⟨habs, hnone habs⟩

/-- A second reservation of the same amount finds the caller's slot holding it already. -/
theorem reserveMemoryMb_of_holds {s : Fin maxReservations} (hs : (sd.reservations s).pid = pid)
    (hlt : s.val < sd.reservationCount) (huniq : ∀ j, (sd.reservations j).pid = pid → j = s)
    (hm : (sd.reservations s).reservedMb = mb.toNat) (hmb : 0 < mb)
    (hhi : mb < 9223372036854775808) (ht : sd.totalReservedMb < ulongSize) :
    reserveMemoryMb sd pid mb = (sd, 0) := by
  have hu : ulongOfLong mb = mb.toNat := ulongOfLong_of_nonneg hmb.le (by unfold ulongSize; omega)
  simp only [reserveMemoryMb, findReservation_of_unique hs hlt huniq, reserveAt,
    if_neg (show ¬mb ≤ 0 by omega), overwriteSlot, hu, ← hm, le_refl, if_true, Nat.sub_self,
    Nat.add_zero, Nat.mod_eq_of_lt ht]
  rw [Function.update_eq_self]

/-- A second release by a pid that owns nothing changes nothing, when the first free slot
already lies below `reservation_count`. -/
theorem reserveMemoryMb_of_released (h : TableInv sd) (hp : pid ≠ 0)
    (habs : ∀ j, (sd.reservations j).pid ≠ pid) (hlo : -9223372036854775808 < mb)
    (hmb : mb ≤ 0) (hcount : ∀ e, findEmptySlot sd = some e → e.val < sd.reservationCount) :
    reserveMemoryMb sd pid mb = (sd, 0) := by
  rcases reserveMemoryMb_spec h hp hlo (by omega) with ⟨s, hs, -⟩ | ⟨s, hs, -⟩ |
    ⟨-, -, heq⟩ | ⟨-, -, e, he, heq⟩ | ⟨-, hpos, -⟩ | ⟨-, -, -, heq⟩
  · exact absurd hs (habs s)
  · exact absurd hs (habs s)
  · exact heq
  · rw [heq, max_eq_left (hcount e he)]
  · omega
  · exact heq

theorem reserveMemoryMb_twice (h : TableInv sd) (hp : pid ≠ 0)
    (hlo : -9223372036854775808 < mb) (hhi : mb < 9223372036854775808) :
    (reserveMemoryMb (reserveMemoryMb sd pid mb).1 pid mb).1 = (reserveMemoryMb sd pid mb).1 := by
  rcases reserveMemoryMb_spec h hp hlo hhi with ⟨s, hs, hmb, heq⟩ | ⟨s, hs, hmb, heq⟩ |
    ⟨habs, h0, heq⟩ | ⟨habs, hneg, e, he, heq⟩ | ⟨habs, hmb, e, he, heq⟩ |
    ⟨-, -, -, heq⟩ <;> simp only [heq]
  · -- the freed slot: the first free slot now lies at or below it
    have hinv : TableInv (reserveAt sd s pid mb).1 := by
      rw [reserveAt, if_pos hmb]; exact releaseSlot_inv h hs
    rw [reserveAt_release h hs hmb hlo] at hinv
    rw [reserveMemoryMb_of_released hinv hp (h.pid_ne_of_free hp hs) hlo hmb
      fun e' he' => lt_of_le_of_lt (Fin.find_min' he' (by simp))
        (h.owned_lt s (by rw [hs]; exact hp))]
  · -- the overwritten slot holds `mb` already
    refine congrArg Prod.fst (reserveMemoryMb_of_holds (by simp) ?_
      (update_pid_unique (h.pid_ne_of_ne hp hs)) (by simp) hmb hhi (Nat.mod_lt _ (by decide)))
    exact h.owned_lt s (by rw [hs]; exact hp)
  · -- the claimed slot was freed again, below the raised count
    have hinv := reserveMemoryMb_inv h hp (by
      rw [heq]; exact (h.total_eq ▸ h.total_lt : reservedSum sd < ulongSize))
    rw [heq] at hinv
    exact congrArg Prod.fst (reserveMemoryMb_of_released hinv hp habs hlo hneg.le
      fun e' he' => by
        rw [show e' = e from Option.some.inj (he'.symm.trans he)]
        exact lt_max_of_lt_right (Nat.lt_succ_self _))
  · -- the claimed slot holds `mb` already
    exact congrArg Prod.fst (reserveMemoryMb_of_holds (by simp)
      (lt_max_of_lt_right (Nat.lt_succ_self _)) (update_pid_unique fun j _ => habs j) (by simp)
      hmb hhi (Nat.mod_lt _ (by decide)))

end Post

/-- **The postcondition of `reserve_memory_mb`.** From every region with the table invariant,
for every nonzero pid and every `long` amount above `LONG_MIN`, the call keeps the other
owners' slots; a reservation with room leaves the caller exactly one slot, holding `mb`, and
moves the total by `mb` minus what the caller held, modulo `2 ^ 64`; a full table refuses a
new pid; a release leaves the caller no slot, takes its amount off the total and returns `1`
exactly when it owned a slot and `mb` is `0` or cancels the amount; and a second identical call
changes nothing more. -/
theorem reserve_memory_mb_postcondition (sd : SharedMemoryData) (h : TableInv sd) (pid mb : Int)
    (hp : pid ≠ 0) (hlo : -9223372036854775808 < mb) (hhi : mb < 9223372036854775808) :
    ReservePost sd pid mb where
  frame := reserveMemoryMb_frame h hp hlo hhi
  reserve := reserveMemoryMb_reserve h hp hlo hhi
  full := fun hmb => reserveMemoryMb_full hmb
  release := reserveMemoryMb_release h hp hlo hhi
  twice := reserveMemoryMb_twice h hp hlo hhi

/-- Two reservations of `LONG_MAX` MiB from the zeroed region: the total is `2 ^ 64 - 2`. -/
def wrapRegion : SharedMemoryData :=
  runReserve .zero [⟨1, 9223372036854775807⟩, ⟨2, 9223372036854775807⟩]

theorem wrapRegion_inv : TableInv wrapRegion := runReserve_inv zero_inv (by decide)

/-- A third pid reserving `5` MiB on `wrapRegion`. -/
theorem reserve_memory_mb_postcondition_run :
    (TableInv wrapRegion ∧ (3 : Int) ≠ 0 ∧ -9223372036854775808 < (5 : Int) ∧
      (5 : Int) < 9223372036854775808) ∧ ReservePost wrapRegion 3 5 :=
  ⟨⟨wrapRegion_inv, by decide, by decide, by decide⟩,
    reserve_memory_mb_postcondition wrapRegion wrapRegion_inv 3 5 (by decide) (by decide)
      (by decide)⟩

/-- **The total wraps at `2 ^ 64`.** On `wrapRegion`, which has the invariant, a third pid
reserving `5` MiB moves `total_reserved_mb` from `2 ^ 64 - 2` to `3`, not by `5`. -/
theorem reserve_memory_mb_total_wraps :
    TableInv wrapRegion ∧ wrapRegion.totalReservedMb = 18446744073709551614 ∧
      heldMb wrapRegion 3 = 0 ∧ (reserveMemoryMb wrapRegion 3 5).1.totalReservedMb = 3 :=
  ⟨wrapRegion_inv, by decide, heldMb_of_absent (by decide), by decide⟩

end MemoryAwareMake
