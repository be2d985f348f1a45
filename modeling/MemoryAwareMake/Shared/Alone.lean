import MemoryAwareMake.Shared.Interleave

/-!
# MemoryAwareMake — one call run alone is the atomic `reserve_memory_mb`

The step-by-step execution of `Shared/Interleave.lean` and the atomic one of
`Shared/Reserve.lean` are two models of the same C function. This module ties them: a call that
no other call interleaves with returns, within `MAX_RESERVATIONS + 8` steps, exactly what
`reserveMemoryMb` returns, on exactly the region it computes; and calls run one after another
compute the sequential `runReserve` of `Shared/Invariant.lean`.

* `runSchedule_replicate` — a schedule of one call is `runAlone`;
* `scan_to_found`, `scan_to_exit` — the unlocked scan stops at the first slot below the count
  holding the pid, or leaves the loop;
* `release_run`, `overwrite_run` — the two tails after the slot is chosen compute `reserveAt`;
* `runAlone_init`, `runSchedule_alone` — the refinement of one call;
* `runSchedule_replicate_at`, `runSchedule_serial` — the refinement of a serial schedule.
-/

namespace MemoryAwareMake

/-- `n` steps of one call that runs alone. -/
def runAlone : Nat → SharedMemoryData → Call → SharedMemoryData × Call
  | 0, sd, c => (sd, c)
  | n + 1, sd, c => runAlone n (stepCall sd c).1 (stepCall sd c).2

theorem runSchedule_replicate (n : Nat) (sd : SharedMemoryData) (c : Call) :
    runSchedule sd [c] (List.replicate n 0) = ((runAlone n sd c).1, [(runAlone n sd c).2]) := by
  induction n generalizing sd c with
  | zero => rfl
  | succ n ih =>
    simp only [List.replicate_succ, runSchedule, stepAt, List.getElem?_cons_zero,
      List.set_cons_zero]
    exact ih _ _

theorem runAlone_add (m n : Nat) (sd : SharedMemoryData) (c : Call) :
    runAlone (m + n) sd c = runAlone n (runAlone m sd c).1 (runAlone m sd c).2 := by
  induction m generalizing sd c with
  | zero => simp [runAlone]
  | succ m ih => rw [Nat.succ_add]; exact ih _ _

/-- A returned call stays where it is. -/
theorem runAlone_done (n : Nat) (sd : SharedMemoryData) (c : Call) {r : Int} (h : c.pc = .done r) :
    runAlone n sd c = (sd, c) := by
  induction n with
  | zero => rfl
  | succ n ih =>
    have hstep : stepCall sd c = (sd, c) := by
      obtain ⟨pid, mb, count, pc⟩ := c
      subst h
      rfl
    simp only [runAlone, hstep, ih]

/-- Once a call has returned within `n` steps, any larger number of steps gives the same. -/
theorem runAlone_of_le {n N : Nat} {sd sd' : SharedMemoryData} {c c' : Call} {r : Int}
    (h : runAlone n sd c = (sd', c')) (hdone : c'.pc = .done r) (hn : n ≤ N) :
    runAlone N sd c = (sd', c') := by
  obtain ⟨k, rfl⟩ := Nat.exists_eq_add_of_le hn
  rw [runAlone_add, h, runAlone_done k sd' c' hdone]

/-! ## The scan -/

section Scan

variable (sd : SharedMemoryData) (pid mb : Int) (count : Nat)

/-- The scan reaches the first slot below `count` that holds `pid`. -/
theorem scan_to_found (s : Fin maxReservations) (hs : s.val < count)
    (hp : (sd.reservations s).pid = pid) :
    ∀ k i, i + k = s.val →
      (∀ j (hj : j < maxReservations), i ≤ j → j < s.val →
        (sd.reservations ⟨j, hj⟩).pid ≠ pid) →
      runAlone (k + 1) sd ⟨pid, mb, count, .scan i⟩ =
        (sd, ⟨pid, mb, count, .readOld s⟩) := by
  intro k
  induction k with
  | zero =>
    intro i hi _
    have hs' : i < count ∧ i < maxReservations := ⟨by omega, by have := s.isLt; omega⟩
    have hslot : (⟨i, hs'.2⟩ : Fin maxReservations) = s := Fin.ext (by simp only; omega)
    simp only [runAlone, stepCall, dif_pos hs', hslot, hp, if_true]
  | succ k ih =>
    intro i hi hmiss
    have hs' : i < count ∧ i < maxReservations := ⟨by omega, by have := s.isLt; omega⟩
    have hne := hmiss i hs'.2 le_rfl (by omega)
    simp only [runAlone, stepCall, dif_pos hs', if_neg hne]
    exact ih (i + 1) (by omega) fun j hj h1 h2 => hmiss j hj (by omega) h2

/-- With no slot below `count` holding `pid`, the scan leaves the loop: it returns `0` for a
release of nothing, and goes on to allocate otherwise. -/
theorem scan_to_exit
    (hmiss : ∀ j (hj : j < maxReservations), j < count →
      (sd.reservations ⟨j, hj⟩).pid ≠ pid) :
    ∀ k i, i + k = min count maxReservations →
      runAlone (k + 1) sd ⟨pid, mb, count, .scan i⟩ =
        (sd, ⟨pid, mb, count, if mb = 0 then .done 0 else .allocate⟩) := by
  intro k
  induction k with
  | zero =>
    intro i hi
    have hs' : ¬(i < count ∧ i < maxReservations) := by omega
    simp only [runAlone, stepCall, dif_neg hs']
    split_ifs <;> rfl
  | succ k ih =>
    intro i hi
    have hs' : i < count ∧ i < maxReservations := by omega
    simp only [runAlone, stepCall, dif_pos hs', if_neg (hmiss i hs'.2 hs'.1)]
    exact ih (i + 1) (by omega)

end Scan

/-! ## After the slot is chosen -/

section Tail

variable (sd : SharedMemoryData) (s : Fin maxReservations) (pid mb : Int) (count : Nat)

/-- A release (`mb <= 0`) on slot `s`: four or five steps compute `releaseSlot`. -/
theorem release_run (hmb : mb ≤ 0) :
    ∃ k ≤ 5, runAlone k sd ⟨pid, mb, count, .readOld s⟩ =
      ((reserveAt sd s pid mb).1, ⟨pid, mb, count, .done (reserveAt sd s pid mb).2⟩) := by
  by_cases hp : (sd.reservations s).pid = pid
  · refine ⟨5, le_rfl, ?_⟩
    simp [runAlone, stepCall, reserveAt, hmb, releaseSlot, releaseRet, SharedMemoryData.setSlot,
      Function.update_idem, hp]
  · refine ⟨4, by omega, ?_⟩
    simp [runAlone, stepCall, reserveAt, hmb, releaseSlot, releaseRet, SharedMemoryData.setSlot, hp]

/-- An overwrite (`mb > 0`) of slot `s`: three steps compute `overwriteSlot`. -/
theorem overwrite_run (hmb : 0 < mb) :
    runAlone 3 sd ⟨pid, mb, count, .readOld s⟩ =
      ((reserveAt sd s pid mb).1, ⟨pid, mb, count, .done (reserveAt sd s pid mb).2⟩) := by
  simp [runAlone, stepCall, reserveAt, not_le.mpr hmb, overwriteSlot, adjustTotal,
    SharedMemoryData.setSlot]

/-- Either way, at most five steps from the read of the old amount compute `reserveAt`. -/
theorem reserveAt_run :
    ∃ k ≤ 5, runAlone k sd ⟨pid, mb, count, .readOld s⟩ =
      ((reserveAt sd s pid mb).1, ⟨pid, mb, count, .done (reserveAt sd s pid mb).2⟩) := by
  rcases le_or_lt mb 0 with hmb | hmb
  · exact release_run sd s pid mb count hmb
  · exact ⟨3, by omega, overwrite_run sd s pid mb count hmb⟩

end Tail

/-- The run of one call from its start: within `MAX_RESERVATIONS + 8` steps it computes
`reserveMemoryMb`. -/
theorem runAlone_init (sd : SharedMemoryData) (pid mb : Int) :
    runAlone (maxReservations + 8) sd (Call.init pid mb) =
      ((reserveMemoryMb sd pid mb).1,
        ⟨pid, mb, sd.reservationCount, .done (reserveMemoryMb sd pid mb).2⟩) := by
  suffices h : ∃ n ≤ maxReservations + 8, runAlone n sd (Call.init pid mb) =
      ((reserveMemoryMb sd pid mb).1,
        ⟨pid, mb, sd.reservationCount, .done (reserveMemoryMb sd pid mb).2⟩) by
    obtain ⟨n, hn, h⟩ := h
    exact runAlone_of_le h rfl hn
  -- the first step reads the count
  have hstart : ∀ k, runAlone (k + 1) sd (Call.init pid mb) =
      runAlone k sd ⟨pid, mb, sd.reservationCount, .scan 0⟩ := fun _ => rfl
  -- an absent pid leaves the scan after `min count MAX_RESERVATIONS` slots
  have hexit : findReservation sd sd.reservationCount pid = none →
      runAlone (min sd.reservationCount maxReservations + 1) sd
        ⟨pid, mb, sd.reservationCount, .scan 0⟩ =
      (sd, ⟨pid, mb, sd.reservationCount, if mb = 0 then .done 0 else .allocate⟩) := fun hf =>
    scan_to_exit sd pid mb _ (fun j hj => findReservation_none hf ⟨j, hj⟩) _ 0 (Nat.zero_add _)
  rcases reserveMemoryMb_cases sd pid mb with
    ⟨s, hf, heq⟩ | ⟨hf, h0, heq⟩ | ⟨hf, h0, e, he, heq⟩ | ⟨hf, h0, he, heq⟩ <;>
    rw [heq]
  · -- found at `s`: the scan, then the tail
    obtain ⟨hlt, hpid, hmin⟩ := findReservation_some hf
    obtain ⟨k, hk, htail⟩ := reserveAt_run sd s pid mb sd.reservationCount
    refine ⟨s.val + 1 + k + 1, by have := s.isLt; omega, ?_⟩
    rw [hstart, runAlone_add, scan_to_found sd pid mb _ s hlt hpid s.val 0 (by omega)
      fun j hj _ hjs => hmin ⟨j, hj⟩ hjs, htail]
  · -- a release of nothing returns `0`
    refine ⟨min sd.reservationCount maxReservations + 1 + 1, by omega, ?_⟩
    rw [hstart, hexit hf, if_pos h0]
  · -- the allocation under `reserved_count_mutex`, then the tail
    obtain ⟨k, hk, htail⟩ := reserveAt_run (claimSlot sd e pid) e pid mb sd.reservationCount
    have halloc : runAlone 1 sd ⟨pid, mb, sd.reservationCount, .allocate⟩ =
        (claimSlot sd e pid, ⟨pid, mb, sd.reservationCount, .readOld e⟩) := by
      simp [runAlone, stepCall, he]
    refine ⟨min sd.reservationCount maxReservations + 1 + 1 + k + 1, by omega, ?_⟩
    rw [hstart, runAlone_add, runAlone_add, hexit hf, if_neg h0, halloc, htail]
  · -- a full table returns `0`
    have halloc : runAlone 1 sd ⟨pid, mb, sd.reservationCount, .allocate⟩ =
        (sd, ⟨pid, mb, sd.reservationCount, .done 0⟩) := by
      simp [runAlone, stepCall, he]
    refine ⟨min sd.reservationCount maxReservations + 1 + 1 + 1, by omega, ?_⟩
    rw [hstart, runAlone_add _ 1, hexit hf, if_neg h0, halloc]

/-- **A call run alone is the atomic call.** Scheduled with no other call, `reserve_memory_mb
(pid, mb)` returns within `MAX_RESERVATIONS + 8` steps, leaving the region and the returned
value that `reserveMemoryMb` computes. -/
theorem runSchedule_alone (sd : SharedMemoryData) (pid mb : Int) :
    runSchedule sd [Call.init pid mb] (List.replicate (maxReservations + 8) 0) =
      ((reserveMemoryMb sd pid mb).1,
        [⟨pid, mb, sd.reservationCount, .done (reserveMemoryMb sd pid mb).2⟩]) := by
  rw [runSchedule_replicate, runAlone_init]

/-! ## Calls run one after another -/

theorem runSchedule_append (sd : SharedMemoryData) (calls : List Call) (s₁ s₂ : List Nat) :
    runSchedule sd calls (s₁ ++ s₂) =
      runSchedule (runSchedule sd calls s₁).1 (runSchedule sd calls s₁).2 s₂ := by
  induction s₁ generalizing sd calls with
  | nil => rfl
  | cons k ks ih => exact ih _ _

theorem set_getElem_self {l : List Call} {k : Nat} (hk : k < l.length) : l.set k l[k] = l :=
  List.ext_getElem (by simp) fun j _ _ => by
    rw [List.getElem_set]
    split_ifs with hkj
    · subst hkj; rfl
    · rfl

/-- Call `k` scheduled `n` times in a row runs alone; the other calls do not move. -/
theorem runSchedule_replicate_at (n : Nat) :
    ∀ (sd : SharedMemoryData) (calls : List Call) (k : Nat) (hk : k < calls.length),
      runSchedule sd calls (List.replicate n k) =
        ((runAlone n sd calls[k]).1, calls.set k (runAlone n sd calls[k]).2) := by
  induction n with
  | zero => intro sd calls k hk; simp [runSchedule, runAlone, set_getElem_self hk]
  | succ n ih =>
    intro sd calls k hk
    have hstep : stepAt sd calls k =
        ((stepCall sd calls[k]).1, calls.set k (stepCall sd calls[k]).2) := by
      simp [stepAt, List.getElem?_eq_getElem hk]
    rw [List.replicate_succ, runSchedule, hstep, ih _ _ k (by simpa using hk)]
    simp [runAlone]

/-- Each call in turn, run until it returns: `MAX_RESERVATIONS + 8` steps of call `k`, then of
call `k + 1`, and so on. -/
def serialSchedule (k : Nat) : List ReserveCall → List Nat
  | [] => []
  | _ :: rs => List.replicate (maxReservations + 8) k ++ serialSchedule (k + 1) rs

/-- The serial schedule after the calls of `pre` have returned. -/
theorem runSchedule_serialSchedule (reqs : List ReserveCall) :
    ∀ (sd : SharedMemoryData) (pre : List Call),
      (runSchedule sd (pre ++ reqs.map fun r => Call.init r.pid r.mb)
        (serialSchedule pre.length reqs)).1 = runReserve sd reqs := by
  induction reqs with
  | nil => intro sd pre; rfl
  | cons r rs ih =>
    intro sd pre
    have hk : pre.length < (pre ++ (r :: rs).map fun r => Call.init r.pid r.mb).length := by simp
    rw [serialSchedule, runSchedule_append, runSchedule_replicate_at _ _ _ _ hk]
    -- the call at `pre.length` is `r`'s, and it runs to its return
    simp only [List.map_cons, List.getElem_of_append rfl rfl, runAlone_init]
    rw [List.set_append_right _ _ (Nat.le_refl _), Nat.sub_self, List.set_cons_zero,
      ← List.singleton_append, ← List.append_assoc]
    have := ih (reserveMemoryMb sd r.pid r.mb).1
      (pre ++ [⟨r.pid, r.mb, sd.reservationCount, .done (reserveMemoryMb sd r.pid r.mb).2⟩])
    rwa [List.length_append, List.length_singleton] at this

/-- **Calls run one after another are the sequential calls.** Each call of `reqs` run until it
returns before the next starts, the calls leave the region that `runReserve` computes: the
reservation-table invariant of `Shared/Invariant.lean` holds of every serial schedule. -/
theorem runSchedule_serial (sd : SharedMemoryData) (reqs : List ReserveCall) :
    (runSchedule sd (reqs.map fun r => Call.init r.pid r.mb) (serialSchedule 0 reqs)).1 =
      runReserve sd reqs :=
  runSchedule_serialSchedule reqs sd []

end MemoryAwareMake
