import MemoryAwareMake.Monitor.Preserve
import MemoryAwareMake.Shared.Concurrent
import MemoryAwareMake.Shared.Access

/-!
# MemoryAwareMake — the monitor and the reservation table

The reservation table of the top-level make has writers of three kinds: its main thread and the
sub-makes reserve for the jobs they start, and its monitor thread, on discovering a child whose
file has a profile, releases the profile's peak for the child's pid with
`reserve_memory_mb (pid, -profile_peak_mb, strip_ptr)`. This module follows the top-level
make's state through any sequence of monitor ticks and `reserve_memory_mb` calls (`runSystem`)
and shows that the table stays well formed, so that the monitor's recomputation agrees with
`total_reserved_mb` after every event.

The monitor's release negates an `unsigned long` and reads it back as a `long`: it is a release
only while the peak is below `2 ^ 63`, and a large reservation otherwise. So the invariant
(`RegionInv`) also bounds every peak the monitor may release, those of the profiles in use and
those of the table's entries. Peaks come from the cache, from `vm_rss_kb / 1024` and from
`record_file_memory_usage_by_index`; they stay below `2 ^ 63` when the loaded ones are and the
resident set sizes read from `/proc` fit an `unsigned long`. The amounts of the other callers
are taken below `2 ^ 57`, as in `Shared/Concurrent.lean`.

* `reserve_boundedTable`, `releaseOnDiscovery_boundedTable` — the two writes of the table;
* `profileOfNewDescendant_peaks` — classifying a new child keeps the peaks bounded;
* `keepsRegion_tickRel` — every write of a tick keeps `RegionInv`;
* `monitor_keeps_reservation_table` — the table along every run of the system;
* `process_keeps_reservation_table` — the same table in the host's object, through every use of
  `shared_data` a sub-make makes.
-/

namespace MemoryAwareMake

/-- `2 ^ 63`: below it, `(long) (0UL - peak)` is `-peak`. -/
def peakBound : Nat := 9223372036854775808

/-- The table is well formed and every amount is below `2 ^ 57`. -/
structure BoundedTable (sd : SharedMemoryData) : Prop where
  table : TableInv sd
  amount_lt : ∀ i, (sd.reservations i).reservedMb < amountBound

/-- Every profile in use has a peak below `2 ^ 63`. -/
def PeaksLt (s : ProfileStore) : Prop :=
  ∀ i < s.memoryProfileCount, (s.memoryProfiles i).peakMemoryMb < peakBound

instance (s : ProfileStore) : Decidable (PeaksLt s) :=
  inferInstanceAs (Decidable (∀ i < s.memoryProfileCount, _))

/-- The invariant of the top-level make's state: a bounded table, and every peak the monitor may
release below `2 ^ 63`. -/
structure RegionInv (m : Monitor) : Prop where
  shared : BoundedTable m.shared
  profiles : PeaksLt m.store
  entries : ∀ j, (m.md.descendants j).peakMb < peakBound

/-- `m'` keeps the invariant of `m`. -/
def KeepsRegion (m m' : Monitor) : Prop := RegionInv m → RegionInv m'

/-- What a run asks of an event: a tick reads resident set sizes that fit an `unsigned long`,
and another caller reserves for a nonzero pid an amount below `2 ^ 57`. -/
def EventOk : SysEvent → Prop
  | .tick t => ∀ p ∈ t.snap, p.vmRssKb < ulongSize
  | .reserve pid mb => pid ≠ 0 ∧ mb < amountBound

instance (e : SysEvent) : Decidable (EventOk e) :=
  match e with
  | .tick t => inferInstanceAs (Decidable (∀ p ∈ t.snap, p.vmRssKb < ulongSize))
  | .reserve pid mb => inferInstanceAs (Decidable (pid ≠ 0 ∧ mb < (amountBound : Int)))

/-! ## The table's writes -/

section Table

variable {sd : SharedMemoryData}

/-- The monitor's argument: below `2 ^ 63`, `(long) (0UL - peak)` is `-peak`. -/
theorem longOfUlong_ulongSub_zero {n : Nat} (h0 : 0 < n) (h : n < peakBound) :
    longOfUlong (ulongSub 0 n) = -n := by
  unfold peakBound at h
  have hs : ulongSub 0 n = ulongSize - n := by
    unfold ulongSub ulongSize
    rw [Nat.mod_eq_of_lt (by omega)]
  unfold longOfUlong
  rw [hs, Nat.mod_eq_of_lt (by unfold ulongSize; omega), if_neg (by unfold ulongSize; omega),
    Nat.cast_sub (by unfold ulongSize; omega)]
  omega

theorem BoundedTable.of_table {sd' : SharedMemoryData} (h : BoundedTable sd)
    (hr : sd'.reservations = sd.reservations) (hc : sd'.reservationCount = sd.reservationCount)
    (ht : sd'.totalReservedMb = sd.totalReservedMb) : BoundedTable sd' :=
  ⟨(h.table.shape.of_reservations hr hc).toTableInv
      (by rw [ht, h.table.total_eq, reservedSum, reservedSum, hr]) (ht ▸ h.table.total_lt),
    hr ▸ h.amount_lt⟩

theorem reserveAt_amount_lt {i : Fin maxReservations} {pid mb : Int}
    (h : ∀ j, (sd.reservations j).reservedMb < amountBound) (hmb : mb < amountBound) :
    ∀ j, ((reserveAt sd i pid mb).1.reservations j).reservedMb < amountBound := by
  unfold reserveAt releaseSlot overwriteSlot
  split_ifs with h0
  · -- a release leaves `0` in the slot
    exact amount_lt_update h (by split_ifs <;> exact show 0 < amountBound by decide)
  · exact amount_lt_update h (ulongOfLong_lt_amountBound (by omega) hmb)

/-- **One call keeps the bounded table**: `reserve_memory_mb` for a nonzero pid and an amount
below `2 ^ 57`. -/
theorem reserve_boundedTable {pid mb : Int} (h : BoundedTable sd) (hpid : pid ≠ 0)
    (hmb : mb < amountBound) : BoundedTable (reserveMemoryMb sd pid mb).1 := by
  have hamt : ∀ j, ((reserveMemoryMb sd pid mb).1.reservations j).reservedMb < amountBound := by
    rcases reserveMemoryMb_cases sd pid mb with
      ⟨i, -, heq⟩ | ⟨-, -, heq⟩ | ⟨-, -, i, -, heq⟩ | ⟨-, -, -, heq⟩ <;> rw [heq]
    · exact reserveAt_amount_lt h.amount_lt hmb
    · exact h.amount_lt
    · exact reserveAt_amount_lt
        (amount_lt_update h.amount_lt (show 0 < amountBound by decide)) hmb
    · exact h.amount_lt
  exact ⟨reserveMemoryMb_inv h.table hpid
    ((reservedSum_le_of_amount_lt hamt).trans_lt (by decide)), hamt⟩

/-- **The monitor's release keeps the bounded table**: a peak below `2 ^ 63` is released as
`-peak`. -/
theorem releaseOnDiscovery_boundedTable {pid : Int} {peak : Nat} (h : BoundedTable sd)
    (hpid : pid ≠ 0) (hpeak : peak < peakBound) :
    BoundedTable (releaseOnDiscovery sd pid peak) := by
  unfold releaseOnDiscovery
  split_ifs with h0
  · exact reserve_boundedTable h hpid (by rw [longOfUlong_ulongSub_zero h0 hpeak]; omega)
  · exact h

end Table

/-! ## The peaks -/

section Store

variable {s : ProfileStore}

theorem recordedPeak_lt {prev mb b : Nat} (hp : prev < b) (hm : mb < b) (final : Bool) :
    recordedPeak prev mb final < b := by
  unfold recordedPeak; split_ifs <;> omega

theorem PeaksLt.record (h : PeaksLt s) {mb : Nat} (hmb : mb < peakBound) (k : Int)
    (final : Bool) (now : Int) : PeaksLt (recordFileMemoryUsageByIndex s k mb final now) := by
  unfold recordFileMemoryUsageByIndex
  split_ifs
  any_goals exact h
  intro i hi
  dsimp only at hi ⊢
  rw [Function.update_apply]
  split_ifs with hik
  · subst hik; exact recordedPeak_lt (h _ hi) hmb final
  · exact h i hi

theorem PeaksLt.grow (h : PeaksLt s) : PeaksLt (growIfFull s) := by
  unfold growIfFull
  split_ifs
  · intro i hi
    dsimp only [growMemoryProfiles] at hi ⊢
    split_ifs
    · exact h i hi
    · exact show 0 < peakBound by decide
  · exact h

theorem PeaksLt.push (h : PeaksLt s) {rssKb : Nat} (hrss : rssKb < ulongSize) (f : String)
    (now : Int) : PeaksLt (pushProfile s f rssKb now).1 := by
  unfold pushProfile
  split_ifs
  · intro i hi
    dsimp only at hi ⊢
    rw [Function.update_apply]
    split_ifs
    · unfold ulongSize at hrss; unfold peakBound; dsimp only; omega
    · exact h i (by omega)
  · exact h

/-- **Classifying a new child keeps the peaks bounded**, and the peak it releases is one of
them. -/
theorem profileOfNewDescendant_peaks (h : PeaksLt s) {p : Proc} (hrss : p.vmRssKb < ulongSize)
    (now : Int) : PeaksLt (profileOfNewDescendant s p now).store ∧
      (profileOfNewDescendant s p now).profilePeakMb < peakBound := by
  unfold profileOfNewDescendant
  split
  · exact ⟨h, show 0 < peakBound by decide⟩
  · split
    · exact ⟨h, h _ (lookupProfile_some ‹_›).1⟩
    · exact ⟨h.grow.push hrss _ _, show 0 < peakBound by decide⟩

end Store

/-! ## The writes of a tick -/

section Writes

variable {m : Monitor}

theorem RegionInv.recordUsage (h : RegionInv m) {mb : Nat} (hmb : mb < peakBound) (k : Int)
    (final : Bool) (now : Int) : RegionInv (m.recordUsage k mb final now) :=
  ⟨h.shared, h.profiles.record hmb k final now, h.entries⟩

theorem RegionInv.setDescendant (h : RegionInv m) (i : Nat) {d : Descendant}
    (hd : d.peakMb < peakBound) : RegionInv { m with md := m.md.setDescendant i d } := by
  refine ⟨h.shared, h.profiles, fun j => ?_⟩
  simp only [MonitoringData.setDescendant, Function.update_apply]
  split_ifs
  · exact hd
  · exact h.entries j

theorem updateDescendant_keepsRegion (m : Monitor) (idx : Nat) (k : Int) (x : Nat) (nd : Bool)
    (now : Int) : KeepsRegion m (updateDescendant m idx k ((x % ulongSize) / 1024) nd now) := by
  intro h
  -- what the walk measures is below `2 ^ 54`
  have hn : (x % ulongSize) / 1024 < peakBound := by
    unfold ulongSize peakBound; omega
  simp only [updateDescendant]
  split_ifs
  · exact (h.setDescendant idx hn).recordUsage hn _ _ _
  · exact h.setDescendant idx (h.entries idx)
  · exact h

/-- **Discovery keeps the invariant**: the classification, the release of the profile's peak
and the new entry, which keeps the old `peak_mb` of its slot. -/
theorem discover_keepsRegion (w : Walk) {p : Proc} (parentIdx now : Int) (hpid : 0 < p.pid)
    (hrss : p.vmRssKb < ulongSize) :
    KeepsRegion w.mon (discover w p parentIdx now).walk.mon := by
  intro h
  obtain ⟨hps, hpeak⟩ := profileOfNewDescendant_peaks h.profiles hrss now
  have hsh := releaseOnDiscovery_boundedTable h.shared hpid.ne' hpeak
  simp only [discover]
  split_ifs
  · refine ⟨hsh, hps, fun j => ?_⟩
    simp only [addDescendant_descendants]
    split_ifs
    · exact h.entries _
    · exact h.entries j
  · exact ⟨hsh, hps, h.entries⟩
  · exact h

theorem removeDescendant_keepsRegion (m : Monitor) (i : Nat) :
    KeepsRegion m { m with md := removeDescendant m.md i } := fun h =>
  ⟨h.shared, h.profiles, fun j => by
    simp only [removeDescendant]; split_ifs <;> exact h.entries _⟩

theorem saveIfDirty_keepsRegion (t : TickInput) (m : Monitor) :
    KeepsRegion m (saveIfDirty t m) := by
  intro h
  unfold saveIfDirty saveMemoryProfiles
  split_ifs <;> exact ⟨h.shared, h.profiles, h.entries⟩

/-- **Every write of a tick keeps the invariant**, when the snapshot's resident set sizes fit an
`unsigned long`. -/
theorem keepsRegion_tickRel {snap : List Proc} (hsnap : ∀ p ∈ snap, p.vmRssKb < ulongSize) :
    TickRel snap KeepsRegion where
  refl _ := id
  trans h₁ h₂ := h₂ ∘ h₁
  update := updateDescendant_keepsRegion
  discover w _ parentIdx now hp hpid _ := discover_keepsRegion w parentIdx now hpid (hsnap _ hp)
  exitRecord _ i now _ h := h.recordUsage (h.entries i) _ _ now
  remove m i _ := removeDescendant_keepsRegion m i
  publish _ _ h := ⟨h.shared.of_table rfl rfl rfl, h.profiles, h.entries⟩
  save := saveIfDirty_keepsRegion

end Writes

/-! ## Every run -/

theorem RegionInv.start {s : ProfileStore} (hs : PeaksLt s) : RegionInv (Monitor.start s) :=
  ⟨⟨zero_inv, fun _ => show 0 < amountBound by decide⟩, hs,
    fun _ => show 0 < peakBound by decide⟩

theorem sysStep_keepsRegion (self : Int) (m : Monitor) {e : SysEvent} (he : EventOk e) :
    KeepsRegion m (sysStep self m e) := by
  cases e with
  | tick t => exact tick_rel self (keepsRegion_tickRel he) m
  | reserve pid mb =>
    exact fun h => ⟨reserve_boundedTable h.shared he.1 he.2, h.profiles, h.entries⟩

theorem runSystem_keepsRegion (self : Int) :
    ∀ evs : List SysEvent, (∀ e ∈ evs, EventOk e) → ∀ m, KeepsRegion m (runSystem self m evs)
  | [], _, _ => id
  | e :: evs, he, m => fun h =>
    runSystem_keepsRegion self evs (fun e' he' => he e' (List.mem_cons_of_mem _ he')) _
      (sysStep_keepsRegion self m (he e (List.mem_cons_self _ _)) h)

/-- **The reservation table under the monitor.** From the state the top-level make starts in,
with the loaded peaks below `2 ^ 63`, after any sequence of monitor ticks whose snapshots read
resident set sizes below `2 ^ 64` kB and of `reserve_memory_mb` calls by other threads and
processes for nonzero pids and amounts below `2 ^ 57`, the table is well formed and the
monitor's recomputation agrees with `total_reserved_mb`. -/
theorem monitor_keeps_reservation_table (self : Int) {s : ProfileStore} (hs : PeaksLt s)
    (evs : List SysEvent) (hevs : ∀ e ∈ evs, EventOk e) :
    TableInv (runSystem self (.start s) evs).shared ∧
      monitorReservedSum (runSystem self (.start s) evs).shared =
        (runSystem self (.start s) evs).shared.totalReservedMb :=
  have h := (runSystem_keepsRegion self evs hevs _ (RegionInv.start hs)).shared.table
  ⟨h, monitorReservedSum_eq_total h⟩

/-- The run of `exited_descendant_keeps_reservation`, with the compiler's exit. -/
def exitRun : List SysEvent :=
  [.tick (.ok [compileProc 101 100 100 "src/a.c"] 1000), .reserve 101 500, .tick (.ok [] 1001)]

/-- The table stays sound on the run that leaves the slot of an exited compiler reserved: the
leak is a stale reservation, not a broken total. -/
theorem monitor_keeps_reservation_table_run :
    PeaksLt (.ofList [⟨some "src/a.c", 500, 0⟩]) ∧ (∀ e ∈ exitRun, EventOk e) ∧
      (TableInv (runSystem 100 (.start (.ofList [⟨some "src/a.c", 500, 0⟩])) exitRun).shared ∧
        monitorReservedSum (runSystem 100 (.start (.ofList [⟨some "src/a.c", 500, 0⟩]))
          exitRun).shared =
          (runSystem 100 (.start (.ofList [⟨some "src/a.c", 500, 0⟩]))
            exitRun).shared.totalReservedMb) :=
  ⟨by decide, by decide, monitor_keeps_reservation_table 100 (by decide) exitRun (by decide)⟩

/-! ## The table in the host's object -/

section Host

/-- Every object the host links holds a bounded table. -/
def HostBounded (h : Host) : Prop := ∀ o, h.shm = some o → BoundedTable o.data

/-- What a run asks of a reservation: a nonzero pid and an amount below `2 ^ 57`. -/
def RegionEvent.amountOk : RegionEvent → Prop
  | .reserve _ pid mb => pid ≠ 0 ∧ mb < amountBound
  | .setFlag _ | .imminent _ | .publish _ | .cleanup => True

theorem boundedTable_zero : BoundedTable .zero :=
  ⟨zero_inv, fun _ => show 0 < amountBound by decide⟩

theorem boundedTable_resetRegion (created : Bool) : BoundedTable (resetRegion created) := by
  unfold resetRegion
  split_ifs
  · exact boundedTable_zero.of_table rfl rfl rfl
  · exact boundedTable_zero

theorem HostBounded.getD {h : Host} (hh : HostBounded h) :
    BoundedTable (h.shm.getD ⟨0, .zero⟩).data := by
  cases hs : h.shm with
  | none => exact boundedTable_zero
  | some o => exact hh o hs

theorem HostBounded.some {o : ShmObject} (ho : BoundedTable o.data) : HostBounded ⟨some o⟩ :=
  fun _ h => Option.some.inj h ▸ ho

/-- **`init_shared_memory` links a bounded table**: it keeps the object, creates a zeroed one,
or zeroes it at the top level. -/
theorem initSharedMemory_hostBounded {h : Host} (hh : HostBounded h) (p : ShmProc) (os : ShmOs) :
    HostBounded (initSharedMemory h p os).1 := by
  have hmap (h' : Host) (hh' : HostBounded h') (p' : ShmProc) (c : Bool) :
      HostBounded (initSharedMemory.mapAndReset h' p' os c).1 := by
    dsimp only [initSharedMemory.mapAndReset]
    split_ifs
    · exact hh'
    · intro o ho
      obtain ⟨o', -, rfl⟩ := Option.map_eq_some'.mp ho
      exact boundedTable_resetRegion c
    · exact hh'
  dsimp only [initSharedMemory]
  split_ifs
  · exact hh
  · exact .some hh.getD
  · exact hmap _ (.some boundedTable_zero) _ _
  · exact hmap _ (.some hh.getD) _ _

theorem lazyInitSharedMemory_hostBounded {r : RegionProc} (hh : HostBounded r.host)
    (os : ShmOs) : HostBounded (lazyInitSharedMemory os r).1.host := by
  unfold lazyInitSharedMemory
  split_ifs
  · exact initSharedMemory_hostBounded hh r.proc os
  · exact hh

theorem writeSharedData_hostBounded {r r' : RegionProc} {f : SharedMemoryData → SharedMemoryData}
    (hf : ∀ o, r.host.shm = some o → BoundedTable (f o.data))
    (h : writeSharedData f r = some r') : HostBounded r'.host := by
  unfold writeSharedData at h
  split_ifs at h
  cases h
  intro o ho
  obtain ⟨o', ho', rfl⟩ := Option.map_eq_some'.mp ho
  exact hf o' ho'

/-- **Every use of `shared_data` keeps the host's table bounded.** -/
theorem regionStep_hostBounded {r r' : RegionProc} (hh : HostBounded r.host) {e : RegionEvent}
    (he : e.amountOk) (h : regionStep r e = some r') : HostBounded r'.host := by
  cases e with
  | setFlag v => cases h; exact hh
  | reserve os pid mb =>
    have hl := lazyInitSharedMemory_hostBounded hh os
    simp only [regionStep, reserveMemoryMbCall, Option.map_eq_some'] at h
    obtain ⟨⟨r₁, v⟩, h, rfl⟩ := h
    split_ifs at h
    · cases h
      exact hl
    · -- the call reads the object and writes back its reservation
      simp only [bind, Option.bind_eq_some, pure, Option.some.injEq, Prod.mk.injEq] at h
      obtain ⟨sd, hsd, r₂, hw, rfl, -⟩ := h
      refine writeSharedData_hostBounded (fun o ho => ?_) hw
      have hsd' : o.data = sd := by
        unfold readSharedData at hsd
        split_ifs at hsd
        simpa [ho] using hsd
      exact hsd' ▸ reserve_boundedTable (hl o ho) he.1 he.2
  | imminent os =>
    have hl := lazyInitSharedMemory_hostBounded hh os
    simp only [regionStep, getImminentMemoryMb, Option.map_eq_some'] at h
    obtain ⟨⟨r₁, v⟩, h, rfl⟩ := h
    split_ifs at h
    · cases h
      exact hl
    · obtain ⟨sd, -, h⟩ := Option.map_eq_some'.mp h
      cases h
      exact hl
  | publish u =>
    simp only [regionStep, publishUnusedPeaks] at h
    split_ifs at h
    · cases h
      exact hh
    · exact writeSharedData_hostBounded (fun o ho => (hh o ho).of_table rfl rfl rfl) h
  | cleanup =>
    cases h
    simpa [cleanupSharedMemory_host] using hh

theorem regionRun_hostBounded : ∀ (es : List RegionEvent) {r r' : RegionProc},
    HostBounded r.host → (∀ e ∈ es, e.amountOk) → regionRun r es = some r' → HostBounded r'.host
  | [], _, _, hh, _, h => by cases h; exact hh
  | e :: es, r, r', hh, he, h => by
    obtain ⟨r₁, h₁, h₂⟩ := Option.bind_eq_some.mp h
    exact regionRun_hostBounded es (regionStep_hostBounded hh (he e (List.mem_cons_self e es)) h₁)
      (fun e' h' => he e' (List.mem_cons_of_mem e h')) h₂

/-- **A sub-make keeps the host's reservation table.** A sub-make has no monitor thread and its
cleanup returns at once, so its uses of `shared_data` are whole calls of its main thread, each
reservation the step model's call run alone (`reserveMemoryMbCall_runSchedule`). From a host
whose object, if any, holds a well-formed table with amounts below `2 ^ 57`, every successful run
of these calls (the lazy initialisations of `reserve_memory_mb` and `get_imminent_memory_mb`,
reservations for nonzero pids below `2 ^ 57`), with no other process's call between them,
leaves every linked object with a well-formed table on which the monitor's recomputation agrees
with `total_reserved_mb`. Calls of other processes between the steps are the subject of
`Shared/Concurrent.lean`. -/
theorem process_keeps_reservation_table (r : RegionProc) (_hsub : 0 < r.proc.makelevel)
    (hh : HostBounded r.host) (es : List RegionEvent) (hes : ∀ e ∈ es, e.amountOk)
    {r' : RegionProc} (h : regionRun r es = some r') :
    ∀ o, r'.host.shm = some o →
      TableInv o.data ∧ monitorReservedSum o.data = o.data.totalReservedMb := by
  intro o ho
  have hb := (regionRun_hostBounded es hh hes h o ho).table
  exact ⟨hb, monitorReservedSum_eq_total hb⟩

/-- Where the sub-make of `subMakeEvents` ends, on a host with no object yet. -/
def subMakeEnd : RegionProc :=
  (regionRun ⟨⟨none⟩, .fresh 1, -1⟩ subMakeEvents).getD ⟨⟨none⟩, .fresh 1, -1⟩

theorem process_keeps_reservation_table_sub_make :
    0 < (ShmProc.fresh 1).makelevel ∧ HostBounded (⟨none⟩ : Host) ∧
      (∀ e ∈ subMakeEvents, e.amountOk) ∧
      regionRun ⟨⟨none⟩, .fresh 1, -1⟩ subMakeEvents = some subMakeEnd ∧
      ∀ o, subMakeEnd.host.shm = some o →
        TableInv o.data ∧ monitorReservedSum o.data = o.data.totalReservedMb :=
  have hh : HostBounded (⟨none⟩ : Host) := fun _ h => by cases h
  have hes : ∀ e ∈ subMakeEvents, e.amountOk := by
    simp [subMakeEvents, RegionEvent.amountOk, amountBound]
  have hrun : regionRun ⟨⟨none⟩, .fresh 1, -1⟩ subMakeEvents = some subMakeEnd := rfl
  ⟨by decide, hh, hes, hrun, process_keeps_reservation_table _ (by decide) hh _ hes hrun⟩

end Host

end MemoryAwareMake
