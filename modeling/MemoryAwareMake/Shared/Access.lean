import MemoryAwareMake.Shared.Alone
import MemoryAwareMake.Monitor.Teardown

/-!
# MemoryAwareMake — every use of `shared_data` in one make process

`shared_data` is `NULL` until `init_shared_memory` maps the region, `MAP_FAILED` when its `mmap`
failed, and `NULL` again after `cleanup_shared_memory`. The process uses it at five places:

* `main` calls `init_shared_memory` under `if (memory_aware_flag && ...)`, before
  `init_memory_monitoring_env`, so with the flag still `-1` (no switch) it maps the region and,
  at the top level, zeroes it whatever `MAKE_MEMORY_AWARE` says;
* `reserve_memory_mb` and `get_imminent_memory_mb` map the region first when
  `memory_aware_flag && shared_data == NULL`, then give up on `!shared_data`, or read it;
* the monitor thread writes `unused_peaks_mb` and reads the table under `if (shared_data)`;
* `die` calls `cleanup_shared_memory` at the top level, which unmaps only a region that is
  neither `NULL` nor `MAP_FAILED`, and leaves `shared_data` as it is otherwise.

The first three dereference `shared_data` once it is not `NULL`; a dereference of `MAP_FAILED`
faults (`none`). `reserve_memory_mb` is also called from `job.c`, outside the sources; its calls
are events like the monitor's.

Each event is one whole call. That is the code's behaviour where no other thread makes a call
while it runs: the step models agree with each event run with nothing between its steps
(`reserveMemoryMbCall_runSchedule` for `Shared/Interleave.lean`, `regionStep_cleanup_teardown`
and `publishUnusedPeaks_teardown` for `Monitor/Teardown.lean`), and a sub-make has no second
thread. In the top-level make the monitor thread's calls run between the main thread's steps;
`Shared/Concurrent.lean` and `Monitor/Teardown.lean` follow them there.

* `shared_data_never_faults` — in a sub-make, while every `mmap` succeeds, no order of these
  events dereferences a region that is not mapped: a `NULL` pointer is always mapped first or
  skipped, and a mapped one stays mapped;
* `failed_mmap_faults_later_access` — after a failed `mmap`, `shared_data` stays `MAP_FAILED`
  and the next use faults.
-/

namespace MemoryAwareMake

/-- The region as one make process sees it: the host's object, the process's mapping and
descriptor, and `memory_aware_flag`, which the lazy initialisations read. -/
structure RegionProc where
  host : Host
  proc : ShmProc
  memoryAwareFlag : Int

/-- `if (memory_aware_flag && shared_data == NULL) if (init_shared_memory () != 0) return 0;`:
the state after it, and whether the caller returns there. -/
def lazyInitSharedMemory (os : ShmOs) (r : RegionProc) : RegionProc × Bool :=
  if r.memoryAwareFlag ≠ 0 ∧ r.proc.sharedData = .null then
    let i := initSharedMemory r.host r.proc os
    ({ r with host := i.1, proc := i.2.1 }, i.2.2 ≠ 0)
  else (r, false)

/-- A top-level `cleanup_shared_memory` leaves the host as it is: it unmaps and closes. -/
theorem cleanupSharedMemory_top (h : Host) (p : ShmProc) (hp : p.makelevel = 0) :
    cleanupSharedMemory h p = (h, p.unmap.closeFd) := by
  simp [cleanupSharedMemory, hp]

/-- A write through `shared_data`: the mapped object changes; `NULL` and `MAP_FAILED` fault. -/
def writeSharedData (f : SharedMemoryData → SharedMemoryData) (r : RegionProc) :
    Option RegionProc :=
  if r.proc.sharedData = .mapped then
    some { r with host := ⟨r.host.shm.map fun o => { o with data := f o.data }⟩ }
  else none

/-- A read through `shared_data`: the mapped object; `NULL` and `MAP_FAILED` fault. -/
def readSharedData (r : RegionProc) : Option SharedMemoryData :=
  if r.proc.sharedData = .mapped then r.host.shm.map (·.data) else none

/-- `reserve_memory_mb (pid, mb, filepath)`: the state and the returned `long`. -/
def reserveMemoryMbCall (os : ShmOs) (pid mb : Int) (r : RegionProc) :
    Option (RegionProc × Int) :=
  let (r, failed) := lazyInitSharedMemory os r
  if failed ∨ r.proc.sharedData = .null then some (r, 0)
  else do
    let sd ← readSharedData r
    let r ← writeSharedData (fun _ => (reserveMemoryMb sd pid mb).1) r
    pure (r, (reserveMemoryMb sd pid mb).2)

/-- `get_imminent_memory_mb ()`: the state and `reserved_mb + unused_peaks_mb`. -/
def getImminentMemoryMb (os : ShmOs) (r : RegionProc) : Option (RegionProc × Nat) :=
  let (r, failed) := lazyInitSharedMemory os r
  if failed ∨ r.proc.sharedData = .null then some (r, 0)
  else (readSharedData r).map fun sd => (r, (sd.totalReservedMb + sd.unusedPeaksMb) % ulongSize)

/-- The monitor's `if (shared_data)` block: it publishes `unused_peaks_mb` and reads the table
for its check of `total_reserved_mb`, which only prints. -/
def publishUnusedPeaks (unusedPeaksMb : Nat) (r : RegionProc) : Option RegionProc :=
  if r.proc.sharedData = .null then some r
  else writeSharedData (fun sd => { sd with unusedPeaksMb := unusedPeaksMb }) r

/-- `if (memory_aware_flag && init_shared_memory () != 0)` in `main`; the warning only prints. -/
def startupSharedMemory (os : ShmOs) (r : RegionProc) : RegionProc :=
  if r.memoryAwareFlag ≠ 0 then
    let i := initSharedMemory r.host r.proc os
    { r with host := i.1, proc := i.2.1 }
  else r

/-- What can happen to the region after `main`'s `init_shared_memory`. -/
inductive RegionEvent
  /-- `decode_switches`, `init_memory_monitoring_env` or a failed thread start writes
  `memory_aware_flag` -/
  | setFlag (v : Int)
  /-- a call of `reserve_memory_mb`, with the outcomes of the system calls of a lazy
  `init_shared_memory` -/
  | reserve (os : ShmOs) (pid mb : Int)
  /-- a call of `get_imminent_memory_mb` -/
  | imminent (os : ShmOs)
  /-- the monitor's publication of `unused_peaks_mb` -/
  | publish (unusedPeaksMb : Nat)
  /-- `cleanup_shared_memory ()` from `die` -/
  | cleanup

/-- The events that dereference `shared_data` once it is not `NULL`. -/
def RegionEvent.derefs : RegionEvent → Bool
  | .reserve .. | .imminent _ | .publish _ => true
  | .setFlag _ | .cleanup => false

/-- The events whose lazy `init_shared_memory` would see its `mmap` succeed. -/
def RegionEvent.mmapOk : RegionEvent → Bool
  | .reserve os .. | .imminent os => !os.mmapFails
  | .setFlag _ | .publish _ | .cleanup => true

/-- One event; `none` is a fault. -/
def regionStep (r : RegionProc) : RegionEvent → Option RegionProc
  | .setFlag v => some { r with memoryAwareFlag := v }
  | .reserve os pid mb => (reserveMemoryMbCall os pid mb r).map (·.1)
  | .imminent os => (getImminentMemoryMb os r).map (·.1)
  | .publish u => publishUnusedPeaks u r
  | .cleanup =>
    let c := cleanupSharedMemory r.host r.proc
    some { r with host := c.1, proc := c.2 }

/-- A sequence of events. -/
def regionRun (r : RegionProc) : List RegionEvent → Option RegionProc
  | [] => some r
  | e :: es => (regionStep r e).bind fun r => regionRun r es

/-! ## While `mmap` succeeds -/

/-- `shared_data` is `NULL` or maps the host's object. -/
def RegionOk (r : RegionProc) : Prop :=
  r.proc.sharedData = .null ∨ r.proc.sharedData = .mapped ∧ r.host.shm.isSome

theorem readSharedData_of_ok {r : RegionProc} (hr : RegionOk r) (hm : r.proc.sharedData ≠ .null) :
    ∃ sd, readSharedData r = some sd := by
  obtain h | ⟨h, hs⟩ := hr
  · exact absurd h hm
  · obtain ⟨o, ho⟩ := Option.isSome_iff_exists.mp hs
    exact ⟨o.data, by simp [readSharedData, h, ho]⟩

theorem writeSharedData_ok {r : RegionProc} (hr : RegionOk r) (hm : r.proc.sharedData ≠ .null)
    (f : SharedMemoryData → SharedMemoryData) :
    ∃ r', writeSharedData f r = some r' ∧ RegionOk r' := by
  obtain h | ⟨h, hs⟩ := hr
  · exact absurd h hm
  · exact ⟨{ r with host := ⟨r.host.shm.map fun o => { o with data := f o.data }⟩ },
      by simp [writeSharedData, h], .inr ⟨h, by simpa using hs⟩⟩

theorem mapAndReset_sharedData (h : Host) (p : ShmProc) (os : ShmOs) (created : Bool) :
    (initSharedMemory.mapAndReset h p os created).2.1.sharedData = .mapFailed ∧
        os.mmapFails = true ∨
      (initSharedMemory.mapAndReset h p os created).2.1.sharedData = .mapped ∧
        (initSharedMemory.mapAndReset h p os created).1.shm.isSome = h.shm.isSome := by
  dsimp only [initSharedMemory.mapAndReset]
  split_ifs <;> simp_all

/-- **`init_shared_memory` maps the object it links, or fails before `mmap`, or at it.** -/
theorem initSharedMemory_sharedData (h : Host) (p : ShmProc) (os : ShmOs) :
    (initSharedMemory h p os).2.1.sharedData = p.sharedData ∨
      (initSharedMemory h p os).2.1.sharedData = .mapFailed ∧ os.mmapFails = true ∨
      (initSharedMemory h p os).2.1.sharedData = .mapped ∧
        (initSharedMemory h p os).1.shm.isSome := by
  dsimp only [initSharedMemory]
  split_ifs
  · exact .inl rfl
  · exact .inl rfl
  · rcases mapAndReset_sharedData ⟨some ⟨sharedMemoryDataSize, .zero⟩⟩
      { p with sharedMemoryFd := os.shmOpenFd } os true with h' | h'
    · exact .inr (.inl h')
    · exact .inr (.inr ⟨h'.1, by simp [h'.2]⟩)
  · rcases mapAndReset_sharedData ⟨some (h.shm.getD ⟨0, .zero⟩)⟩
      { p with sharedMemoryFd := os.shmOpenFd } os false with h' | h'
    · exact .inr (.inl h')
    · exact .inr (.inr ⟨h'.1, by simp [h'.2]⟩)

theorem initSharedMemory_makelevel (h : Host) (p : ShmProc) (os : ShmOs) :
    (initSharedMemory h p os).2.1.makelevel = p.makelevel := by
  dsimp only [initSharedMemory, initSharedMemory.mapAndReset]
  split_ifs <;> rfl

/-- From a `NULL` `shared_data`, an `init_shared_memory` whose `mmap` succeeds leaves it sound. -/
theorem initSharedMemory_ok (h : Host) {p : ShmProc} (hp : p.sharedData = .null) {os : ShmOs}
    (hos : os.mmapFails = false) (flag : Int) :
    RegionOk ⟨(initSharedMemory h p os).1, (initSharedMemory h p os).2.1, flag⟩ := by
  rcases initSharedMemory_sharedData h p os with h' | h' | h'
  · exact .inl (h'.trans hp)
  · simp [hos] at h'
  · exact .inr h'

theorem lazyInitSharedMemory_ok {r : RegionProc} (hr : RegionOk r) {os : ShmOs}
    (hos : os.mmapFails = false) : RegionOk (lazyInitSharedMemory os r).1 := by
  unfold lazyInitSharedMemory
  split_ifs with hn
  · exact initSharedMemory_ok r.host hn.2 hos r.memoryAwareFlag
  · exact hr

/-- **Every event keeps `shared_data` sound and does not fault**, when its `mmap` succeeds. -/
theorem regionStep_ok {r : RegionProc} (hr : RegionOk r) {e : RegionEvent}
    (he : e.mmapOk = true) : ∃ r', regionStep r e = some r' ∧ RegionOk r' := by
  cases e with
  | setFlag v => exact ⟨_, rfl, hr⟩
  | reserve os pid mb =>
    have hl := lazyInitSharedMemory_ok hr (by simpa [RegionEvent.mmapOk] using he)
    simp only [regionStep, reserveMemoryMbCall]
    split_ifs with hf
    · exact ⟨_, rfl, hl⟩
    · have hm := (not_or.mp hf).2
      obtain ⟨sd, hsd⟩ := readSharedData_of_ok hl hm
      obtain ⟨r', hw, hr'⟩ := writeSharedData_ok hl hm fun _ => (reserveMemoryMb sd pid mb).1
      exact ⟨r', by simp [hsd, hw], hr'⟩
  | imminent os =>
    have hl := lazyInitSharedMemory_ok hr (by simpa [RegionEvent.mmapOk] using he)
    simp only [regionStep, getImminentMemoryMb]
    split_ifs with hf
    · exact ⟨_, rfl, hl⟩
    · obtain ⟨sd, hsd⟩ := readSharedData_of_ok hl (not_or.mp hf).2
      exact ⟨_, by simp [hsd], hl⟩
  | publish u =>
    simp only [regionStep, publishUnusedPeaks]
    split_ifs with hn
    · exact ⟨r, rfl, hr⟩
    · exact writeSharedData_ok hr hn _
  | cleanup =>
    refine ⟨_, rfl, ?_⟩
    unfold cleanupSharedMemory ShmProc.unmap ShmProc.closeFd
    split_ifs <;> simp_all [RegionOk]

theorem regionRun_ok : ∀ (es : List RegionEvent) {r : RegionProc}, RegionOk r →
    (∀ e ∈ es, e.mmapOk = true) → ∃ r', regionRun r es = some r' ∧ RegionOk r'
  | [], r, hr, _ => ⟨r, rfl, hr⟩
  | e :: es, _, hr, he => by
    obtain ⟨r₁, h₁, hr₁⟩ := regionStep_ok hr (he e (List.mem_cons_self e es))
    obtain ⟨r₂, h₂, hr₂⟩ := regionRun_ok es hr₁ fun e' h' => he e' (List.mem_cons_of_mem e h')
    exact ⟨r₂, by simp [regionRun, h₁, h₂], hr₂⟩

/-! ## In a sub-make -/

/-- In a sub-make, once `shared_data` is mapped no event changes the process's side: the lazy
initialisations find it mapped, and the cleanup returns at once. -/
theorem regionStep_proc_of_mapped {r r' : RegionProc} (hsub : 0 < r.proc.makelevel)
    (hm : r.proc.sharedData = .mapped) {e : RegionEvent} (h : regionStep r e = some r') :
    r'.proc = r.proc := by
  have hl (os : ShmOs) : lazyInitSharedMemory os r = (r, false) := by
    simp [lazyInitSharedMemory, hm]
  cases e with
  | setFlag v => cases h; rfl
  | reserve os pid mb =>
    cases hs : r.host.shm <;>
      simp [regionStep, reserveMemoryMbCall, hl, hm, readSharedData, writeSharedData, hs] at h
    rw [← h]
  | imminent os =>
    cases hs : r.host.shm <;>
      simp [regionStep, getImminentMemoryMb, hl, hm, readSharedData, hs] at h
    rw [← h]
  | publish u =>
    simp [regionStep, publishUnusedPeaks, writeSharedData, hm] at h
    rw [← h]
  | cleanup =>
    simp [regionStep, cleanupSharedMemory, hsub] at h
    rw [← h]

theorem regionRun_proc_of_mapped : ∀ (es : List RegionEvent) {r r' : RegionProc},
    0 < r.proc.makelevel → r.proc.sharedData = .mapped → regionRun r es = some r' →
      r'.proc = r.proc
  | [], _, _, _, _, h => by cases h; rfl
  | e :: es, _, _, hsub, hm, h => by
    obtain ⟨r₁, h₁, h₂⟩ := Option.bind_eq_some.mp h
    have hp := regionStep_proc_of_mapped hsub hm h₁
    exact (regionRun_proc_of_mapped es (hp ▸ hsub) (hp ▸ hm) h₂).trans hp

/-- **A sub-make never dereferences `shared_data` unmapped while `mmap` succeeds.** A make of
`makelevel > 0` starts no monitor thread (`start_memory_monitor` returns on `makelevel > 0`), and
its `cleanup_shared_memory` returns at once, so every use of `shared_data` is a whole call of the
main thread. From a fresh process of any `memory_aware_flag`, on any host, `main`'s
`init_shared_memory` and then any order of flag changes, reservations, reads of the imminent
total and cleanups never fault: a `NULL` `shared_data` is mapped first or skipped; and once
`main` has mapped the region nothing unmaps it. -/
theorem shared_data_never_faults (h : Host) {makelevel : Nat} (hsub : 0 < makelevel) (flag : Int)
    (os : ShmOs) (hos : os.mmapFails = false) (es : List RegionEvent)
    (hes : ∀ e ∈ es, e.mmapOk = true) :
    ∃ r', regionRun (startupSharedMemory os ⟨h, .fresh makelevel, flag⟩) es = some r' ∧
      ((startupSharedMemory os ⟨h, .fresh makelevel, flag⟩).proc.sharedData = .mapped →
        r'.proc.sharedData = .mapped) := by
  have hstart : RegionOk (startupSharedMemory os ⟨h, .fresh makelevel, flag⟩) := by
    unfold startupSharedMemory
    split_ifs
    · exact initSharedMemory_ok h rfl hos flag
    · exact .inl rfl
  have hlevel : (startupSharedMemory os ⟨h, .fresh makelevel, flag⟩).proc.makelevel = makelevel := by
    unfold startupSharedMemory
    split_ifs
    exacts [initSharedMemory_makelevel h _ os, rfl]
  obtain ⟨r', hrun, -⟩ := regionRun_ok es hstart hes
  exact ⟨r', hrun, fun hm => by
    rw [regionRun_proc_of_mapped es (by rw [hlevel]; exact hsub) hm hrun, hm]⟩

/-- A sub-make on a host with no object yet: it creates the region at startup, reserves, reads
the imminent total, calls `cleanup_shared_memory`, which ignores it, and releases. -/
def subMakeEvents : List RegionEvent :=
  [.reserve .ok 7 100, .imminent .ok, .cleanup, .reserve .ok 7 0]

theorem shared_data_never_faults_sub_make :
    (regionRun (startupSharedMemory .ok ⟨⟨none⟩, .fresh 1, -1⟩) subMakeEvents).isSome = true :=
  have ⟨_, h, _⟩ := shared_data_never_faults ⟨none⟩ (by decide : 0 < 1) (-1) .ok rfl
    subMakeEvents (by decide)
  by rw [h]; rfl

/-! ## After a failed `mmap` -/

/-- Nothing but a dereference looks at `MAP_FAILED`, and nothing resets it: the lazy
initialisations look for `NULL`, and the cleanup unmaps only a mapped region. -/
theorem regionStep_mapFailed {r r' : RegionProc} (hr : r.proc.sharedData = .mapFailed)
    {e : RegionEvent} (h : regionStep r e = some r') :
    e.derefs = false ∧ r'.proc.sharedData = .mapFailed := by
  have hl (os : ShmOs) : lazyInitSharedMemory os r = (r, false) := by
    simp [lazyInitSharedMemory, hr]
  cases e with
  | setFlag v => cases h; exact ⟨rfl, hr⟩
  | reserve os pid mb =>
    simp [regionStep, reserveMemoryMbCall, hl, hr, readSharedData] at h
  | imminent os => simp [regionStep, getImminentMemoryMb, hl, hr, readSharedData] at h
  | publish u => simp [regionStep, publishUnusedPeaks, writeSharedData, hr] at h
  | cleanup =>
    cases h
    refine ⟨rfl, ?_⟩
    unfold cleanupSharedMemory ShmProc.unmap ShmProc.closeFd
    split_ifs <;> simp_all

/-- **A failed `mmap` is never recovered from.** Once `init_shared_memory` has left
`shared_data` at `MAP_FAILED`, every run that later calls `reserve_memory_mb` or
`get_imminent_memory_mb`, or in which the monitor publishes, faults: the lazy initialisations
only look for `NULL`, `!shared_data` and `if (shared_data)` let `MAP_FAILED` through, and
`die`'s cleanup does not reset it. -/
theorem failed_mmap_faults_later_access (r : RegionProc) (hr : r.proc.sharedData = .mapFailed)
    (es : List RegionEvent) (hes : ∃ e ∈ es, e.derefs = true) : regionRun r es = none := by
  induction es generalizing r with
  | nil => simp at hes
  | cons e es ih =>
    cases h : regionStep r e with
    | none => simp [regionRun, h]
    | some r' =>
      obtain ⟨he, hr'⟩ := regionStep_mapFailed hr h
      have hes' : ∃ e ∈ es, e.derefs = true := by
        obtain ⟨e', he', hd⟩ := hes
        rcases List.mem_cons.mp he' with rfl | he'
        · simp [he] at hd
        · exact ⟨e', he', hd⟩
      simpa [regionRun, h] using ih r' hr' hes'

/-- The outcomes of a startup whose `mmap` fails. -/
def mmapFailsOs : ShmOs := ⟨3, false, false, false, true⟩

/-- A make whose startup `mmap` fails: the cleanup in `die` passes, the monitor's next
publication faults. -/
theorem failed_mmap_faults_later_access_publish :
    regionRun (startupSharedMemory mmapFailsOs ⟨⟨none⟩, .fresh 0, -1⟩) [.cleanup, .publish 0] =
      none :=
  failed_mmap_faults_later_access _ rfl _ ⟨.publish 0, by simp, rfl⟩

/-! ## The whole calls and their steps -/

/-- **A reservation on a mapped region is the step model's call run alone.** On a mapped
`shared_data`, the `reserve` event leaves the object and returns what `reserve_memory_mb` does
when it takes all its steps of `Shared/Interleave.lean` with no other call between them. -/
theorem reserveMemoryMbCall_runSchedule {r : RegionProc} (hm : r.proc.sharedData = .mapped)
    {o : ShmObject} (ho : r.host.shm = some o) (os : ShmOs) (pid mb : Int) :
    ∃ sd ret, runSchedule o.data [Call.init pid mb] (List.replicate (maxReservations + 8) 0) =
        (sd, [⟨pid, mb, o.data.reservationCount, .done ret⟩]) ∧
      reserveMemoryMbCall os pid mb r =
        some ({ r with host := ⟨some { o with data := sd }⟩ }, ret) := by
  refine ⟨_, _, by rw [runSchedule_replicate, runAlone_init], ?_⟩
  simp [reserveMemoryMbCall, lazyInitSharedMemory, hm, readSharedData, writeSharedData, ho]

/-- **A top-level cleanup is the teardown's two steps.** It leaves the host's object, and the
`shared_data` that the `munmap` and the `NULL` store of `Monitor/Teardown.lean` leave when no
monitor step comes between them. -/
theorem regionStep_cleanup_teardown {r : RegionProc} (hp : r.proc.makelevel = 0) :
    ∃ r', regionStep r .cleanup = some r' ∧ r'.host = r.host ∧
      r'.proc.sharedData =
        (cleanupStep (cleanupStep ⟨r.proc.sharedData, true, 0, 0, false⟩)).sharedData := by
  refine ⟨_, rfl, by simp [cleanupSharedMemory_top _ _ hp], ?_⟩
  rw [cleanupStep_unmap]
  simp [cleanupSharedMemory_top _ _ hp]

/-- **A publication is the monitor's block with no cleanup step inside it.** Run alone from its
check on the process's `shared_data`, with the region not unmapped under it, a block of `n ≥ 1`
dereferences faults exactly when the `publish` event does. -/
theorem publishUnusedPeaks_teardown (u : Nat) (r : RegionProc) {n : Nat} (hn : 0 < n) :
    (publishUnusedPeaks u r).isNone =
      (teardownRun n (List.replicate (n + 1) true)
        ⟨r.proc.sharedData, true, 0, 0, false⟩).fault := by
  rw [monitorRun_check n n _ rfl]
  obtain ⟨-, -, -, -, hf⟩ := monitorRun n n
    { (⟨r.proc.sharedData, true, 0, 0, false⟩ : Teardown) with
      monitorPc := if r.proc.sharedData = .null then n + 1 else 1 }
    (by dsimp only; split_ifs <;> omega)
  rw [Bool.eq_iff_iff, hf]
  cases hsd : r.proc.sharedData <;> simp [hsd, hn, publishUnusedPeaks, writeSharedData]
  omega

end MemoryAwareMake
