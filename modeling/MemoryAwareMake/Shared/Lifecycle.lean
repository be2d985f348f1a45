import MemoryAwareMake.Shared.Region

/-!
# MemoryAwareMake — creating, reusing and removing the shared region

`init_shared_memory` opens (creating if needed) the host-wide object `/make_memory_shared`,
sizes a fresh one, maps it and, in the top-level make, zeroes it, initialising the two mutexes
as `PTHREAD_PROCESS_SHARED` only when this call created the object. `cleanup_shared_memory`
(called from `die()` at makelevel 0) unmaps the region, closes the descriptor and is meant to
unlink the object.

The host is the named object (`Host`); a build process holds `makelevel`, its mapping and its
descriptor (`ShmProc`). The outcomes of the system calls are an input (`ShmOs`).

* `cleanupSharedMemory_host` — cleanup never changes the host: the object is never unlinked,
  because the unlink is guarded by `shared_memory_fd != -1` after the descriptor was reset;
* `initSharedMemory_reuse` — a top-level init on an existing object zeroes the whole region,
  both mutexes included, and does not re-initialise them;
* `second_build_reuses_zeroed_mutexes` — two builds in a row: after the first build's cleanup
  the object is still there, and the second build runs with zeroed mutexes.
-/

namespace MemoryAwareMake

/-- `sizeof (struct shared_memory_data)`: 64 slots of 16 bytes, four 8-byte scalars (the
`unsigned int` count padded to 8) and two 40-byte `pthread_mutex_t`. -/
def sharedMemoryDataSize : Nat := 8 + maxReservations * 16 + 8 + 8 + 2 * 40

/-- The shared-memory object linked under `SHARED_MEMORY_NAME`: its size and its bytes. -/
structure ShmObject where
  size : Nat
  data : SharedMemoryData

/-- The host's view: the object under `/make_memory_shared`, if it is linked. -/
structure Host where
  shm : Option ShmObject

/-- `shared_data`: never mapped (`NULL`), `MAP_FAILED`, or mapped onto the object. -/
inductive Mapping where
  | null
  | mapFailed
  | mapped
  deriving DecidableEq, Repr

/-- What one build process holds of the region. -/
structure ShmProc where
  makelevel : Nat
  sharedData : Mapping
  sharedMemoryFd : Int
  deriving DecidableEq, Repr

/-- A process before its first `init_shared_memory`. -/
def ShmProc.fresh (makelevel : Nat) : ShmProc := ⟨makelevel, .null, -1⟩

/-- The outcomes of the system calls `init_shared_memory` makes. -/
structure ShmOs where
  shmOpenFd : Int
  shmOpenFails : Bool
  fstatFails : Bool
  ftruncateFails : Bool
  mmapFails : Bool

/-- Every call succeeds; `shm_open` returns descriptor `3`. -/
def ShmOs.ok : ShmOs := ⟨3, false, false, false, false⟩

/-- The region after the top-level `memset`, with the mutexes initialised as process-shared
when this call `created` the object. -/
def resetRegion (created : Bool) : SharedMemoryData :=
  if created then
    { SharedMemoryData.zero with
      reservedCountMutex := .processShared, totalReservedMbMutex := .processShared }
  else SharedMemoryData.zero

/-- `init_shared_memory ()`: the new host, the new process state and the returned `int`. -/
def initSharedMemory (h : Host) (p : ShmProc) (os : ShmOs) : Host × ShmProc × Int :=
  if os.shmOpenFails then (h, { p with sharedMemoryFd := -1 }, -1)
  else
    -- `O_CREAT` links an empty object when none exists
    let obj := h.shm.getD ⟨0, .zero⟩
    let p := { p with sharedMemoryFd := os.shmOpenFd }
    if os.fstatFails ∨ obj.size = 0 then
      if os.ftruncateFails then (⟨some obj⟩, p, -1)
      else mapAndReset ⟨some ⟨sharedMemoryDataSize, .zero⟩⟩ p os true
    else mapAndReset ⟨some obj⟩ p os false
where
  /-- `mmap`, then the top-level reset. -/
  mapAndReset (h : Host) (p : ShmProc) (os : ShmOs) (created : Bool) : Host × ShmProc × Int :=
    if os.mmapFails then (h, { p with sharedData := .mapFailed }, -1)
    else
      let p := { p with sharedData := .mapped }
      if p.makelevel = 0 then
        (⟨h.shm.map fun o => { o with data := resetRegion created }⟩, p, 0)
      else (h, p, 0)

/-- `munmap (shared_data, ...); shared_data = NULL;` when mapped. -/
def ShmProc.unmap (p : ShmProc) : ShmProc :=
  if p.sharedData = .mapped then { p with sharedData := .null } else p

/-- `close (shared_memory_fd); shared_memory_fd = -1;` when open. -/
def ShmProc.closeFd (p : ShmProc) : ShmProc :=
  if p.sharedMemoryFd ≠ -1 then { p with sharedMemoryFd := -1 } else p

@[simp] theorem ShmProc.closeFd_sharedMemoryFd (p : ShmProc) : p.closeFd.sharedMemoryFd = -1 := by
  unfold ShmProc.closeFd
  split <;> simp_all

@[simp] theorem ShmProc.closeFd_sharedData (p : ShmProc) : p.closeFd.sharedData = p.sharedData := by
  unfold ShmProc.closeFd
  split <;> rfl

/-- `cleanup_shared_memory ()`: the new host and process state. -/
def cleanupSharedMemory (h : Host) (p : ShmProc) : Host × ShmProc :=
  if 0 < p.makelevel then (h, p)
  else
    let p := p.unmap.closeFd
    -- `if (shared_memory_fd != -1) shm_unlink (SHARED_MEMORY_NAME);`
    if p.sharedMemoryFd ≠ -1 then (⟨none⟩, p) else (h, p)

/-- **Cleanup never unlinks.** Whatever the state, `cleanup_shared_memory` leaves the host's
object where it was: the descriptor is reset to `-1` before the test that guards
`shm_unlink`. -/
theorem cleanupSharedMemory_host (h : Host) (p : ShmProc) : (cleanupSharedMemory h p).1 = h := by
  unfold cleanupSharedMemory
  split
  · rfl
  · simp

/-- **Reuse zeroes the mutexes.** A top-level `init_shared_memory` on an object that already
has its size, with every system call succeeding, zeroes the whole region: the reservation
table, both totals and both mutexes, which it does not re-initialise. -/
theorem initSharedMemory_reuse (obj : ShmObject) (hsize : obj.size ≠ 0) :
    (initSharedMemory ⟨some obj⟩ (.fresh 0) .ok).1 = ⟨some { obj with data := .zero }⟩ := by
  simp [initSharedMemory, initSharedMemory.mapAndReset, ShmOs.ok, hsize, resetRegion,
    ShmProc.fresh]

/-- **Two builds in a row.** The first build creates the object and initialises its mutexes
as process-shared; after its cleanup the object is still linked, so the second build reuses
it and runs with both mutexes zeroed. -/
theorem second_build_reuses_zeroed_mutexes :
    let b1 : Host × ShmProc × Int := initSharedMemory ⟨none⟩ (.fresh 0) .ok
    let c1 : Host × ShmProc := cleanupSharedMemory b1.1 b1.2.1
    let b2 : Host × ShmProc × Int := initSharedMemory c1.1 (.fresh 0) .ok
    (b1.1.shm.map fun o => o.data.reservedCountMutex) = some .processShared ∧
      c1.1.shm.isSome ∧
      (b2.1.shm.map fun o => (o.data.reservedCountMutex, o.data.totalReservedMbMutex)) =
        some (.zeroed, .zeroed) := by
  decide

end MemoryAwareMake
