import Mathlib.Data.List.Basic
import Mathlib.Logic.Function.Basic

/-!
# MemoryAwareMake — the file memory profiles

The top-level make learns one profile per compiled source file: its path, its peak in MiB and
the time of its last update. `memory_profiles` is a growable array of which the first
`memory_profile_count` entries are in use and `memory_profiles_capacity` are allocated;
`memory_profiles_dirty` asks the monitor to write the profiles back to `.make_memory_cache`.

The array is a function on indices (`ProfileStore.memoryProfiles`); `memory_profiles == NULL`
is a capacity of `0`. The capacity is an unbounded `Nat`: its `unsigned int` doubling would wrap
only past `2^31` entries.

* `growMemoryProfiles`, `appendProfile`, `recordFileMemoryUsageByIndex` — the three writers;
* `lookupProfile_some`, `lookupProfile_none` — the walker's lookup finds the one profile of a
  path, or there is none;
* `ProfilesExtend` — the store only grows: the count never falls and the entries in use keep
  their filenames; `StoreInv` — the count is within the capacity and the filenames in use are
  pairwise distinct;
* `appendProfile_spec`, `recordFileMemoryUsageByIndex_filename` — every writer keeps `StoreInv`
  and extends the store: an append adds a profile of a new path, a record renames none;
* `serializeProfiles` — the text `save_memory_profiles` writes.
-/

namespace MemoryAwareMake

/-- `struct file_memory_profile`. -/
structure FileMemoryProfile where
  filename : Option String
  peakMemoryMb : Nat
  lastUsed : Int
  deriving DecidableEq, Repr

/-- An entry zeroed by `grow_memory_profiles`. -/
def FileMemoryProfile.empty : FileMemoryProfile := ⟨none, 0, 0⟩

/-- The profile globals of the top-level make. -/
structure ProfileStore where
  memoryProfiles : Nat → FileMemoryProfile
  memoryProfileCount : Nat
  memoryProfilesCapacity : Nat
  memoryProfilesDirty : Bool

/-- `grow_memory_profiles ()`: 1000 entries at first, then twice as many; the new entries are
zeroed and the old ones kept (`xrealloc` exits rather than return `NULL`). -/
def growMemoryProfiles (s : ProfileStore) : ProfileStore :=
  { s with
    memoryProfiles := fun i => if i < s.memoryProfilesCapacity then s.memoryProfiles i else .empty
    memoryProfilesCapacity :=
      if s.memoryProfilesCapacity = 0 then 1000 else s.memoryProfilesCapacity * 2 }

/-- The lookup of `find_child_descendants`: when the array exists, the first profile in use
whose filename is `f`. -/
def lookupProfile (s : ProfileStore) (f : String) : Option Nat :=
  if s.memoryProfilesCapacity = 0 then none
  else (List.range s.memoryProfileCount).find? fun i => (s.memoryProfiles i).filename = some f

/-- `if (memory_profile_count >= memory_profiles_capacity) grow_memory_profiles ();` -/
def growIfFull (s : ProfileStore) : ProfileStore :=
  if s.memoryProfilesCapacity ≤ s.memoryProfileCount then growMemoryProfiles s else s

/-- Write a profile for `f`, whose peak is the process's own RSS, at index
`memory_profile_count` when it fits; return its index, or `-1`. -/
def pushProfile (s : ProfileStore) (f : String) (rssKb : Nat) (now : Int) : ProfileStore × Int :=
  if s.memoryProfileCount < s.memoryProfilesCapacity then
    ({ s with
      memoryProfiles :=
        Function.update s.memoryProfiles s.memoryProfileCount ⟨some f, rssKb / 1024, now⟩
      memoryProfileCount := s.memoryProfileCount + 1 }, s.memoryProfileCount)
  else (s, -1)

/-- The `if (profile_idx < 0)` block of `find_child_descendants`: grow a full array, then append
a profile for `f`. It does not set `memory_profiles_dirty`. -/
def appendProfile (s : ProfileStore) (f : String) (rssKb : Nat) (now : Int) : ProfileStore × Int :=
  pushProfile (growIfFull s) f rssKb now

/-- The peak a record writes: `memory_mb`, or on a final record of a smaller value the old peak
lowered by a third of the difference. -/
def recordedPeak (prev memoryMb : Nat) (final : Bool) : Nat :=
  if final ∧ memoryMb < prev then prev - (prev - memoryMb) / 3 else memoryMb

/-- `record_file_memory_usage_by_index (profile_idx, memory_mb, final)` at time `now`: ignore an
index out of use and a non-final value that is no new peak; otherwise write `recordedPeak` and
the time, and mark the profiles dirty. -/
def recordFileMemoryUsageByIndex (s : ProfileStore) (profileIdx : Int) (memoryMb : Nat)
    (final : Bool) (now : Int) : ProfileStore :=
  if profileIdx < 0 ∨ s.memoryProfileCount ≤ profileIdx.toNat then s
  else if s.memoryProfilesCapacity = 0 then s
  else if memoryMb ≤ (s.memoryProfiles profileIdx.toNat).peakMemoryMb ∧ final = false then s
  else
    { s with
      memoryProfiles := Function.update s.memoryProfiles profileIdx.toNat
        { s.memoryProfiles profileIdx.toNat with
          peakMemoryMb := recordedPeak (s.memoryProfiles profileIdx.toNat).peakMemoryMb memoryMb final
          lastUsed := now }
      memoryProfilesDirty := true }

/-- One line of `.make_memory_cache`: `"%lu %ld %s\n"` (glibc prints a `NULL` name as `(null)`). -/
def profileLine (p : FileMemoryProfile) : String :=
  toString p.peakMemoryMb ++ " " ++ toString p.lastUsed ++ " " ++ p.filename.getD "(null)" ++ "\n"

/-- What `save_memory_profiles` writes: a line per profile in use with a nonzero peak, in index
order. -/
def serializeProfiles (s : ProfileStore) : String :=
  String.join ((List.range s.memoryProfileCount).filterMap fun i =>
    if (s.memoryProfiles i).peakMemoryMb = 0 then none else some (profileLine (s.memoryProfiles i)))

/-! ## The store only grows -/

/-- `s'` extends `s`: no profile in use was dropped or renamed. -/
structure ProfilesExtend (s s' : ProfileStore) : Prop where
  count_le : s.memoryProfileCount ≤ s'.memoryProfileCount
  filename_eq : ∀ i < s.memoryProfileCount,
    (s'.memoryProfiles i).filename = (s.memoryProfiles i).filename

theorem ProfilesExtend.refl (s : ProfileStore) : ProfilesExtend s s := ⟨le_rfl, fun _ _ => rfl⟩

theorem ProfilesExtend.trans {s₁ s₂ s₃ : ProfileStore} (h₁ : ProfilesExtend s₁ s₂)
    (h₂ : ProfilesExtend s₂ s₃) : ProfilesExtend s₁ s₃ :=
  ⟨h₁.count_le.trans h₂.count_le, fun i hi => by
    rw [h₂.filename_eq i (by have := h₁.count_le; omega), h₁.filename_eq i hi]⟩

/-- Writing `x` at index `n` of an array whose first `n` keys are distinct and differ from
`x`'s leaves the first `n + 1` keys distinct: the append of a profile, and of a table entry. -/
theorem keys_inj_update {α β : Type} (key : α → β) {f : Nat → α} {n : Nat} {x : α}
    (hinj : ∀ i < n, ∀ j < n, key (f i) = key (f j) → i = j)
    (hnew : ∀ j < n, key (f j) ≠ key x) :
    ∀ i < n + 1, ∀ j < n + 1,
      key (Function.update f n x i) = key (Function.update f n x j) → i = j := by
  intro i hi j hj hij
  simp only [Function.update_apply] at hij
  split_ifs at hij with h1 h2 h2
  · omega
  · exact absurd hij.symm (hnew j (by omega))
  · exact absurd hij (hnew i (by omega))
  · exact hinj i (by omega) j (by omega) hij

/-- The representation invariant of the store: the count is within the capacity and the
filenames in use are pairwise distinct. -/
structure StoreInv (s : ProfileStore) : Prop where
  count_le : s.memoryProfileCount ≤ s.memoryProfilesCapacity
  filename_inj : ∀ i < s.memoryProfileCount, ∀ j < s.memoryProfileCount,
    (s.memoryProfiles i).filename = (s.memoryProfiles j).filename → i = j

instance (s : ProfileStore) : Decidable (StoreInv s) :=
  decidable_of_iff (s.memoryProfileCount ≤ s.memoryProfilesCapacity ∧
    ∀ i < s.memoryProfileCount, ∀ j < s.memoryProfileCount,
      (s.memoryProfiles i).filename = (s.memoryProfiles j).filename → i = j)
    ⟨fun h => ⟨h.1, h.2⟩, fun h => ⟨h.1, h.2⟩⟩

/-- Two stores with the same count, capacity and filenames have the same invariant. -/
theorem StoreInv.of_filenames {s s' : ProfileStore} (h : StoreInv s)
    (hc : s'.memoryProfileCount = s.memoryProfileCount)
    (hcap : s'.memoryProfilesCapacity = s.memoryProfilesCapacity)
    (hf : ∀ i, (s'.memoryProfiles i).filename = (s.memoryProfiles i).filename) : StoreInv s' :=
  ⟨hc ▸ hcap ▸ h.count_le, fun i hi j hj hij => h.filename_inj i (hc ▸ hi) j (hc ▸ hj)
    (by rwa [hf, hf] at hij)⟩

/-! ## The lookup -/

theorem lookupProfile_some {s : ProfileStore} {f : String} {i : Nat}
    (h : lookupProfile s f = some i) :
    i < s.memoryProfileCount ∧ (s.memoryProfiles i).filename = some f := by
  unfold lookupProfile at h
  split at h
  · cases h
  · have hmem := List.mem_of_find?_eq_some h
    exact ⟨List.mem_range.mp hmem, by simpa using List.find?_some h⟩

/-- When the lookup fails no profile in use has the path. -/
theorem lookupProfile_none {s : ProfileStore} {f : String} (hs : StoreInv s)
    (h : lookupProfile s f = none) :
    ∀ i < s.memoryProfileCount, (s.memoryProfiles i).filename ≠ some f := by
  intro i hi
  unfold lookupProfile at h
  split at h
  · have := hs.count_le; omega
  · simpa using List.find?_eq_none.mp h i (List.mem_range.mpr hi)

/-! ## The writers keep the invariant -/

section Writers

variable (s : ProfileStore)

@[simp] theorem growIfFull_count : (growIfFull s).memoryProfileCount = s.memoryProfileCount := by
  unfold growIfFull; split_ifs <;> rfl

@[simp] theorem growIfFull_dirty : (growIfFull s).memoryProfilesDirty = s.memoryProfilesDirty := by
  unfold growIfFull; split_ifs <;> rfl

/-- Growing keeps the profiles in use and, on a store with the invariant, leaves room for one
more. -/
theorem growIfFull_spec (hs : StoreInv s) :
    StoreInv (growIfFull s) ∧ ProfilesExtend s (growIfFull s) ∧
      s.memoryProfileCount < (growIfFull s).memoryProfilesCapacity := by
  have hc := hs.count_le
  unfold growIfFull
  split_ifs with hfull
  · -- the filenames in use are below the old capacity, where the grown array is unchanged
    have hf : ∀ i < s.memoryProfileCount,
        ((growMemoryProfiles s).memoryProfiles i).filename = (s.memoryProfiles i).filename :=
      fun i hi => by simp [growMemoryProfiles, show i < s.memoryProfilesCapacity by omega]
    have hcap : s.memoryProfileCount < (growMemoryProfiles s).memoryProfilesCapacity := by
      simp only [growMemoryProfiles]; split_ifs <;> omega
    refine ⟨⟨hcap.le, fun i hi j hj hij => hs.filename_inj i hi j hj ?_⟩, ⟨le_rfl, hf⟩,
      hcap⟩
    rwa [← hf i hi, ← hf j hj]
  · exact ⟨hs, .refl s, by omega⟩

@[simp] theorem recordFileMemoryUsageByIndex_count (k : Int) (mb : Nat) (final : Bool)
    (now : Int) :
    (recordFileMemoryUsageByIndex s k mb final now).memoryProfileCount = s.memoryProfileCount := by
  unfold recordFileMemoryUsageByIndex; split_ifs <;> rfl

@[simp] theorem recordFileMemoryUsageByIndex_capacity (k : Int) (mb : Nat) (final : Bool)
    (now : Int) : (recordFileMemoryUsageByIndex s k mb final now).memoryProfilesCapacity =
      s.memoryProfilesCapacity := by
  unfold recordFileMemoryUsageByIndex; split_ifs <;> rfl

/-- A record never renames a profile. -/
@[simp] theorem recordFileMemoryUsageByIndex_filename (k : Int) (mb : Nat) (final : Bool)
    (now : Int) (i : Nat) :
    ((recordFileMemoryUsageByIndex s k mb final now).memoryProfiles i).filename =
      (s.memoryProfiles i).filename := by
  unfold recordFileMemoryUsageByIndex
  split_ifs
  all_goals first
    | rfl
    | (simp only [Function.update_apply]; split_ifs with h <;> simp [h])

@[simp] theorem appendProfile_dirty (f : String) (rssKb : Nat) (now : Int) :
    (appendProfile s f rssKb now).1.memoryProfilesDirty = s.memoryProfilesDirty := by
  unfold appendProfile pushProfile; split_ifs <;> simp

end Writers

/-- A push onto a store with the invariant and no profile for `f` keeps the invariant, extends
the store and returns the index of a profile in use named `f`. -/
theorem pushProfile_spec {s : ProfileStore} {f : String} (rssKb : Nat) (now : Int)
    (hs : StoreInv s) (hf : ∀ i < s.memoryProfileCount, (s.memoryProfiles i).filename ≠ some f)
    (hroom : s.memoryProfileCount < s.memoryProfilesCapacity) :
    StoreInv (pushProfile s f rssKb now).1 ∧ ProfilesExtend s (pushProfile s f rssKb now).1 ∧
      ∃ n : Nat, (pushProfile s f rssKb now).2 = n ∧
        n < (pushProfile s f rssKb now).1.memoryProfileCount ∧
        ((pushProfile s f rssKb now).1.memoryProfiles n).filename = some f := by
  simp only [pushProfile, if_pos hroom]
  refine ⟨⟨by simp only; omega,
      keys_inj_update FileMemoryProfile.filename hs.filename_inj hf⟩,
    ⟨by simp only; omega, fun i hi => ?_⟩, _, rfl, by simp, by simp⟩
  simp [Function.update_apply, show i ≠ s.memoryProfileCount by omega]

/-- **Appending a new path.** On a store with the invariant and no profile for `f`, the append
keeps the invariant, extends the store, and returns the index of a profile in use named `f`. -/
theorem appendProfile_spec {s : ProfileStore} {f : String} (rssKb : Nat) (now : Int)
    (hs : StoreInv s) (hf : ∀ i < s.memoryProfileCount, (s.memoryProfiles i).filename ≠ some f) :
    StoreInv (appendProfile s f rssKb now).1 ∧ ProfilesExtend s (appendProfile s f rssKb now).1 ∧
      ∃ n : Nat, (appendProfile s f rssKb now).2 = n ∧
        n < (appendProfile s f rssKb now).1.memoryProfileCount ∧
        ((appendProfile s f rssKb now).1.memoryProfiles n).filename = some f := by
  obtain ⟨hg, hext, hroom⟩ := growIfFull_spec s hs
  have hf' : ∀ i < (growIfFull s).memoryProfileCount,
      ((growIfFull s).memoryProfiles i).filename ≠ some f :=
    fun i hi => by rw [hext.filename_eq i (by simpa using hi)]; exact hf i (by simpa using hi)
  obtain ⟨h1, h2, h3⟩ := pushProfile_spec rssKb now hg hf' (by simpa using hroom)
  exact ⟨h1, hext.trans h2, h3⟩

end MemoryAwareMake
