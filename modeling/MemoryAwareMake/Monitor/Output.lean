import MemoryAwareMake.Monitor.Bar
import Mathlib.Data.Nat.Digits
import Mathlib.Data.String.Basic

/-!
# MemoryAwareMake — the status line the monitor writes

After the bar, `display_memory_status` formats the status line into `char status[512]`,

```c
snprintf (status, sizeof (status), "%s%s %s%u%%%s %s(%luMB)%s %s%u jobs%s",
          spinner, bar, white, mem_percent, reset, gray, free_mb, reset,
          gray, total_jobs, reset);
```

then the text it writes into `char output_buf[1024]`: when both `stderr` and `stdout` are
terminals, the line between cursor moves to column `col_pos = term_width - visible_len` (at
least 1), and otherwise the line and a newline. It writes `output_buf` only when
`output_len > 0 && output_len < (int) sizeof (output_buf)`.

`snprintf` returns the length of the whole text in bytes. The model follows the text and gives
`none` where the code would cut it or skip the write.

* `utf8ByteSize_toString_le` — a number below `10 ^ e` prints in at most `e` characters, of at
  most four bytes each;
* `statusText_utf8ByteSize`, `outputText_utf8ByteSize` — the bytes of the status line and of the
  output, from those of their parts;
* `status_line_always_written` — for every bar `bar` can hold and every value of the arguments'
  C types, the status line fits in `status` and the output in `output_buf`: the size check never
  fails, and the whole line is written.
-/

namespace MemoryAwareMake

/-- `spinners[]`. -/
def spinners : List String := ["⠋", "⠙", "⠹", "⠸", "⠼", "⠴", "⠦", "⠧", "⠇", "⠏"]

/-- `spinners[spinner_state % 10]`. -/
def spinnerAt (spinnerState : Nat) : String := spinners.getD (spinnerState % 10) ""

/-- The colour of the percentage, `white`. -/
def white : String := "\x1b[1;37m"

/-- `visible_len`, the columns the status line is taken to cover. -/
def visibleLen : Int := 50

/-- The status line, `"%s%s %s%u%%%s %s(%luMB)%s %s%u jobs%s"`. -/
def statusText (spinner bar : String) (memPercent freeMb totalJobs : Nat) : String :=
  spinner ++ bar ++ " " ++ white ++ toString memPercent ++ "%" ++ reset ++ " " ++ gray ++ "(" ++
    toString freeMb ++ "MB)" ++ reset ++ " " ++ gray ++ toString totalJobs ++ " jobs" ++ reset

/-- `col_pos = term_width - visible_len`, raised to 1. -/
def colPos (termWidth : Int) : Int :=
  if termWidth - visibleLen < 1 then 1 else termWidth - visibleLen

/-- The text put into `output_buf`: on a terminal `"\033[A\033[s\033[%dG%s\033[u\033[B"`, the
line one row up at column `col`, and otherwise `"%s\n"`. -/
def outputText (tty : Bool) (col : Int) (status : String) : String :=
  if tty then "\x1b[A\x1b[s\x1b[" ++ toString col ++ "G" ++ status ++ "\x1b[u\x1b[B"
  else status ++ "\n"

/-- The tail of `display_memory_status` from the status line to the `write`: the text written,
or `none` when `snprintf` would cut the status line or the output fails the size check. -/
def statusOutput (tty : Bool) (termWidth : Int) (spinnerState : Nat) (bar : String)
    (memPercent freeMb totalJobs : Nat) : Option String :=
  let status := statusText (spinnerAt spinnerState) bar memPercent freeMb totalJobs
  if status.utf8ByteSize < 512 then
    let out := outputText tty (colPos termWidth) status
    if 0 < out.utf8ByteSize ∧ out.utf8ByteSize < 1024 then some out else none
  else none

/-! ## Byte counts -/

theorem utf8ByteSize_append (s t : String) :
    (s ++ t).utf8ByteSize = s.utf8ByteSize + t.utf8ByteSize :=
  String.utf8Len_append s.data t.data

theorem utf8Len_le_four_mul (l : List Char) : String.utf8Len l ≤ 4 * l.length := by
  induction l with
  | nil => simp
  | cons c l ih =>
    have := c.utf8Size_le_four
    simp only [String.utf8Len_cons, List.length_cons]
    omega

/-- **A number's bytes.** `%u` and `%lu` of a number below `10 ^ e` take at most `e` characters,
each at most four bytes. -/
theorem utf8ByteSize_toString_le (n e : Nat) (he : 0 < e) (hn : n < 10 ^ e) :
    (toString n).utf8ByteSize ≤ 4 * e :=
  (utf8Len_le_four_mul _).trans (Nat.mul_le_mul_left 4 (Nat.repr_length n e he hn))

theorem utf8ByteSize_spinnerAt (spinnerState : Nat) : (spinnerAt spinnerState).utf8ByteSize = 3 :=
  have h : ∀ i < 10, (spinners.getD i "").utf8ByteSize = 3 := by decide
  h _ (Nat.mod_lt _ (by decide))

/-- The status line's bytes: the spinner's, the bar's, the three numbers' and 46 of its own. -/
theorem statusText_utf8ByteSize (spinner bar : String) (memPercent freeMb totalJobs : Nat) :
    (statusText spinner bar memPercent freeMb totalJobs).utf8ByteSize =
      spinner.utf8ByteSize + bar.utf8ByteSize + (toString memPercent).utf8ByteSize +
        (toString freeMb).utf8ByteSize + (toString totalJobs).utf8ByteSize + 46 := by
  have : " ".utf8ByteSize = 1 ∧ white.utf8ByteSize = 7 ∧ "%".utf8ByteSize = 1 ∧
      reset.utf8ByteSize = 4 ∧ gray.utf8ByteSize = 7 ∧ "(".utf8ByteSize = 1 ∧
      "MB)".utf8ByteSize = 3 ∧ " jobs".utf8ByteSize = 5 := by decide
  simp only [statusText, utf8ByteSize_append]
  omega

/-- The output's bytes: the line's, with 15 and the column's on a terminal, one otherwise. -/
theorem outputText_utf8ByteSize (tty : Bool) (col : Int) (status : String) :
    (outputText tty col status).utf8ByteSize =
      if tty then (toString col).utf8ByteSize + status.utf8ByteSize + 15
      else status.utf8ByteSize + 1 := by
  have : "\x1b[A\x1b[s\x1b[".utf8ByteSize = 8 ∧ "G".utf8ByteSize = 1 ∧
      "\x1b[u\x1b[B".utf8ByteSize = 6 ∧ "\n".utf8ByteSize = 1 := by decide
  cases tty <;> simp only [outputText, utf8ByteSize_append, if_true, Bool.false_eq_true,
    if_false] <;> omega

/-- On a terminal narrower than `2 ^ 31` columns, `col_pos` prints in at most 40 bytes. -/
theorem utf8ByteSize_colPos_le {termWidth : Int} (hw : termWidth < 2147483648) :
    (toString (colPos termWidth)).utf8ByteSize ≤ 40 := by
  obtain ⟨k, hk, hlt⟩ : ∃ k : Nat, colPos termWidth = k ∧ k < 2147483648 := by
    refine ⟨(colPos termWidth).toNat, ?_, ?_⟩ <;> unfold colPos visibleLen <;> split_ifs <;> omega
  rw [hk]
  exact utf8ByteSize_toString_le k 10 (by decide) (lt_trans hlt (by decide))

/-! ## The line always fits -/

/-- **Every status line is written whole.** For every bar that `char bar[256]` holds, every
terminal width and spinner state, and every `unsigned` percentage, free memory and job count, the
status line fits in `status` and the output in `output_buf`, so `display_memory_status` writes
the whole line. -/
theorem status_line_always_written (tty : Bool) {termWidth : Int} (spinnerState : Nat)
    {bar : String} {memPercent freeMb totalJobs : Nat} (hbar : bar.utf8ByteSize < barSize)
    (hw : termWidth < 2147483648) (hp : memPercent < uintSize) (hf : freeMb < ulongSize)
    (hj : totalJobs < uintSize) :
    statusOutput tty termWidth spinnerState bar memPercent freeMb totalJobs =
      some (outputText tty (colPos termWidth)
        (statusText (spinnerAt spinnerState) bar memPercent freeMb totalJobs)) := by
  have h1 := utf8ByteSize_toString_le memPercent 10 (by decide) (lt_trans hp (by decide))
  have h2 := utf8ByteSize_toString_le freeMb 20 (by decide) (lt_trans hf (by decide))
  have h3 := utf8ByteSize_toString_le totalJobs 10 (by decide) (lt_trans hj (by decide))
  have hc := utf8ByteSize_colPos_le hw
  have hs := statusText_utf8ByteSize (spinnerAt spinnerState) bar memPercent freeMb totalJobs
  rw [utf8ByteSize_spinnerAt] at hs
  unfold barSize at hbar
  dsimp only [statusOutput]
  generalize statusText (spinnerAt spinnerState) bar memPercent freeMb totalJobs = st at hs ⊢
  have ho := outputText_utf8ByteSize tty (colPos termWidth) st
  generalize outputText tty (colPos termWidth) st = out at ho ⊢
  -- the status line takes at most 464 bytes, the output at most 519
  rw [if_pos (by omega), if_pos (by split at ho <;> omega)]

/-- A status line on a 120-column terminal, with a bar of one glyph of make's memory. -/
theorem status_line_always_written_terminal :
    (purple ++ "█" ++ reset).utf8ByteSize < barSize ∧ (120 : Int) < 2147483648 ∧
      50 < uintSize ∧ 8192 < ulongSize ∧ 4 < uintSize ∧
      statusOutput true 120 0 (purple ++ "█" ++ reset) 50 8192 4 =
        some (outputText true (colPos 120) (statusText (spinnerAt 0) (purple ++ "█" ++ reset) 50
          8192 4)) :=
  ⟨by decide, by decide, by decide, by decide, by decide,
    status_line_always_written true 0 (by decide) (by decide) (by decide) (by decide)
      (by decide)⟩

end MemoryAwareMake
