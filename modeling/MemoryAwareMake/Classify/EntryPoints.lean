import MemoryAwareMake.Classify.Common
import Mathlib.Algebra.Order.Ring.Nat

/-!
# MemoryAwareMake — the two classifier entry points

`extract_filename_from_argv` joins a spawn's arguments with spaces into a 4096-byte buffer
(giving up when they do not fit) and `extract_filename_from_cmdline` reads at most 4095 bytes
of `/proc/<pid>/cmdline`, turns the separating NULs into spaces and overwrites the last byte
read with NUL. Both then call `extract_filename_common`.

* `cmdline_take_eq` — a short command line is read whole, and its NUL-separated image turned
  into spaces is the joined argument vector;
* `classifier_entry_points_agree` — on every argument vector whose command line is shorter
  than 4096 bytes the two entry points return the same path; on a longer one the argv side
  returns `NULL`;
* `classifier_entry_points_differ_on_long_cmdline` — a long compile line on which the
  `/proc` side still classifies the file.
-/

namespace MemoryAwareMake

/-- The NUL character. -/
def nul : Char := '\x00'

/-- `arg0 sep arg1 sep ... argn`: the first argument, then each further one after `sep`. -/
def joinWith (sep : Char) : List (List Char) → List Char
  | [] => []
  | a :: as => a ++ as.flatMap fun b => sep :: b

/-- What `/proc/<pid>/cmdline` holds for an argument vector: every argument followed by NUL. -/
def cmdlineOfArgv (argv : List (List Char)) : List Char :=
  argv.flatMap fun a => a ++ [nul]

/-- `extract_filename_from_argv (argv, caller)`: `NULL` for an empty vector or one whose
arguments with their separators take 4096 bytes or more; otherwise the classification of the
`strcat`-joined buffer, of length `strlen (argv_buf)`. -/
def extractFilenameFromArgv (argv : List (List Char)) : Option String :=
  let totalLen := (argv.map fun a => a.length + 1).sum
  if argv.length = 0 ∨ 4096 ≤ totalLen then none
  else extractFilenameCommon (joinWith ' ' argv) (joinWith ' ' argv).length

/-- `cmdline_buf[i] == '\0' ? ' ' : cmdline_buf[i]`. -/
def nulToSpace (c : Char) : Char := if c = nul then ' ' else c

/-- `extract_filename_from_cmdline (pid, ...)` on the contents of `/proc/<pid>/cmdline`
(`none` when the file cannot be opened): `fread` at most 4095 bytes, give up on an empty read,
turn the NULs before the last byte into spaces, end the string at the last byte read and
classify it with `text_len = cmdline_len`. -/
def extractFilenameFromCmdline (cmdline : Option (List Char)) : Option String :=
  match cmdline with
  | none => none
  | some bytes =>
    let buf := bytes.take 4095
    if buf.length = 0 then none
    else extractFilenameCommon ((buf.take (buf.length - 1)).map nulToSpace) buf.length

/-! ## The command-line image of an argument vector -/

theorem length_cmdlineOfArgv (argv : List (List Char)) :
    (cmdlineOfArgv argv).length = (argv.map fun a => a.length + 1).sum := by
  induction argv with
  | nil => rfl
  | cons a as ih =>
    simp only [cmdlineOfArgv, List.flatMap_cons, List.length_append, List.map_cons,
      List.sum_cons] at ih ⊢
    rw [ih]
    simp

/-- Moving the separator from after each argument to before it. -/
theorem sep_append_flatMap (sep : Char) (as : List (List Char)) :
    sep :: as.flatMap (fun b => b ++ [sep]) = (as.flatMap fun b => sep :: b) ++ [sep] := by
  induction as with
  | nil => rfl
  | cons b bs ih =>
    simp only [List.flatMap_cons, List.cons_append, List.append_assoc, List.nil_append] at ih ⊢
    rw [ih]

/-- The command line of a non-empty vector is the NUL-joined vector and one final NUL. -/
theorem cmdlineOfArgv_cons (a : List Char) (as : List (List Char)) :
    cmdlineOfArgv (a :: as) = joinWith nul (a :: as) ++ [nul] := by
  simp only [cmdlineOfArgv, joinWith, List.flatMap_cons, List.append_assoc, List.singleton_append]
  rw [sep_append_flatMap]

theorem map_joinWith (f : Char → Char) (sep : Char) (argv : List (List Char)) :
    (joinWith sep argv).map f = joinWith (f sep) (argv.map (List.map f)) := by
  cases argv with
  | nil => rfl
  | cons a as =>
    simp only [joinWith, List.map_append, List.map_cons]
    congr 1
    induction as with
    | nil => rfl
    | cons b bs ih => simp [ih]

/-- Turning NULs into spaces leaves a NUL-free argument as it is. -/
theorem map_nulToSpace_of_nul_not_mem {a : List Char} (h : nul ∉ a) : a.map nulToSpace = a := by
  induction a with
  | nil => rfl
  | cons c cs ih =>
    simp only [List.mem_cons, not_or] at h
    simp [nulToSpace, Ne.symm h.1, ih h.2]

/-- **A short command line is read whole.** For a non-empty vector of NUL-free arguments whose
command line fits in 4095 bytes, the text handed to `extract_filename_common` is the
space-joined vector and `cmdline_len` is the command line's length. -/
theorem cmdline_take_eq (a : List Char) (as : List (List Char))
    (hnul : ∀ x ∈ a :: as, nul ∉ x) (hlen : (cmdlineOfArgv (a :: as)).length < 4096) :
    let buf := (cmdlineOfArgv (a :: as)).take 4095
    buf.length = (joinWith ' ' (a :: as)).length + 1 ∧
      (buf.take (buf.length - 1)).map nulToSpace = joinWith ' ' (a :: as) := by
  have hmap : (a :: as).map (List.map nulToSpace) = a :: as := by
    rw [List.map_congr_left (fun x hx => map_nulToSpace_of_nul_not_mem (hnul x hx))]
    simp
  have hjoin : (joinWith nul (a :: as)).map nulToSpace = joinWith ' ' (a :: as) := by
    rw [map_joinWith, hmap]
    rfl
  have hlen' : (joinWith nul (a :: as)).length = (joinWith ' ' (a :: as)).length := by
    rw [← hjoin, List.length_map]
  rw [List.take_of_length_le (by omega), cmdlineOfArgv_cons]
  simp only [List.length_append, List.length_singleton, Nat.add_sub_cancel,
    List.take_left' rfl]
  exact ⟨by rw [hlen'], hjoin⟩

/-- **The entry points agree on short command lines.** For every non-empty vector of NUL-free
arguments, when its `/proc/<pid>/cmdline` image is shorter than 4096 bytes the `/proc` side and
the argv side return the same classification; when it is 4096 bytes or longer the argv side
returns `NULL` while the `/proc` side classifies the first 4094 bytes of the image. -/
theorem classifier_entry_points_agree (argv : List (List Char)) (hne : argv ≠ [])
    (hnul : ∀ x ∈ argv, nul ∉ x) :
    ((cmdlineOfArgv argv).length < 4096 →
      extractFilenameFromCmdline (some (cmdlineOfArgv argv)) = extractFilenameFromArgv argv) ∧
    (4096 ≤ (cmdlineOfArgv argv).length → extractFilenameFromArgv argv = none ∧
      extractFilenameFromCmdline (some (cmdlineOfArgv argv)) =
        extractFilenameCommon (((cmdlineOfArgv argv).take 4094).map nulToSpace) 4095) := by
  obtain ⟨a, as, rfl⟩ := List.exists_cons_of_ne_nil hne
  have htot := length_cmdlineOfArgv (a :: as)
  refine ⟨fun hlen => ?_, fun hlen => ⟨?_, ?_⟩⟩
  · obtain ⟨hbuf, htext⟩ := cmdline_take_eq a as hnul hlen
    simp only [extractFilenameFromCmdline, extractFilenameFromArgv]
    rw [htext, hbuf, if_neg (by omega), if_neg (by simp only [List.length_cons]; omega)]
    exact extractFilenameCommon_of_le (joinWith ' ' (a :: as)) (Nat.le_succ _) le_rfl
  · simp only [extractFilenameFromArgv]
    rw [if_pos (Or.inr (by omega))]
  · -- `fread` fills the buffer: 4095 bytes, the last one overwritten
    have hbuflen : ((cmdlineOfArgv (a :: as)).take 4095).length = 4095 := by
      rw [List.length_take, min_eq_left (by omega)]
    simp only [extractFilenameFromCmdline]
    rw [hbuflen, if_neg (by decide), List.take_take]
    rfl

/-- A short compile line, classified alike by both entry points. -/
theorem classifier_entry_points_agree_gcc :
    (["gcc".toList, "-c".toList, "src/a.c".toList] ≠ [] ∧
      ∀ x ∈ ["gcc".toList, "-c".toList, "src/a.c".toList], nul ∉ x) ∧
    (((cmdlineOfArgv ["gcc".toList, "-c".toList, "src/a.c".toList]).length < 4096 →
      extractFilenameFromCmdline (some (cmdlineOfArgv ["gcc".toList, "-c".toList, "src/a.c".toList])) =
        extractFilenameFromArgv ["gcc".toList, "-c".toList, "src/a.c".toList]) ∧
    (4096 ≤ (cmdlineOfArgv ["gcc".toList, "-c".toList, "src/a.c".toList]).length →
      extractFilenameFromArgv ["gcc".toList, "-c".toList, "src/a.c".toList] = none ∧
      extractFilenameFromCmdline (some (cmdlineOfArgv ["gcc".toList, "-c".toList, "src/a.c".toList])) =
        extractFilenameCommon (((cmdlineOfArgv
          ["gcc".toList, "-c".toList, "src/a.c".toList]).take 4094).map nulToSpace) 4095)) :=
  ⟨⟨by decide, by decide⟩, classifier_entry_points_agree _ (by decide) (by decide)⟩

/-- The classification of `gcc dir/x.cpp ` followed by any text without `.`. -/
theorem extractFilenameCommon_gcc (rest : List Char) (hrest : ∀ c ∈ rest, c ≠ '.') :
    extractFilenameCommon ("gcc dir/x.cpp ".toList ++ rest) 4095 = some "dir/x.cpp" := by
  unfold extractFilenameCommon
  -- the candidate `.cpp` at index 9 is kept; the rest of the text adds none
  have hscan : scanCandidates ("gcc dir/x.cpp ".toList ++ rest) 4095 0
      ("gcc dir/x.cpp ".toList ++ rest) none =
      scanCandidates ("gcc dir/x.cpp ".toList ++ rest) 4095 14 rest (some 12) := rfl
  rw [hscan, scanCandidates_of_no_dot _ _ _ _ _ hrest]
  rfl

/-- `gcc dir/x.cpp A` for an argument `A` of at least 4082 bytes without `.` or NUL: the argv
side gives up, the `/proc` side classifies the first 4095 bytes. -/
theorem classify_gcc_long (A : List Char) (hdot : ∀ c ∈ A, c ≠ '.') (hnul : nul ∉ A)
    (hlen : 4082 ≤ A.length) :
    extractFilenameFromArgv ["gcc".toList, "dir/x.cpp".toList, A] = none ∧
      extractFilenameFromCmdline (some (cmdlineOfArgv ["gcc".toList, "dir/x.cpp".toList, A])) =
        some "dir/x.cpp" := by
  refine ⟨?_, ?_⟩
  · simp only [extractFilenameFromArgv, List.map_cons, List.map_nil, List.sum_cons, List.sum_nil]
    rw [if_pos (Or.inr (by simp only [String.toList, List.length]; omega))]
  · -- `fread` stops after the first 4081 bytes of `A`
    have hcmd : cmdlineOfArgv ["gcc".toList, "dir/x.cpp".toList, A] =
        "gcc\x00dir/x.cpp\x00".toList ++ (A ++ [nul]) := by
      simp only [cmdlineOfArgv, List.flatMap_cons, List.flatMap_nil, List.append_nil]
      rfl
    have hbuf : ("gcc\x00dir/x.cpp\x00".toList ++ (A ++ [nul])).take 4095 =
        "gcc\x00dir/x.cpp\x00".toList ++ A.take 4081 := by
      rw [List.take_append_eq_append_take, List.take_of_length_le (by decide),
        List.take_append_of_le_length (by simp only [String.toList, List.length]; omega)]
      rfl
    have hbuflen : ("gcc\x00dir/x.cpp\x00".toList ++ A.take 4081).length = 4095 := by
      rw [List.length_append, List.length_take, min_eq_left (by omega)]
      rfl
    -- the NULs become spaces; the last byte read ends the string
    have htext : (("gcc\x00dir/x.cpp\x00".toList ++ A.take 4081).take (4095 - 1)).map nulToSpace =
        "gcc dir/x.cpp ".toList ++ A.take 4080 := by
      rw [List.take_append_eq_append_take, List.take_of_length_le (by decide), List.take_take,
        List.map_append, map_nulToSpace_of_nul_not_mem (fun h => hnul (List.mem_of_mem_take h))]
      rfl
    simp only [extractFilenameFromCmdline]
    rw [hcmd, hbuf, hbuflen, if_neg (by decide), htext]
    exact extractFilenameCommon_gcc _ fun c hc => hdot c (List.mem_of_mem_take hc)

/-- `gcc dir/x.cpp` followed by a 4082-byte argument: the command line takes 4097 bytes, so the
argv side gives up, while the `/proc` side reads its first 4095 bytes and finds `dir/x.cpp`. -/
theorem classifier_entry_points_differ_on_long_cmdline :
    let argv : List (List Char) := ["gcc".toList, "dir/x.cpp".toList, List.replicate 4082 'a']
    extractFilenameFromArgv argv = none ∧
      extractFilenameFromCmdline (some (cmdlineOfArgv argv)) = some "dir/x.cpp" :=
  classify_gcc_long _ (fun c hc => by rw [List.eq_of_mem_replicate hc]; decide)
    (fun h => absurd (List.eq_of_mem_replicate h) (by decide)) (by rw [List.length_replicate])

end MemoryAwareMake
