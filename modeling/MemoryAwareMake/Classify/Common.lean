import Mathlib.Data.List.Basic

/-!
# MemoryAwareMake — `extract_filename_common`

The classifier (`src/unnamed/part_003`) scans a command text for the last `.cpp`, `.cc` or `.c`
occurrence whose token (back to the previous space) contains a `/`, re-reads that path back to
the previous space or double quote, and returns it with its leading `../` removed, unless it
is 1000 bytes or longer.

The text is the C string before its terminating NUL (`text : List Char`, no NUL inside);
`textLen` is the `text_len` argument, which also bounds the scan. The debug dump to `/tmp` is
not modelled.

* `candidateEnd`, `backtrack`, `hasSlash` — the three pieces of one loop iteration;
* `scanCandidates` — the `while (*ptr && ptr - text < text_len)` loop, recursing on the
  suffix `ptr` still to scan;
* `extractFilenameCommon` — the whole function;
* `extractFilenameCommon_of_le` — `text_len` plays no role once it covers the text;
* `extractFilenameCommon_shape` — every path returned holds no blank and no double quote, ends
  in one of the three extensions, has no leading `../` and is shorter than 1000 characters;
* `extractFilenameCommon_of_shape` — a path of that shape which holds a `/` is classified as
  itself.
-/

namespace MemoryAwareMake

/-- The extension test at `ptr` (index `p`, `rest` the text from `ptr` on): the index of the
candidate's last character, `ptr + 3` for `.cpp`, `ptr + 2` for `.cc`, and `ptr + 1` for a
`.c` followed by a space or by the terminating NUL. -/
def candidateEnd (rest : List Char) (p : Nat) : Option Nat :=
  if ['.', 'c', 'p', 'p'].isPrefixOf rest then some (p + 3)
  else if ['.', 'c', 'c'].isPrefixOf rest then some (p + 2)
  else if ['.', 'c'].isPrefixOf rest ∧ (rest.get? 2 = some ' ' ∨ rest.get? 2 = none) then
    some (p + 1)
  else none

/-- `while (start > text && start[-1] not in seps) start--;` started at index `k`. -/
def backtrack (text : List Char) (seps : List Char) : Nat → Nat
  | 0 => 0
  | k + 1 => if (text.get? k).any (· ∈ seps) then k + 1 else backtrack text seps k

/-- Some character of `text[start ..= stop]` is a `/`. -/
def hasSlash (text : List Char) (start stop : Nat) : Bool :=
  ((text.drop start).take (stop + 1 - start)).contains '/'

/-- The scan loop: `end` is the last candidate end kept so far; a candidate is kept when its
token, from the previous space to the candidate end, contains a `/`. -/
def scanCandidates (text : List Char) (textLen : Nat) : Nat → List Char → Option Nat → Option Nat
  | _, [], e => e
  | p, c :: cs, e =>
    if p < textLen then
      let e' := match candidateEnd (c :: cs) p with
        | some ce => if hasSlash text (backtrack text [' '] p) ce then some ce else e
        | none => e
      scanCandidates text textLen (p + 1) cs e'
    else e

/-- `while (strncmp (strip_ptr, "../", 3) == 0) strip_ptr += 3;` -/
def stripDotDot : List Char → List Char
  | '.' :: '.' :: '/' :: rest => stripDotDot rest
  | s => s

/-- `extract_filename_common (text, text_len, ...)`: the classified source path, if any. -/
def extractFilenameCommon (text : List Char) (textLen : Nat) : Option String :=
  match scanCandidates text textLen 0 text none with
  | none => none
  | some e =>
    let start := backtrack text [' ', '"'] e
    let len := e - start + 1
    if len < 1000 ∧ 0 < len then
      some (String.mk (stripDotDot ((text.drop start).take len)))
    else none

/-- Once `text_len` covers the scanned suffix, the bound never stops the loop. -/
theorem scanCandidates_of_le (text : List Char) (n m p : Nat) (rest : List Char)
    (e : Option Nat) (hn : p + rest.length ≤ n) (hm : p + rest.length ≤ m) :
    scanCandidates text n p rest e = scanCandidates text m p rest e := by
  induction rest generalizing p e with
  | nil => rfl
  | cons c cs ih =>
    simp only [List.length_cons] at hn hm
    simp only [scanCandidates, if_pos (show p < n by omega), if_pos (show p < m by omega)]
    exact ih (p + 1) _ (by omega) (by omega)

/-- An extension test fails on a character other than `.`. -/
theorem candidateEnd_of_ne_dot {c : Char} (cs : List Char) (p : Nat) (hc : c ≠ '.') :
    candidateEnd (c :: cs) p = none := by
  simp [candidateEnd, List.isPrefixOf, Ne.symm hc]

/-- A stretch of text without `.` holds no candidate: the scan keeps what it had. -/
theorem scanCandidates_of_no_dot (text : List Char) (n p : Nat) (rest : List Char)
    (e : Option Nat) (hrest : ∀ c ∈ rest, c ≠ '.') : scanCandidates text n p rest e = e := by
  induction rest generalizing p with
  | nil => rfl
  | cons c cs ih =>
    simp only [List.mem_cons, forall_eq_or_imp] at hrest
    simp only [scanCandidates, candidateEnd_of_ne_dot cs p hrest.1]
    split
    · exact ih (p + 1) hrest.2
    · rfl

/-- **`text_len` is irrelevant past the text.** Two calls on the same text agree whenever both
lengths cover it. -/
theorem extractFilenameCommon_of_le (text : List Char) {n m : Nat} (hn : text.length ≤ n)
    (hm : text.length ≤ m) : extractFilenameCommon text n = extractFilenameCommon text m := by
  unfold extractFilenameCommon
  rw [scanCandidates_of_le text n m 0 text none (by omega) (by omega)]

/-! ## What the classifier returns -/

/-- The extensions the scan recognises: `.cpp`, `.cc` and `.c`. -/
def IsExt (ext : List Char) : Prop :=
  ext = ['.', 'c', 'p', 'p'] ∨ ext = ['.', 'c', 'c'] ∨ ext = ['.', 'c']

theorem IsExt.cons {ext : List Char} (h : IsExt ext) :
    ∃ tl, ext = '.' :: tl ∧ '.' ∉ tl ∧ ' ' ∉ tl ∧ '"' ∉ tl ∧ '/' ∉ tl := by
  rcases h with rfl | rfl | rfl <;> exact ⟨_, rfl, by decide⟩

/-- A candidate found at `q` is an extension starting there, ending at the candidate end. -/
theorem candidateEnd_some {rest : List Char} {q e : Nat} (h : candidateEnd rest q = some e) :
    ∃ ext, IsExt ext ∧ ext <+: rest ∧ e + 1 = q + ext.length := by
  unfold candidateEnd at h
  split_ifs at h with h1 h2 h3 <;> cases h
  · exact ⟨_, .inl rfl, List.isPrefixOf_iff_prefix.mp h1, rfl⟩
  · exact ⟨_, .inr (.inl rfl), List.isPrefixOf_iff_prefix.mp h2, rfl⟩
  · exact ⟨_, .inr (.inr rfl), List.isPrefixOf_iff_prefix.mp h3.1, rfl⟩

/-- An extension that ends the text is a candidate. -/
theorem candidateEnd_ext {ext : List Char} (h : IsExt ext) (q : Nat) :
    candidateEnd ext q = some (q + ext.length - 1) := by
  rcases h with rfl | rfl | rfl <;> simp [candidateEnd, List.isPrefixOf]

theorem backtrack_le (text seps : List Char) : ∀ k, backtrack text seps k ≤ k
  | 0 => le_rfl
  | k + 1 => by
    unfold backtrack
    split_ifs
    · exact le_rfl
    · exact (backtrack_le text seps k).trans (Nat.le_succ k)

/-- Between where `backtrack` stops and where it started there is no separator. -/
theorem backtrack_noSep (text seps : List Char) :
    ∀ k j, backtrack text seps k ≤ j → j < k → (text.get? j).any (· ∈ seps) = false
  | 0, _, _, hj => absurd hj (Nat.not_lt_zero _)
  | k + 1, j, hb, hj => by
    unfold backtrack at hb
    split_ifs at hb with hs
    · omega
    · rcases Nat.lt_succ_iff_lt_or_eq.mp hj with hj | rfl
      · exact backtrack_noSep text seps k j hb hj
      · simpa using hs

/-- `backtrack` gets back at least to the start of a stretch without separators. -/
theorem backtrack_le_of_noSep (text seps : List Char) {q : Nat} :
    ∀ k, q ≤ k → (∀ j, q ≤ j → j < k → (text.get? j).any (· ∈ seps) = false) →
      backtrack text seps k ≤ q
  | 0, _, _ => Nat.zero_le _
  | k + 1, hq, h => by
    rcases Nat.lt_or_ge q (k + 1) with hlt | hge
    · rw [backtrack, if_neg (by simpa using h k (by omega) (Nat.lt_succ_self k))]
      exact backtrack_le_of_noSep text seps k (by omega) fun j h1 h2 => h j h1 (by omega)
    · exact (backtrack_le text seps _).trans hge

/-- The scan ends on a candidate it found, or on what it started with. -/
theorem scanCandidates_some (text : List Char) (n : Nat) :
    ∀ (p : Nat) (rest : List Char) (e0 : Option Nat) {e : Nat}, rest = text.drop p →
      scanCandidates text n p rest e0 = some e →
      e0 = some e ∨ ∃ q, candidateEnd (text.drop q) q = some e
  | _, [], _, _, _, h => .inl h
  | p, c :: cs, e0, e, hr, h => by
    have hcs : cs = text.drop (p + 1) := by
      rw [← List.drop_drop, ← hr]
      rfl
    simp only [scanCandidates] at h
    split_ifs at h
    · rcases scanCandidates_some text n (p + 1) cs _ hcs h with h' | h'
      · split at h'
        · split_ifs at h'
          · exact .inr ⟨p, hr ▸ (Option.some.inj h') ▸ ‹_›⟩
          · exact .inl h'
        · exact .inl h'
      · exact .inr h'
    · exact .inl h

/-- With the whole text in bounds, the scan goes through a first part and then the rest. -/
theorem scanCandidates_append (text : List Char) (n : Nat) :
    ∀ (p : Nat) (xs ys : List Char) (e0 : Option Nat), p + (xs ++ ys).length ≤ n →
      ∃ e', scanCandidates text n p (xs ++ ys) e0 = scanCandidates text n (p + xs.length) ys e'
  | p, [], ys, e0, _ => ⟨e0, by simp⟩
  | p, x :: xs, ys, e0, hn => by
    simp only [List.cons_append, List.length_cons] at hn ⊢
    simp only [scanCandidates, if_pos (show p < n by omega)]
    obtain ⟨e', he'⟩ := scanCandidates_append text n (p + 1) xs ys _
      (by simp only [List.length_append] at hn ⊢; omega)
    exact ⟨e', by rw [he', Nat.add_right_comm, Nat.add_assoc]⟩

/-! ## The `../` strip -/

theorem stripDotDot_suffix (l : List Char) : stripDotDot l <:+ l := by
  induction l using stripDotDot.induct with
  | case1 rest ih => exact ih.trans (List.suffix_append ['.', '.', '/'] rest)
  | case2 s h => exact (stripDotDot.eq_2 s h).symm ▸ List.suffix_refl s

theorem not_prefix_stripDotDot (l : List Char) : ¬['.', '.', '/'] <+: stripDotDot l := by
  induction l using stripDotDot.induct with
  | case1 rest ih => exact ih
  | case2 s h =>
    rw [stripDotDot.eq_2 s h]
    rintro ⟨t, rfl⟩
    exact h t rfl

theorem stripDotDot_of_not_prefix {l : List Char} (h : ¬['.', '.', '/'] <+: l) :
    stripDotDot l = l := by
  induction l using stripDotDot.induct with
  | case1 rest _ => exact absurd ⟨rest, rfl⟩ h
  | case2 s hs => exact stripDotDot.eq_2 s hs

/-- The strip stops before a last part without `/`. -/
theorem stripDotDot_append (xs : List Char) {ys : List Char} (hys : '/' ∉ ys) :
    stripDotDot (xs ++ ys) = stripDotDot xs ++ ys := by
  induction xs using stripDotDot.induct with
  | case1 rest ih => exact ih
  | case2 s hs =>
    rw [stripDotDot.eq_2 s hs]
    refine stripDotDot_of_not_prefix fun ⟨t, ht⟩ => ?_
    rcases s with _ | ⟨a, _ | ⟨b, _ | ⟨c, s⟩⟩⟩
    · exact hys (by simp at ht; rw [← ht]; simp)
    · exact hys (by simp at ht; rw [← ht.2]; simp)
    · exact hys (by simp at ht; rw [← ht.2.2]; simp)
    · simp at ht
      exact hs s (by rw [← ht.1, ← ht.2.1, ← ht.2.2.1])

/-! ## The shape of a classified path -/

/-- What `extract_filename_common` returns: no blank and no double quote, one of the three
extensions at the end, no leading `../`, and fewer than 1000 characters. -/
structure ClassifiedShape (r : List Char) : Prop where
  no_blank : ' ' ∉ r
  no_quote : '"' ∉ r
  ext : ∃ pre ext, IsExt ext ∧ r = pre ++ ext
  no_dotdot : ¬['.', '.', '/'] <+: r
  short : r.length < 1000

theorem any_mem_seps_of_mem {l : List Char} (hb : ' ' ∉ l) (hq : '"' ∉ l) {i : Nat} :
    (l.get? i).any (· ∈ [' ', '"']) = false := by
  cases h : l.get? i with
  | none => rfl
  | some c =>
    have hc := List.get?_mem h
    simpa using ⟨fun h => hb (h ▸ hc), fun h => hq (h ▸ hc)⟩

/-- **A classified path has the shape.** The path is read back from its candidate end to the
previous blank or double quote, so it holds neither; it ends in the extension the scan found;
the strip leaves no leading `../`. -/
theorem extractFilenameCommon_shape {text : List Char} {n : Nat} {r : String}
    (h : extractFilenameCommon text n = some r) : ClassifiedShape r.data := by
  unfold extractFilenameCommon at h
  split at h
  · cases h
  rename_i e he
  obtain ⟨q, hq⟩ := (scanCandidates_some text n 0 text none rfl he).resolve_left (by simp)
  obtain ⟨ext, hext, ⟨t, ht⟩, hlen⟩ := candidateEnd_some hq
  obtain ⟨tl, rfl, -, hb, hqu, hsl⟩ := hext.cons
  simp only [List.length_cons] at hlen
  -- from `q` on the text is the extension, which holds no separator
  have hext_sep : ∀ j, q ≤ j → j ≤ e → (text.get? j).any (· ∈ [' ', '"']) = false := by
    intro j hj hje
    rw [show j = q + (j - q) by omega, List.get?_eq_getElem?, ← List.getElem?_drop, ← ht,
      List.getElem?_append_left (by simp; omega), ← List.get?_eq_getElem?]
    exact any_mem_seps_of_mem (by simp [hb]) (by simp [hqu])
  set start := backtrack text [' ', '"'] e with hs
  have hstart : start ≤ q := backtrack_le_of_noSep text _ e (by omega)
    fun j h1 h2 => hext_sep j h1 (by omega)
  -- the path read back holds no separator
  have hall : ∀ j, start ≤ j → j ≤ e → (text.get? j).any (· ∈ [' ', '"']) = false :=
    fun j h1 h2 => if hj : j < e then backtrack_noSep text _ e j h1 hj else hext_sep j (by omega) h2
  have hsep : ∀ c ∈ (text.drop start).take (e - start + 1), c ≠ ' ' ∧ c ≠ '"' := by
    intro c hc
    obtain ⟨i, hi⟩ := List.mem_iff_getElem?.mp hc
    rw [List.getElem?_take] at hi
    split_ifs at hi with hi'
    rw [List.getElem?_drop, ← List.get?_eq_getElem?] at hi
    have := hall (start + i) (by omega) (by omega)
    simp only [hi, Option.any_some, decide_eq_false_iff_not, List.mem_cons, List.mem_singleton,
      List.not_mem_nil, or_false, not_or] at this
    exact this
  -- it is the text from `start` to `q`, then the extension
  have hslice : (text.drop start).take (e - start + 1) =
      (text.drop start).take (q - start) ++ '.' :: tl := by
    rw [show e - start + 1 = q - start + ('.' :: tl).length by simp; omega, List.take_add,
      List.drop_drop, show start + (q - start) = q by omega, ← ht, List.take_left' rfl]
  dsimp only at h
  split_ifs at h with hl
  cases h
  show ClassifiedShape (stripDotDot ((text.drop start).take (e - start + 1)))
  have hshort := (List.length_take_le (e - start + 1) (text.drop start)).trans_lt hl.1
  rw [hslice] at hsep hshort ⊢
  have hr := stripDotDot_suffix ((text.drop start).take (q - start) ++ '.' :: tl)
  rw [stripDotDot_append _ (by simp [hsl])] at hr ⊢
  refine ⟨fun hm => (hsep ' ' (hr.subset hm)).1 rfl, fun hm => (hsep '"' (hr.subset hm)).2 rfl,
    ⟨_, _, hext, rfl⟩, ?_, hr.length_le.trans_lt hshort⟩
  rw [← stripDotDot_append _ (by simp [hsl])]
  exact not_prefix_stripDotDot _

/-- With no separator in the text, `backtrack` goes back to its start. -/
theorem backtrack_eq_zero {text seps : List Char} (h : ∀ c ∈ seps, c ∉ text) (k : Nat) :
    backtrack text seps k = 0 :=
  Nat.le_zero.mp <| backtrack_le_of_noSep text seps k (Nat.zero_le _) fun j _ _ => by
    cases hj : text.get? j with
    | none => rfl
    | some c => simpa using fun hc => h c hc (List.get?_mem hj)

/-- **A path of the shape classifies to itself** when it holds a `/`: the scan ends on its
extension, the path read back is the whole text, and there is no `../` to strip. -/
theorem extractFilenameCommon_of_shape {r : List Char} (hr : ClassifiedShape r) (hs : '/' ∈ r)
    {m : Nat} (hm : r.length ≤ m) : extractFilenameCommon r m = some (String.mk r) := by
  have hb : ∀ c ∈ [' '], c ∉ r := by simpa using hr.no_blank
  have hbq : ∀ c ∈ [' ', '"'], c ∉ r := by simpa using ⟨hr.no_blank, hr.no_quote⟩
  obtain ⟨pre, ext, hext, hpe⟩ := hr.ext
  obtain ⟨tl, rfl, hdot, -, -, -⟩ := hext.cons
  have hlen : r.length = pre.length + tl.length + 1 := by simp [hpe]; omega
  -- the scan ends on the extension, the last candidate, whose token holds the `/`
  have hscan : scanCandidates r m 0 r none = some (pre.length + tl.length) := by
    obtain ⟨e', he'⟩ := scanCandidates_append r m 0 pre ('.' :: tl) none (by rw [← hpe]; omega)
    rw [show scanCandidates r m 0 r none = scanCandidates r m 0 (pre ++ '.' :: tl) none by
      rw [← hpe], he', Nat.zero_add, scanCandidates, if_pos (by omega), candidateEnd_ext hext]
    simp only [backtrack_eq_zero hb, hasSlash, List.drop_zero, List.length_cons]
    rw [List.take_of_length_le (by omega), if_pos (List.elem_iff.mpr hs)]
    exact scanCandidates_of_no_dot r m _ tl _ fun c hc h => hdot (h ▸ hc)
  have hshort := hr.short
  unfold extractFilenameCommon
  rw [hscan]
  dsimp only
  rw [backtrack_eq_zero hbq, if_pos (by omega), List.drop_zero, Nat.sub_zero,
    List.take_of_length_le (by omega), stripDotDot_of_not_prefix hr.no_dotdot]

end MemoryAwareMake
