import Mathlib.Algebra.Order.Ring.Nat

/-!
# MemoryAwareMake — the quoting of `MAKEFLAGS` words

A make hands its switches to its sub-makes in `MAKEFLAGS`: `define_makeflags` writes each
switch argument through `quote_for_env`, and the sub-make's `decode_env_switches` cuts the value
back into words, dropping the backslash before each escaped character. Character lists stand for
C strings, so none holds a `NUL`.

* `quoteForEnv` — `quote_for_env`; `quoteForEnv_length_le`: twice the input's length is always
  enough, as its comment says;
* `envWordsLoop`, `envWords` — the word loop of `decode_env_switches`, and the dash it puts
  before a first word that lacks one;
* `envWordsLoop_size` — the loop stays inside `buf` (its `assert`);
* `envWordsLoop_quoted` — words written by `quote_for_env` with a blank before each are read
  back whole.
-/

namespace MemoryAwareMake

/-- `ISBLANK`: the characters `initialize_stopchar_map` marks `MAP_BLANK`. -/
def isBlank (c : Char) : Bool := c = ' ' || c = '\t'

/-- `ISSPACE`: a blank, or one of the other characters of C's `isspace`, which
`initialize_stopchar_map` marks `MAP_NEWLINE`. -/
def isSpace (c : Char) : Bool :=
  isBlank c || c = '\n' || c = '\x0b' || c = '\x0c' || c = '\r'

/-- `quote_for_env`: a `$` is doubled, and a blank or a backslash gets a backslash before it. -/
def quoteForEnv : List Char → List Char
  | [] => []
  | c :: cs =>
    (if c = '$' then ['$', c] else if isBlank c || c = '\\' then ['\\', c] else [c]) ++
      quoteForEnv cs

/-- The `while (*value != '\0')` loop of `decode_env_switches`: `cur` is the word being copied
into `buf`, and `skip` is set from a blank until the next character that is not one (the
`do ++value; while (ISBLANK (*value))` loop). The result is `argv` from `argv[1]`. -/
def envWordsLoop : Bool → List Char → List Char → List (List Char)
  | _, [], cur => [cur]
  | _, '\\' :: c :: rest, cur => envWordsLoop false rest (cur ++ [c])
  | skip, c :: rest, cur =>
    if isBlank c then
      if skip then envWordsLoop true rest cur else cur :: envWordsLoop true rest []
    else envWordsLoop false rest (cur ++ [c])

/-- The words `decode_env_switches` passes to `decode_switches` after the spacer `argv[0]`, or
`none` when nothing is left after `NEXT_TOKEN` and it returns early. A first word that neither
starts with a dash nor holds `=` gets the dash of `buf[0]`. -/
def envWords (value : List Char) : Option (List (List Char)) :=
  match value.dropWhile isSpace with
  | [] => none
  | v =>
    match envWordsLoop false v [] with
    | w :: ws => some ((if w.head? = some '-' ∨ '=' ∈ w then w else '-' :: w) :: ws)
    | [] => some []

/-! ## `quote_for_env` -/

@[simp] theorem quoteForEnv_nil : quoteForEnv [] = [] := rfl

@[simp] theorem quoteForEnv_append (a b : List Char) :
    quoteForEnv (a ++ b) = quoteForEnv a ++ quoteForEnv b := by
  induction a with
  | nil => rfl
  | cons c cs ih => rw [List.cons_append, quoteForEnv, quoteForEnv, ih, List.append_assoc]

/-- **Twice the length is enough**: each character is written once, with at most one more
before it. -/
theorem quoteForEnv_length_le (w : List Char) : (quoteForEnv w).length ≤ 2 * w.length := by
  induction w with
  | nil => simp
  | cons c cs ih =>
    simp only [quoteForEnv, List.length_append, List.length_cons]
    split_ifs <;> simp only [List.length_cons, List.length_nil] <;> omega

/-- A character `quote_for_env` copies alone: not `$`, a blank or a backslash. -/
def IsPlain (c : Char) : Prop := c ≠ '$' ∧ isBlank c = false ∧ c ≠ '\\'

instance (c : Char) : Decidable (IsPlain c) := inferInstanceAs (Decidable (_ ∧ _ ∧ _))

theorem quoteForEnv_of_plain {w : List Char} (h : ∀ c ∈ w, IsPlain c) : quoteForEnv w = w := by
  induction w with
  | nil => rfl
  | cons c cs ih =>
    obtain ⟨h1, h2, h3⟩ := h c (List.mem_cons_self _ _)
    simp [quoteForEnv, h1, h2, h3, ih fun d hd => h d (List.mem_cons_of_mem _ hd)]

/-! ## The word loop of `decode_env_switches` -/

/-- **The `assert (p < buf + len + 2)` holds.** The words and their terminating `NUL`s take no
more room than the characters read and one more. -/
theorem envWordsLoop_size (skip : Bool) (v cur : List Char) :
    ((envWordsLoop skip v cur).map List.length).sum + (envWordsLoop skip v cur).length ≤
      cur.length + v.length + 1 := by
  induction skip, v, cur using envWordsLoop.induct with
  | case1 => simp [envWordsLoop]
  | case2 _ c rest cur ih =>
    rw [envWordsLoop.eq_2]
    simp only [List.length_append, List.length_cons, List.length_nil] at ih ⊢
    omega
  | case3 c rest cur hne hb ih =>
    rw [envWordsLoop.eq_3 _ _ _ _ hne, if_pos hb, if_pos rfl, List.length_cons]
    omega
  | case4 skip c rest cur hne hb hs ih =>
    rw [envWordsLoop.eq_3 _ _ _ _ hne, if_pos hb, if_neg hs]
    simp only [List.map_cons, List.sum_cons, List.length_cons, List.length_nil] at ih ⊢
    omega
  | case5 skip c rest cur hne hb ih =>
    rw [envWordsLoop.eq_3 _ _ _ _ hne, if_neg hb]
    simp only [List.length_append, List.length_cons, List.length_nil] at ih ⊢
    omega

/-- A character that is neither a blank nor a backslash is copied into the current word. -/
theorem envWordsLoop_copy {c : Char} (hb : isBlank c = false) (hc : c ≠ '\\') (skip : Bool)
    (rest cur : List Char) :
    envWordsLoop skip (c :: rest) cur = envWordsLoop false rest (cur ++ [c]) := by
  rw [envWordsLoop.eq_3 _ _ _ _ fun _ _ h _ => hc h, hb, if_neg Bool.false_ne_true]

/-- A blank after a word ends it. -/
theorem envWordsLoop_blank {c : Char} (hb : isBlank c = true) (rest cur : List Char) :
    envWordsLoop false (c :: rest) cur = cur :: envWordsLoop true rest [] := by
  rw [envWordsLoop.eq_3 _ _ _ _ fun _ _ h _ => by subst h; exact absurd hb (by decide), if_pos hb,
    if_neg Bool.false_ne_true]

/-- The word being copied is the start of the first word returned. -/
theorem length_le_envWordsLoop_sum (skip : Bool) (v cur : List Char) :
    cur.length ≤ ((envWordsLoop skip v cur).map List.length).sum := by
  induction skip, v, cur using envWordsLoop.induct with
  | case1 => simp [envWordsLoop]
  | case2 _ c rest cur ih =>
    rw [envWordsLoop.eq_2]
    simp only [List.length_append] at ih
    omega
  | case3 c rest cur hne hb ih => rwa [envWordsLoop.eq_3 _ _ _ _ hne, if_pos hb, if_pos rfl]
  | case4 skip c rest cur hne hb hs ih =>
    rw [envWordsLoop.eq_3 _ _ _ _ hne, if_pos hb, if_neg hs, List.map_cons, List.sum_cons]
    omega
  | case5 skip c rest cur hne hb ih =>
    rw [envWordsLoop.eq_3 _ _ _ _ hne, if_neg hb]
    simp only [List.length_append] at ih
    omega

/-- From a character that is not a blank, the first word is not empty. -/
theorem one_le_envWordsLoop_sum {c : Char} (hc : isBlank c = false) (rest : List Char) :
    1 ≤ ((envWordsLoop false (c :: rest) []).map List.length).sum := by
  by_cases hbs : c = '\\'
  · subst hbs
    cases rest with
    | nil => decide
    | cons d r => rw [envWordsLoop.eq_2]; exact length_le_envWordsLoop_sum _ _ [_]
  · rw [envWordsLoop_copy hc hbs]
    exact length_le_envWordsLoop_sum _ _ [_]

/-- **`decode_env_switches` stays inside `buf` and `argv`.** For a value that is not empty after
`NEXT_TOKEN`, `buf` holds its leading dash, the words and their `NUL`s (the `assert`), and
`argv` holds the spacer, the words and the final null pointer: both have `1 + len + 1`
places. -/
theorem decode_env_switches_fits (value : List Char) (hv : value.dropWhile isSpace ≠ []) :
    1 + ((envWordsLoop false (value.dropWhile isSpace) []).map List.length).sum +
        (envWordsLoop false (value.dropWhile isSpace) []).length ≤
      1 + (value.dropWhile isSpace).length + 1 ∧
    1 + (envWordsLoop false (value.dropWhile isSpace) []).length + 1 ≤
      1 + (value.dropWhile isSpace).length + 1 := by
  have hsize := envWordsLoop_size false (value.dropWhile isSpace) []
  obtain ⟨c, rest, hcr⟩ := List.exists_cons_of_ne_nil hv
  -- `NEXT_TOKEN` stopped at `c`, so it is no blank and the first word holds a character
  have hc : isSpace c = false := by
    simpa [hcr] using List.head?_dropWhile_not isSpace value
  have hfirst := one_le_envWordsLoop_sum (show isBlank c = false by
    simp only [isSpace, Bool.or_eq_false_iff] at hc; exact hc.1.1.1.1) rest
  rw [hcr] at hsize ⊢
  simp only [List.length_nil, zero_add] at hsize
  omega

/-- The `MAKEFLAGS` value of `make -k -j4 -I 'my inc'` in memory-aware mode. -/
def sampleMakeflags : List Char := "k -Imy\\ inc -j4 --memory-aware".toList

theorem decode_env_switches_fits_sample :
    sampleMakeflags.dropWhile isSpace ≠ [] ∧
      1 + ((envWordsLoop false (sampleMakeflags.dropWhile isSpace) []).map List.length).sum +
          (envWordsLoop false (sampleMakeflags.dropWhile isSpace) []).length ≤
        1 + (sampleMakeflags.dropWhile isSpace).length + 1 ∧
      1 + (envWordsLoop false (sampleMakeflags.dropWhile isSpace) []).length + 1 ≤
        1 + (sampleMakeflags.dropWhile isSpace).length + 1 :=
  ⟨by decide, decode_env_switches_fits sampleMakeflags (by decide)⟩

/-- The first character of a quoted word, with what `quote_for_env` put before it, goes into the
current word. -/
theorem envWordsLoop_quote_cons {c : Char} (hc : c ≠ '$') (cs : List Char) (skip : Bool)
    (rest cur : List Char) :
    envWordsLoop skip (quoteForEnv (c :: cs) ++ rest) cur =
      envWordsLoop false (quoteForEnv cs ++ rest) (cur ++ [c]) := by
  simp only [quoteForEnv, if_neg hc, List.append_assoc, List.cons_append, List.nil_append]
  split_ifs with h
  · exact envWordsLoop.eq_2 _ _ _ _
  · simp only [Bool.or_eq_true, decide_eq_true_eq, not_or, Bool.not_eq_true] at h
    exact envWordsLoop_copy h.1 h.2 _ _ _

/-- **A quoted word is read back whole**: after `quote_for_env`, each character of a word without
`$` is copied into the current word. -/
theorem envWordsLoop_quote {w : List Char} (hw : '$' ∉ w) (rest cur : List Char) :
    envWordsLoop false (quoteForEnv w ++ rest) cur = envWordsLoop false rest (cur ++ w) := by
  induction w generalizing cur with
  | nil => simp
  | cons c cs ih =>
    rw [envWordsLoop_quote_cons (fun h => hw (h ▸ List.mem_cons_self _ _)),
      ih (fun h => hw (List.mem_cons_of_mem _ h)), List.append_assoc]
    rfl

/-- Words each written as a blank and its quoted text. -/
def quotedWords (ws : List (List Char)) : List Char :=
  ws.flatMap fun w => ' ' :: quoteForEnv w

/-- **Quoted words come back as they were**, when none is empty or holds a `$`. -/
theorem envWordsLoop_quoted : ∀ (ws : List (List Char)), (∀ w ∈ ws, w ≠ [] ∧ '$' ∉ w) →
    ∀ cur, envWordsLoop false (quotedWords ws) cur = cur :: ws
  | [], _, cur => rfl
  | w :: ws, hws, cur => by
    obtain ⟨hne, hw⟩ := hws w (List.mem_cons_self _ _)
    obtain ⟨c, cs, rfl⟩ := List.exists_cons_of_ne_nil hne
    show envWordsLoop false (' ' :: (quoteForEnv (c :: cs) ++ quotedWords ws)) cur = _
    rw [envWordsLoop_blank (show isBlank ' ' = true by decide),
      envWordsLoop_quote_cons (fun h => hw (h ▸ List.mem_cons_self _ _)),
      envWordsLoop_quote (fun h => hw (List.mem_cons_of_mem _ h)),
      envWordsLoop_quoted ws (fun w hw => hws w (List.mem_cons_of_mem _ hw))]
    rfl

theorem quoteForEnv_dash (r : List Char) : quoteForEnv ('-' :: r) = '-' :: quoteForEnv r := by
  simp [quoteForEnv, isBlank]

/-- **A value of quoted words is read back as those words**, when the first starts with a dash
and none is empty or holds a `$`. -/
theorem envWords_quotedWords {w : List Char} {ws : List (List Char)}
    (hws : ∀ v ∈ w :: ws, v ≠ [] ∧ '$' ∉ v) (hdash : w.head? = some '-') :
    envWords (quotedWords (w :: ws)) = some (w :: ws) := by
  obtain ⟨r, rfl⟩ : ∃ r, w = '-' :: r := by
    cases w with
    | nil => cases hdash
    | cons c r => exact ⟨r, by simpa using hdash⟩
  have hw := (hws _ (List.mem_cons_self _ _)).2
  have hread : envWordsLoop false (quoteForEnv ('-' :: r) ++ quotedWords ws) [] =
      ('-' :: r) :: ws := by
    rw [envWordsLoop_quote hw, envWordsLoop_quoted ws fun v hv => hws v (List.mem_cons_of_mem _ hv)]
    rfl
  -- `NEXT_TOKEN` skips the blank before the first word and stops at its dash
  have hdrop : (quotedWords (('-' :: r) :: ws)).dropWhile isSpace =
      quoteForEnv ('-' :: r) ++ quotedWords ws := by
    rw [quotedWords, List.flatMap_cons, List.cons_append, List.dropWhile_cons_of_pos (by decide),
      quoteForEnv_dash, List.cons_append, List.dropWhile_cons_of_neg (by decide), ← quotedWords,
      ← List.cons_append, ← quoteForEnv_dash]
  rw [envWords, hdrop, quoteForEnv_dash, List.cons_append]
  simp only [← List.cons_append, ← quoteForEnv_dash, hread, List.head?_cons, true_or, if_true]

/-- **Letters before quoted words are read back as one dashed word**, when they are plain, none is
`=`, `-` or a blank, and no word is empty or holds a `$`. -/
theorem envWords_letters_quotedWords {l : List Char} {ws : List (List Char)} (hl : l ≠ [])
    (hlet : ∀ c ∈ l, IsPlain c ∧ c ≠ '=' ∧ c ≠ '-' ∧ isSpace c = false)
    (hws : ∀ w ∈ ws, w ≠ [] ∧ '$' ∉ w) :
    envWords (l ++ quotedWords ws) = some (('-' :: l) :: ws) := by
  obtain ⟨c, cs, rfl⟩ := List.exists_cons_of_ne_nil hl
  have hc := hlet c (List.mem_cons_self _ _)
  have hread : envWordsLoop false ((c :: cs) ++ quotedWords ws) [] = (c :: cs) :: ws := by
    have h := envWordsLoop_quote (fun h => (hlet _ h).1.1 rfl) (quotedWords ws) []
    rwa [quoteForEnv_of_plain fun d hd => (hlet d hd).1, envWordsLoop_quoted ws hws,
      List.nil_append] at h
  have hnot : ¬((c :: cs).head? = some '-' ∨ '=' ∈ c :: cs) := by
    rintro (h | h)
    · exact hc.2.2.1 (Option.some.inj h)
    · exact (hlet _ h).2.1 rfl
  rw [envWords, List.cons_append, List.dropWhile_cons_of_neg (by simp [hc.2.2.2])]
  simp only [← List.cons_append, hread, if_neg hnot]

end MemoryAwareMake
