import MemoryAwareMake.Classify.Common

/-!
# MemoryAwareMake — the classifier against its reference

The specification describes the classifier at the level of tokens: split the command text at
every shell-word separator and at every double quote, keep the last token that ends in `.cpp`,
`.cc` or `.c` and contains a `/`, and return it without its leading `../` when it is shorter
than 1000 characters. `classifyReference` follows these words; `extractFilenameCommon`
(`Classify/Common.lean`) is the scanner of the code, which looks for the extensions anywhere in
the text and re-reads the path back to the previous space or double quote.

* `extractFilenameCommon_of_no_slash` — a text without `/` is never classified, whatever the
  `text_len`;
* `classifier_keeps_object_file_path` — on `g++ -c src/a.cpp -o obj/a.cpp.o` the scanner
  returns the object file's path, the reference the source;
* `classifier_not_idempotent_after_strip` — the path classified from `gcc -c ../main.c` is
  `main.c`, which is not classified again;
* `classified_path_classifies_again` — a classified path given back to the classifier comes back
  unchanged when it holds a `/`, and is not classified otherwise.
-/

namespace MemoryAwareMake

/-! ## The reference classifier -/

/-- A shell-word separator (space, tab, newline) or a double quote. -/
def isShellSep (c : Char) : Bool := c = ' ' ∨ c = '\t' ∨ c = '\n' ∨ c = '"'

/-- A token naming a source file: it ends in `.cpp`, `.cc` or `.c` and contains a `/`. -/
def isSourceToken (tok : List Char) : Bool :=
  (['.', 'c', 'p', 'p'].isSuffixOf tok || ['.', 'c', 'c'].isSuffixOf tok ||
    ['.', 'c'].isSuffixOf tok) && tok.contains '/'

/-- The classifier as the specification states it: the last source token, without its leading
`../`, when it is shorter than 1000 characters. -/
def classifyReference (t : List Char) : Option String :=
  match ((t.splitOnP isShellSep).filter isSourceToken).getLast? with
  | none => none
  | some tok => if tok.length < 1000 then some (String.mk (stripDotDot tok)) else none

/-! ## Texts without a slash -/

section NoSlash

variable {text : List Char} (h : '/' ∉ text)
include h

theorem hasSlash_of_not_mem (a b : Nat) : hasSlash text a b = false := by
  unfold hasSlash
  rw [Bool.eq_false_iff]
  intro hc
  exact h (List.mem_of_mem_drop (List.mem_of_mem_take (List.elem_iff.mp hc)))

theorem scanCandidates_of_no_slash (n : Nat) :
    ∀ (p : Nat) (rest : List Char), scanCandidates text n p rest none = none
  | _, [] => rfl
  | p, c :: cs => by
    simp only [scanCandidates]
    split
    · split
      · -- a candidate, never kept
        simp only [hasSlash_of_not_mem h, Bool.false_eq_true, if_false]
        exact scanCandidates_of_no_slash n (p + 1) cs
      · exact scanCandidates_of_no_slash n (p + 1) cs
    · rfl

/-- **A text without `/` is never classified**, whatever bound `text_len` puts on the scan. -/
theorem extractFilenameCommon_of_no_slash (n : Nat) : extractFilenameCommon text n = none := by
  simp only [extractFilenameCommon, scanCandidates_of_no_slash h]

end NoSlash

/-! ## Classifying a classified path -/

/-- **A classified path classifies to itself exactly when it keeps a `/`.** Whatever text and
`text_len` give a path, that path given back with a `text_len` covering it is returned unchanged
when it holds a `/`; when its only `/` went with a stripped `../`, or stood before a double quote,
it is not classified at all. -/
theorem classified_path_classifies_again {text : List Char} {n : Nat} {r : String}
    (h : extractFilenameCommon text n = some r) {m : Nat} (hm : r.length ≤ m) :
    extractFilenameCommon r.data m = if '/' ∈ r.data then some r else none := by
  split_ifs with hs
  · exact extractFilenameCommon_of_shape (extractFilenameCommon_shape h) hs hm
  · exact extractFilenameCommon_of_no_slash hs m

/-- `src/main.c`, classified from `gcc -c src/main.c`, classifies to itself. -/
theorem classified_path_classifies_again_src :
    extractFilenameCommon "gcc -c src/main.c".toList "gcc -c src/main.c".length =
        some "src/main.c" ∧ "src/main.c".length ≤ 10 ∧
      extractFilenameCommon "src/main.c".data 10 =
        if '/' ∈ "src/main.c".data then some "src/main.c" else none :=
  have h : extractFilenameCommon "gcc -c src/main.c".toList "gcc -c src/main.c".length =
      some "src/main.c" := by decide
  ⟨h, by decide, classified_path_classifies_again h (by decide)⟩

/-! ## Where the code departs from the reference -/

/-- **An object file named after its source is taken for the source.** The scanner finds
`.cpp` inside `obj/a.cpp.o`, the last candidate with a `/`, and returns `obj/a.cpp`; the
reference keeps the last token that ends in `.cpp`, which is `src/a.cpp`. -/
theorem classifier_keeps_object_file_path :
    extractFilenameCommon "g++ -c src/a.cpp -o obj/a.cpp.o".toList
        "g++ -c src/a.cpp -o obj/a.cpp.o".length = some "obj/a.cpp" ∧
      classifyReference "g++ -c src/a.cpp -o obj/a.cpp.o".toList = some "src/a.cpp" := by
  decide

/-- **Classification is not idempotent.** `gcc -c ../main.c` is classified as `main.c`, whose
leading `../` was stripped with its only `/`; `main.c` itself is never classified. -/
theorem classifier_not_idempotent_after_strip :
    extractFilenameCommon "gcc -c ../main.c".toList "gcc -c ../main.c".length = some "main.c" ∧
      ∀ n, extractFilenameCommon "main.c".toList n = none :=
  ⟨by decide, extractFilenameCommon_of_no_slash (by decide)⟩

end MemoryAwareMake
