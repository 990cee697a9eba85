import Mathlib.Data.List.Chain
import Mathlib.Data.List.DropRight
import TwoWaySql.Proofs.Record.Naming

/-!
# Snake case

A name in snake case is nothing, or a row of words of small letters and digits with one underscore
between neighbours. It has all letters and digits of the name. The texts of that form are the ones
that snake case leaves as they are, so it changes no name twice.

The words can be written in one pass from left to right. What is written so far then ends with an
underscore wherever a word has ended, and underscores at the end of the pass are taken away.

## Main definitions

* `Naming.IsWord`, `Naming.IsSnake` — what names in snake case look like.
* `Naming.Tight` — where such names have no underscores.
* `Naming.write` — the pass that writes a name from left to right.
-/
namespace TwoWaySql.Naming

/-- Whether a character may stand in a word: a small letter or a digit. -/
def IsSmall (c : Char) : Prop := c.isLower = true ∨ c.isDigit = true

/-- Whether a text is a word. -/
structure IsWord (t : Text) : Prop where
  /-- A word is not empty. -/
  ne_nil : t ≠ []
  /-- A word has small letters and digits. -/
  small : ∀ c ∈ t, IsSmall c

/-- Whether a text is a row of words with single underscores between them. -/
inductive IsSnake : Text → Prop
  /-- One word is such a row. -/
  | word {t : Text} (ht : IsWord t) : IsSnake t
  /-- An underscore and a row may follow a word. -/
  | cons {word t : Text} (hword : IsWord word) (ht : IsSnake t) : IsSnake (word ++ '_' :: t)

/-- Whether underscores stand neither at an end of a text nor next to each other. -/
structure Tight (t : Text) : Prop where
  /-- No underscore stands at the start. -/
  head : t.head? ≠ some '_'
  /-- No underscore stands at the end. -/
  last : t.getLast? ≠ some '_'
  /-- Of two neighbours at most one is an underscore. -/
  apart : t.IsChain fun c d => c ≠ '_' ∨ d ≠ '_'

variable {c : Char} {name t word written : Text} {ws ts : List Text}

theorem IsSmall.isAlphanum (h : IsSmall c) : c.isAlphanum = true := by
  rcases h with hlower | hdigit
  · simp [isAlphanum_eq, isAlpha_eq, hlower]
  · simp [isAlphanum_eq, hdigit]

theorem IsSmall.isUpper (h : IsSmall c) : c.isUpper = false := by
  rw [IsSmall, isLower_iff, isDigit_iff] at h
  rw [Bool.eq_false_iff, ne_eq, isUpper_iff]
  omega

theorem IsSmall.ne_underscore (h : IsSmall c) : c ≠ '_' := by
  rintro rfl
  exact absurd h.isAlphanum (by decide)

theorem IsWord.underscore_notMem (h : IsWord t) : '_' ∉ t := fun hmem =>
  (h.small '_' hmem).ne_underscore rfl

/-- The words of a name are words. -/
theorem isWord_of_mem_words (h : word ∈ words name) : IsWord word := by
  refine ⟨by simpa [words] using (List.mem_filter.1 h).2, fun c hc => ?_⟩
  obtain ⟨halphanum, hupper⟩ := of_mem_words h hc
  simpa [IsSmall, isAlphanum_eq, isAlpha_eq, hupper] using halphanum

/-! ## Rows of words -/

theorem isSnake_join (hne : ws ≠ []) (h : ∀ w ∈ ws, IsWord w) : IsSnake (Text.join ['_'] ws) := by
  induction ws with
  | nil => exact absurd rfl hne
  | cons w ws ih =>
      have hw := h w List.mem_cons_self
      cases ws with
      | nil => exact .word hw
      | cons next ws =>
          have hrest := ih (List.cons_ne_nil next ws) fun v hv => h v (List.mem_cons_of_mem w hv)
          rw [Text.join_cons_cons, List.append_assoc]
          exact .cons hw hrest

theorem eq_or_isSmall_of_mem_join (h : ∀ w ∈ ws, IsWord w) (hc : c ∈ Text.join ['_'] ws) :
    c = '_' ∨ IsSmall c :=
  (Text.mem_of_mem_join hc).imp_right fun ⟨w, hw, hmem⟩ => (h w hw).small c hmem

theorem IsSnake.exists_words (h : IsSnake t) :
    ∃ ws : List Text, ws ≠ [] ∧ (∀ w ∈ ws, IsWord w) ∧ Text.join ['_'] ws = t := by
  induction h with
  | @word w hw => exact ⟨[w], by simp, by simpa using hw, rfl⟩
  | @cons w t hw ht ih =>
      obtain ⟨ws, hne, hws, rfl⟩ := ih
      obtain ⟨next, ws, rfl⟩ := List.exists_cons_of_ne_nil hne
      exact ⟨w :: next :: ws, by simp, List.forall_mem_cons.2 ⟨hw, hws⟩,
        by simp [Text.join_cons_cons]⟩

theorem IsSnake.ne_nil (h : IsSnake t) : t ≠ [] := by
  cases h with
  | word ht => exact ht.ne_nil
  | cons hword ht => simp

theorem IsWord.tight (h : IsWord t) : Tight t where
  head hhead := h.underscore_notMem (List.mem_of_mem_head? hhead)
  last hlast := h.underscore_notMem (List.mem_of_mem_getLast? hlast)
  apart := by
    rw [List.isChain_iff_forall_rel_of_append_cons_cons]
    rintro c d u v rfl
    exact .inl (h.small c (by simp)).ne_underscore

/-- In a row of words each underscore stands between two words. -/
theorem IsSnake.tight (h : IsSnake t) : Tight t := by
  induction h with
  | word hword => exact hword.tight
  | @cons word t hword ht ih =>
      refine ⟨?_, ?_, ?_⟩
      · rw [List.head?_append_of_ne_nil _ hword.ne_nil]
        exact hword.tight.head
      · rw [List.append_cons, List.getLast?_append_of_ne_nil _ ht.ne_nil]
        exact ih.last
      · refine hword.tight.apart.append (List.isChain_cons.2 ⟨?_, ih.apart⟩) ?_
        · intro d hd
          exact .inr fun heq => ih.head (heq ▸ hd)
        · intro d hd _ _
          exact .inl fun heq => hword.tight.last (heq ▸ hd)

/-! ## What stays as it is -/

/-- The runs of a text without capitals are the pieces between its underscores. -/
theorem runs_eq_splitOn (previous : Option Char) (h : ∀ c ∈ t, c = '_' ∨ IsSmall c) :
    runs previous t = Text.splitOn '_' t := by
  induction t generalizing previous with
  | nil => rfl
  | cons c t ih =>
      obtain ⟨hc, ht⟩ := List.forall_mem_cons.1 h
      rw [runs, Text.splitOn, ih _ ht]
      rcases hc with rfl | hc
      · rfl
      · have hstarts : startsWord previous c t = false := by
          cases previous <;> simp [startsWord, hc.isUpper]
        have hlower : c.toLower = c := toLower_of_not_isUpper hc.isUpper
        simp [hc.isAlphanum, hc.ne_underscore, hstarts, hlower]

/-- The words of a row are the ones it is made of. -/
theorem words_join (h : ∀ w ∈ ws, IsWord w) : words (Text.join ['_'] ws) = ws := by
  by_cases hne : ws = []
  · rw [hne]
    rfl
  · rw [words, runs_eq_splitOn none fun c hc => eq_or_isSmall_of_mem_join h hc,
      Text.splitOn_join hne fun w hw => (h w hw).underscore_notMem]
    exact List.filter_eq_self.2 fun w hw => by simpa using (h w hw).ne_nil

theorem snake_join (h : ∀ w ∈ ws, IsWord w) : snake (Text.join ['_'] ws) = Text.join ['_'] ws := by
  rw [snake, words_join h]
  rfl

theorem snake_eq_nil_or_isSnake (name : Text) : snake name = [] ∨ IsSnake (snake name) := by
  by_cases hne : words name = []
  · exact .inl (by rw [snake, hne]; rfl)
  · exact .inr (isSnake_join hne fun _ => isWord_of_mem_words)

theorem eq_or_isSmall_of_mem_snake (hc : c ∈ snake name) : c = '_' ∨ IsSmall c :=
  eq_or_isSmall_of_mem_join (fun _ => isWord_of_mem_words) hc

theorem tight_snake (name : Text) : Tight (snake name) := by
  rcases snake_eq_nil_or_isSnake name with hnil | hsnake
  · rw [hnil]
    exact ⟨by simp, by simp, .nil⟩
  · exact hsnake.tight

/-- Snake case leaves a text as it is exactly if it is empty or a row of words. -/
theorem snake_eq_self_iff : snake t = t ↔ t = [] ∨ IsSnake t := by
  constructor
  · intro h
    rw [← h]
    exact snake_eq_nil_or_isSnake t
  · rintro (rfl | ht)
    · rfl
    · obtain ⟨ws, -, hws, rfl⟩ := ht.exists_words
      exact snake_join hws

/-! ## One pass from left to right -/

/-- An underscore behind what is written, unless there is nothing or it ends with one. -/
def separate (written : Text) : Text :=
  if written = [] ∨ written.getLast? = some '_' then written else written ++ ['_']

/-- Writes a name in small letters behind what is written, and an underscore wherever a word may
have ended. -/
def write (written : Text) (previous : Option Char) : Text → Text
  | [] => written
  | c :: rest =>
    if !c.isAlphanum then write (separate written) (some c) rest
    else if startsWord previous c rest then
      write (separate written ++ [c.toLower]) (some c) rest
    else write (written ++ [c.toLower]) (some c) rest

/-- Writes runs behind what is written: the first as more of the last word, and an underscore in
front of each other. -/
def writeRuns (written : Text) : List Text → Text
  | [] => written
  | t :: ts => ts.foldl (fun out t => separate out ++ t) (written ++ t)

theorem writeRuns_nil_cons (hne : ts ≠ []) :
    writeRuns written ([] :: ts) = writeRuns (separate written) ts := by
  obtain ⟨t, ts, rfl⟩ := List.exists_cons_of_ne_nil hne
  simp [writeRuns]

theorem writeRuns_extend (hne : ts ≠ []) :
    writeRuns written (Text.extend c ts) = writeRuns (written ++ [c]) ts := by
  obtain ⟨t, ts, rfl⟩ := List.exists_cons_of_ne_nil hne
  simp [writeRuns, Text.extend]

/-- The pass writes the runs of the name. -/
theorem write_eq (previous : Option Char) :
    write written previous name = writeRuns written (runs previous name) := by
  -- a letter goes to the first of the runs, and an empty run in front of them is an underscore
  induction name generalizing written previous with
  | nil => simp [write, runs, writeRuns]
  | cons c rest ih =>
      have hne := runs_ne_nil (some c) rest
      by_cases hc : c.isAlphanum = true
      · by_cases hstarts : startsWord previous c rest = true
        · have hextend : Text.extend c.toLower (runs (some c) rest) ≠ [] := by
            cases runs (some c) rest <;> simp [Text.extend]
          simp [write, runs, hc, hstarts, ih, writeRuns_nil_cons hextend, writeRuns_extend hne]
        · simp [write, runs, hc, hstarts, ih, writeRuns_extend hne]
      · simp [write, runs, hc, ih, writeRuns_nil_cons hne]

/-- Whether what is written is a row of words, the last of which may have ended. -/
def Written (ws : List Text) (written : Text) : Prop :=
  written = Text.join ['_'] ws ∨ ws ≠ [] ∧ written = Text.join ['_'] ws ++ ['_']

/-- Behind a row of words there is one underscore, whether or not the last of them has ended. -/
theorem Written.separate_eq (h : Written ws written) (hws : ∀ w ∈ ws, IsWord w) :
    separate written = if ws = [] then [] else Text.join ['_'] ws ++ ['_'] := by
  by_cases hne : ws = []
  · obtain rfl | ⟨hne', -⟩ := h
    · simp [separate, hne, Text.join]
    · exact absurd hne hne'
  · have hsnake := isSnake_join hne hws
    rw [if_neg hne]
    obtain rfl | ⟨-, rfl⟩ := h
    · simp [separate, hsnake.ne_nil, hsnake.tight.last]
    · simp [separate]

/-- A run behind a row of words is one more word, if it is not empty. -/
theorem Written.append_run (h : Written ws written) (hws : ∀ w ∈ ws, IsWord w) (t : Text) :
    Written (if t = [] then ws else ws ++ [t]) (separate written ++ t) := by
  rw [h.separate_eq hws]
  by_cases ht : t = []
  · by_cases hne : ws = []
    · exact .inl (by simp [ht, hne, Text.join])
    · exact .inr (by simp [ht, hne])
  · by_cases hne : ws = []
    · exact .inl (by simp [ht, hne, Text.join])
    · exact .inl (by simp [ht, hne, Text.join_concat ['_'] t hne])

/-- Runs that are written one behind the other are the row of those that are not empty. -/
theorem Written.foldl (h : Written ws written) (hws : ∀ w ∈ ws, IsWord w)
    (hts : ∀ t ∈ ts, t ≠ [] → IsWord t) :
    Written (ws ++ ts.filter fun t => !t.isEmpty)
      (ts.foldl (fun out t => separate out ++ t) written) := by
  -- by induction on the runs to come, whatever row has been written
  induction ts generalizing ws written with
  | nil => simpa using h
  | cons t ts ih =>
      obtain ⟨ht, hts⟩ := List.forall_mem_cons.1 hts
      have hnext := h.append_run hws t
      by_cases hnil : t = []
      · rw [if_pos hnil] at hnext
        simpa [hnil] using ih hnext hws hts
      · rw [if_neg hnil] at hnext
        have hmem : ∀ w ∈ ws ++ [t], IsWord w := by
          simpa [or_imp, forall_and] using ⟨hws, ht hnil⟩
        simpa [hnil] using ih hnext hmem hts

/-- Snake case is what the pass writes, without an underscore at the end. -/
theorem snake_eq_write (name : Text) :
    snake name = (write [] none name).rdropWhile (· = '_') := by
  obtain ⟨t, ts, hruns⟩ := List.exists_cons_of_ne_nil (runs_ne_nil none name)
  have hword : ∀ t ∈ runs none name, t ≠ [] → IsWord t := fun t ht hne =>
    isWord_of_mem_words (List.mem_filter.2 ⟨ht, by simpa using hne⟩)
  have hwritten : Written (words name) (write [] none name) := by
    have hstart : Written [] [] := .inl rfl
    simpa [write_eq, writeRuns, words, hruns, separate] using hstart.foldl (by simp) hword
  have htrim : (snake name).rdropWhile (· = '_') = snake name := by
    rw [List.rdropWhile_eq_self_iff]
    intro hne hlast
    refine (tight_snake name).last ?_
    rw [List.getLast?_eq_some_getLast hne]
    simpa using hlast
  rcases hwritten with h | ⟨-, h⟩
  · rw [h]
    exact htrim.symm
  · rw [h, List.rdropWhile_concat_pos _ _ _ (by simp)]
    exact htrim.symm

/-- **Names in snake case are canonical.** A name in snake case is empty or a row of words of small
letters and digits: an underscore stands neither at an end of it nor next to another one. Without
the underscores it is the letters and digits of the name, in order and in small letters. Snake case
leaves just such texts as they are, so that it changes no name a second time. One pass from left to
right writes it, but for an underscore at the end. -/
theorem snake_canonical (name : Text) :
    (snake name = [] ∨ IsSnake (snake name)) ∧
    Tight (snake name) ∧
    (snake name).filter (· ≠ '_') = Text.toLower (name.filter Char.isAlphanum) ∧
    snake (snake name) = snake name ∧
    (snake name = name ↔ name = [] ∨ IsSnake name) ∧
    snake name = (write [] none name).rdropWhile (· = '_') := by
  have hform := snake_eq_nil_or_isSnake name
  have hletters : (snake name).filter (· ≠ '_') = Text.toLower (name.filter Char.isAlphanum) := by
    rw [← flatten_words]
    exact Text.filter_join fun w hw => (isWord_of_mem_words hw).underscore_notMem
  exact ⟨hform, tight_snake name, hletters, snake_eq_self_iff.2 hform, snake_eq_self_iff,
    snake_eq_write name⟩

/-- Only ASCII letters and digits are carried over, and the plural of an acronym stays with it. -/
example : snake "__HTTPServer-IDs é2X_" = "http_server_ids_2_x" ∧
    write [] none "__HTTPServer-IDs é2X_" = "http_server_ids_2_x_" := by decide

end TwoWaySql.Naming
