import TwoWaySql.Proofs.Text.Pieces
import TwoWaySql.Record.Naming

/-!
# Names of records and constants

The name of a constant is that of its record with the words told apart by underscores instead of
capitals. What the change to small letters loses is which letters were capitals. A capital behind
a small letter or a digit starts a word and so stays visible; one behind another capital may not.

## Main definitions

* `Naming.Apart` — no two capitals stand next to each other.
-/
namespace TwoWaySql.Naming

variable {c p : Char} {name name' base base' suffix rest stem : Text}

/-! ## Letters

Letters are those of ASCII, and the two forms of one are 32 code points apart. -/

theorem isAlpha_eq (c : Char) : c.isAlpha = (c.isUpper || c.isLower) := rfl

theorem isAlphanum_eq (c : Char) : c.isAlphanum = (c.isAlpha || c.isDigit) := rfl

theorem isUpper_iff : c.isUpper = true ↔ 65 ≤ c.toNat ∧ c.toNat ≤ 90 := by
  delta Char.isUpper
  simp [UInt32.le_iff_toNat_le]

theorem isLower_iff : c.isLower = true ↔ 97 ≤ c.toNat ∧ c.toNat ≤ 122 := by
  delta Char.isLower
  simp [UInt32.le_iff_toNat_le]

theorem isDigit_iff : c.isDigit = true ↔ 48 ≤ c.toNat ∧ c.toNat ≤ 57 := by
  simp [Char.isDigit, UInt32.le_iff_toNat_le]

theorem isAlpha_iff : c.isAlpha = true ↔
    (65 ≤ c.toNat ∧ c.toNat ≤ 90) ∨ (97 ≤ c.toNat ∧ c.toNat ≤ 122) := by
  rw [isAlpha_eq, Bool.or_eq_true, isUpper_iff, isLower_iff]

theorem isAlphanum_iff : c.isAlphanum = true ↔ c.isAlpha = true ∨ c.isDigit = true := by
  rw [isAlphanum_eq, Bool.or_eq_true]

theorem toNat_toLower (c : Char) :
    c.toLower.toNat = if 65 ≤ c.toNat ∧ c.toNat ≤ 90 then c.toNat + 32 else c.toNat := by
  have hval : c.val ≥ 'A'.val ∧ c.val ≤ 'Z'.val ↔ 65 ≤ c.toNat ∧ c.toNat ≤ 90 := by
    simp [UInt32.le_iff_toNat_le]
  delta Char.toLower
  by_cases hc : 65 ≤ c.toNat ∧ c.toNat ≤ 90
  · have hdiff : ('a'.val - 'A'.val).toNat = 32 := rfl
    rw [if_pos hc, dif_pos (hval.2 hc), Char.toNat, UInt32.toNat_add, Char.toNat_val]
    omega
  · rw [if_neg hc, dif_neg (hval.not.2 hc)]

theorem toNat_toUpper (c : Char) :
    c.toUpper.toNat = if 97 ≤ c.toNat ∧ c.toNat ≤ 122 then c.toNat - 32 else c.toNat := by
  have hval : 'a'.val ≤ c.val ∧ c.val ≤ 'z'.val ↔ 97 ≤ c.toNat ∧ c.toNat ≤ 122 := by
    simp [UInt32.le_iff_toNat_le]
  delta Char.toUpper
  by_cases hc : 97 ≤ c.toNat ∧ c.toNat ≤ 122
  · have hdiff : ('A'.val - 'a'.val).toNat = 2 ^ 32 - 32 := rfl
    rw [if_pos hc, dif_pos (hval.2 hc), Char.toNat, UInt32.toNat_add, Char.toNat_val]
    omega
  · rw [if_neg hc, dif_neg (hval.not.2 hc)]

theorem isUpper_toLower (c : Char) : c.toLower.isUpper = false := by
  rw [Bool.eq_false_iff, ne_eq, isUpper_iff, toNat_toLower]
  split <;> omega

theorem isUpper_toUpper (c : Char) : c.toUpper.isUpper = c.isAlpha := by
  rw [Bool.eq_iff_iff, isUpper_iff, isAlpha_iff, toNat_toUpper]
  split <;> omega

theorem isAlpha_toLower (c : Char) : c.toLower.isAlpha = c.isAlpha := by
  rw [Bool.eq_iff_iff, isAlpha_iff, isAlpha_iff, toNat_toLower]
  split <;> omega

theorem isAlpha_toUpper (c : Char) : c.toUpper.isAlpha = c.isAlpha := by
  rw [Bool.eq_iff_iff, isAlpha_iff, isAlpha_iff, toNat_toUpper]
  split <;> omega

theorem isAlphanum_toLower (c : Char) : c.toLower.isAlphanum = c.isAlphanum := by
  rw [Bool.eq_iff_iff, isAlphanum_iff, isAlphanum_iff, isAlpha_toLower, isDigit_iff, isDigit_iff,
    isAlpha_iff, toNat_toLower]
  split <;> omega

theorem isAlphanum_toUpper (c : Char) : c.toUpper.isAlphanum = c.isAlphanum := by
  rw [Bool.eq_iff_iff, isAlphanum_iff, isAlphanum_iff, isAlpha_toUpper, isDigit_iff, isDigit_iff,
    isAlpha_iff, toNat_toUpper]
  split <;> omega

theorem toLower_of_not_isUpper (h : c.isUpper = false) : c.toLower = c := by
  rw [Bool.eq_false_iff, ne_eq, isUpper_iff] at h
  rw [← Char.toNat_inj, toNat_toLower, if_neg h]

theorem toLower_toUpper (h : c.isUpper = false) : c.toUpper.toLower = c := by
  rw [Bool.eq_false_iff, ne_eq, isUpper_iff] at h
  rw [← Char.toNat_inj, toNat_toLower, toNat_toUpper]
  split
  · rw [if_pos (by omega)]
    omega
  · rfl

/-- A letter is known from its small form and whether it is a capital. -/
theorem eq_of_toLower_eq {c c' : Char} (h : c.toLower = c'.toLower)
    (hupper : c.isUpper = c'.isUpper) : c = c' := by
  have hnat := congrArg Char.toNat h
  rw [Bool.eq_iff_iff, isUpper_iff, isUpper_iff] at hupper
  rw [toNat_toLower, toNat_toLower, if_congr hupper rfl rfl] at hnat
  rw [← Char.toNat_inj]
  split at hnat <;> omega

/-! ## Camel case -/

theorem isAlphanum_of_mem_camelFrom {starts : Bool} (hc : c ∈ camelFrom starts name) :
    c.isAlphanum = true := by
  induction name generalizing starts with
  | nil => cases hc
  | cons d name ih =>
      by_cases hd : d.isAlphanum = true
      · rw [camelFrom, if_pos hd, List.mem_cons] at hc
        rcases hc with rfl | hc
        · cases starts
          · simp [isAlphanum_toLower, hd]
          · simp [isAlphanum_toUpper, hd]
        · exact ih hc
      · rw [camelFrom, if_neg hd] at hc
        exact ih hc

theorem isAlphanum_of_mem_camel (hc : c ∈ camel name) : c.isAlphanum = true :=
  isAlphanum_of_mem_camelFrom hc

/-- A name in camel case that starts with a letter starts with a capital. -/
theorem isUpper_of_camel_eq_cons (h : camel name = c :: rest) (hc : c.isAlpha = true) :
    c.isUpper = true := by
  induction name with
  | nil => cases h
  | cons d name ih =>
      by_cases hd : d.isAlphanum = true
      · simp only [camel, camelFrom, hd, if_true, List.cons.injEq] at h
        rw [← h.1, isAlpha_toUpper] at hc
        rw [← h.1, isUpper_toUpper, hc]
      · simp only [camel, camelFrom, if_neg hd] at h
        exact ih h

theorem recordName?_eq_some_iff : recordName? stem suffix = some name ↔
    ∃ c rest, camel stem = c :: rest ∧ c.isAlpha = true ∧ isIdentifier name = true ∧
      name = camel stem ++ suffix := by
  cases hcamel : camel stem with
  | nil => simp [recordName?, hcamel]
  | cons c rest =>
      simp only [recordName?, hcamel, Option.ite_none_right_eq_some, Bool.and_eq_true,
        Option.some.injEq]
      constructor
      · rintro ⟨⟨hc, hident⟩, rfl⟩
        exact ⟨c, rest, rfl, hc, hident, rfl⟩
      · rintro ⟨_, _, ⟨⟩, hc, hident, rfl⟩
        exact ⟨⟨hc, hident⟩, rfl⟩

theorem recordName?_eq_some (h : recordName? stem suffix = some name) :
    ∃ c rest, camel stem = c :: rest ∧ c.isAlpha = true ∧ name = camel stem ++ suffix := by
  obtain ⟨c, rest, hcamel, hc, -, hname⟩ := recordName?_eq_some_iff.1 h
  exact ⟨c, rest, hcamel, hc, hname⟩

theorem isIdentifier_of_recordName? (h : recordName? stem suffix = some name) :
    isIdentifier name = true := by
  obtain ⟨_, _, -, -, hident, -⟩ := recordName?_eq_some_iff.1 h
  exact hident

/-! ## Snake case -/

theorem runs_ne_nil (previous : Option Char) (name : Text) : runs previous name ≠ [] := by
  have hextend : ∀ (c : Char) (ts : List Text), Text.extend c ts ≠ [] := by
    intro c ts
    cases ts <;> simp [Text.extend]
  cases name with
  | nil => simp [runs]
  | cons c rest =>
      rw [runs]
      split
      · simp
      · dsimp only
        split
        · simp
        · exact hextend _ _

/-- The runs have the letters and digits of the name in small letters. -/
theorem flatten_runs (previous : Option Char) (name : Text) :
    (runs previous name).flatten = Text.toLower (name.filter Char.isAlphanum) := by
  induction name generalizing previous with
  | nil => rfl
  | cons c rest ih =>
      rw [runs]
      by_cases hc : c.isAlphanum = true
      · have hhere : (Text.extend c.toLower (runs (some c) rest)).flatten =
            Text.toLower ((c :: rest).filter Char.isAlphanum) := by
          rw [Text.flatten_extend, ih, List.filter_cons_of_pos hc]
          rfl
        simp only [hc, Bool.not_true, Bool.false_eq_true, if_false]
        split
        · rw [List.flatten_cons, List.nil_append, hhere]
        · exact hhere
      · simp only [hc, Bool.not_false, if_true, List.flatten_cons, List.nil_append, ih]
        rw [List.filter_cons_of_neg hc]

theorem flatten_words (name : Text) :
    (words name).flatten = Text.toLower (name.filter Char.isAlphanum) := by
  rw [words, List.flatten_filter_not_isEmpty, flatten_runs]

/-- The letters and digits of words are no capitals. -/
theorem of_mem_words {word : Text} (hword : word ∈ words name) (hc : c ∈ word) :
    c.isAlphanum = true ∧ c.isUpper = false := by
  have hmem : c ∈ (words name).flatten := List.mem_flatten.2 ⟨word, hword, hc⟩
  rw [flatten_words, Text.toLower, List.mem_map] at hmem
  obtain ⟨d, hd, rfl⟩ := hmem
  rw [isAlphanum_toLower, isUpper_toLower]
  exact ⟨(List.mem_filter.1 hd).2, rfl⟩

/-- Names of one spelling in snake case have the same words. -/
theorem snake_inj : snake name = snake name' ↔ words name = words name' := by
  have hwords : ∀ {name : Text}, ∀ word ∈ words name, word ≠ [] ∧ '_' ∉ word := by
    intro name word hword
    refine ⟨by simpa [words] using (List.mem_filter.1 hword).2, fun hmem => ?_⟩
    exact absurd (of_mem_words hword hmem).1 (by decide)
  constructor
  · intro h
    exact Text.join_inj hwords hwords h
  · intro h
    rw [snake, snake, h]

theorem eq_or_isAlphanum_of_mem_snake (hc : c ∈ snake name) : c = '_' ∨ c.isAlphanum = true :=
  (Text.mem_of_mem_join hc).imp_right fun ⟨_, hword, hmem⟩ => (of_mem_words hword hmem).1

theorem isUpper_of_mem_snake (hc : c ∈ snake name) : c.isUpper = false := by
  rcases Text.mem_of_mem_join hc with rfl | ⟨word, hword, hmem⟩
  · decide
  · exact (of_mem_words hword hmem).2

/-- Two constants have one name exactly if the records' names are one in snake case. -/
theorem constantName_inj :
    constantName name = constantName name' ↔ snake name = snake name' := by
  have hlower : ∀ name, (snake name).toUpper.toLower = snake name := by
    intro name
    rw [Text.toUpper, Text.toLower, List.map_map]
    refine (List.map_congr_left fun c hc => ?_).trans (List.map_id _)
    exact toLower_toUpper (isUpper_of_mem_snake hc)
  constructor
  · intro h
    have hupper : (snake name).toUpper = (snake name').toUpper := List.append_cancel_right h
    rw [← hlower name, hupper, hlower]
  · intro h
    rw [constantName, constantName, h]

/-- Names in camel case with one suffix that are one in snake case differ in capitals at most. -/
theorem toLower_eq_of_snake_eq (hbase : ∀ c ∈ base, c.isAlphanum = true)
    (hbase' : ∀ c ∈ base', c.isAlphanum = true)
    (h : snake (base ++ suffix) = snake (base' ++ suffix)) : base.toLower = base'.toLower := by
  have hletters := congrArg List.flatten (snake_inj.1 h)
  rw [flatten_words, flatten_words, List.filter_append, List.filter_append,
    List.filter_eq_self.2 hbase, List.filter_eq_self.2 hbase'] at hletters
  simpa [Text.toLower] using hletters

/-! ## Capitals apart -/

/-- Whether no two capitals stand next to each other. -/
def Apart (t : Text) : Prop :=
  t.IsChain fun c d => ¬(c.isUpper = true ∧ d.isUpper = true)

instance (t : Text) : Decidable (Apart t) :=
  inferInstanceAs (Decidable (t.IsChain fun c d => ¬(c.isUpper = true ∧ d.isUpper = true)))

/-- Behind a letter or digit that is no capital, a word starts exactly at a capital. -/
theorem startsWord_eq_isUpper (hp : p.isAlphanum = true)
    (h : ¬(p.isUpper = true ∧ c.isUpper = true)) : startsWord (some p) c rest = c.isUpper := by
  by_cases hc : c.isUpper = true
  · have hupper : p.isUpper = false := by simpa [hc] using h
    have hother : p.isLower = true ∨ p.isDigit = true := by
      simpa [isAlphanum_eq, isAlpha_eq, hupper] using hp
    rcases hother with hlower | hdigit
    · simp [startsWord, hc, hlower]
    · simp [startsWord, hc, hdigit]
  · simp [startsWord, hc]

theorem runs_cons_of_apart (hp : p.isAlphanum = true) (hc : c.isAlphanum = true)
    (h : ¬(p.isUpper = true ∧ c.isUpper = true)) : runs (some p) (c :: rest) =
      if c.isUpper then [] :: Text.extend c.toLower (runs (some c) rest)
      else Text.extend c.toLower (runs (some c) rest) := by
  rw [runs, startsWord_eq_isUpper hp h]
  simp [hc]

@[simp] theorem head?_extend (c : Char) (ts : List Text) :
    (Text.extend c ts).head? = some (c :: ts.head?.getD []) := by
  cases ts <;> rfl

/-- The runs that begin in the same way and have the same words. -/
structure Alike (ts ts' : List Text) : Prop where
  /-- The first run is the same, empty or not. -/
  head : ts.head? = ts'.head?
  /-- The runs that are not empty are the same. -/
  words : ts.filter (fun t => !t.isEmpty) = ts'.filter fun t => !t.isEmpty

theorem Alike.of_extend {ts ts' : List Text} (hne : ts ≠ []) (hne' : ts' ≠ [])
    (h : (Text.extend c ts).filter (fun t => !t.isEmpty) =
      (Text.extend c ts').filter fun t => !t.isEmpty) : Alike ts ts' := by
  obtain ⟨t, ts, rfl⟩ := List.exists_cons_of_ne_nil hne
  obtain ⟨t', ts', rfl⟩ := List.exists_cons_of_ne_nil hne'
  have heq : t = t' ∧ ts.filter (fun t => !t.isEmpty) = ts'.filter fun t => !t.isEmpty := by
    simpa [Text.extend] using h
  constructor
  · rw [List.head?_cons, List.head?_cons, heq.1]
  · rw [heq.1, List.filter_cons, List.filter_cons, heq.2]

/-- Behind a common letter, names with capitals apart are known from their runs and from what they
are in small letters. -/
theorem eq_of_alike_runs (hp : p.isAlphanum = true) (hbase : ∀ c ∈ base, c.isAlphanum = true)
    (hapart : Apart (p :: base)) (hbase' : ∀ c ∈ base', c.isAlphanum = true)
    (hapart' : Apart (p :: base')) (hlower : base.toLower = base'.toLower)
    (h : Alike (runs (some p) (base ++ suffix)) (runs (some p) (base' ++ suffix))) :
    base = base' := by
  induction base generalizing p base' with
  | nil => exact (List.map_eq_nil_iff.1 hlower.symm).symm
  | cons c base ih =>
      cases base' with
      | nil => cases hlower
      | cons c' base' =>
          obtain ⟨hc, hrest⟩ := List.cons.inj hlower
          have hfirst := (List.isChain_cons_cons.1 hapart).1
          have hfirst' := (List.isChain_cons_cons.1 hapart').1
          have hhead := h.head
          have hwords := h.words
          rw [List.cons_append, List.cons_append,
            runs_cons_of_apart hp (hbase c List.mem_cons_self) hfirst,
            runs_cons_of_apart hp (hbase' c' List.mem_cons_self) hfirst'] at hhead hwords
          -- only a capital starts a word here, so the first difference would show
          have hupper : c.isUpper = c'.isUpper := by
            cases hc : c.isUpper <;> cases hc' : c'.isUpper <;> simp_all
          obtain rfl := eq_of_toLower_eq hc hupper
          have hextend : (Text.extend c.toLower (runs (some c) (base ++ suffix))).filter
              (fun t => !t.isEmpty) = (Text.extend c.toLower
                (runs (some c) (base' ++ suffix))).filter fun t => !t.isEmpty := by
            cases hc : c.isUpper <;> simpa [hc] using hwords
          have halike := Alike.of_extend (runs_ne_nil _ _) (runs_ne_nil _ _) hextend
          rw [ih (hbase c List.mem_cons_self) (fun d hd => hbase d (List.mem_cons_of_mem c hd))
            (List.isChain_cons_cons.1 hapart).2
            (fun d hd => hbase' d (List.mem_cons_of_mem c hd))
            (List.isChain_cons_cons.1 hapart').2 hrest halike]

/-- Names of records that have their capitals apart are known from their spelling in snake case. -/
theorem recordName_inj_of_apart {stem' : Text} (hname : recordName? stem suffix = some name)
    (hname' : recordName? stem' suffix = some name') (hapart : Apart (camel stem))
    (hapart' : Apart (camel stem')) (h : snake name = snake name') : name = name' := by
  obtain ⟨c, base, hcamel, hc, rfl⟩ := recordName?_eq_some hname
  obtain ⟨c', base', hcamel', hc', rfl⟩ := recordName?_eq_some hname'
  have hmem : ∀ d ∈ c :: base, d.isAlphanum = true := by
    rw [← hcamel]
    exact fun d hd => isAlphanum_of_mem_camel hd
  have hmem' : ∀ d ∈ c' :: base', d.isAlphanum = true := by
    rw [← hcamel']
    exact fun d hd => isAlphanum_of_mem_camel hd
  have hupper : c.isUpper = c'.isUpper := by
    rw [isUpper_of_camel_eq_cons hcamel hc, isUpper_of_camel_eq_cons hcamel' hc']
  rw [hcamel, hcamel'] at h ⊢
  rw [hcamel] at hapart
  rw [hcamel'] at hapart'
  obtain ⟨hlower, hrest⟩ := List.cons.inj (toLower_eq_of_snake_eq hmem hmem' h)
  obtain rfl := eq_of_toLower_eq hlower hupper
  have hwords := snake_inj.1 h
  have hfirst : c.isAlphanum = true := hmem c List.mem_cons_self
  simp only [words, List.cons_append, runs, hfirst, startsWord, Bool.not_true,
    Bool.false_eq_true, if_false] at hwords
  have halike := Alike.of_extend (runs_ne_nil _ _) (runs_ne_nil _ _) hwords
  rw [eq_of_alike_runs hfirst (fun d hd => hmem d (List.mem_cons_of_mem c hd)) hapart
    (fun d hd => hmem' d (List.mem_cons_of_mem c hd)) hapart' hrest halike]

end TwoWaySql.Naming
