import TwoWaySql.Proofs.Record.Snake

/-!
# Names and keywords

What is generated has to be taken by the language it is generated in, so its names must not be
keywords of that language. A field's name is in small letters and may be one; it is escaped then,
in one of two ways. A record's name starts with a capital, and is not escaped; there is one keyword
that starts so, and a stem and a suffix that make it up give it for a name.

## Main definitions

* `Naming.keywords` — the keywords of the language that is generated.
* `Naming.IsFieldIdentifier` — the texts that the language takes as names of fields.
-/
namespace TwoWaySql.Naming

/-! ## Keywords -/

/-- The keywords that have a meaning in the language. -/
def strictKeywords : List Text :=
  ["as", "async", "await", "break", "const", "continue", "crate", "dyn", "else", "enum", "extern",
    "false", "fn", "for", "if", "impl", "in", "let", "loop", "match", "mod", "move", "mut", "pub",
    "ref", "return", "self", "Self", "static", "struct", "super", "trait", "true", "type",
    "unsafe", "use", "where", "while"].map String.toList

/-- The keywords that have no meaning yet. -/
def futureKeywords : List Text :=
  ["abstract", "become", "box", "do", "final", "gen", "macro", "override", "priv", "try", "typeof",
    "unsized", "virtual", "yield"].map String.toList

/-- The words that are no identifiers as they stand. -/
def keywords : List Text := strictKeywords ++ futureKeywords

/-- The keywords that are no raw identifiers either. -/
def pathKeywords : List Text := ["crate", "self", "super", "Self"].map String.toList

/-- Whether a text is a name of a field: in small letters, and a keyword only as a raw identifier or
with an underscore behind it. -/
inductive IsFieldIdentifier : Text → Prop
  | plain {c : Char} {rest : Text} (hc : c.isLower = true)
      (hrest : ∀ d ∈ rest, d.isLower = true ∨ d.isDigit = true ∨ d = '_')
      (h : c :: rest ∉ keywords) : IsFieldIdentifier (c :: rest)
  | raw {word : Text} (h : word ∈ keywords) (hraw : word ∉ pathKeywords) :
      IsFieldIdentifier ("r#" ++ word)
  | path {t : Text} (h : t ∈ ["self_", "super_", "crate_"].map String.toList) : IsFieldIdentifier t

variable {c : Char} {name ident stem suffix rest : Text}

/-! ## Names of fields -/

/-- A name in snake case that is an identifier has small letters, digits and underscores, and
starts with a letter. -/
theorem exists_snake_eq_cons_of_isIdentifier (h : isIdentifier (snake name) = true) :
    ∃ c rest, snake name = c :: rest ∧ c.isLower = true ∧
      ∀ d ∈ rest, d.isLower = true ∨ d.isDigit = true ∨ d = '_' := by
  cases hsnake : snake name with
  | nil => simp [hsnake, isIdentifier] at h
  | cons c rest =>
      have hsmall : ∀ d ∈ c :: rest, d = '_' ∨ IsSmall d := by
        intro d hd
        exact eq_or_isSmall_of_mem_snake (hsnake ▸ hd)
      refine ⟨c, rest, rfl, ?_, fun d hd => ?_⟩
      · have hhead : c ≠ '_' := by
          rintro rfl
          exact (tight_snake name).head (by rw [hsnake, List.head?_cons])
        have hc := (hsmall c List.mem_cons_self).resolve_left hhead
        simp only [hsnake, isIdentifier, startsIdentifier, Bool.and_eq_true, Bool.or_eq_true,
          beq_iff_eq] at h
        simpa [isAlpha_eq, hc.isUpper] using h.1.resolve_right hhead
      · rcases hsmall d (List.mem_cons_of_mem c hd) with hunderscore | hlower | hdigit
        · exact .inr (.inr hunderscore)
        · exact .inl hlower
        · exact .inr (.inl hdigit)

/-- The escapes cover the keywords, and turn them into what is no keyword. -/
theorem mem_reservedWords_or_mem_pathWords :
    ∀ word ∈ keywords, word ∈ reservedWords ∨ word ∈ pathWords := by decide

theorem mem_keywords_of_mem_reservedWords :
    ∀ word ∈ reservedWords, word ∈ keywords ∧ word ∉ pathKeywords := by decide

theorem append_underscore_of_mem_pathWords :
    ∀ word ∈ pathWords, word.head?.any Char.isLower = true →
      word ++ "_" ∈ ["self_", "super_", "crate_"].map String.toList := by decide

/-- What a field is called is a name of a field. -/
theorem isFieldIdentifier_of_fieldIdentifier? (h : fieldIdentifier? name = some ident) :
    IsFieldIdentifier ident := by
  simp only [fieldIdentifier?] at h
  split at h
  · cases h
  · next hident =>
    obtain ⟨c, rest, hsnake, hc, hrest⟩ :=
      exists_snake_eq_cons_of_isIdentifier (by simpa using hident)
    split at h
    · next hpath =>
      cases h
      refine .path (append_underscore_of_mem_pathWords _ hpath ?_)
      simp [hsnake, hc]
    · next hpath =>
      split at h
      · next hreserved =>
        cases h
        obtain ⟨hkeyword, hraw⟩ := mem_keywords_of_mem_reservedWords _ hreserved
        exact .raw hkeyword hraw
      · next hreserved =>
        cases h
        have hkeyword : snake name ∉ keywords := fun hmem =>
          (mem_reservedWords_or_mem_pathWords _ hmem).elim hreserved hpath
        rw [hsnake] at hkeyword ⊢
        exact .plain hc hrest hkeyword

/-! ## Names of records and constants -/

/-- A name that starts with a letter or a digit starts with it in snake case. -/
theorem exists_snake_eq_cons (hc : c.isAlphanum = true) :
    ∃ rest', snake (c :: rest) = c.toLower :: rest' := by
  obtain ⟨t, ts, hruns⟩ := List.exists_cons_of_ne_nil (runs_ne_nil (some c) rest)
  have hwords : words (c :: rest) =
      (c.toLower :: t) :: ts.filter fun word => !word.isEmpty := by
    simp [words, runs, hc, startsWord, hruns, Text.extend]
  rw [snake, hwords]
  cases ts.filter fun word => !word.isEmpty with
  | nil => exact ⟨t, rfl⟩
  | cons next ws => exact ⟨_, rfl⟩

/-- The constant of a name that starts with a letter is an identifier. -/
theorem isIdentifier_constantName (hc : c.isAlpha = true) :
    isIdentifier (constantName (c :: rest)) = true := by
  have halphanum : c.isAlphanum = true := by simp [Char.isAlphanum, hc]
  obtain ⟨rest', hsnake⟩ := exists_snake_eq_cons halphanum
  have hrest : ∀ d ∈ rest', d.toUpper.isAlphanum = true ∨ d.toUpper = '_' := by
    intro d hd
    have hmem : d ∈ snake (c :: rest) := hsnake ▸ List.mem_cons_of_mem _ hd
    rcases eq_or_isAlphanum_of_mem_snake hmem with rfl | hd
    · exact .inr rfl
    · exact .inl ((isAlphanum_toUpper d).trans hd)
  have hfirst : startsIdentifier c.toLower.toUpper = true := by
    rw [startsIdentifier, isAlpha_toUpper, isAlpha_toLower, hc, Bool.true_or]
  have hname : constantName (c :: rest) =
      c.toLower.toUpper :: (rest'.map Char.toUpper ++ "_SQL") := by
    rw [constantName, hsnake]
    rfl
  rw [hname, isIdentifier, hfirst, Bool.true_and, List.all_append, Bool.and_eq_true]
  constructor
  · simpa [List.all_eq_true] using hrest
  · decide

/-- Only one keyword starts with a capital. -/
theorem eq_Self_of_mem_keywords :
    ∀ word ∈ keywords, word.head?.any Char.isUpper = true → word = "Self" := by decide

/-- **Names of records.** The name of a record is an identifier that starts with a capital, and so
is the name of its constant. It is no keyword unless the stem and the suffix make up `Self`; so it
is none if the suffix is no ending of that word. -/
theorem legal_of_recordName? (h : recordName? stem suffix = some name) :
    isIdentifier name = true ∧ (∃ c rest, name = c :: rest ∧ c.isUpper = true) ∧
      isIdentifier (constantName name) = true ∧ (name ∈ keywords ↔ name = "Self") ∧
      (¬ suffix <:+ "Self" → name ∉ keywords) := by
  obtain ⟨c, rest, hcamel, hc, hname⟩ := recordName?_eq_some h
  have hupper := isUpper_of_camel_eq_cons hcamel hc
  have hcons : name = c :: (rest ++ suffix) := by rw [hname, hcamel, List.cons_append]
  have hkeyword : name ∈ keywords ↔ name = "Self" := by
    constructor
    · intro hmem
      exact eq_Self_of_mem_keywords name hmem (by simp [hcons, hupper])
    · intro hself
      rw [hself]
      decide
  refine ⟨isIdentifier_of_recordName? h, ⟨c, rest ++ suffix, hcons, hupper⟩, ?_, hkeyword,
    fun hsuffix hmem => hsuffix ?_⟩
  · rw [hcons]
    exact isIdentifier_constantName hc
  · rw [← hkeyword.1 hmem, hname]
    exact List.suffix_append (camel stem) suffix

theorem legal_of_recordName?_users :
    recordName? "select_users" "QueryElem" = some "SelectUsersQueryElem" ∧
      "SelectUsersQueryElem".toList ∉ keywords ∧
      isIdentifier (constantName "SelectUsersQueryElem") = true := by
  have hname : recordName? "select_users" "QueryElem" = some "SelectUsersQueryElem" := by
    decide
  obtain ⟨-, -, hconstant, -, hkeyword⟩ := legal_of_recordName? hname
  exact ⟨hname, hkeyword (by decide), hconstant⟩

/-- Without a suffix a record can have a keyword for its name. -/
theorem recordName?_self : recordName? "self" "" = some "Self" ∧ "Self".toList ∈ keywords := by
  decide

end TwoWaySql.Naming
