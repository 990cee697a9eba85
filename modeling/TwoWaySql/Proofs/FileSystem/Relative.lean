import TwoWaySql.Proofs.FileSystem.Normal

/-!
# Ways between directories

The way from a directory to another leads up to the last directory that both come through, and down
from there by the names of the other, as they are shown. Read again behind the first directory, it
comes to the second one exactly if the names that it goes down by are texts; no way does that with
fewer steps up. So a generated file finds its templates by the way from its own directory to theirs,
wherever both are, as long as the names on that way are texts.

## Main definitions

* `Path.ofText` — the path that a text is read as.
* `Path.way` — steps to the parent and names behind them, as they are written.
-/
namespace TwoWaySql.Path

open NameUnit

variable {α : Type} [DecidableEq α]

/-! ## What two paths share -/

/-- What is shared at the start is the same in both. -/
theorem take_commonLength (a b : List (List α)) :
    a.take (commonLength (a.map .name) (b.map .name)) =
      b.take (commonLength (a.map .name) (b.map .name)) := by
  induction a generalizing b with
  | nil => simp [commonLength]
  | cons x a ih =>
      cases b with
      | nil => simp [commonLength]
      | cons y b =>
          by_cases hxy : x = y
          · simp [commonLength, hxy, ih]
          · simp [commonLength, hxy]

/-- Nothing longer is shared at the start. -/
theorem length_le_commonLength {c a b : List (List α)} (ha : c <+: a) (hb : c <+: b) :
    c.length ≤ commonLength (a.map .name) (b.map .name) := by
  induction c generalizing a b with
  | nil => exact Nat.zero_le _
  | cons x c ih =>
      obtain ⟨a', rfl⟩ := ha
      obtain ⟨b', rfl⟩ := hb
      have hrest := ih (List.prefix_append c a') (List.prefix_append c b')
      simpa [commonLength] using hrest

variable [NameUnit α] {p source target cwd dir output parent : Path α}
  {t : List α} {name : Text} {names : List Text} {ups : Nat}

/-! ## Paths that are texts -/

/-- The path that a text is read as. -/
def ofText (t : Text) : Path α := ⟨NameUnit.ofText t⟩

theorem IsName.ofText (h : IsName name) : IsName (NameUnit.ofText name : List α) := by
  obtain ⟨hslash, hne, hdot, hup⟩ := isName_iff.1 h
  rw [isName_iff, ← ofText_dots, ← ofText_dot]
  exact ⟨fun hmem => hslash (slash_mem_ofText hmem), fun heq => hne (ofText_injective heq),
    fun heq => hdot (ofText_injective heq), fun heq => hup (ofText_injective heq)⟩

/-- A name is shown as a name. -/
theorem IsName.shown (h : IsName t) : IsName (shown t) := by
  obtain ⟨hslash, hne, hdot, hup⟩ := isName_iff.1 h
  refine isName_iff.2 ⟨fun hmem => hslash (slash_mem_of_shown t hmem), fun heq => hne ?_,
    fun heq => hdot ?_, fun heq => hup ?_⟩
  · exact eq_ofText_of_shown heq (by decide)
  · exact (eq_ofText_of_shown heq (by decide)).trans ofText_dot
  · exact (eq_ofText_of_shown heq (by decide)).trans ofText_dots

/-- A text is read as a path from the root if it starts with a slash. -/
theorem isAbsolute_ofText (t : Text) : (ofText t : Path α).isAbsolute = isAbsolute ⟨t⟩ := by
  cases t with
  | nil => rfl
  | cons c t =>
      by_cases hc : c = '/'
      · rw [ofText, hc, ofText_slash_cons, isAbsolute_slash_cons]
        rfl
      · obtain ⟨u, us, hcons⟩ : ∃ u us, (encode c : List α) = u :: us := by
          refine List.exists_cons_of_ne_nil fun hnil => List.cons_ne_nil c [] ?_
          exact ofText_injective (α := α) (by simp [NameUnit.ofText, hnil])
        have hu : u ≠ slash := by
          rintro rfl
          exact hc (eq_of_slash_mem c (hcons ▸ List.mem_cons_self))
        simp [ofText, NameUnit.ofText, isAbsolute, hcons, hu, hc]

/-! ## Ways -/

/-- Steps to the parent and then names, each with a slash behind it. -/
def way (ups : Nat) (names : List Text) : Text :=
  (List.replicate ups ("../" : Text)).flatten ++ names.flatMap fun t => t ++ ['/']

theorem way_succ (ups : Nat) (names : List Text) :
    way (ups + 1) names = ['.', '.'] ++ '/' :: way ups names := rfl

theorem way_zero_cons (t : Text) (names : List Text) :
    way 0 (t :: names) = t ++ '/' :: way 0 names := by
  simp [way]

theorem way_append_singleton (ups : Nat) (names : List Text) (t : Text) :
    way ups (names ++ [t]) = way ups names ++ t ++ ['/'] := by
  simp [way]

theorem turns_ofText_append_slash (s t : Text) :
    turns (ofText (s ++ '/' :: t) : Path α) = turns (ofText s) ++ turns (ofText t) := by
  rw [ofText, ofText_append, ofText_slash_cons, turns_append_slash]
  rfl

/-- A way is read back as the steps and the names that it is written from. -/
theorem turns_way (h : ∀ t ∈ names, IsName t) : turns (ofText (way ups names) : Path α) =
    List.replicate ups .up ++ (names.map NameUnit.ofText).map .name := by
  induction ups with
  | zero =>
      induction names with
      | nil => exact turns_empty
      | cons t names ih =>
          have ht : IsName (NameUnit.ofText t : List α) := (h t List.mem_cons_self).ofText
          have hrest := ih fun t' ht' => h t' (List.mem_cons_of_mem t ht')
          rw [way_zero_cons, turns_ofText_append_slash, hrest, ofText, turns_of_not_mem ht.notMem,
            ht.ofPiece?]
          rfl
  | succ ups ih =>
      have hup : turns (ofText ['.', '.'] : Path α) = [.up] := by
        rw [ofText, ofText_dots, turns_of_not_mem (by simp [slash_ne_dot])]
        simp [Component.ofPiece?]
      rw [way_succ, turns_ofText_append_slash, ih, hup]
      rfl

theorem isAbsolute_way (ups : Nat) (h : ∀ t ∈ names, IsName t) :
    (ofText (way ups names) : Path α).isAbsolute = false := by
  rw [isAbsolute_ofText]
  cases ups with
  | succ ups => rfl
  | zero =>
      cases names with
      | nil => rfl
      | cons t names =>
          obtain ⟨hslash, hne, -⟩ := isName_iff.1 (h t List.mem_cons_self)
          obtain ⟨c, rest, rfl⟩ := List.exists_cons_of_ne_nil hne
          have hc : c ≠ '/' := by
            rintro rfl
            exact hslash List.mem_cons_self
          simp [way_zero_cons, isAbsolute, hc]

/-- Behind a directory, a way leaves the names that its steps do not undo and adds its own. -/
theorem names_join_way (p : Path α) (ups : Nat) (h : ∀ t ∈ names, IsName t) :
    (p.join (ofText (way ups names))).names =
      p.names.take (p.names.length - ups) ++ names.map NameUnit.ofText := by
  have hjoin := turns_join (p := p) (isAbsolute_way ups h)
  rw [Path.names, hjoin, turns_way h, List.foldl_append, List.foldl_append,
    foldl_turn_replicate_up, foldl_turn_map_name]
  rfl

theorem IsName.append_singleton (h : ∀ t ∈ names, IsName t) (ht : IsName name) :
    ∀ t ∈ names ++ [name], IsName t := by
  intro t hmem
  rcases List.mem_append.1 hmem with hmem | hmem
  · exact h t hmem
  · rwa [List.mem_singleton.1 hmem]

theorem isAbsolute_way_append (ups : Nat) (h : ∀ t ∈ names, IsName t) (ht : IsName name) :
    (ofText (way ups names ++ name) : Path α).isAbsolute = false := by
  have hne : way ups names ++ name ≠ [] := fun hnil =>
    (isName_iff.1 ht).2.1 (List.append_eq_nil_iff.1 hnil).2
  obtain ⟨c, rest, hcons⟩ := List.exists_cons_of_ne_nil hne
  have hway := isAbsolute_way (α := α) ups (IsName.append_singleton h ht)
  rw [isAbsolute_ofText, way_append_singleton, hcons] at hway
  rw [isAbsolute_ofText, hcons]
  exact hway

/-- The name of a file behind a way is one more name of the way. -/
theorem names_join_way_append (h : ∀ t ∈ names, IsName t) (ht : IsName name) :
    (p.join (ofText (way ups names ++ name))).names =
      p.names.take (p.names.length - ups) ++ (names ++ [name]).map NameUnit.ofText := by
  have hall := IsName.append_singleton h ht
  have hturns : turns (ofText (way ups (names ++ [name])) : Path α) =
      turns (ofText (way ups names ++ name)) := by
    rw [way_append_singleton, turns_ofText_append_slash]
    exact (congrArg _ turns_empty).trans (List.append_nil _)
  rw [← names_join_way p ups hall, Path.names, Path.names,
    turns_join (isAbsolute_way_append ups h ht), turns_join (isAbsolute_way ups hall), hturns]

/-! ## Where ways lead -/

/-- Between absolute paths the way leads up from the names that are not shared, and down by those
of the target, as they are shown. -/
theorem exists_relative?_eq (hsource : source.isAbsolute = true)
    (htarget : target.isAbsolute = true) :
    ∃ ups ts, relative? source target = some (way ups (ts.map shown)) ∧
      source.names.take (source.names.length - ups) ++ ts = target.names ∧
      ∀ c, c <+: source.names → c <+: target.names → c.length + ups ≤ source.names.length := by
  let shared := commonLength (source.names.map .name) (target.names.map .name)
  have htake : source.names.take shared = target.names.take shared := take_commonLength _ _
  refine ⟨source.names.length - shared, target.names.drop shared, ?_, ?_, fun c hc hc' => ?_⟩
  · rw [relative?, normalize_of_isAbsolute hsource, normalize_of_isAbsolute htarget]
    simp only [commonLength, if_true, Nat.add_eq_zero_iff, Nat.one_ne_zero, and_false, if_false,
      List.length_cons, List.length_map, List.drop_succ_cons, Nat.add_sub_add_right, way,
      ← List.map_drop, List.flatMap_map]
    rfl
  · have hmin : source.names.length - (source.names.length - shared) =
        min shared source.names.length := by omega
    rw [hmin, ← List.take_eq_take_min, htake, List.take_append_drop]
  · have hshared : c.length ≤ shared := length_le_commonLength hc hc'
    have hlength := hc.length_le
    omega

theorem isAbsolute_join_of_isAbsolute {q : Path α} (hp : p.isAbsolute = true)
    (hq : q.isAbsolute = false) : (p.join q).isAbsolute = true := by
  obtain ⟨t, htext⟩ := exists_text_of_isAbsolute hp
  rw [isAbsolute_join (by simp [htext]) hq, hp]

/-- A way comes to a target exactly if it leaves a start of the target's names and adds the rest. -/
theorem normalize_join_way_iff (hsource : source.isAbsolute = true)
    (htarget : target.isAbsolute = true) (h : ∀ t ∈ names, IsName t) :
    normalize (source.join (ofText (way ups names))) = normalize target ↔
      source.names.take (source.names.length - ups) ++ names.map NameUnit.ofText =
        target.names := by
  rw [normalize_eq_iff (isAbsolute_join_of_isAbsolute hsource (isAbsolute_way ups h)) htarget,
    names_join_way source ups h]

theorem isName_of_mem_map_shown {ts : List (List α)} (h : ts <:+ p.names) :
    ∀ t ∈ ts.map shown, IsName t := by
  intro t ht
  obtain ⟨u, hu, rfl⟩ := List.mem_map.1 ht
  exact (isName_of_mem_names (h.subset hu)).shown

/-- Between absolute paths there is a way. It comes to the target exactly if the names that it goes
down by are texts, and no way with fewer steps up comes there. -/
theorem exists_way (hsource : source.isAbsolute = true) (htarget : target.isAbsolute = true) :
    ∃ ups ts, ts <:+ target.names ∧ (∀ t ∈ ts.map shown, IsName t) ∧
      relative? source target = some (way ups (ts.map shown)) ∧
      (normalize (source.join (ofText (way ups (ts.map shown)))) = normalize target ↔
        ∀ t ∈ ts, IsText t) ∧
      ∀ ups' names', (∀ t ∈ names', IsName t) →
        normalize (source.join (ofText (way ups' names'))) = normalize target → ups ≤ ups' := by
  obtain ⟨ups, ts, hrelative, htarget', hlongest⟩ := exists_relative?_eq hsource htarget
  have hsuffix : ts <:+ target.names := ⟨_, htarget'⟩
  have hnames := isName_of_mem_map_shown hsuffix
  refine ⟨ups, ts, hsuffix, hnames, hrelative, ?_, fun ups' names' hnames' hnormal => ?_⟩
  · rw [normalize_join_way_iff hsource htarget hnames, ← htarget', List.append_right_inj,
      map_ofText_shown_iff]
  · -- what the other way leaves of the source's names is shared
    rw [normalize_join_way_iff hsource htarget hnames'] at hnormal
    have hlength := hlongest _ (List.take_prefix _ source.names) ⟨_, hnormal⟩
    have hups := hlongest [] List.nil_prefix List.nil_prefix
    rw [List.length_take] at hlength
    rw [List.length_nil] at hups
    omega

/-- The name of a template behind the prefix of the templates leads from the directory of the
generated file to the template exactly if that name and the names that the prefix goes down by are
texts. -/
theorem exists_normalize_join_templatePrefix (hcwd : cwd.isAbsolute = true)
    (hdir : dir.text ≠ []) (hparent : output.parent? = some parent) (hne : parent.text ≠ [])
    (ht : IsName t) :
    ∃ outputDir templateDir template ups ts, absolute? cwd parent = some outputDir ∧
      absolute? cwd dir = some templateDir ∧ absolute? cwd (dir.join ⟨t⟩) = some template ∧
      ts <:+ templateDir.names ∧ templatePrefix cwd dir output = way ups (ts.map shown) ∧
      (normalize (outputDir.join (ofText (templatePrefix cwd dir output ++ shown t))) =
        normalize template ↔ ∀ u ∈ ts ++ [t], IsText u) := by
  obtain ⟨outputDir, houtputDir, hsource, -⟩ := exists_absolute? hcwd hne
  obtain ⟨templateDir, htemplateDir, htarget, hturns⟩ := exists_absolute? hcwd hdir
  obtain ⟨ups, ts, hrelative, hnames, -⟩ := exists_relative?_eq hsource htarget
  have hway : templatePrefix cwd dir output = way ups (ts.map shown) := by
    simp [templatePrefix, hparent, houtputDir, htemplateDir, hrelative]
  have hsuffix : ts <:+ templateDir.names := ⟨_, hnames⟩
  have htext := isAbsolute_of_not_mem ht.notMem
  have hjoined : (dir.join ⟨t⟩).text ≠ [] := text_join_ne_nil hdir
  obtain ⟨template, htemplate, habsolute, hturns'⟩ := exists_absolute? hcwd hjoined
  -- the template has the names of the template directory and its own
  have hnames' : template.names = templateDir.names ++ [t] := by
    rw [Path.names, Path.names, hturns', hturns, isAbsolute_join hdir htext, turns_join htext,
      turns_of_not_mem ht.notMem, ht.ofPiece?, ← List.append_assoc, List.foldl_append]
    rfl
  have hdown := isName_of_mem_map_shown hsuffix
  have hin := isAbsolute_join_of_isAbsolute hsource (isAbsolute_way_append ups hdown ht.shown)
  refine ⟨outputDir, templateDir, template, ups, ts, houtputDir, htemplateDir, htemplate, hsuffix,
    hway, ?_⟩
  rw [hway, normalize_eq_iff hin habsolute, names_join_way_append hdown ht.shown, hnames',
    ← hnames, List.append_assoc, List.append_right_inj, ← map_ofText_shown_iff]
  simp only [List.map_append, List.map_cons, List.map_nil]

/-- **Ways lead where they are to lead, if the names on them are texts.** Between absolute paths,
whatever dots and steps to the parent are in them, the relative way is made of steps to the parent
and of names, which are the last ones of the second path as they are shown. Behind the first path it
comes to the second exactly if these names are texts, and no way with fewer steps to the parent
does. So what is written into a generated file for a template, the prefix of the templates and the
name of the template, comes to the template from the directory of the generated file exactly if the
names on the way down are texts. -/
theorem relative?_and_templatePrefix :
    (∀ source target : Path α, source.isAbsolute = true → target.isAbsolute = true →
      ∃ ups ts, ts <:+ target.names ∧ (∀ t ∈ ts.map shown, IsName t) ∧
        relative? source target = some (way ups (ts.map shown)) ∧
        (normalize (source.join (ofText (way ups (ts.map shown)))) = normalize target ↔
          ∀ t ∈ ts, IsText t) ∧
        ∀ ups' names', (∀ t ∈ names', IsName t) →
          normalize (source.join (ofText (way ups' names'))) = normalize target → ups ≤ ups') ∧
    ∀ (cwd dir output parent : Path α) (t : List α), cwd.isAbsolute = true → dir.text ≠ [] →
      output.parent? = some parent → parent.text ≠ [] → IsName t →
        ∃ outputDir templateDir template ups ts, absolute? cwd parent = some outputDir ∧
          absolute? cwd dir = some templateDir ∧ absolute? cwd (dir.join ⟨t⟩) = some template ∧
          ts <:+ templateDir.names ∧ templatePrefix cwd dir output = way ups (ts.map shown) ∧
          (normalize (outputDir.join (ofText (templatePrefix cwd dir output ++ shown t))) =
            normalize template ↔ ∀ u ∈ ts ++ [t], IsText u) :=
  ⟨fun _ _ => exists_way, fun _ _ _ _ _ => exists_normalize_join_templatePrefix⟩

/-- Templates and generated file in different directories next to the current one. -/
theorem relative?_and_templatePrefix_beside :
    isAbsolute (ofText "/../src/./gen" : Path UInt8) = true ∧
      isAbsolute (ofText "/queries/x/.." : Path UInt8) = true ∧
      (∃ (ups : Nat) (ts : List (List UInt8)), (∀ t ∈ ts.map shown, IsName t) ∧
        relative? (ofText "/../src/./gen") (ofText "/queries/x/.." : Path UInt8) =
          some (way ups (ts.map shown)) ∧
        normalize ((ofText "/../src/./gen").join (ofText (way ups (ts.map shown)))) =
          normalize (ofText "/queries/x/.." : Path UInt8)) ∧
      parent? (ofText "../src/./gen/out.rs" : Path UInt8) = some (ofText "../src/./gen") ∧
      IsName (NameUnit.ofText "find.sql" : List UInt8) ∧
      templatePrefix (ofText "/home/u" : Path UInt8) (ofText "../queries/x/..")
        (ofText "../src/./gen/out.rs") = "../../queries/" ∧
      ∃ outputDir template : Path UInt8,
        absolute? (ofText "/home/u") (ofText "../src/./gen") = some outputDir ∧
        absolute? (ofText "/home/u") ((ofText "../queries/x/..").join
          ⟨NameUnit.ofText "find.sql"⟩) = some template ∧
        normalize (outputDir.join (ofText (templatePrefix (ofText "/home/u" : Path UInt8)
          (ofText "../queries/x/..") (ofText "../src/./gen/out.rs") ++
            shown (NameUnit.ofText "find.sql" : List UInt8)))) = normalize template := by
  have hparent : parent? (ofText "../src/./gen/out.rs" : Path UInt8) =
    some (ofText "../src/./gen") := by decide
  have hdir : absolute? (ofText "/home/u") (ofText "../queries/x/..") =
    some (ofText "/home/u/../queries/x/.." : Path UInt8) := by decide
  have htexts : ∀ u ∈ (ofText "/queries/x/.." : Path UInt8).names, IsText u := by decide
  have htexts' : ∀ u ∈ (ofText "/home/u/../queries/x/.." : Path UInt8).names ++
    [NameUnit.ofText "find.sql"], IsText u := by decide
  obtain ⟨ups, ts, hsuffix, hnames, hrelative, hnormal, -⟩ :=
    (relative?_and_templatePrefix (α := UInt8)).1 (ofText "/../src/./gen") (ofText "/queries/x/..")
      (by decide) (by decide)
  obtain ⟨outputDir, templateDir, template, ups', ts', houtputDir, htemplateDir, htemplate,
    hsuffix', -, hnormal'⟩ :=
    (relative?_and_templatePrefix (α := UInt8)).2 (ofText "/home/u") (ofText "../queries/x/..")
      (ofText "../src/./gen/out.rs") (ofText "../src/./gen") (NameUnit.ofText "find.sql")
      (by decide) (by decide) hparent (by decide) (by decide)
  obtain rfl : ofText "/home/u/../queries/x/.." = templateDir :=
    Option.some.inj (hdir.symm.trans htemplateDir)
  refine ⟨by decide, by decide, ⟨ups, ts, hnames, hrelative, hnormal.2 fun t ht =>
    htexts t (hsuffix.subset ht)⟩, hparent, by decide, by decide, outputDir, template, houtputDir,
    htemplate, hnormal'.2 fun u hu => htexts' u ?_⟩
  exact List.mem_append.2 ((List.mem_append.1 hu).imp_left fun hmem => hsuffix'.subset hmem)

/-- The way to a directory whose name is not a text leads to another directory. -/
theorem relative?_not_text :
    isAbsolute (ofText "/d/out" : Path UInt8) = true ∧
      isAbsolute (⟨Text.utf8 "/d/q" ++ [0xFF]⟩ : Path UInt8) = true ∧
      relative? (ofText "/d/out") (⟨Text.utf8 "/d/q" ++ [0xFF]⟩ : Path UInt8) =
        some "../q\uFFFD/" ∧
      normalize ((ofText "/d/out").join (ofText "../q\uFFFD/")) ≠
        normalize (⟨Text.utf8 "/d/q" ++ [0xFF]⟩ : Path UInt8) := by
  decide

end TwoWaySql.Path
