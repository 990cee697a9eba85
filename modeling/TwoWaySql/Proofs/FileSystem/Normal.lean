import TwoWaySql.FileSystem.Path
import TwoWaySql.Proofs.Text.Pieces

/-!
# Where paths come to

A path is made of turns: names, and steps to the parent. What its text has besides, repeated
slashes, dots and a slash at the end, makes no difference. Behind a directory a relative path adds
its turns to those of the directory. An absolute path comes to a row of names, and carrying out its
steps to the parent gives these names behind the root.

## Main definitions

* `Path.turns` — the names and the steps to the parent in a path.
* `Path.names` — the names that the turns come to, from the root.
-/
namespace TwoWaySql.Path

open NameUnit

variable {α : Type} {t : List α} {c : Component α}

/-! ## Rows of names -/

/-- The names behind one more turn. -/
def turn (names : List (List α)) : Component α → List (List α)
  | .up => names.dropLast
  | .name name => names ++ [name]
  | _ => names

/-- Steps back leave the names before. -/
theorem foldl_turn_replicate_up (n : Nat) (names : List (List α)) :
    (List.replicate n Component.up).foldl turn names = names.take (names.length - n) := by
  induction n generalizing names with
  | zero => simp
  | succ n ih =>
      rw [List.replicate_succ, List.foldl_cons, ih, turn, List.length_dropLast,
        List.dropLast_eq_take, List.take_take]
      congr 1
      omega

theorem foldl_turn_map_name (more names : List (List α)) :
    (more.map Component.name).foldl turn names = names ++ more := by
  induction more generalizing names with
  | nil => simp
  | cons name more ih => simp [turn, ih]

theorem mem_or_mem_of_mem_foldl_turn {steps : List (Component α)} {names : List (List α)}
    (h : t ∈ steps.foldl turn names) : t ∈ names ∨ .name t ∈ steps := by
  induction steps generalizing names with
  | nil => exact .inl h
  | cons c steps ih =>
      rcases ih h with hmem | hmem
      · cases c with
        | up => exact .inl (List.dropLast_subset names hmem)
        | name name =>
            rcases List.mem_append.1 hmem with hold | hnew
            · exact .inl hold
            · rw [List.mem_singleton.1 hnew]
              exact .inr List.mem_cons_self
        | root | here => exact .inl hmem
      · exact .inr (List.mem_cons_of_mem c hmem)

/-- Carrying out turns behind the root leaves the names that they come to. -/
theorem foldl_normalStep {steps : List (Component α)} (h : ∀ c ∈ steps, c ≠ .root)
    (names : List (List α)) :
    steps.foldl normalStep ((names.map Component.name).reverse ++ [.root]) =
      ((steps.foldl turn names).map Component.name).reverse ++ [.root] := by
  induction steps generalizing names with
  | nil => rfl
  | cons c steps ih =>
      have hrest := ih fun c' hc' => h c' (List.mem_cons_of_mem c hc')
      rw [List.foldl_cons, List.foldl_cons, ← hrest]
      congr 1
      cases c with
      | root => exact absurd rfl (h _ List.mem_cons_self)
      | here => rfl
      | name name => simp [normalStep, turn]
      | up =>
          rcases List.eq_nil_or_concat names with rfl | ⟨before, name, rfl⟩
          · rfl
          · simp [normalStep, turn]

variable [DecidableEq α] [NameUnit α] {p q cwd : Path α}

/-! ## Turns -/

/-- The names and the steps to the parent in a path. -/
def turns (p : Path α) : List (Component α) := p.pieces.filterMap Component.ofPiece?

/-- Whether units are a name that an entry of a directory can have. -/
structure IsName (t : List α) : Prop where
  /-- There is no slash in it. -/
  notMem : slash ∉ t
  /-- It is no step of another kind. -/
  ofPiece? : Component.ofPiece? t = some (.name t)

theorem isName_iff : IsName t ↔ slash ∉ t ∧ t ≠ [] ∧ t ≠ [dot] ∧ t ≠ [dot, dot] := by
  have hpiece : Component.ofPiece? t = some (.name t) ↔
      t ≠ [] ∧ t ≠ [dot] ∧ t ≠ [dot, dot] := by
    rw [Component.ofPiece?]
    by_cases hempty : t = [] ∨ t = [dot]
    · rcases hempty with rfl | rfl <;> simp
    · by_cases hup : t = [dot, dot]
      · simp [hup]
      · simp [hup, not_or.1 hempty]
  rw [← hpiece]
  exact ⟨fun h => ⟨h.notMem, h.ofPiece?⟩, fun h => ⟨h.1, h.2⟩⟩

instance (t : List α) : Decidable (IsName t) := decidable_of_iff _ isName_iff.symm

theorem pieces_append_slash (s t : List α) :
    pieces ⟨s ++ slash :: t⟩ = pieces ⟨s⟩ ++ pieces ⟨t⟩ := by
  rw [pieces, pieces, pieces, Text.splitOn_eq, Text.splitOn_eq, Text.splitOn_eq,
    List.splitOn_append_cons_self]

/-- Behind a directory a relative path adds its pieces, up to one that is empty. -/
theorem filterMap_pieces_join {β : Type} {f : List α → Option β} (hf : f [] = none)
    (hq : q.isAbsolute = false) :
    (p.join q).pieces.filterMap f = p.pieces.filterMap f ++ q.pieces.filterMap f := by
  have hempty : (pieces (⟨[]⟩ : Path α)).filterMap f = [] := by
    rw [pieces, Text.splitOn_eq, List.splitOn_nil]
    simp [hf]
  rw [join, if_neg (by simp [hq])]
  split
  · next hend =>
    rw [Bool.or_eq_true, List.isEmpty_iff, beq_iff_eq] at hend
    rcases hend with htext | hlast
    · obtain ⟨text⟩ := p
      obtain rfl : text = [] := htext
      rw [hempty, List.nil_append, List.nil_append]
    · obtain ⟨before, htext⟩ := List.getLast?_eq_some_iff.1 hlast
      obtain ⟨text⟩ := p
      obtain rfl : text = before ++ [slash] := htext
      rw [List.append_assoc, List.singleton_append, pieces_append_slash, pieces_append_slash,
        List.filterMap_append, List.filterMap_append, hempty, List.append_nil]
  · rw [pieces_append_slash, List.filterMap_append]

theorem turns_append_slash (s t : List α) :
    turns ⟨s ++ slash :: t⟩ = turns ⟨s⟩ ++ turns ⟨t⟩ := by
  rw [turns, pieces_append_slash, List.filterMap_append]
  rfl

@[simp] theorem turns_empty : turns (⟨[]⟩ : Path α) = [] := by
  simp [turns, pieces, Text.splitOn, Component.ofPiece?]

theorem turns_slash_cons (t : List α) : turns ⟨slash :: t⟩ = turns ⟨t⟩ := by
  have hturns := turns_append_slash [] t
  rwa [turns_empty, List.nil_append, List.nil_append] at hturns

theorem isAbsolute_slash_cons (t : List α) : isAbsolute ⟨slash :: t⟩ = true := by
  simp [isAbsolute]

/-- Units without slashes are one piece. -/
theorem pieces_of_not_mem (h : slash ∉ t) : pieces ⟨t⟩ = [t] := by
  rw [pieces, Text.splitOn_eq, List.splitOn_eq_singleton h]

/-- Units without slashes are one turn at most. -/
theorem turns_of_not_mem (h : slash ∉ t) : turns ⟨t⟩ = (Component.ofPiece? t).toList := by
  rw [turns, pieces_of_not_mem h]
  cases hpiece : Component.ofPiece? t <;> simp [hpiece]

/-- Units without slashes do not start at the root. -/
theorem isAbsolute_of_not_mem (h : slash ∉ t) : isAbsolute ⟨t⟩ = false := by
  rw [isAbsolute, beq_eq_false_iff_ne]
  exact fun hhead => h (List.mem_of_head? hhead)

/-- A turn is read back from its text, which does not start at the root. -/
theorem turns_text_of_mem (h : c ∈ turns p) :
    turns ⟨c.text⟩ = [c] ∧ isAbsolute ⟨c.text⟩ = false := by
  obtain ⟨piece, hpiece, hc⟩ := List.mem_filterMap.1 h
  have hslash : slash ∉ piece := Text.not_mem_of_mem_splitOn hpiece
  have htext : c.text = piece := by
    rw [Component.ofPiece?] at hc
    split at hc
    · cases hc
    · split at hc
      · next hup =>
        cases hc
        exact hup.symm
      · cases hc
        rfl
  rw [htext, turns_of_not_mem hslash, hc]
  exact ⟨rfl, isAbsolute_of_not_mem hslash⟩

/-- Behind a directory a relative path adds its turns. -/
theorem turns_join (hq : q.isAbsolute = false) : turns (p.join q) = turns p ++ turns q :=
  filterMap_pieces_join (if_pos (.inl rfl)) hq

theorem isAbsolute_join (hp : p.text ≠ []) (hq : q.isAbsolute = false) :
    (p.join q).isAbsolute = p.isAbsolute := by
  obtain ⟨c, rest, htext⟩ := List.exists_cons_of_ne_nil hp
  rw [join, if_neg (by simp [hq])]
  split <;> simp [isAbsolute, htext]

theorem text_join_ne_nil (hp : p.text ≠ []) : (p.join q).text ≠ [] := by
  rw [join]
  split
  · next hq =>
    intro hnil
    simp [isAbsolute, hnil] at hq
  · split <;> simp [hp]

theorem exists_text_of_isAbsolute (h : p.isAbsolute = true) : ∃ t, p.text = slash :: t := by
  rw [isAbsolute, beq_iff_eq] at h
  exact List.head?_eq_some_iff.1 h

/-! ## Names -/

/-- The names that a path comes to from the root. -/
def names (p : Path α) : List (List α) := (turns p).foldl turn []

/-- The names that a path comes to are names. -/
theorem isName_of_mem_names (h : t ∈ p.names) : IsName t := by
  have hturn : .name t ∈ turns p := (mem_or_mem_of_mem_foldl_turn h).resolve_left (by simp)
  obtain ⟨piece, hpiece, hname⟩ := List.mem_filterMap.1 hturn
  have htext : piece = t := by
    rw [Component.ofPiece?] at hname
    split at hname
    · cases hname
    · split at hname <;> cases hname
      rfl
  exact ⟨htext ▸ Text.not_mem_of_mem_splitOn hpiece, htext ▸ hname⟩

theorem ne_root_of_mem_turns (h : c ∈ turns p) : c ≠ .root := by
  rintro rfl
  obtain ⟨piece, -, hpiece⟩ := List.mem_filterMap.1 h
  rw [Component.ofPiece?] at hpiece
  split at hpiece
  · cases hpiece
  · split at hpiece <;> cases hpiece

/-- An absolute path comes to its names behind the root. -/
theorem normalize_of_isAbsolute (h : p.isAbsolute = true) :
    normalize p = .root :: p.names.map Component.name := by
  have hsteps : p.components = .root :: turns p := by
    rw [components, if_pos h]
    rfl
  have hfold := foldl_normalStep (fun _ => ne_root_of_mem_turns (p := p)) []
  rw [normalize, hsteps, List.foldl_cons]
  rw [List.map_nil, List.reverse_nil, List.nil_append] at hfold
  simp only [normalStep, hfold, List.reverse_append, List.reverse_reverse]
  rfl

/-- Two absolute paths are one when normalized exactly if they come to the same names. -/
theorem normalize_eq_iff (hp : p.isAbsolute = true) (hq : q.isAbsolute = true) :
    normalize p = normalize q ↔ p.names = q.names := by
  have hinj : Function.Injective (Component.name (α := α)) := fun _ _ h => Component.name.inj h
  rw [normalize_of_isAbsolute hp, normalize_of_isAbsolute hq, List.cons_inj_right,
    (List.map_injective_iff.2 hinj).eq_iff]

/-! ## Absolute paths -/

theorem foldl_push {steps : List (Component α)} (hp : p.text ≠ [])
    (h : ∀ c ∈ steps, turns ⟨c.text⟩ = [c] ∧ isAbsolute ⟨c.text⟩ = false) :
    (steps.foldl push p).isAbsolute = p.isAbsolute ∧
      turns (steps.foldl push p) = turns p ++ steps := by
  induction steps generalizing p with
  | nil => simp
  | cons c steps ih =>
      obtain ⟨hturns, hrelative⟩ := h c List.mem_cons_self
      have hpush : (p.push c).text ≠ [] := by
        rw [push, join, if_neg (by simp [hrelative])]
        split <;> simp [hp]
      obtain ⟨habsolute, hall⟩ := ih hpush fun c' hc' => h c' (List.mem_cons_of_mem c hc')
      rw [List.foldl_cons, habsolute, hall, push, isAbsolute_join hp hrelative,
        turns_join hrelative, hturns]
      simp

/-- A slash at the end of a path adds no turn. -/
theorem isAbsolute_and_turns_join_empty (h : p.isAbsolute = true) :
    (p.join empty).isAbsolute = true ∧ turns (p.join empty) = turns p := by
  obtain ⟨t, htext⟩ := exists_text_of_isAbsolute h
  have hp : p.text ≠ [] := by simp [htext]
  rw [isAbsolute_join hp rfl, turns_join rfl]
  exact ⟨h, List.append_nil _⟩

/-- A path that does not start at the root is its turns, behind a step that stays if it starts with
a dot. -/
theorem components_of_not_isAbsolute (h : p.isAbsolute = false) :
    p.components = .here :: turns p ∨ p.components = turns p ∧ .here ∉ turns p := by
  have hhere : .here ∉ turns p := by
    intro hmem
    obtain ⟨piece, -, hpiece⟩ := List.mem_filterMap.1 hmem
    rw [Component.ofPiece?] at hpiece
    split at hpiece
    · cases hpiece
    · split at hpiece <;> cases hpiece
  rw [components, if_neg (by simp [h])]
  split
  · exact .inl rfl
  · exact .inr ⟨rfl, hhere⟩

/-- The path seen from the root has the turns of the current directory in front of its own, unless
it starts at the root itself. -/
theorem exists_absolute? (hcwd : cwd.isAbsolute = true) (hp : p.text ≠ []) :
    ∃ whole, absolute? cwd p = some whole ∧ whole.isAbsolute = true ∧
      turns whole = (if p.isAbsolute then [] else turns cwd) ++ turns p := by
  have hread : ∀ c ∈ turns p, turns ⟨c.text⟩ = [c] ∧ isAbsolute ⟨c.text⟩ = false :=
    fun c hc => turns_text_of_mem hc
  -- a slash at the end is put there again, which changes nothing
  suffices h : ∃ whole, (whole.isAbsolute = true ∧
      turns whole = (if p.isAbsolute then [] else turns cwd) ++ turns p) ∧
      absolute? cwd p =
        some (if p.text.getLast? = some slash then whole.join empty else whole) by
    obtain ⟨whole, ⟨habsolute, hturns⟩, heq⟩ := h
    rw [heq]
    split
    · obtain ⟨habsolute', hturns'⟩ := isAbsolute_and_turns_join_empty habsolute
      exact ⟨_, rfl, habsolute', hturns'.trans hturns⟩
    · exact ⟨_, rfl, habsolute, hturns⟩
  simp only [absolute?, List.isEmpty_iff, hp, if_false, Option.some.injEq]
  refine ⟨_, ?_, rfl⟩
  cases habsolute : p.isAbsolute with
  | true =>
      have hsteps : p.components = .root :: turns p := by
        rw [components, if_pos habsolute]
        rfl
      have hroot : (empty : Path α).push .root = ⟨[slash]⟩ :=
        if_pos (isAbsolute_slash_cons [])
      have hone := foldl_push (p := ⟨[slash]⟩) (by simp) hread
      have htwo := foldl_push (p := ⟨[slash, slash]⟩) (by simp) hread
      rw [isAbsolute_slash_cons, turns_slash_cons, turns_empty] at hone
      rw [isAbsolute_slash_cons, turns_slash_cons, turns_slash_cons, turns_empty] at htwo
      simp only [hsteps, List.tail_cons, List.foldl_cons, if_true, hroot]
      split
      · exact htwo
      · exact hone
  | false =>
      obtain ⟨t, htext⟩ := exists_text_of_isAbsolute hcwd
      have hpushed := foldl_push (p := cwd) (by simp [htext]) hread
      rw [hcwd] at hpushed
      split
      · next hslashes =>
        -- two slashes at the start are a start at the root
        rw [isAbsolute, beq_eq_false_iff_ne] at habsolute
        have hhead := congrArg List.head? hslashes.1
        exact absurd (by simpa [List.head?_take] using hhead) habsolute
      · rcases components_of_not_isAbsolute habsolute with hsteps | ⟨hsteps, hhere⟩
        · simpa [hsteps] using hpushed
        · simp only [hsteps, Bool.false_eq_true, if_false]
          split
          · next hturns => simp [hturns] at hhere
          · exact hpushed

end TwoWaySql.Path
