import TwoWaySql.Proofs.FileSystem.Normal
import TwoWaySql.Proofs.FileSystem.Tree

/-!
# Parents of paths

The parent of a path is got by cutting its text. As a way through a tree it is the way of the path
without its end: the steps of the path are those of the parent and some more. So what a path leads
to stands below what its parent leads to, whatever dots and slashes are between them. The other way
round, a name behind the path of a directory leads to the entry of that name.
-/
namespace TwoWaySql.Tree

variable {tree : Tree} {place : Place} {p parent : Path} {t : Text}

/-- The step that a piece of a path stands for, if any. -/
def step? (piece : Text) : Option Component :=
  if piece = ['.'] then some .here else Component.ofPiece? piece

theorem steps_of_not_isAbsolute (h : p.isAbsolute = false) :
    steps p = p.pieces.filterMap step? := by
  rw [steps, h]
  rfl

/-- The steps of an absolute path. -/
theorem steps_slash (t : Text) :
    steps ⟨'/' :: t⟩ = .root :: (Text.splitOn '/' t).filterMap step? := rfl

/-- The steps of a relative path, given its pieces. -/
theorem steps_join {first : Text} {rest : List Text} (hne : first ≠ [])
    (h : ∀ piece ∈ first :: rest, '/' ∉ piece) :
    steps ⟨Text.join ['/'] (first :: rest)⟩ = (first :: rest).filterMap step? := by
  have hpieces : Path.pieces ⟨Text.join ['/'] (first :: rest)⟩ = first :: rest :=
    Text.splitOn_join (List.cons_ne_nil first rest) h
  obtain ⟨c, t, rfl⟩ := List.exists_cons_of_ne_nil hne
  have hc : c ≠ '/' := by
    rintro rfl
    exact h _ List.mem_cons_self List.mem_cons_self
  have hrelative : Path.isAbsolute ⟨Text.join ['/'] ((c :: t) :: rest)⟩ = false := by
    cases rest <;> simp [Path.isAbsolute, Text.join, hc]
  rw [steps_of_not_isAbsolute hrelative, hpieces]

/-- What is left when pieces that are no steps are dropped is the end of the pieces, and it starts
with a piece that is a step. -/
theorem exists_of_dropSilent {reversed before : List Text} {piece : Text}
    (h : Path.dropSilent reversed = piece :: before) :
    (∃ step, step? piece = some step) ∧ ∃ silent, reversed = silent ++ piece :: before := by
  constructor
  · have hhead := List.head?_dropWhile_not
      (fun piece => (Component.ofPiece? piece).isNone) reversed
    rw [Path.dropSilent] at h
    rw [h, List.head?_cons] at hhead
    have hdot : piece ≠ ['.'] := by
      rintro rfl
      cases hhead
    obtain ⟨step, hstep⟩ := Option.isSome_iff_exists.1 (Option.isNone_eq_false_iff.1 hhead)
    exact ⟨step, by rw [step?, if_neg hdot, hstep]⟩
  · exact ⟨_, by rw [← h, Path.dropSilent, List.takeWhile_append_dropWhile]⟩

/-- The steps of pieces go on from those of the pieces up to the last that counts. -/
theorem exists_filterMap_dropSilent (reversed : List Text) :
    ∃ more, reversed.reverse.filterMap step? =
      (Path.dropSilent reversed).reverse.filterMap step? ++ more := by
  refine ⟨(reversed.takeWhile fun piece => (Component.ofPiece? piece).isNone).reverse.filterMap
    step?, ?_⟩
  rw [← List.filterMap_append, ← List.reverse_append, Path.dropSilent,
    List.takeWhile_append_dropWhile]

/-- The pieces of joined pieces stand for the steps of the pieces. -/
theorem filterMap_splitOn_join {pieces : List Text} (h : ∀ piece ∈ pieces, '/' ∉ piece) :
    (Text.splitOn '/' (Text.join ['/'] pieces)).filterMap step? = pieces.filterMap step? := by
  cases pieces with
  | nil => rfl
  | cons piece pieces =>
      have hjoin := Text.splitOn_join (List.cons_ne_nil piece pieces) h
      exact congrArg (List.filterMap step?) hjoin

/-- Where the last piece that is a step is taken from pieces, the steps go on by it at least. -/
theorem exists_filterMap_of_dropSilent {pieces before : List Text} {piece : Text}
    (h : Path.dropSilent pieces.reverse = piece :: before) :
    ∃ more, more ≠ [] ∧ pieces.filterMap step? =
      (Path.dropSilent before).reverse.filterMap step? ++ more := by
  obtain ⟨⟨step, hstep⟩, silent, hreverse⟩ := exists_of_dropSilent h
  obtain ⟨more, hmore⟩ := exists_filterMap_dropSilent before
  have hpieces : pieces = before.reverse ++ piece :: silent.reverse := by
    rw [← List.reverse_reverse pieces, hreverse]
    simp
  refine ⟨more ++ step :: silent.reverse.filterMap step?, by simp, ?_⟩
  rw [hpieces, List.filterMap_append, hmore, List.filterMap_cons, hstep, List.append_assoc]

/-- The pieces that a parent is joined from are pieces of the path. -/
theorem mem_of_mem_dropSilent {pieces before : List Text} {piece q : Text}
    (h : Path.dropSilent pieces.reverse = piece :: before)
    (hq : q ∈ (Path.dropSilent before).reverse) : q ∈ pieces := by
  obtain ⟨-, silent, hreverse⟩ := exists_of_dropSilent h
  have hbefore : q ∈ before := List.dropWhile_sublist _ |>.subset (List.mem_reverse.1 hq)
  rw [← List.mem_reverse, hreverse]
  simp [hbefore]

/-- The steps of a path are those of its parent and some more. -/
theorem steps_of_parent? (h : p.parent? = some parent) :
    parent.text = [] ∨ ∃ more, more ≠ [] ∧ steps p = steps parent ++ more := by
  have hslash : ∀ piece ∈ p.pieces, '/' ∉ piece := fun _ => Text.not_mem_of_mem_splitOn
  have htext : Text.join ['/'] p.pieces = p.text := Text.join_splitOn '/' p.text
  rw [Path.parent?] at h
  split at h
  · next habsolute =>
    obtain ⟨_ | ⟨c, t⟩⟩ := p
    · cases habsolute
    obtain rfl : c = '/' := by simpa [Path.isAbsolute] using habsolute
    have hpieces : Path.pieces ⟨'/' :: t⟩ = [] :: Text.splitOn '/' t := rfl
    rw [hpieces] at hslash h
    split at h
    · cases h
    · next piece before hbefore =>
      cases h
      obtain ⟨more, hne, hmore⟩ := exists_filterMap_of_dropSilent hbefore
      have hmem : ∀ q ∈ (Path.dropSilent before).reverse, '/' ∉ q := fun q hq =>
        hslash q (List.mem_cons_of_mem _ (mem_of_mem_dropSilent hbefore hq))
      refine .inr ⟨more, hne, ?_⟩
      rw [NameUnit.slash_char, steps_slash, steps_slash, filterMap_splitOn_join hmem,
        List.cons_append]
      exact congrArg _ hmore
  · next hrelative =>
    split at h
    · cases h
    · next first rest hpieces =>
      rw [hpieces] at hslash htext
      split at h
      · split at h
        · cases h
        · cases h
          exact .inl rfl
      · next piece before hbefore =>
        cases h
        obtain ⟨more, hne, hmore⟩ := exists_filterMap_of_dropSilent hbefore
        have hfirst : first ≠ [] := by
          rintro rfl
          cases rest with
          | nil => cases hbefore
          | cons next rest => simp [Path.isAbsolute, ← htext, Text.join] at hrelative
        have hmem : ∀ q ∈ first :: (Path.dropSilent before).reverse, '/' ∉ q := by
          intro q hq
          rcases List.mem_cons.1 hq with rfl | hq
          · exact hslash q List.mem_cons_self
          · exact hslash q (List.mem_cons_of_mem _ (mem_of_mem_dropSilent hbefore hq))
        refine .inr ⟨more, hne, ?_⟩
        have hrelative : p.isAbsolute = false := by simpa using hrelative
        rw [NameUnit.slash_char, steps_join hfirst hmem, steps_of_not_isAbsolute hrelative,
          hpieces]
        cases hstep : step? first <;> simp [hstep, hmore]

/-- Where a path leads somewhere, its parent leads to a directory, unless it is empty. -/
theorem isDirectory_of_parent? (hparent : p.parent? = some parent)
    (hplace : tree.locate p = .ok place) :
    parent.text = [] ∨ tree.isDirectory parent = true := by
  by_cases htext : parent.text = []
  · exact .inl htext
  · obtain ⟨more, hne, hsteps⟩ := (steps_of_parent? hparent).resolve_left htext
    obtain ⟨step, more, rfl⟩ := List.exists_cons_of_ne_nil hne
    have hfollow := (locate_eq_ok_iff.1 hplace).2
    rw [hsteps, follow_append_eq_ok_iff] at hfollow
    obtain ⟨q, hq, hmore⟩ := hfollow
    have hdir := (follow_cons_eq_ok_iff.1 hmore).1
    refine .inr (isDirectory_iff.2 (lookup_eq_directory_iff.2 ⟨q, ?_, hdir⟩))
    exact locate_eq_ok_iff.2 ⟨htext, hq⟩

/-- Where a path leads somewhere, no directory is created for its parent. -/
theorem createDirectories_parent (hparent : p.parent? = some parent)
    (hplace : tree.locate p = .ok place) : tree.createDirectories parent = (tree, .ok ()) := by
  rcases isDirectory_of_parent? hparent hplace with htext | hdir
  · obtain ⟨parents, hparents⟩ := parent.exists_ancestors_eq_cons
    rw [createDirectories, hparents, createAll]
    simp [htext]
  · exact createDirectories_of_isDirectory hdir

/-! ## Entries of a directory -/

theorem steps_join_name (hp : p.text ≠ []) (ht : Path.IsName t) :
    steps (p.join ⟨t⟩) = steps p ++ [.name t] := by
  have hrelative := Path.isAbsolute_of_not_mem ht.notMem
  have hdot : t ≠ ['.'] := (Path.isName_iff.1 ht).2.2.1
  have hstep : step? t = some (.name t) := by rw [step?, if_neg hdot, ht.ofPiece?]
  have hpieces : (p.join ⟨t⟩).pieces.filterMap step? =
      p.pieces.filterMap step? ++ [.name t] := by
    rw [Path.filterMap_pieces_join rfl hrelative, Path.pieces_of_not_mem ht.notMem]
    simp [hstep]
  have hsteps : ∀ q : Path, steps q =
      if q.isAbsolute then .root :: q.pieces.filterMap step? else q.pieces.filterMap step? :=
    fun _ => rfl
  rw [hsteps, hsteps, Path.isAbsolute_join hp hrelative, hpieces]
  split <;> rfl

/-- A name behind the path of a directory leads to the entry of that name. -/
theorem locate_join_name (hplace : tree.locate p = .ok place)
    (hdir : tree.get? place = some .directory) (ht : Path.IsName t) :
    tree.locate (p.join ⟨t⟩) = .ok (place ++ [t]) := by
  obtain ⟨htext, hfollow⟩ := locate_eq_ok_iff.1 hplace
  rw [locate_eq_ok_iff, steps_join_name htext ht, follow_append_eq_ok_iff]
  refine ⟨Path.text_join_ne_nil htext, place, hfollow, ?_⟩
  exact follow_cons_eq_ok_iff.2 ⟨hdir, rfl⟩

theorem endsInSlash_join_name (ht : Path.IsName t) : endsInSlash (p.join ⟨t⟩) = false := by
  have htext : ∃ u, (p.join ⟨t⟩).text = u ++ t := by
    rw [Path.join, if_neg (by simp [Path.isAbsolute_of_not_mem ht.notMem])]
    split
    · exact ⟨p.text, rfl⟩
    · exact ⟨p.text ++ ['/'], by simp⟩
  obtain ⟨u, hu⟩ := htext
  rw [endsInSlash, hu, List.getLast?_append_of_ne_nil _ (Path.isName_iff.1 ht).2.1,
    beq_eq_false_iff_ne]
  exact fun hlast => ht.notMem (List.mem_of_getLast? hlast)

end TwoWaySql.Tree
