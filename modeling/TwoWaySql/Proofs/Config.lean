import TwoWaySql.Config
import TwoWaySql.Proofs.FileSystem.Change
import TwoWaySql.Proofs.FileSystem.Parent

/-!
# Where a configuration comes from

A configuration is read from one file, and which one it is depends on the tree only by whether the
file in the template directory is there. So what changes at another place makes no difference. Where
a text that starts with a slash is put in its place, as the comment of a generated file does, there is
no configuration any more.
-/
namespace TwoWaySql

namespace Toml

/-- A slash is no start of a key. -/
theorem readPath_slash (rest : Text) : readPath ('/' :: rest) = none := rfl

/-- No document starts with a slash. -/
theorem read?_slash (rest : Text) : read? ('/' :: rest) = none := by
  have hlines : readLines (('/' :: rest).length + 1) ('/' :: rest) = none := by
    simp [readLines, skipSpaces, isSpace, readEntry, readPath_slash]
  change (readLines (('/' :: rest).length + 1) ('/' :: rest) >>= _) = none
  rw [hlines]
  rfl

end Toml

namespace Config

variable {tree tree' : Tree} {place : Place} {p dir : Path} {config : Config} {t : Text}
  {P : Place → Prop}

theorem ofText_slash (rest : Text) : ofText ('/' :: rest) = .error .malformed := by
  rw [ofText, Toml.read?_slash]
  rfl

theorem ofFile_eq_ok_iff : ofFile tree p = .ok config ↔ ∃ t read,
    tree.readText p = .ok t ∧ ofText t = .ok read ∧
      { read with root := p.parent?.getD .empty } = config := by
  rw [ofFile]
  cases tree.readText p with
  | error e => simp
  | ok t => simp [Outcome.bind_eq_ok]

/-- A configuration that is read from a place that is spared stays as it is. -/
theorem ofFile_of_spares (h : Tree.Spares P tree tree')
    (hplace : ∀ place, tree.locate p = .ok place → ¬P place)
    (hconfig : ofFile tree p = .ok config) : ofFile tree' p = .ok config := by
  obtain ⟨t, read, hread, hconfig⟩ := ofFile_eq_ok_iff.1 hconfig
  refine ofFile_eq_ok_iff.2 ⟨t, read, ?_, hconfig⟩
  have hthere : ∀ entry, entry ≠ .directory → tree.lookup p = .ok entry →
      tree'.lookup p = .ok entry := by
    intro entry hentry hlookup
    obtain ⟨place, hlocate, -⟩ := (Tree.lookup_eq_ok_iff hentry).1 hlookup
    exact (h.lookup_eq_ok_iff hlocate (hplace place hlocate) hentry).2 hlookup
  rw [Tree.readText_eq_ok_iff] at hread ⊢
  exact hread.imp (hthere _ (by simp)) (And.imp_left (hthere _ (by simp)))

/-- Where a text with a slash at its start was put, there is no configuration. -/
theorem ofFile_ne_ok_of_puts (h : Tree.Puts place (.text ('/' :: t)) tree tree')
    (hplace : tree.locate p = .ok place) : ofFile tree' p ≠ .ok config := by
  intro hconfig
  obtain ⟨t', read, hthere, hread, -⟩ := ofFile_eq_ok_iff.1 hconfig
  -- whatever is read there is what was put
  have hget : ∀ entry, entry ≠ .directory → tree'.lookup p = .ok entry →
      .file (.text ('/' :: t)) = entry := by
    intro entry hentry hlookup
    obtain ⟨q, hq, hq', -⟩ := (Tree.lookup_eq_ok_iff hentry).1 hlookup
    obtain rfl : place = q := Except.ok.inj ((h.toKeeps.locate hplace).symm.trans hq)
    exact Option.some.inj (h.file.symm.trans hq')
  rcases Tree.readText_eq_ok_iff.1 hthere with hfile | ⟨hsink, -⟩
  · cases hget _ (by simp) hfile
    rw [ofText_slash] at hread
    cases hread
  · cases hget _ (by simp) hsink

/-- A configuration of a directory stays as it is if the place where it is looked for is spared. -/
theorem ofDirectory_of_spares (h : Tree.Spares P tree tree') (hdir : tree.isDirectory dir = true)
    (hplace : ∀ place, tree.locate (dir.join fileName) = .ok place → ¬P place)
    (hconfig : ofDirectory tree dir = .ok config) : ofDirectory tree' dir = .ok config := by
  obtain ⟨d, hd, hdirectory⟩ := Tree.lookup_eq_directory_iff.1 (Tree.isDirectory_iff.1 hdir)
  have hlocate := Tree.locate_join_name hd hdirectory (t := fileName.text) (by decide)
  have hfile : tree'.isFile (dir.join fileName) = tree.isFile (dir.join fileName) := by
    rw [Bool.eq_iff_iff, Tree.isFile_iff, Tree.isFile_iff]
    exact exists_congr fun c' => h.lookup_eq_ok_iff hlocate (hplace _ hlocate) (by simp)
  rw [ofDirectory] at hconfig ⊢
  rw [hfile]
  split at hconfig
  · next hthere => rw [if_pos hthere, ofFile_of_spares h hplace hconfig]
  · next habsent => rw [if_neg habsent, hconfig]

/-- Where a text with a slash at its start was put, the directory has no configuration. -/
theorem ofDirectory_ne_ok_of_puts (h : Tree.Puts place (.text ('/' :: t)) tree tree')
    (hplace : tree.locate (dir.join fileName) = .ok place) :
    ofDirectory tree' dir ≠ .ok config := by
  have hslash : Tree.endsInSlash (dir.join fileName) = false :=
    Tree.endsInSlash_join_name (t := fileName.text) (by decide)
  have hfile : tree'.isFile (dir.join fileName) = true :=
    Tree.isFile_iff.2 ⟨_, h.lookup_self (h.toKeeps.locate hplace) hslash⟩
  rw [ofDirectory, if_pos hfile]
  exact ofFile_ne_ok_of_puts h hplace

end Config

end TwoWaySql
