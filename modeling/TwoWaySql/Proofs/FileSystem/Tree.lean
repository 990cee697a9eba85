import TwoWaySql.FileSystem.Tree
import TwoWaySql.Proofs.Key
import TwoWaySql.Proofs.Outcome

/-!
# What stands in a file tree

A file tree is known by what stands at its places: in which order its entries are kept does not
show. Following a path leads to a place that is fixed by the path alone; the tree only decides
whether the way is there, and for that its directories are all that matters.

## Main definitions

* `Tree.Closed` — whatever stands in the tree stands in a directory.
-/
namespace TwoWaySql

/-- A path is the innermost of its ancestors. -/
theorem Path.exists_ancestors_eq_cons (p : Path) : ∃ parents, p.ancestors = p :: parents := by
  rw [ancestors]
  cases p.text.length with
  | zero => exact ⟨[], rfl⟩
  | succ n =>
      rw [ancestorsUpTo]
      cases p.parent? with
      | none => exact ⟨[], rfl⟩
      | some parent => exact ⟨_, rfl⟩

namespace Tree

variable {tree tree' : Tree} {place place' : Place} {entry : Entry} {p : Path}

@[simp] theorem get?_nil : tree.get? [] = some .directory := rfl

/-! ## Entries and children -/

/-- What stands at a place is kept as an entry, the root apart. -/
theorem mem_entries_iff (h : place ≠ []) :
    (place, entry) ∈ tree.entries ↔ tree.get? place = some entry := by
  have hget : tree.get? place = (tree.entries.find? (·.1 = place)).map (·.2) := by simp [get?, h]
  simp only [hget, Option.map_eq_some_iff, Key.find?_eq_some_iff tree.nodup]
  constructor
  · intro hmem
    exact ⟨(place, entry), ⟨hmem, rfl⟩, rfl⟩
  · rintro ⟨found, ⟨hmem, rfl⟩, rfl⟩
    exact hmem

/-- What an entry is in the directory at a place, if it stands in it. -/
def child? (place : Place) : Place × Entry → Option (Text × Entry)
  | (q, entry) =>
    match q.reverse with
    | name :: before => if before.reverse = place then some (name, entry) else none
    | [] => none

theorem child?_eq_some_iff {e : Place × Entry} {child : Text × Entry} :
    child? place e = some child ↔ e = (place ++ [child.1], child.2) := by
  constructor
  · obtain ⟨q, entry⟩ := e
    intro h
    simp only [child?] at h
    split at h
    · next name before hreverse =>
      split at h
      · next hbefore =>
        cases h
        rw [← List.reverse_reverse q, hreverse, List.reverse_cons, hbefore]
      · cases h
    · cases h
  · rintro rfl
    simp [child?]

/-- The names in a directory are those of the places one step further on. -/
theorem mem_children_iff {name : Text} :
    (name, entry) ∈ tree.children place ↔ tree.get? (place ++ [name]) = some entry := by
  rw [← mem_entries_iff (by simp)]
  have hchildren : (name, entry) ∈ tree.children place ↔
      ∃ e ∈ tree.entries, child? place e = some (name, entry) := List.mem_filterMap
  simp [hchildren, child?_eq_some_iff]

theorem nodup_children : (tree.children place).Nodup := by
  refine List.Nodup.filterMap (f := child? place) ?_ tree.nodup.of_map
  intro e e' child h h'
  rw [child?_eq_some_iff.1 h, child?_eq_some_iff.1 h']

/-! ## Following paths -/

/-- Where a step leads, whether or not it can be taken. -/
def target (place : Place) : Component → Place
  | .root => []
  | .here => place
  | .up => place.dropLast
  | .name name => place ++ [name]

/-- A way is there if its first step starts in a directory and the others can be taken. -/
theorem follow_cons_eq_ok_iff {step : Component} {steps : List Component} :
    tree.follow place (step :: steps) = .ok place' ↔
      tree.get? place = some .directory ∧ tree.follow (target place step) steps = .ok place' := by
  cases hplace : tree.get? place with
  | none => simp [follow, hplace]
  | some entry =>
      cases entry with
      | file c => simp [follow, hplace]
      | sink => simp [follow, hplace]
      | directory => cases step <;> simp [follow, hplace, target]

theorem follow_append_eq_ok_iff {steps more : List Component} :
    tree.follow place (steps ++ more) = .ok place' ↔
      ∃ q, tree.follow place steps = .ok q ∧ tree.follow q more = .ok place' := by
  induction steps generalizing place with
  | nil => simp [follow]
  | cons step steps ih => simp [follow_cons_eq_ok_iff, ih, and_assoc]

/-- A way is there in every tree that has the directories. -/
theorem follow_mono (hdir : ∀ q, tree.get? q = some .directory → tree'.get? q = some .directory)
    {steps : List Component} (h : tree.follow place steps = .ok place') :
    tree'.follow place steps = .ok place' := by
  induction steps generalizing place with
  | nil => exact h
  | cons step steps ih =>
      obtain ⟨hstart, hrest⟩ := follow_cons_eq_ok_iff.1 h
      exact follow_cons_eq_ok_iff.2 ⟨hdir place hstart, ih hrest⟩

theorem locate_eq_ok_iff : tree.locate p = .ok place ↔
    p.text ≠ [] ∧ tree.follow tree.cwd (steps p) = .ok place := by
  rw [locate]
  split
  · next h => simp [List.isEmpty_iff.1 h]
  · next h => simp [mt List.isEmpty_iff.2 h]

/-- What is no directory is found by a path that is written without a slash at its end. -/
theorem lookup_eq_ok_iff (hentry : entry ≠ .directory) : tree.lookup p = .ok entry ↔
    ∃ place, tree.locate p = .ok place ∧ tree.get? place = some entry ∧
      endsInSlash p = false := by
  rw [lookup, Outcome.bind_eq_ok]
  refine exists_congr fun place => and_congr_right fun _ => ?_
  rcases tree.get? place with _ | (c | _ | _)
  · simp
  · cases hslash : endsInSlash p <;> simp
  · simp [hentry.symm]
  · cases hslash : endsInSlash p <;> simp

theorem lookup_eq_file_iff {c : Content} : tree.lookup p = .ok (.file c) ↔
    ∃ place, tree.locate p = .ok place ∧ tree.get? place = some (.file c) ∧
      endsInSlash p = false := lookup_eq_ok_iff (by simp)

theorem lookup_eq_directory_iff : tree.lookup p = .ok .directory ↔
    ∃ place, tree.locate p = .ok place ∧ tree.get? place = some .directory := by
  rw [lookup, Outcome.bind_eq_ok]
  refine exists_congr fun place => and_congr_right fun _ => ?_
  cases tree.get? place with
  | none => simp
  | some entry => cases entry <;> cases hslash : endsInSlash p <;> simp

theorem isDirectory_iff : tree.isDirectory p = true ↔ tree.lookup p = .ok .directory := by
  rw [isDirectory]
  split
  · next h => simp [h]
  · next h => simpa using h

theorem isFile_iff : tree.isFile p = true ↔ ∃ c, tree.lookup p = .ok (.file c) := by
  rw [isFile]
  split
  · next c h => simp [h]
  · next h => simpa using h

/-- What is read stands in a file; what is read of a sink is empty. -/
theorem readText_eq_ok_iff {t : Text} : tree.readText p = .ok t ↔
    tree.lookup p = .ok (.file (.text t)) ∨ tree.lookup p = .ok .sink ∧ t = [] := by
  rw [readText]
  cases tree.lookup p with
  | error e => simp
  | ok entry =>
      cases entry with
      | directory => simp
      | file c => cases c <;> simp
      | sink => simp [eq_comm]

/-! ## Closed trees -/

/-- Whether the tree is one that files are created in step by step: the current directory is there,
and what stands at a place stands in a directory. -/
structure Closed (tree : Tree) : Prop where
  /-- The current directory is a directory. -/
  cwd : tree.get? tree.cwd = some .directory
  /-- The place above an entry is a directory. -/
  above : ∀ place, tree.get? place ≠ none → tree.get? place.dropLast = some .directory

theorem closed_iff : tree.Closed ↔ tree.get? tree.cwd = some .directory ∧
    ∀ e ∈ tree.entries, tree.get? e.1.dropLast = some .directory := by
  have hentries : ∀ place, place ≠ [] →
      (tree.get? place ≠ none ↔ ∃ entry, (place, entry) ∈ tree.entries) := by
    intro place hne
    simp only [mem_entries_iff hne, Option.ne_none_iff_exists']
  constructor
  · rintro ⟨hcwd, habove⟩
    refine ⟨hcwd, fun e he => ?_⟩
    by_cases hne : e.1 = []
    · rw [hne]
      rfl
    · exact habove e.1 ((hentries e.1 hne).2 ⟨e.2, he⟩)
  · rintro ⟨hcwd, habove⟩
    refine ⟨hcwd, fun place hplace => ?_⟩
    by_cases hne : place = []
    · rw [hne]
      rfl
    · obtain ⟨entry, hentry⟩ := (hentries place hne).1 hplace
      exact habove _ hentry

instance (tree : Tree) : Decidable tree.Closed := decidable_of_iff _ closed_iff.symm

/-- A tree with nothing but its current directory is closed. -/
theorem closed_fresh (cwd : Place) : (fresh cwd).Closed := by
  have hget : ∀ n, (fresh cwd).get? (cwd.take n) = some .directory := by
    intro n
    by_cases hne : cwd.take n = []
    · rw [hne]
      rfl
    · have hlength : n ≠ 0 ∧ cwd.length ≠ 0 := by
        constructor
        · rintro rfl
          exact hne List.take_zero
        · intro hzero
          exact hne (by simp [List.length_eq_zero_iff.1 hzero])
      refine (mem_entries_iff hne).1 (List.mem_map.2 ⟨min n cwd.length - 1, ?_, ?_⟩)
      · rw [List.mem_range]
        omega
      · have hmin : min n cwd.length - 1 + 1 = min n cwd.length := by omega
        rw [hmin, ← List.take_eq_take_min]
  rw [closed_iff]
  refine ⟨?_, fun e he => ?_⟩
  · have hcwd := hget cwd.length
    rwa [List.take_length] at hcwd
  · obtain ⟨n, -, rfl⟩ := List.mem_map.1 he
    rw [List.dropLast_eq_take, List.take_take]
    exact hget _

/-- A closed tree stays closed if an entry is put into a directory, and in place of no directory
unless it is one itself. -/
theorem Closed.set (h : tree.Closed) (hne : place ≠ [])
    (habove : tree.get? place.dropLast = some .directory)
    (hentry : tree.get? place = some .directory → entry = .directory) :
    (tree.set place entry).Closed := by
  have hdir : ∀ q, tree.get? q = some .directory →
      (tree.set place entry).get? q = some .directory := by
    intro q hq
    by_cases heq : q = place
    · subst heq
      rw [get?_set_self _ _ _ hne, hentry hq]
    · rwa [get?_set_of_ne _ _ heq]
  refine ⟨hdir _ h.cwd, fun q hq => hdir _ ?_⟩
  by_cases heq : q = place
  · rwa [heq]
  · rw [get?_set_of_ne _ _ heq] at hq
    exact h.above q hq

/-- Where a way ends in a name, it leads into a directory. -/
theorem exists_of_locate_of_endsInName (hplace : tree.locate p = .ok place)
    (hname : endsInName p = true) :
    ∃ q name, place = q ++ [name] ∧ tree.get? q = some .directory := by
  rw [endsInName] at hname
  split at hname
  · next name hlast =>
    obtain ⟨before, hsteps⟩ := List.getLast?_eq_some_iff.1 hlast
    have hfollow := (locate_eq_ok_iff.1 hplace).2
    rw [hsteps, follow_append_eq_ok_iff] at hfollow
    obtain ⟨q, -, hq⟩ := hfollow
    obtain ⟨hdir, hend⟩ := follow_cons_eq_ok_iff.1 hq
    cases hend
    exact ⟨q, name, rfl, hdir⟩
  · cases hname

/-- In a closed tree only a way that ends in a name leads to a file. -/
theorem Closed.endsInName (h : tree.Closed) {c : Content} (hplace : tree.locate p = .ok place)
    (hfile : tree.get? place = some (.file c)) : endsInName p = true := by
  have hfollow := (locate_eq_ok_iff.1 hplace).2
  rcases List.eq_nil_or_concat (steps p) with hnil | ⟨before, last, hsteps⟩
  · rw [hnil] at hfollow
    cases hfollow
    rw [h.cwd] at hfile
    cases hfile
  · rw [hsteps, List.concat_eq_append, follow_append_eq_ok_iff] at hfollow
    obtain ⟨q, -, hq⟩ := hfollow
    obtain ⟨hdir, hend⟩ := follow_cons_eq_ok_iff.1 hq
    cases hend
    -- every step but a name leads from a directory to a directory
    have hnot : ∀ {q'}, tree.get? q' = some .directory → target q last ≠ q' := by
      rintro q' hq' rfl
      rw [hfile] at hq'
      cases hq'
    cases last with
    | root => exact absurd rfl (hnot get?_nil)
    | here => exact absurd rfl (hnot hdir)
    | up => exact absurd rfl (hnot (h.above q (by simp [hdir])))
    | name n => simp [Tree.endsInName, hsteps]

/-! ## Changing the tree -/

@[simp] theorem put_of_sink {c : Content} (h : tree.get? place = some .sink) :
    tree.put place c = tree := if_pos h

theorem put_of_ne_sink {c : Content} (h : tree.get? place ≠ some .sink) :
    tree.put place c = tree.set place (.file c) := if_neg h

theorem write_eq_ok_iff {c : Content} : tree.write p c = .ok tree' ↔
    ∃ place, tree.locate p = .ok place ∧ (endsInSlash p = false ∧ endsInName p = true) ∧
      tree.get? place ≠ some .directory ∧ tree' = tree.put place c := by
  rw [write, Outcome.bind_eq_ok]
  refine exists_congr fun place => and_congr_right fun _ => ?_
  by_cases hend : endsInSlash p ∨ ¬endsInName p
  · rw [if_pos hend]
    refine iff_of_false (by simp) ?_
    rintro ⟨⟨hslash, hname⟩, -⟩
    simp [hslash, hname] at hend
  · have hends : endsInSlash p = false ∧ endsInName p = true := by simpa using hend
    rw [if_neg hend]
    rcases hget : tree.get? place with _ | (c' | _ | _) <;> simp [hends, eq_comm (a := tree')]

theorem createDirectory_eq_ok_iff : tree.createDirectory p = .ok tree' ↔
    ∃ place, tree.locate p = .ok place ∧ endsInName p = true ∧ tree.get? place = none ∧
      tree' = tree.set place .directory := by
  rw [createDirectory, Outcome.bind_eq_ok]
  refine exists_congr fun place => and_congr_right fun _ => ?_
  by_cases hname : endsInName p = true
  · simp only [hname, not_true_eq_false, if_false, true_and]
    cases hget : tree.get? place <;> simp [eq_comm (a := tree')]
  · simp [hname]

theorem createDirectory_of_isDirectory (h : tree.isDirectory p = true) :
    tree.createDirectory p = .error .alreadyExists := by
  obtain ⟨place, hplace, hdir⟩ := lookup_eq_directory_iff.1 (isDirectory_iff.1 h)
  rw [createDirectory, hplace, Outcome.ok_bind, hdir]
  simp

/-- Where the directory is there already, nothing is created. -/
theorem createDirectories_of_isDirectory (h : tree.isDirectory p = true) :
    tree.createDirectories p = (tree, .ok ()) := by
  obtain ⟨parents, hparents⟩ := p.exists_ancestors_eq_cons
  rw [createDirectories, hparents, createAll]
  split
  · rfl
  · simp [createDirectory_of_isDirectory h]

/-- What each directory that is created keeps, creating all of them keeps, whether or not it goes
through. -/
theorem invariant_of_createAll {P : Tree → Prop} {ps : List Path}
    (hstep : ∀ tree, ∀ p ∈ ps, ∀ tree', P tree → tree.createDirectory p = .ok tree' → P tree')
    (h : P tree) : P (tree.createAll ps).1 := by
  induction ps generalizing tree with
  | nil => exact h
  | cons p parents ih =>
      have hp := fun tree => hstep tree p List.mem_cons_self
      rw [createAll]
      split
      · exact h
      · split
        · next tree' hcreate => exact hp tree tree' h hcreate
        · have hparents := ih (fun tree q hq => hstep tree q (List.mem_cons_of_mem p hq)) h
          split
          · next tree' e hall => rwa [hall] at hparents
          · next tree' hall =>
            rw [hall] at hparents
            split
            · next tree'' hcreate => exact hp tree' tree'' hparents hcreate
            · split <;> exact hparents
        · split <;> exact h

theorem Closed.write (h : tree.Closed) {c : Content} (hwrite : tree.write p c = .ok tree') :
    tree'.Closed := by
  obtain ⟨place, hplace, ⟨-, hname⟩, hfree, rfl⟩ := write_eq_ok_iff.1 hwrite
  obtain ⟨q, name, rfl, hdir⟩ := exists_of_locate_of_endsInName hplace hname
  by_cases hsink : tree.get? (q ++ [name]) = some .sink
  · rwa [put_of_sink hsink]
  · rw [put_of_ne_sink hsink]
    exact h.set (by simp) (by simpa using hdir) fun hdirectory => absurd hdirectory hfree

theorem Closed.createDirectory (h : tree.Closed) (hp : tree.createDirectory p = .ok tree') :
    tree'.Closed := by
  obtain ⟨place, hplace, hname, hfree, rfl⟩ := createDirectory_eq_ok_iff.1 hp
  obtain ⟨q, name, rfl, hdir⟩ := exists_of_locate_of_endsInName hplace hname
  exact h.set (by simp) (by simpa using hdir) fun _ => rfl

theorem Closed.createDirectories (h : tree.Closed) : (tree.createDirectories p).1.Closed :=
  invariant_of_createAll (fun _ _ _ _ h hp => Closed.createDirectory h hp) h

end Tree

end TwoWaySql
