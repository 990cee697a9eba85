import TwoWaySql.Proofs.Query.Live

/-!
# The values that are bound

An argument of a query was bound by a directive that the compilation came to. A directive for one
value refuses a list. A directive for a list looks at the list and not at its items, and binds them
as they are; so what it binds is a list where an item of its list is one. Data whose lists hold no
lists give queries without lists among their arguments.

## Main definitions

* `Action.Binds` — the values that a directive binds.
* `Data.Flat` — data whose lists hold no lists.
-/
namespace TwoWaySql

/-- Whether a value is a list. -/
def Value.isList : Value → Bool
  | .list _ => true
  | _ => false

/-- Whether no list of the data has a list among its items. -/
def Data.Flat (data : Data) : Prop :=
  ∀ name items, data name = some (.list items) → ∀ v ∈ items, v.isList = false

namespace Value

theorem isList_of_decimal? {negative : Bool} {digits : Text} {v : Value}
    (h : decimal? negative digits = some v) : v.isList = false := by
  rw [decimal?] at h
  split at h
  · cases h
    rfl
  · split at h <;> cases h
    rfl

theorem isList_of_ofInt {i : Int} {v : Value} (h : ofInt i = .ok v) : v.isList = false := by
  rw [ofInt] at h
  split at h
  · cases h
  · split at h <;> cases h
    rfl

theorem isList_of_number? {negative : Bool} {digits : Text} {v : Value}
    (h : number? negative digits = some v) : v.isList = false := by
  rw [number?] at h
  split at h
  · dsimp only at h
    split at h
    · next value hvalue =>
      cases h
      exact isList_of_ofInt hvalue
    · exact isList_of_decimal? h
  · exact isList_of_decimal? h

/-- No literal is a list. -/
theorem isList_of_ofLiteral? {t : Text} {v : Value} (h : ofLiteral? t = some v) :
    v.isList = false := by
  unfold ofLiteral? at h
  split at h
  · cases h
    rfl
  · split at h
    · cases h
      rfl
    · split at h
      split at h
      · cases h
      · exact isList_of_number? h

end Value

/-! ## What a directive binds -/

namespace Arg

variable {data : Data} {p : Position} {arg : Arg}

/-- Only a field is a list. -/
theorem exists_field_of_resolve_list {items : List Value}
    (h : arg.resolve data p = .ok (.list items)) : ∃ name, data name = some (.list items) := by
  cases resolve_eq_ok_iff.1 h with
  | field hname => exact ⟨_, hname⟩
  | bare hliteral => cases Value.isList_of_ofLiteral? hliteral

end Arg

/-- A directive for one value binds no list. -/
theorem Binder.isList_of_accept? {b : Binder} {v w : Value} (h : b.accept? v = some w) :
    w.isList = false := by
  cases b <;> cases v <;> cases h <;> rfl

namespace Action

variable {data : Data} {p : Position} {v : Value}

/-- Whether a directive at a place binds a value: the one value that it is given, as it is taken;
an item of its list; or an item of its list where the SQL that is repeated has a question mark. -/
inductive Binds (data : Data) (p : Position) (v : Value) : Action → Prop
  | value {binder : Binder} {arg : Arg} {given : Value} (h : arg.resolve data p = .ok given)
      (hv : binder.accept? given = some v) : Binds data p v (.bind binder arg)
  | item {list : Arg} {items : List Value} (h : list.resolve data p = .ok (.list items))
      (hv : v ∈ items) : Binds data p v (.inList list)
  | copy {subTemplate separator list : Arg} {t : Text} {items : List Value}
      (ht : subTemplate.resolve data p = .ok (.string t)) (hmark : '?' ∈ t)
      (h : list.resolve data p = .ok (.list items)) (hv : v ∈ items) :
      Binds data p v (.multi subTemplate separator list)

/-- The arguments among the pieces of a directive are the values that it binds. -/
theorem mem_args_of_expand {a : Action} {pieces : List Piece}
    (h : a.expand data p = .ok pieces) : v ∈ Piece.args pieces ↔ a.Binds data p v := by
  cases a with
  | bind binder arg =>
      obtain ⟨given, hgiven, htaken⟩ := Outcome.bind_eq_ok.1 h
      cases haccept : binder.accept? given with
      | none => simp [haccept] at htaken
      | some taken =>
          simp only [haccept, Outcome.pure_eq_ok, Except.ok.injEq] at htaken
          subst htaken
          constructor
          · intro hv
            obtain rfl : v = taken := by simpa [Piece.args] using hv
            exact .value hgiven haccept
          · intro hbinds
            cases hbinds with
            | value hgiven' hv =>
                rw [hgiven, Except.ok.injEq] at hgiven'
                rw [← hgiven', haccept, Option.some.injEq] at hv
                simp [Piece.args, hv]
  | inList list =>
      obtain ⟨items, hlist, hpieces⟩ := Outcome.bind_eq_ok.1 h
      rw [Arg.resolveList_eq_ok_iff] at hlist
      cases hpieces
      have hargs : Piece.args (.text "(" :: Piece.bindAll items ++ [.text ")"]) = items := by
        simp [Piece.args, Piece.args_append, Piece.args_bindAll]
      rw [hargs]
      constructor
      · intro hv
        exact .item hlist hv
      · intro hbinds
        cases hbinds with
        | item hlist' hv =>
            rw [hlist, Except.ok.injEq, Value.list.injEq] at hlist'
            exact hlist' ▸ hv
  | multi subTemplate separator list =>
      obtain ⟨t, ht, hrest⟩ := Outcome.bind_eq_ok.1 h
      obtain ⟨s, -, hrest⟩ := Outcome.bind_eq_ok.1 hrest
      obtain ⟨items, hlist, hpieces⟩ := Outcome.bind_eq_ok.1 hrest
      rw [Arg.resolveString_eq_ok_iff] at ht
      rw [Arg.resolveList_eq_ok_iff] at hlist
      cases hpieces
      rw [Piece.args_copies, List.mem_flatMap]
      constructor
      · rintro ⟨item, hitem, hv⟩
        obtain ⟨hcount, rfl⟩ := List.mem_replicate.1 hv
        exact .copy ht (List.count_pos_iff.1 (Nat.pos_of_ne_zero hcount)) hlist hitem
      · intro hbinds
        cases hbinds with
        | copy ht' hmark hlist' hv =>
            rw [ht, Except.ok.injEq, Value.string.injEq] at ht'
            rw [hlist, Except.ok.injEq, Value.list.injEq] at hlist'
            rw [← ht'] at hmark
            have hcount : List.count '?' t ≠ 0 := (List.count_pos_iff.2 hmark).ne'
            exact ⟨v, hlist' ▸ hv, List.mem_replicate.2 ⟨hcount, rfl⟩⟩

/-- A list is bound as an item of a list of the data, and by no directive for one value. -/
theorem Binds.exists_item {a : Action} (h : a.Binds data p v) (hv : v.isList = true) :
    (∀ binder arg, a ≠ .bind binder arg) ∧
      ∃ name items, data name = some (.list items) ∧ v ∈ items := by
  cases h with
  | value h haccept => simp [Binder.isList_of_accept? haccept] at hv
  | item h hmem =>
      obtain ⟨name, hname⟩ := Arg.exists_field_of_resolve_list h
      exact ⟨by simp, name, _, hname, hmem⟩
  | copy ht hmark h hmem =>
      obtain ⟨name, hname⟩ := Arg.exists_field_of_resolve_list h
      exact ⟨by simp, name, _, hname, hmem⟩

/-- A directive for one value that is given a list fails. -/
theorem expand_bind_list {binder : Binder} {arg : Arg} {items : List Value}
    (h : arg.resolve data p = .ok (.list items)) : (Action.bind binder arg).expand data p =
      .error (.typeMismatch binder.keyword 1 binder.type "list" p) := by
  have haccept : binder.accept? (.list items) = none := by cases binder <;> rfl
  rw [expand, h, Outcome.ok_bind, haccept]
  rfl

end Action

/-! ## What a compilation binds -/

namespace Pass

variable {style : PlaceholderStyle} {data : Data} {pass next : Pass} {v : Value}

/-- What one step adds to the arguments. -/
theorem mem_args_of_step {s : Step} (h : pass.step style data s = .ok next) :
    v ∈ next.query.args ↔ v ∈ pass.query.args ∨
      pass.live = true ∧ ∃ a p, s = .action a p ∧ a.Binds data p v := by
  cases hlive : pass.live with
  | false =>
      obtain ⟨conditions, hok⟩ := exists_step_of_not_live style data hlive s
      rw [hok] at h
      cases h
      simp
  | true =>
      cases s with
      | text t =>
          simp only [step, hlive, if_true] at h
          cases h
          simp [Query.push]
      | action a p =>
          cases hpieces : a.expand data p with
          | error e => simp [step, hlive, hpieces] at h
          | ok pieces =>
              rw [step_of_expand hlive hpieces, emit_eq_write] at h
              cases h
              simp [write, Action.mem_args_of_expand hpieces]
      | opens condition p =>
          simp only [step, hlive, if_true] at h
          obtain ⟨holds, -, hnext⟩ := Outcome.bind_eq_ok.1 h
          cases hnext
          simp
      | closes p =>
          cases h
          simp

/-- The arguments behind a run are those before it and what the directives bind that it comes to. -/
theorem mem_args_of_run {steps : List Step} (h : run style data pass steps = .ok next) :
    v ∈ next.query.args ↔ v ∈ pass.query.args ∨
      ∃ before a p after mid, steps = before ++ .action a p :: after ∧
        run style data pass before = .ok mid ∧ mid.live = true ∧ a.Binds data p v := by
  induction steps generalizing pass with
  | nil =>
      cases h
      simp
  | cons s steps ih =>
      rw [run_cons] at h
      obtain ⟨mid, hstep, hrest⟩ := Outcome.bind_eq_ok.1 h
      rw [ih hrest, mem_args_of_step hstep, or_assoc]
      refine or_congr_right ⟨?_, ?_⟩
      · rintro (⟨hlive, a, p, rfl, hv⟩ | ⟨before, a, p, after, mid', rfl, hbefore, hlive, hv⟩)
        · exact ⟨[], a, p, steps, pass, rfl, rfl, hlive, hv⟩
        · exact ⟨s :: before, a, p, after, mid', rfl, by rw [run_cons, hstep]; exact hbefore,
            hlive, hv⟩
      · rintro ⟨before, a, p, after, mid', hsteps, hbefore, hlive, hv⟩
        cases before with
        | nil =>
            cases hsteps
            cases hbefore
            exact .inl ⟨hlive, a, p, rfl, hv⟩
        | cons s' before =>
            cases hsteps
            rw [run_cons, hstep] at hbefore
            exact .inr ⟨before, a, p, after, mid', rfl, hbefore, hlive, hv⟩

end Pass

namespace Query

variable {style : PlaceholderStyle} {cleaned : Text} {data : Data} {q : Query} {v : Value}

/-- The arguments of a query are the values that the directives bind that its compilation comes
to. -/
theorem mem_args_of_compile (h : compile style cleaned data = .ok q) :
    v ∈ q.args ↔ ∃ pass a p after, Reaches style cleaned data pass a p after ∧
      a.Binds data p v := by
  obtain ⟨nodes, hnodes, -⟩ := Outcome.bind_eq_ok.1 h
  rw [compile_eq_map_run hnodes] at h
  cases hrun : Pass.run style data .start (Layout.ofText cleaned).steps with
  | error e => simp [hrun] at h
  | ok final =>
      simp only [hrun, Outcome.map_ok, Except.ok.injEq] at h
      subst h
      rw [Pass.mem_args_of_run hrun]
      constructor
      · rintro (hv | ⟨before, a, p, after, mid, hsteps, hbefore, hlive, hv⟩)
        · cases hv
        · exact ⟨mid, a, p, after, ⟨⟨nodes, hnodes⟩, ⟨before, hsteps, hbefore⟩, hlive⟩, hv⟩
      · rintro ⟨pass, a, p, after, ⟨-, ⟨before, hsteps, hbefore⟩, hlive⟩, hv⟩
        exact .inr ⟨before, a, p, after, pass, hsteps, hbefore, hlive, hv⟩

/-- **Lists among the arguments.** Every argument of a query was bound by a directive that its
compilation came to. An argument that is a list was bound by a directive for a list, and is an item
of a list of the data; so data whose lists hold no lists give no such argument. Directives for one
value refuse a list. All this holds of what is compiled, and of what is built. -/
theorem mem_args_iff_binds (style : PlaceholderStyle) (data : Data) :
    (∀ cleaned q, compile style cleaned data = .ok q → ∀ v, v ∈ q.args ↔
      ∃ pass a p after, Reaches style cleaned data pass a p after ∧ a.Binds data p v) ∧
    (∀ template q, build style template data = .ok q → ∀ v, v ∈ q.args ↔
      ∃ pass a p after, Reaches style (strip template) data pass a p after ∧ a.Binds data p v) ∧
    (∀ a p v, Action.Binds data p v a → v.isList = true →
      (∀ binder arg, a ≠ .bind binder arg) ∧
        ∃ name items, data name = some (.list items) ∧ v ∈ items) ∧
    (∀ binder arg p items, Arg.resolve data p arg = .ok (.list items) →
      (Action.bind binder arg).expand data p =
        .error (.typeMismatch binder.keyword 1 binder.type "list" p)) ∧
    (data.Flat → ∀ source q,
      compile style source data = .ok q ∨ build style source data = .ok q →
        ∀ v ∈ q.args, v.isList = false) := by
  refine ⟨fun _ _ h _ => mem_args_of_compile h, fun _ _ h _ => mem_args_of_compile h,
    fun _ _ _ h hv => h.exists_item hv, fun _ _ _ _ h => Action.expand_bind_list h, ?_⟩
  have hcompile : data.Flat → ∀ cleaned q, compile style cleaned data = .ok q →
      ∀ v ∈ q.args, v.isList = false := by
    intro hflat cleaned q h v hv
    obtain ⟨pass, a, p, after, -, hbinds⟩ := (mem_args_of_compile h).1 hv
    cases hlist : v.isList with
    | false => rfl
    | true =>
        obtain ⟨-, name, items, hname, hitem⟩ := hbinds.exists_item hlist
        rw [hflat name items hname v hitem] at hlist
        cases hlist
  intro hflat source q h
  rcases h with h | h
  · exact hcompile hflat source q h
  · exact hcompile hflat (strip source) q h

/-- A single value and a list. -/
private def pairTemplate : Text := "x = /** param .N **/1 AND y IN /** in .L **/(1)"

private def pairData (items : List Value) : Data := fun name =>
  if name = "N" then some (.int 7) else if name = "L" then some (.list items) else none

/-- With a list among the items it is an argument, and without one there is none. -/
theorem mem_args_iff_binds_pair :
    (∃ q, build .question pairTemplate (pairData [.list [.int 1], .int 2]) = .ok q ∧
      .list [.int 1] ∈ q.args) ∧
    (pairData [.int 1, .int 2]).Flat ∧
    ∃ q, build .question pairTemplate (pairData [.int 1, .int 2]) = .ok q ∧
      ∀ v ∈ q.args, v.isList = false := by
  constructor
  · have hreaches : Reaches .question (strip pairTemplate) (pairData [.list [.int 1], .int 2])
        ⟨⟨"x = ? AND y IN ", [.int 7]⟩, []⟩ (.inList (.field "L")) ⟨30, 1, 31⟩ [.text []] := by
      have htree : ∃ nodes, Node.ofText? (strip pairTemplate) = .ok nodes :=
        Outcome.exists_ok_of_isSome (by decide +kernel)
      have hsteps : (Layout.ofText (strip pairTemplate)).steps =
          [.text "x = ", .action (.bind .param (.field "N")) ⟨4, 1, 5⟩, .text " AND y IN "] ++
            .action (.inList (.field "L")) ⟨30, 1, 31⟩ :: [.text []] := by decide +kernel
      exact ⟨htree, ⟨_, hsteps, rfl⟩, rfl⟩
    obtain ⟨q, hq⟩ : ∃ q, build .question pairTemplate (pairData [.list [.int 1], .int 2]) =
        .ok q := Outcome.exists_ok_of_isSome (by decide +kernel)
    have hmem := (mem_args_iff_binds .question (pairData [.list [.int 1], .int 2])).2.1
      pairTemplate q hq (.list [.int 1])
    exact ⟨q, hq, hmem.2 ⟨_, _, _, _, hreaches, .item rfl List.mem_cons_self⟩⟩
  · have hflat : (pairData [.int 1, .int 2]).Flat := by
      intro name items hname v hv
      simp only [pairData] at hname
      split at hname
      · cases hname
      · split at hname <;> cases hname
        rcases List.mem_pair.1 hv with rfl | rfl <;> rfl
    obtain ⟨q, hq⟩ : ∃ q, build .question pairTemplate (pairData [.int 1, .int 2]) = .ok q :=
      Outcome.exists_ok_of_isSome (by decide +kernel)
    exact ⟨hflat, q, hq,
      (mem_args_iff_binds .question _).2.2.2.2 hflat pairTemplate q (.inr hq)⟩

/-- A list can be bound to one placeholder. -/
theorem build_binds_list : ∃ q,
    build .question pairTemplate (pairData [.list [.int 1], .int 2]) = .ok q ∧
      ∃ v ∈ q.args, v.isList = true := by
  have hlist : ((build .question pairTemplate (pairData [.list [.int 1], .int 2])).toOption.any
      fun q => q.args.any Value.isList) = true := by decide +kernel
  cases hq : build .question pairTemplate (pairData [.list [.int 1], .int 2]) with
  | error e =>
      rw [hq] at hlist
      cases hlist
  | ok q =>
      rw [hq] at hlist
      exact ⟨q, rfl, List.any_eq_true.1 hlist⟩

end Query

end TwoWaySql
