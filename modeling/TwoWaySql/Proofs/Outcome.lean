/-!
# Outcomes

A computation that can fail ends in a value or in an error. The lemmas take such an outcome
apart along the steps of the computation: a value needs a value from every step, and an error is
the error of the first step that has one.
-/
namespace TwoWaySql.Outcome

variable {ε α β γ : Type}

@[simp] theorem ok_bind (a : α) (f : α → Except ε β) : (Except.ok a >>= f) = f a := rfl

@[simp] theorem error_bind (e : ε) (f : α → Except ε β) : (Except.error e >>= f) = .error e := rfl

@[simp] theorem pure_eq_ok (a : α) : (pure a : Except ε α) = .ok a := rfl

@[simp] theorem map_ok (f : α → β) (a : α) : (Except.ok a : Except ε α).map f = .ok (f a) := rfl

@[simp] theorem map_error (f : α → β) (e : ε) :
    (Except.error e : Except ε α).map f = .error e := rfl

theorem exists_ok_of_isSome {x : Except ε α} (h : x.toOption.isSome = true) : ∃ a, x = .ok a := by
  cases x with
  | error e => cases h
  | ok a => exact ⟨a, rfl⟩

theorem exists_ok_of_toOption_map {x : Except ε α} {f : α → β} {b : β}
    (h : x.toOption.map f = some b) : ∃ a, x = .ok a ∧ f a = b := by
  cases x with
  | error e => cases h
  | ok a => exact ⟨a, rfl, Option.some.inj h⟩

theorem bind_eq_ok {x : Except ε α} {f : α → Except ε β} {b : β} :
    (x >>= f) = .ok b ↔ ∃ a, x = .ok a ∧ f a = .ok b := by
  cases x <;> simp

theorem bind_eq_error {x : Except ε α} {f : α → Except ε β} {e : ε} :
    (x >>= f) = .error e ↔ x = .error e ∨ ∃ a, x = .ok a ∧ f a = .error e := by
  cases x <;> simp

theorem map_eq_error {x : Except ε α} {f : α → β} {e : ε} :
    x.map f = .error e ↔ x = .error e := by
  cases x <;> simp

theorem mapError_eq_ok {ε' : Type} {x : Except ε α} {f : ε → ε'} {a : α} :
    x.mapError f = .ok a ↔ x = .ok a := by
  cases x with
  | error e => exact iff_of_false (fun h => by cases h) fun h => by cases h
  | ok b =>
      constructor
      · intro h
        cases h
        rfl
      · intro h
        cases h
        rfl

/-- A run fails with the error of the first step that fails in the state it is reached in. -/
theorem foldlM_eq_error {f : β → α → Except ε β} {xs : List α} {b : β} {e : ε} :
    xs.foldlM f b = .error e ↔
      ∃ before x after c, xs = before ++ x :: after ∧ before.foldlM f b = .ok c ∧
        f c x = .error e := by
  constructor
  · intro h
    induction xs generalizing b with
    | nil => cases h
    | cons x rest ih =>
        rw [List.foldlM_cons, bind_eq_error] at h
        rcases h with hx | ⟨c, hx, hrest⟩
        · exact ⟨[], x, rest, b, rfl, rfl, hx⟩
        · obtain ⟨before, y, after, d, rfl, hbefore, hy⟩ := ih hrest
          refine ⟨x :: before, y, after, d, rfl, ?_, hy⟩
          rw [List.foldlM_cons, hx, ok_bind, hbefore]
  · rintro ⟨before, x, after, c, rfl, hbefore, hx⟩
    rw [List.foldlM_append, hbefore, ok_bind, List.foldlM_cons, hx, error_bind]

/-- In a run that ends in a value every step has one, and the steps behind it go on from there. -/
theorem exists_of_foldlM_eq_ok {f : β → α → Except ε β} {xs : List α} {b c : β}
    (h : xs.foldlM f b = .ok c) {x : α} (hx : x ∈ xs) :
    ∃ (a a' : β) (after : List α), f a x = .ok a' ∧ after.foldlM f a' = .ok c := by
  obtain ⟨before, after, rfl⟩ := List.append_of_mem hx
  rw [List.foldlM_append] at h
  obtain ⟨a, -, hafter⟩ := bind_eq_ok.1 h
  rw [List.foldlM_cons] at hafter
  obtain ⟨a', hstep, hrest⟩ := bind_eq_ok.1 hafter
  exact ⟨a, a', after, hstep, hrest⟩

/-- What every step keeps, a run keeps. -/
theorem invariant_of_foldlM {f : β → α → Except ε β} {P : β → Prop}
    (hstep : ∀ b x b', P b → f b x = .ok b' → P b') {xs : List α} {b c : β} (hb : P b)
    (h : xs.foldlM f b = .ok c) : P c := by
  induction xs generalizing b with
  | nil =>
      cases h
      exact hb
  | cons x rest ih =>
      rw [List.foldlM_cons] at h
      obtain ⟨b', hx, hrest⟩ := bind_eq_ok.1 h
      exact ih (hstep b x b' hb hx) hrest

/-- The outcome with its error and its value changed. -/
def bimap {ε' : Type} (f : ε → ε') (g : α → β) : Except ε α → Except ε' β
  | .ok a => .ok (g a)
  | .error e => .error (f e)

@[simp] theorem bimap_ok {ε' : Type} (f : ε → ε') (g : α → β) (a : α) :
    bimap f g (.ok a) = .ok (g a) := rfl

@[simp] theorem bimap_error {ε' : Type} (f : ε → ε') (g : α → β) (e : ε) :
    bimap f g (.error e) = .error (f e) := rfl

/-- A change of the outcome goes through two computations in a row, if it goes through each. -/
theorem bind_bimap {ε' α' β' : Type} {f : ε → ε'} {g : α → α'} {h : β → β'} {x : Except ε α}
    {k : α → Except ε β} {k' : α' → Except ε' β'} (hk : ∀ a, k' (g a) = bimap f h (k a)) :
    (bimap f g x >>= k') = bimap f h (x >>= k) := by
  cases x with
  | ok a => exact hk a
  | error e => rfl

/-- A change of the outcome goes through a run, if it goes through every step. -/
theorem foldlM_bimap {ε' α' β' : Type} {f : ε → ε'} {g : β → β'} {m : α → α'}
    {step : β → α → Except ε β} {step' : β' → α' → Except ε' β'}
    (hstep : ∀ b a, step' (g b) (m a) = bimap f g (step b a)) (xs : List α) (b : β) :
    (xs.map m).foldlM step' (g b) = bimap f g (xs.foldlM step b) := by
  induction xs generalizing b with
  | nil => rfl
  | cons a xs ih =>
      rw [List.map_cons, List.foldlM_cons, List.foldlM_cons, hstep]
      exact bind_bimap ih

/-- Whether a computation fails with a given error, or not at all if none is given. -/
def FailsWith (x : Except ε α) (fault? : Option ε) : Prop := ∀ e, x = .error e ↔ fault? = some e

/-- A computation without a fault has a value. -/
theorem FailsWith.exists_ok {x : Except ε α} (h : FailsWith x none) : ∃ a, x = .ok a := by
  cases x with
  | ok a => exact ⟨a, rfl⟩
  | error e => exact absurd ((h e).1 rfl) (by simp)

/-- Two computations in a row fail with the fault of the first, or else with that of the second. -/
theorem FailsWith.bind {x : Except ε α} {f : α → Except ε β} {o o' : Option ε}
    (hx : FailsWith x o) (hf : ∀ a, x = .ok a → FailsWith (f a) o') :
    FailsWith (x >>= f) (o.or o') := by
  intro e
  cases o with
  | some e' =>
      rw [(hx e').2 rfl, error_bind]
      simp
  | none =>
      obtain ⟨a, rfl⟩ := hx.exists_ok
      exact hf a rfl e

/-- What is done with the value in the end changes nothing about the fault. -/
theorem FailsWith.bind_ok {x : Except ε α} {o : Option ε} (hx : FailsWith x o) (f : α → β) :
    FailsWith (x >>= fun a => .ok (f a)) o := by
  intro e
  rw [← hx e, bind_eq_error]
  simp

end TwoWaySql.Outcome
