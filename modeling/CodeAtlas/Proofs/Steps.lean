import CodeAtlas.Build.State

/-!
# Steps that may fail

A build goes in steps, each of which may meet a fault.  Two kinds of composition occur: one step after
the other, where a result means that both have given one, and `runUntilFault`, which takes one step for
each member of a list.

A run of `runUntilFault` is followed by an invariant that speaks of the members done so far.  From what
one step does to it comes what a whole run does (`runUntilFault_invariant`), and a run comes
to its end exactly when every single step can be taken (`runUntilFault_finishes_iff`).
-/

namespace CodeAtlas

/-! ## One step after the other -/

section Compose

variable {ε β γ : Type}

/-- Two steps give a result iff the first one does, and the second one from there. -/
@[simp] theorem bind_eq_ok_iff {x : Except ε β} {f : β → Except ε γ} {c : γ} :
    (x >>= f) = .ok c ↔ ∃ b, x = .ok b ∧ f b = .ok c := by
  cases x <;> simp [bind, Except.bind]

/-- They meet a fault in the first one, or in the second one behind a result of the first. -/
theorem bind_eq_error_iff {x : Except ε β} {f : β → Except ε γ} {e : ε} :
    (x >>= f) = .error e ↔ x = .error e ∨ ∃ b, x = .ok b ∧ f b = .error e := by
  cases x <;> simp [bind, Except.bind]

/-- A fault is met where there is no result. -/
theorem exists_eq_error_iff {x : Except ε β} : (∃ e, x = .error e) ↔ ∀ b, x ≠ .ok b := by
  cases x <;> simp

@[simp] theorem map_eq_ok_iff {x : Except ε β} {f : β → γ} {c : γ} :
    x.map f = .ok c ↔ ∃ b, x = .ok b ∧ f b = c := by
  cases x <;> simp [Except.map]

/-- A run behind a check gives a result if the check lets it pass. -/
theorem ite_throw_eq_ok_iff {c : Prop} [Decidable c] {e : ε} {more : β → Except ε γ}
    {rest : Except ε γ} {b : γ} :
    (if c then throw e >>= more else rest) = .ok b ↔ ¬ c ∧ rest = .ok b := by
  by_cases refused : c
  · simp [refused, throw, throwThe, MonadExceptOf.throw, bind, Except.bind]
  · simp [refused]

/-- It meets the fault of the check if the check does not, and otherwise the faults of what is behind it. -/
theorem ite_throw_eq_error_iff {c : Prop} [Decidable c] {e e' : ε} {more : β → Except ε γ}
    {rest : Except ε γ} :
    (if c then throw e >>= more else rest) = .error e' ↔ c ∧ e = e' ∨ ¬ c ∧ rest = .error e' := by
  by_cases refused : c
  · simp [refused, throw, throwThe, MonadExceptOf.throw, bind, Except.bind]
  · simp [refused]

theorem exists_map_eq_ok_iff {x : Except ε β} {f : β → γ} :
    (∃ c, x.map f = .ok c) ↔ ∃ b, x = .ok b := by
  cases x <;> simp [Except.map]

/-- A result that passes a check is there. -/
theorem exists_ok_of_any_toOption {x : Except ε β} {p : β → Bool} (h : x.toOption.any p = true) :
    ∃ b, x = .ok b ∧ p b = true := by
  cases x with
  | error e => cases h
  | ok b => exact ⟨b, rfl, h⟩

theorem exists_error_of_isNone_toOption {x : Except ε β} (h : x.toOption.isNone = true) :
    ∃ e, x = .error e := by
  cases x with
  | error e => exact ⟨e, rfl⟩
  | ok b => cases h

/-- A list of steps gives a list of results, one for each. -/
theorem mapM_eq_ok_iff {f : β → Except ε γ} {xs : List β} {ys : List γ} :
    xs.mapM f = .ok ys ↔ xs.map f = ys.map .ok := by
  induction xs generalizing ys with
  | nil => simp [pure, Except.pure, eq_comm]
  | cons x rest ih =>
      simp only [List.mapM_cons, bind_eq_ok_iff, ih, pure, Except.pure, Except.ok.injEq]
      cases ys with
      | nil => simp
      | cons y ys => simp

/-- What a result tells of its step is told by the steps, in order. -/
theorem map_eq_of_map_ok {δ : Type} {f : β → Except ε γ} {xs : List β} {ys : List γ}
    (all : xs.map f = ys.map .ok) {field : γ → δ} {value : β → δ}
    (spec : ∀ x y, f x = .ok y → field y = value x) : ys.map field = xs.map value := by
  induction xs generalizing ys with
  | nil =>
      obtain rfl : ys = [] := by simpa using all
      rfl
  | cons x rest ih =>
      cases ys with
      | nil => simp at all
      | cons y ys =>
          obtain ⟨here, later⟩ := List.cons.inj all
          rw [List.map_cons, List.map_cons, spec x y here, ih later]

/-- All of a list of steps give results iff each of them does. -/
theorem exists_mapM_eq_ok_iff {f : β → Except ε γ} {xs : List β} :
    (∃ ys, xs.mapM f = .ok ys) ↔ ∀ x ∈ xs, ∃ y, f x = .ok y := by
  induction xs with
  | nil => simp [pure, Except.pure]
  | cons x rest ih =>
      rw [List.forall_mem_cons, ← ih]
      simp only [List.mapM_cons, bind_eq_ok_iff, pure, Except.pure, Except.ok.injEq]
      grind

/-- Steps that all give a result select what they give. -/
theorem filterMapM_map_eq_ok {δ : Type} {f : β → δ} {step : δ → Except ε (Option γ)} {g : β → Option γ}
    {xs : List β} (all : ∀ x ∈ xs, step (f x) = .ok (g x)) :
    (xs.map f).filterMapM step = .ok (xs.filterMap g) := by
  induction xs with
  | nil => rfl
  | cons x rest ih =>
      obtain ⟨here, later⟩ := List.forall_mem_cons.mp all
      rw [List.map_cons, List.filterMapM_cons, here, ih later]
      cases found : g x with
      | none =>
          rw [List.filterMap_cons_none found]
          rfl
      | some y =>
          rw [List.filterMap_cons_some found]
          rfl

/-- A fold comes to its end iff every step can be taken, provided that this depends on the member alone, and not on
what has been gathered so far. -/
theorem exists_foldlM_eq_ok_iff {f : γ → β → Except ε γ} {Fine : β → Prop}
    (fine : ∀ c x, (∃ d, f c x = .ok d) ↔ Fine x) (xs : List β) (c : γ) :
    (∃ d, xs.foldlM f c = .ok d) ↔ ∀ x ∈ xs, Fine x := by
  induction xs generalizing c with
  | nil => simp [pure, Except.pure]
  | cons x rest ih =>
      rw [List.forall_mem_cons, ← fine c x, List.foldlM_cons]
      simp only [bind_eq_ok_iff]
      constructor
      · rintro ⟨d, e, taken, run⟩
        exact ⟨⟨e, taken⟩, (ih e).mp ⟨d, run⟩⟩
      · rintro ⟨⟨e, taken⟩, later⟩
        obtain ⟨d, run⟩ := (ih e).mpr later
        exact ⟨d, e, taken, run⟩

end Compose

/-! ## Runs over a list -/

section Runs

variable {σ β : Type} {step : σ → β → Except Fault σ}

/-- **What every step keeps, a whole run keeps.**  `done` are the members in front of those of the run; a step may
rely on where its member stands among all of them.

The invariant speaks of the members that are done, so that the induction goes over those that are left, and moves one
from here to there at each step. -/
theorem runUntilFault_invariant (Inv : List β → σ → Prop) (done bs : List β) {s t : σ}
    (keeps : ∀ front b back u u', front ++ b :: back = done ++ bs → Inv front u →
      step u b = .ok u' → Inv (front ++ [b]) u')
    (holds : Inv done s) (run : runUntilFault step s bs = (t, none)) : Inv (done ++ bs) t := by
  induction bs generalizing done s with
  | nil =>
      obtain rfl : s = t := congrArg Prod.fst run
      simpa using holds
  | cons b rest ih =>
      rw [runUntilFault] at run
      cases taken : step s b with
      | error f => simp [taken] at run
      | ok s' =>
          rw [taken] at run
          have next := keeps done b rest s s' rfl holds taken
          simpa using ih (done ++ [b]) (by simpa using keeps) next run

/-- **What every step keeps, a run keeps, whether or not a fault ends it.**  This is the form for invariants that do
not depend on how far the run has come. -/
theorem runUntilFault_keeps (Inv : σ → Prop) (bs : List β) {s : σ}
    (keeps : ∀ b ∈ bs, ∀ u u', Inv u → step u b = .ok u' → Inv u') (holds : Inv s) :
    Inv (runUntilFault step s bs).1 := by
  induction bs generalizing s with
  | nil => exact holds
  | cons b rest ih =>
      obtain ⟨here, later⟩ := List.forall_mem_cons.mp keeps
      rw [runUntilFault]
      cases taken : step s b with
      | error f => exact holds
      | ok s' => exact ih later (here s s' holds taken)

/-- **A run comes to its end iff every step can be taken**, provided that this depends on the member alone wherever
the invariant holds.

A step cannot rely on the run for its invariant to hold, as the run may end before it.  Therefore the invariant is
carried along: it holds in front of the first member that is not fine, and the step of that one is a fault. -/
theorem runUntilFault_finishes_iff (Inv : List β → σ → Prop) (Fine : β → Prop) (done bs : List β)
    {s : σ}
    (keeps : ∀ front b back u u', front ++ b :: back = done ++ bs → Inv front u →
      step u b = .ok u' → Inv (front ++ [b]) u')
    (fine : ∀ front b back u, front ++ b :: back = done ++ bs → Inv front u →
      ((∃ u', step u b = .ok u') ↔ Fine b))
    (holds : Inv done s) :
    (∃ t, runUntilFault step s bs = (t, none)) ↔ ∀ b ∈ bs, Fine b := by
  induction bs generalizing done s with
  | nil => simp [runUntilFault]
  | cons b rest ih =>
      have here := fine done b rest s rfl holds
      rw [runUntilFault, List.forall_mem_cons]
      cases taken : step s b with
      | error f =>
          rw [taken] at here
          -- The run ends here, at a member that is not fine.
          have refused : ¬ Fine b := fun h => by simpa using here.mpr h
          simp [refused]
      | ok s' =>
          have passed : Fine b := here.mp ⟨s', taken⟩
          have next := keeps done b rest s s' rfl holds taken
          simpa [passed] using
            ih (done ++ [b]) (by simpa using keeps) (by simpa using fine) next

/-- A run over a picture of the states is the picture of the run, if this is so of every step.  What is left out of
the picture is not looked at by the run. -/
theorem runUntilFault_hom {τ : Type} (f : σ → τ) {step' : τ → β → Except Fault τ}
    (hom : ∀ s b, step' (f s) b = (step s b).map f) (s : σ) (bs : List β) :
    runUntilFault step' (f s) bs = Prod.map f id (runUntilFault step s bs) := by
  induction bs generalizing s with
  | nil => rfl
  | cons b rest ih =>
      rw [runUntilFault, runUntilFault, hom]
      cases step s b with
      | error fault => rfl
      | ok t => exact ih t

/-- A run over members that are all given is a fold. -/
theorem runUntilFault_map_ok (f : σ → β → σ) (bs : List β) (s : σ) :
    runUntilFault (fun s (given : Except Fault β) => given.map (f s)) s (bs.map .ok)
      = (bs.foldl f s, none) := by
  induction bs generalizing s with
  | nil => rfl
  | cons b rest ih => exact ih (f s b)

end Runs

end CodeAtlas
