/-!
# Computations that can fail

A computation put together from several succeeds when each of them does, and fails at the first one
that does.
-/

namespace SampleModels

theorem bind_eq_ok_iff {ε α β : Type} {x : Except ε α} {next : α → Except ε β} {b : β} :
    x >>= next = .ok b ↔ ∃ a, x = .ok a ∧ next a = .ok b := by
  cases x with
  | error error => simp [bind, Except.bind]
  | ok a => simp [bind, Except.bind]

/-- A run of steps fails at the first step that does. -/
theorem foldlM_eq_error_iff {α σ ε : Type} (step : σ → α → Except ε σ) (start : σ)
    (xs : List α) (error : ε) :
    xs.foldlM step start = .error error ↔
      ∃ before x after s, xs = before ++ x :: after ∧ before.foldlM step start = .ok s ∧
        step s x = .error error := by
  constructor
  · intro h
    induction xs generalizing start with
    | nil => cases h
    | cons y ys ih =>
      rw [List.foldlM_cons] at h
      cases hy : step start y with
      | error e =>
        rw [hy] at h
        exact ⟨[], y, ys, start, rfl, rfl, hy.trans h⟩
      | ok next =>
        rw [hy] at h
        obtain ⟨before, x, after, s, rfl, hb, hx⟩ := ih next h
        refine ⟨y :: before, x, after, s, rfl, ?_, hx⟩
        rw [List.foldlM_cons, hy]
        exact hb
  · rintro ⟨before, x, after, s, rfl, hb, hx⟩
    rw [List.foldlM_append, hb]
    show (step s x >>= fun s => after.foldlM step s) = _
    rw [hx]
    rfl

/-- Where `f` succeeds on what satisfies `p`, with the result `g`, a traversal succeeds on lists of
these. -/
theorem mapM_eq_ok_iff {α β ε : Type} {f : α → Except ε β} {p : α → Prop} {g : α → β}
    (h : ∀ x y, f x = .ok y ↔ p x ∧ y = g x) {xs : List α} {ys : List β} :
    xs.mapM f = .ok ys ↔ (∀ x ∈ xs, p x) ∧ ys = xs.map g := by
  induction xs generalizing ys with
  | nil => simp [pure, Except.pure, eq_comm]
  | cons x xs ih =>
    rw [List.mapM_cons, List.forall_mem_cons]
    cases hx : f x with
    | error e =>
      have hp : ¬ p x := by
        intro hp
        rw [(h x (g x)).mpr ⟨hp, rfl⟩] at hx
        cases hx
      simp [bind, Except.bind, hp]
    | ok y =>
      obtain ⟨hp, rfl⟩ := (h x y).mp hx
      cases hxs : xs.mapM f with
      | error e =>
        have hn : ¬ ∀ x ∈ xs, p x := by
          intro hn
          rw [ih.mpr ⟨hn, rfl⟩] at hxs
          cases hxs
        simp [bind, Except.bind, hn]
      | ok rest =>
        obtain ⟨hr, rfl⟩ := ih.mp hxs
        rw [and_iff_right ⟨hp, hr⟩]
        simp [bind, Except.bind, pure, Except.pure, eq_comm]

/-- A traversal fails at the first element at fault. -/
theorem exists_of_mapM_eq_error {α β ε : Type} {f : α → Except ε β} {xs : List α} {e : ε}
    (h : xs.mapM f = .error e) :
    ∃ before x after, xs = before ++ x :: after ∧ (∀ y ∈ before, ∃ z, f y = .ok z) ∧
      f x = .error e := by
  induction xs with
  | nil => cases h
  | cons x xs ih =>
    rw [List.mapM_cons] at h
    cases hx : f x with
    | error e' =>
      rw [hx] at h
      cases h
      exact ⟨[], x, xs, rfl, by simp, hx⟩
    | ok z =>
      cases hxs : xs.mapM f with
      | error e' =>
        rw [hx, hxs] at h
        cases h
        obtain ⟨before, y, after, rfl, hb, hy⟩ := ih hxs
        exact ⟨x :: before, y, after, rfl, List.forall_mem_cons.mpr ⟨⟨z, hx⟩, hb⟩, hy⟩
      | ok rest =>
        rw [hx, hxs] at h
        cases h

end SampleModels
