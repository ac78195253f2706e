import Mathlib.Data.List.Forall2

/-!
# Outcomes

Inversion for computations that end in a value or in a fault. The functions of the library are
chains of such computations; here a chain is taken apart once, so that no later proof has to look
into `bind`.

* **`bind_eq_ok`**, **`bind_eq_error`** — what a chain of two ends in.
* **`mapM_eq_ok`** — a list is treated without a fault iff every member is.
* **`mapM_eq_error`** — a list fails with the fault of its *first* member that fails.
* **`FailsOnly`** — all faults of a computation are of one kind, which chains keep.
-/

namespace ExpectFile.Outcome

variable {ε α β γ : Type}

/-! ## Chains of two -/

theorem bind_eq_ok {x : Except ε α} {f : α → Except ε β} {b : β} :
    (x >>= f) = .ok b ↔ ∃ a, x = .ok a ∧ f a = .ok b := by
  cases x <;> simp [bind, Except.bind]

theorem bind_eq_error {x : Except ε α} {f : α → Except ε β} {e : ε} :
    (x >>= f) = .error e ↔ x = .error e ∨ ∃ a, x = .ok a ∧ f a = .error e := by
  cases x <;> simp [bind, Except.bind]

theorem map_eq_ok {x : Except ε α} {f : α → β} {b : β} :
    x.map f = .ok b ↔ ∃ a, x = .ok a ∧ f a = b := by
  cases x <;> simp [Except.map]

theorem map_eq_error {x : Except ε α} {f : α → β} {e : ε} :
    x.map f = .error e ↔ x = .error e := by
  cases x <;> simp [Except.map]

/-- A chain that ends in a value of its own making succeeds where its beginning does. -/
theorem exists_bind_pure_eq_ok {x : Except ε α} {f : α → β} :
    (∃ b, (x >>= fun a => pure (f a)) = .ok b) ↔ ∃ a, x = .ok a := by
  cases x <;> simp [bind, Except.bind, pure, Except.pure]

/-- And fails where its beginning does. -/
theorem bind_pure_eq_error {x : Except ε α} {f : α → β} {e : ε} :
    (x >>= fun a => pure (f a)) = .error e ↔ x = .error e := by
  cases x <;> simp [bind, Except.bind, pure, Except.pure]

/-- A value is what an outcome comes to iff it is the value of the outcome. This is how a
computation on a given input is evaluated where faults cannot be compared. -/
theorem toOption_eq_some_iff {x : Except ε α} {a : α} : x.toOption = some a ↔ x = .ok a := by
  cases x <;> simp [Except.toOption]

/-! ## Lists -/

/-- A list is treated without a fault iff each member is, one after the other. -/
theorem mapM_eq_ok {f : α → Except ε β} {xs : List α} {ys : List β} :
    xs.mapM f = .ok ys ↔ List.Forall₂ (fun x y => f x = .ok y) xs ys := by
  induction xs generalizing ys with
  | nil =>
    rw [List.forall₂_nil_left_iff]
    show Except.ok [] = Except.ok ys ↔ ys = []
    rw [Except.ok.injEq, eq_comm]
  | cons x xs ih =>
    rw [List.mapM_cons, bind_eq_ok, List.forall₂_cons_left_iff]
    refine exists_congr fun y => ?_
    constructor
    · rintro ⟨hy, hrest⟩
      obtain ⟨zs, hzs, heq⟩ := bind_eq_ok.mp hrest
      exact ⟨zs, hy, ih.mp hzs, (Except.ok.inj heq).symm⟩
    · rintro ⟨zs, hy, hzs, rfl⟩
      exact ⟨hy, bind_eq_ok.mpr ⟨zs, ih.mpr hzs, rfl⟩⟩

/-- A list can be treated iff each member can. -/
theorem exists_mapM_eq_ok {f : α → Except ε β} {xs : List α} :
    (∃ ys, xs.mapM f = .ok ys) ↔ ∀ x ∈ xs, ∃ y, f x = .ok y := by
  induction xs with
  | nil => exact ⟨fun _ x hx => absurd hx List.not_mem_nil, fun _ => ⟨[], rfl⟩⟩
  | cons x xs ih =>
    rw [List.forall_mem_cons, ← ih]
    constructor
    · rintro ⟨ys, hys⟩
      rw [mapM_eq_ok, List.forall₂_cons_left_iff] at hys
      obtain ⟨y, zs, hy, hzs, -⟩ := hys
      exact ⟨⟨y, hy⟩, zs, mapM_eq_ok.mpr hzs⟩
    · rintro ⟨⟨y, hy⟩, zs, hzs⟩
      exact ⟨y :: zs, mapM_eq_ok.mpr (.cons hy (mapM_eq_ok.mp hzs))⟩

/-- A list fails with the fault of the first member that fails. -/
theorem mapM_eq_error {f : α → Except ε β} {xs : List α} {e : ε} :
    xs.mapM f = .error e ↔
      ∃ before x after, xs = before ++ x :: after ∧ (∀ y ∈ before, ∃ b, f y = .ok b)
        ∧ f x = .error e := by
  induction xs with
  | nil =>
    constructor
    · intro h
      exact absurd h (by rw [List.mapM_nil]; nofun)
    · rintro ⟨before, x, after, heq, -⟩
      simp at heq
  | cons x xs ih =>
    rw [List.mapM_cons, bind_eq_error]
    constructor
    · rintro (hx | ⟨y, hy, hrest⟩)
      · exact ⟨[], x, xs, rfl, fun y hy => absurd hy List.not_mem_nil, hx⟩
      · -- the head is fine, so the fault comes from the tail
        rcases bind_eq_error.mp hrest with htail | ⟨ys, -, hpure⟩
        · obtain ⟨before, z, after, rfl, hbefore, hz⟩ := ih.mp htail
          exact ⟨x :: before, z, after, rfl, List.forall_mem_cons.mpr ⟨⟨y, hy⟩, hbefore⟩, hz⟩
        · exact absurd hpure nofun
    · rintro ⟨before, z, after, heq, hbefore, hz⟩
      cases before with
      | nil =>
        rw [List.nil_append, List.cons.injEq] at heq
        exact Or.inl (heq.1 ▸ hz)
      | cons w before =>
        rw [List.cons_append, List.cons.injEq] at heq
        obtain ⟨rfl, rfl⟩ := heq
        rw [List.forall_mem_cons] at hbefore
        obtain ⟨⟨y, hy⟩, hbefore⟩ := hbefore
        exact Or.inr ⟨y, hy, bind_eq_error.mpr (Or.inl (ih.mpr ⟨before, z, after, rfl, hbefore, hz⟩))⟩

/-! ## Kinds of faults -/

/-- The computation has a value, or a fault of the kind. -/
def FailsOnly (kind : ε → Prop) (x : Except ε α) : Prop := ∀ e, x = .error e → kind e

namespace FailsOnly

variable {kind : ε → Prop}

theorem ok (a : α) : FailsOnly kind (.ok a : Except ε α) := nofun

theorem error {e : ε} (h : kind e) : FailsOnly kind (.error e : Except ε α) :=
  fun _ heq => Except.error.inj heq ▸ h

/-- A chain fails as its links do. -/
theorem bind {x : Except ε α} {f : α → Except ε β} (hx : FailsOnly kind x)
    (hf : ∀ a, FailsOnly kind (f a)) : FailsOnly kind (x >>= f) := by
  intro e h
  rcases bind_eq_error.mp h with hfirst | ⟨a, -, hsecond⟩
  · exact hx e hfirst
  · exact hf a e hsecond

theorem map {x : Except ε α} (hx : FailsOnly kind x) (f : α → β) :
    FailsOnly kind (x.map f) :=
  fun e h => hx e (map_eq_error.mp h)

end FailsOnly

end ExpectFile.Outcome
