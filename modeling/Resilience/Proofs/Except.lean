/-!
# When a computation answers a value, and when it fails

A chain of steps that can fail answers a value just if each of its steps answers one, and otherwise
fails as the first step that does.
-/

namespace Except

variable {ε ε' α β : Type}

theorem bind_eq_ok {x : Except ε α} {f : α → Except ε β} {b : β} :
    (x >>= f) = .ok b ↔ ∃ a, x = .ok a ∧ f a = .ok b := by
  cases x with
  | error e => simp [bind, Except.bind]
  | ok a => simp [bind, Except.bind]

theorem mapError_eq_ok {x : Except ε α} {f : ε → ε'} {a : α} :
    x.mapError f = .ok a ↔ x = .ok a := by
  cases x with
  | error e => exact ⟨nofun, nofun⟩
  | ok b =>
    constructor
    · rintro ⟨⟩
      rfl
    · rintro ⟨⟩
      rfl

theorem discard_eq_ok {x : Except ε α} {u : PUnit} : discard x = .ok u ↔ ∃ a, x = .ok a := by
  cases x <;> simp [discard, Functor.discard, Functor.mapConst, Except.map]

theorem toOption_eq_some {x : Except ε α} {a : α} : x.toOption = some a ↔ x = .ok a := by
  cases x <;> simp [Except.toOption]

theorem bind_eq_error {x : Except ε α} {f : α → Except ε β} {e : ε} :
    (x >>= f) = .error e ↔ x = .error e ∨ ∃ a, x = .ok a ∧ f a = .error e := by
  cases x with
  | error e' => simp [bind, Except.bind]
  | ok a => simp [bind, Except.bind]

theorem mapError_eq_error {x : Except ε α} {f : ε → ε'} {e : ε'} :
    x.mapError f = .error e ↔ ∃ e', x = .error e' ∧ f e' = e := by
  cases x with
  | error e' =>
    constructor
    · rintro ⟨⟩
      exact ⟨e', rfl, rfl⟩
    · rintro ⟨_, ⟨⟩, rfl⟩
      rfl
  | ok a => exact ⟨nofun, nofun⟩

theorem discard_eq_error {x : Except ε α} {e : ε} :
    (discard x : Except ε PUnit) = .error e ↔ x = .error e := by
  cases x <;> simp [discard, Functor.discard, Functor.mapConst, Except.map]

/-- Steps that answer nothing fail as the first of them that fails. -/
theorem forM_eq_error {steps : List (Except ε Unit)} {e : ε} :
    steps.forM id = .error e ↔
      ∃ n : Nat, steps[n]? = some (error e) ∧ ∀ m < n, steps[m]? = some (ok ()) := by
  induction steps with
  | nil => simp [pure, Except.pure]
  | cons x rest ih =>
    have hcons : (x :: rest).forM id = x >>= fun _ => rest.forM id := rfl
    rw [hcons, bind_eq_error, ih]
    constructor
    · rintro (rfl | ⟨_, rfl, n, hn, hbefore⟩)
      · exact ⟨0, rfl, nofun⟩
      · refine ⟨n + 1, hn, fun m hm => ?_⟩
        cases m with
        | zero => rfl
        | succ m => exact hbefore m (Nat.lt_of_succ_lt_succ hm)
    · rintro ⟨n, hn, hbefore⟩
      cases n with
      | zero => exact .inl (Option.some.inj hn)
      | succ n =>
        have hfirst : x = .ok () := Option.some.inj (hbefore 0 (Nat.succ_pos n))
        exact .inr ⟨(), hfirst, n, hn, fun m hm => hbefore (m + 1) (Nat.succ_lt_succ hm)⟩

end Except
