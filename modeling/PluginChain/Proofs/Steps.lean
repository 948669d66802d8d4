/-!
# Steps that may fail

Of two steps the second is taken with what the first one gives. Both must succeed, and the first
that fails decides.

Main statements:
* `bind_eq_ok_iff`: the steps succeed if and only if each of them does, in turn.
* `bind_eq_error_iff`: they fail with the failure of the first, or with that of the second after the
  first succeeded.
-/

namespace PluginChain

variable {ε α β : Type} {x : Except ε α} {f : α → Except ε β}

theorem bind_eq_ok_iff {b : β} : x >>= f = .ok b ↔ ∃ a, x = .ok a ∧ f a = .ok b := by
  cases x with
  | error e => simp [bind, Except.bind]
  | ok a => simp [bind, Except.bind]

theorem bind_eq_error_iff {e : ε} :
    x >>= f = .error e ↔ x = .error e ∨ ∃ a, x = .ok a ∧ f a = .error e := by
  cases x with
  | error e => simp [bind, Except.bind]
  | ok a => simp [bind, Except.bind]

end PluginChain
