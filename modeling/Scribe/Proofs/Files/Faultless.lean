import Scribe.Proofs.Files.Contract

/-!
# Runs without faults

Where the file system fails only for what is in the tree, a run is determined by the tree. One rule
for each way to make an action says how its run ends, so that a run is followed step by step.

- `Yields a t r u`: the run of `a` on `t` ends with the result `r` and leaves `u`.
- `yields_bind`, `yields_tryCatch_error`, `yields_attempt_ok`, …: the rules; `yields_bind_ok_iff` takes a
  row apart.
- `Yields.unique`: a run ends in one way only.
-/

namespace Scribe

namespace Files

namespace Action

variable {ε α β : Type} {t u v : Tree}

/-- The run of an action on a tree, without faults, ends with a result and leaves a tree. -/
def Yields (a : Action ε α) (t : Tree) (r : Except ε α) (u : Tree) : Prop :=
  ((ExceptT.run a).run t).result = r ∧ ((ExceptT.run a).run t).tree = u

theorem exists_yields (a : Action ε α) (t : Tree) : ∃ r u, Yields a t r u := ⟨_, _, rfl, rfl⟩

theorem Yields.unique {a : Action ε α} {r r' : Except ε α} (h : Yields a t r u)
    (h' : Yields a t r' v) : r = r' ∧ u = v :=
  ⟨h.1.symm.trans h'.1, h.2.symm.trans h'.2⟩

/-- A run without faults is one of those with faults. -/
theorem Yields.runFaulty {a : Action ε α} {r : Except ε α} (h : Yields a t r u) (n : Nat) :
    ((ExceptT.run a).runFaulty (fun _ _ _ => none) n t).result = r ∧
      ((ExceptT.run a).runFaulty (fun _ _ _ => none) n t).tree = u := by
  rw [Script.runFaulty_none]
  exact h

/-! ## Actions in a row -/

theorem yields_pure (a : α) (t : Tree) : Yields (pure a : Action ε α) t (.ok a) t := ⟨rfl, rfl⟩

theorem yields_throw (e : ε) (t : Tree) : Yields (throw e : Action ε α) t (.error e) t := ⟨rfl, rfl⟩

theorem yields_report (e : Event) (t : Tree) : Yields (report e : Action ε Unit) t (.ok ()) t :=
  ⟨rfl, rfl⟩

/-- A script that goes on after another runs on what that leaves. -/
theorem run_script_bind {s : Script α} {f : α → Script β} {a : α}
    (h : (s.run t).result = a ∧ (s.run t).tree = u) :
    ((s.bind f).run t).result = ((f a).run u).result ∧ ((s.bind f).run t).tree = ((f a).run u).tree := by
  obtain ⟨rfl, rfl⟩ := h
  have hbind := Script.run_bind s f t
  change (s.bind f).run t = _ at hbind
  rw [hbind]
  exact ⟨rfl, rfl⟩

theorem yields_bind {x : Action ε α} {f : α → Action ε β} {a : α} {r : Except ε β}
    (h : Yields x t (.ok a) u) (h' : Yields (f a) u r v) : Yields (x >>= f) t r v := by
  have hrun := run_script_bind (f := ExceptT.bindCont f) h
  exact ⟨hrun.1.trans h'.1, hrun.2.trans h'.2⟩

theorem yields_bind_error {x : Action ε α} {f : α → Action ε β} {e : ε}
    (h : Yields x t (.error e) u) : Yields (x >>= f) t (.error e) u :=
  run_script_bind (f := ExceptT.bindCont f) h

/-- What succeeds in a row succeeds at each step. -/
theorem yields_bind_ok_iff {x : Action ε α} {f : α → Action ε β} {b : β} :
    Yields (x >>= f) t (.ok b) v ↔ ∃ a u, Yields x t (.ok a) u ∧ Yields (f a) u (.ok b) v := by
  refine ⟨fun h => ?_, fun ⟨a, u, hx, hf⟩ => yields_bind hx hf⟩
  obtain ⟨r, u, hx⟩ := exists_yields x t
  cases r with
  | ok a =>
    obtain ⟨r, w, hf⟩ := exists_yields (f a) u
    obtain ⟨rfl, rfl⟩ := h.unique (yields_bind hx hf)
    exact ⟨a, u, hx, hf⟩
  | error e => exact nomatch (h.unique (yields_bind_error hx)).1

/-- What becomes of a result when errors are handled. -/
def handled (handle : ε → Action ε α) : Except ε α → Script (Except ε α)
  | .ok a => .done (.ok a)
  | .error e => handle e

theorem yields_tryCatch_ok {x : Action ε α} {handle : ε → Action ε α} {a : α}
    (h : Yields x t (.ok a) u) : Yields (tryCatch x handle) t (.ok a) u :=
  run_script_bind (f := handled handle) h

theorem yields_tryCatch_error {x : Action ε α} {handle : ε → Action ε α} {e : ε} {r : Except ε α}
    (h : Yields x t (.error e) u) (h' : Yields (handle e) u r v) :
    Yields (tryCatch x handle) t r v := by
  have hrun := run_script_bind (f := handled handle) h
  exact ⟨hrun.1.trans h'.1, hrun.2.trans h'.2⟩

theorem yields_adapt {ε' : Type} {x : Action ε α} {r : Except ε α} (h : Yields x t r u) (f : ε → ε') :
    Yields (x.adapt f) t (r.mapError f) u :=
  run_script_bind (f := fun r : Except ε α => Script.done (r.mapError f)) h

/-! ## Calls -/

theorem yields_ask (c : Call) (t : Tree) :
    Yields (ask c : Action ε _) t (.ok (t.perform c).1) (t.perform c).2 := ⟨rfl, rfl⟩

theorem yields_repair (c : Call) (t : Tree) :
    Yields (repair c : Action ε _) t (.ok (t.perform c).1) (t.perform c).2 := ⟨rfl, rfl⟩

/-- What follows a call depends on its answer, and starts in the tree that it leaves. -/
theorem yields_ask_bind {c : Call} {answer : Except SystemError c.Answer}
    {f : Except SystemError c.Answer → Action ε β} {r : Except ε β}
    (h : t.perform c = (answer, u)) (h' : Yields (f answer) u r v) :
    Yields (ask c >>= f) t r v := by
  have hasked : Yields (ask c : Action ε _) t (.ok answer) u := by
    have hask : Yields (ask c : Action ε _) t _ _ := yields_ask c t
    rw [h] at hask
    exact hask
  exact yields_bind hasked h'

/-- Asking what a path leads to changes nothing. -/
theorem yields_status_bind {p : Text} {answer : Except SystemError Status}
    {f : Except SystemError Status → Action ε β} {r : Except ε β} (h : t.status p = answer)
    (h' : Yields (f answer) t r v) : Yields (ask (.status p) >>= f) t r v := by
  have hperform : t.perform (.status p) = (answer, t) := by rw [Tree.perform, h, Tree.asked]
  exact yields_ask_bind hperform h'

theorem yields_attempt_ok {c : Call} {failure : SystemError → ε} {answer : c.Answer}
    (h : t.perform c = (.ok answer, u)) : Yields (attempt c failure) t (.ok answer) u :=
  yields_ask_bind h (yields_pure answer u)

theorem yields_attempt_error {c : Call} {failure : SystemError → ε} {e : SystemError}
    (h : (t.perform c).1 = .error e) : Yields (attempt c failure) t (.error (failure e)) t := by
  have hperform : t.perform c = (.error e, t) := Prod.ext h (Tree.perform_error h)
  exact yields_ask_bind hperform (yields_throw (failure e) t)

end Action

end Files

end Scribe
