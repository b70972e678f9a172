import Scribe.Files.Script

/-!
# Contracts of scripts

What can be said of every run of a script, whichever of its calls fail. A contract has two parts:
`during` holds of every tree that the run passes through before it is over, and `post` holds of the
result and the tree at the end. Which calls may fail, and how, is a parameter (`May`), so that one
proof about a script covers runs without faults, runs in which only repairs succeed for sure, and
runs in which anything may fail.

- `Script.Ensures may during post s t`: the contract, by recursion on the script.
- `Ensures.run`: what the contract says of the runs with faults.
- `ensures_bind`, `ensures_tryCatch`, `ensures_attempt`, ...: one rule for each way to make an
  action, so that a proof follows the text of the action.
-/

namespace Scribe

namespace Files

/-- Which faults a run may meet. -/
abbrev May := Purpose → Call → Script.Fault → Prop

namespace Script

variable {α β : Type} {may : May} {during : Tree → Prop} {post : α → Tree → Prop}

/-- The faults all are among those that may be met. -/
def Within (faults : Faults) (may : May) : Prop :=
  ∀ n purpose c f, faults n purpose c = some f → may purpose c f

/-! ## The trees that a call may leave when it fails -/

/-- A call that fails leaves the tree as it was, but for a file that was written in part. -/
def Leaves (c : Call) (t u : Tree) : Prop :=
  u = t ∨ ∃ p bytes written, c = .write p bytes ∧ u = (t.perform (.write p written)).2

theorem leaves_refl (c : Call) (t : Tree) : Leaves c t t := .inl rfl

theorem leaves_leave (f : Fault) (c : Call) (t : Tree) : Leaves c t (f.leave c t) := by
  rw [Fault.leave.eq_def]
  split
  · exact .inr ⟨_, _, _, rfl, rfl⟩
  · exact leaves_refl _ t

theorem leaves_of_mem_statesDuring {c : Call} {t u : Tree} (h : u ∈ statesDuring c t) :
    Leaves c t u := by
  rw [statesDuring.eq_def] at h
  split at h
  · obtain ⟨_, _, rfl⟩ := List.mem_map.mp h
    exact .inr ⟨_, _, _, rfl, rfl⟩
  · cases h

/-- Only a write that fails may leave something behind. -/
def Clean : Call → Prop
  | .write _ _ => False
  | _ => True

theorem leaves_iff_of_clean {c : Call} (hc : Clean c) {t u : Tree} : Leaves c t u ↔ u = t := by
  refine ⟨fun h => ?_, .inl⟩
  obtain rfl | ⟨p, bytes, _, rfl, -⟩ := h
  · rfl
  · exact hc.elim

theorem leave_of_clean {c : Call} (hc : Clean c) (f : Fault) (t : Tree) : f.leave c t = t :=
  (leaves_iff_of_clean hc).mp (leaves_leave f c t)

/-! ## Contracts -/

/-- Whatever faults of those allowed a run meets, `during` holds of every tree up to its last call,
and `post` of its result and the tree at its end. -/
def Ensures (may : May) (during : Tree → Prop) (post : α → Tree → Prop) : Script α → Tree → Prop
  | done a, t => post a t
  | report _ next, t => next.Ensures may during post t
  | call purpose c next, t =>
    (∀ u, Leaves c t u → during u) ∧
      (next (t.perform c).1).Ensures may during post (t.perform c).2 ∧
      ∀ f, may purpose c f → (next (.error f.cause)).Ensures may during post (f.leave c t)

/-- A script keeps its contract in every run with faults that may be met. -/
theorem Ensures.run {s : Script α} {t : Tree} (h : s.Ensures may during post t) {faults : Faults}
    (within : Within faults may) (n : Nat) :
    post (s.runFaulty faults n t).result (s.runFaulty faults n t).tree ∧
      ∀ u ∈ (s.statesFaulty faults n t).dropLast, during u := by
  induction s generalizing n t with
  | done a => exact ⟨h, fun u hu => nomatch hu⟩
  | report e next ih => exact ih h n
  | call purpose c next ih =>
    obtain ⟨hd, hok, herror⟩ := h
    -- the states before the next call are those that this call may leave
    have key : ∀ rest : List Tree, rest ≠ [] → (∀ u ∈ rest.dropLast, during u) →
        ∀ u ∈ (t :: statesDuring c t ++ rest).dropLast, during u := by
      intro rest hne hr u hu
      rw [List.dropLast_append_of_ne_nil hne, List.mem_append, List.mem_cons] at hu
      rcases hu with (rfl | hu) | hu
      · exact hd _ (leaves_refl c _)
      · exact hd _ (leaves_of_mem_statesDuring hu)
      · exact hr _ hu
    have hne : ∀ (s : Script α) n t, s.statesFaulty faults n t ≠ [] := by
      intro s n t h
      have := getLast?_statesFaulty faults s n t
      rw [h] at this
      cases this
    rw [runFaulty, statesFaulty]
    cases hf : faults n purpose c with
    | none =>
      obtain ⟨hpost, hrest⟩ := ih _ hok (n + 1)
      exact ⟨hpost, key _ (hne _ _ _) hrest⟩
    | some f =>
      obtain ⟨hpost, hrest⟩ := ih _ (herror f (within n purpose c f hf)) (n + 1)
      exact ⟨hpost, key _ (hne _ _ _) hrest⟩

/-- What holds of every result and every tree holds at the end of a run. -/
theorem ensures_of_forall (hd : ∀ u, during u) (hp : ∀ a u, post a u) (s : Script α) (t : Tree) :
    s.Ensures may during post t := by
  induction s generalizing t with
  | done a => exact hp a t
  | report e next ih => exact ih t
  | call purpose c next ih => exact ⟨fun u _ => hd u, ih _ _, fun f _ => ih _ _⟩

theorem ensures_bind {s : Script α} {f : α → Script β} {post : β → Tree → Prop} {t : Tree} :
    (s.bind f).Ensures may during post t ↔
      s.Ensures may during (fun a u => (f a).Ensures may during post u) t := by
  induction s generalizing t with
  | done a => rfl
  | report e next ih => exact ih
  | call purpose c next ih => simp only [bind, Ensures, ih]

end Script

/-! ## Contracts of actions -/

namespace Action

open Script (Ensures Leaves)

variable {ε α β : Type} {may : May} {during : Tree → Prop} {post : Except ε α → Tree → Prop}
  {t : Tree}

/-- The contract of an action, as a script with a result or a failure. -/
abbrev Ensures (may : May) (during : Tree → Prop) (post : Except ε α → Tree → Prop)
    (a : Action ε α) (t : Tree) : Prop := Script.Ensures may during post (ExceptT.run a) t

theorem ensures_pure {a : α} : Ensures may during post (pure a) t ↔ post (.ok a) t := Iff.rfl

theorem ensures_throw {e : ε} : Ensures may during post (throw e) t ↔ post (.error e) t := Iff.rfl

theorem ensures_bind {x : Action ε α} {f : α → Action ε β} {post : Except ε β → Tree → Prop} :
    Ensures may during post (x >>= f) t ↔
      Ensures may during (fun r u => match r with
        | .ok a => Ensures may during post (f a) u
        | .error e => post (.error e) u) x t := by
  refine Script.ensures_bind.trans (Iff.of_eq (congrArg (Script.Ensures may during · _ t) ?_))
  funext r u
  cases r <;> rfl

theorem ensures_tryCatch {x : Action ε α} {f : ε → Action ε α} :
    Ensures may during post (tryCatch x f) t ↔
      Ensures may during (fun r u => match r with
        | .ok a => post (.ok a) u
        | .error e => Ensures may during post (f e) u) x t := by
  refine Script.ensures_bind.trans (Iff.of_eq (congrArg (Script.Ensures may during · _ t) ?_))
  funext r u
  cases r <;> rfl

theorem ensures_adapt {ε' : Type} {x : Action ε α} {f : ε → ε'}
    {post : Except ε' α → Tree → Prop} :
    Ensures may during post (x.adapt f) t ↔
      Ensures may during (fun r u => post (r.mapError f) u) x t :=
  Script.ensures_bind

theorem ensures_report {e : Event} {post : Except ε Unit → Tree → Prop} :
    Ensures may during post (report e) t ↔ post (.ok ()) t := Iff.rfl

/-- A call whose answer is handed over: it is performed, or it fails and leaves what it may. -/
theorem ensures_ask {c : Call} {post : Except ε (Except SystemError c.Answer) → Tree → Prop}
    (hd : ∀ u, Leaves c t u → during u) (hok : post (.ok (t.perform c).1) (t.perform c).2)
    (herror : ∀ f, may .work c f → post (.ok (.error f.cause)) (f.leave c t)) :
    Ensures may during post (ask c) t :=
  ⟨hd, hok, herror⟩

/-- A call that leaves nothing behind when it fails, and whose answer is handed over. -/
theorem ensures_ask_of_clean {c : Call}
    {post : Except ε (Except SystemError c.Answer) → Tree → Prop} (hc : Script.Clean c)
    (hd : during t) (hok : post (.ok (t.perform c).1) (t.perform c).2)
    (herror : ∀ f, may .work c f → post (.ok (.error f.cause)) t) :
    Ensures may during post (ask c) t := by
  refine ⟨fun u hu => ?_, hok, fun f hf => ?_⟩
  · rw [(Script.leaves_iff_of_clean hc).mp hu]
    exact hd
  · rw [Script.leave_of_clean hc]
    exact herror f hf

/-- A call that leaves nothing behind when it fails, where it does not matter how it fails. -/
theorem ensures_ask_cases {c : Call}
    {post : Except ε (Except SystemError c.Answer) → Tree → Prop} (hc : Script.Clean c)
    (hd : during t)
    (hok : ∀ answer, (t.perform c).1 = .ok answer → post (.ok (.ok answer)) (t.perform c).2)
    (herror : ∀ e, post (.ok (.error e)) t) :
    Ensures may during post (ask c) t := by
  refine ensures_ask_of_clean hc hd ?_ fun f _ => herror f.cause
  cases h : (t.perform c).1 with
  | ok answer => exact hok answer h
  | error e =>
    rw [Tree.perform_error h]
    exact herror e

/-- A repair that leaves nothing behind when it fails. -/
theorem ensures_repair {c : Call} {post : Except ε (Except SystemError c.Answer) → Tree → Prop}
    (hc : Script.Clean c) (hd : during t) (hok : post (.ok (t.perform c).1) (t.perform c).2)
    (herror : ∀ f, may .repair c f → post (.ok (.error f.cause)) t) :
    Ensures may during post (repair c) t := by
  refine ⟨fun u hu => ?_, hok, fun f hf => ?_⟩
  · rw [(Script.leaves_iff_of_clean hc).mp hu]
    exact hd
  · rw [Script.leave_of_clean hc]
    exact herror f hf

/-- A call whose failure is a failure of the action. -/
theorem ensures_attempt {c : Call} {failure : SystemError → ε}
    {post : Except ε c.Answer → Tree → Prop} (hd : ∀ u, Leaves c t u → during u)
    (hok : ∀ answer, (t.perform c).1 = .ok answer → post (.ok answer) (t.perform c).2)
    (herror : ∀ e u, Leaves c t u → post (.error (failure e)) u) :
    Ensures may during post (attempt c failure) t := by
  refine ensures_bind.mpr (ensures_ask hd ?_ fun f _ => ?_)
  · cases h : (t.perform c).1 with
    | ok answer => exact hok answer h
    | error e => exact herror e _ (.inl (Tree.perform_error h))
  · exact herror f.cause _ (Script.leaves_leave f c t)

/-- A call that leaves nothing behind when it fails. -/
theorem ensures_attempt_of_clean {c : Call} {failure : SystemError → ε}
    {post : Except ε c.Answer → Tree → Prop} (hc : Script.Clean c) (hd : during t)
    (hok : ∀ answer, (t.perform c).1 = .ok answer → post (.ok answer) (t.perform c).2)
    (herror : ∀ e, post (.error (failure e)) t) :
    Ensures may during post (attempt c failure) t := by
  refine ensures_attempt (fun u hu => ?_) hok fun e u hu => ?_
  · rw [(Script.leaves_iff_of_clean hc).mp hu]
    exact hd
  · rw [(Script.leaves_iff_of_clean hc).mp hu]
    exact herror e

end Action

end Files

end Scribe
