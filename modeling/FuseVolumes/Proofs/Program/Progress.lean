import FuseVolumes.Proofs.Program.Requests

/-!
What programs are still going to ask for, whatever they are told, as long as replies are fair.

* `Owes fair goal p`: sooner or later `p` makes a request that meets the goal.
* `Follows fair trigger goal p`: after every request that is a trigger, `p` owes one that meets the
  goal.
-/

namespace FuseVolumes.Program

variable {I : Interface} {α β σ ε δ : Type} {fair fair' : (call : I.Call) → I.Reply call → Prop}
  {allowed trigger goal : I.Call → Prop}

/-! ## Debts -/

/-- Under fair replies a request that meets the goal is made in the end. -/
def Owes (fair : (call : I.Call) → I.Reply call → Prop) (goal : I.Call → Prop) :
    Program I α → Prop
  | .done _ => False
  | .ask call next => goal call ∨ ∀ reply, fair call reply → (next reply).Owes fair goal

theorem Owes.mono {p : Program I α} (hp : p.Owes fair goal)
    (hfair : ∀ call reply, fair' call reply → fair call reply) : p.Owes fair' goal := by
  induction p with
  | done a => exact hp
  | ask call next ih =>
    rcases hp with h | h
    · exact .inl h
    · exact .inr fun reply hr => ih reply (h reply (hfair call reply hr))

theorem owes_bind_left {p : Program I α} {f : α → Program I β} (hp : p.Owes fair goal) :
    (p.bind f).Owes fair goal := by
  induction p with
  | done a => exact hp.elim
  | ask call next ih =>
    rcases hp with h | h
    · exact .inl h
    · exact .inr fun reply hr => ih reply (h reply hr)

theorem owes_bind_right {p : Program I α} {f : α → Program I β} {between : α → Prop}
    (hp : p.Obeys fair allowed between) (hf : ∀ a, between a → (f a).Owes fair goal) :
    (p.bind f).Owes fair goal := by
  induction p with
  | done a => exact hf a hp
  | ask call next ih => exact .inr fun reply hr => ih reply (hp.2 reply hr)

/-- A debt is met by a request that the program may make. -/
theorem Owes.exists_call {p : Program I α} (hp : p.Owes fair goal) (within : p.Within allowed)
    (replies : ∀ call, ∃ reply, fair call reply) : ∃ call, allowed call ∧ goal call := by
  induction p with
  | done a => exact hp.elim
  | ask call next ih =>
    rcases hp with h | h
    · exact ⟨call, within.1, h⟩
    · obtain ⟨reply, hr⟩ := replies call
      exact ih reply (h reply hr) (within.next reply)

/-! ## Debts that follow -/

/-- Every trigger is followed by a debt. -/
def Follows (fair : (call : I.Call) → I.Reply call → Prop) (trigger goal : I.Call → Prop) :
    Program I α → Prop
  | .done _ => True
  | .ask call next => ∀ reply, fair call reply →
    (trigger call → (next reply).Owes fair goal) ∧ (next reply).Follows fair trigger goal

theorem follows_of_within {p : Program I α} (hp : p.Within allowed)
    (h : ∀ call, allowed call → ¬ trigger call) : p.Follows fair trigger goal := by
  induction p with
  | done a => trivial
  | ask call next ih =>
    exact fun reply _ => ⟨fun ht => absurd ht (h call hp.1), ih reply (hp.next reply)⟩

theorem follows_bind {p : Program I α} {f : α → Program I β} {between : α → Prop}
    (hp : p.Follows fair trigger goal) (ha : p.Obeys fair allowed between)
    (hf : ∀ a, between a → (f a).Follows fair trigger goal) :
    (p.bind f).Follows fair trigger goal := by
  induction p with
  | done a => exact hf a ha
  | ask call next ih =>
    exact fun reply hr => ⟨fun ht => owes_bind_left ((hp reply hr).1 ht),
      ih reply (hp reply hr).2 (ha.2 reply hr)⟩

theorem Follows.next {call : I.Call} {next : I.Reply call → Program I α} {reply : I.Reply call}
    (h : (Program.ask call next).Follows fair trigger goal) (hr : fair call reply) :
    (next reply).Follows fair trigger goal :=
  (h reply hr).2

/-! ## Debts among tasks -/

/-- One of the tasks is in debt. -/
def SomeOwes (fair : (call : I.Call) → I.Reply call → Prop) (goal : I.Call → Prop)
    (tasks : List (Program I α)) : Prop :=
  ∃ (i : Nat) (p : Program I α), tasks[i]? = some p ∧ p.Owes fair goal

theorem someOwes_set {tasks : List (Program I α)} {i : Nat} {q : Program I α}
    (hi : i < tasks.length) (hq : q.Owes fair goal) : SomeOwes fair goal (tasks.set i q) :=
  ⟨i, q, List.getElem?_set_self hi, hq⟩

/-- A debt stays until a request meets it. -/
theorem SomeOwes.set {tasks : List (Program I α)} {i : Nat} {call : I.Call}
    {next : I.Reply call → Program I α} {reply : I.Reply call} (h : SomeOwes fair goal tasks)
    (hi : tasks[i]? = some (.ask call next)) (hgoal : ¬ goal call) (hr : fair call reply) :
    SomeOwes fair goal (tasks.set i (next reply)) := by
  obtain ⟨j, p, hj, hp⟩ := h
  by_cases hij : i = j
  · subst hij
    obtain rfl : .ask call next = p := Option.some.inj (hi.symm.trans hj)
    rcases hp with hp | hp
    · exact absurd hp hgoal
    · exact someOwes_set (List.getElem?_eq_some_iff.mp hi).1 (hp reply hr)
  · exact ⟨j, p, (List.getElem?_set_ne hij).trans hj, hp⟩

theorem not_someOwes_done {answers : List α} :
    ¬ SomeOwes fair goal (answers.map (.done : α → Program I α)) := by
  rintro ⟨i, p, hi, hp⟩
  obtain ⟨a, -, rfl⟩ := Option.map_eq_some_iff.1 ((List.getElem?_map ..).symm.trans hi)
  exact hp

end FuseVolumes.Program
