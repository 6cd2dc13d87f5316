import FuseVolumes.Proofs.Program.Exclusion

/-!
# Requests that take time

Work takes time, in which other tasks go on: a request for it begins, and ends with its reply at
some later step (`Locking.steps`). Tasks that heed their names do so in such steps as well
(`heeds_steps`), so their work excludes each other from its first beginning to its last end.
-/

namespace FuseVolumes.Program

variable {I : Interface} {α σ : Type}

/-- A step of a request. -/
inductive Step (I : Interface)
  | begins (call : I.Call)
  | ends (call : I.Call)

@[reducible] def Step.Reply {I : Interface} : Step I → Type
  | .begins _ => Unit
  | .ends call => I.Reply call

/-- The interface of steps. -/
@[reducible] def stepwise (I : Interface) : Interface := ⟨Step I, Step.Reply⟩

/-- Work begins before it ends, all other requests are done at once. -/
def Locking.steps (L : Locking I) (call : I.Call) : Program (stepwise I) (I.Reply call) :=
  match L.role call with
  | .work => .ask (I := stepwise I) (.begins call) fun _ =>
    .ask (I := stepwise I) (.ends call) .done
  | _ => .ask (I := stepwise I) (.ends call) .done

/-- Both steps of work are work. -/
def Locking.overSteps (L : Locking I) : Locking (stepwise I) where
  role
    | .begins call => if L.role call = .work then .work else .aside
    | .ends call => L.role call
  grants
    | .begins _, _ => false
    | .ends call, reply => L.grants call reply

section Steps

variable {L : Locking I}

theorem Locking.steps_of_work {call : I.Call} (h : L.role call = .work) :
    L.steps call = .ask (I := stepwise I) (.begins call) fun _ =>
      .ask (I := stepwise I) (.ends call) .done := by
  rw [Locking.steps, h]

theorem Locking.steps_of_ne {call : I.Call} (h : L.role call ≠ .work) :
    L.steps call = .ask (I := stepwise I) (.ends call) .done := by
  rw [Locking.steps]
  split
  next work => exact absurd work h
  next => rfl

theorem Locking.begins_role (L : Locking I) (call : I.Call) :
    L.overSteps.role (.begins call) = .work ∨ L.overSteps.role (.begins call) = .aside := by
  by_cases h : L.role call = .work
  · exact .inl (if_pos h)
  · exact .inr (if_neg h)

theorem heeds_steps {name : String} {wanted : Phase → α → Prop} {phase : Phase}
    {p : Program I α} (h : Heeds L name wanted phase p) :
    Heeds L.overSteps name wanted phase (p.via L.steps) := by
  refine h.via fun call phase f allows goes => ?_
  have ended : Heeds L.overSteps name wanted phase (.ask (I := stepwise I) (.ends call) f) :=
    ⟨allows, goes⟩
  by_cases work : L.role call = .work
  · have begins : L.overSteps.role (.begins call) = .work := if_pos work
    rw [Locking.steps_of_work work]
    refine ⟨by rwa [begins, ← work], fun reply => ?_⟩
    rw [Locking.after, begins]
    exact ended
  · rw [Locking.steps_of_ne work]
    exact ended

end Steps

/-- A request does what it does when it ends. -/
def handleSteps (handler : Handler I σ) : Handler (stepwise I) σ
  | .begins _, s => ((), s)
  | .ends call, s => handler call s

theorem Reserves.steps {L : Locking I} {handler : Handler I σ} {reservations : σ → Reservations}
    (law : Reserves L handler reservations) :
    Reserves L.overSteps (handleSteps handler) reservations where
  grants step s name role := by
    cases step with
    | begins call => rcases L.begins_role call with h | h <;> cases h.symm.trans role
    | ends call => exact law.grants call s name role
  acquires step s name role := by
    cases step with
    | begins call => rcases L.begins_role call with h | h <;> cases h.symm.trans role
    | ends call => exact law.acquires call s name role
  releases step s name role := by
    cases step with
    | begins call => rcases L.begins_role call with h | h <;> cases h.symm.trans role
    | ends call => exact law.releases call s name role
  spares step s role := by
    cases step with
    | begins call => rfl
    | ends call => exact law.spares call s role

end FuseVolumes.Program
