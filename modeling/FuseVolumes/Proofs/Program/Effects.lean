import FuseVolumes.Proofs.Program.Interleaving

/-!
# What runs do to a view of the surroundings

Requests may be answered in several ways, and each answer goes with some change of what is seen of
the surroundings (`Effects`). `Holds` says that, whatever the answers, every request meets a view as
it should and the end is as wanted. It passes through `bind`, and holds of every run against
surroundings that behave accordingly (`Holds.run`).
-/

namespace FuseVolumes.Program

variable {I : Interface} {α β σ τ ε δ : Type}

/-- Whether a request may be answered in a way and take one view to another. -/
abbrev Effects (I : Interface) (τ : Type) :=
  (call : I.Call) → I.Reply call → τ → τ → Prop

/-- Whatever the answers, every request meets a view as `during` says, and the answer and the last
view are as wanted. -/
def Holds (effects : Effects I τ) (during : I.Call → τ → Prop) (wanted : α → τ → Prop) :
    Program I α → τ → Prop
  | .done a, v => wanted a v
  | .ask call next, v => during call v ∧
    ∀ reply v', effects call reply v v' → (next reply).Holds effects during wanted v'

section Holds

variable {effects : Effects I τ} {during : I.Call → τ → Prop} {v : τ}

theorem holds_bind {p : Program I α} {f : α → Program I β} {between : α → τ → Prop}
    {wanted : β → τ → Prop} (hp : p.Holds effects during between v)
    (hf : ∀ a v', between a v' → (f a).Holds effects during wanted v') :
    (p.bind f).Holds effects during wanted v := by
  induction p generalizing v with
  | done a => exact hf a v hp
  | ask call next ih => exact ⟨hp.1, fun reply v' h => ih reply (hp.2 reply v' h)⟩

theorem Holds.mono {p : Program I α} {wanted wanted' : α → τ → Prop}
    (hp : p.Holds effects during wanted v) (hw : ∀ a v', wanted a v' → wanted' a v') :
    p.Holds effects during wanted' v := by
  induction p generalizing v with
  | done a => exact hw a v hp
  | ask call next ih => exact ⟨hp.1, fun reply v' h => ih reply (hp.2 reply v' h)⟩

/-- What is obeyed under fair replies holds whatever the replies change, if they are fair. -/
theorem holds_of_obeys {fair : (call : I.Call) → I.Reply call → Prop} {allowed : I.Call → Prop}
    {p : Program I α} {wanted : α → Prop} (h : p.Obeys fair allowed wanted)
    (told : ∀ call reply v v', effects call reply v v' → fair call reply) :
    p.Holds effects (fun call _ => allowed call) (fun a _ => wanted a) v := by
  induction p generalizing v with
  | done a => exact h
  | ask call next ih =>
    exact ⟨h.1, fun reply v' heff => ih reply (h.2 reply (told call reply v v' heff))⟩

/-- Requests that change nothing of the view leave it as it is. -/
theorem holds_of_spared {allowed : I.Call → Prop} {p : Program I α} (h : p.Within allowed)
    (spared : ∀ call reply v', allowed call → effects call reply v v' → v' = v) :
    p.Holds effects (fun _ _ => True) (fun _ v' => v' = v) v := by
  induction p with
  | done a => rfl
  | ask call next ih =>
    refine ⟨trivial, fun reply v' heff => ?_⟩
    rw [spared call reply v' h.1 heff]
    exact ih reply (h.next reply)

/-- What every request meets, and that it is allowed, hold at once. -/
theorem Holds.within {allowed : I.Call → Prop} {p : Program I α} {wanted : α → τ → Prop}
    (hp : p.Holds effects during wanted v) (h : p.Within allowed) :
    p.Holds effects (fun call v' => during call v' ∧ allowed call) wanted v := by
  induction p generalizing v with
  | done a => exact hp
  | ask call next ih =>
    exact ⟨⟨hp.1, h.1⟩, fun reply v' heff => ih reply (hp.2 reply v' heff) (h.next reply)⟩

theorem Holds.weaken {during' : I.Call → τ → Prop} {p : Program I α} {wanted : α → τ → Prop}
    (hp : p.Holds effects during wanted v) (h : ∀ call v', during call v' → during' call v') :
    p.Holds effects during' wanted v := by
  induction p generalizing v with
  | done a => exact hp
  | ask call next ih =>
    exact ⟨h call v hp.1, fun reply v' heff => ih reply (hp.2 reply v' heff)⟩

/-- What holds whatever requests do holds if they do less. -/
theorem Holds.restrict {effects' : Effects I τ} {p : Program I α} {wanted : α → τ → Prop}
    (hp : p.Holds effects during wanted v)
    (h : ∀ call reply v v', effects' call reply v v' → effects call reply v v') :
    p.Holds effects' during wanted v := by
  induction p generalizing v with
  | done a => exact hp
  | ask call next ih =>
    exact ⟨hp.1, fun reply v' heff => ih reply (hp.2 reply v' (h call reply v v' heff))⟩

theorem holds_orFail {p : Program I (Except δ α)} {words : δ → ε} {wanted : Except ε α → τ → Prop}
    (hp : p.Holds effects during (fun result v' => wanted (result.mapError words) v') v) :
    (p.orFail words).run.Holds effects during wanted v :=
  holds_bind hp fun _ _ h => h

theorem holds_liftM {p : Program I α} {wanted : Except ε α → τ → Prop}
    (hp : p.Holds effects during (fun a v' => wanted (.ok a) v') v) :
    (liftM p : ExceptT ε (Program I) α).run.Holds effects during wanted v :=
  holds_bind hp fun _ _ h => h

theorem holds_run_bind {x : ExceptT ε (Program I) α} {f : α → ExceptT ε (Program I) β}
    {between : Except ε α → τ → Prop} {wanted : Except ε β → τ → Prop}
    (hx : x.run.Holds effects during between v)
    (hok : ∀ a v', between (.ok a) v' → (f a).run.Holds effects during wanted v')
    (herror : ∀ e v', between (.error e) v' → wanted (.error e) v') :
    (x >>= f).run.Holds effects during wanted v := by
  refine holds_bind hx fun result v' h => ?_
  cases result with
  | ok a => exact hok a v' h
  | error e => exact herror e v' h

theorem holds_run_map {x : ExceptT ε (Program I) α} {f : α → β} {wanted : Except ε β → τ → Prop}
    (hx : x.run.Holds effects during (fun result v' => wanted (result.map f) v') v) :
    (do return f (← x) : ExceptT ε (Program I) β).run.Holds effects during wanted v := by
  refine holds_bind hx fun result v' h => ?_
  cases result <;> exact h

theorem holds_request_bind {call : I.Call} {f : I.Reply call → ExceptT ε (Program I) β}
    {wanted : Except ε β → τ → Prop} (h : during call v)
    (hf : ∀ reply v', effects call reply v v' → (f reply).run.Holds effects during wanted v') :
    ((liftM (request call) : ExceptT ε (Program I) _) >>= f).run.Holds effects during wanted v :=
  ⟨h, hf⟩

end Holds

/-! ## Runs -/

/-- The requests of a run, each with the state that it meets. -/
def met (handler : Handler I σ) : Program I α → σ → List (I.Call × σ)
  | .done _, _ => []
  | .ask call next, s => (call, s) :: (next (handler call s).1).met handler (handler call s).2

theorem met_bind (handler : Handler I σ) (p : Program I α) (f : α → Program I β) (s : σ) :
    (p.bind f).met handler s =
      p.met handler s ++ (f (p.run handler s).1).met handler (p.run handler s).2 := by
  induction p generalizing s with
  | done a => rfl
  | ask call next ih => exact congrArg ((call, s) :: ·) (ih _ _)

/-- Surroundings that, as long as they are sound, answer and change as the effects have it. -/
structure Behaves (handler : Handler I σ) (effects : Effects I τ) (view : σ → τ)
    (sound : σ → Prop) : Prop where
  stays : ∀ call s, sound s → sound (handler call s).2
  effects : ∀ call s, sound s →
    effects call (handler call s).1 (view s) (view (handler call s).2)

section Runs

variable {handler : Handler I σ} {effects : Effects I τ} {view : σ → τ} {sound : σ → Prop}
  {during : I.Call → τ → Prop} {s : σ}

theorem Behaves.run (behaves : Behaves handler effects view sound) (p : Program I α)
    (hs : sound s) : sound (p.run handler s).2 := by
  induction p generalizing s with
  | done a => exact hs
  | ask call next ih => exact ih _ (behaves.stays call s hs)

theorem Behaves.runAll (behaves : Behaves handler effects view sound) (tasks : List (Program I α))
    (hs : sound s) : sound (runAll handler tasks s).2 := by
  induction tasks generalizing s with
  | nil => exact hs
  | cons p rest ih => exact ih (behaves.run p hs)

/-- What is sound stays so throughout a run, and so behaves at all that is met. -/
theorem Behaves.met (behaves : Behaves handler effects view sound) (p : Program I α)
    (hs : sound s) : ∀ x ∈ p.met handler s,
      effects x.1 (handler x.1 x.2).1 (view x.2) (view (handler x.1 x.2).2) := by
  induction p generalizing s with
  | done a => nofun
  | ask call next ih =>
    exact List.forall_mem_cons.2 ⟨behaves.effects call s hs, ih _ (behaves.stays call s hs)⟩

theorem Behaves.mono {effects' : Effects I τ} (behaves : Behaves handler effects view sound)
    (h : ∀ call reply v v', effects call reply v v' → effects' call reply v v') :
    Behaves handler effects' view sound where
  stays := behaves.stays
  effects call s hs := h call _ _ _ (behaves.effects call s hs)

/-- **Run lemma.** What holds of a program holds of a run that behaves at all that it meets. -/
theorem Holds.run_met {p : Program I α} {wanted : α → τ → Prop}
    (h : p.Holds effects during wanted (view s))
    (met : ∀ x ∈ p.met handler s,
      effects x.1 (handler x.1 x.2).1 (view x.2) (view (handler x.1 x.2).2)) :
    wanted (p.run handler s).1 (view (p.run handler s).2) ∧
      ∀ x ∈ p.met handler s, during x.1 (view x.2) := by
  induction p generalizing s with
  | done a => exact ⟨h, nofun⟩
  | ask call next ih =>
    obtain ⟨first, others⟩ := List.forall_mem_cons.1 met
    obtain ⟨ended, rest⟩ := ih (handler call s).1 (h.2 _ _ first) others
    exact ⟨ended, List.forall_mem_cons.2 ⟨h.1, rest⟩⟩

theorem Holds.run (behaves : Behaves handler effects view sound) {p : Program I α}
    {wanted : α → τ → Prop} (h : p.Holds effects during wanted (view s)) (hs : sound s) :
    wanted (p.run handler s).1 (view (p.run handler s).2) ∧
      ∀ x ∈ p.met handler s, during x.1 (view x.2) :=
  h.run_met (behaves.met p hs)

/-- Only allowed requests are made in a run. -/
theorem Within.met {allowed : I.Call → Prop} {p : Program I α} (h : p.Within allowed)
    {x : I.Call × σ} (hx : x ∈ p.met handler s) : allowed x.1 := by
  have blind : Behaves handler (fun _ _ _ _ => True) (fun _ => ()) fun _ => True :=
    ⟨fun _ _ _ => trivial, fun _ _ _ => trivial⟩
  have holds : p.Holds (fun _ _ _ _ => True) (fun call _ => allowed call) (fun _ _ => True) () :=
    holds_of_obeys h fun _ _ _ _ _ => trivial
  exact (holds.run blind trivial).2 x hx

/-! ## Parts of a view -/

/-- The effects on a part of the view, whatever the rest of it is. -/
def seen {τ' : Type} (see : τ → τ') (effects : Effects I τ) : Effects I τ' :=
  fun call reply x x' => ∃ v v', see v = x ∧ see v' = x' ∧ effects call reply v v'

theorem Behaves.seen {τ' : Type} (behaves : Behaves handler effects view sound) (see : τ → τ') :
    Behaves handler (seen see effects) (fun s => see (view s)) sound where
  stays := behaves.stays
  effects call s hs := ⟨view s, _, rfl, rfl, behaves.effects call s hs⟩

end Runs

/-! ## Tasks that take turns -/

/-- **Rely and guarantee.** Let a task know the effects of its requests on a view that no other task
changes. What holds of the task at the start holds of what is left of it at any time. -/
theorem Reaches.holds {handler : Handler I σ} {effects : Effects I τ} {view : σ → τ}
    {sound : σ → Prop} {allowed : Nat → I.Call → Prop} {during : I.Call → τ → Prop}
    {wanted : α → τ → Prop} {tasks tasks' : List (Program I α)} {s s' : σ}
    {trace : List (Nat × I.Call)} {i : Nat} {p : Program I α}
    (own : Behaves handler effects view sound)
    (others : ∀ j call s, j ≠ i → sound s → allowed j call → view (handler call s).2 = view s)
    (h : Reaches handler tasks s trace tasks' s') (within : AllWithin allowed tasks) (hs : sound s)
    (hp : tasks[i]? = some p) (start : p.Holds effects during wanted (view s)) :
    ∃ p', tasks'[i]? = some p' ∧ p'.Holds effects during wanted (view s') := by
  induction h generalizing p with
  | refl => exact ⟨p, hp, start⟩
  | @next tasks _ s _ j call next _ hj _ ih =>
    have hwithin := within.set hj (handler call s).1
    have hsound := own.stays call s hs
    by_cases hij : j = i
    · subst hij
      have hlt : j < tasks.length := (List.getElem?_eq_some_iff.mp hj).1
      obtain rfl : .ask call next = p := Option.some.inj (hj.symm.trans hp)
      exact ih hwithin hsound (List.getElem?_set_self hlt)
        (start.2 _ _ (own.effects call s hs))
    · have spared := others j call s hij hs (within j _ hj).1
      exact ih hwithin hsound ((List.getElem?_set_ne hij).trans hp) (by rwa [spared])

end FuseVolumes.Program
