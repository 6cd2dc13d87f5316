import FuseVolumes.Proofs.Program.Requests

/-!
Programs that share their surroundings. Each request is a step of its own, and any task that has
a request left may make the next one.

* `Reaches`: some tasks make some requests, in an order that the trace tells.
* `Finishes`: they go on until every task has its answer.
* `Reaches.preserves`: what every step keeps holds after any number of steps.
* `Reaches.isolated`: a task whose requests see and change nothing that the others change ends as
  if it had run alone, whatever the order.
* `finishes_runAll`: one task after the other is one of the orders.
* `reaches_takeTurns`: any sequence of turns is one, too.
-/

namespace FuseVolumes.Program

variable {I : Interface} {α σ : Type}

/-- Tasks go on from a state, each request made by the task at the position that the trace
gives. -/
inductive Reaches (handler : Handler I σ) :
    List (Program I α) → σ → List (Nat × I.Call) → List (Program I α) → σ → Prop
  | refl (tasks : List (Program I α)) (s : σ) : Reaches handler tasks s [] tasks s
  | next {tasks tasks' : List (Program I α)} {s s' : σ} {i : Nat} {call : I.Call}
      {next : I.Reply call → Program I α} {trace : List (Nat × I.Call)}
      (h : tasks[i]? = some (.ask call next))
      (rest : Reaches handler (tasks.set i (next (handler call s).1)) (handler call s).2
        trace tasks' s') :
      Reaches handler tasks s ((i, call) :: trace) tasks' s'

/-- Tasks go on until every one of them has its answer. -/
def Finishes (handler : Handler I σ) (tasks : List (Program I α)) (s : σ)
    (trace : List (Nat × I.Call)) (answers : List α) (s' : σ) : Prop :=
  Reaches handler tasks s trace (answers.map .done) s'

variable {handler : Handler I σ} {tasks tasks' : List (Program I α)} {s s' : σ}
  {trace : List (Nat × I.Call)}

theorem Reaches.trans {tasks'' : List (Program I α)} {s'' : σ} {trace' : List (Nat × I.Call)}
    (h : Reaches handler tasks s trace tasks' s')
    (h' : Reaches handler tasks' s' trace' tasks'' s'') :
    Reaches handler tasks s (trace ++ trace') tasks'' s'' := by
  induction h with
  | refl => exact h'
  | next hi _ ih => exact .next hi (ih h')

/-- A trace can be stopped before any of its requests. -/
theorem Reaches.split {tasks₁ : List (Program I α)} {s₁ : σ} {before after : List (Nat × I.Call)}
    {i : Nat} {call : I.Call}
    (h : Reaches handler tasks s (before ++ (i, call) :: after) tasks' s')
    (h₁ : Reaches handler tasks s before tasks₁ s₁) :
    ∃ next, tasks₁[i]? = some (.ask call next) ∧
      Reaches handler (tasks₁.set i (next (handler call s₁).1)) (handler call s₁).2 after
        tasks' s' := by
  induction h₁ with
  | refl =>
    cases h with
    | next hi rest => exact ⟨_, hi, rest⟩
  | next hk _ ih =>
    cases h with
    | next hk' rest =>
      cases Option.some.inj (hk.symm.trans hk')
      exact ih rest

/-- **Run lemma.** What every step keeps holds after any number of steps, and what it implies of
every request holds of the trace. -/
theorem Reaches.preserves (inv : List (Program I α) → σ → Prop) (made : Nat → I.Call → Prop)
    (step : ∀ tasks s i call (next : I.Reply call → Program I α),
      inv tasks s → tasks[i]? = some (.ask call next) →
        made i call ∧ inv (tasks.set i (next (handler call s).1)) (handler call s).2)
    (h : Reaches handler tasks s trace tasks' s') (hs : inv tasks s) :
    inv tasks' s' ∧ ∀ i call, (i, call) ∈ trace → made i call := by
  induction h with
  | refl => exact ⟨hs, by simp⟩
  | next hi _ ih =>
    obtain ⟨hmade, hnext⟩ := step _ _ _ _ _ hs hi
    obtain ⟨hend, htrace⟩ := ih hnext
    refine ⟨hend, fun i call hmem => ?_⟩
    rcases List.mem_cons.mp hmem with e | hmem
    · cases e; exact hmade
    · exact htrace i call hmem

theorem Reaches.length_eq (h : Reaches handler tasks s trace tasks' s') :
    tasks'.length = tasks.length := by
  induction h with
  | refl => rfl
  | next _ _ ih => simpa using ih

/-! ## Tasks that are all within bounds -/

/-- Every task makes only the requests that are allowed at its position. -/
def AllWithin (allowed : Nat → I.Call → Prop) (tasks : List (Program I α)) : Prop :=
  ∀ i p, tasks[i]? = some p → Within (allowed i) p

theorem allWithin_map {β : Type} {task : β → Program I α} {jobs : List β}
    {allowed : Nat → I.Call → Prop}
    (each : ∀ (i : Nat) job, jobs[i]? = some job → (task job).Within (allowed i)) :
    AllWithin allowed (jobs.map task) := by
  intro i p hp
  rw [List.getElem?_map] at hp
  obtain ⟨job, hjob, rfl⟩ := Option.map_eq_some_iff.1 hp
  exact each i job hjob

/-- What holds of every task still does when one of them is replaced. -/
theorem forall_set {Q : Nat → Program I α → Prop} {i : Nat} {q : Program I α}
    (h : ∀ j p, tasks[j]? = some p → Q j p) (hq : Q i q) :
    ∀ j p, (tasks.set i q)[j]? = some p → Q j p := by
  intro j p hj
  by_cases hij : i = j
  · subst hij
    obtain ⟨hlt, rfl⟩ := List.getElem?_eq_some_iff.mp hj
    rwa [List.getElem_set_self]
  · rw [List.getElem?_set_ne hij] at hj
    exact h j p hj

theorem AllWithin.set {allowed : Nat → I.Call → Prop} {i : Nat} {call : I.Call}
    {next : I.Reply call → Program I α} (within : AllWithin allowed tasks)
    (hi : tasks[i]? = some (.ask call next)) (reply : I.Reply call) :
    AllWithin allowed (tasks.set i (next reply)) :=
  forall_set within ((within i _ hi).next reply)

theorem Reaches.within {allowed : Nat → I.Call → Prop}
    (h : Reaches handler tasks s trace tasks' s') (within : AllWithin allowed tasks) :
    ∀ i call, (i, call) ∈ trace → allowed i call :=
  (h.preserves (fun tasks _ => AllWithin allowed tasks) allowed
    (fun _ _ _ _ _ within hi => ⟨(within _ _ hi).1, within.set hi _⟩) within).2

/-- What no task changes stays as it is. -/
theorem Reaches.spares {allowed : I.Call → Prop} {same : σ → σ → Prop}
    (hspares : Spares handler allowed same) (hrefl : ∀ s, same s s)
    (htrans : ∀ s t u, same s t → same t u → same s u)
    (within : AllWithin (fun _ => allowed) tasks)
    (h : Reaches handler tasks s trace tasks' s') : same s s' := by
  induction h with
  | refl => exact hrefl _
  | next hi _ ih =>
    exact htrans _ _ _ (hspares _ (within _ _ hi).1 _) (ih (within.set hi _))

/-- **Isolation.** Let every task see and change only what `same` compares at its position, and
let no other task change that. However the tasks take turns, what is left of a task would end as
the task would have ended by itself. -/
theorem Reaches.isolated {allowed : Nat → I.Call → Prop} {same : Nat → σ → σ → Prop}
    (own : ∀ i, Local handler (allowed i) (same i))
    (others : ∀ i j, i ≠ j → Spares handler (allowed j) (same i))
    (equiv : ∀ i, Equivalence (same i))
    (within : AllWithin allowed tasks)
    (h : Reaches handler tasks s trace tasks' s') {i : Nat} {p : Program I α}
    (hp : tasks[i]? = some p) :
    ∃ p', tasks'[i]? = some p' ∧ (p'.run handler s').1 = (p.run handler s).1 ∧
      same i (p'.run handler s').2 (p.run handler s).2 := by
  induction h generalizing p with
  | refl => exact ⟨p, hp, rfl, (equiv i).refl _⟩
  | @next tasks tasks' s s' j call next trace hj rest ih =>
    have hwithin := within.set hj (handler call s).1
    by_cases hij : j = i
    · subst hij
      have hlt : j < tasks.length := (List.getElem?_eq_some_iff.mp hj).1
      obtain rfl : .ask call next = p := Option.some.inj (hj.symm.trans hp)
      exact ih hwithin (List.getElem?_set_self hlt)
    · obtain ⟨p', hp', hanswer, hsame⟩ := ih hwithin ((List.getElem?_set_ne hij).trans hp)
      have hspared : same i s (handler call s).2 :=
        others i j (Ne.symm hij) call (within j _ hj).1 s
      have hagree := run_agree (own i) (within i p hp) hspared
      exact ⟨p', hp', hanswer.trans hagree.1.symm,
        (equiv i).trans hsame ((equiv i).symm hagree.2)⟩

/-- A task that has nobody beside it runs as usual. -/
theorem finishes_singleton {p : Program I α} {answers : List α}
    (h : Finishes handler [p] s trace answers s') :
    answers = [(p.run handler s).1] ∧ s' = (p.run handler s).2 := by
  have hlength : answers.length = 1 := by simpa using Reaches.length_eq h
  obtain ⟨answer, rfl⟩ := List.length_eq_one_iff.mp hlength
  -- Only position 0 is taken, so the other tasks may be taken to make no request at all.
  have own : ∀ j, Local handler (fun _ => j = 0) (fun s t : σ => j = 0 → s = t) := by
    intro j call hj s t hst
    obtain rfl := hst hj
    exact ⟨rfl, fun _ => rfl⟩
  have others : ∀ i j, i ≠ j →
      Spares handler (fun _ => j = 0) (fun s t : σ => i = 0 → s = t) :=
    fun i j hij call hj s hi => absurd (hi.trans hj.symm) hij
  have equiv : ∀ j, Equivalence (fun s t : σ => j = 0 → s = t) := fun j =>
    ⟨fun _ _ => rfl, fun h hj => (h hj).symm, fun h h' hj => (h hj).trans (h' hj)⟩
  have within : AllWithin (fun j (_ : I.Call) => j = 0) [p] := by
    intro j q hq
    cases j with
    | zero => exact within_of_forall (fun _ => rfl) q
    | succ j => simp at hq
  obtain ⟨p', hp', hanswer, hsame⟩ := Reaches.isolated own others equiv within h (i := 0) rfl
  obtain rfl : .done answer = p' := by simpa using hp'
  exact ⟨by rw [← hanswer]; rfl, hsame rfl⟩

/-! ## One after the other -/

/-- Runs each task to its end before the next one starts. -/
def runAll (handler : Handler I σ) : List (Program I α) → σ → List α × σ
  | [], s => ([], s)
  | p :: rest, s =>
    let (answer, s) := p.run handler s
    let (answers, s) := runAll handler rest s
    (answer :: answers, s)

/-- A task can be run to its end while the others wait. -/
theorem reaches_run (handler : Handler I σ) (before after : List (Program I α)) (p : Program I α)
    (s : σ) :
    ∃ trace, Reaches handler (before ++ p :: after) s trace
      (before ++ .done (p.run handler s).1 :: after) (p.run handler s).2 := by
  induction p generalizing s with
  | done a => exact ⟨[], .refl _ _⟩
  | ask call next ih =>
    obtain ⟨trace, h⟩ := ih (handler call s).1 (handler call s).2
    have hnext : (before ++ .ask call next :: after)[before.length]? = some (.ask call next) := by
      simp
    refine ⟨(before.length, call) :: trace, .next hnext ?_⟩
    rw [List.set_append_right _ _ (Nat.le_refl _), Nat.sub_self]
    exact h

theorem reaches_runAll (handler : Handler I σ) (answers : List α) (rest : List (Program I α))
    (s : σ) :
    ∃ trace, Reaches handler (answers.map .done ++ rest) s trace
      ((answers ++ (runAll handler rest s).1).map .done) (runAll handler rest s).2 := by
  induction rest generalizing answers s with
  | nil => exact ⟨[], by simpa [runAll] using Reaches.refl _ s⟩
  | cons p rest ih =>
    obtain ⟨trace, h⟩ := reaches_run handler (answers.map .done) rest p s
    obtain ⟨trace', h'⟩ := ih (answers ++ [(p.run handler s).1]) (p.run handler s).2
    refine ⟨trace ++ trace', h.trans ?_⟩
    simpa [runAll, List.append_assoc] using h'

theorem finishes_runAll (handler : Handler I σ) (tasks : List (Program I α)) (s : σ) :
    ∃ trace, Finishes handler tasks s trace (runAll handler tasks s).1
      (runAll handler tasks s).2 :=
  reaches_runAll handler [] tasks s

/-! ## Turns -/

/-- Tasks make one request each time it is their turn. -/
def takeTurns (handler : Handler I σ) :
    List Nat → List (Program I α) → σ → List (Nat × I.Call) × List (Program I α) × σ
  | [], tasks, s => ([], tasks, s)
  | i :: turns, tasks, s =>
    match tasks[i]? with
    | some (.ask call next) =>
      let (reply, s) := handler call s
      let (trace, rest) := takeTurns handler turns (tasks.set i (next reply)) s
      ((i, call) :: trace, rest)
    | _ => takeTurns handler turns tasks s

theorem reaches_takeTurns (handler : Handler I σ) (turns : List Nat) (tasks : List (Program I α))
    (s : σ) :
    Reaches handler tasks s (takeTurns handler turns tasks s).1
      (takeTurns handler turns tasks s).2.1 (takeTurns handler turns tasks s).2.2 := by
  induction turns generalizing tasks s with
  | nil => exact .refl _ _
  | cons i turns ih =>
    rw [takeTurns]
    split
    next call next hi => exact .next hi (ih _ _)
    next => exact ih _ _

end FuseVolumes.Program
