import FuseVolumes.Proofs.Program.Effects
import FuseVolumes.Proofs.Program.Steps

/-!
# Tasks that do not exclude each other

Only the name keeps two tasks apart. Where nothing but names decides what is answered (`Steady`), a
task goes on to its first work as it would alone, whatever other names are in use (`reaches_work`);
so two tasks that work alone and have different names can work at the same time
(`works_overlap`).
-/

namespace FuseVolumes.Program

variable {I : Interface} {α β : Type}

/-- Surroundings that keep the names in use, and whose replies depend on nothing else. -/
structure Steady (L : Locking I) (handler : Handler I Reservations) : Prop where
  reserves : Reserves L handler fun r => r
  replies : ∀ call r r',
    (∀ name, L.role call = .reserve name → r.isReserved name = r'.isReserved name) →
    (handler call r).1 = (handler call r').1

/-- A run comes to some work. -/
def Works (L : Locking I) (handler : Handler I Reservations) (p : Program I α)
    (r : Reservations) : Prop :=
  ∃ x ∈ p.met handler r, L.IsWork x.1

section Overlap

variable {L : Locking I} {handler : Handler I Reservations}

/-- Other names stay as they are. -/
theorem Steady.others (steady : Steady L handler) {name other : String} {phase : Phase}
    {call : I.Call} (allows : phase.Allows name (L.role call)) (h : other ≠ name)
    (r : Reservations) :
    (handler call r).2.isReserved other = r.isReserved other := by
  cases role : L.role call with
  | work => rw [steady.reserves.spares call r (.inl role)]
  | aside => rw [steady.reserves.spares call r (.inr role)]
  | reserve name' =>
    rw [role, Phase.allows_reserve_iff] at allows
    rw [steady.reserves.acquires call r _ role, Reservations.isReserved_tryAcquire, allows.2]
    simp [h]
  | release name' =>
    rw [role, Phase.allows_release_iff] at allows
    rw [steady.reserves.releases call r _ role, Reservations.isReserved_release, allows.2]
    simp [h]

/-- Only who asks for no name goes on waiting. -/
theorem after_eq_waiting {call : I.Call} {reply : I.Reply call} {phase : Phase}
    (h : L.after call reply phase = .waiting) :
    phase = .waiting ∧ (L.role call = .work ∨ L.role call = .aside) := by
  rw [Locking.after] at h
  cases role : L.role call with
  | work => exact ⟨by rwa [role] at h, .inl rfl⟩
  | aside => exact ⟨by rwa [role] at h, .inr rfl⟩
  | reserve name =>
    simp only [role] at h
    split at h <;> cases h
  | release name =>
    rw [role] at h
    cases h

theorem set_of_getElem? {tasks : List β} {i : Nat} {p : β} (h : tasks[i]? = some p) :
    tasks.set i p = tasks := by
  obtain ⟨hi, rfl⟩ := List.getElem?_eq_some_iff.1 h
  exact List.set_getElem_self hi

/-- A task goes on until it begins to work, as it would alone. -/
theorem reaches_work (steady : Steady L handler) {name : String} {wanted : Phase → α → Prop}
    {phase : Phase} {p : Program I α} (heeds : Heeds L name wanted phase p) {r r' : Reservations}
    (works : Works L handler p r)
    (same : phase = .waiting → r.isReserved name = r'.isReserved name)
    {tasks : List (Program (stepwise I) α)} {i : Nat} (hi : tasks[i]? = some (p.via L.steps)) :
    ∃ trace call next r'', L.IsWork call ∧
      Reaches (handleSteps handler) tasks r' trace
        (tasks.set i (.ask (.begins call) fun _ => .ask (.ends call) next)) r'' ∧
      ∀ other, other ≠ name → r''.isReserved other = r'.isReserved other := by
  induction p generalizing phase r r' tasks with
  | done a =>
    obtain ⟨x, hx, -⟩ := works
    cases hx
  | ask call next ih =>
    obtain ⟨allows, goes⟩ := heeds
    by_cases work : L.role call = .work
    · have begun : (Program.ask call next).via L.steps = .ask (I := stepwise I) (.begins call)
          fun _ => .ask (I := stepwise I) (.ends call) fun reply => (next reply).via L.steps := by
        rw [via, Locking.steps_of_work work]
        rfl
      rw [begun] at hi
      refine ⟨[], call, fun reply => (next reply).via L.steps, r', work, ?_, fun _ _ => rfl⟩
      rw [set_of_getElem? hi]
      exact .refl _ _
    · have begun : (Program.ask call next).via L.steps = .ask (I := stepwise I) (.ends call)
          fun reply => (next reply).via L.steps := by
        rw [via, Locking.steps_of_ne work]
        rfl
      rw [begun] at hi
      have reply : (handler call r).1 = (handler call r').1 := by
        refine steady.replies call r r' fun other role => ?_
        rw [role, Phase.allows_reserve_iff] at allows
        rw [allows.2]
        exact same allows.1
      have goes_on : Works L handler (next (handler call r').1) (handler call r).2 := by
        obtain ⟨x, hx, hwork⟩ := works
        rcases List.mem_cons.1 hx with rfl | hx
        · exact absurd hwork work
        · rw [← reply]
          exact ⟨x, hx, hwork⟩
      have same' : L.after call (handler call r').1 phase = .waiting →
          (handler call r).2.isReserved name = (handler call r').2.isReserved name := by
        intro waits
        obtain ⟨waited, role⟩ := after_eq_waiting waits
        rw [steady.reserves.spares call r role, steady.reserves.spares call r' role]
        exact same waited
      have hlt : i < tasks.length := (List.getElem?_eq_some_iff.1 hi).1
      obtain ⟨trace, call', next', r'', hwork, reached, others⟩ :=
        ih _ (goes _) goes_on same' (List.getElem?_set_self hlt)
      rw [List.set_set] at reached
      refine ⟨_, call', next', r'', hwork, .next hi reached, fun other h => ?_⟩
      rw [others other h]
      exact steady.others allows h r'

/-- Work of one task before work of another is not all after it. -/
theorem not_precedes {work : I.Call → Prop} {i j : Nat} {trace : List (Nat × I.Call)}
    {first second : I.Call} (h : List.Sublist [(j, first), (i, second)] trace)
    (hfirst : work first) (hsecond : work second) : ¬ Precedes work i j trace := by
  intro before
  exact List.rel_of_pairwise_cons (before.sublist h) List.mem_cons_self ⟨rfl, hfirst, rfl, hsecond⟩

/-- **Overlap.** Two tasks that work alone and have different names can work at the same time. -/
theorem works_overlap (steady : Steady L handler) {r : Reservations} {name name' : String}
    {wanted wanted' : Phase → α → Prop} {p q : Program I α} (hne : name ≠ name')
    (hp : Heeds L name wanted .waiting p) (hq : Heeds L name' wanted' .waiting q)
    (works : Works L handler p r) (works' : Works L handler q r) :
    ∃ trace tasks' r',
      Reaches (handleSteps handler) [p.via L.steps, q.via L.steps] r trace tasks' r' ∧
      ¬ Apart L.overSteps.IsWork 0 1 trace := by
  have first : [p.via L.steps, q.via L.steps][0]? = some (p.via L.steps) := rfl
  obtain ⟨trace, call, next, r₁, hwork, reached, others⟩ :=
    reaches_work steady hp works (fun _ => rfl) first
  have second : [.ask (I := stepwise I) (.ends call) next, q.via L.steps][1]? =
      some (q.via L.steps) := rfl
  obtain ⟨trace', call', next', r₂, hwork', reached', -⟩ :=
    reaches_work steady hq works' (fun _ => (others name' hne.symm).symm) second
  have begun : Reaches (handleSteps handler)
      [.ask (.begins call) fun _ => .ask (.ends call) next, q.via L.steps] r₁
      [(0, .begins call)] [.ask (.ends call) next, q.via L.steps] r₁ :=
    .next (i := 0) rfl (.refl _ _)
  have begun' : Reaches (handleSteps handler)
      [.ask (.ends call) next, .ask (.begins call') fun _ => .ask (.ends call') next'] r₂
      [(1, .begins call'), (0, .ends call)] [next (handler call r₂).1, .ask (.ends call') next']
      (handler call r₂).2 :=
    .next (i := 1) rfl (.next (i := 0) rfl (.refl _ _))
  have begins {call : I.Call} (h : L.IsWork call) : L.overSteps.IsWork (.begins call) := if_pos h
  have ends : L.overSteps.IsWork (.ends call) := hwork
  refine ⟨_, _, _, (reached.trans begun).trans (reached'.trans begun'), ?_⟩
  rintro (before | before)
  · refine not_precedes ?_ (begins hwork') ends before
    exact (List.sublist_append_right _ _).trans (List.sublist_append_right _ _)
  · refine not_precedes ?_ (begins hwork) (begins hwork') before
    have early : List.Sublist [(0, Step.begins call)] (trace ++ [(0, .begins call)]) :=
      List.sublist_append_right _ _
    have late : List.Sublist [(1, Step.begins call')]
        (trace' ++ [(1, .begins call'), (0, .ends call)]) :=
      (List.Sublist.cons_cons _ (List.nil_sublist _)).trans (List.sublist_append_right _ _)
    exact early.append late

end Overlap

end FuseVolumes.Program
