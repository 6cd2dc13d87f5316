import FuseVolumes.Proofs.Program.Effects

/-!
# What tasks are told

Of the requests in a trace each has its reply, which follows from the state that the trace begins
in. A task can keep note of the replies to its own requests (`noting`), and whatever holds of it
with its notes holds with what it was told in the trace, however the others take their turns
(`Finishes.told`).
-/

namespace FuseVolumes.Program

variable {I : Interface} {α σ τ : Type}

/-- The effects on a note that is made of some replies: once made, it stays. -/
def noting (kind : (call : I.Call) → I.Reply call → Prop) : Effects I Prop :=
  fun call reply noted noted' => noted' ↔ noted ∨ kind call reply

theorem noted_iff {kind : (call : I.Call) → I.Reply call → Prop} {call : I.Call}
    {reply : I.Reply call} {noted noted' : Prop} (h : noting kind call reply noted noted')
    (none : ¬ noted) : noted' ↔ kind call reply :=
  h.trans (or_iff_right none)

/-- No note is made of other replies. -/
theorem noted_eq {kind : (call : I.Call) → I.Reply call → Prop} {call : I.Call}
    {reply : I.Reply call} {noted noted' : Prop} (h : noting kind call reply noted noted')
    (other : ¬ kind call reply) : noted' = noted :=
  propext (h.trans (or_iff_left other))

/-- In a trace the task at the position is given a reply of that kind. -/
def Told (handler : Handler I σ) (kind : (call : I.Call) → I.Reply call → Prop) (i : Nat) :
    List (Nat × I.Call) → σ → Prop
  | [], _ => False
  | (j, call) :: trace, s =>
    j = i ∧ kind call (handler call s).1 ∨ Told handler kind i trace (handler call s).2

section Told

variable {handler : Handler I σ} {kind : (call : I.Call) → I.Reply call → Prop}
  {during : I.Call → Prop → Prop} {wanted : α → Prop → Prop} {tasks tasks' : List (Program I α)}
  {trace : List (Nat × I.Call)} {s s' : σ} {i : Nat} {p : Program I α} {noted : Prop}

/-- **Run lemma.** What holds of a task with its notes holds of what is left of it with all that it
was told since. -/
theorem Reaches.told (h : Reaches handler tasks s trace tasks' s') (hp : tasks[i]? = some p)
    (start : p.Holds (noting kind) during wanted noted) :
    ∃ p', tasks'[i]? = some p' ∧
      p'.Holds (noting kind) during wanted (noted ∨ Told handler kind i trace s) := by
  induction h generalizing p noted with
  | refl =>
    refine ⟨p, hp, ?_⟩
    rwa [Told, or_false]
  | @next tasks _ s _ j call next _ hj _ ih =>
    rw [Told]
    by_cases hij : j = i
    · subst hij
      have hlt : j < tasks.length := (List.getElem?_eq_some_iff.mp hj).1
      obtain rfl : .ask call next = p := Option.some.inj (hj.symm.trans hp)
      have rest := ih (List.getElem?_set_self hlt) (start.2 _ _ Iff.rfl)
      simpa [or_assoc] using rest
    · have rest := ih ((List.getElem?_set_ne hij).trans hp) start
      simpa [hij] using rest

theorem Finishes.told {answers : List α} (h : Finishes handler tasks s trace answers s')
    (hp : tasks[i]? = some p) (start : p.Holds (noting kind) during wanted False) :
    ∃ a, answers[i]? = some a ∧ wanted a (Told handler kind i trace s) := by
  obtain ⟨p', hp', holds⟩ := Reaches.told h hp start
  rw [List.getElem?_map] at hp'
  obtain ⟨a, ha, rfl⟩ := Option.map_eq_some_iff.1 hp'
  rw [false_or] at holds
  exact ⟨a, ha, holds⟩

end Told

/-- **Rely and guarantee**, for tasks that go on until they have their answers. -/
theorem Finishes.holds {handler : Handler I σ} {effects : Effects I τ} {view : σ → τ}
    {sound : σ → Prop} {allowed : Nat → I.Call → Prop} {during : I.Call → τ → Prop}
    {wanted : α → τ → Prop} {tasks : List (Program I α)} {answers : List α} {s s' : σ}
    {trace : List (Nat × I.Call)} {i : Nat} {p : Program I α}
    (own : Behaves handler effects view sound)
    (others : ∀ j call s, j ≠ i → sound s → allowed j call → view (handler call s).2 = view s)
    (h : Finishes handler tasks s trace answers s') (within : AllWithin allowed tasks)
    (hs : sound s) (hp : tasks[i]? = some p) (start : p.Holds effects during wanted (view s)) :
    ∃ a, answers[i]? = some a ∧ wanted a (view s') := by
  obtain ⟨p', hp', holds⟩ := Reaches.holds own others h within hs hp start
  rw [List.getElem?_map] at hp'
  obtain ⟨a, ha, rfl⟩ := Option.map_eq_some_iff.1 hp'
  exact ⟨a, ha, holds⟩

end FuseVolumes.Program
