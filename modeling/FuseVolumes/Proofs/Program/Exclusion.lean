import FuseVolumes.Proofs.Program.Interleaving
import FuseVolumes.Proofs.Reservations

/-!
# Tasks that exclude each other by name

Tasks share a set of reserved names. Each of them asks for its name, does its work while it holds
the name, and gives the name back; one that is told that the name is taken does no work at all
(`Heeds`).

* `Keeping`: the names in use are those of the tasks that hold one, and no two of them hold the
  same.
* `Keeping.apart`: the work of two tasks with the same name never interleaves.
* `Keeping.run`: who is turned away asked for a name that was in use.
* `Keeping.free`: once all tasks have ended no name is in use.
-/

namespace FuseVolumes.Program

/-! ## Names in requests -/

/-- What a request has to do with names. -/
inductive Role
  | reserve (name : String)
  | release (name : String)
  /-- For tasks that hold their name. -/
  | work
  /-- For all tasks. -/
  | aside
  deriving DecidableEq, Repr

/-- How the requests of an interface reserve names. -/
structure Locking (I : Interface) where
  role : I.Call → Role
  /-- Whether the reply to a request for a name grants it. -/
  grants : (call : I.Call) → I.Reply call → Bool

variable {I : Interface} {α β σ : Type}

def Locking.IsWork (L : Locking I) (call : I.Call) : Prop := L.role call = .work

instance (L : Locking I) : DecidablePred L.IsWork :=
  fun call => inferInstanceAs (Decidable (L.role call = .work))

/-- Surroundings that keep the reserved names: a name is granted unless it is reserved, and only
requests for names change what is reserved. -/
structure Reserves (L : Locking I) (handler : Handler I σ) (reservations : σ → Reservations) :
    Prop where
  grants : ∀ call s name, L.role call = .reserve name →
    L.grants call (handler call s).1 = !(reservations s).isReserved name
  acquires : ∀ call s name, L.role call = .reserve name →
    reservations (handler call s).2 = ((reservations s).tryAcquire name).2
  releases : ∀ call s name, L.role call = .release name →
    reservations (handler call s).2 = (reservations s).release name
  spares : ∀ call s, L.role call = .work ∨ L.role call = .aside →
    reservations (handler call s).2 = reservations s

/-! ## Tasks that heed their names -/

/-- How far a task is with its name. -/
inductive Phase
  | waiting
  | holding
  | ended
  | refused
  deriving DecidableEq, Repr

/-- What may be asked for in a phase by a task with that name. -/
def Phase.Allows (name : String) : Phase → Role → Prop
  | _, .aside => True
  | .holding, .work => True
  | .waiting, .reserve other => other = name
  | .holding, .release other => other = name
  | _, _ => False

theorem Phase.allows_reserve_iff {name other : String} {phase : Phase} :
    phase.Allows name (.reserve other) ↔ phase = .waiting ∧ other = name := by
  cases phase <;> simp [Allows]

theorem Phase.allows_release_iff {name other : String} {phase : Phase} :
    phase.Allows name (.release other) ↔ phase = .holding ∧ other = name := by
  cases phase <;> simp [Allows]

theorem Phase.allows_work_iff {name : String} {phase : Phase} :
    phase.Allows name .work ↔ phase = .holding := by
  cases phase <;> simp [Allows]

/-- The phase after a request. -/
def Locking.after (L : Locking I) (call : I.Call) (reply : I.Reply call) (phase : Phase) : Phase :=
  match L.role call with
  | .reserve _ => if L.grants call reply then .holding else .refused
  | .release _ => .ended
  | .work | .aside => phase

/-- Whatever it is told, the task asks only for what its phase allows, and it ends without its name
and with an answer that goes with its phase. -/
def Heeds (L : Locking I) (name : String) (wanted : Phase → α → Prop) :
    Phase → Program I α → Prop
  | phase, .done a => phase ≠ .holding ∧ wanted phase a
  | phase, .ask call next => phase.Allows name (L.role call) ∧
    ∀ reply, Heeds L name wanted (L.after call reply phase) (next reply)

section Heeds

variable {L : Locking I} {name : String} {wanted : Phase → β → Prop} {phase : Phase}

/-- Requests that leave a task in its phase. -/
def Locking.Stays (L : Locking I) (phase : Phase) (call : I.Call) : Prop :=
  L.role call = .aside ∨ phase = .holding ∧ L.role call = .work

theorem Locking.Stays.allows {call : I.Call} (h : L.Stays phase call) :
    phase.Allows name (L.role call) := by
  rcases h with h | ⟨rfl, h⟩
  · rw [h]; cases phase <;> trivial
  · rw [h]; trivial

theorem Locking.Stays.after {call : I.Call} (h : L.Stays phase call) (reply : I.Reply call) :
    L.after call reply phase = phase := by
  rcases h with h | ⟨-, h⟩ <;> rw [Locking.after, h]

/-- What stays within a phase can stand before anything that goes on from there. -/
theorem heeds_bind {p : Program I α} {f : α → Program I β} {between : α → Prop}
    (hp : p.Obeys (fun _ _ => True) (L.Stays phase) between)
    (hf : ∀ a, between a → Heeds L name wanted phase (f a)) :
    Heeds L name wanted phase (p.bind f) := by
  induction p with
  | done a => exact hf a hp
  | ask call next ih =>
    refine ⟨hp.1.allows, fun reply => ?_⟩
    rw [hp.1.after]
    exact ih reply (hp.2 reply trivial)

/-- What begins without the name can stand after anything that ends without it. -/
theorem Heeds.bind {γ : Type} {wanted' : Phase → γ → Prop} {p : Program I β}
    {f : β → Program I γ} (h : Heeds L name wanted phase p)
    (hf : ∀ phase b, phase ≠ .holding → wanted phase b → Heeds L name wanted' phase (f b)) :
    Heeds L name wanted' phase (p.bind f) := by
  induction p generalizing phase with
  | done b => exact hf phase b h.1 h.2
  | ask call next ih => exact ⟨h.1, fun reply => ih reply (h.2 reply)⟩

theorem Heeds.map {γ : Type} {wanted' : Phase → γ → Prop} {p : Program I β} {f : β → γ}
    (h : Heeds L name wanted phase p) (hf : ∀ phase b, wanted phase b → wanted' phase (f b)) :
    Heeds L name wanted' phase (p.bind fun b => .done (f b)) :=
  h.bind fun phase b free hb => ⟨free, hf phase b hb⟩

theorem Heeds.mono {wanted' : Phase → β → Prop} {p : Program I β}
    (h : Heeds L name wanted phase p) (hw : ∀ phase b, wanted phase b → wanted' phase b) :
    Heeds L name wanted' phase p := by
  rw [← bind_done p]
  exact h.map hw

/-- Requests that are written out keep to the name if each of them does. -/
theorem Heeds.via {J : Interface} {L' : Locking J}
    {meaning : (call : I.Call) → Program J (I.Reply call)} {p : Program I β}
    (h : Heeds L name wanted phase p)
    (keeps : ∀ call phase (f : I.Reply call → Program J β), phase.Allows name (L.role call) →
      (∀ reply, Heeds L' name wanted (L.after call reply phase) (f reply)) →
      Heeds L' name wanted phase ((meaning call).bind f)) :
    Heeds L' name wanted phase (p.via meaning) := by
  induction p generalizing phase with
  | done a => exact h
  | ask call next ih => exact keeps call phase _ h.1 fun reply => ih reply (h.2 reply)

end Heeds

/-! ## Names in use -/

/-- The phases after one task went on to another. -/
def moved (phases : Nat → Phase) (i : Nat) (phase : Phase) (j : Nat) : Phase :=
  if j = i then phase else phases j

@[simp] theorem moved_self (phases : Nat → Phase) (i : Nat) (phase : Phase) :
    moved phases i phase i = phase := if_pos rfl

theorem moved_of_ne (phases : Nat → Phase) {i j : Nat} (phase : Phase) (h : j ≠ i) :
    moved phases i phase j = phases j := if_neg h

theorem moved_eq_self {phases : Nat → Phase} {i : Nat} {phase : Phase} (h : phase = phases i) :
    moved phases i phase = phases := by
  funext j
  by_cases hj : j = i
  · rw [hj, moved_self, h]
  · rw [moved_of_ne _ _ hj]

/-- The names in use are those that some task holds, and no two tasks hold the same. -/
structure Booked (names : Nat → String) (phases : Nat → Phase) (count : Nat) (r : Reservations) :
    Prop where
  present : ∀ i, phases i = .holding → i < count
  reserved : ∀ name, r.isReserved name = true ↔ ∃ i, phases i = .holding ∧ names i = name
  alone : ∀ i j, phases i = .holding → phases j = .holding → names i = names j → i = j

section Booked

variable {names : Nat → String} {phases : Nat → Phase} {count i : Nat} {r : Reservations}

theorem Booked.refuse (booked : Booked names phases count r) (h : phases i ≠ .holding) :
    Booked names (moved phases i .refused) count r := by
  have same (j : Nat) : moved phases i .refused j = .holding ↔ phases j = .holding := by
    by_cases hj : j = i
    · simp [hj, h]
    · rw [moved_of_ne _ _ hj]
  constructor
  · simpa only [same] using booked.present
  · simpa only [same] using booked.reserved
  · simpa only [same] using booked.alone

theorem Booked.grant (booked : Booked names phases count r) (hi : i < count)
    (free : r.isReserved (names i) = false) :
    Booked names (moved phases i .holding) count (r.tryAcquire (names i)).2 := by
  have nobody (j : Nat) (hj : phases j = .holding) : names j ≠ names i := by
    intro same
    rw [(booked.reserved _).2 ⟨j, hj, same⟩] at free
    cases free
  have holding {j : Nat} (hj : moved phases i .holding j = .holding) :
      j = i ∨ phases j = .holding := by
    by_cases hji : j = i
    · exact .inl hji
    · rw [moved_of_ne _ _ hji] at hj
      exact .inr hj
  refine ⟨fun j hj => ?_, fun name => ?_, fun j k hj hk same => ?_⟩
  · rcases holding hj with rfl | hj
    · exact hi
    · exact booked.present j hj
  · rw [Reservations.isReserved_tryAcquire, Bool.or_eq_true, beq_iff_eq, booked.reserved]
    constructor
    · rintro (rfl | ⟨j, hj, rfl⟩)
      · exact ⟨i, moved_self .., rfl⟩
      · have hji : j ≠ i := fun h => nobody j hj (by rw [h])
        exact ⟨j, by rwa [moved_of_ne _ _ hji], rfl⟩
    · rintro ⟨j, hj, rfl⟩
      rcases holding hj with rfl | hj
      · exact .inl rfl
      · exact .inr ⟨j, hj, rfl⟩
  · rcases holding hj with rfl | before
    · rcases holding hk with rfl | before
      · rfl
      · exact absurd same.symm (nobody k before)
    · rcases holding hk with rfl | before'
      · exact absurd same (nobody j before)
      · exact booked.alone j k before before' same

theorem Booked.release (booked : Booked names phases count r) (h : phases i = .holding) :
    Booked names (moved phases i .ended) count (r.release (names i)) := by
  have holding {j : Nat} (hj : moved phases i .ended j = .holding) :
      j ≠ i ∧ phases j = .holding := by
    by_cases hji : j = i
    · rw [hji, moved_self] at hj
      cases hj
    · rw [moved_of_ne _ _ hji] at hj
      exact ⟨hji, hj⟩
  refine ⟨fun j hj => booked.present j (holding hj).2, fun name => ?_, fun j k hj hk same => ?_⟩
  · rw [Reservations.isReserved_release, Bool.and_eq_true, bne_iff_ne, booked.reserved]
    constructor
    · rintro ⟨hname, j, hj, rfl⟩
      have hji : j ≠ i := fun h => hname (by rw [h])
      exact ⟨j, by rwa [moved_of_ne _ _ hji], rfl⟩
    · rintro ⟨j, hj, rfl⟩
      obtain ⟨hji, hj⟩ := holding hj
      exact ⟨fun same => hji (booked.alone j i hj h same), j, hj, rfl⟩
  · exact booked.alone j k (holding hj).2 (holding hk).2 same

end Booked

/-- **Invariant.** Every task heeds its name, and the book of names is in order. -/
structure Keeping (L : Locking I) (names : Nat → String) (wanted : Nat → Phase → α → Prop)
    (phases : Nat → Phase) (tasks : List (Program I α)) (r : Reservations) : Prop where
  heeds : ∀ i p, tasks[i]? = some p → Heeds L (names i) (wanted i) (phases i) p
  booked : Booked names phases tasks.length r

section Keeping

variable {L : Locking I} {handler : Handler I σ} {reservations : σ → Reservations}
  {names : Nat → String} {wanted : Nat → Phase → α → Prop} {phases : Nat → Phase}
  {tasks tasks' : List (Program I α)} {s s' : σ} {trace : List (Nat × I.Call)}

theorem Keeping.start {r : Reservations} (free : r.names = [])
    (heeds : ∀ i p, tasks[i]? = some p → Heeds L (names i) (wanted i) .waiting p) :
    Keeping L names wanted (fun _ => .waiting) tasks r where
  heeds := heeds
  booked :=
    { present := nofun
      reserved := fun name => by simp [Reservations.names_eq_nil_iff.1 free name]
      alone := nofun }

/-- The name of the job at a position, if it has one. -/
def nameAt (name? : β → Option String) (jobs : List β) (i : Nat) : String :=
  (jobs[i]?.bind name?).getD ""

theorem nameAt_eq {name? : β → Option String} {jobs : List β} {i : Nat} {job : β} {name : String}
    (hjob : jobs[i]? = some job) (named : name? job = some name) : nameAt name? jobs i = name := by
  rw [nameAt, hjob, Option.bind_some, named, Option.getD_some]

/-- Jobs may start if each of them heeds the name it has, if any. -/
theorem Keeping.start_map {name? : β → Option String} {task : β → Program I α}
    {wanted : β → String → Phase → α → Prop} {r : Reservations} (jobs : List β)
    (free : r.names = [])
    (heeds : ∀ job name, (∀ other, name? job = some other → other = name) →
      Heeds L name (wanted job name) .waiting (task job)) :
    Keeping L (nameAt name? jobs)
      (fun i phase a => ∀ job, jobs[i]? = some job → wanted job (nameAt name? jobs i) phase a)
      (fun _ => .waiting) (jobs.map task) r := by
  refine .start free fun i p hp => ?_
  rw [List.getElem?_map] at hp
  obtain ⟨job, hjob, rfl⟩ := Option.map_eq_some_iff.1 hp
  refine (heeds job _ fun name named => (nameAt_eq hjob named).symm).mono
    fun phase a ends other hother => ?_
  cases hjob.symm.trans hother
  exact ends

theorem Keeping.heeds_set {r : Reservations} (keeping : Keeping L names wanted phases tasks r)
    {i : Nat} {phase : Phase} {q : Program I α} (h : Heeds L (names i) (wanted i) phase q) :
    ∀ j p, (tasks.set i q)[j]? = some p →
      Heeds L (names j) (wanted j) (moved phases i phase j) p := by
  intro j p hj
  by_cases hij : i = j
  · subst hij
    obtain ⟨hlt, rfl⟩ := List.getElem?_eq_some_iff.1 hj
    rwa [List.getElem_set_self, moved_self]
  · rw [List.getElem?_set_ne hij] at hj
    rw [moved_of_ne _ _ (Ne.symm hij)]
    exact keeping.heeds j p hj

/-- **Step lemma.** A task that makes a request goes on to its next phase, and the others stay in
theirs. -/
theorem Keeping.step (law : Reserves L handler reservations)
    (keeping : Keeping L names wanted phases tasks (reservations s)) {i : Nat} {call : I.Call}
    {next : I.Reply call → Program I α} (hi : tasks[i]? = some (.ask call next)) :
    Keeping L names wanted (moved phases i (L.after call (handler call s).1 (phases i)))
      (tasks.set i (next (handler call s).1)) (reservations (handler call s).2) := by
  obtain ⟨allows, goes⟩ := keeping.heeds i _ hi
  refine ⟨keeping.heeds_set (goes _), ?_⟩
  rw [List.length_set, Locking.after]
  -- Only a name that is granted or given back changes who holds one.
  cases role : L.role call with
  | aside =>
    rw [law.spares call s (.inr role), moved_eq_self rfl]
    exact keeping.booked
  | work =>
    rw [law.spares call s (.inl role), moved_eq_self rfl]
    exact keeping.booked
  | reserve name =>
    rw [role, Phase.allows_reserve_iff] at allows
    obtain ⟨waits, rfl⟩ := allows
    rw [law.acquires call s _ role]
    dsimp only
    rw [law.grants call s _ role]
    cases taken : (reservations s).isReserved (names i) with
    | true =>
      have same : ((reservations s).tryAcquire (names i)).2 = reservations s := by
        rw [Reservations.tryAcquire, if_pos taken]
      rw [same]
      exact keeping.booked.refuse (by simp [waits])
    | false => exact keeping.booked.grant (List.getElem?_eq_some_iff.1 hi).1 taken
  | release name =>
    rw [role, Phase.allows_release_iff] at allows
    obtain ⟨holds, rfl⟩ := allows
    rw [law.releases call s _ role]
    exact keeping.booked.release holds

/-- Once all tasks have ended no name is in use. -/
theorem Keeping.free {r : Reservations} (keeping : Keeping L names wanted phases tasks r)
    (ended : ∀ p ∈ tasks, ∃ a, p = .done a) : r.names = [] := by
  refine Reservations.names_eq_nil_iff.2 fun name => Bool.eq_false_iff.2 fun reserved => ?_
  obtain ⟨i, holds, -⟩ := (keeping.booked.reserved name).1 reserved
  have hi := List.getElem?_eq_getElem (keeping.booked.present i holds)
  obtain ⟨a, done⟩ := ended _ (List.getElem_mem (keeping.booked.present i holds))
  rw [done] at hi
  exact (keeping.heeds i _ hi).1 holds

/-! ## Work that never interleaves -/

/-- A task that gave its name back, or did not get it, has no more work to do. -/
theorem Heeds.within {name : String} {wanted : Phase → α → Prop} {phase : Phase}
    {p : Program I α} (h : Heeds L name wanted phase p)
    (past : phase = .ended ∨ phase = .refused) : p.Within (L.role · = .aside) := by
  induction p generalizing phase with
  | done a => trivial
  | ask call next ih =>
    obtain ⟨allows, goes⟩ := h
    have aside : L.role call = .aside := by
      rcases past with rfl | rfl <;> cases role : L.role call <;>
        first | rfl | (rw [role] at allows; exact allows.elim)
    refine ⟨aside, fun reply _ => ih reply (goes reply) ?_⟩
    rwa [Locking.after, aside]

theorem Keeping.idle {r : Reservations} (keeping : Keeping L names wanted phases tasks r)
    (h : Reaches handler tasks s trace tasks' s') {i : Nat}
    (past : phases i = .ended ∨ phases i = .refused) :
    ∀ call, (i, call) ∈ trace → L.role call = .aside := by
  have within : AllWithin (fun j call => j = i → L.role call = .aside) tasks := by
    intro j p hj
    by_cases hji : j = i
    · subst hji
      exact ((keeping.heeds j p hj).within past).mono fun call aside _ => aside
    · exact within_of_forall (fun _ h => absurd h hji) p
  intro call hcall
  exact h.within within i call hcall rfl

/-- All work of one task comes before all work of the other. -/
def Precedes (work : I.Call → Prop) (i j : Nat) (trace : List (Nat × I.Call)) : Prop :=
  trace.Pairwise fun x y => ¬ (x.1 = j ∧ work x.2 ∧ y.1 = i ∧ work y.2)

/-- All work of one of the two tasks comes before all work of the other. -/
def Apart (work : I.Call → Prop) (i j : Nat) (trace : List (Nat × I.Call)) : Prop :=
  Precedes work i j trace ∨ Precedes work j i trace

instance (work : I.Call → Prop) [DecidablePred work] (i j : Nat) (trace : List (Nat × I.Call)) :
    Decidable (Precedes work i j trace) :=
  inferInstanceAs (Decidable (List.Pairwise _ trace))

instance (work : I.Call → Prop) [DecidablePred work] (i j : Nat) (trace : List (Nat × I.Call)) :
    Decidable (Apart work i j trace) :=
  inferInstanceAs (Decidable (_ ∨ _))

theorem precedes_cons_iff {work : I.Call → Prop} {i j k : Nat} {call : I.Call} :
    Precedes work i j ((k, call) :: trace) ↔
      (k = j → work call → ∀ other, (i, other) ∈ trace → ¬ work other) ∧
        Precedes work i j trace := by
  rw [Precedes, List.pairwise_cons]
  refine and_congr_left fun _ => ?_
  constructor
  · intro h hk hcall other hother hwork
    exact h (i, other) hother ⟨hk, hcall, rfl, hwork⟩
  · rintro h ⟨l, other⟩ hother ⟨hk, hcall, rfl, hwork⟩
    exact h hk hcall other hother hwork

theorem precedes_of_idle {work : I.Call → Prop} {i j : Nat}
    (idle : ∀ call, (i, call) ∈ trace → ¬ work call) : Precedes work i j trace := by
  induction trace with
  | nil => exact .nil
  | cons first trace ih =>
    have idle' : ∀ call, (i, call) ∈ trace → ¬ work call :=
      fun call hcall => idle call (List.mem_cons_of_mem _ hcall)
    exact precedes_cons_iff.2 ⟨fun _ _ => idle', ih idle'⟩

/-- A task that holds its name does all its work before another gets to hold it. -/
theorem Keeping.precedes (law : Reserves L handler reservations)
    (h : Reaches handler tasks s trace tasks' s') {i j : Nat} (hij : i ≠ j)
    (same : names i = names j) (keeping : Keeping L names wanted phases tasks (reservations s))
    (holds : phases i = .holding) : Precedes L.IsWork i j trace := by
  induction h generalizing phases with
  | refl => exact .nil
  | @next tasks tasks' s s' k call next trace hk rest ih =>
    have allows := (keeping.heeds k _ hk).1
    have goes := keeping.step law hk
    refine precedes_cons_iff.2 ⟨?_, ?_⟩
    · rintro rfl work
      rw [work, Phase.allows_work_iff] at allows
      exact absurd (keeping.booked.alone i k holds allows same) hij
    · by_cases hik : i = k
      · subst hik
        cases role : L.role call with
        | aside | work => exact ih goes (by rw [moved_self, Locking.after, role, holds])
        | reserve name =>
          rw [role, Phase.allows_reserve_iff, holds] at allows
          cases allows.1
        | release name =>
          have past : moved phases i (L.after call (handler call s).1 (phases i)) i = .ended := by
            rw [moved_self, Locking.after, role]
          refine precedes_of_idle fun call hcall work => ?_
          cases (goes.idle rest (.inl past) call hcall).symm.trans work
      · exact ih goes (by rwa [moved_of_ne _ _ hik])

/-- **Exclusion.** The work of two tasks with the same name never interleaves. -/
theorem Keeping.apart (law : Reserves L handler reservations)
    (h : Reaches handler tasks s trace tasks' s') {i j : Nat} (hij : i ≠ j)
    (same : names i = names j) (keeping : Keeping L names wanted phases tasks (reservations s)) :
    Apart L.IsWork i j trace := by
  induction h generalizing phases with
  | refl => exact .inl .nil
  | @next tasks tasks' s s' k call next trace hk rest ih =>
    by_cases hi : phases i = .holding
    · exact .inl (keeping.precedes law (.next hk rest) hij same hi)
    by_cases hj : phases j = .holding
    · exact .inr (keeping.precedes law (.next hk rest) hij.symm same.symm hj)
    -- As long as neither holds the name, neither works.
    have rests {l : Nat} (hl : phases l ≠ .holding) (hkl : k = l) : L.role call ≠ .work := by
      subst hkl
      intro work
      have allows := (keeping.heeds k _ hk).1
      rw [work, Phase.allows_work_iff] at allows
      exact hl allows
    rcases ih (keeping.step law hk) with before | before
    · exact .inl (precedes_cons_iff.2 ⟨fun hkj work => absurd work (rests hj hkj), before⟩)
    · exact .inr (precedes_cons_iff.2 ⟨fun hki work => absurd work (rests hi hki), before⟩)

/-! ## Tasks that are turned away -/

/-- A task asks for a name while it is in use. -/
def TurnedAway (L : Locking I) (handler : Handler I σ) (reservations : σ → Reservations)
    (tasks : List (Program I α)) (s : σ) (trace : List (Nat × I.Call)) (i : Nat) (name : String) :
    Prop :=
  ∃ before call after tasks' s', trace = before ++ (i, call) :: after ∧
    L.role call = .reserve name ∧ Reaches handler tasks s before tasks' s' ∧
    (reservations s').isReserved name = true

theorem TurnedAway.cons {i k : Nat} {name : String} {call : I.Call}
    {next : I.Reply call → Program I α} (hk : tasks[k]? = some (.ask call next))
    (h : TurnedAway L handler reservations (tasks.set k (next (handler call s).1))
      (handler call s).2 trace i name) :
    TurnedAway L handler reservations tasks s ((k, call) :: trace) i name := by
  obtain ⟨before, asked, after, tasks', s', rfl, role, reached, reserved⟩ := h
  exact ⟨(k, call) :: before, asked, after, tasks', s', rfl, role, .next hk reached, reserved⟩

/-- What a trace tells of the phases before and after it. -/
structure Passage (L : Locking I) (handler : Handler I σ) (reservations : σ → Reservations)
    (names : Nat → String) (phases : Nat → Phase) (tasks : List (Program I α)) (s : σ)
    (trace : List (Nat × I.Call)) (phases' : Nat → Phase) : Prop where
  waited : ∀ i, phases' i = .waiting →
    phases i = .waiting ∧ ∀ call, (i, call) ∈ trace → L.role call = .aside
  asked : ∀ i, phases' i ≠ .waiting →
    phases i ≠ .waiting ∨ ∃ call, (i, call) ∈ trace ∧ L.role call = .reserve (names i)
  refused : ∀ i, phases' i = .refused →
    phases i = .refused ∨ TurnedAway L handler reservations tasks s trace i (names i)
  stays : ∀ i, phases i = .refused → phases' i = .refused

theorem Passage.refl (phases : Nat → Phase) (tasks : List (Program I α)) (s : σ) :
    Passage L handler reservations names phases tasks s [] phases where
  waited i hi := ⟨hi, by simp⟩
  asked i hi := .inl hi
  refused i hi := .inl hi
  stays i hi := hi

/-- A trace begins with the step of one task. -/
theorem Passage.cons (law : Reserves L handler reservations) {phases' : Nat → Phase} {k : Nat}
    {call : I.Call} {next : I.Reply call → Program I α}
    (hk : tasks[k]? = some (.ask call next))
    (allows : (phases k).Allows (names k) (L.role call))
    (h : Passage L handler reservations names
      (moved phases k (L.after call (handler call s).1 (phases k)))
      (tasks.set k (next (handler call s).1)) (handler call s).2 trace phases') :
    Passage L handler reservations names phases tasks s ((k, call) :: trace) phases' where
  waited i hi := by
    obtain ⟨waits, rest⟩ := h.waited i hi
    by_cases hik : i = k
    · subst hik
      rw [moved_self, Locking.after] at waits
      cases role : L.role call with
      | aside =>
        rw [role] at waits
        refine ⟨waits, fun other hother => ?_⟩
        rcases List.mem_cons.1 hother with first | hother
        · cases first
          exact role
        · exact rest other hother
      | work =>
        rw [role] at waits allows
        rw [Phase.allows_work_iff.1 allows] at waits
        cases waits
      | reserve name =>
        simp only [role] at waits
        split at waits <;> cases waits
      | release name =>
        rw [role] at waits
        cases waits
    · rw [moved_of_ne _ _ hik] at waits
      refine ⟨waits, fun other hother => ?_⟩
      rcases List.mem_cons.1 hother with first | hother
      · cases first
        exact absurd rfl hik
      · exact rest other hother
  asked i hi := by
    rcases h.asked i hi with moves | ⟨other, hother, role⟩
    · by_cases hik : i = k
      · subst hik
        by_cases waits : phases i = .waiting
        · cases role : L.role call with
          | aside =>
            rw [moved_self, Locking.after, role] at moves
            exact absurd waits moves
          | reserve name =>
            rw [role, Phase.allows_reserve_iff] at allows
            rw [allows.2] at role
            exact .inr ⟨call, List.mem_cons_self, role⟩
          | work | release name =>
            rw [role, waits] at allows
            exact allows.elim
        · exact .inl waits
      · rw [moved_of_ne _ _ hik] at moves
        exact .inl moves
    · exact .inr ⟨other, List.mem_cons_of_mem _ hother, role⟩
  refused i hi := by
    rcases h.refused i hi with refused | turned
    · by_cases hik : i = k
      · subst hik
        rw [moved_self, Locking.after] at refused
        cases role : L.role call with
        | aside | work =>
          rw [role] at refused
          exact .inl refused
        | reserve name =>
          rw [role, Phase.allows_reserve_iff] at allows
          obtain ⟨-, rfl⟩ := allows
          simp only [role, law.grants call s _ role] at refused
          split at refused
          · cases refused
          next taken =>
            refine .inr ⟨[], call, trace, tasks, s, rfl, role, .refl _ _, ?_⟩
            simpa using taken
        | release name =>
          rw [role] at refused
          cases refused
      · rw [moved_of_ne _ _ hik] at refused
        exact .inl refused
    · exact .inr (turned.cons hk)
  stays i hi := by
    refine h.stays i ?_
    by_cases hik : i = k
    · subst hik
      rw [moved_self, Locking.after]
      cases role : L.role call with
      | aside => exact hi
      | work | reserve name | release name =>
        rw [role, hi] at allows
        exact allows.elim
    · rwa [moved_of_ne _ _ hik]

/-- **Run lemma.** Tasks that go on keep the names, and their phases change as the trace tells. -/
theorem Keeping.run (law : Reserves L handler reservations)
    (h : Reaches handler tasks s trace tasks' s')
    (keeping : Keeping L names wanted phases tasks (reservations s)) :
    ∃ phases', Keeping L names wanted phases' tasks' (reservations s') ∧
      Passage L handler reservations names phases tasks s trace phases' := by
  induction h generalizing phases with
  | refl => exact ⟨phases, keeping, .refl _ _ _⟩
  | next hk _ ih =>
    obtain ⟨phases', keeping', passage⟩ := ih (keeping.step law hk)
    exact ⟨phases', keeping', passage.cons law hk (keeping.heeds _ _ hk).1⟩

/-- Who asks for a name in use does no work, before or after, and ends as one who was refused. -/
theorem Keeping.turnedAway (law : Reserves L handler reservations)
    (h : Reaches handler tasks s trace tasks' s')
    (keeping : Keeping L names wanted phases tasks (reservations s)) {i : Nat}
    (turned : TurnedAway L handler reservations tasks s trace i (names i)) :
    (∀ call, (i, call) ∈ trace → L.role call ≠ .work) ∧
      ∀ a, tasks'[i]? = some (.done a) → wanted i .refused a := by
  obtain ⟨before, call, after, tasks₁, s₁, rfl, role, reached, reserved⟩ := turned
  obtain ⟨next, hi, rest⟩ := h.split reached
  obtain ⟨phases₁, keeping₁, passage⟩ := keeping.run law reached
  have allows := (keeping₁.heeds i _ hi).1
  rw [role, Phase.allows_reserve_iff] at allows
  have quiet := (passage.waited i allows.1).2
  have goes := keeping₁.step law hi
  have refused : moved phases₁ i (L.after call (handler call s₁).1 (phases₁ i)) i = .refused := by
    rw [moved_self, Locking.after, role]
    simp [law.grants call s₁ _ role, reserved]
  have idle := goes.idle rest (.inr refused)
  refine ⟨fun other hother work => ?_, fun a ha => ?_⟩
  · rcases List.mem_append.1 hother with hother | hother
    · rw [quiet other hother] at work
      cases work
    · rcases List.mem_cons.1 hother with first | hother
      · cases first
        rw [role] at work
        cases work
      · rw [idle other hother] at work
        cases work
  · obtain ⟨phases', keeping', passage'⟩ := goes.run law rest
    have ended := (keeping'.heeds i _ ha).2
    rwa [passage'.stays i refused] at ended

end Keeping

end FuseVolumes.Program
