import FuseVolumes.Proofs.Reservations.Guarded

/-!
# Names and their holders

Sets of reservations are called through any number of handles each, and guards are kept in slots.
`Live` tells from the calls of a run and their answers alone which names were obtained and not given
up since. They are exactly the names that are reserved, and they decide what every call is answered
and what it changes (`holders_exact`).
-/

namespace FuseVolumes.Reservations

/-! ## Calls -/

/-- A call through a handle of a set, or giving up the guard in a slot. -/
inductive Call (Handle : Type)
  | tryAcquire (handle : Handle) (name : String)
  | guard (slot : String) (handle : Handle) (name : String)
  | isReserved (handle : Handle) (name : String)
  | release (handle : Handle) (name : String)
  | drop (slot : String)
  deriving DecidableEq

/-- A call that was made, and whether it was answered with yes. -/
structure Event (Handle : Type) where
  call : Call Handle
  answer : Bool
  deriving DecidableEq

/-- A name that was obtained in a set, for a guard or without one. -/
structure Holding where
  slot : Option String
  held : Held
  deriving DecidableEq

section Runs

variable {Handle : Type} (setOf : Handle → String)

/-- Makes a call. A release has no answer, which counts as yes. -/
def Call.make (g : Guarded) : Call Handle → Bool × Guarded
  | .tryAcquire handle name => g.tryAcquire (setOf handle) name
  | .guard slot handle name =>
    let (result, g) := g.guard slot (setOf handle) name
    (result.isOk, g)
  | .isReserved handle name => (g.isReserved (setOf handle) name, g)
  | .release handle name => (true, g.release (setOf handle) name)
  | .drop slot => g.drop slot

/-- A call with its answer. -/
def Call.event (g : Guarded) (call : Call Handle) : Event Handle := ⟨call, (call.make setOf g).1⟩

/-- No name is released that a guard holds. -/
def Call.Permitted (g : Guarded) : Call Handle → Prop
  | .release handle name => ∀ slot, g.guards.lookup slot ≠ some ⟨setOf handle, name⟩
  | _ => True

/-- A run from the start, where all sets are empty. -/
inductive Runs : List (Event Handle) → Guarded → Prop
  | start : Runs [] .empty
  | step {events : List (Event Handle)} {g : Guarded} {call : Call Handle} (run : Runs events g)
      (permitted : call.Permitted setOf g) :
      Runs (events ++ [call.event setOf g]) (call.make setOf g).2

/-! ## Holders -/

/-- The name that a call asks for. -/
def Call.asks : Call Handle → Option Holding
  | .tryAcquire handle name => some ⟨none, ⟨setOf handle, name⟩⟩
  | .guard slot handle name => some ⟨some slot, ⟨setOf handle, name⟩⟩
  | _ => none

/-- What an event obtains. -/
def Event.obtains (e : Event Handle) : Option Holding :=
  if e.answer then e.call.asks setOf else none

/-- An event ends what was obtained before. -/
def Event.Ends : Event Handle → Holding → Prop
  | ⟨.release handle name, _⟩, h => h = ⟨none, ⟨setOf handle, name⟩⟩
  | ⟨.drop slot, _⟩, h => h.slot = some slot
  | ⟨.guard slot _ _, true⟩, h => h.slot = some slot
  | _, _ => False

/-- What was obtained at a position of a trace, and not ended since. -/
def Live (events : List (Event Handle)) (i : Nat) (h : Holding) : Prop :=
  ∃ e, events[i]? = some e ∧ e.obtains setOf = some h ∧
    ∀ later ∈ events.drop (i + 1), ¬ later.Ends setOf h

/-- Somebody holds a name. -/
def HasHolder (events : List (Event Handle)) (held : Held) : Prop :=
  ∃ i h, Live setOf events i h ∧ h.held = held

variable {setOf} {events : List (Event Handle)} {e : Event Handle} {i j : Nat} {h h' : Holding}

theorem Live.lt (live : Live setOf events i h) : i < events.length := by
  obtain ⟨e, he, -⟩ := live
  exact (List.getElem?_eq_some_iff.1 he).1

theorem live_append_iff :
    Live setOf (events ++ [e]) i h ↔
      (Live setOf events i h ∧ ¬ e.Ends setOf h) ∨
        (i = events.length ∧ e.obtains setOf = some h) := by
  rcases Nat.lt_trichotomy i events.length with before | rfl | behind
  · have differ : i ≠ events.length := Nat.ne_of_lt before
    simp only [Live, List.getElem?_append_left before, List.drop_append_of_le_length before,
      List.forall_mem_append, List.forall_mem_singleton, differ, false_and, or_false]
    constructor
    · rintro ⟨first, there, obtained, kept, last⟩
      exact ⟨⟨first, there, obtained, kept⟩, last⟩
    · rintro ⟨⟨first, there, obtained, kept⟩, last⟩
      exact ⟨first, there, obtained, kept, last⟩
  · simp [Live]
  · constructor
    · intro live
      have bounded := live.lt
      simp only [List.length_append, List.length_singleton] at bounded
      omega
    · rintro (⟨live, -⟩ | ⟨rfl, -⟩)
      · exact absurd live.lt (Nat.lt_asymm behind)
      · exact absurd behind (Nat.lt_irrefl _)

/-- A position of a trace obtains one name at most. -/
theorem Live.unique (live : Live setOf events i h) (live' : Live setOf events i h') : h = h' := by
  obtain ⟨e, there, obtained, -⟩ := live
  obtain ⟨e', there', obtained', -⟩ := live'
  obtain rfl := Option.some.inj (there.symm.trans there')
  exact Option.some.inj (obtained.symm.trans obtained')

theorem hasHolder_append_iff {held : Held} :
    HasHolder setOf (events ++ [e]) held ↔
      (∃ h, e.obtains setOf = some h ∧ h.held = held) ∨
        ∃ i h, Live setOf events i h ∧ h.held = held ∧ ¬ e.Ends setOf h := by
  constructor
  · rintro ⟨i, h, live, same⟩
    rcases live_append_iff.1 live with ⟨live, kept⟩ | ⟨-, obtained⟩
    · exact .inr ⟨i, h, live, same, kept⟩
    · exact .inl ⟨h, obtained, same⟩
  · rintro (⟨h, obtained, same⟩ | ⟨i, h, live, same, kept⟩)
    · exact ⟨events.length, h, live_append_iff.2 (.inr ⟨rfl, obtained⟩), same⟩
    · exact ⟨i, h, live_append_iff.2 (.inl ⟨live, kept⟩), same⟩

/-! ## What a call changes -/

variable {g : Guarded} {call : Call Handle}

theorem make_guard_of_reserved {handle : Handle} {slot name : String}
    (taken : g.Reserved ⟨setOf handle, name⟩) :
    (Call.guard slot handle name).make setOf g = (false, g) := by
  rw [Call.make, Guarded.guard_of_reserved taken]
  rfl

theorem make_guard_of_not_reserved {handle : Handle} {slot name : String}
    (free : ¬ g.Reserved ⟨setOf handle, name⟩) :
    (Call.guard slot handle name).make setOf g =
      (true, { g.replace slot (setOf handle) name with
        guards := (slot, ⟨setOf handle, name⟩) ::
          (g.replace slot (setOf handle) name).guards }) := by
  rw [Call.make, Guarded.guard_of_not_reserved free]
  rfl

/-- What a call asks for it is given exactly when it is not reserved. -/
theorem answer_iff (setOf : Handle → String) (g : Guarded) (asked : call.asks setOf = some h) :
    (call.make setOf g).1 = true ↔ ¬ g.Reserved h.held := by
  cases call with
  | tryAcquire handle name =>
    cases asked
    exact g.tryAcquire_answer _ _
  | guard slot handle name =>
    cases asked
    by_cases taken : g.Reserved ⟨setOf handle, name⟩
    · simp [make_guard_of_reserved taken, taken]
    · simp [make_guard_of_not_reserved taken, taken]
  | _ => cases asked

/-- The names that an event gives back. -/
def Event.Frees (setOf : Handle → String) (g : Guarded) : Event Handle → Held → Prop
  | ⟨.release handle name, _⟩, held => held = ⟨setOf handle, name⟩
  | ⟨.drop slot, _⟩, held => g.guards.lookup slot = some held
  | ⟨.guard slot _ _, true⟩, held => g.guards.lookup slot = some held
  | _, _ => False

theorem obtains_iff (setOf : Handle → String) (g : Guarded) :
    (call.event setOf g).obtains setOf = some h ↔
      call.asks setOf = some h ∧ ¬ g.Reserved h.held := by
  rw [Event.obtains]
  constructor
  · intro obtained
    split at obtained
    next yes => exact ⟨obtained, (answer_iff setOf g obtained).1 yes⟩
    next => cases obtained
  · rintro ⟨asked, free⟩
    exact (if_pos ((answer_iff setOf g asked).2 free)).trans asked

/-- What a call asks for it obtains when it is free. -/
theorem exists_obtained {slot : Option String} {new held : Held}
    (asked : call.asks setOf = some ⟨slot, new⟩) :
    (∃ h, (call.event setOf g).obtains setOf = some h ∧ h.held = held) ↔
      held = new ∧ ¬ g.Reserved held := by
  simp only [obtains_iff, asked, Option.some.injEq]
  constructor
  · rintro ⟨h, ⟨rfl, free⟩, rfl⟩
    exact ⟨rfl, free⟩
  · rintro ⟨rfl, free⟩
    exact ⟨_, ⟨rfl, free⟩, rfl⟩

theorem not_exists_obtained {held : Held} (asked : call.asks setOf = none) :
    ¬ ∃ h, (call.event setOf g).obtains setOf = some h ∧ h.held = held := by
  simp [obtains_iff, asked]

theorem reserved_make (guarded : ∀ slot held, g.guards.lookup slot = some held → g.Reserved held)
    (held : Held) :
    (call.make setOf g).2.Reserved held ↔
      (∃ h, (call.event setOf g).obtains setOf = some h ∧ h.held = held) ∨
        g.Reserved held ∧ ¬ (call.event setOf g).Frees setOf g held := by
  cases call with
  | tryAcquire handle name =>
    rw [exists_obtained (by rfl)]
    change (g.tryAcquire (setOf handle) name).2.Reserved held ↔ _ ∨ _ ∧ ¬ False
    rw [Guarded.reserved_tryAcquire, not_false_eq_true, and_true]
    by_cases taken : g.Reserved held <;> simp [taken]
  | guard slot handle name =>
    rw [exists_obtained (by rfl)]
    by_cases taken : g.Reserved ⟨setOf handle, name⟩
    · rw [Call.event, make_guard_of_reserved taken]
      change g.Reserved held ↔ _ ∨ _ ∧ ¬ False
      rw [not_false_eq_true, and_true, or_iff_right]
      rintro ⟨rfl, free⟩
      exact free taken
    · rw [Call.event, make_guard_of_not_reserved taken]
      change (g.replace slot (setOf handle) name).Reserved held ↔
        _ ∨ _ ∧ ¬ g.guards.lookup slot = some held
      rw [Guarded.replace, Guarded.reserved_drop, Guarded.reserved_tryAcquire,
        Guarded.guards_tryAcquire, or_and_right]
      refine or_congr_left (and_congr_right ?_)
      rintro rfl
      exact iff_of_true (fun old => taken (guarded slot _ old)) taken
  | isReserved handle name =>
    rw [or_iff_right (not_exists_obtained (by rfl))]
    change g.Reserved held ↔ _ ∧ ¬ False
    rw [not_false_eq_true, and_true]
  | release handle name =>
    rw [or_iff_right (not_exists_obtained (by rfl))]
    exact Guarded.reserved_release
  | drop slot =>
    rw [or_iff_right (not_exists_obtained (by rfl))]
    exact Guarded.reserved_drop

theorem lookup_make (slot : String) (held : Held) :
    (call.make setOf g).2.guards.lookup slot = some held ↔
      (call.event setOf g).obtains setOf = some ⟨some slot, held⟩ ∨
        g.guards.lookup slot = some held ∧ ¬ (call.event setOf g).Ends setOf ⟨some slot, held⟩ := by
  rw [obtains_iff]
  cases call with
  | tryAcquire handle name =>
    change g.guards.lookup slot = some held ↔ _ ∨ _ ∧ ¬ False
    simp [Call.asks]
  | guard slot' handle name =>
    by_cases taken : g.Reserved ⟨setOf handle, name⟩
    · rw [Call.event, make_guard_of_reserved taken]
      change g.guards.lookup slot = some held ↔ _ ∨ _ ∧ ¬ False
      rw [not_false_eq_true, and_true, or_iff_right]
      rintro ⟨asked, free⟩
      cases asked
      exact free taken
    · rw [Call.event, make_guard_of_not_reserved taken]
      change ((slot', Held.mk (setOf handle) name) ::
        (g.replace slot' (setOf handle) name).guards).lookup slot = some held ↔
          _ ∨ _ ∧ ¬ some slot = some slot'
      by_cases same : slot = slot'
      · subst same
        rw [List.lookup_cons_self]
        simp [Call.asks]
        rintro rfl
        exact taken
      · have unlike : (slot == slot') = false := by simpa using same
        rw [List.lookup_cons, unlike, Guarded.replace, Guarded.lookup_drop, if_neg same,
          Guarded.guards_tryAcquire]
        simp [Call.asks, same, Ne.symm same]
  | isReserved handle name =>
    change g.guards.lookup slot = some held ↔ _ ∨ _ ∧ ¬ False
    simp [Call.asks]
  | release handle name =>
    change g.guards.lookup slot = some held ↔ _ ∨ _ ∧ ¬ Holding.mk _ _ = ⟨none, _⟩
    simp [Call.asks]
  | drop slot' =>
    change (g.drop slot').2.guards.lookup slot = some held ↔ _ ∨ _ ∧ ¬ some slot = some slot'
    rw [Guarded.lookup_drop]
    by_cases same : slot = slot' <;> simp [Call.asks, same]

/-! ## Runs -/

/-- **Invariant.** The reserved names are those that somebody holds, nobody else holds them, and the
guards are those that were obtained for their slots. -/
structure Accounted (setOf : Handle → String) (events : List (Event Handle)) (g : Guarded) :
    Prop where
  reserved : ∀ held, g.Reserved held ↔ HasHolder setOf events held
  unique : ∀ i j h h', Live setOf events i h → Live setOf events j h' → h.held = h'.held → i = j
  guards : ∀ slot held, g.guards.lookup slot = some held ↔
    ∃ i, Live setOf events i ⟨some slot, held⟩

namespace Accounted

theorem start (setOf : Handle → String) : Accounted setOf [] .empty := by
  have nobody {i : Nat} {h : Holding} : ¬ Live setOf [] i h := fun live => Nat.not_lt_zero i live.lt
  constructor
  case reserved =>
    exact fun held => iff_of_false Bool.false_ne_true fun ⟨_, _, live, _⟩ => nobody live
  case unique => exact fun i j h h' live => absurd live nobody
  case guards => exact fun slot held => iff_of_false nofun fun ⟨_, live⟩ => nobody live

theorem guarded (acc : Accounted setOf events g) {slot : String} {held : Held}
    (h : g.guards.lookup slot = some held) : g.Reserved held := by
  obtain ⟨i, live⟩ := (acc.guards slot held).1 h
  exact (acc.reserved held).2 ⟨i, _, live, rfl⟩

/-- What an event ends is what it gives back. -/
theorem ends_iff (acc : Accounted setOf events g) (permitted : call.Permitted setOf g)
    (live : Live setOf events i h) :
    (call.event setOf g).Ends setOf h ↔ (call.event setOf g).Frees setOf g h.held := by
  have ofSlot (slot : String) : h.slot = some slot ↔ g.guards.lookup slot = some h.held := by
    rw [acc.guards]
    constructor
    · intro there
      exact ⟨i, by rwa [← there]⟩
    · rintro ⟨j, live'⟩
      obtain rfl := acc.unique i j h _ live live' rfl
      rw [live.unique live']
  rw [Call.event]
  match call, permitted with
  | .tryAcquire handle name, _ => exact Iff.rfl
  | .isReserved handle name, _ => exact Iff.rfl
  | .drop slot, _ => exact ofSlot slot
  | .guard slot handle name, _ =>
    cases (Call.make setOf g (.guard slot handle name)).1 with
    | false => exact Iff.rfl
    | true => exact ofSlot slot
  | .release handle name, permitted =>
    change h = ⟨none, ⟨setOf handle, name⟩⟩ ↔ h.held = ⟨setOf handle, name⟩
    constructor
    · rintro rfl
      rfl
    · intro same
      obtain ⟨slot, held⟩ := h
      obtain rfl : held = ⟨setOf handle, name⟩ := same
      cases slot with
      | none => rfl
      | some slot => exact absurd ((ofSlot slot).1 rfl) (permitted slot)

/-- **Step lemma.** -/
theorem step (acc : Accounted setOf events g) (permitted : call.Permitted setOf g) :
    Accounted setOf (events ++ [call.event setOf g]) (call.make setOf g).2 := by
  have free {h : Holding} (obtained : (call.event setOf g).obtains setOf = some h) :
      ¬ HasHolder setOf events h.held := by
    rw [← acc.reserved]
    exact ((obtains_iff setOf g).1 obtained).2
  constructor
  case reserved =>
    intro held
    rw [reserved_make (fun _ _ => acc.guarded), hasHolder_append_iff, acc.reserved]
    refine or_congr_right ⟨?_, ?_⟩
    · rintro ⟨⟨i, h, live, rfl⟩, kept⟩
      exact ⟨i, h, live, rfl, (not_congr (acc.ends_iff permitted live)).2 kept⟩
    · rintro ⟨i, h, live, rfl, kept⟩
      exact ⟨⟨i, h, live, rfl⟩, (not_congr (acc.ends_iff permitted live)).1 kept⟩
  case unique =>
    intro i j h h' live live' same
    rcases live_append_iff.1 live with ⟨live, -⟩ | ⟨rfl, obtained⟩
    · rcases live_append_iff.1 live' with ⟨live', -⟩ | ⟨rfl, obtained⟩
      · exact acc.unique i j h h' live live' same
      · exact absurd ⟨i, h, live, same⟩ (free obtained)
    · rcases live_append_iff.1 live' with ⟨live', -⟩ | ⟨rfl, -⟩
      · exact absurd ⟨j, h', live', same.symm⟩ (free obtained)
      · rfl
  case guards =>
    intro slot held
    rw [lookup_make, acc.guards]
    simp only [live_append_iff]
    constructor
    · rintro (obtained | ⟨⟨i, live⟩, kept⟩)
      · exact ⟨_, .inr ⟨rfl, obtained⟩⟩
      · exact ⟨i, .inl ⟨live, kept⟩⟩
    · rintro ⟨i, ⟨live, kept⟩ | ⟨rfl, obtained⟩⟩
      · exact .inr ⟨⟨i, live⟩, kept⟩
      · exact .inl obtained

end Accounted

/-- **Run lemma.** -/
theorem Runs.accounted (run : Runs setOf events g) : Accounted setOf events g := by
  induction run with
  | start => exact .start setOf
  | step run permitted ih => exact ih.step permitted

/-! ## Calls after a run -/

/-- The sets whose names a call takes or gives back. -/
def Call.Touches (setOf : Handle → String) (events : List (Event Handle)) (set : String) :
    Call Handle → Prop
  | .tryAcquire handle _ | .release handle _ => setOf handle = set
  | .isReserved _ _ => False
  | .guard slot handle _ =>
    setOf handle = set ∨ ∃ i name, Live setOf events i ⟨some slot, ⟨set, name⟩⟩
  | .drop slot => ∃ i name, Live setOf events i ⟨some slot, ⟨set, name⟩⟩

/-- What a call does after a run. -/
structure Lawful (setOf : Handle → String) (events : List (Event Handle)) (g : Guarded)
    (call : Call Handle) : Prop where
  /-- A name is had for the asking exactly when nobody holds it. -/
  granted : ∀ h, call.asks setOf = some h →
    ((call.make setOf g).1 = true ↔ ¬ HasHolder setOf events h.held)
  /-- Who is refused changes nothing. -/
  refused : ∀ h, call.asks setOf = some h → (call.make setOf g).1 = false →
    (call.make setOf g).2.guards = g.guards ∧
      ∀ set, (call.make setOf g).2.reservations set = g.reservations set
  /-- Who asks whether a name is reserved is told the truth, and changes nothing. -/
  told : ∀ handle name, call = .isReserved handle name →
    ((call.make setOf g).1 = true ↔ HasHolder setOf events ⟨setOf handle, name⟩) ∧
      (call.make setOf g).2 = g
  /-- A release frees its own name and no other. -/
  released : ∀ handle name, call = .release handle name → ∀ held,
    (call.make setOf g).2.Reserved held ↔ g.Reserved held ∧ held ≠ ⟨setOf handle, name⟩
  /-- A guard that is given up frees its own name and no other. -/
  dropped : ∀ slot, call = .drop slot → ∀ held,
    (call.make setOf g).2.Reserved held ↔
      g.Reserved held ∧ ∀ i, ¬ Live setOf events i ⟨some slot, held⟩
  /-- So does a guard that is replaced, once the new one is there. -/
  replaced : ∀ slot handle name, call = .guard slot handle name →
    (call.make setOf g).1 = true → ∀ held,
      (call.make setOf g).2.Reserved held ↔ held = ⟨setOf handle, name⟩ ∨
        g.Reserved held ∧ ∀ i, ¬ Live setOf events i ⟨some slot, held⟩
  /-- Every other set stays as it was. -/
  apart : ∀ set, ¬ call.Touches setOf events set →
    (call.make setOf g).2.reservations set = g.reservations set

namespace Accounted

theorem lookup_ne_iff (acc : Accounted setOf events g) (slot : String) (held : Held) :
    g.guards.lookup slot ≠ some held ↔ ∀ i, ¬ Live setOf events i ⟨some slot, held⟩ := by
  rw [ne_eq, acc.guards, not_exists]

theorem refused (setOf : Handle → String) (g : Guarded) (asked : call.asks setOf = some h)
    (no : (call.make setOf g).1 = false) :
    (call.make setOf g).2.guards = g.guards ∧
      ∀ set, (call.make setOf g).2.reservations set = g.reservations set := by
  have taken : g.Reserved h.held := by
    refine Classical.byContradiction fun free => ?_
    rw [(answer_iff setOf g asked).2 free] at no
    cases no
  cases call with
  | tryAcquire handle name =>
    cases asked
    exact ⟨rfl, g.reservations_tryAcquire_of_reserved taken⟩
  | guard slot handle name =>
    cases asked
    rw [make_guard_of_reserved taken]
    exact ⟨rfl, fun _ => rfl⟩
  | _ => cases asked

theorem apart (acc : Accounted setOf events g) {set : String}
    (untouched : ¬ call.Touches setOf events set) :
    (call.make setOf g).2.reservations set = g.reservations set := by
  cases call with
  | tryAcquire handle name =>
    exact Guarded.reservations_tryAcquire_of_ne (Ne.symm untouched)
  | release handle name => exact Guarded.reservations_release_of_ne (Ne.symm untouched)
  | isReserved handle name => rfl
  | drop slot =>
    refine Guarded.reservations_drop fun name => ?_
    rw [acc.lookup_ne_iff]
    exact fun i live => untouched ⟨i, name, live⟩
  | guard slot handle name =>
    obtain ⟨differ, empty⟩ := not_or.1 untouched
    by_cases taken : g.Reserved ⟨setOf handle, name⟩
    · rw [make_guard_of_reserved taken]
    · rw [make_guard_of_not_reserved taken]
      change (g.replace slot (setOf handle) name).reservations set = _
      have kept (other : String) :
          (g.tryAcquire (setOf handle) name).2.guards.lookup slot ≠ some ⟨set, other⟩ :=
        (acc.lookup_ne_iff _ _).2 fun i live => empty ⟨i, other, live⟩
      rw [Guarded.replace, Guarded.reservations_drop kept,
        Guarded.reservations_tryAcquire_of_ne (Ne.symm differ)]

theorem lawful (acc : Accounted setOf events g) (call : Call Handle) :
    Lawful setOf events g call := by
  constructor
  case granted =>
    intro h asked
    rw [answer_iff setOf g asked, acc.reserved]
  case refused => exact fun h asked no => refused setOf g asked no
  case told =>
    rintro handle name rfl
    exact ⟨acc.reserved ⟨setOf handle, name⟩, rfl⟩
  case released =>
    rintro handle name rfl held
    exact Guarded.reserved_release
  case dropped =>
    rintro slot rfl held
    rw [← acc.lookup_ne_iff]
    exact Guarded.reserved_drop
  case replaced =>
    rintro slot handle name rfl yes held
    have free : ¬ g.Reserved ⟨setOf handle, name⟩ := (answer_iff setOf g rfl).1 yes
    have new : held = ⟨setOf handle, name⟩ ∧ ¬ g.Reserved held ↔ held = ⟨setOf handle, name⟩ :=
      and_iff_left_of_imp fun same => same ▸ free
    rw [reserved_make (fun _ _ => acc.guarded), exists_obtained (by rfl), new,
      ← acc.lookup_ne_iff, Call.event, yes]
    exact Iff.rfl
  case apart => exact fun set untouched => acc.apart untouched

end Accounted

/-- **Holders.** After every run the reserved names are exactly those that were obtained and not
given up since, each has one holder, and every call does what these holders let it do. -/
theorem holders_exact (run : Runs setOf events g) :
    Accounted setOf events g ∧ ∀ call, Lawful setOf events g call :=
  ⟨run.accounted, run.accounted.lawful⟩

end Runs

/-! Two handles of one set and one of another. A guard is replaced, and its old name is had
again. -/

def twoSets : Nat → String
  | 0 | 1 => "a"
  | _ => "b"

theorem holders_exact_after_replacement :
    ∃ events g, Runs twoSets events g ∧
      events.map Event.answer = [true, false, true, true, true, true] ∧
      (g.Reserved ⟨"b", "v"⟩ ↔ HasHolder twoSets events ⟨"b", "v"⟩) ∧
      ((Call.guard "y" 1 "v").make twoSets g).1 = true ∧ ¬ HasHolder twoSets events ⟨"a", "v"⟩ := by
  have first : Runs twoSets _ _ :=
    .step .start (show Call.Permitted twoSets _ (.guard "x" 0 "v") from trivial)
  have second : Runs twoSets _ _ :=
    first.step (show Call.Permitted twoSets _ (.tryAcquire 1 "v") from trivial)
  have third : Runs twoSets _ _ :=
    second.step (show Call.Permitted twoSets _ (.tryAcquire 2 "v") from trivial)
  have fourth : Runs twoSets _ _ :=
    third.step (show Call.Permitted twoSets _ (.guard "x" 1 "w") from trivial)
  have fifth : Runs twoSets _ _ :=
    fourth.step (show Call.Permitted twoSets _ (.tryAcquire 0 "v") from trivial)
  have sixth : Runs twoSets _ _ :=
    fifth.step (show Call.Permitted twoSets _ (.release 1 "v") from by
      intro slot
      change List.lookup slot [("x", Held.mk "a" "w")] ≠ some ⟨"a", "v"⟩
      rw [List.lookup_cons, List.lookup_nil]
      split <;> decide)
  refine ⟨_, _, sixth, by decide, (holders_exact sixth).1.reserved _, by decide, ?_⟩
  exact (((holders_exact sixth).2 (.guard "y" 1 "v")).granted _ rfl).1 (by decide)

end FuseVolumes.Reservations
