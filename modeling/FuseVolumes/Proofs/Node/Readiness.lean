import FuseVolumes.Proofs.Node.Refusal

/-!
# Paths made ready

Before something is mounted on a path, the path is brought into a known state: a mount that answers
is used as it is, a lost one is taken down, and a missing directory is made. What it takes follows
from the state of the path alone (`remedy`), and it either succeeds, or fails and leaves everything
as it was (`Readied`). So a path that was made ready is an empty directory, and stays one however
often it is made ready again (`path_made_ready`).
-/

namespace FuseVolumes.Node

open Program Mount

variable {σ α : Type} {handler : Handler interface σ} {view : σ → View} {sound : σ → Prop} {s : σ}

/-! ## Requests for a change -/

instance : DecidablePred Idle
  | .reserve _ | .release _ | .log _ | .isMountPoint _ | .probe _ | .statFileSystem _ =>
    .isTrue trivial
  | .makeDirectory _ | .bindMount _ _ _ | .unmount _ | .removeDirectory _ | .fuseMount _ _ _ =>
    .isFalse id

/-- What a run asks to be changed of paths, in its order. Looks at a path are left out, and so is
the log. -/
def changes (handler : Handler interface σ) (p : Program interface α) (s : σ) : List Call :=
  ((p.met handler s).map (·.1)).filter (¬ Idle ·)

section Changes

variable {call : Call} {next : call.Reply → Program interface α}

theorem changes_idle (idle : Idle call) :
    changes handler (.ask (I := interface) call next) s =
      changes handler (next (handler call s).1) (handler call s).2 := by
  rw [changes, met, List.map_cons, List.filter_cons_of_neg (by simpa using idle)]
  rfl

theorem changes_not_idle (change : ¬ Idle call) :
    changes handler (.ask (I := interface) call next) s =
      call :: changes handler (next (handler call s).1) (handler call s).2 := by
  rw [changes, met, List.map_cons, List.filter_cons_of_pos (by simpa using change)]
  rfl

end Changes

/-! ## What it takes -/

/-- What is asked for to make a path ready that is in a state. -/
def remedy (path : String) : PathState → List Call
  | .absent => [.makeDirectory path]
  | .empty | .mounted .healthy => []
  | .mounted .disconnected | .mounted .unreadable => [.unmount path]

/-- The mounts once what was asked for was done. -/
def remedied (t : Table) (path : String) : Table :=
  match t.state path with
  | .absent => t.addDir path
  | .empty | .mounted .healthy => t
  | .mounted .disconnected | .mounted .unreadable => t.removeMount path

/-- How making a path ready ends: a mount that answers is found, or the path is made ready, or
something that it takes has failed. -/
inductive Readied (path : String) (t : Table) : Except MountPointError Bool → Table → Prop
  | found (healthy : t.state path = .mounted .healthy) : Readied path t (.ok true) t
  | ready (unhealthy : t.state path ≠ .mounted .healthy) :
    Readied path t (.ok false) (remedied t path)
  | failed (e : MountPointError) (needed : remedy path (t.state path) ≠ []) :
    Readied path t (.error e) t

/-- A program makes a path ready, and asks for what it takes and no more. -/
def Readies (handler : Handler interface σ) (view : σ → View) (path : String)
    (p : Program interface (Except MountPointError Bool)) (s : σ) : Prop :=
  Readied path (view s).table (p.run handler s).1 (view (p.run handler s).2).table ∧
    changes handler p s = remedy path ((view s).table.state path)

/-! ## What is left -/

section Left

variable {path : String} {t t' : Table} {result : Except MountPointError Bool}

/-- What a mount is lost from, and what is made where nothing was, is an empty directory. -/
theorem spot_remedied (founded : t.Founded) (unhealthy : t.state path ≠ .mounted .healthy) :
    (remedied t path).spot path = (true, none) := by
  cases state : t.state path with
  | absent =>
    simp only [remedied, state, Table.spot_addDir, if_true, Table.state_eq_absent_iff.1 state]
  | empty =>
    simp only [remedied, state, Table.state_eq_empty_iff.1 state]
  | mounted health =>
    have found := founded.spot_of_mounted state
    cases health with
    | healthy => exact absurd state unhealthy
    | disconnected | unreadable =>
      simp only [remedied, state, Table.spot_removeMount, if_true, found]

theorem elsewhere_remedied (t : Table) (path : String) : Elsewhere path t (remedied t path) := by
  rw [remedied]
  cases t.state path with
  | absent => exact elsewhere_addDir path t
  | empty => exact .refl path t
  | mounted health =>
    cases health with
    | healthy => exact .refl path t
    | disconnected | unreadable => exact elsewhere_removeMount path t

theorem Readied.elsewhere (h : Readied path t result t') : Elsewhere path t t' := by
  cases h with
  | found _ | failed _ _ => exact .refl path t
  | ready _ => exact elsewhere_remedied t path

theorem Readied.tells_iff (h : Readied path t result t') :
    result = .ok true ↔ t.state path = .mounted .healthy := by
  cases h with
  | found healthy => exact iff_of_true rfl healthy
  | ready unhealthy => exact iff_of_false nofun unhealthy
  | failed e needed =>
    refine iff_of_false nofun fun healthy => needed ?_
    rw [healthy]
    rfl

theorem Readied.of_found (h : Readied path t (.ok true) t') : t' = t := by
  cases h
  rfl

theorem Readied.of_ready (h : Readied path t (.ok false) t') (founded : t.Founded) :
    t'.spot path = (true, none) := by
  cases h with
  | ready unhealthy => exact spot_remedied founded unhealthy

theorem Readied.of_failed {e : MountPointError} (h : Readied path t (.error e) t') : t' = t := by
  cases h
  rfl

/-- On an empty directory there is nothing that could fail. -/
theorem Readied.of_empty (h : Readied path t result t') (empty : t.state path = .empty) :
    result = .ok false ∧ t' = t := by
  cases h with
  | found healthy => cases empty.symm.trans healthy
  | ready _ => exact ⟨rfl, by rw [remedied, empty]⟩
  | failed e needed =>
    rw [empty] at needed
    exact absurd rfl needed

end Left

namespace MountPoint

section Readies

variable {path : String} {call : Call}
  {next : call.Reply → Program interface (Except MountPointError Bool)}

/-- A look at the path leaves all that is to be done. -/
theorem readies_look (behaves : Behaves handler effects view sound) (hs : sound s)
    (idle : Idle call)
    (rest : ∀ reply s', sound s' → effects call reply (view s) (view s') →
      (view s').table = (view s).table → Readies handler view path (next reply) s') :
    Readies handler view path (.ask (I := interface) call next) s := by
  have effect := behaves.effects call s hs
  have same := table_of_idle idle effect
  obtain ⟨readied, asked⟩ := rest _ _ (behaves.stays call s hs) effect same
  rw [same] at readied asked
  exact ⟨readied, (changes_idle idle).trans asked⟩

/-- A lost mount is taken down. -/
theorem takeDown_readies (behaves : Behaves handler effects view sound) (hs : sound s)
    {health : Health} (state : (view s).table.state path = .mounted health)
    (lost : health ≠ .healthy) :
    Readies handler view path (takeDown path) s := by
  refine readies_look behaves hs trivial fun _ s' hs' _ same => ?_
  rw [← same] at state
  have asked : remedy path (.mounted health) = [.unmount path] := by
    cases health <;> first | rfl | exact absurd rfl lost
  have done : remedied (view s').table path = (view s').table.removeMount path := by
    rw [remedied, state]
    cases health <;> first | rfl | exact absurd rfl lost
  constructor
  · have effect : view (handler (.unmount path) s').2 =
        (view s').after (·.removeMount path) (handler (.unmount path) s').1 :=
      behaves.effects (.unmount path) s' hs'
    change Readied path _ (((handler (.unmount path) s').1.mapError .mount).map fun _ => false)
      (view (handler (.unmount path) s').2).table
    rw [effect]
    cases (handler (.unmount path) s').1 with
    | ok _ =>
      change Readied path _ (.ok false) ((view s').table.removeMount path)
      rw [← done]
      exact .ready (by simpa [state] using lost)
    | error e => exact .failed _ (by simp [state, asked])
  · rw [state, asked, changes_not_idle id]
    rfl

/-- A missing directory is made. -/
theorem makeDirectory_readies (behaves : Behaves handler effects view sound) (hs : sound s)
    (state : (view s).table.state path = .absent) :
    Readies handler view path (.ask (I := interface) (.makeDirectory path) fun reply =>
      .done ((reply.mapError (.makeDirectory path)).map fun _ => false)) s := by
  have done : remedied (view s).table path = (view s).table.addDir path := by
    rw [remedied, state]
  constructor
  · have effect : view (handler (.makeDirectory path) s).2 =
        (view s).after (·.addDir path) (handler (.makeDirectory path) s).1 :=
      behaves.effects (.makeDirectory path) s hs
    change Readied path _
      (((handler (.makeDirectory path) s).1.mapError (.makeDirectory path)).map fun _ => false)
      (view (handler (.makeDirectory path) s).2).table
    rw [effect]
    cases (handler (.makeDirectory path) s).1 with
    | ok _ =>
      change Readied path _ (.ok false) ((view s).table.addDir path)
      rw [← done]
      exact .ready (by simp [state])
    | error fault => exact .failed _ (by simp [state, remedy])
  · rw [state, changes_not_idle id]
    rfl

/-- Whatever state a path is in, it takes no more than its remedy. -/
theorem ensure_readies (behaves : Behaves handler effects view sound) (hs : sound s)
    (path : String) : Readies handler view path (ensure path).run s := by
  rw [ensure_run]
  refine readies_look behaves hs trivial ?_
  rintro _ s₁ hs₁ ⟨rfl, -⟩ same
  rw [← same, Table.isMountPoint]
  cases state : (view s₁).table.state path with
  | absent => exact makeDirectory_readies behaves hs₁ state
  | empty =>
    have ready : Readied path (view s₁).table (.ok false) (remedied (view s₁).table path) :=
      .ready (by simp [state])
    rw [remedied, state] at ready
    exact ⟨ready, by rw [state]; rfl⟩
  | mounted health =>
    cases health with
    | disconnected => exact takeDown_readies behaves hs₁ state (by rintro ⟨⟩)
    | healthy =>
      refine readies_look behaves hs₁ trivial ?_
      rintro _ s₂ hs₂ ⟨rfl, -⟩ same
      rw [← same] at state ⊢
      rw [Table.probe, state]
      exact ⟨.found state, by rw [state]; rfl⟩
    | unreadable =>
      refine readies_look behaves hs₁ trivial ?_
      rintro _ s₂ hs₂ ⟨rfl, -⟩ same
      rw [← same] at state ⊢
      rw [Table.probe, state]
      refine readies_look behaves hs₂ trivial fun _ s₃ hs₃ _ same => ?_
      rw [← same] at state
      exact takeDown_readies behaves hs₃ state (by rintro ⟨⟩)

end Readies

/-- **Readiness.** Let every mount be on a directory. Whatever fails, a mount is told of if and only
if one answers, and nothing is asked for then. Otherwise the path is in the end an empty directory,
by what its state took, so that nothing is asked for when it is made ready again; or an error is
told, and all is as it was. No other path is changed. -/
theorem path_made_ready (behaves : Behaves handler effects view sound) (hs : sound s)
    (path : String) (founded : (view s).table.Founded) :
    let t := (view s).table
    let once := (ensure path).run.run handler s
    let again := (ensure path).run.run handler once.2
    let left := (view once.2).table
    (once.1 = .ok true ↔ t.state path = .mounted .healthy) ∧
    (once.1 = .ok true → changes handler (ensure path).run s = [] ∧ left = t) ∧
    (once.1 = .ok false → path ∈ left.dirs ∧ left.mount? path = none ∧
      changes handler (ensure path).run s = remedy path (t.state path) ∧
      again.1 = .ok false ∧ changes handler (ensure path).run once.2 = [] ∧
      (view again.2).table = left) ∧
    (∀ e, once.1 = .error e → left = t) ∧
    Elsewhere path t left := by
  intro t once again left
  obtain ⟨readied, asked⟩ := ensure_readies behaves hs path
  obtain ⟨readied', asked'⟩ := ensure_readies behaves (behaves.run _ hs) path
  change Readied path t once.1 left at readied
  refine ⟨readied.tells_iff, ?_, ?_, ?_, readied.elsewhere⟩
  · intro told
    have healthy := readied.tells_iff.1 told
    rw [told] at readied
    exact ⟨asked.trans (by rw [healthy]; rfl), readied.of_found⟩
  · intro told
    rw [told] at readied
    have spot := readied.of_ready founded
    have empty : left.state path = .empty := Table.state_eq_empty_iff.2 spot
    have settled : remedy path (left.state path) = [] := by rw [empty]; rfl
    obtain ⟨ready, same⟩ := readied'.of_empty empty
    exact ⟨List.contains_iff_mem.1 (congrArg Prod.fst spot), congrArg Prod.snd spot, asked, ready,
      asked'.trans settled, same⟩
  · intro e told
    rw [told] at readied
    exact readied.of_failed

/-- A mount that lost its daemon is taken down once, next to one that answers. -/
theorem path_made_ready_lost_daemon :
    let t : Table := ⟨["/a", "/b"], [("/a", .disconnected), ("/b", .healthy)]⟩
    let m : Machine := { Machine.ofBench Engine.Bench.start with table := t }
    let handler := Machine.handle Machine.fuseMount
    let once := (ensure "/a").run.run handler m
    Behaves handler effects Machine.view Machine.Tells ∧ m.Tells ∧ t.Founded ∧
    once.1 = .ok false ∧
    changes handler (ensure "/a").run m = [.unmount "/a"] ∧
    changes handler (ensure "/a").run once.2 = [] ∧
    once.2.table = ⟨["/a", "/b"], [("/b", .healthy)]⟩ := by
  intro t m handler once
  have behaves : Behaves handler effects Machine.view Machine.Tells :=
    Machine.handle_behaves Machine.fuseMount_failsByMount
  have tells : m.Tells := ⟨rfl, rfl⟩
  have founded : t.Founded := by decide
  have told : once.1 = .ok false := rfl
  obtain ⟨-, -, ready, -⟩ := path_made_ready behaves tells "/a" founded
  obtain ⟨-, -, asked, -, asked_again, -⟩ := ready told
  exact ⟨behaves, tells, founded, told, asked, asked_again, by decide +kernel⟩

end MountPoint

end FuseVolumes.Node
