import FuseVolumes.Proofs.Node.Contract

/-!
# What refused requests leave behind

A request is refused for its form, for the volume that it names, or because another one works on
that volume. Most refusals come before anything was done. Of the work on a path only staging can
still refuse, by which time the staging path was made ready: a directory was made, or a lost mount
was taken down. So a refused request has done nothing unless it staged a volume on a path that was
not ready (`refused_idle_iff`).
-/

namespace FuseVolumes.Node

open Program Mount

variable {α β : Type}

/-- A request was turned away, and not for something that failed on the node. -/
def Refused (result : Except Status α) : Prop :=
  ∃ e, result = .error e ∧
    (e.code = .invalidArgument ∨ e.code = .failedPrecondition ∨ e.code = .aborted)

instance (result : Except Status α) : Decidable (Refused result) :=
  match result with
  | .ok _ => .isFalse (by rintro ⟨_, ⟨⟩, -⟩)
  | .error e => decidable_of_iff
      (e.code = .invalidArgument ∨ e.code = .failedPrecondition ∨ e.code = .aborted)
      ⟨fun code => ⟨e, rfl, code⟩, by rintro ⟨_, ⟨⟩, code⟩; exact code⟩

/-! ## Work that does not refuse -/

/-- Whatever it is told, work fails with internal errors only. -/
def FailsInternally (work : Work Status α) : Prop :=
  work.run.Obeys (fun _ _ => True) (fun _ => True) fun result =>
    ∀ e, result = .error e → e.code = .internal

namespace FailsInternally

theorem pure (a : α) : FailsInternally (Pure.pure a) := nofun

theorem bind {work : Work Status α} {f : α → Work Status β} (h : FailsInternally work)
    (hf : ∀ a, FailsInternally (f a)) : FailsInternally (work >>= f) := by
  refine obeys_run_bind h (fun a _ => hf a) fun e internal e' he => ?_
  cases he
  exact internal e rfl

theorem liftM (p : Program interface α) :
    FailsInternally (MonadLiftT.monadLift p : Work Status α) :=
  obeys_liftM ((obeys_trivial _ p).mono (fun _ _ h => h) (fun _ h => h) fun _ _ => nofun)

theorem fail (message : String) :
    FailsInternally (Service.fail .internal message : Work Status α) := by
  refine bind (liftM _) fun _ e he => ?_
  cases he
  rfl

theorem atMountPoint (work : Work MountPointError α) :
    FailsInternally (Service.atMountPoint work) := by
  refine obeys_bind (obeys_trivial _ work.run) fun result _ e he => ?_
  cases result with
  | ok a => cases he
  | error cause => cases he; rfl

/-- Such work is not what a request was refused by. -/
theorem holds {work : Work Status α} (h : FailsInternally work) (v : View) :
    work.run.Holds effects (fun _ _ => True) (fun result _ => ¬ Refused result) v := by
  refine (holds_of_obeys h fun _ _ _ _ _ => trivial).mono ?_
  rintro result _ internal ⟨e, he, code⟩
  rw [internal e he] at code
  simp at code

end FailsInternally

namespace Service

theorem stage_failsInternally {clusters : Clusters} {r : StageRequest} {volume : Volume}
    (resolved : Volume.resolve r.volumeId r.context clusters = .ok volume) :
    FailsInternally (stageExclusively clusters r) := by
  refine .bind (.atMountPoint _) fun ready => ?_
  cases ready with
  | true => exact .pure ()
  | false =>
    simp only [Bool.false_eq_true, ↓reduceIte, resolved]
    refine .bind (.liftM _) fun reply => ?_
    cases reply with
    | ok _ => exact .liftM _
    | error e => exact .fail _

theorem unstage_failsInternally (r : UnstageRequest) :
    FailsInternally (unstageExclusively r) := by
  refine .bind (.atMountPoint _) fun found => ?_
  cases found with
  | absent | empty => exact .pure ()
  | mounted | corrupted => exact .bind (.atMountPoint _) fun _ => .liftM _

theorem publish_failsInternally (r : PublishRequest) :
    FailsInternally (publishExclusively r) := by
  refine .bind (.atMountPoint _) fun ready => ?_
  cases ready with
  | true => exact .pure ()
  | false =>
    refine .bind (.liftM _) fun reply => ?_
    cases reply with
    | ok _ => exact .liftM _
    | error e =>
      refine .bind (.liftM _) fun removed => ?_
      split <;> exact .fail _

theorem unpublish_failsInternally (r : UnpublishRequest) :
    FailsInternally (unpublishExclusively r) :=
  .bind (.atMountPoint _) fun _ => .liftM _

end Service

/-! ## Work that changes nothing -/

theorem table_of_idle {call : Call} {reply : call.Reply} {v v' : View} (idle : Idle call)
    (changed : effects call reply v v') : v'.table = v.table := by
  cases call with
  | reserve name => rw [changed.2]
  | release name | log event | statFileSystem path => rw [changed]
  | isMountPoint path | probe path => rw [changed.2]
  | makeDirectory path | bindMount source target options | unmount path | removeDirectory path
  | fuseMount volume target secrets => exact idle.elim

/-- What asks for no change makes none. -/
theorem holds_of_idle {p : Program interface α} (h : p.Within Idle) (v : View) :
    p.Holds effects (fun call _ => Idle call) (fun _ v' => v'.table = v.table) v := by
  induction p generalizing v with
  | done a => rfl
  | ask call next ih =>
    refine ⟨h.1, fun reply v' changed => (ih reply (h.next reply) v').mono fun _ _ same => ?_⟩
    rw [same, table_of_idle h.1 changed]

theorem MountPoint.inspect_idle (path : String) : (inspect path).run.Within Idle := by
  refine within_run_bind (within_liftM (within_request trivial)) fun reply => ?_
  match reply with
  | .ok false => trivial
  | .ok true =>
    refine within_run_bind (within_liftM (within_request trivial)) fun reply => ?_
    match reply with
    | .ok () => trivial
    | .error fault =>
      exact within_run_bind (within_liftM (within_request trivial)) fun _ => trivial
  | .error fault =>
    dsimp only
    split
    · trivial
    · split <;> trivial

/-- An empty path is ready as it is. -/
theorem MountPoint.ensure_empty_holds {path : String} {v : View}
    (empty : v.table.state path = .empty) :
    (ensure path).run.Holds effects (fun call _ => Idle call)
      (fun result v' => result = .ok false ∧ v' = v) v := by
  rw [ensure_run]
  refine ⟨trivial, ?_⟩
  rintro _ v ⟨rfl, rfl⟩
  rw [Table.isMountPoint, empty]
  exact ⟨rfl, rfl⟩

namespace Service

theorem stats_idle (r : StatsRequest) : (statsExclusively r).run.Within Idle := by
  refine within_run_bind (within_orFail (MountPoint.inspect_idle _)) fun found => ?_
  cases found with
  | absent | empty => trivial
  | corrupted => exact within_run_bind (within_liftM (within_request trivial)) fun _ => trivial
  | mounted =>
    refine within_run_bind (within_liftM (within_request trivial)) fun reply => ?_
    cases reply <;> trivial

/-- A volume that cannot be told is refused on an empty path without further ado. -/
theorem stage_empty_holds {clusters : Clusters} {r : StageRequest} {v : View} {e : Volume.Error}
    (unresolved : Volume.resolve r.volumeId r.context clusters = .error e)
    (empty : v.table.state r.stagingPath = .empty) :
    (stageExclusively clusters r).run.Holds effects (fun call _ => Idle call)
      (fun _ v' => v'.table = v.table) v := by
  have ready : (atMountPoint (MountPoint.ensure r.stagingPath)).run.Holds effects
      (fun call _ => Idle call) (fun result v' => result = .ok false ∧ v' = v) v := by
    refine holds_orFail ((MountPoint.ensure_empty_holds empty).mono fun result v' h => ?_)
    rw [h.1]
    exact ⟨rfl, h.2⟩
  refine holds_run_bind ready ?_ ?_
  · rintro _ v ⟨⟨⟩, rfl⟩
    simp only [Bool.false_eq_true, ↓reduceIte, unresolved]
    rfl
  · rintro _ _ ⟨⟨⟩, -⟩

end Service

/-! ## Work that changes something -/

namespace MountPoint

/-- A mount that was taken down is gone. -/
theorem takeDown_changes (path : String) (health : Health) (v : View) :
    (takeDown path).Holds effects (fun _ _ => True)
      (fun result v' => result = .ok false → v'.table.state path ≠ .mounted health) v := by
  refine ⟨trivial, ?_⟩
  rintro _ _ rfl
  refine ⟨trivial, ?_⟩
  rintro reply _ rfl down
  cases reply with
  | ok _ => exact Table.mount?_eq_none_iff.1 (Table.mount?_removeMount _ _) health
  | error e => cases down

/-- Where a path was made ready, a mount is gone or a directory is new, unless it was empty. -/
theorem ensure_changes {path : String} {v : View} (occupied : v.table.state path ≠ .empty) :
    (ensure path).run.Holds effects (fun _ _ => True)
      (fun result v' => result = .ok false → v'.table.state path ≠ v.table.state path) v := by
  rw [ensure_run]
  refine ⟨trivial, ?_⟩
  rintro _ v ⟨rfl, rfl⟩
  rw [Table.isMountPoint]
  cases state : v.table.state path with
  | empty => exact absurd state occupied
  | absent =>
    dsimp only
    rw [if_pos rfl]
    refine ⟨trivial, ?_⟩
    rintro reply _ rfl made
    cases reply with
    | ok _ =>
      rw [Table.state_eq, View.after, Table.spot_addDir, if_pos rfl]
      cases (v.table.spot path).2 <;> simp
    | error fault => cases made
  | mounted health =>
    cases health with
    | healthy =>
      refine ⟨trivial, ?_⟩
      rintro _ v ⟨rfl, rfl⟩
      rw [Table.probe, state]
      intro ready
      cases ready
    | disconnected =>
      dsimp only
      rw [if_neg (by decide), if_pos (by decide)]
      exact takeDown_changes _ _ _
    | unreadable =>
      refine ⟨trivial, ?_⟩
      rintro _ v ⟨rfl, rfl⟩
      rw [Table.probe, state]
      refine ⟨trivial, ?_⟩
      rintro _ _ rfl
      exact takeDown_changes _ _ _

end MountPoint

/-- A volume that cannot be told is refused after its path was made ready. -/
theorem Service.stage_occupied_holds {clusters : Clusters} {r : StageRequest} {v : View}
    {e : Volume.Error} (unresolved : Volume.resolve r.volumeId r.context clusters = .error e)
    (occupied : v.table.state r.stagingPath ≠ .empty) :
    (stageExclusively clusters r).run.Holds effects (fun _ _ => True)
      (fun result v' => Refused result →
        v'.table.state r.stagingPath ≠ v.table.state r.stagingPath) v := by
  have ready : (atMountPoint (MountPoint.ensure r.stagingPath)).run.Holds effects
      (fun _ _ => True) (fun result v' => (∀ e, result = .error e → e.code = .internal) ∧
        (result = .ok false → v'.table.state r.stagingPath ≠ v.table.state r.stagingPath)) v := by
    refine holds_orFail ((MountPoint.ensure_changes occupied).mono fun result v' changed => ?_)
    cases result with
    | ok b => exact ⟨nofun, fun h => changed (by cases h; rfl)⟩
    | error cause => exact ⟨fun e he => by cases he; rfl, nofun⟩
  refine holds_run_bind ready (fun found v' h => ?_) ?_
  · cases found with
    | true => rintro ⟨_, ⟨⟩, -⟩
    | false =>
      simp only [Bool.false_eq_true, ↓reduceIte, unresolved]
      exact fun _ => h.2 rfl
  · rintro e v' ⟨internal, -⟩ ⟨_, ⟨⟩, code⟩
    rw [internal e rfl] at code
    simp at code

/-! ## Requests -/

namespace Request

variable {clusters : Clusters} {info : Info} {r : Request} {id : String} {v : View}

/-- Unless a volume is to be staged on a path that is not ready, the work of a request does nothing,
or it does not refuse. -/
theorem work_idle_or_internal (r : Request) (t : Table)
    (ready : ∀ q, r = .stage q → t.state q.stagingPath = .empty) :
    (∀ names, (r.work clusters info).run.Holds effects (fun call _ => Idle call)
      (fun _ v' => v'.table = t) ⟨t, names⟩) ∨
    ∀ v, (r.work clusters info).run.Holds effects (fun _ _ => True)
      (fun result _ => ¬ Refused result) v := by
  have internally {work : Work Status Unit} (h : FailsInternally work) (v : View) :
      (do work; return .done : Work Status Answer).run.Holds effects (fun _ _ => True)
        (fun result _ => ¬ Refused result) v :=
    (h.bind fun _ => .pure Answer.done).holds v
  cases r with
  | stage q =>
    cases resolved : Volume.resolve q.volumeId q.context clusters with
    | ok volume => exact .inr (internally (Service.stage_failsInternally resolved))
    | error e =>
      exact .inl fun _ => holds_run_map (Service.stage_empty_holds resolved (ready q rfl))
  | unstage q => exact .inr (internally (Service.unstage_failsInternally q))
  | publish q => exact .inr (internally (Service.publish_failsInternally q))
  | unpublish q => exact .inr (internally (Service.unpublish_failsInternally q))
  | stats q => exact .inl fun _ => holds_run_map (holds_of_idle (Service.stats_idle q) _)
  | expand | capabilities | info => exact .inl fun _ => rfl

/-- A request that is turned away at once, or finds its path ready, has done nothing if it is
refused. -/
theorem answer_idle_or_not_refused (r : Request)
    (ready : ∀ q, r = .stage q → ¬ r.Barred v.names → v.table.state q.stagingPath = .empty) :
    (r.answer clusters info).run.Holds effects (fun call _ => Idle call)
      (fun _ v' => v'.table = v.table) v ∨
    (r.answer clusters info).run.Holds effects (fun _ _ => True)
      (fun result _ => ¬ Refused result) v := by
  by_cases barred : r.Barred v.names
  · exact .inl (answer_holds_of_work (fun _ _ h => h) (fun _ _ _ h => h) (fun _ _ _ same => same)
      fun admitted => absurd barred admitted)
  · rcases r.work_idle_or_internal v.table fun q hq => ready q hq barred with idle | internal
    · exact .inl (answer_holds_of_work (fun _ _ h => h) (fun _ _ _ h => h)
        (fun _ _ _ same => same) fun _ names => idle names)
    · exact .inr (answer_holds_of_work (fun _ _ _ => trivial) (fun _ _ _ h => h)
        (fun h => absurd h barred) fun _ names => internal _)

/-- Whoever is refused to stage a volume on a path that was not ready has changed the path. -/
theorem stage_changes {q : StageRequest} (admitted : ¬ (Request.stage q).Barred v.names)
    (occupied : v.table.state q.stagingPath ≠ .empty) :
    ((Request.stage q).answer clusters info).run.Holds effects (fun _ _ => True)
      (fun result v' => Refused result → v'.table ≠ v.table) v := by
  refine answer_holds_of_work (fun _ _ _ => trivial) (fun _ _ _ h => h)
    (fun h => absurd h admitted) fun _ names => ?_
  cases resolved : Volume.resolve q.volumeId q.context clusters with
  | ok volume =>
    have internal := ((Service.stage_failsInternally resolved).bind
      fun _ => .pure Answer.done).holds { v with names := names }
    exact internal.mono fun _ _ answered refused => absurd refused answered
  | error e =>
    have changes := Service.stage_occupied_holds (v := { v with names := names }) resolved occupied
    refine holds_run_map (changes.mono ?_)
    rintro result v' changed refused same
    have unchanged : v'.table.state q.stagingPath = v.table.state q.stagingPath := by rw [same]
    refine changed ?_ unchanged
    obtain ⟨e, he, code⟩ := refused
    cases result with
    | ok a => cases he
    | error e' => exact ⟨e, by cases he; rfl, code⟩

end Request

/-! ## Runs -/

section Runs

variable {σ : Type} {handler : Handler interface σ} {view : σ → View} {sound : σ → Prop}
  {clusters : Clusters} {info : Info}

/-- **Refusal.** A request that is refused has done nothing and has left the mounts as they were, if
and only if it was not one to stage a volume, or did not get as far as to the staging path, or found
an empty directory there. -/
theorem refused_idle_iff (behaves : Behaves handler effects view sound) {s : σ} (hs : sound s)
    (r : Request) (refused : Refused ((r.answer clusters info).run.run handler s).1) :
    ((∀ call met, (call, met) ∈ (r.answer clusters info).run.met handler s → Idle call) ∧
      (view ((r.answer clusters info).run.run handler s).2).table = (view s).table) ↔
    ∀ q, r = .stage q → r.Valid → (view s).names.isReserved q.volumeId = false →
      (view s).table.state q.stagingPath = .empty := by
  constructor
  · rintro ⟨-, same⟩ q rfl valid free
    refine Decidable.byContradiction fun occupied => ?_
    -- Making an occupied path ready either changes it or ends in an answer that is no refusal.
    have changes : ((Request.stage q).answer clusters info).run.Holds effects (fun _ _ => True)
        (fun result v' => Refused result → v'.table ≠ (view s).table) (view s) :=
      Request.stage_changes ((Request.not_barred_iff rfl).2 ⟨valid, free⟩) occupied
    obtain ⟨changed, -⟩ := changes.run behaves hs
    exact changed refused same
  · intro ready
    have outcomes : (r.answer clusters info).run.Holds effects (fun call _ => Idle call)
          (fun _ v' => v'.table = (view s).table) (view s) ∨
        (r.answer clusters info).run.Holds effects (fun _ _ => True)
          (fun result _ => ¬ Refused result) (view s) := by
      refine r.answer_idle_or_not_refused fun q hq admitted => ?_
      subst hq
      obtain ⟨valid, free⟩ := (Request.not_barred_iff rfl).1 admitted
      exact ready q rfl valid free
    rcases outcomes with idle | answered
    · obtain ⟨same, asked⟩ := idle.run behaves hs
      exact ⟨fun call met h => asked _ h, same⟩
    · obtain ⟨not_refused, -⟩ := answered.run behaves hs
      exact absurd refused not_refused

/-- A volume that is not known is to be staged. -/
def strangerStaging : Request := .stage ⟨"not-ours", "/s", some ⟨none, none⟩, [], []⟩

theorem refused_idle_iff_empty_path :
    let m : Machine := { Machine.ofBench Engine.Bench.start with table := ⟨["/s"], []⟩ }
    let handler := Machine.handle Machine.fuseMount
    let program := (strangerStaging.answer ⟨[]⟩ ⟨"n", 0, []⟩).run
    Behaves handler effects Machine.view Machine.Tells ∧ m.Tells ∧
    Refused (program.run handler m).1 ∧
    (∀ call met, (call, met) ∈ program.met handler m → Idle call) ∧
    (Machine.view (program.run handler m).2).table = m.table := by
  intro m handler program
  have behaves : Behaves handler effects Machine.view Machine.Tells :=
    Machine.handle_behaves Machine.fuseMount_failsByMount
  have tells : m.Tells := ⟨rfl, rfl⟩
  have refused : Refused (program.run handler m).1 := by decide +kernel
  have idle := (refused_idle_iff behaves tells strangerStaging refused).2 (by
    rintro q hq - -
    cases hq
    decide)
  exact ⟨behaves, tells, refused, idle⟩

/-- **Too early.** A directory is made for a volume that is then refused. -/
theorem refused_after_makeDirectory :
    let m : Machine := Machine.ofBench Engine.Bench.start
    let handler := Machine.handle Machine.fuseMount
    let after := (strangerStaging.answer ⟨[]⟩ ⟨"n", 0, []⟩).run.run handler m
    Refused after.1 ∧ after.2.acts = [.makeDirectory "/s"] ∧
    ¬ ∀ (clusters : Clusters) (info : Info) (m : Machine) (r : Request), m.Tells →
      let program := (r.answer clusters info).run
      Refused (program.run handler m).1 →
      (∀ call met, (call, met) ∈ program.met handler m → Idle call) ∧
        (program.run handler m).2.table = m.table := by
  intro m handler after
  have refused : Refused after.1 := by decide +kernel
  refine ⟨refused, by decide +kernel, fun claim => ?_⟩
  obtain ⟨-, same⟩ := claim ⟨[]⟩ ⟨"n", 0, []⟩ m strangerStaging ⟨rfl, rfl⟩ refused
  revert same
  decide +kernel

end Runs

end FuseVolumes.Node
