import FuseVolumes.Node.MountPoint
import FuseVolumes.Proofs.Node.Footprint
import FuseVolumes.Proofs.Program.Progress

/-!
What it takes to make a path ready to be mounted on. `MountPoint.ensure_run` writes the work out as
a tree of requests, all of them about the path. On a node where nothing fails (`Faultless`) it always
tells whether a mount that answers is there (`ensure_tells`); what it tells follows from the state
of the path as the node shows it (`ensure_healthy`, `ensure_unhealthy`), and it changes nothing
where the mount answers.
-/

namespace FuseVolumes.Node

open Program

/-! ## Nodes on which nothing fails -/

/-- Replies of a node on which no name is in use and nothing fails. -/
def Faultless : (call : Call) → call.Reply → Prop
  | .reserve _, taken => taken = true
  | .isMountPoint _, reply =>
    ∀ fault, reply = .error fault → fault = .notFound ∨ fault.isCorruption = true
  | .makeDirectory _, reply => reply = .ok ()
  | .bindMount _ _ _, reply => reply = .ok ()
  | .unmount _, reply => reply = .ok ()
  | .fuseMount _ _ _, reply => reply = .ok ()
  | .release _, _ | .log _, _ | .probe _, _ | .removeDirectory _, _ | .statFileSystem _, _ => True

/-- Replies that tell the state of the path. -/
def Shows (t : Mount.Table) (path : String) : (call : Call) → call.Reply → Prop
  | .isMountPoint other, reply => other = path → reply = t.isMountPoint path
  | .probe other, reply => other = path → reply = t.probe path
  | _, _ => True

/-- Faultless replies that tell the state of the path. -/
def FaultlessAt (t : Mount.Table) (path : String) (call : Call) (reply : call.Reply) : Prop :=
  Faultless call reply ∧ Shows t path call reply

/-- Faultless replies that tell the state of every path. -/
def FaultlessOn (t : Mount.Table) (call : Call) (reply : call.Reply) : Prop :=
  Faultless call reply ∧ ∀ path, Shows t path call reply

/-- Requests that put a mount on the path. -/
def Mounts (path : String) : Call → Prop
  | .bindMount _ target _ | .fuseMount _ target _ => target = path
  | _ => False

/-- Requests after which nothing that answers is left on the path. -/
def Clears (path : String) : Call → Prop
  | .makeDirectory other | .unmount other => other = path
  | _ => False

/-- Requests that leave all paths as they are. -/
def Idle : Call → Prop
  | .reserve _ | .release _ | .log _ | .isMountPoint _ | .probe _ | .statFileSystem _ => True
  | .makeDirectory _ | .bindMount _ _ _ | .unmount _ | .removeDirectory _
  | .fuseMount _ _ _ => False

theorem faultless_exists (call : Call) : ∃ reply, Faultless call reply := by
  cases call with
  | reserve name => exact ⟨true, rfl⟩
  | isMountPoint path => exact ⟨.ok true, by simp [Faultless]⟩
  | makeDirectory path | bindMount source target options | unmount path
  | fuseMount volume target secrets => exact ⟨.ok (), rfl⟩
  | release name | log event => exact ⟨(), trivial⟩
  | probe path | removeDirectory path | statFileSystem path => exact ⟨.ok (), trivial⟩

/-! ## Machines on which nothing fails -/

namespace Machine

/-- Nothing is set to fail. -/
structure Sound (m : Machine) : Prop where
  failures : m.failures = .none
  refusals : m.refusals = []

variable {m : Machine} {t : Mount.Table} {path : String}

theorem Sound.handle (hm : m.Sound) (call : Call) : (handle fuseMount call m).2.Sound := by
  obtain ⟨failures, refusals⟩ := handle_failures fuseMount_failsByMount call m
  exact ⟨failures.trans hm.failures, refusals.trans hm.refusals⟩

theorem fault?_none (path : String) :
    fault? Mount.Failures.none.isMountPoint path = none ∧
    fault? Mount.Failures.none.probe path = none ∧
    fault? Mount.Failures.none.makeDir path = none ∧
    fault? Mount.Failures.none.bindMount path = none ∧
    fault? Mount.Failures.none.remount path = none ∧
    fault? Mount.Failures.none.unmount path = none ∧
    fault? Mount.Failures.none.undo path = none := ⟨rfl, rfl, rfl, rfl, rfl, rfl, rfl⟩

theorem isMountPoint_faultless (t : Mount.Table) (path : String) :
    Faultless (.isMountPoint path) (t.isMountPoint path) := by
  intro fault h
  rw [Mount.Table.isMountPoint] at h
  split at h <;> cases h
  · exact .inr rfl
  · exact .inl rfl

theorem handle_faultless (hm : m.Sound) (call : Call)
    (free : ∀ name, call = .reserve name → m.bench.reservations.isReserved name = false) :
    Faultless call (handle fuseMount call m).1 := by
  cases call with
  | reserve name =>
    simp [Machine.handle, reserve, Reservations.tryAcquire, Faultless, free name rfl]
  | isMountPoint path =>
    simp only [Machine.handle, isMountPoint, hm.failures, fault?_none]
    exact isMountPoint_faultless m.table path
  | makeDirectory path | bindMount source target options | unmount path =>
    simp [Machine.handle, makeDirectory, bindMount, unmount, record, hm.failures, fault?_none,
      Faultless]
  | fuseMount volume target secrets =>
    simp [Machine.handle, fuseMount, record, hm.refusals, Faultless]
  | release name | log event | probe path | removeDirectory path | statFileSystem path => trivial

theorem handle_shows (hm : m.Sound) (h : m.table.spot path = t.spot path) (call : Call) :
    Shows t path call (handle fuseMount call m).1 := by
  cases call with
  | isMountPoint other =>
    rintro rfl
    simp only [Machine.handle, isMountPoint, hm.failures, fault?_none]
    exact Mount.Table.isMountPoint_congr h
  | probe other =>
    rintro rfl
    simp only [Machine.handle, probe, hm.failures, fault?_none]
    exact Mount.Table.probe_congr h
  | _ => trivial

theorem handle_mounts (hm : m.Sound) {call : Call} (h : Mounts path call) :
    (handle fuseMount call m).2.table.state path = .mounted .healthy := by
  have mounted : (handle fuseMount call m).2.table.spot path = (true, some .healthy) := by
    rw [handle_spot fuseMount_failsByMount]
    cases call with
    | bindMount source target options =>
      obtain rfl : target = path := h
      simp [hm.failures, fault?_none]
    | fuseMount volume target secrets =>
      obtain rfl : target = path := h
      simp [fuseMount, record, hm.refusals, Except.isOk, Except.toBool]
    | _ => exact h.elim
  rw [Mount.Table.state_eq, mounted]

theorem handle_spot_eq {call : Call} (hmounts : ¬ Mounts path call) (hclears : ¬ Clears path call) :
    (handle fuseMount call m).2.table.spot path = m.table.spot path := by
  rw [handle_spot fuseMount_failsByMount]
  cases call with
  | makeDirectory other | unmount other => simp [Ne.symm (show other ≠ path from hclears)]
  | bindMount source other options => simp [Ne.symm (show other ≠ path from hmounts)]
  | fuseMount volume other secrets => simp [Ne.symm (show other ≠ path from hmounts)]
  | _ => rfl

theorem handle_idle {call : Call} (h : Idle call) :
    (handle fuseMount call m).2.table = m.table := by
  cases call <;> first | rfl | exact h.elim

end Machine

/-! ## The work as a tree -/

namespace MountPoint

/-- Takes down a mount that does not answer. -/
def takeDown (path : String) : Program interface (Except MountPointError Bool) :=
  .ask (I := interface)
    (.log ((Event.info .mountPoint "Unmounting corrupted mount point").beside [("path", path)]))
    fun _ => .ask (I := interface) (.unmount path) fun reply =>
      .done ((reply.mapError .mount).map fun _ => false)

theorem ensure_run (path : String) :
    (ensure path).run = .ask (I := interface) (.isMountPoint path) fun
      | .ok false => .done (.ok false)
      | .ok true => .ask (I := interface) (.probe path) fun
        | .ok () => .done (.ok true)
        | .error fault =>
          .ask (I := interface) (.log ((Event.warn .mountPoint "Mount point is not responsive").beside
            [("path", path), ("error", fault.message)])) fun _ => takeDown path
      | .error fault =>
        if fault = .notFound then
          .ask (I := interface) (.makeDirectory path) fun reply =>
            .done ((reply.mapError (.makeDirectory path)).map fun _ => false)
        else if fault.isCorruption then takeDown path
        else .done (.error (.inspect path fault)) := by
  have down : takeDown path = (do
      Node.log <| (Event.info .mountPoint "Unmounting corrupted mount point").beside [("path", path)]
      unmount path
      return false : Work MountPointError Bool).run := by
    change Program.ask _ _ = Program.ask _ _
    congr 1
    funext _
    change Program.ask _ _ = Program.ask _ _
    congr 1
    funext reply
    cases reply <;> rfl
  change Program.ask _ _ = Program.ask _ _
  congr 1
  funext reply
  cases reply with
  | ok b =>
    cases b with
    | false => rfl
    | true =>
      change Program.ask _ _ = Program.ask _ _
      congr 1
      funext reply
      cases reply with
      | ok _ => rfl
      | error fault => rw [down]; rfl
  | error fault =>
    dsimp only [Program.bind, Function.comp_apply, ExceptT.bindCont]
    split
    · change Program.ask _ _ = Program.ask _ _
      congr 1
      funext reply
      cases reply <;> rfl
    · split
      · rw [down]; rfl
      · rfl

/-! ## What it asks for and tells -/

variable {t : Mount.Table} {path : String}

/-- Requests that find out about a path and make it ready. -/
def Prepares (path : String) : Call → Prop
  | .isMountPoint other | .probe other | .makeDirectory other | .unmount other => other = path
  | .log _ => True
  | .reserve _ | .release _ | .bindMount _ _ _ | .removeDirectory _ | .fuseMount _ _ _
  | .statFileSystem _ => False

theorem ensure_prepares (path : String) : (ensure path).run.Within (Prepares path) := by
  have down : (takeDown path).Within (Prepares path) :=
    ⟨trivial, fun _ _ => ⟨rfl, fun _ _ => trivial⟩⟩
  rw [ensure_run]
  refine ⟨rfl, fun reply _ => ?_⟩
  match reply with
  | .ok false => trivial
  | .ok true =>
    refine ⟨rfl, fun reply _ => ?_⟩
    match reply with
    | .ok () => trivial
    | .error fault => exact ⟨trivial, fun _ _ => down⟩
  | .error fault =>
    dsimp only
    split
    · exact ⟨rfl, fun _ _ => trivial⟩
    · split
      · exact down
      · trivial

theorem ensure_within (path : String) : (ensure path).run.Within (Footprint.one path).Covers :=
  (ensure_prepares path).mono fun call h => by cases call <;> first | exact h | exact h.elim

theorem takeDown_tells (path : String) :
    (takeDown path).Obeys Faultless (Footprint.one path).Covers (· = .ok false) :=
  ⟨trivial, fun _ _ => ⟨rfl, fun _ hr => by rw [hr]; rfl⟩⟩

/-- It always tells something. -/
theorem ensure_tells (path : String) :
    (ensure path).run.Obeys Faultless (Footprint.one path).Covers
      fun answer => ∃ b, answer = .ok b := by
  have down : (takeDown path).Obeys Faultless (Footprint.one path).Covers
      fun answer => ∃ b, answer = .ok b :=
    (takeDown_tells path).mono (fun _ _ h => h) (fun _ h => h) fun _ h => ⟨false, h⟩
  rw [ensure_run]
  refine ⟨rfl, fun reply hr => ?_⟩
  match reply, hr with
  | .ok false, _ => exact ⟨false, rfl⟩
  | .ok true, _ =>
    refine ⟨rfl, fun reply _ => ?_⟩
    match reply with
    | .ok () => exact ⟨true, rfl⟩
    | .error fault => exact ⟨trivial, fun _ _ => down⟩
  | .error fault, hr =>
    dsimp only
    split
    next => exact ⟨rfl, fun _ hr => ⟨false, by rw [hr]; rfl⟩⟩
    next hn =>
      rcases hr fault rfl with h | h
      · exact absurd h hn
      · rw [if_pos h]
        exact down

/-- A mount that answers is told of, and left alone. -/
theorem ensure_healthy (h : t.state path = .mounted .healthy) :
    (ensure path).run.Obeys (Shows t path) Idle (· = .ok true) := by
  rw [ensure_run]
  refine ⟨trivial, fun reply hr => ?_⟩
  have mounted : reply = .ok true := by
    rw [hr rfl, Mount.Table.isMountPoint, h]
  subst mounted
  refine ⟨trivial, fun reply hr => ?_⟩
  have answers : reply = .ok () := by
    rw [hr rfl, Mount.Table.probe, h]
  subst answers
  rfl

/-- Where no mount answers, none is told of. -/
theorem ensure_unhealthy (h : t.state path ≠ .mounted .healthy) :
    (ensure path).run.Obeys (FaultlessAt t path) (Footprint.one path).Covers (· = .ok false) := by
  have down : (takeDown path).Obeys (FaultlessAt t path) (Footprint.one path).Covers
      (· = .ok false) :=
    (takeDown_tells path).mono (fun _ _ h => h.1) (fun _ h => h) fun _ h => h
  rw [ensure_run]
  refine ⟨rfl, fun reply hr => ?_⟩
  have shown := hr.2 rfl
  cases hs : t.state path with
  | absent =>
    rw [Mount.Table.isMountPoint, hs] at shown
    subst shown
    dsimp only
    rw [if_pos rfl]
    exact ⟨rfl, fun _ hr => by rw [hr.1]; rfl⟩
  | empty =>
    rw [Mount.Table.isMountPoint, hs] at shown
    subst shown
    rfl
  | mounted health =>
    cases health with
    | healthy => exact absurd hs h
    | disconnected =>
      rw [Mount.Table.isMountPoint, hs] at shown
      subst shown
      dsimp only
      rw [if_neg (by decide), if_pos (by decide)]
      exact down
    | unreadable =>
      rw [Mount.Table.isMountPoint, hs] at shown
      subst shown
      refine ⟨rfl, fun reply hr => ?_⟩
      have silent := hr.2 rfl
      rw [Mount.Table.probe, hs] at silent
      subst silent
      exact ⟨trivial, fun _ _ => down⟩

/-- Once the path was cleared no mount is told of, so what goes on from there decides whether the
path is mounted on again. -/
theorem ensure_bind_follows {α : Type} {next : Except MountPointError Bool → Program interface α}
    {goal : Call → Prop} {other : String}
    (owes : path = other → (next (.ok false)).Owes Faultless goal)
    (follows : ∀ b, (next (.ok b)).Follows Faultless (Clears other) goal) :
    ((ensure path).run.bind next).Follows Faultless (Clears other) goal := by
  have down : ((takeDown path).bind next).Follows Faultless (Clears other) goal := by
    refine fun _ _ => ⟨False.elim, fun reply hr => ?_⟩
    rw [show reply = .ok () from hr]
    exact ⟨owes, follows false⟩
  rw [ensure_run]
  refine fun reply hr => ⟨False.elim, ?_⟩
  match reply, hr with
  | .ok false, _ => exact follows false
  | .ok true, _ =>
    refine fun reply _ => ⟨False.elim, ?_⟩
    match reply with
    | .ok () => exact follows true
    | .error fault => exact fun _ _ => ⟨False.elim, down⟩
  | .error fault, hr =>
    dsimp only
    split
    next =>
      intro reply hr
      rw [show reply = .ok () from hr]
      exact ⟨owes, follows false⟩
    next hn =>
      rcases hr fault rfl with h | h
      · exact absurd h hn
      · rw [if_pos h]
        exact down

end MountPoint

end FuseVolumes.Node
