import FuseVolumes.Controller.Session
import FuseVolumes.Proofs.Controller.Request

/-!
# Commands on one volume

A request to the controller runs its commands while it holds a name (`Request.heeds`): who creates
a volume reserves the name it is created for, and who deletes or expands one reserves its handle as
it is written. Requests of one name run their commands one after the other (`commands_apart`), and
those of different names need not. So two requests on one volume of a pool exclude each other if and
only if both create it, or both give it by the same handle (`commands_serial_iff`): a volume can be
deleted while it is created (`deleted_while_created`).
-/

namespace FuseVolumes.Controller

open Program
open Engine (Work Stays)
open Engine.Pool (Uses)

/-! ## Commands under a name -/

/-- A task heeds its name, whatever the answer. -/
abbrev Heeding {α : Type} (name : String) (phase : Phase) (p : Program Engine.interface α) : Prop :=
  Heeds Engine.locking name (fun _ _ => True) phase p

/-- How an answer is put makes no difference to the name. -/
theorem heeding_bind {α β : Type} {name : String} {phase : Phase} {work : Work Status α}
    {f : α → β} (h : Heeding name phase work.run) :
    Heeding name phase (do return f (← work) : Work Status β).run := by
  refine h.bind fun phase result free _ => ?_
  cases result <;> exact ⟨free, trivial⟩

namespace Service

section Heeding

variable {α : Type} {name : String}

theorem exclusively_heeds {work : Work Status α} (h : work.run.Within Stays) :
    Heeding name .waiting (exclusively name work).run := by
  rw [exclusively, Engine.reserving_run]
  refine ⟨rfl, fun taken => ?_⟩
  cases taken with
  | false => exact ⟨nofun, trivial⟩
  | true => exact heeds_bind h fun _ _ => ⟨rfl, fun _ => ⟨nofun, trivial⟩⟩

theorem asAdmin_heeds {secrets : Dict} {work : Credentials → Work Status α}
    (h : ∀ c, Heeding name .waiting (work c).run) :
    Heeding name .waiting (asAdmin secrets work).run := by
  rw [asAdmin, Engine.withCredentials_run]
  match Credentials.select .admin secrets with
  | .error e => exact ⟨nofun, trivial⟩
  | .ok (user, key) =>
    refine ⟨trivial, fun reply => ?_⟩
    match reply with
    | .error fault => exact ⟨nofun, trivial⟩
    | .ok file =>
      refine (h ⟨user, file⟩).bind fun phase _ free _ => ?_
      cases phase <;> exact ⟨trivial, fun _ => ⟨free, trivial⟩⟩

end Heeding

end Service

/-! ## Requests -/

namespace Request

/-- **Discipline.** A request runs its commands while it holds its name. -/
theorem heeds {clusters : Clusters} {r : Request} {name : String}
    (named : ∀ other, r.name? = some other → other = name) :
    Heeding name .waiting (r.answer clusters).run := by
  have refused {α : Type} (message : String) :
      Heeding name .waiting (Service.refuse message : Work Status α).run := ⟨nofun, trivial⟩
  have stays {α : Type} {work : Work Status α} {about : Volume → Prop}
      (h : work.run.Within (Uses about)) : work.run.Within Stays := h.mono fun _ uses => uses.stays
  cases r with
  | create r =>
    obtain rfl : r.name = name := named _ rfl
    refine heeding_bind ?_
    rcases Service.create_cases clusters r with ⟨message, refusal⟩ | granted
    · rw [refusal]
      exact refused _
    · rw [granted]
      exact Service.asAdmin_heeds fun c =>
        Service.exclusively_heeds (stays (Service.create_uses clusters r c))
  | delete r =>
    obtain rfl : r.volumeId = name := named _ rfl
    refine heeding_bind ?_
    rcases Service.delete_cases clusters r with ⟨message, refusal⟩ | granted
    · rw [refusal]
      exact refused _
    · rw [granted]
      exact Service.asAdmin_heeds fun c =>
        Service.exclusively_heeds (stays (Service.delete_uses clusters r c))
  | expand r =>
    obtain rfl : r.volumeId = name := named _ rfl
    refine heeding_bind ?_
    rcases Service.expand_cases clusters r with ⟨message, refusal⟩ | ⟨required, -, granted⟩
    · rw [refusal]
      exact refused _
    · rw [granted]
      exact Service.exclusively_heeds (Engine.withCredentials_within (fun _ _ => .inl rfl)
        (fun _ => .inl rfl) fun c => stays (Service.expand_uses clusters r required c))
  | validate r =>
    refine heeding_bind ?_
    rcases Service.validate_cases r with ⟨message, refusal⟩ | ⟨answer, given⟩
    · rw [refusal]
      exact refused _
    · rw [given]
      exact ⟨nofun, trivial⟩
  | capabilities | other => exact ⟨nofun, trivial⟩

/-- A request whose commands take time. -/
def steps (clusters : Clusters) (r : Request) :
    Program (stepwise Engine.interface) (Except Status Answer) :=
  (r.answer clusters).run.via Engine.locking.steps

end Request

/-! ## Requests of one name -/

/-- However requests that share the names in use take turns, and whatever they are answered, all
commands of one of these two come before all commands of the other. -/
def Serialised (clusters : Clusters) (a b : Request) : Prop :=
  ∀ (σ : Type) (handler : Handler (stepwise Engine.interface) σ) (reservations : σ → Reservations),
    Reserves Engine.locking.overSteps handler reservations →
    ∀ (requests : List Request) s trace tasks' s' i j, (reservations s).names = [] →
      Reaches handler (requests.map (Request.steps clusters)) s trace tasks' s' →
      i ≠ j → requests[i]? = some a → requests[j]? = some b →
      Apart Engine.locking.overSteps.IsWork i j trace

/-- **Exclusion.** Requests of one name run their commands one after the other. -/
theorem commands_apart (clusters : Clusters) {a b : Request} {name : String}
    (named : a.name? = some name) (named' : b.name? = some name) : Serialised clusters a b := by
  intro σ handler reservations law requests s trace tasks' s' i j free reached hij ha hb
  have keeping : Keeping Engine.locking.overSteps (nameAt Request.name? requests) _ _
      (requests.map (Request.steps clusters)) (reservations s) :=
    .start_map requests free fun _ _ named => heeds_steps (Request.heeds named)
  exact keeping.apart law reached hij ((nameAt_eq ha named).trans (nameAt_eq hb named').symm)

/-! ## Requests on one volume -/

/-- A request runs commands when it is alone and nothing fails. -/
def Request.RunsCommands (clusters : Clusters) (r : Request) : Prop :=
  Works Engine.locking Engine.smooth (r.answer clusters).run .empty

instance (clusters : Clusters) (r : Request) : Decidable (r.RunsCommands clusters) :=
  inferInstanceAs (Decidable (∃ x ∈ met Engine.smooth (r.answer clusters).run .empty,
    Engine.locking.IsWork x.1))

/-- Requests of different names can overlap. -/
theorem not_serialised {clusters : Clusters} {a b : Request} {name name' : String}
    (named : a.name? = some name) (named' : b.name? = some name') (hne : name ≠ name')
    (runs : a.RunsCommands clusters) (runs' : b.RunsCommands clusters) :
    ¬ Serialised clusters a b := by
  intro serial
  have heeds {r : Request} {name : String} (named : r.name? = some name) :
      Heeding name .waiting (r.answer clusters).run :=
    r.heeds fun other h => Option.some.inj (h.symm.trans named)
  obtain ⟨trace, tasks', r', reached, overlaps⟩ :=
    works_overlap Engine.smooth_steady hne (heeds named) (heeds named') runs runs'
  exact overlaps (serial _ _ id Engine.smooth_steady.reserves.steps [a, b] .empty trace tasks' r'
    0 1 rfl reached Nat.zero_ne_one rfl rfl)

/-- **Serialisation.** Two requests on one volume of a pool run their commands one after the other,
whatever else is in flight, if and only if they give the same handle or both give none. -/
theorem commands_serial_iff {clusters : Clusters} {a b : Request} {v : PoolVolume}
    (ha : a.poolVolume? = some v) (hb : b.poolVolume? = some v)
    (runs : a.RunsCommands clusters) (runs' : b.RunsCommands clusters) :
    Serialised clusters a b ↔ a.handle? = b.handle? := by
  rw [← Request.name?_eq_iff ha hb]
  obtain ⟨name, named⟩ := Option.isSome_iff_exists.1 (Request.name?_isSome ha)
  obtain ⟨name', named'⟩ := Option.isSome_iff_exists.1 (Request.name?_isSome hb)
  rw [named, named', Option.some.injEq]
  constructor
  · intro serial
    exact Decidable.byContradiction fun hne => not_serialised named named' hne runs runs' serial
  · rintro rfl
    exact commands_apart clusters named named'

/-! One volume is created, deleted, and expanded by its handle in two spellings. -/

def oneCluster : Clusters := ⟨[("1", "http://fcfs")]⟩

def adminSecrets : Dict := [("adminName", "admin"), ("adminSecretKey", "s3cr3t")]

def creation : Request :=
  .create ⟨"pvc-1", some 1, [⟨some (.mount "" []), some 1⟩], [("clusterID", "1")], adminSecrets,
    false, none⟩

def deletion : Request := .delete ⟨"0001-1-0005-admin-000d-csi-vol-pvc-1", adminSecrets⟩

def expansion (id : String) : Request := .expand ⟨id, some 1, adminSecrets⟩

theorem commands_serial_by_spelling :
    let same := expansion "0001-1-0005-admin-000d-csi-vol-pvc-1"
    let respelled := expansion "0001-1-0005-admin-000D-csi-vol-pvc-1"
    let requests := [creation, deletion, same, respelled]
    (∀ r ∈ requests, r.poolVolume? = some ⟨"1", "csi-vol-pvc-1"⟩) ∧
    (∀ r ∈ requests, r.RunsCommands oneCluster) ∧
    Serialised oneCluster creation creation ∧ Serialised oneCluster deletion same ∧
    ¬ Serialised oneCluster creation deletion ∧ ¬ Serialised oneCluster deletion respelled := by
  intro same respelled requests
  have about : ∀ r ∈ requests, r.poolVolume? = some ⟨"1", "csi-vol-pvc-1"⟩ := by decide +kernel
  have runs : ∀ r ∈ requests, r.RunsCommands oneCluster := by decide +kernel
  have serial {a b : Request} (ha : a ∈ requests) (hb : b ∈ requests) :
      Serialised oneCluster a b ↔ a.handle? = b.handle? :=
    commands_serial_iff (about a ha) (about b hb) (runs a ha) (runs b hb)
  have present : creation ∈ requests ∧ deletion ∈ requests ∧ same ∈ requests ∧
      respelled ∈ requests := by simp [requests]
  obtain ⟨hcreation, hdeletion, hsame, hrespelled⟩ := present
  refine ⟨about, runs, (serial hcreation hcreation).2 rfl, (serial hdeletion hsame).2 rfl, ?_, ?_⟩
  · rw [serial hcreation hdeletion]
    decide
  · rw [serial hdeletion hrespelled]
    decide

/-- The deletion comes after the answer that there is no such volume, while its creation is on its
way. -/
def race : List (Nat × Step Engine.interface) ×
    List (Program (stepwise Engine.interface) (Except Status Answer)) × Engine.Bench :=
  takeTurns (handleSteps Session.handler)
    (List.replicate 5 0 ++ List.replicate 7 1 ++ List.replicate 4 0)
    ([creation, deletion].map (Request.steps oneCluster))
    (Engine.Bench.start.prepare [.ran ⟨some 2, ""⟩, .ran ⟨some 0, ""⟩, .ran ⟨some 0, ""⟩])

/-- A task that has ended well. -/
def succeeded : Program (stepwise Engine.interface) (Except Status Answer) → Bool
  | .done (.ok _) => true
  | _ => false

/-- **Interleaving.** A volume can be deleted while it is created, and both requests succeed. -/
theorem deleted_while_created :
    race.2.2.commands.map (·.arguments.drop 6) =
      [["plist", "admin", "csi-vol-pvc-1"], ["delete", "csi-vol-pvc-1"],
        ["create", "csi-vol-pvc-1", "1g"]] ∧
    race.2.1.map succeeded = [true, true] ∧
    ¬ Apart Engine.locking.overSteps.IsWork 0 1 race.1 ∧
    ¬ ∀ a b v, a.poolVolume? = some v → b.poolVolume? = some v → Serialised oneCluster a b := by
  have overlaps : ¬ Apart Engine.locking.overSteps.IsWork 0 1 race.1 := by decide +kernel
  refine ⟨by decide +kernel, by decide +kernel, overlaps, fun serial => overlaps ?_⟩
  exact serial creation deletion ⟨"1", "csi-vol-pvc-1"⟩ (by decide +kernel) (by decide +kernel)
    Engine.Bench _ Engine.Bench.reservations Engine.Bench.handle_reserves.steps
    [creation, deletion] _ _ _ _ 0 1 rfl (reaches_takeTurns ..) Nat.zero_ne_one rfl rfl

end FuseVolumes.Controller
