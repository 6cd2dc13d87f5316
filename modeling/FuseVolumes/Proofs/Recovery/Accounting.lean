import FuseVolumes.Proofs.Recovery.Ending
import FuseVolumes.Proofs.Recovery.Isolation
import FuseVolumes.Proofs.Recovery.PassedOver

/-!
# The report of a recovery

Every attached volume is counted once (`Report.count_total`). Whether it is skipped follows from
what the orchestrator tells of it and from the names in use when the pass begins; a volume that is
planned fails if and only if it was hindered on its way to the mount; and a volume that is recovered
has a mount that answers (`report_accounts`).
-/

namespace FuseVolumes.Recovery

open Program Node Mount Orchestrator

variable {handler : Handler Node.interface Machine} {view : Machine → View}
  {sound : Machine → Prop} {scope : Scope} {session : Session} {m m' : Machine}
  {prepared : List Prepared} {trace : List (Nat × Node.Call)} {outcomes : List Outcome}
  {v : PersistentVolume} {i : Nat}

/-! ## Counting -/

theorem Report.count_total (outcomes : List Outcome) :
    (count outcomes).recovered + (count outcomes).failed + (count outcomes).skipped =
      outcomes.length := by
  induction outcomes with
  | nil => rfl
  | cons outcome rest ih =>
    simp only [count] at ih ⊢
    cases outcome <;> simp <;> omega

/-! ## What a task is about -/

def Prepared.footprint (root : String) : Prepared → Footprint
  | .counted _ => .ofPaths []
  | .planned plan => plan.footprint root

theorem Prepared.task_covers (root : String) (x : Prepared) :
    (x.task root).Within (x.footprint root).Covers := by
  cases x with
  | counted outcome => trivial
  | planned plan => exact recover_covers root plan

/-- What a volume that is planned goes by. -/
theorem planned_names {users : List PodMount} {plan : Plan}
    (h : preparedFor scope session v users = .planned plan) :
    plan.persistentVolume = v.name.getD "" ∧ handleOf v = some plan.volume.id := by
  by_cases used : users = []
  · obtain ⟨outcome, counted⟩ := preparedFor_nil scope session v
    rw [used, counted] at h
    cases h
  · rcases preparedFor_cases scope session v with ⟨outcome, counted⟩ | ⟨found, hid, planned⟩
    · rw [counted _ used] at h
      cases h
    · rw [planned _ used] at h
      cases h
      exact ⟨rfl, hid⟩

/-! ## Tasks among others -/

/-- What holds of the task of a plan by itself holds of it in a pass, as long as the other tasks do
not change what is seen. -/
theorem Passes.holds {τ : Type} {see : View → τ} {during : Node.Call → τ → Prop}
    {wanted : Outcome → τ → Prop} (behaves : Behaves handler faultyEffects view sound)
    (hs : sound m) (h : Passes handler scope session m prepared trace outcomes m') {plan : Plan}
    (hi : prepared[i]? = some (.planned plan))
    (others : ∀ (j : Nat) x, j ≠ i → prepared[j]? = some x → ∀ call reply v v',
      effects call reply v v' → (x.footprint scope.root).Covers call → see v' = see v)
    (start : (recover scope.root plan).Holds (seen see faultyEffects) during wanted
      (see (view m))) :
    ∃ outcome, outcomes[i]? = some outcome ∧ wanted outcome (see (view m')) := by
  have within : AllWithin
      (fun j call => ∃ x, prepared[j]? = some x ∧ (x.footprint scope.root).Covers call)
      (prepared.map (·.task scope.root)) :=
    allWithin_map fun j x hx =>
      (x.task_covers scope.root).mono fun call covered => ⟨x, hx, covered⟩
  have started : (prepared.map (·.task scope.root))[i]? = some (recover scope.root plan) := by
    rw [List.getElem?_map, hi]
    rfl
  have own : Behaves handler (seen see faultyEffects) (fun m => see (view m)) sound :=
    behaves.seen see
  have spared (j : Nat) (call : Node.Call) (m : Machine) (differ : j ≠ i) (hm : sound m)
      (allowed : ∃ x, prepared[j]? = some x ∧ (x.footprint scope.root).Covers call) :
      see (view (handler call m).2) = see (view m) := by
    obtain ⟨x, hx, covered⟩ := allowed
    obtain ⟨_, effect⟩ := exists_effect (behaves.effects call m hm)
    exact others j x differ hx call _ _ _ effect covered
  have ended := Finishes.holds own spared h.tasks within hs started start
  exact ended

section Plan

variable {plan : Plan}

theorem Passes.skips (behaves : Behaves handler faultyEffects view sound) (hs : sound m)
    (distinct : (handles (scope.volumes session)).Nodup)
    (h : Passes handler scope session m prepared trace outcomes m')
    (hi : prepared[i]? = some (.planned plan)) :
    ∃ outcome, outcomes[i]? = some outcome ∧
      (outcome = .skipped ↔ (view m).names.isReserved plan.volume.id = true) := by
  refine h.holds behaves hs hi ?_ (recover_skips scope.root plan _)
  intro j x differ hx call reply v v' effect covered
  refine reserved_of_covers effect covered fun named => ?_
  cases x with
  | counted outcome => exact named
  | planned other =>
    have names := (prepare_reserves h.plans).nodup distinct
    exact differ (index_eq_of_nodup names hx hi rfl (congrArg some named))

theorem Passes.mounts (behaves : Behaves handler faultyEffects view sound) (hs : sound m)
    (h : Passes handler scope session m prepared trace outcomes m')
    (hi : prepared[i]? = some (.planned plan))
    (apart : ∀ (j : Nat) other, prepared[j]? = some (.planned other) →
      Kubelet.globalMount scope.root plan.persistentVolume =
        Kubelet.globalMount scope.root other.persistentVolume → j = i) :
    ∃ outcome, outcomes[i]? = some outcome ∧ (outcome = .recovered →
      (view m').table.mount? (Kubelet.globalMount scope.root plan.persistentVolume) =
        some .healthy) := by
  refine h.holds behaves hs hi ?_ (recover_mounts scope.root plan _)
  intro j x differ hx call reply v v' effect covered
  refine Table.mount?_congr (spot_of_covers effect covered fun below => ?_)
  cases x with
  | counted outcome => cases below
  | planned other =>
    rcases List.mem_cons.1 below with same | below
    · exact differ (apart j other hx same)
    · exact other.globalMount_not_mem_podPaths scope.root _ below

theorem Passes.fails (h : Passes handler scope session m prepared trace outcomes m')
    (hi : prepared[i]? = some (.planned plan)) :
    ∃ outcome, outcomes[i]? = some outcome ∧ (outcome = .failed ↔ Told handler
      (Hinders (Kubelet.globalMount scope.root plan.persistentVolume)) i trace m) := by
  refine Finishes.told h.tasks ?_ (recover_fails scope.root plan)
  rw [List.getElem?_map, hi]
  rfl

end Plan

/-- A volume that is counted when plans are made stays counted so. -/
theorem Passes.counts (h : Passes handler scope session m prepared trace outcomes m')
    {outcome : Outcome} (hi : prepared[i]? = some (.counted outcome)) :
    outcomes[i]? = some outcome ∧ outcome ≠ .recovered := by
  have started : (prepared.map (·.task scope.root))[i]? = some (.done outcome) := by
    rw [List.getElem?_map, hi]
    rfl
  have done : Holds (noting fun _ _ => False) (fun _ _ => True) (fun ended _ => ended = outcome)
      (.done outcome : Program Node.interface Outcome) False := rfl
  obtain ⟨_, ended, rfl⟩ := Finishes.told h.tasks started done
  refine ⟨ended, ?_⟩
  rintro rfl
  exact prepare_counted h.plans (List.mem_of_getElem? hi)

/-! ## Accounts -/

/-- The path on which a volume is mounted on the node. -/
def globalPath (scope : Scope) (v : PersistentVolume) : String :=
  Kubelet.globalMount scope.root (v.name.getD "")

/-- How the outcome of a volume comes about in a pass. -/
structure Accounted (handler : Handler Node.interface Machine) (view : Machine → View)
    (scope : Scope) (session : Session) (m : Machine) (prepared : List Prepared)
    (trace : List (Nat × Node.Call)) (m' : Machine) (i : Nat) (v : PersistentVolume)
    (outcome : Outcome) : Prop where
  /-- A volume is skipped if no pod uses it, if no secret is named for it, or if it was planned and
  its name was taken, and for no other reason. -/
  skipped : outcome = .skipped ↔ ∃ source, v.source = some source ∧
    (Unused ((scope.pods session).filter (·.uid.isSome)) v ∨
      Secretless scope session v source ∨
      (∃ plan, prepared[i]? = some (.planned plan)) ∧
        (view m).names.isReserved source.handle = true)
  /-- On the path of a volume that is recovered, unless it is that of another one as well, a mount
  answers in the end. -/
  recovered : outcome = .recovered →
    (∀ (j : Nat) w, (scope.volumes session)[j]? = some w → globalPath scope w = globalPath scope v →
      j = i) →
    (view m').table.state (globalPath scope v) = .mounted .healthy
  /-- A volume that is planned fails if and only if its own task was hindered on that path. -/
  failed : (∃ plan, prepared[i]? = some (.planned plan)) →
    (outcome = .failed ↔ Told handler (Hinders (globalPath scope v)) i trace m)

theorem Passes.prepared_at (claims : ((scope.volumes session).filterMap claimKey).Nodup)
    (h : Passes handler scope session m prepared trace outcomes m')
    (hv : (scope.volumes session)[i]? = some v) :
    prepared[i]? = some (preparedFor scope session v (users (scope.pods session) v)) := by
  rw [prepare_eq_map claims h.plans, List.getElem?_map, hv, Option.map_some]

/-- A volume that is counted when plans are made is accounted for. -/
theorem Passes.accounts_counted (h : Passes handler scope session m prepared trace outcomes m')
    {outcome : Outcome} (hi : prepared[i]? = some (.counted outcome))
    (hx : preparedFor scope session v (users (scope.pods session) v) = .counted outcome) :
    outcomes[i]? = some outcome ∧
      Accounted handler view scope session m prepared trace m' i v outcome := by
  obtain ⟨ended, unrecovered⟩ := h.counts hi
  have unplanned : ¬ ∃ plan, prepared[i]? = some (.planned plan) := by
    rintro ⟨plan, planned⟩
    cases hi.symm.trans planned
  refine ⟨ended, ?_, fun recovered => absurd recovered unrecovered, fun h => absurd h unplanned⟩
  have skipped := @preparedFor_eq_skipped_iff scope session v (scope.pods session)
  rw [hx, Prepared.counted.injEq] at skipped
  simpa only [unplanned, false_and, or_false] using skipped

/-- So is one that is planned. -/
theorem Passes.accounts_planned (behaves : Behaves handler faultyEffects view sound) (hs : sound m)
    (distinct : (handles (scope.volumes session)).Nodup)
    (claims : ((scope.volumes session).filterMap claimKey).Nodup)
    (h : Passes handler scope session m prepared trace outcomes m') {plan : Plan}
    (hi : prepared[i]? = some (.planned plan))
    (hx : preparedFor scope session v (users (scope.pods session) v) = .planned plan) :
    ∃ outcome, outcomes[i]? = some outcome ∧
      Accounted handler view scope session m prepared trace m' i v outcome := by
  obtain ⟨volumeName, handle⟩ := planned_names hx
  obtain ⟨outcome, ended, skips⟩ := h.skips behaves hs distinct hi
  have same {other : Outcome} (h : outcomes[i]? = some other) : other = outcome :=
    Option.some.inj (h.symm.trans ended)
  refine ⟨outcome, ended, ?_, fun recovered apart => ?_, fun _ => ?_⟩
  · obtain ⟨source, hsource, handle⟩ := Option.map_eq_some_iff.1 handle
    rw [skips, ← handle]
    constructor
    · exact fun taken => ⟨source, hsource, .inr (.inr ⟨⟨plan, hi⟩, taken⟩)⟩
    · rintro ⟨_, hsource', reason⟩
      cases hsource.symm.trans hsource'
      rcases or_assoc.2 reason with passed | ⟨-, taken⟩
      · cases hx.symm.trans (preparedFor_eq_skipped_iff.2 ⟨source, hsource, passed⟩)
      · exact taken
  · have alone (j : Nat) (other : Plan) (hj : prepared[j]? = some (.planned other))
        (shared : Kubelet.globalMount scope.root plan.persistentVolume =
          Kubelet.globalMount scope.root other.persistentVolume) : j = i := by
      rw [prepare_eq_map claims h.plans, List.getElem?_map] at hj
      obtain ⟨w, hw, hother⟩ := Option.map_eq_some_iff.1 hj
      rw [volumeName, (planned_names hother).1] at shared
      exact apart j w hw shared.symm
    obtain ⟨_, ended', mounts⟩ := h.mounts behaves hs hi alone
    rw [same ended', volumeName] at mounts
    exact Table.state_eq_mounted_iff.2 (mounts recovered)
  · obtain ⟨_, ended', fails⟩ := h.fails hi
    rw [same ended', volumeName] at fails
    exact fails

/-- **Accounts.** However the tasks of a pass take turns, and whatever fails, each attached volume
is counted once and for the reason that there is, and a task by itself leaves a volume that it
recovers with a mount that answers, whatever becomes of the pods. -/
theorem report_accounts (behaves : Behaves handler faultyEffects view sound) (hs : sound m)
    (distinct : (handles (scope.volumes session)).Nodup)
    (claims : ((scope.volumes session).filterMap claimKey).Nodup)
    (h : Passes handler scope session m prepared trace outcomes m') :
    (Report.count outcomes).recovered + (Report.count outcomes).failed +
        (Report.count outcomes).skipped = (scope.volumes session).length ∧
    (∀ (i : Nat) v, (scope.volumes session)[i]? = some v → ∃ outcome, outcomes[i]? = some outcome ∧
      Accounted handler view scope session m prepared trace m' i v outcome) ∧
    ∀ plan m, sound m → ((recover scope.root plan).run handler m).1 = .recovered →
      (view ((recover scope.root plan).run handler m).2).table.state
        (Kubelet.globalMount scope.root plan.persistentVolume) = .mounted .healthy := by
  refine ⟨?_, fun i v hv => ?_, fun plan m hm recovered => ?_⟩
  · rw [Report.count_total, ← List.length_map Program.done, h.tasks.length_eq,
      prepare_eq_map claims h.plans, List.length_map, List.length_map]
  · have hi := h.prepared_at claims hv
    cases hx : preparedFor scope session v (users (scope.pods session) v) with
    | counted outcome => exact ⟨outcome, h.accounts_counted (hx ▸ hi) hx⟩
    | planned plan => exact h.accounts_planned behaves hs distinct claims (hx ▸ hi) hx
  · have own : Behaves handler
        (faultyEffectsAt (Kubelet.globalMount scope.root plan.persistentVolume))
        (fun m => (view m).table.mount? (Kubelet.globalMount scope.root plan.persistentVolume))
        sound := behaves.seen _
    have mounts := ((recover_mounts scope.root plan _).run own hm).1
    exact Table.state_eq_mounted_iff.2 (mounts recovered)

/-! A node on which one volume is refused, one cannot be bound for a pod, one is in use, and one has
a class that names no secret. -/

def heldVolume : PersistentVolume :=
  ⟨some "c", some ⟨"d", "0001-1-0005-admin-0001-x", [], some ⟨some "s", some "ns"⟩⟩,
    some ⟨some "cc", some "ns"⟩, none, []⟩

def plainVolume : PersistentVolume :=
  ⟨some "e", some ⟨"d", "0001-1-0005-admin-0001-y", [], none⟩, some ⟨some "ce", some "ns"⟩,
    some "plain", []⟩

/-- A pod of these two. -/
def crowdingPod : Pod :=
  ⟨some "r", some "w", some "ns", none,
    some ⟨some "n", [⟨"x", some ⟨"cc", false⟩⟩, ⟨"y", some ⟨"ce", false⟩⟩], [], []⟩⟩

def crowdedStore : Store := { sharedStore with
  attachments := sharedStore.attachments ++
    [some ⟨"n", "d", some "c", true⟩, some ⟨"n", "d", some "e", true⟩]
  volumes := sharedStore.volumes ++ [some heldVolume, some plainVolume]
  pods := sharedStore.pods ++ [("n", some crowdingPod)]
  classes := [some ⟨some "plain", "d", []⟩]
  claims := [⟨"ce", "ns", some ⟨[]⟩⟩] }

theorem report_accounts_of_crowded_node :
    let scope : Scope := ⟨"n", "d", "/k", ⟨[("1", "http://fcfs")]⟩⟩
    let session : Session := ⟨crowdedStore, [], []⟩
    let handler := Machine.handle Machine.fuseMount
    let m : Machine := { failingMachine with
      bench := { failingMachine.bench with reservations := ⟨["0001-1-0005-admin-0001-x"]⟩ } }
    Behaves handler faultyEffects Machine.view (fun _ => True) ∧
    (handles (scope.volumes session)).Nodup ∧ ((scope.volumes session).filterMap claimKey).Nodup ∧
    (pass handler scope session m).1 = .ok ⟨1, 1, 2⟩ ∧
    ∃ prepared trace m', Passes handler scope session m prepared trace
        [.failed, .recovered, .skipped, .skipped] m' ∧
      1 + 1 + 2 = (scope.volumes session).length ∧
      Told handler (Hinders (globalPath scope refusedVolume)) 0 trace m ∧
      m'.table.state (globalPath scope mountedVolume) = .mounted .healthy ∧
      Accounted handler Machine.view scope session m prepared trace m' 2 heldVolume .skipped ∧
      Accounted handler Machine.view scope session m prepared trace m' 3 plainVolume .skipped := by
  intro scope session handler m
  have behaves : Behaves handler faultyEffects Machine.view (fun _ => True) :=
    Machine.handle_faulty Machine.fuseMount_failsByMount
  have distinct : (handles (scope.volumes session)).Nodup := by decide
  have claims : ((scope.volumes session).filterMap claimKey).Nodup := by decide
  obtain ⟨prepared, plans, refused, ended⟩ : ∃ prepared,
      (session.run (prepare scope)).1 = .ok prepared ∧
      (∃ plan, prepared[0]? = some (.planned plan)) ∧
      (runAll handler (prepared.map (·.task scope.root)) m).1 =
        [.failed, .recovered, .skipped, .skipped] :=
    ⟨_, rfl, ⟨_, rfl⟩, by decide +kernel⟩
  obtain ⟨trace, passes⟩ := passes_runAll handler m plans
  have report := pass_report handler m plans
  rw [ended] at passes report
  obtain ⟨total, each, -⟩ := report_accounts behaves trivial distinct claims passes
  obtain ⟨_, first, failed⟩ := each 0 refusedVolume rfl
  obtain ⟨_, second, recovered⟩ := each 1 mountedVolume rfl
  obtain ⟨_, third, held⟩ := each 2 heldVolume rfl
  obtain ⟨_, fourth, plain⟩ := each 3 plainVolume rfl
  cases first
  cases second
  cases third
  cases fourth
  refine ⟨behaves, distinct, claims, report, prepared, trace, _, passes, total,
    (failed.failed refused).1 rfl, recovered.recovered rfl fun j w hw shared => ?_, held, plain⟩
  have paths : ((scope.volumes session).filterMap fun w => some (globalPath scope w)).Nodup := by
    decide
  exact index_eq_of_nodup paths hw (i := j) (j := 1) rfl (congrArg some shared) rfl

/-- Why a volume would be skipped if every pod was told of, and every class was asked without a look
at the claim. -/
def Skippable (scope : Scope) (session : Session) (m : Machine) (prepared : List Prepared) (i : Nat)
    (v : PersistentVolume) : Prop :=
  ∃ source, v.source = some source ∧
    (Unused (scope.pods session) v ∨
      (∃ r, source.stageSecret = some r ∧ r.name = none) ∨
      (source.stageSecret = none ∧ ∀ parameters,
        scope.parametersOf session v = some parameters →
          Secret.stageKeys.chosen parameters = .ok none) ∨
      (∃ plan, prepared[i]? = some (.planned plan)) ∧
        m.bench.reservations.isReserved source.handle = true)

/-- **Exceptions.** A volume whose class names no secret fails as its claim cannot be looked up, and
one that a pod refers to is skipped as the pod has no uid. -/
theorem skipped_not_iff_skippable :
    let scope : Scope := ⟨"n", "d", "/k", ⟨[("1", "http://fcfs")]⟩⟩
    let refusing : Session :=
      (Session.mk { crowdedStore with refusals := [(.claims, .refused 500 "InternalError")] } []
        []).onlyVolume plainVolume
    let nameless : Session :=
      ((Session.mk crowdedStore [] []).onlyVolume mountedVolume).onlyPod "n"
        { failingPod with uid := none }
    let handler := Machine.handle Machine.fuseMount
    let m := Machine.ofBench .start
    scope.volumes refusing = [plainVolume] ∧ scope.volumes nameless = [mountedVolume] ∧
    (∃ prepared trace m', Passes handler scope refusing m prepared trace [.failed] m' ∧
      Skippable scope refusing m prepared 0 plainVolume) ∧
    ∃ prepared trace m', Passes handler scope nameless m prepared trace [.skipped] m' ∧
      ¬ Skippable scope nameless m prepared 0 mountedVolume := by
  intro scope refusing nameless handler m
  have failed : (refusing.run (prepare scope)).1 = .ok [.counted .failed] := rfl
  have skipped : (nameless.run (prepare scope)).1 = .ok [.counted .skipped] := rfl
  obtain ⟨trace, passes⟩ := passes_runAll handler m failed
  obtain ⟨trace', passes'⟩ := passes_runAll handler m skipped
  refine ⟨by decide, by decide, ⟨_, trace, _, passes, _, rfl, .inr (.inr (.inl ⟨rfl, ?_⟩))⟩,
    _, trace', _, passes', ?_⟩
  · rintro _ ⟨⟩
    rfl
  · rintro ⟨_, ⟨⟩, unused | ⟨_, ⟨⟩, unnamed⟩ | ⟨⟨⟩, -⟩ | ⟨⟨_, ⟨⟩⟩, -⟩⟩
    · refine unused { failingPod with uid := none } (by decide) rfl _ rfl ?_
      exact ⟨_, rfl, _, List.mem_singleton.2 rfl, rfl⟩
    · cases unnamed

end FuseVolumes.Recovery
