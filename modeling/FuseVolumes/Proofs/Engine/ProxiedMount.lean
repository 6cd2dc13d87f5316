import FuseVolumes.Engine.Fuse
import FuseVolumes.Proofs.Program.Requests
import FuseVolumes.Proofs.Text.Words

/-!
# Commands of direct and of forwarded mounts

What commands a mount runs, under any replies: one started by the plugin
(`mountDirectly_asks_run_iff`), and one that the proxy starts for the request that the plugin sends
it (`forwarded_asks_run_iff`). The request holds the arguments as one line, which the proxy cuts at
blanks, so the commands are the same exactly when no argument has blanks or is empty
(`forwarded_commands_eq_direct_iff`).
-/

namespace FuseVolumes.Engine

open Program

/-! ## Staged credentials -/

section Credentials

variable {kind : Credentials.Kind} {secrets : Dict} {directory user key : String}

theorem openCredentials_run (hs : Credentials.select kind secrets = .ok (user, key)) :
    (openCredentials kind secrets directory).run =
      .ask (I := interface) (.stageKey directory key) fun reply =>
        .done ((reply.mapError (.keyFile directory)).map fun file => ⟨user, file⟩) := by
  rw [openCredentials, hs]
  change Program.ask _ _ = _
  congr 1
  funext reply
  cases reply <;> rfl

theorem not_asks_run_openCredentials (program : String) (arguments : List String) :
    ¬ (openCredentials kind secrets directory).run.Asks (.run program arguments) := by
  cases hs : Credentials.select kind secrets with
  | error e =>
    rw [openCredentials, hs]
    exact not_asks_done _ _
  | ok pair =>
    rw [openCredentials_run hs, asks_ask_iff]
    simp [not_asks_done]

theorem openCredentials_answers_iff (hs : Credentials.select kind secrets = .ok (user, key))
    {c : Credentials} :
    (openCredentials kind secrets directory).run.Answers (.ok c) ↔ ∃ file, c = ⟨user, file⟩ := by
  rw [openCredentials_run hs]
  constructor
  · rintro ⟨fault | file, h⟩
    · cases h
    · cases h
      exact ⟨file, rfl⟩
  · rintro ⟨file, rfl⟩
    exact ⟨.ok file, rfl⟩

theorem not_asks_closeCredentials (c : Credentials) (program : String) (arguments : List String) :
    ¬ (closeCredentials c).Asks (.run program arguments) := by
  intro h
  cases asks_request_iff.1 h

/-- Work that opens credentials, goes on with them only, and closes them asks for the commands of
what it does with them. -/
theorem asks_run_iff_of_credentials {β : Type}
    {next : Except Credentials.Error Credentials → Program interface β}
    {work : Credentials → Program interface β} {program : String} {arguments : List String}
    (hs : Credentials.select kind secrets = .ok (user, key))
    (herror : ∀ e, ¬ (next (.error e)).Asks (.run program arguments))
    (hok : ∀ c, next (.ok c) = (work c).bind fun result =>
      (closeCredentials c).bind fun _ => .done result) :
    ((openCredentials kind secrets directory).run.bind next).Asks (.run program arguments) ↔
      ∃ file, (work ⟨user, file⟩).Asks (.run program arguments) := by
  have closing (c : Credentials) : (next (.ok c)).Asks (.run program arguments) ↔
      (work c).Asks (.run program arguments) := by
    simp only [hok, asks_bind_iff, not_asks_closeCredentials, not_asks_done, and_false,
      exists_false, or_false]
  rw [asks_bind_iff]
  constructor
  · rintro (h | ⟨e | c, ha, h⟩)
    · exact absurd h (not_asks_run_openCredentials _ _)
    · exact absurd h (herror e)
    · obtain ⟨file, rfl⟩ := (openCredentials_answers_iff hs).1 ha
      exact ⟨file, (closing _).1 h⟩
  · rintro ⟨file, h⟩
    exact .inr ⟨.ok ⟨user, file⟩, (openCredentials_answers_iff hs).2 ⟨file, rfl⟩,
      (closing _).2 h⟩

end Credentials

namespace Fuse

variable {endpoint base target user key program : String} {v : Volume} {secrets : Dict}
  {arguments : List String}

/-! ## The commands -/

theorem asks_makeDirectories_iff {path : String} {call : Call} :
    (makeDirectories path).run.Asks call ↔ .makeDirectories path = call := by
  rw [makeDirectories, asks_orFail_iff, asks_request_iff]

theorem makeDirectories_answers (path : String) : (makeDirectories path).run.Answers (.ok ()) :=
  answers_orFail_ok (answers_request _)

theorem asks_runTool_iff {tool : String} {given : List String} :
    (runTool tool given).run.Asks (.run program arguments) ↔
      (tool, given) = (program, arguments) := by
  rw [runTool, asks_orFail_iff, asks_request_iff, Call.run.injEq, Prod.mk.injEq]

theorem not_asks_log (event : Event) : ¬ (log event).Asks (.run program arguments) := by
  intro h
  cases asks_request_iff.1 h

theorem asks_log_bind_iff {ε α : Type} {event : Event} {f : Unit → Work ε α} :
    (liftM (log event) >>= f : Work ε α).run.Asks (.run program arguments) ↔
      (f ()).run.Asks (.run program arguments) := by
  refine asks_run_bind_iff_of_passes ?_ (answers_liftM ⟨(), rfl⟩)
  rw [asks_liftM_iff]
  exact not_asks_log event

theorem mountDirectly_asks_run_iff
    (hs : Credentials.select (.forVolume v.preProvisioned) secrets = .ok (user, key)) :
    (mountDirectly base v target secrets).run.Asks (.run program arguments) ↔
      ∃ file, (fuseTool, directArguments base v target ⟨user, file⟩) = (program, arguments) := by
  have prepares (path : String) :
      ¬ (makeDirectories path).run.Asks (.run program arguments) := by
    intro h
    cases asks_makeDirectories_iff.1 h
  rw [mountDirectly, asks_run_bind_iff_of_passes (prepares _) (makeDirectories_answers _),
    asks_run_bind_iff_of_passes (prepares _) (makeDirectories_answers _)]
  change ((openCredentials _ _ _).run.bind _).Asks _ ↔ _
  rw [asks_run_iff_of_credentials hs ?error ?closed]
  case error => exact fun e => not_asks_done _ _
  case closed => exact fun c => rfl
  refine exists_congr fun file => ?_
  rw [asks_run_bind_iff_of_last ?after, asks_runTool_iff]
  intro output h
  split at h
  · exact not_asks_done _ _ (asks_log_bind_iff.1 h)
  · exact not_asks_done _ _ h

theorem mountThroughProxy_asks_forward_iff {r : MountRequest} {e : String} :
    (mountThroughProxy endpoint base v target secrets).run.Asks (.forward e r) ↔
      Call.forward endpoint (request base v target secrets) = .forward e r := by
  rw [mountThroughProxy, asks_run_bind_iff_of_passes ?prepares (makeDirectories_answers _)]
  case prepares =>
    intro h
    cases asks_makeDirectories_iff.1 h
  change (Program.bind (Program.bind (Program.request _) _) _).Asks _ ↔ _
  rw [asks_bind_iff, asks_bind_iff, asks_request_iff]
  constructor
  · rintro ((h | ⟨_, -, h⟩) | ⟨_ | _, -, h⟩)
    · exact h
    · exact absurd h (not_asks_done _ _)
    · exact absurd h (not_asks_done _ _)
    · exact absurd h (not_asks_done _ _)
  · intro h
    exact .inl (.inl h)

/-- What the proxy does once the directory of the daemon is there. -/
def startDaemon (r : MountRequest) (c : Credentials) : Work Status String := do
  let output ← ((runTool fuseTool (proxyArguments r c)).run).orFail Error.status
  if ! output.success then throw (failedStatus output)
  log (.info .proxy "Successfully mounted")
  return output.text

theorem serve_mount_eq (r : MountRequest) (c : Credentials) :
    serve.mount r c = if r.basePath.isEmpty then startDaemon r c
      else ((makeDirectories r.basePath).run).orFail Error.status >>= fun _ => startDaemon r c := by
  rw [serve.mount]
  cases r.basePath.isEmpty <;> rfl

theorem startDaemon_asks_run_iff {r : MountRequest} {c : Credentials} :
    (startDaemon r c).run.Asks (.run program arguments) ↔
      (fuseTool, proxyArguments r c) = (program, arguments) := by
  rw [startDaemon, asks_run_bind_iff_of_last ?reports, asks_orFail_iff, asks_runTool_iff]
  case reports =>
    intro output h
    split at h
    · exact not_asks_done _ _ h
    · exact not_asks_done _ _ (asks_log_bind_iff.1 h)

theorem serve_mount_asks_run_iff {r : MountRequest} {c : Credentials} :
    (serve.mount r c).run.Asks (.run program arguments) ↔
      (fuseTool, proxyArguments r c) = (program, arguments) := by
  rw [serve_mount_eq]
  split
  · exact startDaemon_asks_run_iff
  · rw [asks_run_bind_iff_of_passes ?prepares (answers_orFail_ok (makeDirectories_answers _))]
    case prepares =>
      intro h
      cases asks_makeDirectories_iff.1 (asks_orFail_iff.1 h)
    exact startDaemon_asks_run_iff

theorem serve_asks_run_iff {r : MountRequest}
    (hs : Credentials.select (.forVolume r.preProvisioned) r.secrets = .ok (user, key)) :
    (serve r).run.Asks (.run program arguments) ↔
      ∃ file, (fuseTool, proxyArguments r ⟨user, file⟩) = (program, arguments) := by
  rw [serve, asks_log_bind_iff]
  change ((openCredentials _ _ _).run.bind _).Asks _ ↔ _
  rw [asks_run_iff_of_credentials hs ?error ?closed]
  case closed => exact fun c => rfl
  case error =>
    intro e h
    rcases asks_bind_iff.1 h with h | ⟨_, -, h⟩
    · exact not_asks_log _ h
    · exact not_asks_done _ _ h
  exact exists_congr fun file => serve_mount_asks_run_iff

/-! ## Agreement -/

theorem daemonDirectory_ne_empty (hb : base ≠ "") : daemonDirectory base v ≠ "" := by
  have append (a b : String) (ha : a ≠ "") : a ++ b ≠ "" := by
    simp [ha]
  rw [daemonDirectory, Path.join]
  split
  next absolute =>
    intro empty
    rw [empty] at absolute
    cases absolute
  next =>
    split
    · exact append base _ hb
    · exact append _ _ (append base _ hb)

theorem proxyArguments_request (hb : base ≠ "") (c : Credentials) :
    proxyArguments (request base v target secrets) c =
      c.arguments ++ ["-b", daemonDirectory base v] ++
        (Text.words (" ".intercalate (mountArguments v target)).toList).map String.ofList := by
  have filled : (daemonDirectory base v).isEmpty = false := by
    rw [String.isEmpty_eq_false_iff]
    exact daemonDirectory_ne_empty hb
  simp [proxyArguments, request, filled]

/-- The arguments survive being sent as one line exactly when each is a word. -/
theorem proxyArguments_eq_iff (hb : base ≠ "") {file file' : String} :
    proxyArguments (request base v target secrets) ⟨user, file⟩ =
        directArguments base v target ⟨user, file'⟩ ↔
      file = file' ∧ ∀ argument ∈ mountArguments v target, Text.IsWord argument.toList := by
  rw [proxyArguments_request hb, directArguments, ← Text.words_of_line_eq_iff]
  simp [Credentials.arguments]

theorem isWord_fuseUrl_iff :
    Text.IsWord v.fuseUrl.toList ↔ ∀ c ∈ v.baseUrl.toList, Text.isBlank c = false := by
  have file : Text.IsWord Clusters.fuseFile.toList := by decide
  rw [Volume.fuseUrl, String.toList_append]
  constructor
  · intro h c hc
    exact h.2 c (List.mem_append_left _ hc)
  · intro h
    refine ⟨by simp [file.1], fun c hc => ?_⟩
    rcases List.mem_append.1 hc with hc | hc
    · exact h c hc
    · exact file.2 c hc

theorem isWord_mountArguments_iff :
    (∀ argument ∈ mountArguments v target, Text.IsWord argument.toList) ↔
      Text.IsWord v.name.toList ∧ Text.IsWord target.toList ∧
        ∀ c ∈ v.baseUrl.toList, Text.isBlank c = false := by
  have fixed : Text.IsWord "-n".toList ∧ Text.IsWord "-m".toList ∧
      Text.IsWord Operation.restart.text.toList := by decide
  obtain ⟨name, mount, verb⟩ := fixed
  simp only [mountArguments, List.forall_mem_cons, isWord_fuseUrl_iff, name, mount, verb,
    List.not_mem_nil, false_imp_iff, implies_true, true_and, and_true]

/-- What the proxy runs for the request that the plugin sends it. -/
theorem forwarded_asks_run_iff
    (hs : Credentials.select (.forVolume v.preProvisioned) secrets = .ok (user, key)) :
    (∃ r, (mountThroughProxy endpoint base v target secrets).run.Asks (.forward endpoint r) ∧
      (serve r).run.Asks (.run program arguments)) ↔
    ∃ file, (fuseTool, proxyArguments (request base v target secrets) ⟨user, file⟩) =
      (program, arguments) := by
  rw [← serve_asks_run_iff (r := request base v target secrets) hs]
  constructor
  · rintro ⟨r, sent, h⟩
    cases mountThroughProxy_asks_forward_iff.1 sent
    exact h
  · intro h
    exact ⟨_, mountThroughProxy_asks_forward_iff.2 rfl, h⟩

/-- The same commands take arguments that are words. -/
theorem isWord_of_same_commands (hb : base ≠ "")
    (hs : Credentials.select (.forVolume v.preProvisioned) secrets = .ok (user, key))
    (same : ∀ program arguments,
      (∃ r, (mountThroughProxy endpoint base v target secrets).run.Asks (.forward endpoint r) ∧
        (serve r).run.Asks (.run program arguments)) ↔
      (mountDirectly base v target secrets).run.Asks (.run program arguments)) :
    ∀ argument ∈ mountArguments v target, Text.IsWord argument.toList := by
  have direct : (mountDirectly base v target secrets).run.Asks
      (.run fuseTool (directArguments base v target ⟨user, ""⟩)) :=
    (mountDirectly_asks_run_iff hs).2 ⟨"", rfl⟩
  obtain ⟨file, h⟩ := (forwarded_asks_run_iff hs).1 ((same _ _).2 direct)
  exact ((proxyArguments_eq_iff hb).1 (Prod.mk.inj h).2).2

/-- A mount that is forwarded runs the commands of a direct one exactly when the volume's name and
the target are words and the URL has no blanks. -/
theorem forwarded_commands_eq_direct_iff (endpoint base : String) (v : Volume) (target : String)
    (secrets : Dict) (user key : String) (hb : base ≠ "")
    (hs : Credentials.select (.forVolume v.preProvisioned) secrets = .ok (user, key)) :
    (∀ program arguments,
      (∃ r, (mountThroughProxy endpoint base v target secrets).run.Asks (.forward endpoint r) ∧
        (serve r).run.Asks (.run program arguments)) ↔
      (mountDirectly base v target secrets).run.Asks (.run program arguments)) ↔
    Text.IsWord v.name.toList ∧ Text.IsWord target.toList ∧
      ∀ c ∈ v.baseUrl.toList, Text.isBlank c = false := by
  rw [← isWord_mountArguments_iff]
  constructor
  · exact isWord_of_same_commands hb hs
  · intro words program arguments
    rw [forwarded_asks_run_iff hs, mountDirectly_asks_run_iff hs]
    refine exists_congr fun file => ?_
    rw [(proxyArguments_eq_iff hb).2 ⟨rfl, words⟩]

theorem forwarded_commands_eq_direct_of_plain_name :
    let v : Volume := ⟨"id", "csi-vol-1", "1", "http://fcfs", 0, false⟩
    let secrets : Dict := [("adminName", "admin"), ("adminSecretKey", "s3cr3t")]
    Credentials.select (.forVolume v.preProvisioned) secrets = .ok ("admin", "s3cr3t") ∧
    ∀ program arguments,
      (∃ r, (mountThroughProxy "unix:///p" "/opt/fastcfs" v "/g" secrets).run.Asks
          (.forward "unix:///p" r) ∧ (serve r).run.Asks (.run program arguments)) ↔
      (mountDirectly "/opt/fastcfs" v "/g" secrets).run.Asks (.run program arguments) := by
  intro v secrets
  have selected : Credentials.select (.forVolume v.preProvisioned) secrets =
      .ok ("admin", "s3cr3t") := rfl
  have url : Text.IsWord v.baseUrl.toList := by decide
  refine ⟨selected, ?_⟩
  exact (forwarded_commands_eq_direct_iff "unix:///p" "/opt/fastcfs" v "/g" secrets "admin"
    "s3cr3t" (by decide) selected).2 ⟨by decide, by decide, url.2⟩

/-- The parts of a name with a blank reach the daemon as arguments of their own. -/
theorem forwarded_commands_ne_direct :
    ¬ ∀ (endpoint base : String) (v : Volume) (target : String) (secrets : Dict)
      (user key : String), base ≠ "" →
      Credentials.select (.forVolume v.preProvisioned) secrets = .ok (user, key) →
      ∀ program arguments,
        (∃ r, (mountThroughProxy endpoint base v target secrets).run.Asks (.forward endpoint r) ∧
          (serve r).run.Asks (.run program arguments)) ↔
        (mountDirectly base v target secrets).run.Asks (.run program arguments) := by
  intro claim
  have same := claim "unix:///p" "/opt/fastcfs" ⟨"id", "a b", "1", "http://fcfs", 0, false⟩ "/g"
    [("adminName", "admin"), ("adminSecretKey", "s3cr3t")] "admin" "s3cr3t" (by decide) rfl
  have words := isWord_of_same_commands (by decide) rfl same "a b" (by simp [mountArguments])
  revert words
  decide

end Fuse

end FuseVolumes.Engine
