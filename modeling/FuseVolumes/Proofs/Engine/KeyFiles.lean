import FuseVolumes.Engine.Bench
import FuseVolumes.Proofs.Engine.Locking
import FuseVolumes.Proofs.Engine.ProxiedMount
import FuseVolumes.Proofs.Host.Tree
import FuseVolumes.Proofs.Program.Effects

/-!
# Keys that commands are given

A key that is staged is in its file until the file is dropped (`keyFiles`), as it is on a bench
(`Bench.handle_keyFiles`). So a mount gives the tool the user and the key of one pair of secret
entries, and all other secrets are the same to it (`StartsAs`), whether the plugin starts the daemon
(`mountDirectly_startsAs`) or the proxy does (`serve_startsAs`).
-/

namespace FuseVolumes

/-! ## Pairs of secrets -/

namespace Credentials

variable {kind : Kind} {secrets secrets' : Dict} {user key : String}

/-- The entries of a kind of credentials are the same. -/
def SamePair (kind : Kind) (secrets secrets' : Dict) : Prop :=
  secrets.get? kind.idField = secrets'.get? kind.idField ∧
    secrets.get? kind.keyField = secrets'.get? kind.keyField

theorem select_eq_ok (h : select kind secrets = .ok (user, key)) :
    secrets.get? kind.idField = some user ∧ secrets.get? kind.keyField = some key := by
  unfold select at h
  split at h
  · cases h
  · split at h
    · cases h
    next user' named =>
      split at h
      · cases h
      next key' keyed =>
        cases h
        exact ⟨Dict.get?_of_filled? named, Dict.get?_of_filled? keyed⟩

/-- What is selected depends on one pair of entries, as long as there are any. -/
theorem select_congr (given : secrets ≠ []) (given' : secrets' ≠ [])
    (same : SamePair kind secrets secrets') : select kind secrets = select kind secrets' := by
  have filled : secrets.isEmpty = false := by simpa using given
  have filled' : secrets'.isEmpty = false := by simpa using given'
  obtain ⟨ids, keys⟩ := same
  unfold select Dict.filled?
  rw [filled, filled', ids, keys]

end Credentials

namespace Engine

open Program

/-! ## Key files -/

/-- What is in a file, by its path. -/
abbrev Contents := String → Option String

/-- A staged key is in its file. What is logged and which directories are made is nothing to
files. -/
def keyFiles : Effects interface Contents
  | .stageKey _ key, reply, _, files' => ∀ file, reply = .ok file → files' file = some key
  | .log _, _, files, files' | .makeDirectories _, _, files, files' =>
    ∀ file text, files file = some text → files' file = some text
  | .reserve _, _, _, _ | .release _, _, _, _ | .dropKey _, _, _, _ | .run _ _, _, _, _
  | .forward _ _, _, _, _ => True

namespace Bench

/-- What is in the files of a bench. -/
def contents (b : Bench) : Contents := fun file => (b.scene.tree.readText file).toOption

theorem contents_grows {b b' : Bench} (h : Host.Tree.Grows b.scene.tree b'.scene.tree)
    (file text : String) (there : b.contents file = some text) : b'.contents file = some text :=
  toOption_eq_some_iff.2 (h.readText (toOption_eq_some_iff.1 there))

/-- The files of a bench keep what is staged. -/
theorem handle_keyFiles (runner : Runner) (forwarder : Forwarder) :
    Behaves (handle runner forwarder) keyFiles contents fun _ => True where
  stays _ _ _ := trivial
  effects call b _ := by
    cases call with
    | stageKey directory key =>
      intro file staged
      have named : Path.IsName Credentials.keyFileStart := by decide
      obtain ⟨-, reads⟩ := Host.Tree.stageKey_reads named b.scene.tree directory key
      exact toOption_eq_some_iff.2 (reads file staged)
    | log event => exact contents_grows (.refl _)
    | makeDirectories path => exact contents_grows (Host.Tree.makeDirectories_grows _ path)
    | reserve name | release name | dropKey file | run program arguments
    | forward endpoint request => trivial

end Bench

/-! ## What commands carry -/

/-- A command of the fuse tool names a user and a key file first, and they are those of one pair of
secret entries. -/
def Carries (kind : Credentials.Kind) (secrets : Dict) : Call → Contents → Prop
  | .run program arguments, files => program = fuseTool ∧ ∃ user key file rest,
      arguments = "-u" :: user :: "-k" :: file :: rest ∧
      secrets.get? kind.idField = some user ∧ secrets.get? kind.keyField = some key ∧
      files file = some key
  | _, _ => True

/-- Work that opens credentials, goes on with them only, and closes them gives commands what it does
once the key is staged. -/
theorem holds_of_credentials {β : Type} {kind : Credentials.Kind} {secrets : Dict}
    {directory : String} {files : Contents}
    {next : Except Credentials.Error Credentials → Program interface β}
    {work : Credentials → Program interface β}
    (herror : ∀ e files, (next (.error e)).Holds keyFiles (Carries kind secrets)
      (fun _ _ => True) files)
    (hok : ∀ c, next (.ok c) = (work c).bind fun result =>
      (closeCredentials c).bind fun _ => .done result)
    (hwork : ∀ user key file files, Credentials.select kind secrets = .ok (user, key) →
      files file = some key →
      (work ⟨user, file⟩).Holds keyFiles (Carries kind secrets) (fun _ _ => True) files) :
    ((openCredentials kind secrets directory).run.bind next).Holds keyFiles (Carries kind secrets)
      (fun _ _ => True) files := by
  cases selected : Credentials.select kind secrets with
  | error e =>
    rw [openCredentials, selected]
    exact herror e files
  | ok pair =>
    obtain ⟨user, key⟩ := pair
    rw [openCredentials_run selected]
    refine ⟨trivial, fun reply files staged => ?_⟩
    cases reply with
    | error fault => exact herror _ files
    | ok file =>
      change (next (.ok ⟨user, file⟩)).Holds _ _ _ _
      rw [hok]
      exact holds_bind (hwork user key file files selected (staged file rfl))
        fun _ _ _ => ⟨trivial, fun _ _ _ => trivial⟩

namespace Fuse

variable {base target user key : String} {v : Volume} {secrets secrets' : Dict}
  {kind : Credentials.Kind} {files : Contents}

/-! ### Single steps -/

theorem makeDirectories_carries (path : String) :
    (makeDirectories path).run.Holds keyFiles (Carries kind secrets)
      (fun _ files' => ∀ file text, files file = some text → files' file = some text) files :=
  ⟨trivial, fun _ _ kept => kept⟩

/-- Once the key is staged, the tool may be given it. -/
theorem runTool_carries {file : String} {rest : List String}
    (selected : Credentials.select kind secrets = .ok (user, key))
    (staged : files file = some key) :
    (runTool fuseTool (Credentials.arguments ⟨user, file⟩ ++ rest)).run.Holds keyFiles
      (Carries kind secrets) (fun _ _ => True) files := by
  obtain ⟨named, keyed⟩ := Credentials.select_eq_ok selected
  have carried : Carries kind secrets
      (.run fuseTool (Credentials.arguments ⟨user, file⟩ ++ rest)) files :=
    ⟨rfl, user, key, file, rest, rfl, named, keyed, staged⟩
  exact ⟨carried, fun _ _ _ => trivial⟩

/-! ### Mounts -/

/-- A daemon that the plugin starts is given the pair of the volume's kind. -/
theorem mountDirectly_carries (base : String) (v : Volume) (target : String) (secrets : Dict)
    (files : Contents) :
    (mountDirectly base v target secrets).run.Holds keyFiles
      (Carries (.forVolume v.preProvisioned) secrets) (fun _ _ => True) files := by
  refine holds_run_bind (makeDirectories_carries target) (fun _ files _ => ?_) fun _ _ _ => trivial
  refine holds_run_bind (makeDirectories_carries _) (fun _ files _ => ?_) fun _ _ _ => trivial
  refine holds_of_credentials (fun _ _ => trivial) (fun _ => rfl)
    fun user key file files selected staged => ?_
  have started : (runTool fuseTool (directArguments base v target ⟨user, file⟩)).run.Holds keyFiles
      (Carries (.forVolume v.preProvisioned) secrets) (fun _ _ => True) files := by
    rw [directArguments, List.append_assoc]
    exact runTool_carries selected staged
  refine holds_run_bind started (fun output files _ => ?_) fun _ _ _ => trivial
  split
  · exact holds_request_bind trivial fun _ _ _ => trivial
  · trivial

theorem startDaemon_carries {r : MountRequest} {file : String}
    (selected : Credentials.select kind r.secrets = .ok (user, key))
    (staged : files file = some key) :
    (startDaemon r ⟨user, file⟩).run.Holds keyFiles (Carries kind r.secrets) (fun _ _ => True)
      files := by
  have started : (((runTool fuseTool (proxyArguments r ⟨user, file⟩)).run).orFail
      Error.status).run.Holds keyFiles (Carries kind r.secrets) (fun _ _ => True) files := by
    rw [proxyArguments, List.append_assoc]
    exact holds_orFail (runTool_carries selected staged)
  refine holds_run_bind started (fun output files _ => ?_) fun _ _ _ => trivial
  split
  · trivial
  · exact holds_request_bind trivial fun _ _ _ => trivial

theorem serve_mount_carries {r : MountRequest} {file : String}
    (selected : Credentials.select kind r.secrets = .ok (user, key))
    (staged : files file = some key) :
    (serve.mount r ⟨user, file⟩).run.Holds keyFiles (Carries kind r.secrets) (fun _ _ => True)
      files := by
  rw [serve_mount_eq]
  split
  · exact startDaemon_carries selected staged
  · have prepared : (((makeDirectories r.basePath).run).orFail Error.status).run.Holds keyFiles
        (Carries kind r.secrets) (fun _ files' => files' file = some key) files :=
      holds_orFail ((makeDirectories_carries _).mono fun _ _ kept => kept file key staged)
    exact holds_run_bind prepared (fun _ _ staged => startDaemon_carries selected staged)
      fun _ _ _ => trivial

/-- A daemon that the proxy starts is given the pair of the kind that the request tells. -/
theorem serve_carries (r : MountRequest) (files : Contents) :
    (serve r).run.Holds keyFiles (Carries (.forVolume r.preProvisioned) r.secrets)
      (fun _ _ => True) files := by
  refine holds_request_bind trivial fun _ files _ => ?_
  exact holds_of_credentials (fun _ _ => ⟨trivial, fun _ _ _ => trivial⟩) (fun _ => rfl)
    fun _ _ _ _ selected staged => serve_mount_carries selected staged

/-! ### Other secrets -/

theorem mountDirectly_congr (same : Credentials.select (.forVolume v.preProvisioned) secrets =
    Credentials.select (.forVolume v.preProvisioned) secrets') :
    mountDirectly base v target secrets = mountDirectly base v target secrets' := by
  unfold mountDirectly withCredentials openCredentials
  rw [same]

theorem serve_congr (same : Credentials.select (.forVolume v.preProvisioned) secrets =
    Credentials.select (.forVolume v.preProvisioned) secrets') :
    serve (request base v target secrets) = serve (request base v target secrets') := by
  unfold serve openCredentials
  dsimp only [request]
  rw [same]
  rfl

/-! ### Refusals -/

/-- Requests that run no command. -/
def Commandless : Call → Prop
  | .run _ _ => False
  | _ => True

/-- Work that runs no command, for want of credentials or of a directory that it needs. -/
def Refuses {ε α : Type} (words : Error → ε) (e : Credentials.Error) (work : Work ε α) : Prop :=
  work.run.Obeys (fun _ _ => True) Commandless fun answer =>
    answer = .error (words (.credentials e)) ∨
      ∃ path fault, answer = .error (words (.directory path fault))

theorem mountDirectly_refuses {e : Credentials.Error}
    (selected : Credentials.select (.forVolume v.preProvisioned) secrets = .error e) :
    Refuses id e (mountDirectly base v target secrets) := by
  have prepares (path : String) : (makeDirectories path).run.Obeys (fun _ _ => True) Commandless
      fun answer => answer = .ok () ∨ ∃ path fault, answer = .error (.directory path fault) := by
    refine ⟨trivial, fun reply _ => ?_⟩
    cases reply with
    | error fault => exact .inr ⟨path, fault, rfl⟩
    | ok _ => exact .inl rfl
  refine obeys_run_bind (prepares target) (fun _ _ => ?_) fun _ h => .inr (h.resolve_left nofun)
  refine obeys_run_bind (prepares _) (fun _ _ => ?_) fun _ h => .inr (h.resolve_left nofun)
  rw [withCredentials_run, selected]
  exact .inl rfl

theorem serve_refuses {e : Credentials.Error}
    (selected : Credentials.select (.forVolume v.preProvisioned) secrets = .error e) :
    Refuses Error.status e (serve (request base v target secrets)) := by
  refine ⟨trivial, fun _ _ => ?_⟩
  change ((openCredentials (.forVolume v.preProvisioned) secrets _).run.bind _).Obeys _ _ _
  rw [openCredentials, selected]
  exact ⟨trivial, fun _ _ => .inl rfl⟩

/-! ### Mounts as a user -/

/-- Work that starts a daemon as the user of one pair of secret entries, if it starts one, and
otherwise makes nothing of secrets. -/
structure StartsAs {ε α : Type} (kind : Credentials.Kind) (words : Error → ε)
    (work : Dict → Work ε α) : Prop where
  /-- The command names the user first, and then the file that holds the key. -/
  carries : ∀ secrets runner forwarder b program arguments b',
    (.run program arguments, b') ∈ (work secrets).run.met (Bench.handle runner forwarder) b →
    program = fuseTool ∧ ∃ user key file rest, arguments = "-u" :: user :: "-k" :: file :: rest ∧
      secrets.get? kind.idField = some user ∧ secrets.get? kind.keyField = some key ∧
      b'.scene.tree.readText file = .ok key
  /-- Where both entries are filled in there is one command, up to the file, and else none. -/
  decided : ∀ secrets, match Credentials.select kind secrets with
    | .ok (user, _) => ∃ rest, ∀ program arguments,
      (work secrets).run.Asks (.run program arguments) ↔
        program = fuseTool ∧ ∃ file, arguments = "-u" :: user :: "-k" :: file :: rest
    | .error e => Refuses words e (work secrets)
  /-- All other entries make no difference. -/
  confined : ∀ secrets secrets', secrets ≠ [] → secrets' ≠ [] →
    Credentials.SamePair kind secrets secrets' → work secrets = work secrets'

/-- The file that a command names holds the key at that moment. -/
theorem StartsAs.staged {ε α : Type} {words : Error → ε} {work : Dict → Work ε α}
    (h : StartsAs kind words work) {runner : Bench.Runner} {forwarder : Bench.Forwarder} {b : Bench}
    {program file : String} {rest : List String}
    (run : .run program ("-u" :: user :: "-k" :: file :: rest) ∈
      ((work secrets).run.met (Bench.handle runner forwarder) b).map (·.1))
    (keyed : secrets.get? kind.keyField = some key) :
    ∃ b', (.run program ("-u" :: user :: "-k" :: file :: rest), b') ∈
        (work secrets).run.met (Bench.handle runner forwarder) b ∧
      b'.scene.tree.readText file = .ok key := by
  obtain ⟨⟨call, b'⟩, met, rfl⟩ := List.mem_map.1 run
  obtain ⟨-, user', key', file', rest', named, -, keyed', staged⟩ :=
    h.carries secrets runner forwarder b _ _ b' met
  cases named
  cases keyed.symm.trans keyed'
  exact ⟨b', met, staged⟩

theorem carries_of_met {α : Type} {p : Program interface α} {runner : Bench.Runner}
    {forwarder : Bench.Forwarder} {b b' : Bench} {program : String} {arguments : List String}
    (h : p.Holds keyFiles (Carries kind secrets) (fun _ _ => True) b.contents)
    (run : (.run program arguments, b') ∈ p.met (Bench.handle runner forwarder) b) :
    program = fuseTool ∧ ∃ user key file rest, arguments = "-u" :: user :: "-k" :: file :: rest ∧
      secrets.get? kind.idField = some user ∧ secrets.get? kind.keyField = some key ∧
      b'.scene.tree.readText file = .ok key := by
  obtain ⟨tool, user, key, file, rest, named, identified, keyed, staged⟩ :=
    (h.run (Bench.handle_keyFiles runner forwarder) trivial).2 _ run
  exact ⟨tool, user, key, file, rest, named, identified, keyed, toOption_eq_some_iff.1 staged⟩

theorem command_iff {tool program : String} {given : String → List String}
    {arguments : List String} : (∃ file, (tool, given file) = (program, arguments)) ↔
      program = tool ∧ ∃ file, arguments = given file := by
  simp only [Prod.mk.injEq, exists_and_left, @eq_comm _ tool, @eq_comm _ (given _)]

theorem mountDirectly_startsAs (base : String) (v : Volume) (target : String) :
    StartsAs (.forVolume v.preProvisioned) id (mountDirectly base v target) where
  carries secrets _ _ b _ _ _ :=
    carries_of_met (mountDirectly_carries base v target secrets b.contents)
  decided secrets := by
    cases selected : Credentials.select (.forVolume v.preProvisioned) secrets with
    | error e => exact mountDirectly_refuses selected
    | ok pair =>
      refine ⟨["-b", daemonDirectory base v] ++ mountArguments v target,
        fun program arguments => ?_⟩
      rw [mountDirectly_asks_run_iff selected, command_iff]
      rfl
  confined _ _ given given' same := mountDirectly_congr (Credentials.select_congr given given' same)

theorem serve_startsAs (base : String) (v : Volume) (target : String) :
    StartsAs (.forVolume v.preProvisioned) Error.status
      fun secrets => serve (request base v target secrets) where
  carries secrets _ _ b _ _ _ :=
    carries_of_met (serve_carries (request base v target secrets) b.contents)
  decided secrets := by
    cases selected : Credentials.select (.forVolume v.preProvisioned) secrets with
    | error e => exact serve_refuses selected
    | ok pair =>
      refine ⟨(proxyArguments (request base v target secrets) ⟨pair.1, ""⟩).drop 4,
        fun program arguments => ?_⟩
      rw [serve_asks_run_iff (r := request base v target secrets) selected, command_iff]
      rfl
  confined _ _ given given' same := serve_congr (Credentials.select_congr given given' same)

/-- Requests that make directories or forward one mount. -/
def Forwards (endpoint : String) (r : MountRequest) : Call → Prop
  | .makeDirectories _ => True
  | .forward e sent => e = endpoint ∧ sent = r
  | _ => False

theorem mountThroughProxy_forwards (endpoint base : String) (v : Volume) (target : String)
    (secrets : Dict) :
    (mountThroughProxy endpoint base v target secrets).run.Within
      (Forwards endpoint (request base v target secrets)) := by
  refine within_run_bind (within_orFail (within_request trivial)) fun _ => ?_
  exact within_run_bind (within_orFail (within_request ⟨rfl, rfl⟩)) fun _ => trivial

/-- Both ways to mount a volume start its daemon as the user of a kind: the plugin does so itself,
or has the proxy do so with the same secrets. -/
structure MountedAs (kind : Credentials.Kind) (v : Volume) (target : String) : Prop where
  direct : ∀ base, StartsAs kind id (mountDirectly base v target)
  forwards : ∀ endpoint base secrets, (mountThroughProxy endpoint base v target secrets).run.Within
    (Forwards endpoint (request base v target secrets))
  forwarded : ∀ base,
    StartsAs kind Error.status fun secrets => serve (request base v target secrets)

theorem mountedAs (v : Volume) (target : String) :
    MountedAs (.forVolume v.preProvisioned) v target where
  direct base := mountDirectly_startsAs base v target
  forwards endpoint base secrets := mountThroughProxy_forwards endpoint base v target secrets
  forwarded base := serve_startsAs base v target

end Fuse

end Engine

end FuseVolumes
