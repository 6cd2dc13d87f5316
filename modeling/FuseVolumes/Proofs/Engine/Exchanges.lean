import FuseVolumes.Proofs.Engine.Quotas
import FuseVolumes.Proofs.Text.Words

/-!
# Commands and their replies

The commands of a run, each with the reply to it, in their order (`exchanges`). What is said of
them and of the answer (`Yields`) passes through `bind`, and through work under a name and with
credentials, where nothing is run unless the name is free and the key is staged. A verb of the pool
runs one command, whose reply decides its answer (`Pool.judge_yields`).
-/

namespace FuseVolumes.Engine

open Program

variable {σ ε α β : Type}

/-! ## Exchanges -/

/-- A command and the reply to it. -/
structure Exchange where
  program : String
  arguments : List String
  reply : Except Fault Output

/-- What is noted of a request: commands with their replies. -/
def Call.noted : (call : Call) → call.Reply → List Exchange
  | .run program arguments, reply => [⟨program, arguments, reply⟩]
  | _, _ => []

/-- The commands of a run with the replies to them, in their order. -/
def exchanges (handler : Handler interface σ) : Program interface α → σ → List Exchange
  | .done _, _ => []
  | .ask call next, s =>
    call.noted (handler call s).1 ++
      exchanges handler (next (handler call s).1) (handler call s).2

variable {handler : Handler interface σ} {s : σ}

theorem exchanges_bind (handler : Handler interface σ) (p : Program interface α)
    (f : α → Program interface β) (s : σ) :
    exchanges handler (p.bind f) s = exchanges handler p s ++
      exchanges handler (f (p.run handler s).1) (p.run handler s).2 := by
  induction p generalizing s with
  | done a => rfl
  | ask call next ih =>
    simp only [Program.bind, exchanges, Program.run, ih, List.append_assoc]

/-- Only allowed commands are run. -/
theorem allowed_of_mem_exchanges {allowed : Call → Prop} {p : Program interface α}
    (h : p.Within allowed) {x : Exchange} (hx : x ∈ exchanges handler p s) :
    allowed (.run x.program x.arguments) := by
  induction p generalizing s with
  | done a => cases hx
  | ask call next ih =>
    rw [exchanges, List.mem_append] at hx
    rcases hx with noted | later
    · cases call with
      | run program arguments =>
        obtain rfl := List.mem_singleton.1 noted
        exact h.1
      | reserve name | release name | log event | makeDirectories path | stageKey directory key
      | dropKey file | forward endpoint request => cases noted
    · exact ih _ (h.next _) later

/-- The commands of a run with their replies, and its answer, are as wanted. -/
def Yields (handler : Handler interface σ) (wanted : List Exchange → α → Prop)
    (p : Program interface α) (s : σ) : Prop :=
  wanted (exchanges handler p s) (p.run handler s).1

section Yields

variable {p : Program interface α} {wanted : List Exchange → α → Prop}

theorem Yields.mono {wanted' : List Exchange → α → Prop} (h : Yields handler wanted p s)
    (stronger : ∀ commands a, wanted commands a → wanted' commands a) :
    Yields handler wanted' p s :=
  stronger _ _ h

theorem yields_bind {f : α → Program interface β} {wanted : List Exchange → β → Prop}
    (h : Yields handler (fun commands a => Yields handler (fun later => wanted (commands ++ later))
      (f a) (p.run handler s).2) p s) : Yields handler wanted (p.bind f) s := by
  rw [Yields, exchanges_bind, run_bind]
  exact h

/-- A request that is no command is not noted. -/
theorem yields_aside {call : Call} {next : call.Reply → Program interface α}
    (aside : ∀ reply, call.noted reply = [])
    (h : Yields handler wanted (next (handler call s).1) (handler call s).2) :
    Yields handler wanted (.ask (I := interface) call next) s := by
  rw [Yields, exchanges, aside]
  exact h

/-- A command is noted with the reply to it. -/
theorem yields_command {program : String} {arguments : List String}
    {next : Except Fault Output → Program interface α}
    (h : Yields handler
      (fun later => wanted (⟨program, arguments, (handler (.run program arguments) s).1⟩ :: later))
      (next (handler (.run program arguments) s).1) (handler (.run program arguments) s).2) :
    Yields handler wanted (.ask (I := interface) (.run program arguments) next) s :=
  h

/-- Requests that come after the work and are no commands are not noted. -/
theorem yields_before {call : α → Call} (aside : ∀ a reply, (call a).noted reply = [])
    (h : Yields handler wanted p s) :
    Yields handler wanted
      (p.bind fun a => .ask (I := interface) (call a) fun _ => .done a) s := by
  refine yields_bind ?_
  have quiet : exchanges handler (.ask (I := interface) (call (p.run handler s).1) fun _ =>
      .done (p.run handler s).1) (p.run handler s).2 = [] := by
    rw [exchanges, aside, exchanges, List.nil_append]
  rw [Yields, Yields, quiet, List.append_nil]
  exact h

theorem yields_run_bind {x : ExceptT ε (Program interface) α}
    {f : α → ExceptT ε (Program interface) β} {wanted : List Exchange → Except ε β → Prop}
    (h : Yields handler (fun commands result => match result with
      | .ok a => Yields handler (fun later => wanted (commands ++ later)) (f a).run
          (x.run.run handler s).2
      | .error e => wanted commands (.error e)) x.run s) :
    Yields handler wanted (x >>= f).run s := by
  refine yields_bind (h.mono fun commands result h => ?_)
  cases result with
  | ok a => exact h
  | error e =>
    change wanted (commands ++ []) (.error e)
    rw [List.append_nil]
    exact h

theorem yields_run_map {x : ExceptT ε (Program interface) α} {f : α → β}
    {wanted : List Exchange → Except ε β → Prop}
    (h : Yields handler (fun commands result => wanted commands (result.map f)) x.run s) :
    Yields handler wanted (do return f (← x) : ExceptT ε (Program interface) β).run s := by
  refine yields_run_bind (h.mono fun commands result h => ?_)
  cases result with
  | ok a =>
    change wanted (commands ++ []) (.ok (f a))
    rw [List.append_nil]
    exact h
  | error e => exact h

theorem yields_orFail {δ : Type} {q : Program interface (Except δ α)} {reword : δ → ε}
    {wanted : List Exchange → Except ε α → Prop}
    (h : Yields handler (fun commands result => wanted commands (result.mapError reword)) q s) :
    Yields handler wanted (q.orFail reword).run s := by
  refine yields_bind (h.mono fun commands result h => ?_)
  change wanted (commands ++ []) (result.mapError reword)
  rw [List.append_nil]
  exact h

end Yields

/-! ## Work under a name and with credentials -/

section Brackets

variable {names : σ → Reservations} {name : String} {taken : ε} {kind : Credentials.Kind}
  {secrets : Dict} {words : Credentials.Error → ε} {wanted : List Exchange → Except ε α → Prop}

/-- The work is done if the name is free, and nothing is run otherwise. -/
theorem reserving_yields (law : Reserves locking handler names) {work : Work ε α}
    (refused : (names s).isReserved name = true → wanted [] (.error taken))
    (granted : (names s).isReserved name = false →
      Yields handler wanted work.run (handler (.reserve name) s).2) :
    Yields handler wanted (reserving name taken work).run s := by
  have free : (handler (.reserve name) s).1 = !(names s).isReserved name :=
    law.grants (.reserve name) s name rfl
  rw [reserving_run]
  refine yields_aside (fun _ => rfl) ?_
  rw [free]
  cases isReserved : (names s).isReserved name with
  | true => exact refused isReserved
  | false => exact yields_before (fun _ _ => rfl) (granted isReserved)

/-- The work is done if there are credentials and their key can be staged. -/
theorem withCredentials_yields {work : Credentials → Work ε α}
    (unselected : ∀ e, Credentials.select kind secrets = .error e → wanted [] (.error (words e)))
    (unstaged : ∀ user key fault, Credentials.select kind secrets = .ok (user, key) →
      (handler (.stageKey Credentials.keyDirectory key) s).1 = .error fault →
      wanted [] (.error (words (.keyFile Credentials.keyDirectory fault))))
    (staged : ∀ user key file, Credentials.select kind secrets = .ok (user, key) →
      (handler (.stageKey Credentials.keyDirectory key) s).1 = .ok file →
      Yields handler wanted (work ⟨user, file⟩).run
        (handler (.stageKey Credentials.keyDirectory key) s).2) :
    Yields handler wanted (withCredentials kind secrets words work).run s := by
  rw [withCredentials_run]
  cases selected : Credentials.select kind secrets with
  | error e => exact unselected e selected
  | ok pair =>
    obtain ⟨user, key⟩ := pair
    refine yields_aside (fun _ => rfl) ?_
    cases reply : (handler (.stageKey Credentials.keyDirectory key) s).1 with
    | error fault => exact unstaged user key fault selected reply
    | ok file => exact yields_before (fun _ _ => rfl) (staged user key file selected reply)

/-- Credentials are had from secrets: the user is filled in there, and the key is staged. -/
def Opens (handler : Handler interface σ) (kind : Credentials.Kind) (secrets : Dict)
    (c : Credentials) (s : σ) : Prop :=
  ∃ key, Credentials.select kind secrets = .ok (c.user, key) ∧
    (handler (.stageKey Credentials.keyDirectory key) s).1 = .ok c.keyFile

/-- With credentials that are had, the work is done. -/
theorem withCredentials_yields_of_opens (law : Reserves locking handler names)
    {work : Credentials → Work ε α} {c : Credentials} (opened : Opens handler kind secrets c s)
    (h : ∀ s', names s' = names s → Yields handler wanted (work c).run s') :
    Yields handler wanted (withCredentials kind secrets words work).run s := by
  obtain ⟨key, selected, staged⟩ := opened
  refine withCredentials_yields ?_ ?_ ?_
  · intro e failed
    rw [selected] at failed
    cases failed
  · intro user key' fault selected' failed
    rw [selected] at selected'
    cases selected'
    rw [staged] at failed
    cases failed
  · intro user key' file selected' staged'
    rw [selected] at selected'
    cases selected'
    rw [staged] at staged'
    cases staged'
    exact h _ (law.spares (.stageKey Credentials.keyDirectory key) s (.inr rfl))

/-- Under a name that is free, the work is done. -/
theorem reserving_yields_of_free (law : Reserves locking handler names) {work : Work ε α}
    (free : (names s).isReserved name = false)
    (h : Yields handler wanted work.run (handler (.reserve name) s).2) :
    Yields handler wanted (reserving name taken work).run s := by
  refine reserving_yields law ?_ fun _ => h
  intro isReserved
  rw [free] at isReserved
  cases isReserved

/-- Work that leaves the names as they are. -/
def Restores (handler : Handler interface σ) (names : σ → Reservations)
    (p : Program interface α) : Prop :=
  ∀ s, names (p.run handler s).2 = names s

theorem restores_of_stays (law : Reserves locking handler names) {p : Program interface α}
    (h : p.Within Stays) : Restores handler names p := by
  have spares : Spares handler Stays fun s s' => names s' = names s := by
    intro call stays s
    apply law.spares
    rcases stays with aside | ⟨-, work⟩
    · exact .inr aside
    · exact .inl work
  exact run_spares spares (fun _ => rfl) (fun _ _ _ first later => later.trans first) h

theorem Restores.map {work : Work ε α} {f : α → β} (h : Restores handler names work.run) :
    Restores handler names (do return f (← work) : Work ε β).run := by
  intro s
  have answered := h s
  rw [run_run_bind]
  generalize work.run.run handler s = last at answered ⊢
  obtain ⟨result, left⟩ := last
  cases result <;> exact answered

/-- A name that is had for some work is given back after it. -/
theorem reserving_restores (law : Reserves locking handler names) {work : Work ε α}
    (h : Restores handler names work.run) :
    Restores handler names (reserving name taken work).run := by
  intro s
  have reply : (handler (.reserve name) s).1 = !(names s).isReserved name :=
    law.grants (.reserve name) s name rfl
  have reserved : names (handler (.reserve name) s).2 = ((names s).tryAcquire name).2 :=
    law.acquires (.reserve name) s name rfl
  rw [reserving_run, Program.run]
  generalize handler (.reserve name) s = told at reply reserved
  obtain ⟨granted, left⟩ := told
  cases isReserved : (names s).isReserved name with
  | true =>
    obtain rfl : granted = false := by simpa [isReserved] using reply
    change names left = names s
    rw [reserved, Reservations.tryAcquire, if_pos isReserved]
  | false =>
    obtain rfl : granted = true := by simpa [isReserved] using reply
    change names ((work.run.bind _).run handler left).2 = names s
    rw [run_bind]
    change names (handler (.release name) _).2 = names s
    rw [law.releases (.release name) _ name rfl, h, reserved]
    exact Reservations.release_tryAcquire isReserved

theorem withCredentials_restores (law : Reserves locking handler names)
    {work : Credentials → Work ε α} (h : ∀ c, Restores handler names (work c).run) :
    Restores handler names (withCredentials kind secrets words work).run := by
  intro s
  rw [withCredentials_run]
  cases Credentials.select kind secrets with
  | error e => rfl
  | ok pair =>
    obtain ⟨user, key⟩ := pair
    have staged := law.spares (.stageKey Credentials.keyDirectory key) s (.inr rfl)
    rw [← staged]
    dsimp only
    rw [Program.run]
    generalize handler (.stageKey Credentials.keyDirectory key) s = told
    obtain ⟨reply, left⟩ := told
    cases reply with
    | error fault => rfl
    | ok file =>
      change names (((work ⟨user, file⟩).run.bind _).run handler left).2 = names left
      rw [run_bind]
      change names (handler (.dropKey file) _).2 = names left
      rw [law.spares (.dropKey file) _ (.inr rfl), h]

end Brackets

/-! ## Verbs of the pool -/

/-- The tool tells of success. -/
def Succeeds (reply : Except Fault Output) : Prop :=
  ∃ output, reply = .ok output ∧ output.exitCode = some 0

namespace Pool

/-- The tool tells that a volume is missing, with its exit code or in words. -/
def TellsMissing (name : String) (reply : Except Fault Output) : Prop :=
  ∃ output, reply = .ok output ∧ (output.exitCode = some 2 ∨
    output.exitCode = some 0 ∧ (missingText name).toList <:+: output.text.toList)

/-- The tool tells that a volume exists. -/
def TellsPresent (name : String) (reply : Except Fault Output) : Prop :=
  ∃ output, reply = .ok output ∧ output.exitCode = some 0 ∧
    ¬ (missingText name).toList <:+: output.text.toList

/-- A command of a user for the pool of a volume. -/
def ordered (v : Volume) (c : Credentials) (order : Order) (reply : Except Fault Output) :
    Exchange :=
  ⟨poolTool, order.arguments c.user c.keyFile v.poolUrl, reply⟩

/-- A verb runs one command, whose reply decides its answer. -/
theorem judge_yields {v : Volume} {c : Credentials} {operation : Operation}
    {operands : List String} {verdict : Output → Option α}
    {wanted : List Exchange → Except Error α → Prop} (order : Order)
    (asks : arguments v c operation operands = order.arguments c.user c.keyFile v.poolUrl)
    (h : ∀ reply, wanted [ordered v c order reply] (judged v operation verdict reply)) :
    Yields handler wanted (judge v c operation operands verdict).run s := by
  have told := h (handler (.run poolTool (arguments v c operation operands)) s).1
  rw [ordered, ← asks] at told
  refine yields_command ?_
  generalize handler (.run poolTool (arguments v c operation operands)) s = answered at told
  obtain ⟨reply, left⟩ := answered
  cases reply with
  | error fault => exact told
  | ok output =>
    rw [judged] at told
    change Yields handler _ (ExceptT.bindCont _ (.ok output)) left
    dsimp only [ExceptT.bindCont]
    cases given : verdict output with
    | some a =>
      rw [given] at told
      exact told
    | none =>
      rw [given] at told
      exact yields_aside (fun _ => rfl) told

/-- A command that fails is an error of the plugin itself. -/
theorem judged_internal {v : Volume} {operation : Operation} {verdict : Output → Option α}
    {reply : Except Fault Output} {e : Error} (h : judged v operation verdict reply = .error e) :
    e.status.code = .internal := by
  cases reply with
  | error fault =>
    cases h
    rfl
  | ok output =>
    rw [judged] at h
    split at h
    · cases h
    · cases h
      rfl

variable {v : Volume} {c : Credentials}

theorem create_yields : Yields handler (fun commands result =>
    ∃ reply, commands = [ordered v c (.create v.name (Capacity.wholeGib v.capacity)) reply] ∧
      (result = .ok () ↔ Succeeds reply) ∧ ∀ e, result = .error e → e.status.code = .internal)
    (create v c).run s := by
  rw [create_eq]
  refine judge_yields (.create v.name (Capacity.wholeGib v.capacity)) rfl fun reply =>
    ⟨reply, rfl, ?_, fun e => judged_internal⟩
  cases reply with
  | error fault => simp [judged, Succeeds]
  | ok output =>
    by_cases success : output.exitCode = some 0 <;>
      simp [judged, Succeeds, Output.success, success]

theorem exists_yields : Yields handler (fun commands result =>
    ∃ reply, commands = [ordered v c (.plist c.user v.name) reply] ∧
      (result = .ok false ↔ TellsMissing v.name reply) ∧
      (result = .ok true ↔ TellsPresent v.name reply) ∧
      ∀ e, result = .error e → e.status.code = .internal) (exists? v c).run s := by
  rw [exists_eq]
  refine judge_yields (.plist c.user v.name) rfl fun reply =>
    ⟨reply, rfl, ?_, ?_, fun e => judged_internal⟩ <;>
  cases reply with
  | error fault => simp [judged, TellsMissing, TellsPresent]
  | ok output =>
    by_cases notFound : output.exitCode = some 2
    · simp [judged, TellsMissing, TellsPresent, Output.notFound, notFound]
    · by_cases success : output.exitCode = some 0 <;>
        simp [judged, TellsMissing, TellsPresent, Output.notFound, Output.success, success,
          notFound, ← Text.contains_iff]

theorem delete_yields : Yields handler (fun commands result =>
    ∃ reply, commands = [ordered v c (.delete v.name) reply] ∧
      ∀ e, result = .error e → e.status.code = .internal) (delete v c).run s := by
  rw [delete_eq]
  exact judge_yields (.delete v.name) rfl fun reply => ⟨reply, rfl, fun e => judged_internal⟩

theorem resize_yields : Yields handler (fun commands result =>
    ∃ reply, commands = [ordered v c (.quota v.name (Capacity.wholeGib v.capacity)) reply] ∧
      ∀ e, result = .error e → e.status.code = .internal) (resize v c).run s := by
  rw [resize_eq]
  exact judge_yields (.quota v.name (Capacity.wholeGib v.capacity)) rfl fun reply =>
    ⟨reply, rfl, fun e => judged_internal⟩

end Pool

end FuseVolumes.Engine
