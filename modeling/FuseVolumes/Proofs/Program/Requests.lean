import FuseVolumes.Program

/-!
What programs ask for, whatever they are told.

* `Obeys fair allowed wanted p`: as long as its replies are fair, `p` makes only allowed requests
  and its answer is as wanted. It passes through `bind` (`obeys_bind`), and so through work that
  can fail (`obeys_run_bind`), and holds of every run against fair surroundings (`Obeys.run`).
* `Within allowed p`: the same without a word on replies and answers.
* `Asks p call`: under some replies `p` makes the request.
* `run_agree`, `run_spares`: a run sees and changes no more of its surroundings than its requests.
-/

namespace FuseVolumes.Program

variable {I : Interface} {α β σ ε δ : Type}

/-! ## Obedience -/

/-- Under fair replies only allowed requests are made, and the answer is as wanted. -/
def Obeys (fair : (call : I.Call) → I.Reply call → Prop) (allowed : I.Call → Prop)
    (wanted : α → Prop) : Program I α → Prop
  | .done a => wanted a
  | .ask call next =>
    allowed call ∧ ∀ reply, fair call reply → (next reply).Obeys fair allowed wanted

section Obeys

variable {fair fair' : (call : I.Call) → I.Reply call → Prop} {allowed allowed' : I.Call → Prop}

theorem obeys_bind {p : Program I α} {f : α → Program I β} {between : α → Prop}
    {wanted : β → Prop} (hp : p.Obeys fair allowed between)
    (hf : ∀ a, between a → (f a).Obeys fair allowed wanted) :
    (p.bind f).Obeys fair allowed wanted := by
  induction p with
  | done a => exact hf a hp
  | ask call next ih => exact ⟨hp.1, fun reply hr => ih reply (hp.2 reply hr)⟩

theorem Obeys.mono {p : Program I α} {wanted wanted' : α → Prop}
    (hp : p.Obeys fair allowed wanted) (hfair : ∀ call reply, fair' call reply → fair call reply)
    (hallowed : ∀ call, allowed call → allowed' call) (hwanted : ∀ a, wanted a → wanted' a) :
    p.Obeys fair' allowed' wanted' := by
  induction p with
  | done a => exact hwanted a hp
  | ask call next ih =>
    exact ⟨hallowed call hp.1, fun reply hr => ih reply (hp.2 reply (hfair call reply hr))⟩

theorem obeys_run_bind {x : ExceptT ε (Program I) α} {f : α → ExceptT ε (Program I) β}
    {between : Except ε α → Prop} {wanted : Except ε β → Prop}
    (hx : x.run.Obeys fair allowed between)
    (hok : ∀ a, between (.ok a) → (f a).run.Obeys fair allowed wanted)
    (herror : ∀ e, between (.error e) → wanted (.error e)) :
    (x >>= f).run.Obeys fair allowed wanted := by
  refine obeys_bind hx fun result hresult => ?_
  cases result with
  | ok a => exact hok a hresult
  | error e => exact herror e hresult

theorem obeys_liftM {p : Program I α} {wanted : Except ε α → Prop}
    (hp : p.Obeys fair allowed fun a => wanted (.ok a)) :
    (liftM p : ExceptT ε (Program I) α).run.Obeys fair allowed wanted :=
  obeys_bind hp fun _ h => h

/-- A run against surroundings that reply fairly keeps their invariant and ends as wanted. -/
theorem Obeys.run {handler : Handler I σ} {inv : σ → Prop} {p : Program I α}
    {wanted : α → Prop} (hp : p.Obeys fair allowed wanted)
    (step : ∀ call s, allowed call → inv s →
      fair call (handler call s).1 ∧ inv (handler call s).2)
    {s : σ} (hs : inv s) : wanted (p.run handler s).1 ∧ inv (p.run handler s).2 := by
  induction p generalizing s with
  | done a => exact ⟨hp, hs⟩
  | ask call next ih =>
    have h := step call s hp.1 hs
    exact ih _ (hp.2 _ h.1) h.2

end Obeys

/-! ## Requests alone -/

/-- Only allowed requests are made. -/
def Within (allowed : I.Call → Prop) (p : Program I α) : Prop :=
  p.Obeys (fun _ _ => True) allowed fun _ => True

section Within

variable {allowed allowed' : I.Call → Prop}

theorem within_request {call : I.Call} (h : allowed call) : (request call).Within allowed :=
  ⟨h, fun _ _ => trivial⟩

theorem within_bind {p : Program I α} {f : α → Program I β} (hp : p.Within allowed)
    (hf : ∀ a, (f a).Within allowed) : (p.bind f).Within allowed :=
  obeys_bind hp fun a _ => hf a

theorem Within.mono {p : Program I α} (hp : p.Within allowed)
    (h : ∀ call, allowed call → allowed' call) : p.Within allowed' :=
  Obeys.mono hp (fun _ _ _ => trivial) h fun _ _ => trivial

theorem within_of_forall (h : ∀ call, allowed call) (p : Program I α) : p.Within allowed := by
  induction p with
  | done a => trivial
  | ask call next ih => exact ⟨h call, fun reply _ => ih reply⟩

theorem obeys_trivial (fair : (call : I.Call) → I.Reply call → Prop) (p : Program I α) :
    p.Obeys fair (fun _ => True) fun _ => True :=
  Obeys.mono (within_of_forall (fun _ => trivial) p) (fun _ _ _ => trivial) (fun _ h => h)
    fun _ h => h

/-- What holds of the answer whatever the replies are holds of the answer of every run. -/
theorem Obeys.answer {p : Program I α} {wanted : α → Prop}
    (hp : p.Obeys (fun _ _ => True) (fun _ => True) wanted) (handler : Handler I σ) (s : σ) :
    wanted (p.run handler s).1 := by
  induction p generalizing s with
  | done a => exact hp
  | ask call next ih => exact ih _ (hp.2 _ trivial) _

theorem Within.and {p : Program I α} (h : p.Within allowed) (h' : p.Within allowed') :
    p.Within fun call => allowed call ∧ allowed' call := by
  induction p with
  | done a => trivial
  | ask call next ih => exact ⟨⟨h.1, h'.1⟩, fun reply _ => ih reply (h.2 reply trivial)
      (h'.2 reply trivial)⟩

theorem Within.next {call : I.Call} {next : I.Reply call → Program I α}
    (h : (Program.ask call next).Within allowed) (reply : I.Reply call) :
    (next reply).Within allowed :=
  h.2 reply trivial

theorem within_orFail {p : Program I (Except δ α)} {words : δ → ε} (hp : p.Within allowed) :
    (p.orFail words).run.Within allowed :=
  within_bind hp fun _ => trivial

theorem within_run_bind {x : ExceptT ε (Program I) α} {f : α → ExceptT ε (Program I) β}
    (hx : x.run.Within allowed) (hf : ∀ a, (f a).run.Within allowed) :
    (x >>= f).run.Within allowed :=
  obeys_run_bind hx (fun a _ => hf a) fun _ _ => trivial

theorem within_liftM {p : Program I α} (hp : p.Within allowed) :
    (liftM p : ExceptT ε (Program I) α).run.Within allowed :=
  within_bind hp fun _ => trivial

end Within

/-! ## What a run sees and changes -/

/-- The replies to allowed requests, and what they change of what `same` compares, depend on
what `same` compares only. -/
def Local (handler : Handler I σ) (allowed : I.Call → Prop) (same : σ → σ → Prop) : Prop :=
  ∀ call, allowed call → ∀ s t, same s t →
    (handler call s).1 = (handler call t).1 ∧ same (handler call s).2 (handler call t).2

/-- Allowed requests change nothing of what `same` compares. -/
def Spares (handler : Handler I σ) (allowed : I.Call → Prop) (same : σ → σ → Prop) : Prop :=
  ∀ call, allowed call → ∀ s, same s (handler call s).2

theorem run_agree {handler : Handler I σ} {allowed : I.Call → Prop} {same : σ → σ → Prop}
    (hlocal : Local handler allowed same) {p : Program I α} (hp : p.Within allowed) {s t : σ}
    (h : same s t) :
    (p.run handler s).1 = (p.run handler t).1 ∧
      same (p.run handler s).2 (p.run handler t).2 := by
  induction p generalizing s t with
  | done a => exact ⟨rfl, h⟩
  | ask call next ih =>
    obtain ⟨hreply, hsame⟩ := hlocal call hp.1 s t h
    have := ih _ (hp.next (handler call s).1) hsame
    simp only [run]
    rw [hreply] at this ⊢
    exact this

theorem run_spares {handler : Handler I σ} {allowed : I.Call → Prop} {same : σ → σ → Prop}
    (hspares : Spares handler allowed same) (hrefl : ∀ s, same s s)
    (htrans : ∀ s t u, same s t → same t u → same s u) {p : Program I α}
    (hp : p.Within allowed) (s : σ) : same s (p.run handler s).2 := by
  induction p generalizing s with
  | done a => exact hrefl s
  | ask call next ih =>
    exact htrans _ _ _ (hspares call hp.1 s) (ih _ (hp.next _) _)

/-! ## Runs of work that can fail -/

theorem run_run_bind (handler : Handler I σ) (x : ExceptT ε (Program I) α)
    (f : α → ExceptT ε (Program I) β) (s : σ) :
    (x >>= f).run.run handler s = match x.run.run handler s with
      | (.ok a, s) => (f a).run.run handler s
      | (.error e, s) => (.error e, s) := by
  change (x.run.bind (ExceptT.bindCont f)).run handler s = _
  rw [run_bind]
  obtain ⟨result, s⟩ := x.run.run handler s
  cases result <;> rfl

theorem run_liftM (handler : Handler I σ) (p : Program I α) (s : σ) :
    (liftM p : ExceptT ε (Program I) α).run.run handler s =
      (.ok (p.run handler s).1, (p.run handler s).2) :=
  run_bind handler p _ s

theorem run_run_orFail (handler : Handler I σ) (p : Program I (Except δ α)) (words : δ → ε)
    (s : σ) : (p.orFail words).run.run handler s =
      ((p.run handler s).1.mapError words, (p.run handler s).2) :=
  run_bind handler p _ s

theorem run_bind_orFail_of_ok {handler : Handler I σ} {p : Program I (Except δ α)} {s : σ} {a : α}
    (words : δ → ε) (f : α → ExceptT ε (Program I) β) (told : (p.run handler s).1 = .ok a) :
    (p.orFail words >>= f).run.run handler s = (f a).run.run handler (p.run handler s).2 := by
  rw [run_run_bind, run_run_orFail, told]
  rfl

/-! ## Possible requests -/

/-- Under some replies the request is made. -/
inductive Asks : Program I α → I.Call → Prop
  | here (call : I.Call) (next : I.Reply call → Program I α) : Asks (.ask call next) call
  | later {first call : I.Call} {next : I.Reply first → Program I α} (reply : I.Reply first)
      (h : Asks (next reply) call) : Asks (.ask first next) call

theorem asks_ask_iff {first call : I.Call} {next : I.Reply first → Program I α} :
    (Program.ask first next).Asks call ↔ first = call ∨ ∃ reply, (next reply).Asks call := by
  constructor
  · intro h
    cases h with
    | here => exact .inl rfl
    | later reply h => exact .inr ⟨reply, h⟩
  · rintro (rfl | ⟨reply, h⟩)
    · exact .here _ _
    · exact .later reply h

/-- Under some replies the answer is this one. -/
def Answers : Program I α → α → Prop
  | .done b, a => b = a
  | .ask _ next, a => ∃ reply, (next reply).Answers a

theorem not_asks_done (a : α) (call : I.Call) : ¬ (Program.done a : Program I α).Asks call := by
  intro h
  cases h

theorem Within.of_asks {p : Program I α} {allowed : I.Call → Prop} (h : p.Within allowed)
    {call : I.Call} (asked : p.Asks call) : allowed call := by
  induction asked with
  | here call next => exact h.1
  | later reply _ ih => exact ih (h.next reply)

theorem Within.not_asks {p : Program I α} {allowed : I.Call → Prop} (h : p.Within allowed)
    {call : I.Call} (forbidden : ¬ allowed call) : ¬ p.Asks call :=
  fun asked => forbidden (h.of_asks asked)

theorem asks_request_iff {first call : I.Call} :
    (request first : Program I (I.Reply first)).Asks call ↔ first = call := by
  rw [request, asks_ask_iff]
  simp only [not_asks_done, exists_false, or_false]

theorem asks_bind_iff {p : Program I α} {f : α → Program I β} {call : I.Call} :
    (p.bind f).Asks call ↔ p.Asks call ∨ ∃ a, p.Answers a ∧ (f a).Asks call := by
  induction p with
  | done a => simp [bind, Answers, not_asks_done]
  | ask first next ih =>
    simp only [bind, asks_ask_iff, ih, Answers]
    constructor
    · rintro (h | ⟨reply, h | ⟨a, ha, h⟩⟩)
      · exact .inl (.inl h)
      · exact .inl (.inr ⟨reply, h⟩)
      · exact .inr ⟨a, ⟨reply, ha⟩, h⟩
    · rintro ((h | ⟨reply, h⟩) | ⟨a, ⟨reply, ha⟩, h⟩)
      · exact .inl h
      · exact .inr ⟨reply, .inl h⟩
      · exact .inr ⟨reply, .inr ⟨a, ha, h⟩⟩

theorem asks_orFail_iff {p : Program I (Except δ α)} {words : δ → ε} {call : I.Call} :
    (p.orFail words).run.Asks call ↔ p.Asks call := by
  change (p.bind _).Asks call ↔ _
  rw [asks_bind_iff]
  simp only [not_asks_done, and_false, exists_false, or_false]

theorem asks_run_bind_iff {x : ExceptT ε (Program I) α} {f : α → ExceptT ε (Program I) β}
    {call : I.Call} : (x >>= f).run.Asks call ↔
      x.run.Asks call ∨ ∃ a, x.run.Answers (.ok a) ∧ (f a).run.Asks call := by
  change (x.run.bind (ExceptT.bindCont f)).Asks call ↔ _
  rw [asks_bind_iff]
  constructor
  · rintro (h | ⟨a | a, ha, h⟩)
    · exact .inl h
    · exact absurd h (not_asks_done _ _)
    · exact .inr ⟨a, ha, h⟩
  · rintro (h | ⟨a, ha, h⟩)
    · exact .inl h
    · exact .inr ⟨.ok a, ha, h⟩

theorem asks_liftM_iff {p : Program I α} {call : I.Call} :
    (liftM p : ExceptT ε (Program I) α).run.Asks call ↔ p.Asks call := by
  change (p.bind _).Asks call ↔ _
  rw [asks_bind_iff]
  simp only [Function.comp_apply, not_asks_done, and_false, exists_false, or_false]

theorem asks_run_bind_iff_of_last {x : ExceptT ε (Program I) α} {f : α → ExceptT ε (Program I) β}
    {call : I.Call} (hf : ∀ a, ¬ (f a).run.Asks call) :
    (x >>= f).run.Asks call ↔ x.run.Asks call := by
  rw [asks_run_bind_iff]
  simp only [hf, and_false, exists_false, or_false]

theorem asks_run_bind_iff_of_passes {x : ExceptT ε (Program I) Unit}
    {f : Unit → ExceptT ε (Program I) β} {call : I.Call} (hx : ¬ x.run.Asks call)
    (passes : x.run.Answers (.ok ())) : (x >>= f).run.Asks call ↔ (f ()).run.Asks call := by
  rw [asks_run_bind_iff]
  constructor
  · rintro (h | ⟨⟨⟩, -, h⟩)
    · exact absurd h hx
    · exact h
  · intro h
    exact .inr ⟨(), passes, h⟩

theorem answers_request {call : I.Call} (reply : I.Reply call) :
    (request call : Program I (I.Reply call)).Answers reply :=
  ⟨reply, rfl⟩

theorem answers_bind_iff {p : Program I α} {f : α → Program I β} {b : β} :
    (p.bind f).Answers b ↔ ∃ a, p.Answers a ∧ (f a).Answers b := by
  induction p with
  | done a => simp [bind, Answers]
  | ask first next ih =>
    simp only [bind, Answers, ih]
    constructor
    · rintro ⟨reply, a, ha, h⟩
      exact ⟨a, ⟨reply, ha⟩, h⟩
    · rintro ⟨a, ⟨reply, ha⟩, h⟩
      exact ⟨reply, a, ha, h⟩

theorem answers_liftM {p : Program I α} {a : α} (h : p.Answers a) :
    (liftM p : ExceptT ε (Program I) α).run.Answers (.ok a) :=
  answers_bind_iff.2 ⟨a, h, rfl⟩

theorem answers_orFail_ok {p : Program I (Except δ α)} {words : δ → ε} {a : α}
    (h : p.Answers (.ok a)) : (p.orFail words).run.Answers (.ok a) :=
  answers_bind_iff.2 ⟨.ok a, h, rfl⟩

end FuseVolumes.Program
