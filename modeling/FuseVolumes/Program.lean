/-! Programs as trees of requests. A program does nothing itself: it has an answer, or asks
its surroundings for something and goes on with the reply. So one text of a program can be
run against any surroundings, stopped before a request, and interleaved with others. -/

namespace FuseVolumes

/-- What can be asked for, and what each request is answered with. -/
structure Interface where
  Call : Type
  Reply : Call → Type

inductive Program (I : Interface) (α : Type) : Type
  | done (answer : α)
  | ask (call : I.Call) (next : I.Reply call → Program I α)

namespace Program

variable {I J : Interface} {α β γ σ : Type}

def bind : Program I α → (α → Program I β) → Program I β
  | .done a, f => f a
  | .ask call next, f => .ask call fun reply => (next reply).bind f

instance : Monad (Program I) where
  pure := .done
  bind := bind

/-- Asks and answers with the reply. -/
def request (call : I.Call) : Program I (I.Reply call) := .ask call .done

theorem bind_done (p : Program I α) : p.bind .done = p := by
  induction p with
  | done a => rfl
  | ask call next ih => simp [bind, ih]

theorem bind_assoc (p : Program I α) (f : α → Program I β) (g : β → Program I γ) :
    (p.bind f).bind g = p.bind fun a => (f a).bind g := by
  induction p with
  | done a => rfl
  | ask call next ih => simp [bind, ih]

instance : LawfulMonad (Program I) :=
  LawfulMonad.mk' _ bind_done (fun _ _ => rfl) bind_assoc

/-- A program whose failures are put in other words. -/
def orFail {δ ε : Type} (p : Program I (Except δ α)) (words : δ → ε) :
    ExceptT ε (Program I) α :=
  ExceptT.mk (p.bind fun reply => .done (reply.mapError words))

/-! ## Surroundings -/

/-- How surroundings in a state answer every request. -/
abbrev Handler (I : Interface) (σ : Type) := (call : I.Call) → σ → I.Reply call × σ

/-- Runs to the answer. -/
def run (handler : Handler I σ) : Program I α → σ → α × σ
  | .done a, s => (a, s)
  | .ask call next, s =>
    let (reply, s) := handler call s
    (next reply).run handler s

theorem run_bind (handler : Handler I σ) (p : Program I α) (f : α → Program I β) (s : σ) :
    (p.bind f).run handler s = (f (p.run handler s).1).run handler (p.run handler s).2 := by
  induction p generalizing s with
  | done a => rfl
  | ask call next ih => simp [bind, run, ih]

/-- Runs up to the first request for which `stop` holds, which is not made yet. -/
def runUntil (handler : Handler I σ) (stop : I.Call → σ → Bool) :
    Program I α → σ → Program I α × σ
  | .done a, s => (.done a, s)
  | .ask call next, s =>
    if stop call s then (.ask call next, s)
    else
      let (reply, s) := handler call s
      (next reply).runUntil handler stop s

/-- Writes every request out in terms of another interface. -/
def via (meaning : (call : I.Call) → Program J (I.Reply call)) : Program I α → Program J α
  | .done a => .done a
  | .ask call next => (meaning call).bind fun reply => (next reply).via meaning

end Program

end FuseVolumes
