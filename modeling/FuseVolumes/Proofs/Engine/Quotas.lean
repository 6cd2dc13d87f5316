import FuseVolumes.Proofs.Engine.Locking
import FuseVolumes.Proofs.Program.Effects
import Mathlib.Logic.Function.Basic

/-!
# Engines that keep quotas

An engine keeps one quota, in GiB, for every volume of a pool. What is asked of it is told by the
order that a command gives (`Order`). Two kinds of engine are considered. One may fail at will, but
sets a quota when it says so and tells the truth about which volumes there are (`keeping`). The
other never fails, except for volumes that do not exist (`Host`), so the answers to work on a pool
follow from its quotas.
-/

namespace FuseVolumes.Engine

open Program

/-! ## Quotas -/

/-- Where a volume is kept: the pool's configuration and the name in the pool. -/
structure Place where
  url : String
  name : String
  deriving DecidableEq, Repr

/-- The quotas of all volumes that there are, in GiB. -/
abbrev Quotas := Place → Option Int

namespace Quotas

/-- The quotas once a volume is provided. One that is there keeps its quota. -/
def provided (quotas : Quotas) (place : Place) (gib : Int) : Quotas :=
  Function.update quotas place (some ((quotas place).getD gib))

variable {quotas : Quotas} {place other : Place} {gib : Int}

theorem provided_self : provided quotas place gib place = some ((quotas place).getD gib) :=
  Function.update_self ..

theorem provided_of_ne (h : other ≠ place) : provided quotas place gib other = quotas other :=
  Function.update_of_ne h ..

theorem provided_of_isSome (h : (quotas place).isSome = true) :
    provided quotas place gib = quotas := by
  obtain ⟨n, there⟩ := Option.isSome_iff_exists.1 h
  rw [provided, there, Option.getD_some, ← there, Function.update_eq_self]

theorem provided_of_eq_none (h : quotas place = none) :
    provided quotas place gib = Function.update quotas place (some gib) := by
  rw [provided, h, Option.getD_none]

@[simp] theorem provided_provided :
    provided (provided quotas place gib) place gib = provided quotas place gib := by
  refine provided_of_isSome ?_
  rw [provided_self, Option.isSome_some]

end Quotas

/-- What a command of the pool tool asks for. -/
inductive Order
  | create (name : String) (gib : Int)
  | quota (name : String) (gib : Int)
  | delete (name : String)
  | plist (user name : String)
  deriving DecidableEq, Repr

namespace Order

def name : Order → String
  | .create name _ | .quota name _ | .delete name | .plist _ name => name

/-- The words of an order. -/
def words : Order → List String
  | .create name gib => ["create", name, s!"{gib}g"]
  | .quota name gib => ["quota", name, s!"{gib}g"]
  | .delete name => ["delete", name]
  | .plist user name => ["plist", user, name]

/-- The arguments of a user's command for a pool. -/
def arguments (order : Order) (user key url : String) : List String :=
  ["-u", user, "-k", key, "-c", url] ++ order.words

/-- The quotas once an order is carried out. There is nothing to resize or delete where no volume
is. -/
def after (url : String) (quotas : Quotas) : Order → Quotas
  | .create name gib => Function.update quotas ⟨url, name⟩ (some gib)
  | .quota name gib =>
    if (quotas ⟨url, name⟩).isSome then Function.update quotas ⟨url, name⟩ (some gib) else quotas
  | .delete name => Function.update quotas ⟨url, name⟩ none
  | .plist _ _ => quotas

/-- An order for a volume that does not exist, unless it is to be created. -/
def misses (url : String) (quotas : Quotas) : Order → Bool
  | .create _ _ => false
  | order => (quotas ⟨url, order.name⟩).isNone

/-- What is certain of an order: a volume has the quota that was set with success, is gone when it
was deleted with success, and is told of if and only if it exists. -/
def Kept (url : String) (reply : Except Fault Output) (quotas quotas' : Quotas) : Order → Prop
  | .create name gib | .quota name gib =>
    ∀ output, reply = .ok output → output.success = true →
      quotas' = Function.update quotas ⟨url, name⟩ (some gib)
  | .delete name =>
    ∀ output, reply = .ok output → output.success = true →
      quotas' = Function.update quotas ⟨url, name⟩ none
  | .plist _ name => quotas' = quotas ∧ ∀ output, reply = .ok output →
    (output.notFound = true → quotas ⟨url, name⟩ = none) ∧
    (output.success = true → (quotas ⟨url, name⟩).isSome =
      !Text.contains (Pool.missingText name).toList output.text.toList)

end Order

/-- Commands of the pool tool keep to what is certain, and nothing else changes quotas. -/
def keeping : Effects interface Quotas
  | .run program arguments, reply, quotas, quotas' => program = poolTool →
    ∀ user key url (order : Order), arguments = order.arguments user key url →
      order.Kept url reply quotas quotas'
  | .reserve _, _, quotas, quotas' | .release _, _, quotas, quotas' | .log _, _, quotas, quotas'
  | .makeDirectories _, _, quotas, quotas' | .stageKey _ _, _, quotas, quotas'
  | .dropKey _, _, quotas, quotas' | .forward _ _, _, quotas, quotas' => quotas' = quotas

/-! ## Engines that do as they are told -/

/-- What requests see and change: the quotas, and the names in use. -/
structure View where
  quotas : Quotas
  names : Reservations

/-- An engine on which only volumes that do not exist give rise to errors. Keys can either always
be staged, or never. -/
structure Host where
  keyFault : Option Fault
  /-- What is written in answer to an order. -/
  words : Quotas → String → Order → String
  /-- Whoever lists a volume that exists does not say that it does not. -/
  plain : ∀ quotas url user name, (quotas ⟨url, name⟩).isSome = true →
    Text.contains (Pool.missingText name).toList
      (words quotas url (.plist user name)).toList = false

namespace Host

/-- The outcome of an order. -/
def output (host : Host) (quotas : Quotas) (url : String) (order : Order) : Output :=
  ⟨some (if order.misses url quotas then 2 else 0), host.words quotas url order⟩

@[simp] theorem output_success (host : Host) (quotas : Quotas) (url : String) (order : Order) :
    (host.output quotas url order).success = !order.misses url quotas := by
  cases h : order.misses url quotas <;> simp [output, Output.success, h]

@[simp] theorem output_notFound (host : Host) (quotas : Quotas) (url : String) (order : Order) :
    (host.output quotas url order).notFound = order.misses url quotas := by
  cases h : order.misses url quotas <;> simp [output, Output.notFound, h]

/-- Orders are carried out and answered, names are granted unless they are in use, and nothing else
is changed. -/
def effects (host : Host) : Effects interface View
  | .reserve name, taken, v, v' =>
    taken = !v.names.isReserved name ∧ v' = { v with names := (v.names.tryAcquire name).2 }
  | .release name, _, v, v' => v' = { v with names := v.names.release name }
  | .stageKey _ _, reply, v, v' => v' = v ∧
    match host.keyFault with
    | some fault => reply = .error fault
    | none => ∃ file, reply = .ok file
  | .run program arguments, reply, v, v' => v'.names = v.names ∧ (program = poolTool →
    ∀ user key url (order : Order), arguments = order.arguments user key url →
      reply = .ok (host.output v.quotas url order) ∧ v'.quotas = order.after url v.quotas)
  | .log _, _, v, v' | .makeDirectories _, _, v, v' | .dropKey _, _, v, v'
  | .forward _ _, _, v, v' => v' = v

end Host

/-! ## Verbs of the pool -/

namespace Pool

variable {α τ : Type}

/-- A verb whose answer is read off the output of its command, unless that is a failure. -/
def judge (v : Volume) (c : Credentials) (operation : Operation) (operands : List String)
    (verdict : Output → Option α) : Work Error α := do
  let output ← run v c operation operands
  match verdict output with
  | some a => return a
  | none => fail v operation output

/-- The answer of a verb to the reply of the tool. -/
def judged (v : Volume) (operation : Operation) (verdict : Output → Option α) :
    Except Fault Output → Except Error α
  | .error fault => .error (.spawn poolTool fault)
  | .ok output =>
    match verdict output with
    | some a => .ok a
    | none => .error (.failed operation v.name output)

theorem create_eq (v : Volume) (c : Credentials) :
    create v c = judge v c .create [v.name, Capacity.quota v.capacity]
      fun output => if output.success then some () else none := by
  rw [create, judge]
  congr 1
  funext output
  cases output.success <;> rfl

theorem exists_eq (v : Volume) (c : Credentials) :
    exists? v c = judge v c .plist [c.user, v.name] fun output =>
      if output.notFound then some false
      else if output.success then
        some !Text.contains (missingText v.name).toList output.text.toList
      else none := by
  rw [exists?, judge]
  congr 1
  funext output
  cases output.notFound <;> cases output.success <;> rfl

theorem delete_eq (v : Volume) (c : Credentials) :
    delete v c = judge v c .delete [v.name] fun output =>
      if output.success || output.notFound
        || Text.contains "No such file or directory".toList output.text.toList then some ()
      else none := by
  rw [delete, judge]
  congr 1
  funext output
  cases output.success || output.notFound
    || Text.contains "No such file or directory".toList output.text.toList <;> rfl

theorem resize_eq (v : Volume) (c : Credentials) :
    resize v c = judge v c .quota [v.name, Capacity.quota v.capacity] fun output =>
      if output.success then some (Capacity.roundUp v.capacity) else none := by
  rw [resize, judge]
  congr 1
  funext output
  cases output.success <;> rfl

/-- A verb runs its command, and ends as the tool replies. -/
theorem judge_obeys {fair : (call : Call) → call.Reply → Prop} {allowed : Call → Prop} {v : Volume}
    {c : Credentials} {operation : Operation} {operands : List String}
    {verdict : Output → Option α} {wanted : Except Error α → Prop}
    (runs : allowed (.run poolTool (arguments v c operation operands)))
    (logs : ∀ event, allowed (.log event))
    (told : ∀ reply, wanted (judged v operation verdict reply)) :
    (judge v c operation operands verdict).run.Obeys (I := interface) fair allowed wanted := by
  refine ⟨runs, fun reply _ => ?_⟩
  have told := told reply
  match reply with
  | .error fault => exact told
  | .ok output =>
    rw [judged] at told
    change Obeys _ _ _ (ExceptT.run (match verdict output with
      | some a => pure a
      | none => fail v operation output))
    cases given : verdict output with
    | some a =>
      rw [given] at told
      exact told
    | none =>
      rw [given] at told
      exact ⟨logs _, fun _ _ => told⟩

/-- What follows from the reply of the tool holds of the verb, if logs change nothing. -/
theorem judge_holds {effects : Effects interface τ} {v : Volume} {c : Credentials}
    {operation : Operation} {operands : List String} {verdict : Output → Option α} {w : τ}
    {wanted : Except Error α → τ → Prop}
    (logs : ∀ event reply w w', effects (.log event) reply w w' → w' = w)
    (h : ∀ reply w', effects (.run poolTool (arguments v c operation operands)) reply w w' →
      wanted (judged v operation verdict reply) w') :
    (judge v c operation operands verdict).run.Holds effects (fun _ _ => True) wanted w := by
  refine ⟨trivial, fun reply w' answered => ?_⟩
  have told := h reply w' answered
  match reply with
  | .error fault => exact told
  | .ok output =>
    rw [judged] at told
    change Holds _ _ _ (ExceptT.run (match verdict output with
      | some a => pure a
      | none => fail v operation output)) w'
    cases given : verdict output with
    | some a =>
      rw [given] at told
      exact told
    | none =>
      rw [given] at told
      refine ⟨trivial, fun reply w'' logged => ?_⟩
      rw [logs _ _ _ _ logged]
      exact told

/-! ## Verbs on engines that keep quotas -/

/-- Where a volume is kept. -/
def place (v : Volume) : Place := ⟨v.poolUrl, v.name⟩

theorem create_keeps (v : Volume) (c : Credentials) (quotas : Quotas) :
    (create v c).run.Holds keeping (fun _ _ => True) (fun result quotas' => result = .ok () →
      quotas' = Function.update quotas (place v) (some (Capacity.wholeGib v.capacity))) quotas := by
  rw [create_eq]
  refine judge_holds (fun _ _ _ _ same => same) fun reply quotas' kept created => ?_
  have set :=
    kept rfl c.user c.keyFile v.poolUrl (.create v.name (Capacity.wholeGib v.capacity)) rfl
  match reply with
  | .error fault => cases created
  | .ok output =>
    cases success : output.success with
    | true => exact set output rfl success
    | false => simp [judged, success] at created

theorem exists_keeps (v : Volume) (c : Credentials) (quotas : Quotas) :
    (exists? v c).run.Holds keeping (fun _ _ => True) (fun result quotas' => quotas' = quotas ∧
      ∀ found, result = .ok found → found = (quotas (place v)).isSome) quotas := by
  rw [exists_eq]
  refine judge_holds (fun _ _ _ _ same => same) fun reply quotas' kept => ?_
  obtain ⟨same, told⟩ := kept rfl c.user c.keyFile v.poolUrl (.plist c.user v.name) rfl
  refine ⟨same, fun found listed => ?_⟩
  match reply with
  | .error fault => cases listed
  | .ok output =>
    obtain ⟨absent, present⟩ := told output rfl
    cases notFound : output.notFound with
    | true =>
      have none : quotas (place v) = none := absent notFound
      simp only [judged, notFound, if_true, Except.ok.injEq] at listed
      rw [none, ← listed, Option.isSome_none]
    | false =>
      cases success : output.success with
      | true =>
        simp only [judged, notFound, success, if_true, Except.ok.injEq, Bool.false_eq_true,
          if_false] at listed
        rw [← listed]
        exact (present success).symm
      | false => simp [judged, notFound, success] at listed

theorem resize_keeps (v : Volume) (c : Credentials) (quotas : Quotas) :
    (resize v c).run.Holds keeping (fun _ _ => True) (fun result quotas' => ∀ capacity,
      result = .ok capacity → capacity = Capacity.roundUp v.capacity ∧
      quotas' = Function.update quotas (place v) (some (Capacity.wholeGib v.capacity))) quotas := by
  rw [resize_eq]
  refine judge_holds (fun _ _ _ _ same => same) fun reply quotas' kept capacity resized => ?_
  have set := kept rfl c.user c.keyFile v.poolUrl (.quota v.name (Capacity.wholeGib v.capacity)) rfl
  match reply with
  | .error fault => cases resized
  | .ok output =>
    cases success : output.success with
    | true =>
      simp only [judged, success, if_true, Except.ok.injEq] at resized
      exact ⟨resized.symm, set output rfl success⟩
    | false => simp [judged, success] at resized

/-! ## Verbs on engines that do as they are told -/

section Host

variable (host : Host) (v : Volume) (c : Credentials) (w : View)

/-- The reply to an order, as verbs see it. -/
theorem judge_comes (order : Order) {operation : Operation} {operands : List String}
    {verdict : Output → Option α}
    (asks : arguments v c operation operands = order.arguments c.user c.keyFile v.poolUrl) :
    (judge v c operation operands verdict).run.Holds host.effects (fun _ _ => True)
      (fun result w' =>
        result = judged v operation verdict (.ok (host.output w.quotas v.poolUrl order)) ∧
        w' = { w with quotas := order.after v.poolUrl w.quotas }) w := by
  refine judge_holds (fun _ _ _ _ same => same) fun reply w' h => ?_
  obtain ⟨names, h⟩ := h
  obtain ⟨rfl, quotas⟩ := h rfl _ _ _ order asks
  refine ⟨rfl, ?_⟩
  cases w'
  rw [← quotas, ← names]

theorem create_comes :
    (create v c).run.Holds host.effects (fun _ _ => True) (fun result w' => result = .ok () ∧
      w' = { w with quotas :=
        Function.update w.quotas (place v) (some (Capacity.wholeGib v.capacity)) }) w := by
  rw [create_eq]
  exact (judge_comes host v c w (.create v.name (Capacity.wholeGib v.capacity)) (by rfl)).mono
    fun _ _ h => h

theorem exists_comes :
    (exists? v c).run.Holds host.effects (fun _ _ => True)
      (fun result w' => result = .ok (w.quotas (place v)).isSome ∧ w' = w) w := by
  rw [exists_eq]
  refine (judge_comes host v c w (.plist c.user v.name) (by rfl)).mono ?_
  rintro _ _ ⟨rfl, rfl⟩
  have missing : Order.misses v.poolUrl w.quotas (.plist c.user v.name) =
      (w.quotas (place v)).isNone := rfl
  refine ⟨?_, rfl⟩
  cases there : w.quotas (place v) with
  | none => simp [judged, missing, there]
  | some gib =>
    have plain := host.plain w.quotas v.poolUrl c.user v.name (Option.isSome_of_eq_some there)
    simp only [judged, Host.output_notFound, Host.output_success, missing, there]
    rw [Host.output, plain]
    rfl

theorem delete_comes :
    (delete v c).run.Holds host.effects (fun _ _ => True) (fun result w' => result = .ok () ∧
      w' = { w with quotas := Function.update w.quotas (place v) none }) w := by
  rw [delete_eq]
  refine (judge_comes host v c w (.delete v.name) (by rfl)).mono ?_
  rintro _ _ ⟨rfl, rfl⟩
  refine ⟨?_, rfl⟩
  simp [judged]

theorem resize_comes (there : (w.quotas (place v)).isSome = true) :
    (resize v c).run.Holds host.effects (fun _ _ => True) (fun result w' =>
      result = .ok (Capacity.roundUp v.capacity) ∧ w' = ⟨Function.update w.quotas (place v)
        (some (Capacity.wholeGib v.capacity)), w.names⟩) w := by
  rw [resize_eq]
  refine (judge_comes host v c w (.quota v.name (Capacity.wholeGib v.capacity)) (by rfl)).mono ?_
  rintro _ _ ⟨rfl, rfl⟩
  have present : Order.misses v.poolUrl w.quotas
      (.quota v.name (Capacity.wholeGib v.capacity)) = false := by
    change (w.quotas (place v)).isNone = false
    simpa using there
  refine ⟨?_, ?_⟩
  · simp only [judged, Host.output_success, present, Bool.not_false, if_true]
  · exact congrArg (View.mk · w.names) (if_pos there)

theorem resize_misses (absent : w.quotas (place v) = none) :
    (resize v c).run.Holds host.effects (fun _ _ => True) (fun result w' =>
      result = .error (.failed .quota v.name (host.output w.quotas v.poolUrl
        (.quota v.name (Capacity.wholeGib v.capacity)))) ∧ w' = w) w := by
  rw [resize_eq]
  refine (judge_comes host v c w (.quota v.name (Capacity.wholeGib v.capacity)) (by rfl)).mono ?_
  rintro _ _ ⟨rfl, rfl⟩
  have missing : Order.misses v.poolUrl w.quotas
      (.quota v.name (Capacity.wholeGib v.capacity)) = true := by
    change (w.quotas (place v)).isNone = true
    rw [absent, Option.isNone_none]
  refine ⟨?_, ?_⟩
  · simp only [judged, Host.output_success, missing, Bool.not_true, Bool.false_eq_true, if_false]
  · have gone : ¬ (w.quotas (place v)).isSome = true := by simp [absent]
    exact congrArg (View.mk · w.names) (if_neg gone)

end Host

end Pool

/-! ## Work under a name and with credentials -/

section Brackets

variable {ε α : Type} {name : String} {taken : ε} {kind : Credentials.Kind} {secrets : Dict}
  {words : Credentials.Error → ε}

/-- Names are nothing to the quotas. -/
theorem reserving_keeps {work : Work ε α} {wanted : Except ε α → Quotas → Prop} {quotas : Quotas}
    (refused : wanted (.error taken) quotas)
    (h : work.run.Holds keeping (fun _ _ => True) wanted quotas) :
    (reserving name taken work).run.Holds keeping (fun _ _ => True) wanted quotas := by
  rw [reserving_run]
  refine ⟨trivial, ?_⟩
  rintro granted _ rfl
  cases granted with
  | false => exact refused
  | true =>
    refine holds_bind h fun result quotas' ended => ⟨trivial, ?_⟩
    rintro _ _ rfl
    exact ended

/-- Nor are keys. -/
theorem withCredentials_keeps {work : Credentials → Work ε α}
    {wanted : Except ε α → Quotas → Prop} {quotas : Quotas}
    (refused : ∀ e, wanted (.error (words e)) quotas)
    (h : ∀ c, (work c).run.Holds keeping (fun _ _ => True) wanted quotas) :
    (withCredentials kind secrets words work).run.Holds keeping (fun _ _ => True) wanted
      quotas := by
  rw [withCredentials_run]
  match Credentials.select kind secrets with
  | .error e => exact refused e
  | .ok (user, key) =>
    refine ⟨trivial, ?_⟩
    rintro reply _ rfl
    match reply with
    | .error fault => exact refused _
    | .ok file =>
      refine holds_bind (h ⟨user, file⟩) fun result quotas' ended => ⟨trivial, ?_⟩
      rintro _ _ rfl
      exact ended

variable {host : Host} {w : View} {wanted : Except ε α → View → Prop}

/-- A name is had for the work unless it is in use. -/
theorem Host.reserving_holds {work : Work ε α}
    (refused : w.names.isReserved name = true → wanted (.error taken) w)
    (granted : w.names.isReserved name = false → work.run.Holds host.effects (fun _ _ => True)
      (fun result w' => wanted result { w' with names := w'.names.release name })
      { w with names := (w.names.tryAcquire name).2 }) :
    (reserving name taken work).run.Holds host.effects (fun _ _ => True) wanted w := by
  rw [reserving_run]
  refine ⟨trivial, ?_⟩
  rintro _ _ ⟨rfl, rfl⟩
  cases isReserved : w.names.isReserved name with
  | true =>
    have same : (w.names.tryAcquire name).2 = w.names := by
      rw [Reservations.tryAcquire, if_pos isReserved]
    rw [same]
    exact refused isReserved
  | false =>
    refine holds_bind (granted isReserved) fun result w' ended => ⟨trivial, ?_⟩
    rintro _ _ rfl
    exact ended

/-- A key is had for the work if there is one in the secrets, and keys can be staged. -/
theorem Host.withCredentials_holds {work : Credentials → Work ε α}
    (unselected : ∀ e, Credentials.select kind secrets = .error e → wanted (.error (words e)) w)
    (unstaged : ∀ user key fault, Credentials.select kind secrets = .ok (user, key) →
      host.keyFault = some fault →
      wanted (.error (words (.keyFile Credentials.keyDirectory fault))) w)
    (h : ∀ user key file, Credentials.select kind secrets = .ok (user, key) →
      host.keyFault = none →
      (work ⟨user, file⟩).run.Holds host.effects (fun _ _ => True) wanted w) :
    (withCredentials kind secrets words work).run.Holds host.effects (fun _ _ => True) wanted
      w := by
  rw [withCredentials_run]
  cases selected : Credentials.select kind secrets with
  | error e => exact unselected e selected
  | ok pair =>
    refine ⟨trivial, ?_⟩
    rintro reply _ ⟨rfl, staged⟩
    cases fails : host.keyFault with
    | some fault =>
      rw [fails] at staged
      subst staged
      exact unstaged pair.1 pair.2 fault selected fails
    | none =>
      rw [fails] at staged
      obtain ⟨file, rfl⟩ := staged
      refine holds_bind (h pair.1 pair.2 file selected fails) fun result w' ended => ⟨trivial, ?_⟩
      rintro _ _ rfl
      exact ended

end Brackets

/-! ## Truthful engines keep to what is certain -/

/-- An engine that does as it is told keeps to what is certain. -/
theorem Host.keeps (host : Host) {call : Call} {reply : call.Reply} {v v' : View}
    (h : host.effects call reply v v') : keeping call reply v.quotas v'.quotas := by
  cases call with
  | reserve name =>
    rw [h.2]
    rfl
  | stageKey directory key =>
    rw [h.1]
    rfl
  | release name | log event | makeDirectories path | dropKey file | forward endpoint request =>
    rw [show v' = _ from h]
    rfl
  | run program arguments =>
    intro tool user key url order asks
    obtain ⟨rfl, after⟩ := h.2 tool user key url order asks
    have answered {output : Output}
        (told : Except.ok (host.output v.quotas url order) = (.ok output : Except Fault Output))
        (success : output.success = true) : order.misses url v.quotas = false := by
      cases told
      simpa using success
    cases order with
    | create name gib => exact fun _ _ _ => after
    -- A quota is set with success only where a volume is; elsewhere the order does nothing.
    | quota name gib =>
      intro output told success
      have there := answered told success
      rw [after, Order.after, if_pos (by simpa [Order.misses, Order.name] using there)]
    | delete name => exact fun _ _ _ => after
    | plist user' name =>
      refine ⟨after, fun output told => ?_⟩
      cases told
      have missing : Order.misses url v.quotas (.plist user' name) =
          (v.quotas ⟨url, name⟩).isNone := rfl
      rw [output_notFound, output_success, missing]
      refine ⟨Option.isNone_iff_eq_none.1, fun found => ?_⟩
      have there : (v.quotas ⟨url, name⟩).isSome = true := by simpa using found
      rw [there, output, plain host v.quotas url user' name there, Bool.not_false]

end FuseVolumes.Engine
