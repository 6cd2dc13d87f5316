import FuseVolumes.Proofs.Engine.Quotas

/-!
# An engine in memory

The arguments of a command tell its order (`Order.read?_arguments`). So an engine can carry out the
commands that it is given on quotas in memory (`Host.keeper`), and does as it is told
(`Host.keeper_behaves`).
-/

namespace FuseVolumes.Engine

open Program

/-! ## Orders from arguments -/

/-- A number of GiB with its unit, as orders have it. -/
def readGib (text : String) : Int :=
  match text.toList.dropLast with
  | '-' :: digits => -(Nat.ofDigitChars 10 digits 0 : Int)
  | digits => Nat.ofDigitChars 10 digits 0

theorem readGib_write (gib : Int) : readGib (toString gib ++ "g") = gib := by
  have number : (toString gib ++ "g").toList.dropLast = (toString gib).toList := by
    rw [String.toList_append]
    exact List.dropLast_concat
  rw [readGib, number]
  cases gib with
  | ofNat n =>
    have digits : (toString (Int.ofNat n)).toList = Nat.toDigits 10 n := Nat.toList_repr
    rw [digits]
    split
    -- What looks like a sign would be a digit.
    next rest signed =>
      have digit : '-'.isDigit = true :=
        Nat.isDigit_of_mem_toDigits (by decide) (by decide) (signed ▸ List.mem_cons_self)
      exact absurd digit (by decide)
    next =>
      rw [Nat.ofDigitChars_ten_toDigits]
      rfl
  | negSucc n =>
    have digits : (toString (Int.negSucc n)).toList = '-' :: Nat.toDigits 10 (n + 1) := by
      change ("-" ++ (n + 1).repr).toList = _
      rw [String.toList_append, Nat.toList_repr]
      rfl
    rw [digits]
    simp only [Nat.ofDigitChars_ten_toDigits]
    rfl

/-- The order that a command gives, and the pool that it is for. -/
def Order.read? : List String → Option (String × Order)
  | "-u" :: _ :: "-k" :: _ :: "-c" :: url :: words =>
    match words with
    | ["create", name, size] => some (url, .create name (readGib size))
    | ["quota", name, size] => some (url, .quota name (readGib size))
    | ["delete", name] => some (url, .delete name)
    | ["plist", user, name] => some (url, .plist user name)
    | _ => none
  | _ => none

theorem Order.read?_arguments (order : Order) (user key url : String) :
    read? (order.arguments user key url) = some (url, order) := by
  cases order with
  | create name gib => exact congrArg (fun n => some (url, Order.create name n)) (readGib_write gib)
  | quota name gib => exact congrArg (fun n => some (url, Order.quota name n)) (readGib_write gib)
  | delete name | plist user' name => rfl

/-! ## Carrying out orders -/

namespace Host

/-- Commands that give no order fail. -/
def keeper (host : Host) : Handler interface View
  | .reserve name, v =>
    (!v.names.isReserved name, { v with names := (v.names.tryAcquire name).2 })
  | .release name, v => ((), { v with names := v.names.release name })
  | .stageKey directory _, v =>
    match host.keyFault with
    | some fault => (.error fault, v)
    | none => (.ok (directory ++ "/" ++ Credentials.keyFileStart), v)
  | .run program arguments, v =>
    match if program = poolTool then Order.read? arguments else none with
    | some (url, order) =>
      (.ok (host.output v.quotas url order), { v with quotas := order.after url v.quotas })
    | none => (.ok ⟨some 1, ""⟩, v)
  | .log _, v | .dropKey _, v => ((), v)
  | .makeDirectories _, v => (.ok (), v)
  | .forward _ _, v => (.error .unreachable, v)

theorem keeper_behaves (host : Host) :
    Behaves host.keeper host.effects id fun _ => True where
  stays _ _ _ := trivial
  effects call v _ := by
    cases call with
    | reserve name => exact ⟨rfl, rfl⟩
    | release name | log event | makeDirectories path | dropKey file | forward endpoint request =>
      rfl
    | stageKey directory key =>
      cases fails : host.keyFault with
      | some fault => simp [keeper, effects, fails]
      | none => simp [keeper, effects, fails]
    | run program arguments =>
      refine ⟨?_, ?_⟩
      · simp only [keeper]
        split <;> rfl
      · rintro rfl user key url order rfl
        simp [keeper, Order.read?_arguments]

/-- Whatever does as it is told keeps to what is certain. -/
theorem behaves_keeping {σ : Type} {host : Host} {handler : Handler interface σ} {view : σ → View}
    {sound : σ → Prop} (behaves : Behaves handler host.effects view sound) :
    Behaves handler keeping (fun s => (view s).quotas) sound where
  stays := behaves.stays
  effects call s hs := host.keeps (behaves.effects call s hs)

end Host

/-- An engine that says nothing. -/
def quiet : Host where
  keyFault := none
  words _ _ _ := ""
  plain _ _ _ name _ := by
    simp [Text.contains, Pool.missingText]

end FuseVolumes.Engine
