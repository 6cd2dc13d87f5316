import FuseVolumes.Mount.Kernel
import FuseVolumes.Proofs.Program.Effects
import Mathlib.Data.Nat.Bitwise

/-!
# Flags of mounts

Every flag has a bit of its own (`Flag.index_inj`), so the flags that a list of options stands for
are those whose options are in the list (`hasFlag_remountFlags_iff`), and no other bit is set
(`testBit_remountFlags_iff`). The flags depend on nothing else (`remountFlags_eq_iff`). Once a bind
mount is in place, it is mounted again if and only if there is a flag to set
(`Kernel.remount_mem_bindMount_iff`).
-/

namespace FuseVolumes.Mount

open Program

variable {bits : Nat} {options options' : List String} {flag : Flag}

/-! ## Bits -/

namespace Flag

/-- The place of the bit of a flag. -/
def index : Flag → Nat
  | readOnly => 0
  | noSuid => 1
  | noDev => 2
  | noExec => 3
  | noAtime => 10
  | noDirAtime => 11
  | relAtime => 21

theorem bit_eq (flag : Flag) : flag.bit = 2 ^ flag.index := by
  cases flag <;> rfl

theorem index_inj {a b : Flag} : a.index = b.index ↔ a = b := by
  cases a <;> cases b <;> decide

/-- An option stands for at most one flag, which it is the option of. -/
theorem ofOption?_eq_some_iff {option : String} :
    ofOption? option = some flag ↔ option = flag.option := by
  constructor
  · intro h
    unfold ofOption? at h
    have found := List.find?_some h
    exact (beq_iff_eq.1 found).symm
  · rintro rfl
    cases flag <;> decide

end Flag

/-- A set of flags, as the kernel writes it, contains a flag. -/
def HasFlag (bits : Nat) (flag : Flag) : Prop := bits &&& flag.bit = flag.bit

theorem hasFlag_iff_testBit : HasFlag bits flag ↔ bits.testBit flag.index = true := by
  have positive : 0 < 2 ^ flag.index := Nat.two_pow_pos _
  rw [HasFlag, Flag.bit_eq, Nat.and_two_pow]
  cases bits.testBit flag.index with
  | true => simp
  | false =>
    simp only [Bool.toNat_false, Nat.zero_mul, Bool.false_eq_true, iff_false]
    omega

/-! ## Flags of options -/

theorem testBit_addFlag_iff {option : String} {i : Nat} :
    (addFlag bits option).testBit i = true ↔
      bits.testBit i = true ∨ ∃ flag : Flag, option = flag.option ∧ i = flag.index := by
  unfold addFlag
  cases h : Flag.ofOption? option with
  | none =>
    have unknown : ¬ ∃ flag : Flag, option = flag.option ∧ i = flag.index := by
      rintro ⟨flag, same, -⟩
      rw [Flag.ofOption?_eq_some_iff.2 same] at h
      cases h
    rw [or_iff_left unknown]
  | some flag =>
    have known : option = flag.option := Flag.ofOption?_eq_some_iff.1 h
    rw [Nat.testBit_or, Flag.bit_eq, Nat.testBit_two_pow, Bool.or_eq_true, decide_eq_true_iff]
    apply or_congr_right
    constructor
    · intro same
      exact ⟨flag, known, same.symm⟩
    · rintro ⟨flag', known', rfl⟩
      rw [Flag.ofOption?_eq_some_iff.2 known', Option.some.injEq] at h
      rw [h]

/-- The bits that options add to others. -/
theorem testBit_foldl_addFlag_iff {i : Nat} :
    (options.foldl addFlag bits).testBit i = true ↔
      bits.testBit i = true ∨ ∃ flag : Flag, flag.option ∈ options ∧ i = flag.index := by
  induction options generalizing bits with
  | nil => simp
  | cons option rest ih =>
    rw [List.foldl_cons, ih, testBit_addFlag_iff, or_assoc]
    apply or_congr_right
    constructor
    · rintro (⟨flag, same, at_i⟩ | ⟨flag, there, at_i⟩)
      · exact ⟨flag, List.mem_cons.2 (.inl same.symm), at_i⟩
      · exact ⟨flag, List.mem_cons_of_mem _ there, at_i⟩
    · rintro ⟨flag, there, at_i⟩
      rcases List.mem_cons.1 there with same | there
      · exact .inl ⟨flag, same.symm, at_i⟩
      · exact .inr ⟨flag, there, at_i⟩

/-- The bits of options are those of the flags that they stand for. -/
theorem testBit_remountFlags_iff {i : Nat} :
    (remountFlags options).testBit i = true ↔
      ∃ flag : Flag, flag.option ∈ options ∧ i = flag.index := by
  rw [remountFlags, testBit_foldl_addFlag_iff, Nat.zero_testBit]
  simp

/-- **Flags.** Options stand for a flag if and only if its option is one of them. -/
theorem hasFlag_remountFlags_iff :
    HasFlag (remountFlags options) flag ↔ flag.option ∈ options := by
  rw [hasFlag_iff_testBit, testBit_remountFlags_iff]
  constructor
  · rintro ⟨flag', there, same⟩
    rwa [Flag.index_inj.1 same]
  · intro there
    exact ⟨flag, there, rfl⟩

/-- Neither order nor repetitions nor unknown options make a difference. -/
theorem remountFlags_eq_iff : remountFlags options = remountFlags options' ↔
    ∀ flag : Flag, flag.option ∈ options ↔ flag.option ∈ options' := by
  constructor
  · intro same flag
    rw [← hasFlag_remountFlags_iff, same, hasFlag_remountFlags_iff]
  · intro alike
    apply Nat.eq_of_testBit_eq
    intro i
    rw [Bool.eq_iff_iff, testBit_remountFlags_iff, testBit_remountFlags_iff]
    exact exists_congr fun flag => and_congr_left fun _ => alike flag

theorem remountFlags_eq_zero_iff :
    remountFlags options = 0 ↔ ∀ flag : Flag, flag.option ∉ options := by
  have empty : remountFlags [] = 0 := rfl
  rw [← empty, remountFlags_eq_iff]
  simp

/-! ## Mounting again -/

namespace Kernel

variable {σ : Type} {handler : Handler interface σ} {s : σ} {source target : String}

/-- What follows the attempt to mount again. -/
def settle (target : String) (options : List String) :
    Except Fault Unit → Program interface (Except Error Unit)
  | .ok () => .done (.ok ())
  | .error fault => (undo target).bind fun _ => .done (.error (.remount target options fault))

/-- The mount is put in place first, and mounted again if there are flags to set. -/
theorem bindMount_run : (bindMount source target options).run =
    .ask (I := interface) (.bind source target) fun
      | .error fault => .done (.error (.bindMount source target fault))
      | .ok () =>
        if remountFlags options = 0 then .done (.ok ())
        else .ask (I := interface) (.remount source target (remountFlags options))
          (settle target options) := by
  change Program.ask _ _ = Program.ask _ _
  congr 1
  funext reply
  cases reply with
  | error fault => rfl
  | ok placed =>
    change ExceptT.run (if remountFlags options ≠ 0 then _ else _) = _
    by_cases none : remountFlags options = 0
    · rw [if_pos none, if_neg (not_not_intro none)]
      rfl
    · rw [if_neg none, if_pos none]
      change Program.ask _ _ = Program.ask _ _
      congr 1
      funext reply
      cases reply with
      | ok given => rfl
      | error fault => exact Program.bind_assoc (undo target) _ _

/-- A request other than to mount again. -/
def NoRemount : Call → Prop
  | .remount _ _ _ => False
  | _ => True

theorem settle_within (reply : Except Fault Unit) :
    (settle target options reply).Within NoRemount := by
  cases reply with
  | ok given => trivial
  | error fault =>
    refine within_bind ⟨trivial, fun reply _ => ?_⟩ fun _ => trivial
    cases reply with
    | ok taken => trivial
    | error fault => exact ⟨trivial, fun _ _ => trivial⟩

/-- **Mounting again.** A mount that is in place is mounted again with its flags, if there are
any. -/
theorem remount_mem_bindMount_iff {source' target' : String} {flags : Nat} :
    Call.remount source' target' flags ∈
      ((bindMount source target options).run.met handler s).map Prod.fst ↔
    (handler (.bind source target) s).1 = .ok () ∧ (∃ flag : Flag, flag.option ∈ options) ∧
      source' = source ∧ target' = target ∧ flags = remountFlags options := by
  have some_iff : (∃ flag : Flag, flag.option ∈ options) ↔ remountFlags options ≠ 0 := by
    rw [Ne, remountFlags_eq_zero_iff, not_forall_not]
  -- The attempt is the last request that could mount again.
  have last (reply : Except Fault Unit) (s : σ) : Call.remount source' target' flags ∉
      ((settle target options reply).met handler s).map Prod.fst := by
    intro there
    obtain ⟨x, hx, same⟩ := List.mem_map.1 there
    have other : NoRemount x.1 := (settle_within reply).met hx
    rw [same] at other
    exact other
  rw [bindMount_run, met, List.map_cons, List.mem_cons, some_iff]
  generalize handler (.bind source target) s = placed
  obtain ⟨reply, s'⟩ := placed
  cases reply with
  | error fault => simp [met]
  | ok placed =>
    by_cases none : remountFlags options = 0
    · simp [met, none]
    · simp [met, none, last]

end Kernel

end FuseVolumes.Mount
