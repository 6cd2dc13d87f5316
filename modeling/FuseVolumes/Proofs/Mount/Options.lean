import Mathlib.Data.List.Basic
import Mathlib.Data.List.Induction
import FuseVolumes.Mount.Options

/-!
# Lists of mount options

Adding options keeps a list without repetitions (`nodup_addOptions`) and brings in those that are
added and no others (`mem_addOptions`). What is there stays in front (`prefix_addOptions`), so the
options are in the order in which they are first told (`pairwise_addOptions_nil`). A second telling
adds nothing: not of options that are there (`addOptions_of_subset`), and not of a whole list that
came of adding (`addOptions_addOptions`). Together, for the union of two lists: `options_united`.
-/

namespace FuseVolumes.Mount

variable {options base flags more : List String} {o : String}

/-! ## Adding options -/

theorem mem_addOptions : o ∈ addOptions options flags ↔ o ∈ options ∨ o ∈ flags := by
  induction flags generalizing options with
  | nil => simp [addOptions]
  | cons flag flags ih =>
    rw [addOptions, List.mem_cons]
    split
    next there =>
      have there : flag ∈ options := List.contains_iff_mem.1 there
      rw [ih]
      constructor
      · rintro (h | h)
        · exact .inl h
        · exact .inr (.inr h)
      · rintro (h | rfl | h)
        · exact .inl h
        · exact .inl there
        · exact .inr h
    next => rw [ih, List.mem_append, List.mem_singleton, or_assoc]

theorem nodup_addOptions (distinct : options.Nodup) : (addOptions options flags).Nodup := by
  induction flags generalizing options with
  | nil => exact distinct
  | cons flag flags ih =>
    rw [addOptions]
    split
    next => exact ih distinct
    next new =>
      have new : flag ∉ options := fun there => new (List.contains_iff_mem.2 there)
      exact ih (by grind [List.nodup_append])

theorem addOptions_append (options flags more : List String) :
    addOptions options (flags ++ more) = addOptions (addOptions options flags) more := by
  induction flags generalizing options with
  | nil => rfl
  | cons flag flags ih =>
    rw [List.cons_append, addOptions, addOptions]
    split
    next => exact ih options
    next => exact ih (options ++ [flag])

/-- What is there stays in front. -/
theorem prefix_addOptions (options flags : List String) :
    options <+: addOptions options flags := by
  induction flags generalizing options with
  | nil => exact List.prefix_refl options
  | cons flag flags ih =>
    rw [addOptions]
    split
    next => exact ih options
    next => exact (List.prefix_append options [flag]).trans (ih (options ++ [flag]))

/-- Options that are there already are not added. -/
theorem addOptions_of_subset (there : ∀ o ∈ more, o ∈ options) :
    addOptions options more = options := by
  induction more with
  | nil => rfl
  | cons flag more ih =>
    obtain ⟨first, others⟩ := List.forall_mem_cons.1 there
    rw [addOptions, if_pos (List.contains_iff_mem.2 first), ih others]

/-- Options that are new, and none of them twice, are added as they are. -/
theorem addOptions_of_nodup (distinct : (options ++ more).Nodup) :
    addOptions options more = options ++ more := by
  induction more generalizing options with
  | nil => rw [addOptions, List.append_nil]
  | cons flag more ih =>
    have new : flag ∉ options := by
      intro there
      exact (List.nodup_append.1 distinct).2.2 flag there flag List.mem_cons_self rfl
    have step : options ++ flag :: more = options ++ [flag] ++ more := by simp
    rw [step] at distinct ⊢
    rw [addOptions, if_neg (mt List.contains_iff_mem.1 new), ih distinct]

theorem addOptions_addOptions (distinct : options.Nodup) :
    addOptions options (addOptions options flags) = addOptions options flags := by
  obtain ⟨new, behind⟩ := prefix_addOptions options flags
  have all : (addOptions options flags).Nodup := nodup_addOptions distinct
  rw [← behind] at all ⊢
  rw [addOptions_append, addOptions_of_subset fun o there => there, addOptions_of_nodup all]

/-- Options are in the order in which they are first told. -/
theorem pairwise_addOptions_nil (told : List String) :
    (addOptions [] told).Pairwise fun a b => told.idxOf a < told.idxOf b := by
  -- From the end: what is told last moves nothing that was told before.
  induction told using List.reverseRecOn with
  | nil => exact .nil
  | append_singleton told last ih =>
    have told_of_mem {o : String} (h : o ∈ addOptions [] told) : o ∈ told := by
      simpa using mem_addOptions.1 h
    have before : (addOptions [] told).Pairwise fun a b =>
        (told ++ [last]).idxOf a < (told ++ [last]).idxOf b := by
      apply ih.imp_of_mem
      intro a b ha hb ordered
      rwa [List.idxOf_append_of_mem (told_of_mem ha), List.idxOf_append_of_mem (told_of_mem hb)]
    rw [addOptions_append, addOptions]
    split
    next => exact before
    next new =>
      have new : last ∉ told := by
        intro there
        exact new (List.contains_iff_mem.2 (mem_addOptions.2 (.inr there)))
      have behind : ∀ a ∈ addOptions [] told,
          (told ++ [last]).idxOf a < (told ++ [last]).idxOf last := by
        intro a ha
        have inside := List.idxOf_lt_length_of_mem (told_of_mem ha)
        rw [List.idxOf_append_of_mem (told_of_mem ha), List.idxOf_append_of_notMem new]
        omega
      rw [addOptions, List.pairwise_append]
      exact ⟨before, List.pairwise_singleton _ _, by simpa using behind⟩

/-! ## Options of two lists -/

theorem mem_unionOptions : o ∈ unionOptions base flags ↔ o ∈ base ∨ o ∈ flags := by
  rw [unionOptions, mem_addOptions, List.mem_append, or_iff_right List.not_mem_nil]

theorem nodup_unionOptions (base flags : List String) : (unionOptions base flags).Nodup :=
  nodup_addOptions List.nodup_nil

theorem unionOptions_eq (base flags : List String) :
    unionOptions base flags = addOptions (addOptions [] base) flags := by
  rw [unionOptions, addOptions_append]

theorem unionOptions_unionOptions (base flags : List String) :
    unionOptions base (unionOptions base flags) = unionOptions base flags := by
  have distinct : (addOptions [] base).Nodup := nodup_addOptions List.nodup_nil
  rw [unionOptions_eq, unionOptions_eq, addOptions_addOptions distinct]

/-- Options can be told again anywhere behind the place where they are told. -/
theorem unionOptions_again {before after : List String}
    (told : ∀ o ∈ more, o ∈ base ∨ o ∈ before) :
    unionOptions base (before ++ more ++ after) = unionOptions base (before ++ after) := by
  have there : ∀ o ∈ more, o ∈ addOptions (addOptions [] base) before := by
    intro o h
    rw [← unionOptions_eq]
    exact mem_unionOptions.2 (told o h)
  rw [unionOptions_eq, unionOptions_eq, addOptions_append, addOptions_append, addOptions_append,
    addOptions_of_subset there]

/-- **Union.** The options of both lists are there and no others, each of them once, in the order
in which the base and behind it the flags first tell them. Nothing changes where the flags are
replaced by the whole result, or where options that have been told are told again. -/
theorem options_united (base flags : List String) :
    (unionOptions base flags).Nodup ∧
    (∀ o, o ∈ unionOptions base flags ↔ o ∈ base ∨ o ∈ flags) ∧
    (unionOptions base flags).Pairwise
      (fun a b => (base ++ flags).idxOf a < (base ++ flags).idxOf b) ∧
    unionOptions base (unionOptions base flags) = unionOptions base flags ∧
    ∀ before more after, flags = before ++ after → (∀ o ∈ more, o ∈ base ∨ o ∈ before) →
      unionOptions base (before ++ more ++ after) = unionOptions base flags := by
  refine ⟨nodup_unionOptions base flags, fun o => mem_unionOptions,
    pairwise_addOptions_nil (base ++ flags), unionOptions_unionOptions base flags, ?_⟩
  rintro before more after rfl told
  exact unionOptions_again told

/-- Lists that repeat options of their own and of each other. -/
theorem options_united_with_repetitions :
    unionOptions ["bind", "_netdev", "bind"] ["ro", "_netdev", "noatime", "ro"] =
      ["bind", "_netdev", "ro", "noatime"] ∧
    unionOptions ["bind", "_netdev", "bind"] ["bind", "_netdev", "ro", "noatime"] =
      ["bind", "_netdev", "ro", "noatime"] ∧
    unionOptions ["bind", "_netdev", "bind"] ["ro", "bind", "ro", "_netdev", "noatime", "ro"] =
      ["bind", "_netdev", "ro", "noatime"] := by
  have united : unionOptions ["bind", "_netdev", "bind"] ["ro", "_netdev", "noatime", "ro"] =
      ["bind", "_netdev", "ro", "noatime"] := by decide
  obtain ⟨-, -, -, same, again⟩ :=
    options_united ["bind", "_netdev", "bind"] ["ro", "_netdev", "noatime", "ro"]
  have added := again ["ro"] ["bind", "ro"] ["_netdev", "noatime", "ro"] rfl (by decide)
  rw [united] at same added
  exact ⟨united, same, added⟩

/-- Only behind its place: an option that is told in front of it is first told there. -/
example : unionOptions [] ["ro", "noatime"] = ["ro", "noatime"] ∧
    unionOptions [] ["noatime", "ro", "noatime"] = ["noatime", "ro"] := by decide

end FuseVolumes.Mount
