import FuseVolumes.Dict

/-! Templates: text in which `${token}` stands for the value of a token. A token is whatever
stands between the braces, and braces that are never closed are plain text. -/

namespace FuseVolumes.Secret

inductive Segment
  | plain (c : Char)
  | token (name : List Char)
  deriving DecidableEq, Repr

namespace Template

/-- The text before the first closing brace and after it. -/
def untilBrace : List Char → Option (List Char × List Char)
  | [] => none
  | c :: rest =>
    if c == '\x7d' then some ([], rest)
    else (untilBrace rest).map fun (name, rest) => (c :: name, rest)

theorem untilBrace_length {text name rest : List Char}
    (h : untilBrace text = some (name, rest)) : rest.length < text.length := by
  induction text generalizing name rest with
  | nil => simp [untilBrace] at h
  | cons c text ih =>
    unfold untilBrace at h
    split at h
    · simp only [Option.some.injEq, Prod.mk.injEq] at h
      simp [h.2]
    · cases hu : untilBrace text with
      | none => simp [hu] at h
      | some pair =>
        obtain ⟨n, r⟩ := pair
        simp only [hu, Option.map_some, Option.some.injEq, Prod.mk.injEq] at h
        have := ih hu
        rw [← h.2]
        simp only [List.length_cons]
        omega

/-- The token that starts here, if one does. -/
def tokenAt? : List Char → Option (List Char × List Char)
  | '$' :: '\x7b' :: rest => untilBrace rest
  | _ => none

theorem tokenAt?_length {text name rest : List Char}
    (h : tokenAt? text = some (name, rest)) : rest.length < text.length := by
  unfold tokenAt? at h
  split at h
  · have := untilBrace_length h
    simp only [List.length_cons]
    omega
  · simp at h

def scan : List Char → List Segment
  | [] => []
  | c :: text =>
    match _h : tokenAt? (c :: text) with
    | some (name, rest) => .token name :: scan rest
    | none => .plain c :: scan text
termination_by text => text.length
decreasing_by
  · exact tokenAt?_length _h
  · simp

/-- The tokens of a template in order. -/
def tokens (segments : List Segment) : List String :=
  segments.filterMap fun
    | .plain _ => none
    | .token name => some (.ofList name)

/-- Every token replaced by its value. -/
def fill (values : Dict) (segments : List Segment) : List Char :=
  segments.flatMap fun
    | .plain c => [c]
    | .token name => ((values.get? (.ofList name)).getD "").toList

/-- The filled template, or the tokens without a value, in order and each once. -/
def resolve (template : String) (values : Dict) : Except (List String) String :=
  let segments := scan template.toList
  match (tokens segments).filter (! values.contains ·) with
  | [] => .ok (.ofList (fill values segments))
  | missing => .error (orderedSet missing)

end Template

end FuseVolumes.Secret
