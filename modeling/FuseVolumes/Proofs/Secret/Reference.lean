import FuseVolumes.Proofs.Dict
import FuseVolumes.Proofs.Except
import FuseVolumes.Secret.Reference

/-!
# Who decides where a secret is looked for

A secret is named in two steps (`Keys.reference_eq`). The storage class and the namespace of a
claim decide where it is looked for (`Keys.location`), and only then has the rest of the claim a say
in its name (`Templates.nameIn`). A name depends on the values of the tokens in its template only
(`Template.resolve_congr`), and no annotation stands for another token than its own
(`get?_nameValues_annotationToken`, `get?_nameValues_of_ne`). So whoever writes a claim cannot have
a secret looked up in another namespace, nor change its name but by what the template asks for
(`references_confined`).
-/

namespace FuseVolumes.Secret

variable {volume : String} {claim a b : Claim}

/-! ## Templates -/

namespace Template

variable {values values' : Dict}

theorem mem_tokens {segments : List Segment} {name : List Char}
    (h : Segment.token name ∈ segments) : String.ofList name ∈ tokens segments :=
  List.mem_filterMap.2 ⟨.token name, h, rfl⟩

theorem fill_congr {segments : List Segment}
    (same : ∀ token ∈ tokens segments, values.get? token = values'.get? token) :
    fill values segments = fill values' segments := by
  rw [fill, fill, List.flatMap, List.flatMap]
  congr 1
  refine List.map_congr_left fun segment h => ?_
  cases segment with
  | plain c => rfl
  | token name =>
    dsimp only
    rw [same _ (mem_tokens h)]

/-- What comes of a template depends on the values of its tokens only. -/
theorem resolve_congr {template : String}
    (same : ∀ token ∈ tokens (scan template.toList), values.get? token = values'.get? token) :
    resolve template values = resolve template values' := by
  have missing : (tokens (scan template.toList)).filter (! values.contains ·) =
      (tokens (scan template.toList)).filter (! values'.contains ·) := by
    refine List.filter_congr fun token h => ?_
    rw [Dict.contains, Dict.contains, same token h]
  unfold resolve
  dsimp only
  rw [missing, fill_congr same]

end Template

/-! ## Annotations -/

/-- The token that stands for an annotation. -/
def annotationToken (key : String) : String := "pvc.annotations['" ++ key ++ "']"

theorem toList_annotationToken (key : String) :
    (annotationToken key).toList = "pvc.annotations['".toList ++ (key.toList ++ "']".toList) := by
  unfold annotationToken
  rw [String.toList_append, String.toList_append, List.append_assoc]

theorem annotationToken_inj (k k' : String) (h : annotationToken k = annotationToken k') :
    k = k' := by
  have same := congrArg String.toList h
  rw [toList_annotationToken, toList_annotationToken, List.append_cancel_left_eq,
    List.append_cancel_right_eq] at same
  exact String.toList_inj.1 same

/-- The tokens of annotations are longer than any other. -/
theorem annotationToken_ne {token : String} (short : token.toList.length < 19) (key : String) :
    annotationToken key ≠ token := by
  rintro rfl
  have long : (annotationToken key).toList.length = 17 + (key.toList.length + 2) := by
    rw [toList_annotationToken, List.length_append, List.length_append]
    rfl
  omega

/-- What a name template may refer to apart from annotations. -/
def trusted (volume : String) (claim : Claim) : Dict :=
  (namespaceValues volume (some claim)).insert "pvc.name" claim.name

/-- Tokens that are no annotation's have the values that they have without annotations. -/
theorem get?_nameValues_of_ne {token : String} (h : ∀ key, annotationToken key ≠ token) :
    (nameValues volume (some claim)).get? token = (trusted volume claim).get? token := by
  refine Dict.get?_insertAll_of_ne fun pair hpair => ?_
  obtain ⟨⟨key, value⟩, -, rfl⟩ := List.mem_map.1 hpair
  exact h key

/-- The token of an annotation has the annotation's value, if it has one. -/
theorem get?_nameValues_annotationToken (distinct : Dict.IsMap claim.annotations) (key : String) :
    (nameValues volume (some claim)).get? (annotationToken key) = claim.annotations.get? key := by
  have untrusted : (trusted volume claim).get? (annotationToken key) = none := by
    have ne {token : String} (short : token.toList.length < 19) : annotationToken key ≠ token :=
      annotationToken_ne short key
    rw [trusted, Dict.get?_insert, if_neg (ne (by decide)), namespaceValues, Dict.get?_cons,
      if_neg (ne (by decide)), Dict.get?_cons, if_neg (ne (by decide))]
    rfl
  change (Dict.insertAll (trusted volume claim) (claim.annotations.map fun annotation =>
    (annotationToken annotation.1, annotation.2))).get? (annotationToken key) = _
  rw [Dict.get?_insertAll (distinct.map annotationToken_inj), Dict.get?_map annotationToken_inj,
    untrusted, Option.or_none]

/-- The name of a volume, and the name and namespace of its claim, are what they are, whatever the
annotations are. -/
theorem get?_nameValues_trusted (volume : String) (claim : Claim) :
    (nameValues volume (some claim)).get? "pv.name" = some volume ∧
    (nameValues volume (some claim)).get? "pvc.name" = some claim.name ∧
    (nameValues volume (some claim)).get? "pvc.namespace" = some claim.«namespace» := by
  refine ⟨?_, ?_, ?_⟩ <;> rw [get?_nameValues_of_ne (annotationToken_ne (by decide))] <;> rfl

/-- Two claims that differ in annotations only give a token the same value, if they agree on the
annotation that it stands for. -/
theorem get?_nameValues_congr (name : a.name = b.name) (ns : a.«namespace» = b.«namespace»)
    (distinct : Dict.IsMap a.annotations) (distinct' : Dict.IsMap b.annotations) {token : String}
    (agree : ∀ key, annotationToken key = token → a.annotations.get? key = b.annotations.get? key) :
    (nameValues volume (some a)).get? token = (nameValues volume (some b)).get? token := by
  by_cases h : ∃ key, annotationToken key = token
  · obtain ⟨key, rfl⟩ := h
    rw [get?_nameValues_annotationToken distinct, get?_nameValues_annotationToken distinct',
      agree key rfl]
  · have plain : ∀ key, annotationToken key ≠ token := fun key same => h ⟨key, same⟩
    have same : trusted volume a = trusted volume b := by
      rw [trusted, trusted, name, namespaceValues, namespaceValues, ns]
    rw [get?_nameValues_of_ne plain, get?_nameValues_of_ne plain, same]

/-! ## Two steps -/

/-- The namespace that a template gives, which is that of a claim at most. -/
def Templates.locate (t : Templates) (volume : String) (claim : Option Claim) :
    Except Error String := do
  let ns ← fillTemplate t.«namespace» (namespaceValues volume claim)
  if ! isLabel ns then throw (.invalidName t.«namespace» ns "namespace name")
  return ns

/-- The secret that a template names in a namespace. -/
def Templates.nameIn (t : Templates) (ns volume : String) (claim : Option Claim) :
    Except Error Reference := do
  let name ← fillTemplate t.name (nameValues volume claim)
  if ! isDomain name then throw (.invalidName t.name name "secret name")
  return ⟨ns, name⟩

theorem Templates.resolve_eq (t : Templates) (volume : String) (claim : Option Claim) :
    t.resolve volume claim = t.locate volume claim >>= fun ns => t.nameIn ns volume claim := by
  rw [resolve, locate]
  cases fillTemplate t.«namespace» (namespaceValues volume claim) with
  | error e => rfl
  | ok ns =>
    change (if ! isLabel ns then _ else _) = (if ! isLabel ns then _ else _) >>= _
    split <;> rfl

/-- The templates of a storage class, under the given keys or failing any under the shared ones. -/
def Keys.chosen (keys : Keys) (parameters : Dict) : Except Error (Option Templates) := do
  match ← keys.templates parameters with
  | some t => return some t
  | none => sharedKeys.templates parameters

/-- Where a secret is looked for, and by which templates; nowhere if the storage class names no
secret. -/
def Keys.location (keys : Keys) (parameters : Dict) (volume : String) (claim : Option Claim) :
    Except Error (Option (Templates × String)) := do
  match ← keys.chosen parameters with
  | some t => return some (t, ← t.locate volume claim)
  | none => return none

/-- A secret is named only once it is known where to look for it. -/
theorem Keys.reference_eq (keys : Keys) (parameters : Dict) (volume : String)
    (claim : Option Claim) :
    keys.reference parameters volume claim = (do
      match ← keys.location parameters volume claim with
      | some (t, ns) => some <$> t.nameIn ns volume claim
      | none => return none) := by
  have named (t : Templates) : some <$> t.resolve volume claim =
      (do return some (t, ← t.locate volume claim) : Except Error (Option (Templates × String)))
        >>= fun
          | some (t, ns) => some <$> t.nameIn ns volume claim
          | none => return none := by
    rw [Templates.resolve_eq]
    cases t.locate volume claim <;> rfl
  rw [reference, location, chosen]
  cases keys.templates parameters with
  | error e => rfl
  | ok own =>
    cases own with
    | some t => exact named t
    | none =>
      cases sharedKeys.templates parameters with
      | error e => rfl
      | ok shared =>
        cases shared with
        | some t => exact named t
        | none => rfl

/-- Whatever the claim is, no secret is named if and only if the storage class has no templates. -/
theorem Keys.reference_eq_none_iff {keys : Keys} {parameters : Dict} {volume : String}
    {claim : Option Claim} :
    keys.reference parameters volume claim = .ok none ↔ keys.chosen parameters = .ok none := by
  rw [reference_eq, location]
  cases keys.chosen parameters with
  | error e => exact iff_of_false nofun nofun
  | ok chosen =>
    cases chosen with
    | none => exact iff_of_true rfl rfl
    | some t =>
      refine iff_of_false (fun h => ?_) nofun
      change (t.locate volume claim >>= _) >>= _ = _ at h
      cases located : t.locate volume claim with
      | error e =>
        rw [located] at h
        cases h
      | ok ns =>
        rw [located] at h
        obtain ⟨_, -, ⟨⟩⟩ := map_eq_ok_iff.1 h

/-! ## Tenants -/

/-- Of a claim, only its namespace decides where a secret is looked for. -/
theorem Keys.location_congr (keys : Keys) (parameters : Dict) (volume : String)
    (same : a.«namespace» = b.«namespace») :
    keys.location parameters volume (some a) = keys.location parameters volume (some b) := by
  have locate (t : Templates) : t.locate volume (some a) = t.locate volume (some b) := by
    rw [Templates.locate, Templates.locate, namespaceValues, namespaceValues, same]
  rw [location, location]
  simp only [locate]

/-- A secret is named in the namespace where it is looked for. -/
theorem Templates.namespace_of_nameIn {t : Templates} {ns : String} {claim : Option Claim}
    {r : Reference} (h : t.nameIn ns volume claim = .ok r) : r.«namespace» = ns := by
  obtain ⟨name, -, h⟩ := bind_eq_ok_iff.1 h
  split at h
  · cases h
  · cases h
    rfl

/-- What two claims of one namespace come to: no secret is named, or the same error keeps both from
a namespace, or both have a secret named in the same one. -/
theorem Keys.reference_cases (keys : Keys) (parameters : Dict) (volume : String)
    (same : a.«namespace» = b.«namespace») :
    (keys.reference parameters volume (some a) = .ok none ∧
      keys.reference parameters volume (some b) = .ok none) ∨
    (∃ e, keys.location parameters volume (some a) = .error e ∧
      keys.reference parameters volume (some a) = .error e ∧
      keys.reference parameters volume (some b) = .error e) ∨
    (∃ t ns, keys.location parameters volume (some a) = .ok (some (t, ns)) ∧
      keys.reference parameters volume (some a) = some <$> t.nameIn ns volume (some a) ∧
      keys.reference parameters volume (some b) = some <$> t.nameIn ns volume (some b)) := by
  have one := keys.location_congr parameters volume same
  rw [reference_eq, reference_eq, ← one]
  match keys.location parameters volume (some a) with
  | .error e => exact .inr (.inl ⟨e, rfl, rfl, rfl⟩)
  | .ok none => exact .inl ⟨rfl, rfl⟩
  | .ok (some (t, ns)) => exact .inr (.inr ⟨t, ns, rfl, rfl, rfl⟩)

/-- The templates are chosen before a namespace is looked for. -/
theorem Keys.chosen_of_location {keys : Keys} {parameters : Dict} {claim : Option Claim}
    {t : Templates} {ns : String}
    (h : keys.location parameters volume claim = .ok (some (t, ns))) :
    keys.chosen parameters = .ok (some t) := by
  obtain ⟨chosen, told, h⟩ := bind_eq_ok_iff.1 h
  cases chosen with
  | none => cases h
  | some t' =>
    obtain ⟨ns', -, h⟩ := bind_eq_ok_iff.1 h
    cases h
    exact told

/-- A name depends on the annotations in its template only. -/
theorem Templates.nameIn_congr (t : Templates) (ns volume : String) (name : a.name = b.name)
    (same : a.«namespace» = b.«namespace») (distinct : Dict.IsMap a.annotations)
    (distinct' : Dict.IsMap b.annotations)
    (agree : ∀ key, annotationToken key ∈ Template.tokens (Template.scan t.name.toList) →
      a.annotations.get? key = b.annotations.get? key) :
    t.nameIn ns volume (some a) = t.nameIn ns volume (some b) := by
  have filled : fillTemplate t.name (nameValues volume (some a)) =
      fillTemplate t.name (nameValues volume (some b)) := by
    rw [fillTemplate, fillTemplate, Template.resolve_congr fun token h => ?_]
    refine get?_nameValues_congr name same distinct distinct' ?_
    rintro key rfl
    exact agree key h
  rw [nameIn, nameIn, filled]

/-- **Tenants.** Let two claims be of one namespace. Their secrets are looked for in one namespace,
or an error or the storage class keeps both from having any. They have the same secret if they go by
one name as well and agree on the annotations that the template of the name asks for. What stands
for the name of a volume, or the name and namespace of a claim, is no annotation's to change. -/
theorem references_confined (keys : Keys) (parameters : Dict) (volume : String) {a b : Claim}
    (same : a.«namespace» = b.«namespace») :
    ((keys.reference parameters volume (some a) = .ok none ∧
        keys.reference parameters volume (some b) = .ok none) ∨
      (∃ e, keys.location parameters volume (some a) = .error e ∧
        keys.reference parameters volume (some a) = .error e ∧
        keys.reference parameters volume (some b) = .error e) ∨
      (∃ t ns, keys.location parameters volume (some a) = .ok (some (t, ns)) ∧
        keys.reference parameters volume (some a) = some <$> t.nameIn ns volume (some a) ∧
        keys.reference parameters volume (some b) = some <$> t.nameIn ns volume (some b))) ∧
    (∀ r r', keys.reference parameters volume (some a) = .ok (some r) →
      keys.reference parameters volume (some b) = .ok (some r') →
      r.«namespace» = r'.«namespace») ∧
    (a.name = b.name → Dict.IsMap a.annotations → Dict.IsMap b.annotations →
      (∀ t, keys.chosen parameters = .ok (some t) → ∀ key,
        annotationToken key ∈ Template.tokens (Template.scan t.name.toList) →
        a.annotations.get? key = b.annotations.get? key) →
      keys.reference parameters volume (some a) = keys.reference parameters volume (some b)) ∧
    ∀ claim : Claim, (nameValues volume (some claim)).get? "pv.name" = some volume ∧
      (nameValues volume (some claim)).get? "pvc.name" = some claim.name ∧
      (nameValues volume (some claim)).get? "pvc.namespace" = some claim.«namespace» := by
  have cases := keys.reference_cases parameters volume same
  refine ⟨cases, ?_, ?_, get?_nameValues_trusted volume⟩
  · intro r r' found found'
    rcases cases with ⟨none, -⟩ | ⟨e, -, failed, -⟩ | ⟨t, ns, -, named, named'⟩
    · rw [none] at found
      cases found
    · rw [failed] at found
      cases found
    · obtain ⟨_, named, ⟨⟩⟩ := map_eq_ok_iff.1 (named.symm.trans found)
      obtain ⟨_, named', ⟨⟩⟩ := map_eq_ok_iff.1 (named'.symm.trans found')
      rw [Templates.namespace_of_nameIn named, Templates.namespace_of_nameIn named']
  · intro name distinct distinct' agree
    rcases cases with ⟨none, none'⟩ | ⟨e, -, failed, failed'⟩ | ⟨t, ns, located, named, named'⟩
    · rw [none, none']
    · rw [failed, failed']
    · have asked := agree t (Keys.chosen_of_location located)
      rw [named, named', t.nameIn_congr ns volume name same distinct distinct' asked]

/-! A class that asks for the team of a claim, and annotations that look like tokens. -/

def teamClass : Dict :=
  [("csi.storage.k8s.io/node-stage-secret-name",
      "$\x7bpvc.name\x7d-$\x7bpvc.annotations['team']\x7d"),
    ("csi.storage.k8s.io/node-stage-secret-namespace", "$\x7bpvc.namespace\x7d")]

def teamTemplates : Templates :=
  ⟨"$\x7bpvc.name\x7d-$\x7bpvc.annotations['team']\x7d", "$\x7bpvc.namespace\x7d"⟩

def plainClaim : Claim := ⟨"data", "blue", [("team", "x")]⟩

def forgedClaim : Claim :=
  ⟨"data", "blue", [("pvc.namespace", "red"), ("team", "x"), ("x'] pvc.namespace", "red")]⟩

theorem references_confined_forged_annotations :
    (∀ r r', stageKeys.reference teamClass "pv-1" (some plainClaim) = .ok (some r) →
      stageKeys.reference teamClass "pv-1" (some forgedClaim) = .ok (some r') →
      r.«namespace» = r'.«namespace») ∧
    stageKeys.reference teamClass "pv-1" (some plainClaim) = .ok (some ⟨"blue", "data-x"⟩) ∧
    stageKeys.reference teamClass "pv-1" (some forgedClaim) = .ok (some ⟨"blue", "data-x"⟩) := by
  have confined := references_confined stageKeys teamClass "pv-1"
    (show plainClaim.«namespace» = forgedClaim.«namespace» from rfl)
  obtain ⟨-, apart, equal, -⟩ := confined
  have plain : stageKeys.reference teamClass "pv-1" (some plainClaim) =
      .ok (some ⟨"blue", "data-x"⟩) := toOption_eq_some_iff.1 (by decide +kernel)
  have chosen : stageKeys.chosen teamClass = .ok (some teamTemplates) :=
    toOption_eq_some_iff.1 (by decide +kernel)
  have asked : Template.tokens (Template.scan teamTemplates.name.toList) =
      ["pvc.name", annotationToken "team"] := by decide +kernel
  have same := equal rfl (by decide) (by decide) ?_
  · exact ⟨apart, plain, same ▸ plain⟩
  · intro t told key hkey
    obtain rfl : teamTemplates = t := Option.some.inj (Except.ok.inj (chosen.symm.trans told))
    rw [asked, List.mem_cons, List.mem_singleton] at hkey
    rcases hkey with other | team
    · exact absurd other (annotationToken_ne (by decide) key)
    · rw [annotationToken_inj key "team" team]
      rfl

end FuseVolumes.Secret
