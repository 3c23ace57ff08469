import Scaffold.Flags.Directive
import Scaffold.Condition
import Scaffold.Proofs.Steps

/-!
The grammar of conditions. The evaluators decide exactly the conditions of the grammar, so a condition
that is not known is not known for any project or package.
-/

namespace Scaffold.Condition

/-- The forms that conditions about a project and about a package have in common. -/
inductive Common : List Text → Prop where
  | skip (tag : Text) : Common ["skip", tag]
  | gen (tag : Text) : Common ["gen", tag]
  | always : Common ["true"]
  | never : Common ["false"]
  | skeleton (name : Text) : Common ["skeleton", "is", name]
  | field (name : Text) : Common ["field", name]
  | fieldValue (name value : Text) (more : List Text) : Common ("field" :: name :: value :: more)

def attributeNames : List Text :=
  ["github-organization", "homepage", "copyright", "bug-reports", "dev-repo", "doc-gen", "doc-api",
    "sphinx-target", "profile"]

/-- The conditions about a project. -/
inductive AboutProject : List Text → Prop where
  | common {tokens : List Text} (h : Common tokens) : AboutProject tokens
  | ci (system : Text) : AboutProject ["ci", system]
  | minEdition : AboutProject ["min-edition"]
  | present {name : Text} (h : name ∈ attributeNames) : AboutProject [name]
  | negation {tokens : List Text} (h : AboutProject tokens) : AboutProject ("not" :: tokens)

/-- The conditions about a package. -/
inductive AboutPackage : List Text → Prop where
  | common {tokens : List Text} (h : Common tokens) : AboutPackage tokens
  | kind (word : Text) : AboutPackage ["kind", "is", word]
  | pack : AboutPackage ["pack"]
  | project {tokens : List Text} (h : AboutProject tokens) : AboutPackage ("project" :: tokens)
  | negation {tokens : List Text} (h : AboutPackage tokens) : AboutPackage ("not" :: tokens)

/-- What is left of a condition behind the negations in front of it. -/
def unnegated : List Text → List Text
  | [] => []
  | word :: rest => if word = "not" then unnegated rest else word :: rest

/-- The failure of a condition that is in no known form. -/
def unknown (subject : Subject) (tokens : List Text) : Failure :=
  .skeleton none (.unknownCondition subject tokens)

/-- The failure of a condition about a package. Behind `project` it is one about the project. -/
def unknownOfPackage (tokens : List Text) : Failure :=
  match unnegated tokens with
  | [] => unknown .package []
  | word :: rest =>
      if word = "project" then unknown .project (unnegated rest) else unknown .package (word :: rest)

/-- An evaluator decides the conditions of a grammar, and it rejects all others. -/
structure Follows (evaluate : Evaluator) (grammar : List Text → Prop)
    (rejection : List Text → Failure) : Prop where
  decides : ∀ tokens, (∃ holds, evaluate tokens = .ok holds) ↔ grammar tokens
  rejects : ∀ tokens failure,
    evaluate tokens = .error failure ↔ ¬ grammar tokens ∧ failure = rejection tokens

theorem follows_of {evaluate : Evaluator} {grammar : List Text → Prop}
    {rejection : List Text → Failure}
    (hcases : ∀ tokens, grammar tokens ∨ evaluate tokens = .error (rejection tokens))
    (hcomplete : ∀ tokens, grammar tokens → ∃ holds, evaluate tokens = .ok holds) :
    Follows evaluate grammar rejection := by
  have hne : ∀ tokens failure, grammar tokens → evaluate tokens ≠ .error failure := by
    intro tokens failure hgrammar herror
    obtain ⟨holds, hholds⟩ := hcomplete tokens hgrammar
    cases hholds.symm.trans herror
  refine ⟨fun tokens => ⟨?_, hcomplete tokens⟩, fun tokens failure => ⟨?_, ?_⟩⟩
  · rintro ⟨holds, h⟩
    refine (hcases tokens).resolve_right fun herror => ?_
    cases h.symm.trans herror
  · intro h
    have hgrammar : ¬ grammar tokens := fun hgrammar => hne tokens failure hgrammar h
    exact ⟨hgrammar, Except.error.inj (h.symm.trans ((hcases tokens).resolve_left hgrammar))⟩
  · rintro ⟨hgrammar, rfl⟩
    exact (hcases tokens).resolve_left hgrammar

theorem common_of_shared? {skip tokens : List Text} {holds : Bool}
    (h : shared? skip tokens = some holds) : Common tokens := by
  unfold shared? at h
  split at h
  · rename_i word
    by_cases halways : word = "true"
    · exact halways ▸ .always
    by_cases hnever : word = "false"
    · exact hnever ▸ .never
    simp [halways, hnever] at h
  · rename_i word tag
    by_cases hskip : word = "skip"
    · exact hskip ▸ .skip tag
    by_cases hgen : word = "gen"
    · exact hgen ▸ .gen tag
    simp [hskip, hgen] at h
  · cases h

theorem attribute?_isSome_iff (name : Text) : (attribute? name).isSome ↔ name ∈ attributeNames := by
  simp [attribute?, attributes, attributeNames]

section

variable {p : Project} {k : Package}

theorem aboutProject_of_ownOfProject? {tokens : List Text} {holds : Bool}
    (h : ownOfProject? p tokens = some holds) : AboutProject tokens := by
  unfold ownOfProject? at h
  split at h
  · rename_i word
    by_cases hedition : word = "min-edition"
    · exact hedition ▸ .minEdition
    rw [if_neg hedition] at h
    refine .present ((attribute?_isSome_iff word).mp ?_)
    cases hattribute : attribute? word with
    | none => simp [hattribute] at h
    | some value => rfl
  · rename_i word argument
    by_cases hci : word = "ci"
    · exact hci ▸ .ci argument
    by_cases hfield : word = "field"
    · exact hfield ▸ .common (.field argument)
    simp [hci, hfield] at h
  · rename_i word first second more
    by_cases hskeleton : word = "skeleton" ∧ first = "is" ∧ more = []
    · obtain ⟨rfl, rfl, rfl⟩ := hskeleton
      exact .common (.skeleton second)
    by_cases hfield : word = "field"
    · exact hfield ▸ .common (.fieldValue first second more)
    simp [hskeleton, hfield] at h
  · cases h

theorem aboutPackage_of_ownOfPackage? {tokens : List Text} {holds : Bool}
    (h : ownOfPackage? k tokens = some holds) : AboutPackage tokens := by
  unfold ownOfPackage? at h
  split at h
  · rename_i word
    by_cases hpack : word = "pack"
    · exact hpack ▸ .pack
    simp [hpack] at h
  · rename_i word argument
    by_cases hfield : word = "field"
    · exact hfield ▸ .common (.field argument)
    simp [hfield] at h
  · rename_i word first second more
    by_cases hskeleton : word = "skeleton" ∧ first = "is" ∧ more = []
    · obtain ⟨rfl, rfl, rfl⟩ := hskeleton
      exact .common (.skeleton second)
    by_cases hkind : word = "kind" ∧ first = "is" ∧ more = []
    · obtain ⟨rfl, rfl, rfl⟩ := hkind
      exact .kind second
    by_cases hfield : word = "field"
    · exact hfield ▸ .common (.fieldValue first second more)
    simp [hskeleton, hkind, hfield] at h
  · cases h

theorem ofProject_cons (p : Project) (word : Text) (rest : List Text) :
    ofProject p (word :: rest) =
      match shared? p.skip (word :: rest) with
      | some holds => .ok holds
      | none =>
          if word = "not" then (ofProject p rest).map Bool.not
          else
            match ownOfProject? p (word :: rest) with
            | some holds => .ok holds
            | none => .error (unknown .project (word :: rest)) := rfl

theorem ofPackage_cons (k : Package) (p : Project) (word : Text) (rest : List Text) :
    ofPackage k p (word :: rest) =
      match shared? p.skip (word :: rest) with
      | some holds => .ok holds
      | none =>
          if word = "not" then (ofPackage k p rest).map Bool.not
          else if word = "project" then ofProject p rest
          else
            match ownOfPackage? k (word :: rest) with
            | some holds => .ok holds
            | none => .error (unknown .package (word :: rest)) := rfl

theorem shared?_of_not_common {skip tokens : List Text} (h : ¬ Common tokens) :
    shared? skip tokens = none := by
  cases hshared : shared? skip tokens with
  | none => rfl
  | some holds => exact absurd (common_of_shared? hshared) h

theorem not_common_not (tokens : List Text) : ¬ Common ("not" :: tokens) := by
  intro h
  generalize hall : ("not" :: tokens : List Text) = all at h
  cases h <;> exact absurd (List.cons.inj hall).1 (by decide)

theorem not_common_project (tokens : List Text) : ¬ Common ("project" :: tokens) := by
  intro h
  generalize hall : ("project" :: tokens : List Text) = all at h
  cases h <;> exact absurd (List.cons.inj hall).1 (by decide)

theorem ofProject_not (p : Project) (tokens : List Text) :
    ofProject p ("not" :: tokens) = (ofProject p tokens).map Bool.not := by
  rw [ofProject_cons, shared?_of_not_common (not_common_not tokens)]
  rfl

theorem ofPackage_not (k : Package) (p : Project) (tokens : List Text) :
    ofPackage k p ("not" :: tokens) = (ofPackage k p tokens).map Bool.not := by
  rw [ofPackage_cons, shared?_of_not_common (not_common_not tokens)]
  rfl

theorem ofPackage_project (k : Package) (p : Project) (tokens : List Text) :
    ofPackage k p ("project" :: tokens) = ofProject p tokens := by
  rw [ofPackage_cons, shared?_of_not_common (not_common_project tokens)]
  rfl

theorem decides_common {tokens : List Text} (h : Common tokens) :
    (∃ holds, ofProject p tokens = .ok holds) ∧ ∃ holds, ofPackage k p tokens = .ok holds := by
  cases h <;> exact ⟨⟨_, rfl⟩, ⟨_, rfl⟩⟩

theorem ofProject_complete {tokens : List Text} (h : AboutProject tokens) :
    ∃ holds, ofProject p tokens = .ok holds := by
  induction h with
  | common h => exact (decides_common (k := { name := [], dir := [] }) h).1
  | ci system => exact ⟨_, rfl⟩
  | minEdition => exact ⟨_, rfl⟩
  | present h =>
      simp only [attributeNames, List.mem_cons, List.not_mem_nil, or_false] at h
      rcases h with rfl | rfl | rfl | rfl | rfl | rfl | rfl | rfl | rfl <;> exact ⟨_, rfl⟩
  | negation _ ih =>
      obtain ⟨holds, hholds⟩ := ih
      exact ⟨!holds, by rw [ofProject_not, hholds]; rfl⟩

theorem ofPackage_complete {tokens : List Text} (h : AboutPackage tokens) :
    ∃ holds, ofPackage k p tokens = .ok holds := by
  induction h with
  | common h => exact (decides_common h).2
  | kind word => exact ⟨_, rfl⟩
  | pack => exact ⟨_, rfl⟩
  | project h =>
      rw [ofPackage_project]
      exact ofProject_complete h
  | negation _ ih =>
      obtain ⟨holds, hholds⟩ := ih
      exact ⟨!holds, by rw [ofPackage_not, hholds]; rfl⟩

theorem unnegated_of_ne {word : Text} (h : word ≠ "not") (rest : List Text) :
    unnegated (word :: rest) = word :: rest :=
  if_neg h

theorem unknownOfPackage_not (tokens : List Text) :
    unknownOfPackage ("not" :: tokens) = unknownOfPackage tokens := rfl

/-- What evaluating a condition about a project comes to, by induction on the negations in front. -/
theorem ofProject_cases (p : Project) (tokens : List Text) :
    AboutProject tokens ∨ ofProject p tokens = .error (unknown .project (unnegated tokens)) := by
  induction tokens with
  | nil => exact .inr rfl
  | cons word rest ih =>
      by_cases hnot : word = "not"
      · subst hnot
        refine ih.imp .negation fun h => ?_
        rw [ofProject_not, h]
        rfl
      rw [ofProject_cons, unnegated_of_ne hnot]
      cases hshared : shared? p.skip (word :: rest) with
      | some holds => exact .inl (.common (common_of_shared? hshared))
      | none =>
          cases hown : ownOfProject? p (word :: rest) with
          | some holds => exact .inl (aboutProject_of_ownOfProject? hown)
          | none => exact .inr (if_neg hnot)

theorem ofPackage_cases (k : Package) (p : Project) (tokens : List Text) :
    AboutPackage tokens ∨ ofPackage k p tokens = .error (unknownOfPackage tokens) := by
  induction tokens with
  | nil => exact .inr rfl
  | cons word rest ih =>
      by_cases hnot : word = "not"
      · subst hnot
        refine ih.imp .negation fun h => ?_
        rw [ofPackage_not, h, unknownOfPackage_not]
        rfl
      by_cases hproject : word = "project"
      · subst hproject
        refine (ofProject_cases p rest).imp .project fun h => ?_
        rw [ofPackage_project, h]
        rfl
      rw [ofPackage_cons, unknownOfPackage, unnegated_of_ne hnot]
      cases hshared : shared? p.skip (word :: rest) with
      | some holds => exact .inl (.common (common_of_shared? hshared))
      | none =>
          cases hown : ownOfPackage? k (word :: rest) with
          | some holds => exact .inl (aboutPackage_of_ownOfPackage? hown)
          | none => exact .inr (by simp [hnot, hproject])

end

/-- Conditions are accepted exactly by grammar. The evaluators decide the conditions of their grammars
and reject all others, in the same way for any project and package: with the tokens behind the
negations, for a package also behind `project` and the negations after it. A negation turns the
result around, so does `gen` that of `skip`, and `project` leads to the project. -/
theorem follows_grammar (p : Project) (k : Package) :
    Follows (ofProject p) AboutProject (fun tokens => unknown .project (unnegated tokens)) ∧
      Follows (ofPackage k p) AboutPackage unknownOfPackage ∧
      (∀ q l tokens failure,
        (ofProject p tokens = .error failure ↔ ofProject q tokens = .error failure) ∧
          (ofPackage k p tokens = .error failure ↔ ofPackage l q tokens = .error failure)) ∧
      (∀ tokens,
        ofProject p ("not" :: tokens) = (ofProject p tokens).map Bool.not ∧
          ofPackage k p ("not" :: tokens) = (ofPackage k p tokens).map Bool.not ∧
          ofPackage k p ("project" :: tokens) = ofProject p tokens) ∧
      (∀ tag,
        ofProject p ["gen", tag] = (ofProject p ["skip", tag]).map Bool.not ∧
          ofPackage k p ["gen", tag] = (ofPackage k p ["skip", tag]).map Bool.not) ∧
      ∀ foreign subject tokens,
        (unknown subject tokens).message foreign =
          "unknown " ++ subject.name ++ " condition " ++ (Text.join ":" tokens).quoted := by
  have hproject : ∀ p, Follows (ofProject p) AboutProject
      (fun tokens => unknown .project (unnegated tokens)) :=
    fun p => follows_of (ofProject_cases p) fun _ => ofProject_complete
  have hpackage : ∀ k p, Follows (ofPackage k p) AboutPackage unknownOfPackage :=
    fun k p => follows_of (ofPackage_cases k p) fun _ => ofPackage_complete
  refine ⟨hproject p, hpackage k p, ?_, ?_, ?_, fun _ _ _ => rfl⟩
  · intro q l tokens failure
    rw [(hproject p).rejects, (hproject q).rejects, (hpackage k p).rejects, (hpackage l q).rejects]
    exact ⟨Iff.rfl, Iff.rfl⟩
  · intro tokens
    exact ⟨ofProject_not p tokens, ofPackage_not k p tokens, ofPackage_project k p tokens⟩
  · intro tag
    have hgen : decide (tag ∉ p.skip) = !decide (tag ∈ p.skip) := decide_not
    exact ⟨congrArg Except.ok hgen, congrArg Except.ok hgen⟩

example : unknownOfPackage ["not", "project", "not", "ci"] = unknown .project ["ci"] := by decide

end Scaffold.Condition
