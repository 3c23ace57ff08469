import Mathlib.Logic.Function.Iterate
import Scaffold.Proofs.BlockSemantics
import Scaffold.Proofs.Conditions
import Scaffold.Proofs.Replays
import Scaffold.Proofs.Trees

/-!
Conditions about fields. A directive is split at its colons, and the value in a condition about a
field is put together again from the pieces. So a field can be asked for any value, one with colons
in it and the empty one too, and to ask for the empty value is not to ask for any. Negations, and
for a package the word that leads to its project, may stand in front.
-/

namespace Scaffold

namespace Text

variable {sep : Letter}

theorem join_splitOn (sep : Letter) (t : Text) : join [sep] (splitOn sep t) = t := by
  rw [splitOn_eq]
  exact List.intercalate_splitOn sep

theorem splitOn_of_notMem {t : Text} (h : sep ∉ t) : splitOn sep t = [t] := by
  have hpieces : ∀ piece ∈ [t], sep ∉ piece := List.forall_mem_singleton.mpr h
  simpa using splitOn_join hpieces (List.cons_ne_nil t [])

theorem splitOn_append_cons (word : Text) (h : sep ∉ word) (rest : Text) :
    splitOn sep (word ++ sep :: rest) = word :: splitOn sep rest := by
  rw [splitOn_append, splitOn_of_notMem h, List.singleton_append]

end Text

namespace Condition

/-- What can be asked about a field of a table. -/
inductive FieldQuery where
  /-- Whether there is a field with the name. -/
  | present (name : Text)
  /-- Whether the field with the name has the value. -/
  | equals (name value : Text)

namespace FieldQuery

/-- The name of the field. -/
def name : FieldQuery → Text
  | present name => name
  | equals name _ => name

/-- How a query is written as a condition. -/
def spelling : FieldQuery → Text
  | present name => "field:" ++ name
  | equals name value => "field:" ++ name ++ ":" ++ value

/-- The answer for the fields of a subject. -/
def answer (fields : Entries Text) : FieldQuery → Bool
  | present name => name ∈ fields.keys
  | equals name value => fields.get? name = some value

/-- The tokens of a query. -/
def tokens : FieldQuery → List Text
  | present name => ["field", name]
  | equals name value => "field" :: name :: value.splitOn (.char ':')

variable {query : FieldQuery}

theorem splitOn_spelling (hname : .char ':' ∉ query.name) :
    query.spelling.splitOn (.char ':') = query.tokens := by
  have hfield : ∀ rest : Text, Text.splitOn (.char ':') ("field:" ++ rest) =
      ("field" : Text) :: rest.splitOn (.char ':') :=
    Text.splitOn_append_cons "field" (by decide)
  cases query with
  | present name =>
      have hwhole : name.splitOn (.char ':') = [name] := Text.splitOn_of_notMem hname
      rw [spelling, hfield, hwhole, tokens]
  | equals name value =>
      have hvalue : Text.splitOn (.char ':') (name ++ ":" ++ value) =
          name :: value.splitOn (.char ':') := by
        rw [List.append_assoc]
        exact Text.splitOn_append_cons name hname value
      rw [spelling, List.append_assoc, List.append_assoc, hfield, ← List.append_assoc, hvalue,
        tokens]

theorem fieldHolds_nil (fields : Entries Text) (name : Text) :
    fieldHolds fields name [] = (present name).answer fields := by
  have hiff : (fields.get? name).isSome ↔ name ∈ fields.keys := by
    rw [← Option.ne_none_iff_isSome, ne_eq, Keyed.get?_eq_none_iff, not_not]
  exact Bool.eq_iff_iff.mpr (hiff.trans decide_eq_true_iff.symm)

/-- There is always a piece of a value, and the pieces put together again are the value. -/
theorem fieldHolds_splitOn (fields : Entries Text) (name value : Text) :
    fieldHolds fields name (value.splitOn (.char ':')) = (equals name value).answer fields := by
  obtain ⟨piece, pieces, hsplit⟩ :=
    List.exists_cons_of_ne_nil (Text.splitOn_ne_nil (.char ':') value)
  have hjoin : Text.join ":" (piece :: pieces) = value := hsplit ▸ Text.join_splitOn _ value
  rw [hsplit, answer, ← hjoin]
  rfl

/-- An evaluator that asks a table for its fields answers the queries about it. -/
theorem evaluate_tokens {evaluate : Evaluator} {fields : Entries Text}
    (hfield : ∀ name pieces,
      evaluate ("field" :: name :: pieces) = .ok (fieldHolds fields name pieces))
    (query : FieldQuery) : evaluate query.tokens = .ok (query.answer fields) := by
  cases query with
  | present name => rw [tokens, hfield, fieldHolds_nil]
  | equals name value => rw [tokens, hfield, fieldHolds_splitOn]

theorem ofProject_tokens (p : Project) (query : FieldQuery) :
    ofProject p query.tokens = .ok (query.answer p.fields) :=
  evaluate_tokens (fun _ pieces => by cases pieces <;> rfl) query

theorem ofPackage_tokens (k : Package) (p : Project) (query : FieldQuery) :
    ofPackage k p query.tokens = .ok (query.answer k.fields) :=
  evaluate_tokens (fun _ pieces => by cases pieces <;> rfl) query

end FieldQuery

/-- So many negations, as they are written in front of a condition. -/
def negations (count : Nat) : Text := (List.replicate count ("not:" : Text)).flatten

theorem negations_succ (count : Nat) : negations (count + 1) = "not:" ++ negations count := by
  rw [negations, List.replicate_succ, List.flatten_cons, negations]

theorem splitOn_negations_append (count : Nat) (t : Text) :
    (negations count ++ t).splitOn (.char ':') =
      List.replicate count ("not" : Text) ++ t.splitOn (.char ':') := by
  induction count with
  | zero => rfl
  | succ count ih =>
      have hsplit : Text.splitOn (.char ':') ("not:" ++ (negations count ++ t)) =
          ("not" : Text) :: (negations count ++ t).splitOn (.char ':') :=
        Text.splitOn_append_cons "not" (by decide) _
      rw [negations_succ, List.append_assoc, hsplit, ih]
      rfl

/-- Each negation turns the result around. -/
theorem evaluate_replicate_not {evaluate : Evaluator}
    (hnot : ∀ tokens, evaluate ("not" :: tokens) = (evaluate tokens).map Bool.not)
    {tokens : List Text} {holds : Bool} (h : evaluate tokens = .ok holds) (count : Nat) :
    evaluate (List.replicate count ("not" : Text) ++ tokens) = .ok (not^[count] holds) := by
  induction count with
  | zero => exact h
  | succ count ih =>
      rw [List.replicate_succ, List.cons_append, hnot, ih, Function.iterate_succ_apply']
      rfl

end Condition

namespace Directive

/-- A handler decides a condition. Behind `if` it opens a branch, which suppresses text unless the
condition holds; behind `elif` it takes the place of that of the innermost branch. -/
structure Decides (evaluate : LiveEvaluator) (condition : Text) (holds : Bool) : Prop where
  opens : ∀ sheet : Sheet, handler evaluate ("if:" ++ condition) sheet =
    .ok [] (sheet.withFrames ((!holds) :: sheet.flags.frames))
  replaces : ∀ (sheet : Sheet) frame outer, sheet.flags.frames = frame :: outer →
    handler evaluate ("elif:" ++ condition) sheet = .ok [] (sheet.withFrames ((!holds) :: outer))

theorem decides_of_evaluate {evaluate : LiveEvaluator} {condition : Text} {holds : Bool}
    (h : ∀ changes, evaluate changes (condition.splitOn (.char ':')) = .ok holds) :
    Decides evaluate condition holds := by
  have hif : Text.splitOn (.char ':') ("if:" ++ condition) =
      ("if" : Text) :: condition.splitOn (.char ':') :=
    Text.splitOn_append_cons "if" (by decide) condition
  have helif : Text.splitOn (.char ':') ("elif:" ++ condition) =
      ("elif" : Text) :: condition.splitOn (.char ':') :=
    Text.splitOn_append_cons "elif" (by decide) condition
  have hbranch : ofText ("if:" ++ condition) = .branch (condition.splitOn (.char ':')) := by
    rw [ofText, hif]
    rfl
  have halternative :
      ofText ("elif:" ++ condition) = .alternative (condition.splitOn (.char ':')) := by
    rw [ofText, helif]
    rfl
  refine ⟨fun sheet => ?_, fun sheet frame outer hframes => ?_⟩
  · rw [handler_apply, hbranch, Step.bind_apply, apply_branch, h]
    rfl
  · rw [handler_apply, halternative, Step.bind_apply, apply_alternative _ _ hframes, h]
    rfl

end Directive

namespace Condition

/-- Fields can be asked for by any value. A handler decides a query about a field, whatever the
value is and however lists have changed, with any number of negations in front of it, each of which
turns the result around. For a package the query is about its own fields, and behind `project` about
those of the project. -/
theorem fields_decided (p : Project) (k : Package) (query : FieldQuery)
    (hname : .char ':' ∉ query.name) (outer inner : Nat) :
    Directive.Decides (fun changes => ofProject (p.after changes))
        (negations outer ++ query.spelling) (not^[outer] (query.answer p.fields)) ∧
      Directive.Decides (fun changes => ofPackage k (p.after changes))
        (negations outer ++ query.spelling) (not^[outer] (query.answer k.fields)) ∧
      Directive.Decides (fun changes => ofPackage k (p.after changes))
        (negations outer ++ "project:" ++ negations inner ++ query.spelling)
        (not^[outer + inner] (query.answer p.fields)) := by
  have hproject : ∀ count changes,
      ofProject (p.after changes) ((negations count ++ query.spelling).splitOn (.char ':')) =
        .ok (not^[count] (query.answer p.fields)) := by
    intro count changes
    rw [splitOn_negations_append, FieldQuery.splitOn_spelling hname, ← p.fields_after changes]
    exact evaluate_replicate_not (ofProject_not _) (FieldQuery.ofProject_tokens _ query) count
  refine ⟨Directive.decides_of_evaluate (hproject outer),
    Directive.decides_of_evaluate fun changes => ?_,
    Directive.decides_of_evaluate fun changes => ?_⟩
  · rw [splitOn_negations_append, FieldQuery.splitOn_spelling hname]
    exact evaluate_replicate_not (ofPackage_not k _) (FieldQuery.ofPackage_tokens k _ query) outer
  · have hsplit : Text.splitOn (.char ':') ("project:" ++ (negations inner ++ query.spelling)) =
        ("project" : Text) :: (negations inner ++ query.spelling).splitOn (.char ':') :=
      Text.splitOn_append_cons "project" (by decide) _
    have hdelegated := (ofPackage_project k (p.after changes) _).trans (hproject inner changes)
    rw [List.append_assoc, List.append_assoc, splitOn_negations_append, hsplit,
      evaluate_replicate_not (ofPackage_not k _) hdelegated, Function.iterate_add_apply]

/-- A package with an empty field, in a project with an address among its fields. -/
def addressed : Project × Package :=
  ({ name := "demo", fields := [("url", "http://a:8/")] },
    { name := "core", dir := "core", fields := [("url", "")] })

theorem fields_decided_addressed :
    Directive.handler (fun changes => ofPackage addressed.2 (addressed.1.after changes))
        "if:field:url:" { flags := {} } =
      .ok [] { flags := { frames := [false] } } ∧
    Directive.handler (fun changes => ofPackage addressed.2 (addressed.1.after changes))
        "elif:not:project:field:url:http://a:8/" { flags := { frames := [false] } } =
      .ok [] { flags := { frames := [true] } } := by
  have hempty := fields_decided addressed.1 addressed.2 (.equals "url" "") (by decide) 0 0
  have hcolons := fields_decided addressed.1 addressed.2 (.equals "url" "http://a:8/") (by decide)
    1 0
  exact ⟨hempty.2.1.opens _, hcolons.2.2.replaces _ _ _ rfl⟩

end Condition

end Scaffold
