import Scaffold.Proofs.Settled

/-!
Which values rendering asks for. A placeholder asks for the value of its key if it stands in text
that is not suppressed or in a bracket, and if nothing before it has failed. Rendering is postponed
exactly if it asks for a value that is not available yet.
-/

namespace Scaffold

open Failure (IsGenuine IsFilterFault IsRenderFault)
open Step (Fails Refuses)

namespace Filter

theorem refuses_standard {entry : Text × Filter} (hentry : entry ∈ standard) (v : Value) :
    Refuses IsFilterFault (entry.2 v) := by
  have hlines : Refuses IsFilterFault (lines v) := by
    unfold lines
    split
    · exact Step.refuses_ok _
    · exact Step.refuses_ok _
    · exact Step.refuses_ok _
    · exact Step.refuses_ok _
    · split
      · exact Step.refuses_ok _
      · exact Step.refuses_error .unsupported
  simp only [standard, List.mem_cons, List.not_mem_nil, or_false] at hentry
  rcases hentry with rfl | rfl | rfl | rfl | rfl | rfl | rfl | rfl
  case inr.inr.inr.inr.inr.inr.inr => exact hlines
  all_goals exact Step.refuses_ok _

theorem refuses_applyAll (v : Value) (names : List Text) :
    Refuses IsFilterFault (applyAll standard v names) := by
  induction names generalizing v with
  | nil => exact Step.refuses_ok v
  | cons name rest ih =>
      unfold applyAll
      split
      · exact Step.refuses_error (.unknownFilter name)
      · rename_i filter hfilter
        exact (refuses_standard (Keyed.mem_of_get? hfilter) v).bind ih

end Filter

namespace Setting

variable {s : Setting} {tokens : List Token} {sheet : Sheet} {key : Text} {asked : Changes}

/-- Replacing the placeholders among tokens, from some changes of lists on, asks for the value of a
key. `asked` are the changes at that moment. -/
inductive AsksWithin (s : Setting) : List Token → Changes → Text → Changes → Prop where
  | here {inside key : Text} {names : List Text} {rest : List Token} {changes : Changes}
      (hparts : parts inside = key :: names) :
      AsksWithin s (.placeholder inside :: rest) changes key changes
  | later {token : Token} {text key : Text} {rest : List Token} {changes next asked : Changes}
      (htoken : s.expandToken token changes = .ok text next)
      (hrest : AsksWithin s rest next key asked) : AsksWithin s (token :: rest) changes key asked

/-- Rendering tokens from a sheet on asks for the value of a key: in a placeholder that is not
suppressed, in a bracket, or behind a token that is rendered without failure. -/
inductive Asks (s : Setting) : List Token → Sheet → Text → Changes → Prop where
  | placeholder {inside key : Text} {names : List Text} {rest : List Token} {sheet : Sheet}
      (hshown : s.suppresses sheet.flags = false) (hparts : parts inside = key :: names) :
      Asks s (.placeholder inside :: rest) sheet key sheet.changes
  | bracket {inside key : Text} {rest : List Token} {sheet : Sheet} {asked : Changes}
      (hhandler : s.handler.isSome = true)
      (hdirective : AsksWithin s (Template.tokens (Template.core inside)) sheet.changes key asked) :
      Asks s (.bracket inside :: rest) sheet key asked
  | later {token : Token} {text key : Text} {rest : List Token} {sheet next : Sheet}
      {asked : Changes} (htoken : s.renderToken token sheet = .ok text next)
      (hrest : Asks s rest next key asked) : Asks s (token :: rest) sheet key asked

theorem substitute_of_late {inside : Text} {names : List Text}
    (hparts : parts inside = key :: names) (hlate : Value.IsLate s.context key asked) :
    ∃ after, s.substitute inside asked = .error (s.reported key (.foreign .postponed)) after := by
  obtain ⟨after, hlookup⟩ := hlate
  refine ⟨after, ?_⟩
  rw [s.substitute_of_parts hparts]
  refine Step.bind_of_error ?_ _
  rw [mapFailure, hlookup]

theorem refuses_inserted (hfilters : s.filters = Filter.standard) (inside key : Text)
    (names : List Text) (found : Option Value) :
    Refuses (fun failure => IsRenderFault failure ∧ IsGenuine failure)
      (s.inserted inside key names found) := by
  intro failure h
  unfold inserted at h
  split at h
  · rename_i v
    rw [hfilters] at h
    have hfault := (Filter.refuses_applyAll v names).map _ h
    exact ⟨hfault.isRenderFault, hfault.isGenuine⟩
  · split at h
    · cases h
    · cases h
    · cases h
      exact ⟨.template _, rfl⟩

theorem reported_of_genuine {failure : Failure} (h : failure ≠ .foreign .postponed) :
    s.reported key failure = failure :=
  if_neg fun hpostponed => h hpostponed.1

theorem exists_key_of_substitute {inside : Text} {failure : Failure} {after : Changes}
    (hfilters : s.filters = Filter.standard) (h : s.substitute inside asked = .error failure after)
    (hfailure : ¬ IsGenuine failure) :
    ∃ key names, parts inside = key :: names ∧ Value.IsLate s.context key asked := by
  cases hparts : parts inside with
  | nil =>
      rw [substitute, hparts] at h
      cases h
  | cons key names =>
      refine ⟨key, names, rfl, ?_⟩
      rw [s.substitute_of_parts hparts] at h
      rcases Step.bind_eq_error_iff.mp h with hlookup | ⟨found, next, -, hinserted⟩
      · obtain ⟨cause, hcause, rfl⟩ := Step.mapFailure_eq_error_iff.mp hlookup
        obtain ⟨fault, rfl⟩ := Value.fails_lookup _ _ hcause
        by_cases hpostponed : fault = .postponed
        · exact ⟨after, hpostponed ▸ hcause⟩
        · rw [reported_of_genuine (by simpa using hpostponed)] at hfailure
          cases fault with
          | postponed => exact absurd rfl hpostponed
          | _ => exact absurd rfl hfailure
      · obtain ⟨hinserted, -⟩ := Step.lift_eq_error_iff.mp hinserted
        exact absurd (refuses_inserted hfilters _ _ _ _ hinserted).2 hfailure

theorem fails_substitute (hfilters : s.filters = Filter.standard) (inside : Text) :
    Fails IsRenderFault (s.substitute inside) := by
  unfold substitute
  split
  · exact Step.fails_pure _
  · rename_i key names _
    refine Step.Fails.bind ?_ fun found =>
      Step.fails_lift ((refuses_inserted hfilters inside key names found).imp fun _ h => h.1)
    intro changes after failure h
    obtain ⟨cause, hcause, rfl⟩ := Step.mapFailure_eq_error_iff.mp h
    obtain ⟨fault, rfl⟩ := Value.fails_lookup _ _ hcause
    unfold reported
    split
    · exact .template _
    · exact .value _

/-- Another setting does what the first one does without failure, and fails for the value of a key
after some changes of lists. -/
structure FailsFor (s other : Setting) (key : Text) (asked : Changes) (failure : Failure) :
    Prop where
  handler : other.handler = s.handler
  heedsFrames : other.heedsFrames = s.heedsFrames
  expandToken : ∀ {token changes text next}, s.expandToken token changes = .ok text next →
    other.expandToken token changes = .ok text next
  renderToken : ∀ {token sheet text next}, s.renderToken token sheet = .ok text next →
    other.renderToken token sheet = .ok text next
  substitute : ∀ {inside names}, parts inside = key :: names →
    ∃ after, other.substitute inside asked = .error failure after

theorem FailsFor.expandTokens {other : Setting} {failure : Failure} {changes : Changes}
    (h : FailsFor s other key asked failure) (hasks : s.AsksWithin tokens changes key asked) :
    ∃ after, other.expandTokens tokens changes = .error failure after := by
  induction hasks with
  | here hparts =>
      obtain ⟨after, hsubstitute⟩ := h.substitute hparts
      exact ⟨after, Step.bind_of_error hsubstitute _⟩
  | later htoken _ ih =>
      obtain ⟨after, hrest⟩ := ih h
      refine ⟨after, ?_⟩
      rw [Setting.expandTokens, Step.bind_of_ok (h.expandToken htoken)]
      exact Step.bind_of_error hrest _

theorem FailsFor.renderTokens {other : Setting} {failure : Failure}
    (h : FailsFor s other key asked failure) (hasks : s.Asks tokens sheet key asked) :
    ∃ last, other.renderTokens tokens sheet = .error failure last := by
  induction hasks with
  | @placeholder inside key names rest sheet hshown hparts =>
      have hshown' : other.suppresses sheet.flags = false := by
        rw [suppresses, h.heedsFrames]
        exact hshown
      obtain ⟨after, hsubstitute⟩ := h.substitute hparts
      refine ⟨{ sheet with changes := after }, Step.bind_of_error ?_ _⟩
      rw [renderToken_of_inserted _ (.inl rfl), hshown', if_neg Bool.false_ne_true]
      exact Rendering.looking_eq_error_iff.mpr ⟨after, hsubstitute, rfl⟩
  | @bracket inside key rest sheet asked hhandler hdirective =>
      obtain ⟨handle, hhandle⟩ := Option.isSome_iff_exists.mp hhandler
      obtain ⟨after, hexpand⟩ := h.expandTokens hdirective
      refine ⟨{ sheet with changes := after }, Step.bind_of_error ?_ _⟩
      rw [other.renderToken_of_handler (h.handler.trans hhandle)]
      exact Step.bind_of_error (Rendering.looking_eq_error_iff.mpr ⟨after, hexpand, rfl⟩) _
  | later htoken _ ih =>
      obtain ⟨last, hlast⟩ := ih h
      refine ⟨last, ?_⟩
      rw [Setting.renderTokens, Step.bind_of_ok (h.renderToken htoken)]
      exact Step.bind_of_error hlast _

theorem failsFor_late (hlate : Value.IsLate s.context key asked) :
    FailsFor s s key asked (s.reported key (.foreign .postponed)) where
  handler := rfl
  heedsFrames := rfl
  expandToken := id
  renderToken := id
  substitute hparts := substitute_of_late hparts hlate

theorem asksWithin_of_expandTokens {failure : Failure} {changes after : Changes}
    (hfilters : s.filters = Filter.standard)
    (h : s.expandTokens tokens changes = .error failure after) (hfailure : ¬ IsGenuine failure) :
    ∃ key asked, s.AsksWithin tokens changes key asked ∧ Value.IsLate s.context key asked := by
  induction tokens generalizing changes with
  | nil => cases h
  | cons token rest ih =>
      rcases Step.bind_eq_error_iff.mp h with htoken | ⟨text, next, htoken, hmore⟩
      · cases token with
        | placeholder inside =>
            obtain ⟨key, names, hparts, hlate⟩ :=
              exists_key_of_substitute hfilters htoken hfailure
            exact ⟨key, changes, .here hparts, hlate⟩
        | letter c => cases htoken
        | bracket inside => cases htoken
      · rcases Step.bind_eq_error_iff.mp hmore with hrest | ⟨more, _, -, hpure⟩
        · obtain ⟨key, asked, hasks, hlate⟩ := ih hrest
          exact ⟨key, asked, .later htoken hasks, hlate⟩
        · cases hpure

theorem fails_emit {P : Failure → Prop} (s : Setting) (t : Text) : Fails P (s.emit t) :=
  Step.fails_get.bind fun _ => Step.fails_ite (Step.fails_pure []) (Step.fails_pure t)

section

variable {P : Failure → Prop} (hsubstitute : ∀ inside, Fails P (s.substitute inside))

include hsubstitute

theorem fails_expandTokens (tokens : List Token) : Fails P (s.expandTokens tokens) := by
  have htoken : ∀ token, Fails P (s.expandToken token) := by
    intro token
    cases token with
    | placeholder inside => exact hsubstitute inside
    | letter | bracket => exact Step.fails_pure _
  induction tokens with
  | nil => exact Step.fails_pure []
  | cons token rest ih =>
      exact (htoken token).bind fun first => ih.bind fun more => Step.fails_pure (first ++ more)

/-- Rendering fails as the replacement of placeholders and the handler do. -/
theorem fails_renderTokens
    (hhandler : ∀ handle, s.handler = some handle → ∀ directive, Fails P (handle directive))
    (tokens : List Token) : Fails P (s.renderTokens tokens) := by
  have htoken : ∀ token, Fails P (s.renderToken token) := by
    intro token
    cases token with
    | letter c => exact s.fails_emit [c]
    | placeholder inside =>
        exact Step.fails_get.bind fun _ =>
          Step.fails_ite (Step.fails_pure []) (Step.fails_focus (hsubstitute inside))
    | bracket inside =>
        cases hhandle : s.handler with
        | none =>
            rw [renderToken, hhandle]
            exact s.fails_emit _
        | some handle =>
            rw [s.renderToken_of_handler hhandle]
            exact (Step.fails_focus (fails_expandTokens hsubstitute _)).bind fun directive =>
              (hhandler handle hhandle directive).bind fun t => s.fails_emit t
  induction tokens with
  | nil => exact Step.fails_pure []
  | cons token rest ih =>
      exact (htoken token).bind fun first => ih.bind fun more => Step.fails_pure (first ++ more)

end

theorem renderTokens_of_asks (hpostpone : s.postpone = true) (hasks : s.Asks tokens sheet key asked)
    (hlate : Value.IsLate s.context key asked) :
    ∃ last, s.renderTokens tokens sheet = .error (.foreign .postponed) last := by
  have hreported : s.reported key (.foreign .postponed) = .foreign .postponed := by
    rw [reported, hpostpone]
    rfl
  exact hreported ▸ (failsFor_late hlate).renderTokens hasks

theorem asks_of_renderToken {token : Token} {failure : Failure} {last : Sheet}
    (hfilters : s.filters = Filter.standard)
    (hhandler : ∀ handle, s.handler = some handle → ∀ directive, Fails IsGenuine (handle directive))
    (h : s.renderToken token sheet = .error failure last) (hfailure : ¬ IsGenuine failure)
    (rest : List Token) :
    ∃ key asked, s.Asks (token :: rest) sheet key asked ∧ Value.IsLate s.context key asked := by
  cases token with
  | letter c => exact absurd (s.fails_emit _ h) hfailure
  | placeholder inside =>
      rw [renderToken_of_inserted _ (.inl rfl)] at h
      split at h
      · cases h
      · rename_i hshown
        obtain ⟨after, hsubstitute, -⟩ := Rendering.looking_eq_error_iff.mp h
        obtain ⟨key, names, hparts, hlate⟩ :=
          exists_key_of_substitute hfilters hsubstitute hfailure
        exact ⟨key, _, .placeholder (by simpa using hshown) hparts, hlate⟩
  | bracket inside =>
      cases hhandle : s.handler with
      | none =>
          rw [renderToken, hhandle] at h
          exact absurd (s.fails_emit _ h) hfailure
      | some handle =>
          rw [s.renderToken_of_handler hhandle] at h
          rcases Step.bind_eq_error_iff.mp h with hlooking | ⟨directive, next, -, hhandled⟩
          · obtain ⟨after, hexpand, -⟩ := Rendering.looking_eq_error_iff.mp hlooking
            obtain ⟨key, asked, hasks, hlate⟩ :=
              asksWithin_of_expandTokens hfilters hexpand hfailure
            exact ⟨key, asked, .bracket (by simp [hhandle]) hasks, hlate⟩
          · have hgenuine : Fails IsGenuine (handle directive >>= s.emit) :=
              (hhandler handle hhandle directive).bind fun t => s.fails_emit t
            exact absurd (hgenuine hhandled) hfailure

theorem asks_of_renderTokens {failure : Failure} {last : Sheet}
    (hfilters : s.filters = Filter.standard)
    (hhandler : ∀ handle, s.handler = some handle → ∀ directive, Fails IsGenuine (handle directive))
    (h : s.renderTokens tokens sheet = .error failure last) (hfailure : ¬ IsGenuine failure) :
    ∃ key asked, s.Asks tokens sheet key asked ∧ Value.IsLate s.context key asked := by
  induction tokens generalizing sheet with
  | nil => cases h
  | cons token rest ih =>
      rcases Step.bind_eq_error_iff.mp h with htoken | ⟨text, next, htoken, hmore⟩
      · exact asks_of_renderToken hfilters hhandler htoken hfailure rest
      · rcases Step.bind_eq_error_iff.mp hmore with hrest | ⟨more, after, -, hpure⟩
        · obtain ⟨key, asked, hasks, hlate⟩ := ih hrest
          exact ⟨key, asked, .later htoken hasks, hlate⟩
        · cases hpure

end Setting

end Scaffold
