import Scaffold.Proofs.Policy
import Scaffold.Proofs.Replays

/-!
Values are inserted once and not read again. What a template consists of is settled before any value
is known: a value fills its place in the text and cannot become a placeholder or a directive.
-/

namespace Scaffold

/-- A piece of a text to be rendered. -/
inductive Piece where
  | literal (t : Text)
  | value (key : Text) (filters : List Text)
  deriving DecidableEq

/-- The piece that a token of the text stands for. A placeholder without a key is literal. -/
def Token.piece : Token → Piece
  | .placeholder inside =>
      match Setting.parts inside with
      | [] => .literal (Token.placeholder inside).source
      | key :: names => .value key names
  | token => .literal token.source

/-- A text is what pieces are with the values in their places. The values are looked up in their
order, from some changes of lists on. -/
inductive Fills (context : Entries Value) (filters : Filters) :
    Changes → List Piece → Text → Changes → Prop where
  | nil {changes : Changes} : Fills context filters changes [] [] changes
  | literal (t : Text) {pieces : List Piece} {more : Text} {changes after : Changes}
      (hrest : Fills context filters changes pieces more after) :
      Fills context filters changes (.literal t :: pieces) (t ++ more) after
  | value {key : Text} {names : List Text} {v w : Value} {pieces : List Piece} {more : Text}
      {changes next after : Changes}
      (hlookup : Value.lookup context key changes = .ok (some v) next)
      (hfilters : Filter.applyAll filters v names = .ok w)
      (hrest : Fills context filters next pieces more after) :
      Fills context filters changes (.value key names :: pieces) (w.inserted ++ more) after

/-- The keys in the brackets of a template. -/
def Template.bracketKeys (template : Text) : List Text :=
  (tokens template).flatMap fun
    | .bracket inside => (tokens (core inside)).filterMap Token.key?
    | _ => []

namespace Setting

/-- The same way to render with other values. -/
def withContext (s : Setting) (context : Entries Value) : Setting := { s with context := context }

variable {s : Setting} {context : Entries Value}

theorem substitute_eq_ok (hmissing : s.missing = .error) {inside text : Text}
    {changes after : Changes} (h : s.substitute inside changes = .ok text after) :
    (parts inside = [] ∧ text = (Token.placeholder inside).source ∧ after = changes) ∨
      ∃ key names v w, parts inside = key :: names ∧
        Value.lookup s.context key changes = .ok (some v) after ∧
        Filter.applyAll s.filters v names = .ok w ∧ text = w.inserted := by
  cases hparts : parts inside with
  | nil =>
      rw [substitute, hparts] at h
      cases h
      exact .inl ⟨rfl, rfl, rfl⟩
  | cons key names =>
      rw [s.substitute_of_parts hparts] at h
      obtain ⟨found, next, hfound, hinserted⟩ := Step.bind_eq_ok_iff.mp h
      have hlookup := Step.mapFailure_eq_ok_iff.mp hfound
      obtain ⟨htext, rfl⟩ := Step.lift_eq_ok_iff.mp hinserted
      cases found with
      | none =>
          rw [inserted, hmissing] at htext
          cases htext
      | some v =>
          obtain ⟨w, hfilters, rfl⟩ := Step.map_eq_ok_iff.mp htext
          exact .inr ⟨key, names, v, w, rfl, hlookup, hfilters, rfl⟩

theorem fills_of_expandTokens (hmissing : s.missing = .error) {tokens : List Token} {text : Text}
    {changes after : Changes} (h : s.expandTokens tokens changes = .ok text after) :
    Fills s.context s.filters changes (tokens.map Token.piece) text after := by
  induction tokens generalizing text changes with
  | nil =>
      cases h
      exact .nil
  | cons token rest ih =>
      obtain ⟨first, next, hfirst, hmore⟩ := Step.bind_eq_ok_iff.mp h
      obtain ⟨more, _, hrest, hlast⟩ := Step.bind_eq_ok_iff.mp hmore
      cases hlast
      rw [List.map_cons]
      cases token with
      | letter c | bracket inside =>
          cases hfirst
          exact .literal _ (ih hrest)
      | placeholder inside =>
          rcases substitute_eq_ok hmissing hfirst with
            ⟨hparts, rfl, rfl⟩ | ⟨key, names, v, w, hparts, hlookup, hfilters, rfl⟩
          · rw [Token.piece, hparts]
            exact .literal _ (ih hrest)
          · rw [Token.piece, hparts]
            exact .value hlookup hfilters (ih hrest)

theorem expandTokens_of_fills {tokens : List Token} {text : Text} {changes after : Changes}
    (h : Fills s.context s.filters changes (tokens.map Token.piece) text after) :
    s.expandTokens tokens changes = .ok text after := by
  induction tokens generalizing text changes with
  | nil =>
      cases h
      rfl
  | cons token rest ih =>
      have hcons : ∀ {first more next}, s.expandToken token changes = .ok first next →
          s.expandTokens rest next = .ok more after →
          s.expandTokens (token :: rest) changes = .ok (first ++ more) after := by
        intro first more next hfirst hrest
        rw [expandTokens, Step.bind_of_ok hfirst, Step.bind_of_ok hrest]
        rfl
      rw [List.map_cons] at h
      cases token with
      | letter c | bracket inside =>
          cases h with
          | literal _ hrest => exact hcons rfl (ih hrest)
      | placeholder inside =>
          rw [Token.piece] at h
          cases hparts : parts inside with
          | nil =>
              rw [hparts] at h
              cases h with
              | literal _ hrest =>
                  refine hcons ?_ (ih hrest)
                  rw [expandToken, substitute, hparts]
                  rfl
          | cons key names =>
              rw [hparts] at h
              cases h with
              | value hlookup hfilters hrest =>
                  refine hcons ?_ (ih hrest)
                  rw [expandToken, s.substitute_of_parts hparts,
                    Step.bind_of_ok (Step.mapFailure_eq_ok_iff.mpr hlookup), inserted, hfilters]
                  rfl

theorem expandToken_congr {token : Token} {changes : Changes}
    (h : ∀ key ∈ token.key?, Value.lookup context key changes = Value.lookup s.context key changes) :
    (s.withContext context).expandToken token changes = s.expandToken token changes := by
  cases token with
  | letter | bracket => rfl
  | placeholder inside =>
      rw [expandToken, expandToken]
      cases hparts : parts inside with
      | nil => rw [substitute, substitute, hparts]
      | cons key names =>
          have hkey : Value.lookup (s.withContext context).context key changes =
              Value.lookup s.context key changes :=
            h key (by rw [Token.key?, hparts, List.head?_cons, Option.mem_some])
          rw [(s.withContext context).substitute_of_parts hparts, s.substitute_of_parts hparts,
            Step.bind_apply,
            Step.bind_apply, mapFailure, mapFailure, hkey]
          rfl

/-- Where no list is changed, only the values after the changes before matter. -/
theorem expandTokens_congr {tokens : List Token} {text : Text} {changes : Changes}
    (hagree : ∀ key ∈ tokens.filterMap Token.key?,
      Value.lookup context key changes = Value.lookup s.context key changes)
    (h : s.expandTokens tokens changes = .ok text changes) :
    (s.withContext context).expandTokens tokens changes = .ok text changes := by
  induction tokens generalizing text with
  | nil => exact h
  | cons token rest ih =>
      have hkeys : ∀ key, key ∈ token.key? ∨ key ∈ rest.filterMap Token.key? →
          Value.lookup context key changes = Value.lookup s.context key changes := by
        intro key hkey
        refine hagree key ?_
        rw [List.filterMap_cons]
        cases htoken : token.key? with
        | none => simpa [htoken] using hkey
        | some first => simpa [htoken, eq_comm] using hkey
      obtain ⟨first, next, hfirst, hmore, hnext, -⟩ := (s.grows_expandToken token).bind_eq_ok
        (fun first => (s.grows_expandTokens rest).bind fun more =>
          Step.extends_pure (first ++ more)) h rfl
      obtain rfl : next = changes := hnext
      obtain ⟨more, _, hrest, hlast⟩ := Step.bind_eq_ok_iff.mp hmore
      cases hlast
      rw [← expandToken_congr fun key hkey => hkeys key (.inl hkey)] at hfirst
      have hrest' := ih (fun key hkey => hkeys key (.inr hkey)) hrest
      rw [expandTokens, Step.bind_of_ok hfirst, Step.bind_of_ok hrest']
      rfl

section

variable {handle : Text → Rendering Text} (hhandler : s.handler = some handle)
  (hhandles : s.Handles)
  (hsilent : ∀ directive sheet answer next, handle directive sheet = .ok answer next → answer = [])

include hhandler hhandles hsilent

/-- With the same texts in brackets a token that changes no list leaves the same sheet, and both times
it is shown or not. -/
theorem shown_token {token : Token} {sheet next next' : Sheet} {text text' : Text}
    (hagree : ∀ inside, token = .bracket inside → ∀ directive,
      s.ExpandsTo sheet.changes inside directive →
        (s.withContext context).ExpandsTo sheet.changes inside directive)
    (h : s.renderToken token sheet = .ok text next) (hkeeps : next.changes = sheet.changes)
    (h' : (s.withContext context).renderToken token sheet = .ok text' next')
    (hkeeps' : next'.changes = sheet.changes) :
    next' = next ∧
      ((text = [] ∧ text' = []) ∨
        token.isBracket = false ∧ s.expandToken token sheet.changes = .ok text sheet.changes ∧
          (s.withContext context).expandToken token sheet.changes = .ok text' sheet.changes) := by
  cases htoken : token.isBracket with
  | true =>
      obtain ⟨inside, rfl⟩ := Token.exists_of_isBracket htoken
      obtain ⟨directive, answer, hexpand, hhandle, rfl⟩ :=
        expandsTo_of_bracket hhandler hhandles h hkeeps
      obtain ⟨directive', answer', hexpand', hhandle', rfl⟩ :=
        expandsTo_of_bracket (s := s.withContext context) hhandler hhandles h' hkeeps'
      cases hexpand'.symm.trans (hagree inside rfl directive hexpand)
      cases hhandle.symm.trans hhandle'
      obtain rfl := hsilent _ _ _ _ hhandle
      exact ⟨rfl, .inl ⟨ite_self _, ite_self _⟩⟩
  | false =>
      obtain rfl := sheet_of_renderToken (.inl htoken) h hkeeps
      obtain rfl := sheet_of_renderToken (s := s.withContext context) (.inl htoken) h' hkeeps'
      have htext := (s.renderToken_inserted_eq_ok_iff (.inl htoken)).mp h
      have htext' := ((s.withContext context).renderToken_inserted_eq_ok_iff (.inl htoken)).mp h'
      change if s.suppresses _ then _ else _ at htext'
      refine ⟨rfl, ?_⟩
      split at htext
      · rename_i hsuppressed
        rw [if_pos hsuppressed] at htext'
        exact .inl ⟨htext.1, htext'.1⟩
      · rename_i hsuppressed
        rw [if_neg hsuppressed] at htext'
        obtain ⟨changes, hexpand, hsame⟩ := htext
        obtain ⟨changes', hexpand', hsame'⟩ := htext'
        obtain rfl : changes = next'.changes := congrArg Sheet.changes hsame
        obtain rfl : changes' = next'.changes := congrArg Sheet.changes hsame'
        exact .inr ⟨rfl, hexpand, hexpand'⟩

/-- Two runs that change no list and replace the placeholders in brackets in the same way leave the
same sheet and show the same tokens. -/
theorem exists_shown {tokens : List Token} {sheet last last' : Sheet} {text text' : Text}
    (hagree : ∀ inside, Token.bracket inside ∈ tokens → ∀ directive,
      s.ExpandsTo sheet.changes inside directive →
        (s.withContext context).ExpandsTo sheet.changes inside directive)
    (h : s.renderTokens tokens sheet = .ok text last) (hkeeps : last.changes = sheet.changes)
    (h' : (s.withContext context).renderTokens tokens sheet = .ok text' last')
    (hkeeps' : last'.changes = sheet.changes) :
    last' = last ∧
      ∃ shown : List Token, shown.Sublist tokens ∧ (∀ token ∈ shown, token.isBracket = false) ∧
        s.expandTokens shown sheet.changes = .ok text sheet.changes ∧
        (s.withContext context).expandTokens shown sheet.changes = .ok text' sheet.changes := by
  induction tokens generalizing sheet text text' with
  | nil =>
      cases h
      cases h'
      exact ⟨rfl, [], .slnil, by simp, rfl, rfl⟩
  | cons token rest ih =>
      obtain ⟨first, middle, more, hfirst, hrest, hmiddle, hlast, rfl⟩ :=
        renderTokens_cons_of_kept hhandles h hkeeps
      obtain ⟨first', middle', more', hfirst', hrest', hmiddle', hlast', rfl⟩ :=
        renderTokens_cons_of_kept (s := s.withContext context) hhandles h' hkeeps'
      have htoken : ∀ inside, token = .bracket inside → _ := fun inside htoken =>
        hagree inside (htoken ▸ List.mem_cons_self)
      obtain ⟨rfl, htexts⟩ :=
        shown_token hhandler hhandles hsilent htoken hfirst hmiddle hfirst' hmiddle'
      have hothers : ∀ inside, Token.bracket inside ∈ rest → _ := fun inside hmem =>
        hagree inside (List.mem_cons_of_mem _ hmem)
      rw [← hmiddle] at hothers
      obtain ⟨rfl, shown, hsublist, hplain, hshown, hshown'⟩ :=
        ih hothers hrest hlast hrest' hlast'
      rw [hmiddle] at hshown hshown'
      rcases htexts with ⟨rfl, rfl⟩ | ⟨hnone, htext, htext'⟩
      · exact ⟨rfl, shown, hsublist.cons _, hplain, hshown, hshown'⟩
      · refine ⟨rfl, token :: shown, hsublist.cons_cons _, ?_, ?_, ?_⟩
        · exact List.forall_mem_cons.mpr ⟨hnone, hplain⟩
        · rw [expandTokens, Step.bind_of_ok htext, Step.bind_of_ok hshown]
          rfl
        · rw [expandTokens, Step.bind_of_ok htext', Step.bind_of_ok hshown']
          rfl

end

/-- A template in which the text behind a value looks like the end of a bracket. -/
def trapTemplate : Text :=
  (Token.placeholder "x").source ++ "% skip %\x7d" ++
    (Token.bracket ("skip:" ++ (Token.placeholder "tag").source)).source

/-- A template that takes the authors of a project away before it inserts them. -/
def clearingTemplate : Text :=
  (Token.placeholder "project.authors.clear").source ++ (Token.placeholder "project.authors").source

/-- A template that takes the items of a list away before a directive names another list. -/
def aliasingTemplate : Text :=
  (Token.placeholder "x.clear").source ++
    (Token.bracket ("file:" ++ (Token.placeholder "y").source)).source

end Setting

end Scaffold
