import Scaffold.Proofs.Depth
import Scaffold.Proofs.FlagTables
import Scaffold.Proofs.Modes
import Scaffold.Proofs.Numerals
import Scaffold.Proofs.Trees

/-!
What manifests and directives can both say. A table of flags and the directives for its entries lead
to the same flags, in whatever order the directives come and in whatever branches they stand. Only
the tags of a file are collected, so they have to keep their order.
-/

namespace Scaffold

/-- There is no colon in an octal numeral, nor in what may stand around it. -/
theorem Numeral.colon_not_mem_of_octal? {t : Text} {bits : Int} (h : octal? t = some bits) :
    .char ':' ∉ t := by
  obtain ⟨numeral, rfl⟩ := exists_octal_of_octal? h
  intro hcolon
  rcases numeral.mem_text hcolon with hwhite | hother | hdigit
  · exact absurd hwhite (by decide)
  · exact absurd hother (by decide)
  · exact absurd hdigit (by decide)

namespace Directive

/-- The word and the arguments of a directive. -/
def parts : Directive → List Text
  | target path => ["file", path]
  | createOnce => ["create"]
  | skipTag tag => ["skip", tag]
  | skip => ["skip"]
  | unrecorded => ["no-record"]
  | permissions digits => ["perm", digits]
  | branch condition => "if" :: condition
  | otherwise => ["else"]
  | alternative condition => "elif" :: condition
  | close => ["fi"]
  | unknown t => t.splitOn (.char ':')

/-- How a directive is written. -/
def spelling (directive : Directive) : Text := Text.join ":" directive.parts

/-- A directive is read as it was written if there are no colons but those between its parts. -/
theorem ofText_spelling {directive : Directive} (hknown : directive.warnings = [])
    (hparts : ∀ part ∈ directive.parts, .char ':' ∉ part) :
    ofText directive.spelling = directive := by
  have hne : directive.parts ≠ [] := by
    cases directive with
    | unknown t => cases hknown
    | _ => exact List.cons_ne_nil _ _
  rw [ofText, spelling, show (":" : Text) = [.char ':'] from rfl, Text.splitOn_join hparts hne]
  cases directive with
  | unknown t => cases hknown
  | _ => rfl

example : [.target "a/b", .skipTag "docs", .permissions "0o755", .unrecorded].map spelling =
    [("file:a/b" : Text), "skip:docs", "perm:0o755", "no-record"] := by decide

/-- Whether a directive keeps an existing output. -/
def created? : Directive → Option Bool
  | createOnce => some true
  | _ => none

/-- Whether a directive registers the output. -/
def recorded? : Directive → Option Bool
  | unrecorded => some false
  | _ => none

/-- Whether a directive skips the file. -/
def skipped? : Directive → Option Bool
  | skip => some true
  | _ => none

/-- The tag that a directive adds. -/
def tag? : Directive → Option Text
  | skipTag tag => some tag
  | _ => none

variable {directives : List Directive} {flags changed : FileFlags}

/-- Each directive sets one field or adds a tag, and those about branches change the branches. -/
theorem edit_eq_ok {evaluate : Evaluator} {directive : Directive}
    (h : directive.edit evaluate flags = .ok changed) :
    changed = {
      targetPath := directive.target?.getD flags.targetPath
      createOnce := directive.created?.getD flags.createOnce
      record := directive.recorded?.getD flags.record
      skipTags := flags.skipTags ++ directive.tag?.toList
      forceSkip := directive.skipped?.getD flags.forceSkip
      frames := changed.frames
      substitutes := flags.substitutes
      permissions := directive.bits?.getD flags.permissions } := by
  have hbits := permissions_edit h
  rw [← hbits]
  cases directive with
  | branch condition | permissions digits =>
      obtain ⟨_, -, rfl⟩ := Step.map_eq_ok_iff.mp h
      simp [target?, created?, recorded?, tag?, skipped?]
  | otherwise | alternative | close =>
      obtain ⟨_, _, frames, -, -, rfl⟩ := changeInnermost_eq_ok h
      simp [target?, created?, recorded?, tag?, skipped?]
  | _ =>
      obtain rfl := Except.ok.inj h
      simp [target?, created?, recorded?, tag?, skipped?]

theorem Edits.skipTags_eq (h : Edits flags directives changed) :
    changed.skipTags = flags.skipTags ++ directives.filterMap tag? := by
  induction h with
  | nil => exact (List.append_nil _).symm
  | @cons flags next last directive rest evaluate hedit _ ih =>
      have hadded := congrArg FileFlags.skipTags (edit_eq_ok hedit)
      rw [ih, hadded]
      cases htag : directive.tag? with
      | none => rw [List.filterMap_cons_none htag, Option.toList_none, List.append_nil]
      | some tag =>
          rw [List.filterMap_cons_some htag, Option.toList_some, List.append_assoc]
          rfl

/-- After directives each field has the value that was set last, and the tags are all there. -/
theorem Edits.flags_eq (h : Edits flags directives changed) :
    changed = {
      targetPath := (directives.filterMap target?).getLast?.getD flags.targetPath
      createOnce := (directives.filterMap created?).getLast?.getD flags.createOnce
      record := (directives.filterMap recorded?).getLast?.getD flags.record
      skipTags := flags.skipTags ++ directives.filterMap tag?
      forceSkip := (directives.filterMap skipped?).getLast?.getD flags.forceSkip
      frames := changed.frames
      substitutes := flags.substitutes
      permissions := (directives.filterMap bits?).getLast?.getD flags.permissions } := by
  have hcreated := h.view_eq fun hedit => congrArg FileFlags.createOnce (edit_eq_ok hedit)
  have hrecorded := h.view_eq fun hedit => congrArg FileFlags.record (edit_eq_ok hedit)
  have hskipped := h.view_eq fun hedit => congrArg FileFlags.forceSkip (edit_eq_ok hedit)
  have hkeeps : ∀ {evaluate : Evaluator} {directive : Directive} {flags changed : FileFlags},
      directive.edit evaluate flags = .ok changed →
        changed.substitutes = (none : Option Bool).getD flags.substitutes := by
    intro evaluate directive flags changed h
    rw [edit_eq_ok h]
    rfl
  have hsubstitutes := h.view_eq hkeeps
  rw [List.filterMap_none] at hsubstitutes
  rw [← hcreated, ← hrecorded, ← hskipped, ← h.skipTags_eq, ← lastTarget?, ← lastBits?,
    ← h.targetPath_eq, ← h.permissions_eq]
  exact congrArg (fun b => { changed with substitutes := b }) hsubstitutes

/-- Directives report what is not known and change no list. -/
theorem eq_of_handAll {evaluate : LiveEvaluator} {texts : List Text} {sheet last : Sheet}
    (h : handAll (handler evaluate) texts sheet = .ok () last) :
    last = {
      flags := last.flags
      warnings := sheet.warnings ++ (texts.map ofText).flatMap warnings
      changes := sheet.changes } := by
  induction texts generalizing sheet with
  | nil =>
      cases h
      simp
  | cons t rest ih =>
      obtain ⟨answer, middle, hhandle, hrest⟩ := Step.bind_eq_ok_iff.mp h
      have hflags := handler_eq_ok hhandle
      rw [handler_eq, hflags] at hhandle
      injection hhandle with _ hmiddle
      have hlast := ih hrest
      rw [← hmiddle] at hlast
      simpa using hlast

end Directive

namespace FileFlags

open Directive (roleOf word arguments ofText ofText_spelling spelling handler handAll_handler
  Edits tag? Nested IsSound)

/-- Directives that say what an entry of a table says. -/
inductive Matches : Text × Data → List Directive → Prop where
  | target {path : Text} (hpath : .char ':' ∉ path) : Matches ("file", .text path) [.target path]
  | createOnce : Matches ("create", .bool true) [.createOnce]
  | unrecorded : Matches ("record", .bool false) [.unrecorded]
  | skipTags {tags : List Text} (htags : ∀ tag ∈ tags, .char ':' ∉ tag) :
      Matches ("skips", .list (tags.map .text)) (tags.map .skipTag)
  | skip : Matches ("skip", .bool true) [.skip]
  | permissions (digits : Text) : Matches ("perm", .text digits) [.permissions digits]

/-- Texts that say what a table says. Those that are not about branches are the directives for its
entries in any order that keeps the tags in theirs, and the others nest. -/
structure Rephrases (entries : Entries Data) (groups : List (List Directive))
    (own : List Directive) (texts : List Text) : Prop where
  entries : List.Forall₂ Matches entries groups
  perm : own.Perm groups.flatten
  tags : own.filterMap tag? = groups.flatten.filterMap tag?
  own : texts.filter (roleOf · = .keeps) = own.map spelling
  nested : Nested false texts

variable {entry : Text × Data} {entries : Entries Data} {group own : List Directive}
  {groups : List (List Directive)} {texts : List Text} {path : Text}

/-- What is gathered from the directives for an entry if they say something under `key` alone is
gathered from the directives for a table as what the table says under `key`. -/
theorem filterMap_of_matches {α : Type} {gather? : Directive → Option α} {key : Text}
    {read : Data → List α}
    (hmatches : ∀ {entry group}, Matches entry group →
      group.filterMap gather? = if entry.1 = key then read entry.2 else [])
    (hkeys : entries.keys.Nodup) (h : List.Forall₂ Matches entries groups) :
    groups.flatten.filterMap gather? = ((entries.get? key).map read).getD [] := by
  induction h with
  | nil => rfl
  | @cons entry group rest more hentry hrest ih =>
      obtain ⟨hfirst, hkeys⟩ := List.nodup_cons.mp hkeys
      rw [List.flatten_cons, List.filterMap_append, hmatches hentry, ih hkeys, Keyed.get?]
      by_cases hkey : entry.1 = key
      · have habsent : Keyed.get? rest key = none := Keyed.get?_eq_none_iff.mpr (hkey ▸ hfirst)
        rw [if_pos hkey, if_pos hkey, habsent]
        exact List.append_nil _
      · rw [if_neg hkey, if_neg hkey, List.nil_append]

theorem filterMap_skipTag {α : Type} {gather? : Directive → Option α}
    (hgather : ∀ tag, gather? (.skipTag tag) = none) (tags : List Text) :
    (tags.map Directive.skipTag).filterMap gather? = [] := by
  rw [List.filterMap_map]
  exact List.filterMap_eq_nil_iff.mpr fun tag _ => hgather tag

section

variable (h : Matches entry group)

include h

theorem Matches.gathered :
    group.filterMap Directive.target? =
        (if entry.1 = "file" then entry.2.text?.toList else []) ∧
      group.filterMap Directive.created? =
        (if entry.1 = "create" then entry.2.bool?.toList else []) ∧
      group.filterMap Directive.recorded? =
        (if entry.1 = "record" then entry.2.bool?.toList else []) ∧
      group.filterMap Directive.skipped? =
        if entry.1 = "skip" then entry.2.bool?.toList else [] := by
  cases h with
  | skipTags =>
      exact ⟨filterMap_skipTag (fun _ => rfl) _, filterMap_skipTag (fun _ => rfl) _,
        filterMap_skipTag (fun _ => rfl) _, filterMap_skipTag (fun _ => rfl) _⟩
  | _ => exact ⟨rfl, rfl, rfl, rfl⟩

theorem Matches.bits? :
    group.filterMap Directive.bits? =
      if entry.1 = "perm" then entry.2.octal?.toList else [] := by
  cases h with
  | skipTags => exact filterMap_skipTag (fun _ => rfl) _
  | permissions digits =>
      have hbits : (Directive.permissions digits).bits? = Numeral.octal? digits := rfl
      have hread : (Data.text digits).octal? = Numeral.octal? digits := rfl
      rw [if_pos rfl, hread]
      cases hdigits : Numeral.octal? digits with
      | none => rw [List.filterMap_cons_none (hbits.trans hdigits)]; rfl
      | some bits => rw [List.filterMap_cons_some (hbits.trans hdigits)]; rfl
  | _ => rfl

theorem Matches.tag? :
    group.filterMap Directive.tag? =
      if entry.1 = "skips" then entry.2.texts?.getD [] else [] := by
  cases h with
  | @skipTags tags htags =>
      have htexts : (tags.map Data.text).mapM Data.text? = some tags := by
        induction tags with
        | nil => rfl
        | cons tag rest ih =>
            rw [List.map_cons, List.mapM_cons, ih (List.forall_mem_cons.mp htags).2]
            rfl
      rw [if_pos rfl, Data.texts?, htexts, List.filterMap_map]
      exact List.filterMap_some
  | _ => rfl

theorem Matches.ne_subst : entry.1 ≠ "subst" := by
  intro hkey
  cases h <;> (dsimp only at hkey; exact absurd hkey (by decide))

/-- The directives for an entry are read as they are written, and their permissions are a numeral if
there is nothing wrong with the entry. -/
theorem Matches.sound (hclean : ∀ fault, ¬ Faulty path entry fault) {directive : Directive}
    (hmem : directive ∈ group) :
    (directive.role = .keeps ∧ directive.warnings = []) ∧ ofText directive.spelling = directive ∧
      ∀ digits, directive = .permissions digits → ∃ bits, Numeral.octal? digits = some bits := by
  cases h with
  | target hpath =>
      obtain rfl := List.mem_singleton.mp hmem
      refine ⟨⟨rfl, rfl⟩, ofText_spelling rfl ?_, nofun⟩
      exact List.forall_mem_cons.mpr ⟨by decide, List.forall_mem_singleton.mpr hpath⟩
  | skipTags htags =>
      obtain ⟨tag, htag, rfl⟩ := List.mem_map.mp hmem
      refine ⟨⟨rfl, rfl⟩, ofText_spelling rfl ?_, nofun⟩
      exact List.forall_mem_cons.mpr ⟨by decide, List.forall_mem_singleton.mpr (htags tag htag)⟩
  | permissions digits =>
      obtain rfl := List.mem_singleton.mp hmem
      obtain ⟨bits, hbits⟩ : ∃ bits, Numeral.octal? digits = some bits := by
        refine Option.ne_none_iff_exists'.mp fun hnone => ?_
        exact hclean _ (.digits hnone)
      refine ⟨⟨rfl, rfl⟩, ofText_spelling rfl ?_, ?_⟩
      · exact List.forall_mem_cons.mpr ⟨by decide,
          List.forall_mem_singleton.mpr (Numeral.colon_not_mem_of_octal? hbits)⟩
      · rintro _ ⟨⟩
        exact ⟨bits, hbits⟩
  | createOnce | unrecorded | skip =>
      obtain rfl := List.mem_singleton.mp hmem
      exact ⟨⟨rfl, rfl⟩, ofText_spelling rfl (by decide), nofun⟩

end

section

variable (hclean : ∀ entry ∈ entries, ∀ fault, ¬ Faulty path entry fault)
  (h : Rephrases entries groups own texts)

include hclean h

theorem Rephrases.sound {directive : Directive} (hmem : directive ∈ own) :
    (directive.role = .keeps ∧ directive.warnings = []) ∧ ofText directive.spelling = directive ∧
      ∀ digits, directive = .permissions digits → ∃ bits, Numeral.octal? digits = some bits := by
  obtain ⟨group, hgroup, hmem⟩ := List.mem_flatten.mp (h.perm.mem_iff.mp hmem)
  obtain ⟨i, hi, rfl⟩ := List.getElem_of_mem hgroup
  have hlength := h.entries.length_eq
  have hmatches := h.entries.get (i := i) (by omega) hi
  exact hmatches.sound (hclean _ (List.getElem_mem _)) hmem

theorem Rephrases.ofText_own : (texts.filter (roleOf · = .keeps)).map ofText = own := by
  rw [h.own, List.map_map]
  exact (List.map_congr_left fun directive hmem => (h.sound hclean hmem).2.1).trans
    (List.map_id own)

/-- What only the directives for entries tell is told by them. -/
theorem Rephrases.filterMap_texts {α : Type} {gather? : Directive → Option α}
    (hsilent : ∀ directive, directive.role ≠ .keeps → gather? directive = none) :
    (texts.map ofText).filterMap gather? = own.filterMap gather? := by
  rw [← h.ofText_own hclean, List.filterMap_map, List.filterMap_map, List.filterMap_filter]
  refine List.filterMap_congr fun t _ => ?_
  by_cases hrole : roleOf t = .keeps
  · simp [hrole]
  · simp [hrole, hsilent (ofText t) (by rwa [Directive.role_eq_roleOf])]

theorem Rephrases.isSound {evaluate : Evaluator}
    (hconditions : ∀ t ∈ texts, word t = "if" ∨ word t = "elif" →
      ∃ holds, evaluate (arguments t) = .ok holds) :
    ∀ t ∈ texts, IsSound evaluate t := by
  intro t ht
  refine ⟨hconditions t ht, fun hword digits hdigits => ?_⟩
  have hdirective : ofText t = .permissions digits := by
    rw [Directive.ofText_eq, hword, hdigits]
    rfl
  have hrole : roleOf t = .keeps := by
    rw [← Directive.role_eq_roleOf, hdirective]
    rfl
  have hmem : ofText t ∈ own := by
    rw [← h.ofText_own hclean]
    exact List.mem_map_of_mem (List.mem_filter.mpr ⟨ht, by simpa using hrole⟩)
  exact (h.sound hclean hmem).2.2 digits hdirective

theorem Rephrases.warnings : (texts.map ofText).flatMap Directive.warnings = [] := by
  refine List.flatMap_eq_nil_iff.mpr fun directive hmem => ?_
  obtain ⟨t, ht, rfl⟩ := List.mem_map.mp hmem
  by_cases hrole : roleOf t = .keeps
  · have hown : ofText t ∈ own := by
      rw [← h.ofText_own hclean]
      exact List.mem_map_of_mem (List.mem_filter.mpr ⟨ht, by simpa using hrole⟩)
    exact (h.sound hclean hown).1.2
  · rw [← Directive.role_eq_roleOf] at hrole
    cases hdirective : ofText t with
    | unknown _ => simp [hdirective, Directive.role] at hrole
    | _ => rfl

end

/-- Directives for a table tell of each field at most once, which is why their order does not
matter. -/
theorem Rephrases.filterMap_own {α : Type} {gather? : Directive → Option α} {key : Text}
    {read? : Data → Option α}
    (hmatches : ∀ {entry group}, Matches entry group →
      group.filterMap gather? = if entry.1 = key then (read? entry.2).toList else [])
    (hkeys : entries.keys.Nodup) (h : Rephrases entries groups own texts) :
    own.filterMap gather? = ((entries.get? key).bind read?).toList := by
  have hflat : groups.flatten.filterMap gather? =
      ((entries.get? key).map fun d => (read? d).toList).getD [] :=
    filterMap_of_matches hmatches hkeys h.entries
  have hperm := h.perm.filterMap gather?
  rw [hflat] at hperm
  cases hget : entries.get? key with
  | none =>
      rw [hget] at hperm
      exact List.perm_nil.mp hperm
  | some d =>
      rw [hget] at hperm
      change List.Perm _ (read? d).toList at hperm
      rw [Option.bind_some]
      cases hread : read? d with
      | none =>
          rw [hread] at hperm
          exact List.perm_nil.mp hperm
      | some a =>
          rw [hread] at hperm
          exact List.perm_singleton.mp hperm

theorem silent {α : Type} {gather? : Directive → Option α}
    (hbranch : ∀ condition, gather? (.branch condition) = none)
    (hotherwise : gather? .otherwise = none)
    (halternative : ∀ condition, gather? (.alternative condition) = none)
    (hclose : gather? .close = none) (directive : Directive) (h : directive.role ≠ .keeps) :
    gather? directive = none := by
  cases directive with
  | branch condition => exact hbranch condition
  | otherwise => exact hotherwise
  | alternative condition => exact halternative condition
  | close => exact hclose
  | _ => exact absurd rfl h

theorem Rephrases.getLast?_texts {α : Type} {gather? : Directive → Option α} {key : Text}
    {read? : Data → Option α} (hclean : ∀ entry ∈ entries, ∀ fault, ¬ Faulty path entry fault)
    (hsilent : ∀ directive, directive.role ≠ .keeps → gather? directive = none)
    (hmatches : ∀ {entry group}, Matches entry group →
      group.filterMap gather? = if entry.1 = key then (read? entry.2).toList else [])
    (hkeys : entries.keys.Nodup) (h : Rephrases entries groups own texts) :
    ((texts.map ofText).filterMap gather?).getLast? = (entries.get? key).bind read? := by
  rw [h.filterMap_texts hclean hsilent, h.filterMap_own hmatches hkeys]
  cases (entries.get? key).bind read? <;> rfl

theorem Rephrases.get?_subst (h : Rephrases entries groups own texts) :
    entries.get? "subst" = none := by
  refine Keyed.get?_eq_none_iff.mpr fun hkey => ?_
  obtain ⟨entry, hentry, hkey⟩ := List.mem_map.mp hkey
  obtain ⟨i, hi, rfl⟩ := List.getElem_of_mem hentry
  have hlength := h.entries.length_eq
  exact (h.entries.get (i := i) hi (by omega)).ne_subst hkey

/-- What the directives for the entries of a table make of fresh flags is what the table declares. -/
theorem Rephrases.flags_eq (hkeys : entries.keys.Nodup)
    (hclean : ∀ entry ∈ entries, ∀ fault, ¬ Faulty path entry fault)
    (h : Rephrases entries groups own texts) {flags : FileFlags}
    (hedits : Edits {} (texts.map ofText) flags) (hframes : flags.frames = []) :
    flags = overlay {} entries := by
  have htags : (texts.map ofText).filterMap tag? =
      ((entries.get? "skips").map fun d => d.texts?.getD []).getD [] := by
    rw [h.filterMap_texts hclean (silent (fun _ => rfl) rfl (fun _ => rfl) rfl), h.tags]
    exact filterMap_of_matches (fun h => h.tag?) hkeys h.entries
  have htarget := h.getLast?_texts hclean (silent (fun _ => rfl) rfl (fun _ => rfl) rfl)
    (fun h => h.gathered.1) hkeys
  have hcreated := h.getLast?_texts hclean (silent (fun _ => rfl) rfl (fun _ => rfl) rfl)
    (fun h => h.gathered.2.1) hkeys
  have hrecorded := h.getLast?_texts hclean (silent (fun _ => rfl) rfl (fun _ => rfl) rfl)
    (fun h => h.gathered.2.2.1) hkeys
  have hskipped := h.getLast?_texts hclean (silent (fun _ => rfl) rfl (fun _ => rfl) rfl)
    (fun h => h.gathered.2.2.2) hkeys
  have hbits := h.getLast?_texts hclean (silent (fun _ => rfl) rfl (fun _ => rfl) rfl)
    (fun h => h.bits?) hkeys
  rw [hedits.flags_eq, hframes, htags, htarget, hcreated, hrecorded, hskipped,
    hbits, overlay, h.get?_subst]
  cases entries.get? "skips" <;> rfl

theorem faulty_permissions_iff {digits : Text} {fault : SkeletonFault} :
    Faulty path ("perm", .text digits) fault ↔
      Numeral.octal? digits = none ∧ fault = .invalidPermission digits := by
  constructor
  · rw [faulty_iff]
    rintro (⟨_, ⟨⟩, hd, -⟩ | ⟨hkey, -⟩ | ⟨-, _, ⟨⟩, hdigits, rfl⟩)
    · exact absurd rfl hd
    · exact absurd hkey (by decide)
    · exact ⟨hdigits, rfl⟩
  · rintro ⟨hdigits, rfl⟩
    exact .digits hdigits

theorem handler_permissions_eq_error_iff {evaluate : LiveEvaluator} {digits : Text}
    (hcolon : .char ':' ∉ digits) {sheet last : Sheet} {failure : Failure} :
    handler evaluate ("perm:" ++ digits) sheet = .error failure last ↔
      last = sheet ∧ Numeral.octal? digits = none ∧
        failure = .skeleton none (.invalidPermission digits) := by
  have hparts : ∀ part ∈ (Directive.permissions digits).parts, .char ':' ∉ part :=
    List.forall_mem_cons.mpr ⟨by decide, List.forall_mem_singleton.mpr hcolon⟩
  have hspelling : (Directive.permissions digits).spelling = "perm:" ++ digits := by
    rw [spelling, Directive.parts, Text.join_cons_of_ne_nil _ _ (List.cons_ne_nil _ _),
      Text.join_singleton]
    rfl
  have hdirective : ofText ("perm:" ++ digits) = .permissions digits :=
    hspelling ▸ ofText_spelling rfl hparts
  rw [Directive.handler_eq_error_iff, hdirective]
  refine and_congr_right fun _ => ⟨fun hblocked => ?_, ?_⟩
  · cases hblocked with
    | unmatched hclosed hword => cases hword
    | permissions hdigits => exact ⟨hdigits, rfl⟩
  · rintro ⟨hdigits, rfl⟩
    exact .permissions hdigits

/-- To an accepted table permissions can be added unless they are no numeral. -/
theorem ofTable_permissions_eq_error_iff {warnings after : List Warning} {flags : FileFlags}
    {digits : Text} {failure : Failure}
    (hread : ofTable path (.table entries) warnings = .ok flags after) :
    (∃ after, ofTable path (.table (entries ++ [(("perm" : Text), Data.text digits)])) warnings =
        .error failure after) ↔
      Numeral.octal? digits = none ∧ failure = .skeleton none (.invalidPermission digits) := by
  have hclean := (ofTable_eq_ok_iff.mp hread).1
  have hfaulty : ∀ fault,
      FaultyTable path (.table (entries ++ [(("perm" : Text), Data.text digits)])) fault ↔
      Numeral.octal? digits = none ∧ fault = .invalidPermission digits := by
    intro fault
    rw [faultyTable_table_iff, ← @faulty_permissions_iff path]
    constructor
    · rintro ⟨entry, hentry, hfault⟩
      rcases List.mem_append.mp hentry with hentry | hentry
      · exact absurd (.entry hentry hfault) (hclean fault)
      · exact List.mem_singleton.mp hentry ▸ hfault
    · intro hfault
      exact ⟨_, by simp, hfault⟩
  constructor
  · rintro ⟨after, herror⟩
    obtain ⟨fault, hfault, rfl⟩ := faulty_of_ofTable_eq_error herror
    obtain ⟨hdigits, rfl⟩ := (hfaulty fault).mp hfault
    exact ⟨hdigits, rfl⟩
  · rintro ⟨hdigits, rfl⟩
    obtain ⟨_, after, herror⟩ := exists_ofTable_eq_error_iff.mpr ⟨_, (hfaulty _).mpr ⟨hdigits, rfl⟩⟩
    obtain ⟨fault, hfault, rfl⟩ := faulty_of_ofTable_eq_error herror
    obtain ⟨-, rfl⟩ := (hfaulty fault).mp hfault
    exact ⟨after, herror⟩

/-- A table and the directives for its entries lead to the same flags. The directives may come in any
order that keeps the tags in theirs, and any directives about branches that nest may stand between
them. Permissions that can be added to a table can be set by a directive and the other way round. -/
theorem tables_rephrased (evaluate : LiveEvaluator) (path : Text) (warnings noted : List Warning)
    (changes : Changes) :
    (∀ (entries : Entries Data) groups own texts flags after, entries.keys.Nodup →
      ofTable path (.table entries) warnings = .ok flags after →
      Rephrases entries groups own texts →
      (∀ t ∈ texts, word t = "if" ∨ word t = "elif" →
        ∃ holds, evaluate changes (arguments t) = .ok holds) →
      handAll (handler evaluate) texts { flags := {}, warnings := noted, changes := changes } =
        .ok () { flags := flags, warnings := noted, changes := changes }) ∧
    ∀ (entries : Entries Data) flags after digits,
      ofTable path (.table entries) warnings = .ok flags after → .char ':' ∉ digits →
      ∀ sheet failure,
        (∃ after, ofTable path (.table (entries ++ [(("perm" : Text), Data.text digits)])) warnings =
            .error failure after) ↔
          ∃ last, handler evaluate ("perm:" ++ digits) sheet = .error failure last := by
  constructor
  · intro entries groups own texts flags after hkeys hread h hconditions
    obtain ⟨hfaultless, rfl, -⟩ := ofTable_eq_ok_iff.mp hread
    have hclean : ∀ entry ∈ entries, ∀ fault, ¬ Faulty path entry fault :=
      fun entry hentry fault hfault => hfaultless fault (.entry hentry hfault)
    have hfresh : (Sheet.mk {} noted changes).flags.frames = [] ++ [] := rfl
    obtain ⟨last, inner, hlast, hframes, hlength⟩ :=
      Directive.exists_handAll_of_nested h.nested (h.isSound hclean hconditions) hfresh rfl
    obtain rfl := List.eq_nil_of_length_eq_zero hlength
    have hflags := h.flags_eq hkeys hclean (Directive.edits_of_handAll hlast) hframes
    have hsheet := Directive.eq_of_handAll hlast
    rw [h.warnings hclean, List.append_nil, hflags] at hsheet
    have hdeclared : declared entries = overlay {} entries := foldl_overlay hkeys {}
    rw [handAll_handler, hlast, hsheet, show (Data.table entries).entries = entries from rfl,
      hdeclared]
  · intro entries flags after digits hread hcolon sheet failure
    rw [ofTable_permissions_eq_error_iff hread]
    simp only [handler_permissions_eq_error_iff hcolon, exists_eq_left]

/-- A table with two tags. -/
def taggedTable : Entries Data :=
  [("skips", .list [.text "small", .text "quiet"]), ("perm", .text "0755"), ("create", .bool true),
    ("file", .text "tool.sh")]

/-- Directives for its entries, among others about branches. -/
def branchedTexts : List Text :=
  ["perm:0755", "if:ci", "skip:small", "elif:a:b", "file:tool.sh", "else", "fi", "skip:quiet",
    "create"]

theorem nested_branchedTexts : Nested false branchedTexts := by
  have hbody : Nested true [("skip:small" : Text), "elif:a:b", "file:tool.sh", "else"] :=
    .keeps (by decide) (.turns (by decide) (.keeps (by decide) (.turns (by decide) .nil)))
  exact .keeps (by decide) (.block (by decide) hbody (by decide)
    (.keeps (by decide) (.keeps (by decide) .nil)))

theorem rephrases_branchedTexts :
    Rephrases taggedTable
      [[.skipTag "small", .skipTag "quiet"], [.permissions "0755"], [.createOnce],
        [.target "tool.sh"]]
      [.permissions "0755", .skipTag "small", .target "tool.sh", .skipTag "quiet", .createOnce]
      branchedTexts where
  entries :=
    .cons (@Matches.skipTags ["small", "quiet"] (by decide)) (.cons (.permissions _)
      (.cons .createOnce (.cons (.target (by decide)) .nil)))
  perm := by decide
  tags := by decide
  own := by decide
  nested := nested_branchedTexts

theorem tables_rephrased_branched :
    handAll (handler fun _ _ => .ok false) branchedTexts { flags := {} } =
        .ok () {
          flags := { targetPath := "tool.sh", createOnce := true, skipTags := ["small", "quiet"],
                     permissions := 493 } } ∧
      ∃ last, handler (fun _ _ => .ok false) ("perm:" ++ "9") { flags := {} } =
        .error (.skeleton none (.invalidPermission "9")) last := by
  have hread : ofTable "tool" (.table taggedTable) [] =
      .ok { targetPath := "tool.sh", createOnce := true, skipTags := ["small", "quiet"],
            permissions := 493 } [] :=
    rfl
  obtain ⟨hagree, hrefuse⟩ := tables_rephrased (fun _ _ => .ok false) "tool" [] [] []
  refine ⟨hagree taggedTable _ _ _ _ _ (by decide) hread rephrases_branchedTexts
    (fun _ _ _ => ⟨false, rfl⟩), ?_⟩
  refine (hrefuse taggedTable _ _ "9" hread (by decide) { flags := {} } _).mp ?_
  exact (ofTable_permissions_eq_error_iff hread).mpr ⟨rfl, rfl⟩

end FileFlags

end Scaffold
