import Scaffold.Proofs.Changes

/-!
What placing a file changes, whether it succeeds or fails on the way. Directories are made where
nothing stood, and besides them only the place of the file itself is changed. If the file is placed
below a directory, and no link stands on the way from there on, nothing else is changed at all.
-/

namespace Scaffold

/-- The location of names below a directory. -/
def Location.descend (base : Location) (names : Route) : Location :=
  { base with names := base.names ++ names.map Text.decode }

theorem Location.encode_descend (base : Location) (names : Route) :
    (base.descend names).names.map Text.encode = base.names.map Text.encode ++ names := by
  simp [descend, Function.comp_def, Text.encode_decode]

theorem Location.parent_descend (base : Location) {names : Route} (hne : names ≠ []) :
    (base.descend names).parent = base.descend names.dropLast := by
  have hmap : names.map Text.decode ≠ [] := by simpa using hne
  simp [parent, descend, List.dropLast_append_of_ne_nil hmap]

namespace Disk

open Step (state bind_eq_ok_iff lift_eq_ok_iff lift_apply)

section

variable {d d' d'' : Disk} {touched : Path → Prop} {place next : Place} {here p q : Path}
  {name : Bytes} {names rest : Route} {l : Location} {content : Bytes}

/-- An entry that is put below a directory does not change whether names may be looked up there. -/
theorem isShut_put_below (d : Disk) (p : Path) (name : Bytes) (entry : Entry) :
    (d.put (p ++ [name]) entry).isShut p = d.isShut p :=
  isShut_congr (by rw [get?_put, if_neg (by simp)])

theorem changeMode_cases (l : Location) (mode : Nat → Nat) (d : Disk) :
    (∃ failure, changeMode l mode d = .error failure d) ∨
      ∃ p entry, d.find l = .ok (p, entry) ∧
        changeMode l mode d = .ok () (d.put p (withMode mode entry)) := by
  rw [changeMode, Step.get_bind, Step.bind_apply, lift_apply]
  cases d.find l with
  | error failure => exact .inl ⟨failure, rfl⟩
  | ok found => exact .inr ⟨found.1, found.2, rfl, rfl⟩

theorem writeContent_cases (l : Location) (content : Bytes) (d : Disk) :
    (∃ failure, writeContent l content d = .error failure d) ∨
      ∃ p mode, d.locate .create l = .ok p ∧
        writeContent l content d = .ok () (d.put p (.file content mode)) ∧
        ((∃ old oldMode, d.get? p = some (.file old oldMode)) ∨
          d.get? p = none ∧ d.takesEntries p.dropLast = true) := by
  rw [writeContent, Step.get_bind, Step.bind_apply, lift_apply]
  cases hlocate : d.locate .create l with
  | error failure => exact .inl ⟨failure, rfl⟩
  | ok p =>
      dsimp only
      cases hentry : d.get? p with
      | none =>
          dsimp only
          split
          · rename_i htakes
            exact .inr ⟨p, newFileMode, rfl, rfl, .inr ⟨hentry, htakes⟩⟩
          · exact .inl ⟨_, rfl⟩
      | some entry =>
          cases entry with
          | file old oldMode =>
              dsimp only
              split
              · exact .inr ⟨p, withoutSpecialBits oldMode, rfl, rfl, .inl ⟨old, oldMode, hentry⟩⟩
              · exact .inl ⟨_, rfl⟩
          | directory mode => exact .inl ⟨_, rfl⟩
          | link target => exact .inl ⟨_, rfl⟩

/-- Where a name leads to nothing, it leads to the directory that is made there. -/
theorem walk_put_directory {mode : Nat} (hwalk : d.walk .follow place [name] = .error .missing)
    (hnone : d.get? (place.path ++ [name]) = none) :
    (d.put (place.path ++ [name]) (.directory mode)).walk .follow place [name] =
      .ok { place with path := place.path ++ [name] } := by
  obtain ⟨here, links⟩ := place
  have hplace : (d.put (here ++ [name]) (.directory mode)).get? (here ++ [name]) =
      some (.directory mode) := by rw [get?_put, if_pos rfl]
  have hname : d.obstacle? here name = none := obstacle?_of_missing hwalk
  have hname' : (d.put (here ++ [name]) (.directory mode)).obstacle? here name = none :=
    (obstacle?_congr (by rw [get?_put, if_neg (by simp)]) name).trans hname
  have hnames (follow follow' : Path → Route → Except DiskFault Place)
      (h : d.walkNames .follow links follow here [name] = .error .missing) :
      (d.put (here ++ [name]) (.directory mode)).walkNames .follow links follow' here [name] =
        .ok ⟨here ++ [name], links⟩ := by
    simp only [walkNames, hname, hname', hplace] at h ⊢
    dsimp only at hnone
    rw [hnone] at h
    split at h
    · cases h
    split at h
    · cases h
    split at h
    · cases h
    · rename_i hstays hup hlong
      rw [if_neg hstays, if_neg hup, if_neg hlong]
  cases links with
  | zero => exact hnames _ _ hwalk
  | succ links => exact hnames _ _ hwalk

theorem makeNames_of_missing (l : Location) (rest : Route)
    (hwalk : d.walk .follow place [name] = .error .missing)
    (hnone : d.get? (place.path ++ [name]) = none) (htakes : d.takesEntries place.path = true) :
    makeNames l place (name :: rest) d =
      makeNames l { place with path := place.path ++ [name] } rest
        (d.put (place.path ++ [name]) (.directory newDirectoryMode)) := by
  rw [makeNames, Step.get_bind, hwalk]
  dsimp only
  rw [if_neg (by simp [hnone]), if_pos htakes]
  rfl

/-- The next name leads to a directory, or nothing stands there and a directory is made. -/
theorem makeNames_cases (l : Location) (place : Place) (name : Bytes) (rest : Route) (d : Disk) :
    (∃ failure, makeNames l place (name :: rest) d = .error failure d) ∨
      (∃ next, d.walk .follow place [name] = .ok next ∧ d.isDirectory next.path = true ∧
        makeNames l place (name :: rest) d = makeNames l next rest d) ∨
      (d.takesEntries place.path = true ∧ d.get? (place.path ++ [name]) = none ∧
        d.walk .follow place [name] = .error .missing ∧
        makeNames l place (name :: rest) d =
          makeNames l { place with path := place.path ++ [name] } rest
            (d.put (place.path ++ [name]) (.directory newDirectoryMode))) := by
  rw [makeNames, Step.get_bind]
  cases hwalk : d.walk .follow place [name] with
  | ok next =>
      dsimp only
      split
      · rename_i hdirectory
        exact .inr (.inl ⟨next, rfl, hdirectory, rfl⟩)
      · exact .inl ⟨_, rfl⟩
  | error fault =>
      cases fault with
      | missing =>
          dsimp only
          split
          · exact .inl ⟨_, rfl⟩
          rename_i hnew
          split
          · rename_i htakes
            exact .inr (.inr ⟨htakes, by simpa using hnew, rfl, rfl⟩)
          · exact .inl ⟨_, rfl⟩
      | _ => exact .inl ⟨_, rfl⟩

/-- What is made on the way to a directory stands where nothing stood, and in a directory. -/
theorem grows_makeNames (l : Location) (place : Place) (names : Route) :
    Step.Advances (fun d d' => d.Grows (fun _ => True) d' ∧ d.Evolves d')
      (makeNames l place names) := by
  intro d
  induction names generalizing place d with
  | nil => exact ⟨.refl d, .refl d⟩
  | cons name rest ih =>
      rcases makeNames_cases l place name rest d with ⟨failure, hmake⟩ | ⟨next, -, -, hmake⟩ |
        ⟨htakes, hnone, -, hmake⟩
      · rw [hmake]
        exact ⟨.refl d, .refl d⟩
      · rw [hmake]
        exact ih next d
      · rw [hmake]
        obtain ⟨hgrows, hevolves⟩ := ih { place with path := place.path ++ [name] }
          (d.put (place.path ++ [name]) (.directory newDirectoryMode))
        exact ⟨(Grows.put trivial hnone).trans hgrows,
          (Evolves.put_new (isDirectory_of_takesEntries htakes) hnone _).trans hevolves⟩

theorem grows_makeDirectories (l : Location) :
    Step.Advances (fun d d' => d.Grows (fun _ => True) d' ∧ d.Evolves d') (makeDirectories l) :=
  (Step.advances_lift (fun d => ⟨.refl d, .refl d⟩) _).bind
    (fun _ _ _ h h' => ⟨h.1.trans h'.1, h.2.trans h'.2⟩)
    fun _ => Step.advances_get_bind fun _ => grows_makeNames _ _ _

/-- Where the names lead straight on, directories are made on the path that they spell. -/
theorem grows_makeNames_of_isStraight (l : Location) (hstraight : d.IsStraight place.path names) :
    d.Grows (OnTheWay place.path names) (state (makeNames l place names d)) := by
  induction names generalizing place d with
  | nil => exact .refl d
  | cons name rest ih =>
      have hlater : ∀ p, OnTheWay (place.path ++ [name]) rest p →
          OnTheWay place.path (name :: rest) p := by
        rintro p ⟨front, -, hbegins, rfl⟩
        exact ⟨name :: front, by simp, List.cons_prefix_cons.mpr ⟨rfl, hbegins⟩, by simp⟩
      have hopen (h : d.obstacle? place.path name = none) : d.isShut place.path = false :=
        isShut_of_obstacle? (hstraight.1 name List.mem_cons_self) h
      rcases makeNames_cases l place name rest d with ⟨failure, hmake⟩ | ⟨next, hwalk, -, hmake⟩ |
        ⟨-, hnone, hwalk, hmake⟩
      · rw [hmake]
        exact .refl d
      · have hfirst : d.IsStraight place.path [name] := hstraight.of_isPrefix (by simp)
        cases hfirst.walk_eq hwalk
        rw [hmake]
        exact (ih (hstraight.tail (hopen (obstacle?_of_walk hwalk)))).imp hlater
      · have hput : d.Grows (OnTheWay place.path (name :: rest))
            (d.put (place.path ++ [name]) (.directory newDirectoryMode)) :=
          .put ⟨[name], by simp, by simp, rfl⟩ hnone
        have hrest := (hput.isStraight hstraight).tail
          ((isShut_put_below d _ name _).trans (hopen (obstacle?_of_missing hwalk)))
        rw [hmake]
        exact hput.trans ((ih hrest).imp hlater)

/-- Where the names lead straight on, all of them are directories in the end. -/
theorem isDirectory_of_makeNames (hstraight : d.IsStraight place.path names)
    (h : makeNames l place names d = .ok () d') {front : Route} (hne : front ≠ [])
    (hbegins : front <+: names) : d'.isDirectory (place.path ++ front) = true := by
  induction names generalizing place d front with
  | nil => exact absurd (List.prefix_nil.mp hbegins) hne
  | cons name rest ih =>
      obtain ⟨other, more, rfl⟩ := List.exists_cons_of_ne_nil hne
      obtain ⟨rfl, hmore⟩ := List.cons_prefix_cons.mp hbegins
      -- The first of the names is a directory as soon as it is passed, and stays one.
      have hopen (h : d.obstacle? place.path other = none) : d.isShut place.path = false :=
        isShut_of_obstacle? (hstraight.1 other List.mem_cons_self) h
      have hrest {d₁ : Disk} (hgrows : d.Grows (fun _ => True) d₁)
          (hshut : d₁.isShut place.path = false)
          (hdirectory : d₁.isDirectory (place.path ++ [other]) = true)
          (hmake : makeNames l { place with path := place.path ++ [other] } rest d₁ = .ok () d') :
          d'.isDirectory (place.path ++ other :: more) = true := by
        by_cases hend : more = []
        · subst hend
          exact ((grows_makeNames l _ rest).of_ok hmake).2.stands.isDirectory hdirectory
        · have hpath : place.path ++ other :: more = place.path ++ [other] ++ more := by simp
          rw [hpath]
          exact ih ((hgrows.isStraight hstraight).tail hshut) hmake hend hmore
      rcases makeNames_cases l place other rest d with ⟨failure, hmake⟩ |
        ⟨next, hwalk, hdirectory, hmake⟩ | ⟨-, hnone, hwalk, hmake⟩
      · cases hmake.symm.trans h
      · have hfirst : d.IsStraight place.path [other] := hstraight.of_isPrefix (by simp)
        cases hfirst.walk_eq hwalk
        exact hrest (.refl d) (hopen (obstacle?_of_walk hwalk)) hdirectory (hmake.symm.trans h)
      · exact hrest (.put trivial hnone)
          ((isShut_put_below d _ other _).trans (hopen (obstacle?_of_missing hwalk)))
          (isDirectory_iff.mpr ⟨_, by rw [get?_put, if_pos rfl]⟩) (hmake.symm.trans h)

/-- Names that lead to a directory are passed without any change. -/
theorem makeNames_of_walk (l : Location) (rest : Route)
    (hwalk : d.walk .follow place names = .ok next) (hdirectory : d.isDirectory next.path = true) :
    makeNames l place (names ++ rest) d = makeNames l next rest d := by
  induction names generalizing place with
  | nil =>
      rw [walk_nil] at hwalk
      cases hwalk
      rfl
  | cons name more ih =>
      rw [walk_cons] at hwalk
      obtain ⟨middle, hfirst, hmore⟩ := Step.except_bind_eq_ok_iff.mp hwalk
      have hmiddle : d.isDirectory middle.path = true := by
        cases more with
        | nil =>
            rw [walk_nil] at hmore
            cases hmore
            exact hdirectory
        | cons other more => exact isDirectory_of_walk hmore
      rw [List.cons_append, makeNames, Step.get_bind, hfirst]
      dsimp only
      rw [if_pos hmiddle]
      exact ih hmore

/-- The first names may be made beforehand. -/
theorem makeNames_append (h : makeNames l place names d = .ok () d') (l' : Location)
    (rest : Route) :
    makeNames l' place (names ++ rest) d = makeNames l' place (names ++ rest) d' := by
  induction names generalizing place d with
  | nil =>
      cases h
      rfl
  | cons name more ih =>
      rcases makeNames_cases l place name more d with ⟨failure, hmake⟩ |
        ⟨next, hwalk, hdirectory, hmake⟩ | ⟨htakes, hnone, hwalk, hmake⟩
      · cases hmake.symm.trans h
      · have hmore := hmake.symm.trans h
        have hstands := ((grows_makeNames l next more).of_ok hmore).1.stands
        have hbefore : makeNames l' place (name :: (more ++ rest)) d =
            makeNames l' next (more ++ rest) d := makeNames_of_walk l' _ hwalk hdirectory
        have hafter : makeNames l' place (name :: (more ++ rest)) d' =
            makeNames l' next (more ++ rest) d' :=
          makeNames_of_walk l' _ (walk_of_extends hstands hdirectory hwalk)
            (hstands.isDirectory hdirectory)
        rw [List.cons_append, hbefore, hafter]
        exact ih hmore
      · have hmore := hmake.symm.trans h
        have hstands := ((grows_makeNames l _ more).of_ok hmore).1.stands
        have hmade : (d.put (place.path ++ [name]) (.directory newDirectoryMode)).isDirectory
            (place.path ++ [name]) = true := isDirectory_iff.mpr ⟨_, by rw [get?_put, if_pos rfl]⟩
        have hafter : makeNames l' place (name :: (more ++ rest)) d' =
            makeNames l' { place with path := place.path ++ [name] } (more ++ rest) d' :=
          makeNames_of_walk l' _ (walk_of_extends hstands hmade (walk_put_directory hwalk hnone))
            (hstands.isDirectory hmade)
        rw [List.cons_append, makeNames_of_missing l' _ hwalk hnone htakes, hafter]
        exact ih hmore

/-- A change of one file or mode, as seen from the location at which it is made. -/
structure Confined (l : Location) (d d' : Disk) : Prop where
  changesOnly : d.ChangesOnly (fun p => d.locate .create l = .ok p) d'
  locate_of : ∀ p, d'.locate .create l = .ok p → d.locate .create l = .ok p
  evolves : d.Evolves d'

theorem Confined.refl (l : Location) (d : Disk) : d.Confined l d := ⟨.refl d, fun _ => id, .refl d⟩

theorem Confined.trans (h : d.Confined l d') (h' : d'.Confined l d'') : d.Confined l d'' :=
  ⟨h.changesOnly.trans (h'.changesOnly.imp h.locate_of),
    fun p hp => h.locate_of p (h'.locate_of p hp), h.evolves.trans h'.evolves⟩

/-- A mode may be changed so that names may be looked up as before. -/
theorem confined_changeMode {mode : Nat → Nat}
    (hkind : ∀ p entry, d.find l = .ok (p, entry) → (withMode mode entry).kind = entry.kind) :
    d.Confined l (state (changeMode l mode d)) := by
  rcases changeMode_cases l mode d with ⟨failure, hchange⟩ | ⟨p, entry, hfind, hchange⟩
  · rw [hchange]
    exact .refl l d
  · have hentry := (find_eq_ok_iff.mp hfind).2
    have hkind := hkind p entry hfind
    rw [hchange]
    refine ⟨.put (locate_create_of_find hfind) _, fun q hq => ?_, .put_old hentry hkind⟩
    rwa [state, (SameShape.put hentry hkind).locate_eq] at hq

theorem evolves_writeContent (l : Location) (content : Bytes) :
    Step.Advances Evolves (writeContent l content) := by
  intro d
  rcases writeContent_cases l content d with ⟨failure, hwrite⟩ |
    ⟨p, mode, -, hwrite, ⟨old, oldMode, hentry⟩ | ⟨hnone, htakes⟩⟩
  · rw [hwrite]
    exact .refl d
  · rw [hwrite]
    exact .put_old hentry rfl
  · have hdirectory := isDirectory_of_takesEntries htakes
    have hne : p ≠ [] := by
      rintro rfl
      obtain ⟨mode, hroot⟩ := isDirectory_iff.mp hdirectory
      cases hnone.symm.trans hroot
    have hevolves := Evolves.put_new hdirectory
      (by rwa [List.dropLast_append_getLast hne]) (.file content mode)
    rw [List.dropLast_append_getLast hne] at hevolves
    rw [hwrite]
    exact hevolves

/-- What is written is where it would have been created, and is found there. -/
theorem find_of_writeContent (h : writeContent l content d = .ok () d') :
    ∃ p mode, d' = d.put p (.file content mode) ∧ d.locate .create l = .ok p ∧
      d'.find l = .ok (p, .file content mode) := by
  have hstands := ((evolves_writeContent l content).of_ok h).stands
  rcases writeContent_cases l content d with ⟨failure, hwrite⟩ | ⟨p, mode, hlocate, hwrite, -⟩
  · cases hwrite.symm.trans h
  · cases hwrite.symm.trans h
    exact ⟨p, mode, rfl, hlocate, find_of_locate hstands (by simp) hlocate
      (by rw [get?_put, if_pos rfl]) (by rintro target ⟨⟩)⟩

theorem confined_writeContent (l : Location) (content : Bytes) :
    Step.Advances (Confined l) (writeContent l content) := by
  intro d
  cases hwrite : writeContent l content d with
  | error failure d' =>
      rcases writeContent_cases l content d with ⟨_, hfails⟩ | ⟨_, _, -, hok, -⟩
      · cases hfails.symm.trans hwrite
        exact .refl l d
      · cases hok.symm.trans hwrite
  | ok _ d' =>
      obtain ⟨p, mode, rfl, hlocate, hfind⟩ := find_of_writeContent hwrite
      refine ⟨.put hlocate _, fun q hq => ?_, (evolves_writeContent l content).of_ok hwrite⟩
      rw [state, locate_create_of_find hfind] at hq
      cases hq
      exact hlocate

theorem confined_makeWritable (l : Location) :
    Step.Advances (Confined l) (changeMode l fun mode => mode ||| ownerWrite) :=
  fun _ => confined_changeMode fun _ entry _ => entry.kind_withMode ownerSearches_or_ownerWrite

/-- What a new mode is given to is the file that was written before. -/
theorem confined_writeContent_bind (l : Location) (content : Bytes) (bits : Int) :
    Step.Advances (Confined l) (do
      writeContent l content
      let mode ← modeOf bits
      changeMode l fun _ => mode) := by
  intro d
  have hcontent := confined_writeContent l content d
  rw [Step.bind_apply]
  cases hwrite : writeContent l content d with
  | error failure d' =>
      rw [hwrite] at hcontent
      exact hcontent
  | ok _ d' =>
      obtain ⟨p, old, -, -, hfind⟩ := find_of_writeContent hwrite
      rw [hwrite] at hcontent
      dsimp only
      rw [Step.bind_apply, lift_apply]
      cases modeOf bits with
      | error failure => exact hcontent
      | ok mode =>
          refine hcontent.trans (confined_changeMode fun q entry hentry => ?_)
          cases hfind.symm.trans hentry
          rfl

theorem confined_writeFile (l : Location) (content : Bytes) (bits : Int) :
    Step.Advances (Confined l) (writeFile l content bits) := by
  have htrans : ∀ d d' d'' : Disk, d.Confined l d' → d'.Confined l d'' → d.Confined l d'' :=
    fun _ _ _ => Confined.trans
  have hwrite := confined_writeContent_bind l content bits
  refine Step.advances_get_bind fun d => ?_
  refine (Step.advances_lift (Confined.refl l) _).bind htrans fun found => ?_
  cases found with
  | false => exact hwrite
  | true => exact (confined_makeWritable l).bind htrans fun _ => hwrite

theorem evolves_placeFile (l : Location) (content : Bytes) (bits : Int) :
    Step.Advances Evolves (placeFile l content bits) := by
  have htrans : ∀ d d' d'' : Disk, d.Evolves d' → d'.Evolves d'' → d.Evolves d'' :=
    fun _ _ _ => Evolves.trans
  have hmake : Step.Advances Evolves (makeDirectories l.parent) :=
    fun d => (grows_makeDirectories l.parent d).2
  exact hmake.bind htrans fun _ d => (confined_writeFile l content bits d).evolves

theorem find_directory_of_extends {mode : Nat} (h : d.Extends touched d')
    (hfind : d.find l = .ok (p, .directory mode)) :
    ∃ mode', d'.find l = .ok (p, .directory mode') := by
  obtain ⟨hlocate, hentry⟩ := find_eq_ok_iff.mp hfind
  obtain ⟨entry', hentry', hbecomes⟩ := h.becomes p _ hentry
  cases hbecomes with
  | @directory _ mode' =>
      exact ⟨mode', find_of_locate h (by simp) hlocate hentry' (by rintro target ⟨⟩)⟩

/-- A file that is written is found with exactly its content and its mode. -/
theorem find_of_writeFile {bits : Int}
    (h : writeFile l content bits d = .ok () d') :
    ∃ p mode, modeOf bits = .ok mode ∧ d.locate .create l = .ok p ∧
      d'.find l = .ok (p, .file content mode) := by
  rw [writeFile, Step.get_bind] at h
  obtain ⟨found, _, hpresent, hwrite⟩ := bind_eq_ok_iff.mp h
  obtain ⟨-, rfl⟩ := lift_eq_ok_iff.mp hpresent
  have hrest {d₁ : Disk} (hconfined : d.Confined l d₁)
      (hwrite : (do
        writeContent l content
        let mode ← modeOf bits
        changeMode l fun _ => mode : OnDisk Unit) d₁ = .ok () d') :
      ∃ p mode, modeOf bits = .ok mode ∧ d.locate .create l = .ok p ∧
        d'.find l = .ok (p, .file content mode) := by
    obtain ⟨_, d₂, hcontent, hmode⟩ := bind_eq_ok_iff.mp hwrite
    obtain ⟨mode, _, hbits, hchange⟩ := bind_eq_ok_iff.mp hmode
    obtain ⟨hinrange, rfl⟩ := lift_eq_ok_iff.mp hbits
    obtain ⟨p, old, -, hplace, hfind⟩ := find_of_writeContent hcontent
    rcases changeMode_cases l (fun _ => mode) d₂ with ⟨failure, hfailed⟩ | ⟨q, entry, hq, hchanged⟩
    · cases hfailed.symm.trans hchange
    · cases hfind.symm.trans hq
      cases hchanged.symm.trans hchange
      have hshape : d₂.SameShape (d₂.put p (.file content mode)) :=
        .put (find_eq_ok_iff.mp hfind).2 rfl
      refine ⟨p, mode, hinrange, hconfined.locate_of p hplace, find_eq_ok_iff.mpr ⟨?_, by
        rw [withMode, get?_put, if_pos rfl]⟩⟩
      exact (hshape.locate_eq .follow l).trans (find_eq_ok_iff.mp hfind).1
  cases found with
  | false => exact hrest (.refl l d) hwrite
  | true =>
      obtain ⟨_, d₁, hchange, hwrite⟩ := bind_eq_ok_iff.mp hwrite
      exact hrest ((confined_makeWritable l).of_ok hchange) hwrite

/-- A file that is placed is found with its content and its mode, and nothing else is touched. -/
theorem placeFile_eq_ok {bits : Int} (h : placeFile l content bits d = .ok () d') :
    ∃ p mode, modeOf bits = .ok mode ∧ d'.find l = .ok (p, .file content mode) ∧
      d.Extends (· = p) d' := by
  obtain ⟨_, d₁, hmake, hwrite⟩ := bind_eq_ok_iff.mp h
  obtain ⟨p, mode, hmode, hplace, hfind⟩ := find_of_writeFile hwrite
  have hmade := ((grows_makeDirectories l.parent).of_ok hmake).1.stands
  have hconfined := (confined_writeFile l content bits).of_ok hwrite
  have hchanges : d₁.ChangesOnly (· = p) d' :=
    hconfined.changesOnly.imp fun q hq => Except.ok.inj (hq.symm.trans hplace)
  exact ⟨p, mode, hmode, hfind, (hmade.imp fun _ => False.elim).trans
    (hchanges.extends_of_stands hconfined.evolves.stands)⟩

end

section

variable {d d' : Disk} {base : Location} {b p : Path} {mode : Nat} {names : Route}

theorem start_descend (d : Disk) (base : Location) (names : Route) :
    d.start (base.descend names) = d.start base := rfl

/-- From a directory on, names that lead straight on lead to the path that they spell. -/
theorem locate_descend {last : LastName} (hbase : d.find base = .ok (b, .directory mode))
    (hstraight : checkSpelling (base.descend names) = .ok () → d.IsStraight b names)
    (hne : names ≠ []) (hlocate : d.locate last (base.descend names) = .ok p) : p = b ++ names := by
  obtain ⟨-, links, hbasewalk⟩ := locate_eq_ok_iff.mp (find_eq_ok_iff.mp hbase).1
  obtain ⟨hspelling, _, hwalk⟩ := locate_eq_ok_iff.mp hlocate
  rw [start_descend, Location.encode_descend, walk_append hne, hbasewalk] at hwalk
  have hstraight' : d.IsStraight (⟨b, links⟩ : Place).path names := hstraight hspelling
  cases hstraight'.walk_eq hwalk
  rfl

/-- The directories on the way below a directory are made from there on. -/
theorem makeDirectories_descend (hbase : d.find base = .ok (b, .directory mode))
    (hstraight : checkSpelling (base.descend names) = .ok () → d.IsStraight b names) :
    d.Grows (OnTheWay b names) (state (makeDirectories (base.descend names) d)) ∧
      ∀ d', makeDirectories (base.descend names) d = .ok () d' → ∀ front, front ≠ [] →
        front <+: names → d'.isDirectory (b ++ front) = true := by
  obtain ⟨-, links, hwalk⟩ := locate_eq_ok_iff.mp (find_eq_ok_iff.mp hbase).1
  rw [makeDirectories, Step.bind_apply, lift_apply]
  cases hspelling : checkSpelling (base.descend names) with
  | error failure => exact ⟨.refl d, fun d' h => nomatch h⟩
  | ok _ =>
      have hstraight' : d.IsStraight (⟨b, links⟩ : Place).path names := hstraight hspelling
      dsimp only
      rw [Step.get_bind, start_descend, Location.encode_descend,
        makeNames_of_walk _ _ hwalk (isDirectory_of_find hbase)]
      exact ⟨grows_makeNames_of_isStraight _ hstraight',
        fun d' h front => isDirectory_of_makeNames hstraight' h⟩

/-- A file that is placed below a directory is placed on the path that its names spell. Nothing is
changed but what stands on the way to it from there on. -/
theorem placeFile_descend (hbase : d.find base = .ok (b, .directory mode))
    (hstraight : ∀ front, front <+: names → checkSpelling (base.descend front) = .ok () →
      d.IsStraight b front)
    (hne : names ≠ []) (content : Bytes) (bits : Int) :
    d.ChangesOnly (OnTheWay b names) (state (placeFile (base.descend names) content bits d)) ∧
      ∀ d', placeFile (base.descend names) content bits d = .ok () d' →
        (∃ mode', modeOf bits = .ok mode' ∧
          d'.get? (b ++ names) = some (.file content mode')) ∧
        ∀ front, front ≠ [] → front <+: names.dropLast → d'.isDirectory (b ++ front) = true := by
  have hfront : names.dropLast <+: names := List.dropLast_prefix names
  obtain ⟨hgrows, hdirectories⟩ := makeDirectories_descend hbase (hstraight _ hfront)
  have hmade := hgrows.imp fun p => OnTheWay.of_isPrefix hfront
  rw [placeFile, Location.parent_descend base hne, Step.bind_apply]
  cases hmake : makeDirectories (base.descend names.dropLast) d with
  | error failure d₁ =>
      rw [hmake] at hmade
      exact ⟨hmade.changesOnly, fun d' h => nomatch h⟩
  | ok _ d₁ =>
      rw [hmake] at hmade
      have hconfined := confined_writeFile (base.descend names) content bits d₁
      obtain ⟨mode₁, hbase₁⟩ := find_directory_of_extends hmade.stands hbase
      have hplace : ∀ p, d₁.locate .create (base.descend names) = .ok p → p = b ++ names :=
        fun p => locate_descend hbase₁
          (fun hspelling => hmade.isStraight (hstraight names List.prefix_rfl hspelling)) hne
      refine ⟨hmade.changesOnly.trans (hconfined.changesOnly.imp fun p hp => ?_), ?_⟩
      · exact ⟨names, hne, List.prefix_rfl, hplace p hp⟩
      · intro d' (hwrite : writeFile (base.descend names) content bits d₁ = .ok () d')
        obtain ⟨p, mode', hbits, hlocate, hfind⟩ := find_of_writeFile hwrite
        have hconfined := (confined_writeFile (base.descend names) content bits).of_ok hwrite
        obtain rfl := hplace p hlocate
        refine ⟨⟨mode', hbits, (find_eq_ok_iff.mp hfind).2⟩, fun front hfrontne hbegins => ?_⟩
        exact hconfined.evolves.stands.isDirectory (hdirectories d₁ hmake front hfrontne hbegins)

/-- A directory that exists is not made again. -/
theorem makeDirectories_of_find (hbase : d.find base = .ok (b, .directory mode)) :
    makeDirectories base d = .ok () d := by
  obtain ⟨hspelling, links, hwalk⟩ := locate_eq_ok_iff.mp (find_eq_ok_iff.mp hbase).1
  have hnames := makeNames_of_walk base [] hwalk (isDirectory_of_find hbase)
  rw [List.append_nil] at hnames
  rw [makeDirectories, Step.bind_of_ok (lift_eq_ok_iff.mpr ⟨hspelling, rfl⟩), Step.get_bind]
  exact hnames

/-- A file is placed below a directory that is made on the way as if it had been made beforehand,
unless the location is spelled wrongly. -/
theorem placeFile_of_made (hmake : makeDirectories base d = .ok () d') (hne : names ≠ [])
    (content : Bytes) (bits : Int) :
    (∃ failure, checkSpelling (base.descend names.dropLast) = .error failure ∧
      placeFile (base.descend names) content bits d = .error failure d) ∨
      placeFile (base.descend names) content bits d =
        placeFile (base.descend names) content bits d' := by
  obtain ⟨_, _, hspelling, hnames⟩ := bind_eq_ok_iff.mp hmake
  obtain ⟨-, rfl⟩ := lift_eq_ok_iff.mp hspelling
  have hstart : d'.start base = d.start base := by
    rw [start, start, ((grows_makeDirectories base).of_ok hmake).1.current_eq]
  rw [placeFile, Location.parent_descend base hne, Step.bind_apply, Step.bind_apply,
    makeDirectories, Step.bind_apply, Step.bind_apply, lift_apply, lift_apply]
  cases checkSpelling (base.descend names.dropLast) with
  | error failure => exact .inl ⟨failure, rfl, rfl⟩
  | ok _ =>
      right
      dsimp only
      rw [Step.get_bind, Step.get_bind, start_descend, start_descend, hstart,
        Location.encode_descend, makeNames_append hnames]

/-- To place a file where a directory stands changes at most that directory. -/
theorem changesOnly_placeFile (hbase : d.find base = .ok (b, .directory mode)) (content : Bytes)
    (bits : Int) : d.ChangesOnly (· = b) (state (placeFile base content bits d)) := by
  have hwrite : d.ChangesOnly (· = b) (state (writeFile base content bits d)) := by
    refine (confined_writeFile base content bits d).changesOnly.imp fun p hp => ?_
    cases (locate_create_of_find hbase).symm.trans hp
    rfl
  -- The directories on the way exist.
  have hmake : makeNames base.parent (d.start base.parent) (base.parent.names.map Text.encode) d =
      .ok () d := by
    obtain ⟨-, links, hwalk⟩ := locate_eq_ok_iff.mp (find_eq_ok_iff.mp hbase).1
    rcases List.eq_nil_or_concat base.names with hnil | ⟨front, last, hnames⟩
    · rw [Location.parent, hnil]
      rfl
    · rw [hnames, List.concat_eq_append, List.map_append, walk_append (by simp)] at hwalk
      obtain ⟨next, hfront, hlast⟩ := Step.except_bind_eq_ok_iff.mp hwalk
      have hstop := makeNames_of_walk base.parent [] hfront (isDirectory_of_walk hlast)
      have hparent : base.parent.names = front := by simp [Location.parent, hnames]
      rw [List.append_nil] at hstop
      rw [hparent]
      exact hstop
  rw [placeFile, makeDirectories, Step.bind_apply, Step.bind_apply, lift_apply]
  cases checkSpelling base.parent with
  | error failure => exact .refl d
  | ok _ =>
      dsimp only
      rw [Step.get_bind, hmake]
      exact hwrite

end

end Disk

end Scaffold
