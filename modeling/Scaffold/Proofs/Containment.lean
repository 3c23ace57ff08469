import Scaffold.Proofs.Serving

/-!
A writer stays below its root. Whatever links there are, and whatever the calls before have done, a
call changes nothing but the root and what is below it, and a path that leads elsewhere is refused.
There is one gap: where links lead in a circle, resolving stops, and what comes after the circle may
still hold links that lead out of the root.
-/

namespace Scaffold.Writer

open Step (state)

/-- A call does not get past a circle of links. -/
def StopsAtCircles (w : Writer) (d : Disk) (path : Text) : Prop :=
  d.RunsInCircle (w.root.child path) → ∃ failure, w.destination d path = .error failure

instance (w : Writer) (d : Disk) (path : Text) : Decidable (w.StopsAtCircles d path) :=
  match h : w.destination d path with
  | .error failure => isTrue fun _ => ⟨failure, h⟩
  | .ok _ =>
      decidable_of_iff (¬ d.RunsInCircle (w.root.child path)) <| by
        simp [StopsAtCircles, h]

section

variable {w : Writer} {d : Disk} {both : Disk × Ledger} {request : Request} {target : Location}
  {root p : Path} {mode : Nat}

/-- Where a path leads is below the root, and no link is on the way from there on. -/
theorem exists_descend {path : Text} (hroot : d.find w.root = .ok (root, .directory mode))
    (hstops : w.StopsAtCircles d path) (h : w.destination d path = .ok target) :
    w.root = root.location ∧ ∃ names, target = w.root.descend names ∧
      ∀ front, front <+: names → Disk.checkSpelling (w.root.descend front) = .ok () →
        d.IsStraight root front := by
  obtain ⟨hresolve, hanchor, hunder⟩ := destination_eq_ok h
  rcases Disk.resolve_eq_ok hresolve with ⟨hcircle, -⟩ | ⟨p, rfl, hp⟩
  · obtain ⟨failure, hfailure⟩ := hstops hcircle
    cases hfailure.symm.trans h
  obtain ⟨rest, hrest⟩ := hunder
  obtain ⟨front, names, rfl, hfront, -⟩ := List.map_eq_append_iff.mp hrest.symm
  have hlocation : w.root = Path.location front := by
    obtain ⟨⟨anchor, rootNames⟩, activeSkips⟩ := w
    cases hanchor
    cases hfront
    rfl
  have habsolute : w.root.isAbsolute = true := by
    rw [hlocation]
    rfl
  have hresolved := hp (isAbsolute_child habsolute path)
  -- The root itself has no links either, so it is the path that it spells.
  obtain ⟨rfl, hreached⟩ : root = front ∧ d.IsReached front := by
    have hlocate := (Disk.find_eq_ok_iff.mp hroot).1
    rw [hlocation] at hlocate
    exact (hresolved.of_isPrefix (List.prefix_append front names)).leads hlocate
  rw [hlocation]
  refine ⟨rfl, names, (Path.descend_location root names).symm, fun front hbegins hspelling => ?_⟩
  rw [Path.descend_location] at hspelling
  have hpart := hresolved.of_isPrefix ((List.prefix_append_right_inj root).mpr hbegins)
  exact hpart.isStraight hreached hspelling

/-- One call changes only the root and what is below it, and the root stays a directory. -/
theorem write_confined (hroot : both.1.find w.root = .ok (root, .directory mode))
    (hstops : w.skips request = false → w.StopsAtCircles both.1 request.path) :
    (∀ p, ¬ root <+: p → (state (w.write request both)).1.get? p = both.1.get? p) ∧
      ∃ mode', (state (w.write request both)).1.find w.root = .ok (root, .directory mode') := by
  rcases w.disk_of_write request both with hsame | ⟨hskips, target, hdestination, hplace⟩
  · rw [hsame]
    exact ⟨fun p _ => rfl, mode, hroot⟩
  rw [hplace]
  constructor
  · intro p hp
    obtain ⟨-, names, rfl, hstraight⟩ := exists_descend hroot (hstops hskips) hdestination
    by_cases hne : names = []
    · subst hne
      have hself : w.root.descend [] = w.root := by simp [Location.descend]
      rw [hself]
      refine (Disk.changesOnly_placeFile hroot _ _).get?_eq p ?_
      rintro rfl
      exact hp List.prefix_rfl
    · refine (Disk.placeFile_descend hroot hstraight hne _ _).1.get?_eq p ?_
      rintro ⟨front, -, -, rfl⟩
      exact hp (List.prefix_append root front)
  · exact Disk.find_directory_of_extends (Disk.evolves_placeFile _ _ _ both.1).stands hroot

theorem write_of_outside (hroot : both.1.find w.root = .ok (root, .directory mode))
    (hstops : w.StopsAtCircles both.1 request.path) (hskips : w.skips request = false)
    (hresolve : both.1.resolve (w.root.child request.path) = .ok p.location)
    (hp : ¬ root <+: p) :
    w.write request both =
      .error (.skeleton (some request.path) (.outside w.root.toText)) both := by
  obtain ⟨d, ledger⟩ := both
  have hdestination : w.destination d request.path =
      .error (.skeleton (some request.path) (.outside w.root.toText)) := by
    cases hunder : p.location.isUnder w.root with
    | false =>
        rw [destination, hresolve]
        exact if_neg (by simp [hunder])
    | true =>
        have hfound : w.destination d request.path = .ok p.location := by
          rw [destination, hresolve]
          exact if_pos hunder
        obtain ⟨hlocation, names, hnames, -⟩ := exists_descend hroot hstops hfound
        rw [hlocation, Path.descend_location] at hnames
        have hsame : p = root ++ names :=
          (List.map_inj_right fun _ _ => Text.decode_inj).mp (congrArg Location.names hnames)
        exact absurd ⟨names, hsame.symm⟩ hp
  have hwrites := w.writes_write request d ledger
  generalize w.write request (d, ledger) = result at hwrites ⊢
  cases hwrites with
  | skipped h => cases h.symm.trans hskips
  | refused _ h =>
      cases h.symm.trans hdestination
      rfl
  | unseen _ h | kept _ h | written _ h | failed _ h => cases h.symm.trans hdestination

end

/-- A writer never leaves its root. Whatever the tree and the calls, what is not below the root
stays as it is, and a call whose path resolves to a place that is not below the root fails and
changes nothing, provided that no call gets past a circle of links. -/
theorem serve_confined {w : Writer} {d : Disk} {root : Path} {mode : Nat}
    (hroot : d.find w.root = .ok (root, .directory mode)) (ledger : Ledger)
    {requests : List Request}
    (hstops : ∀ before request later, requests = before ++ request :: later →
      w.skips request = false →
      w.StopsAtCircles (w.serve before (d, ledger)).1 request.path) :
    (∀ p, ¬ root <+: p → (w.serve requests (d, ledger)).1.get? p = d.get? p) ∧
      ∀ before request later, requests = before ++ request :: later → w.skips request = false →
        ∀ p : Path,
          (w.serve before (d, ledger)).1.resolve (w.root.child request.path) = .ok p.location →
          ¬ root <+: p →
          w.write request (w.serve before (d, ledger)) =
            .error (.skeleton (some request.path) (.outside w.root.toText))
              (w.serve before (d, ledger)) := by
  have hkept : ∀ before later, requests = before ++ later →
      (∀ p, ¬ root <+: p → (w.serve before (d, ledger)).1.get? p = d.get? p) ∧
        ∃ mode', (w.serve before (d, ledger)).1.find w.root = .ok (root, .directory mode') := by
    intro before later hsplit
    refine serve_induction (P := fun both => (∀ p, ¬ root <+: p → both.1.get? p = d.get? p) ∧
      ∃ mode', both.1.find w.root = .ok (root, .directory mode')) ⟨fun p _ => rfl, mode, hroot⟩ ?_
    rintro done request rest rfl ⟨hsame, mode', hfind⟩
    obtain ⟨hcall, hfound⟩ := write_confined hfind
      (hstops done request (rest ++ later) (by simpa using hsplit))
    exact ⟨fun p hp => (hcall p hp).trans (hsame p hp), hfound⟩
  refine ⟨(hkept requests [] (by simp)).1, ?_⟩
  intro before request later hsplit hskips p hresolve hp
  obtain ⟨-, mode', hfind⟩ := hkept before (request :: later) hsplit
  exact write_of_outside hfind (hstops before request later hsplit hskips) hskips hresolve hp

/-- A tree in which a link below the root leads out of it. -/
def linkedDisk : Disk where
  entries := [
    ([], .directory 493),
    (Path.ofTexts ["out"], .directory 493),
    (Path.ofTexts ["out", "in"], .directory 493),
    (Path.ofTexts ["out", "in", "up"], .link (Text.encode "../../outside")),
    (Path.ofTexts ["outside"], .directory 493)]

/-- A tree in which there is a link to itself below the root, beside a link that leads out. -/
def circleDisk : Disk where
  entries := [
    ([], .directory 493),
    (Path.ofTexts ["out"], .directory 493),
    (Path.ofTexts ["out", "a"], .link (Text.encode "a")),
    (Path.ofTexts ["out", "b"], .link (Text.encode "../outside/escaped")),
    (Path.ofTexts ["outside"], .directory 493)]

theorem serve_confined_linked :
    (outWriter.serve [plainRequest "in/up/x", plainRequest "in/../b"] (linkedDisk, {})).1.get?
        (Path.ofTexts ["outside", "x"]) = none ∧
      outWriter.write (plainRequest "in/up/x") (linkedDisk, {}) =
        .error (.skeleton (some "in/up/x") (.outside "/out")) (linkedDisk, {}) ∧
      (outWriter.serve [plainRequest "in/up/x", plainRequest "in/../b"] (linkedDisk, {})).2 =
        { written := ["in/../b"], recorded := ["in/../b"] } := by
  have hroot : linkedDisk.find outWriter.root = .ok (Path.ofTexts ["out"], .directory 493) := by
    decide +kernel
  have hstops : ∀ before request later,
      [plainRequest "in/up/x", plainRequest "in/../b"] = before ++ request :: later →
      outWriter.skips request = false →
      outWriter.StopsAtCircles (outWriter.serve before (linkedDisk, {})).1 request.path := by
    intro before request later hsplit _
    rcases before with _ | ⟨first, _ | ⟨second, before⟩⟩
    · cases hsplit
      decide +kernel
    · cases hsplit
      decide +kernel
    · simp at hsplit
  obtain ⟨hsame, hrefused⟩ := serve_confined hroot {} hstops
  have houtside : ¬ Path.ofTexts ["out"] <+: Path.ofTexts ["outside", "x"] := by decide +kernel
  exact ⟨(hsame _ houtside).trans (by decide +kernel),
    hrefused [] _ _ rfl rfl (Path.ofTexts ["outside", "x"]) (by decide +kernel) houtside,
    by decide +kernel⟩

/-- Past a circle of links a call leaves the root: resolving stops at `a`, so the link `b` is not
seen, and the file is written where it leads. -/
theorem serve_escapes :
    circleDisk.find outWriter.root = .ok (Path.ofTexts ["out"], .directory 493) ∧
      ¬ Path.ofTexts ["out"] <+: Path.ofTexts ["outside", "escaped"] ∧
      circleDisk.get? (Path.ofTexts ["outside", "escaped"]) = none ∧
      (outWriter.serve [plainRequest "a/../b"] (circleDisk, {})).1.get?
          (Path.ofTexts ["outside", "escaped"]) = some (.file [120] 420) ∧
      (outWriter.serve [plainRequest "a/../b"] (circleDisk, {})).2 =
        { written := ["a/../b"], recorded := ["a/../b"] } := by
  decide +kernel

end Scaffold.Writer
