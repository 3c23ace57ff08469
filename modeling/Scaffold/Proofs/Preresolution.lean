import Scaffold.Proofs.Resolution

/-!
Resolving ahead. To put what a name resolves to in the place of its entry changes no look-up, so the
entries of a catalog can be resolved in any order, and the catalog that comes out is the same one.
-/

namespace Scaffold

namespace Keyed

variable {κ α : Type} [DecidableEq κ] {entries : Keyed κ α} {key other : κ} {a b : α}

theorem insert_insert_self : (entries.insert key a).insert key b = entries.insert key b := by
  induction entries with
  | nil => simp [insert]
  | cons entry rest ih => by_cases h : entry.1 = key <;> simp [insert, h, ih]

theorem insert_comm (hkey : key ∈ entries.keys) (hother : other ∈ entries.keys)
    (hne : key ≠ other) :
    (entries.insert key a).insert other b = (entries.insert other b).insert key a := by
  induction entries with
  | nil => cases hkey
  | cons entry rest ih =>
      have hrest {k : κ} (hk : k ∈ keys (entry :: rest)) (hfirst : entry.1 ≠ k) :
          k ∈ keys rest := (List.mem_cons.mp hk).resolve_left hfirst.symm
      by_cases h : entry.1 = key
      · simp [insert, h, hne]
      · by_cases ho : entry.1 = other
        · simp [insert, ho, hne.symm]
        · simp [insert, h, ho, ih (hrest hkey h) (hrest hother ho)]

end Keyed

namespace Catalog

variable {catalog : Catalog} {visited names names' order : List Text} {name last b : Text}
  {s : Skeleton} {lineage other : List Skeleton}

theorem Walk.trans {mid : Text} (hwalk : catalog.Walk name names mid)
    (hrest : catalog.Walk mid names' last) : catalog.Walk name (names ++ names') last := by
  induction hwalk with
  | here => exact hrest
  | step hown hinherits _ ih => exact .step hown hinherits (ih hrest)

namespace Lineage

theorem unique (h : catalog.Lineage name lineage) (h' : catalog.Lineage name other) :
    lineage = other := by
  induction h generalizing other with
  | root hown hroot =>
      cases h' with
      | root hown' => rw [Option.some.inj (hown.symm.trans hown')]
      | child hown' hinherits =>
          obtain rfl := Option.some.inj (hown.symm.trans hown')
          simp [hroot] at hinherits
  | child hown hinherits _ ih =>
      cases h' with
      | root hown' hroot =>
          obtain rfl := Option.some.inj (hown.symm.trans hown')
          simp [hroot] at hinherits
      | child hown' hinherits' hancestors =>
          obtain rfl := Option.some.inj (hown.symm.trans hown')
          obtain rfl := Option.some.inj (hinherits.symm.trans hinherits')
          rw [ih hancestors]

/-- The lineage of a name on a walk is what is left of the lineage of the first name. -/
theorem of_walk (hlineage : catalog.Lineage name lineage) (hwalk : catalog.Walk name names last) :
    ∃ rest, catalog.Lineage last rest ∧ lineage.length = names.length + rest.length := by
  induction hwalk generalizing lineage with
  | here => exact ⟨lineage, hlineage, by simp⟩
  | step hown hinherits _ ih =>
      cases hlineage with
      | root hown' hroot =>
          obtain rfl := Option.some.inj (hown.symm.trans hown')
          simp [hroot] at hinherits
      | child hown' hinherits' hancestors =>
          obtain rfl := Option.some.inj (hown.symm.trans hown')
          obtain rfl := Option.some.inj (hinherits.symm.trans hinherits')
          obtain ⟨rest, hrest, hlength⟩ := ih hancestors
          exact ⟨rest, hrest, by simp only [List.length_cons, hlength]; omega⟩

theorem not_closed (hlineage : catalog.Lineage name lineage) (hne : names ≠ []) :
    ¬ catalog.Walk name names name := by
  intro hwalk
  obtain ⟨rest, hrest, hlength⟩ := hlineage.of_walk hwalk
  rw [hlineage.unique hrest] at hlength
  have := List.length_pos_iff.mpr hne
  omega

/-- A name with a lineage resolves to one skeleton, whatever names led to it, as long as none of them
is on its way to the root. -/
theorem exists_resolve (hlineage : catalog.Lineage name lineage) :
    ∃ s, ∀ visited, (∀ names last, catalog.Walk name names last → last ∉ visited) →
      catalog.resolve visited name = .ok s := by
  induction hlineage with
  | @root name own hown hroot =>
      exact ⟨own, fun visited hfree => resolve_of_root (hfree [] name (.here name)) hown hroot⟩
  | @child name parent own ancestors hown hinherits hancestors ih =>
      obtain ⟨inherited, hinherited⟩ := ih
      refine ⟨Skeleton.extend name own inherited, fun visited hfree => ?_⟩
      have hparent : catalog.resolve (visited ++ [name]) parent = .ok inherited := by
        refine hinherited _ fun names last hwalk hmem => ?_
        have hstep : catalog.Walk name (name :: names) last := .step hown hinherits hwalk
        rcases List.mem_append.mp hmem with hvisited | hlast
        · exact hfree _ _ hstep hvisited
        · rw [List.mem_singleton.mp hlast] at hstep
          exact (Lineage.child hown hinherits hancestors).not_closed (by simp) hstep
      rw [resolve_of_child (hfree [] name (.here name)) hown hinherits, hparent]
      rfl

end Lineage

theorem resolve_of_lookup (hb : catalog.lookup b = .ok s)
    (hfree : ∀ names last, catalog.Walk b names last → last ∉ visited) :
    catalog.resolve visited b = .ok s := by
  obtain ⟨lineage, hlineage⟩ := exists_lineage hb
  obtain ⟨found, hfound⟩ := hlineage.exists_resolve
  have hsame : catalog.lookup b = .ok found := hfound [] (by simp)
  rw [hfound visited hfree, ← hsame, hb]

/-- The names that led to a name come back to it from none of the names on its way to the root, so
its entry can be resolved on its own. -/
theorem resolve_insert (hb : catalog.lookup b = .ok s)
    (hvisited : ∀ first ∈ visited, ∃ names, names ≠ [] ∧ catalog.Walk first names name) :
    Catalog.resolve (catalog.insert b s) visited name = catalog.resolve visited name := by
  induction visited, name using Catalog.resolve.induct catalog with
  | case1 visited name hmem => rw [resolve_of_mem hmem, resolve_of_mem hmem]
  | case2 visited name hmem hown =>
      have hne : name ≠ b := by
        rintro rfl
        rw [lookup, resolve_of_absent (by simp) hown] at hb
        cases hb
      rw [resolve_of_absent hmem hown,
        resolve_of_absent hmem (by rw [Keyed.get?_insert, if_neg hne, hown])]
  | case3 visited name hmem own hown hroot =>
      rw [resolve_of_root hmem hown hroot]
      by_cases hname : name = b
      · subst hname
        rw [lookup, resolve_of_root (by simp) hown hroot] at hb
        cases hb
        exact resolve_of_root hmem (by rw [Keyed.get?_insert, if_pos rfl]) hroot
      · exact resolve_of_root hmem (by rw [Keyed.get?_insert, if_neg hname, hown]) hroot
  | case4 visited name hmem own hown parent hinherits ih =>
      by_cases hname : name = b
      · subst hname
        rw [resolve_of_root hmem (by rw [Keyed.get?_insert, if_pos rfl]) (inherits_of_lookup hb),
          resolve_of_lookup hb]
        -- A name that led here and is met again would close a walk from a name with a lineage.
        intro names first hwalk hfirst
        obtain ⟨back, hback, hreturn⟩ := hvisited first hfirst
        obtain ⟨lineage, hlineage⟩ := exists_lineage hb
        exact hlineage.not_closed (by simp [hback]) (hwalk.trans hreturn)
      · have hown' : Keyed.get? (catalog.insert b s) name = some own := by
          rw [Keyed.get?_insert, if_neg hname, hown]
        rw [resolve_of_child hmem hown hinherits, resolve_of_child hmem hown' hinherits, ih]
        have hstep : catalog.Walk name [name] parent := .step hown hinherits (.here parent)
        intro first hfirst
        rcases List.mem_append.mp hfirst with hold | hnew
        · obtain ⟨names, hnames, hwalk⟩ := hvisited first hold
          exact ⟨names ++ [name], by simp, hwalk.trans hstep⟩
        · rw [List.mem_singleton.mp hnew]
          exact ⟨[name], by simp, hstep⟩

theorem lookup_insert (hb : catalog.lookup b = .ok s) (name : Text) :
    Catalog.lookup (catalog.insert b s) name = catalog.lookup name :=
  resolve_insert hb (by simp)

theorem mem_keys_of_lookup (h : catalog.lookup name = .ok s) : name ∈ catalog.keys := by
  obtain ⟨lineage, hlineage⟩ := exists_lineage h
  cases hlineage with
  | root hown => exact Keyed.mem_keys_of_get? hown
  | child hown => exact Keyed.mem_keys_of_get? hown

/-- The catalog with the entry of a name resolved, if it can be. -/
def preresolve (catalog : Catalog) (name : Text) : Catalog :=
  match catalog.lookup name with
  | .ok s => catalog.insert name s
  | .error _ => catalog

theorem preresolve_of_ok (h : catalog.lookup name = .ok s) :
    catalog.preresolve name = catalog.insert name s := by
  simp only [preresolve, h]

theorem preresolve_of_error {failure : Failure} (h : catalog.lookup name = .error failure) :
    catalog.preresolve name = catalog := by
  simp only [preresolve, h]

@[simp] theorem lookup_preresolve (catalog : Catalog) (b name : Text) :
    (catalog.preresolve b).lookup name = catalog.lookup name := by
  cases hb : catalog.lookup b with
  | error failure => rw [preresolve_of_error hb]
  | ok s => rw [preresolve_of_ok hb, lookup_insert hb]

theorem keys_preresolve (catalog : Catalog) (name : Text) :
    Keyed.keys (catalog.preresolve name) = catalog.keys := by
  cases h : catalog.lookup name with
  | error failure => rw [preresolve_of_error h]
  | ok s => rw [preresolve_of_ok h, Keyed.keys_insert, if_pos (mem_keys_of_lookup h)]

theorem preresolve_preresolve (catalog : Catalog) (name : Text) :
    (catalog.preresolve name).preresolve name = catalog.preresolve name := by
  cases h : catalog.lookup name with
  | error failure => rw [preresolve_of_error h, preresolve_of_error h]
  | ok s =>
      rw [preresolve_of_ok ((lookup_preresolve catalog name name).trans h), preresolve_of_ok h,
        Keyed.insert_insert_self]

theorem preresolve_comm (catalog : Catalog) (a b : Text) :
    (catalog.preresolve a).preresolve b = (catalog.preresolve b).preresolve a := by
  by_cases hne : a = b
  · rw [hne]
  cases ha : catalog.lookup a with
  | error failure =>
      rw [preresolve_of_error ha,
        preresolve_of_error ((lookup_preresolve catalog b a).trans ha)]
  | ok s =>
      rw [preresolve_of_ok ((lookup_preresolve catalog b a).trans ha)]
      cases hb : catalog.lookup b with
      | error failure =>
          rw [preresolve_of_error ((lookup_preresolve catalog a b).trans hb),
            preresolve_of_error hb, preresolve_of_ok ha]
      | ok t =>
          rw [preresolve_of_ok ((lookup_preresolve catalog a b).trans hb), preresolve_of_ok ha,
            preresolve_of_ok hb,
            Keyed.insert_comm (mem_keys_of_lookup ha) (mem_keys_of_lookup hb) hne]

theorem foldl_preresolve_of_mem (hname : name ∈ order) :
    order.foldl preresolve (catalog.preresolve name) = order.foldl preresolve catalog := by
  induction order generalizing catalog with
  | nil => cases hname
  | cons first rest ih =>
      rcases List.mem_cons.mp hname with rfl | hrest
      · rw [List.foldl_cons, preresolve_preresolve, List.foldl_cons]
      · rw [List.foldl_cons, preresolve_comm, ih hrest, List.foldl_cons]

theorem foldl_preresolve_of_subset {before : List Text} (hsubset : before ⊆ order) :
    order.foldl preresolve (before.foldl preresolve catalog) = order.foldl preresolve catalog := by
  induction before generalizing catalog with
  | nil => rfl
  | cons first rest ih =>
      obtain ⟨hfirst, hrest⟩ := List.cons_subset.mp hsubset
      rw [List.foldl_cons, ih hrest, foldl_preresolve_of_mem hfirst]

theorem foldl_preresolve_congr {order order' : List Text}
    (hsame : ∀ name, name ∈ order ↔ name ∈ order') :
    order.foldl preresolve catalog = order'.foldl preresolve catalog := by
  calc order.foldl preresolve catalog
      = order.foldl preresolve (order'.foldl preresolve catalog) :=
        (foldl_preresolve_of_subset fun name hname => (hsame name).mpr hname).symm
    _ = (order' ++ order).foldl preresolve catalog := List.foldl_append.symm
    _ = (order ++ order').foldl preresolve catalog :=
        List.perm_append_comm.foldl_eq' (fun a _ b _ c => preresolve_comm c a b) catalog
    _ = order'.foldl preresolve (order.foldl preresolve catalog) := List.foldl_append
    _ = order'.foldl preresolve catalog :=
        foldl_preresolve_of_subset fun name hname => (hsame name).mp hname

theorem lookup_foldl_preresolve (catalog : Catalog) (order : List Text) (name : Text) :
    (order.foldl preresolve catalog).lookup name = catalog.lookup name := by
  induction order generalizing catalog with
  | nil => rfl
  | cons first rest ih => rw [List.foldl_cons, ih, lookup_preresolve]

theorem keys_foldl_preresolve (catalog : Catalog) (order : List Text) :
    Keyed.keys (order.foldl preresolve catalog) = catalog.keys := by
  induction order generalizing catalog with
  | nil => rfl
  | cons first rest ih => rw [List.foldl_cons, ih, keys_preresolve]

theorem get?_preresolve_of_error {failure : Failure} (h : catalog.lookup name = .error failure) :
    Keyed.get? (catalog.preresolve b) name = catalog.get? name := by
  cases hb : catalog.lookup b with
  | error failure => rw [preresolve_of_error hb]
  | ok s =>
      have hne : name ≠ b := by
        rintro rfl
        rw [h] at hb
        cases hb
      rw [preresolve_of_ok hb, Keyed.get?_insert, if_neg hne]

theorem get?_foldl_preresolve_of_error {failure : Failure}
    (h : catalog.lookup name = .error failure) :
    Keyed.get? (order.foldl preresolve catalog) name = catalog.get? name := by
  induction order generalizing catalog with
  | nil => rfl
  | cons first rest ih =>
      rw [List.foldl_cons, ih ((lookup_preresolve catalog first name).trans h),
        get?_preresolve_of_error h]

theorem get?_foldl_preresolve_of_ok (h : catalog.lookup name = .ok s) (hname : name ∈ order) :
    Keyed.get? (order.foldl preresolve catalog) name = some s := by
  -- One more turn of the name at the end changes nothing and puts `s` there.
  have hagain : order.foldl preresolve catalog =
      (order.foldl preresolve catalog).preresolve name := by
    have hturns : ∀ other, other ∈ order ↔ other ∈ order ++ [name] := fun other => by
      simpa using fun hother : other = name => hother ▸ hname
    exact (foldl_preresolve_congr hturns).trans List.foldl_append
  rw [hagain, preresolve_of_ok ((lookup_foldl_preresolve catalog order name).trans h),
    Keyed.get?_insert, if_pos rfl]

/-- The catalog with all its entries resolved that can be. -/
def resolved (catalog : Catalog) : Catalog := catalog.keys.foldl preresolve catalog

/-- To resolve an entry ahead changes no look-up, neither what it finds nor how it fails. Whatever
the order in which all entries are resolved, one catalog comes out: under the same names it has what
the look-ups of the first one give, and the entries as they were where these fail. -/
theorem preresolve_invisible (catalog : Catalog) :
    (∀ b s, catalog.lookup b = .ok s →
      ∀ name, Catalog.lookup (catalog.insert b s) name = catalog.lookup name) ∧
    (∀ order : List Text, (∀ name, name ∈ order ↔ name ∈ catalog.keys) →
      order.foldl preresolve catalog = catalog.resolved) ∧
    Keyed.keys catalog.resolved = catalog.keys ∧
    (∀ name, catalog.resolved.lookup name = catalog.lookup name) ∧
    (∀ name s, catalog.lookup name = .ok s →
      Keyed.get? catalog.resolved name = some s ∧ s.inherits = none) ∧
    ∀ name failure, catalog.lookup name = .error failure →
      Keyed.get? catalog.resolved name = catalog.get? name := by
  refine ⟨fun b s hb => lookup_insert hb, fun order hall => foldl_preresolve_congr hall,
    keys_foldl_preresolve catalog _, lookup_foldl_preresolve catalog _, fun name s h => ?_,
    fun name failure h => get?_foldl_preresolve_of_error h⟩
  exact ⟨get?_foldl_preresolve_of_ok h (mem_keys_of_lookup h), inherits_of_lookup h⟩

/-- A chain of three skeletons beside one whose parent is missing. -/
def chain : Catalog :=
  [("app", { name := "app", inherits := some "lib", fragments := ["app"] }),
    ("lost", { name := "lost", inherits := some "gone" }),
    ("lib", { name := "lib", inherits := some "base", fragments := ["lib"] }),
    ("base", { name := "base", fragments := ["base"] })]

theorem preresolve_invisible_chain :
    chain.lookup "app" = .ok { name := "app", fragments := ["base\nlib\napp"] } ∧
      chain.lookup "lost" = .error (.skeleton none (.missingSkeleton "gone")) ∧
      (((chain.preresolve "base").preresolve "lib").preresolve "lost").preresolve "app" =
        (((chain.preresolve "app").preresolve "lost").preresolve "lib").preresolve "base" ∧
      Keyed.get? chain.resolved "app" =
        some { name := "app", fragments := ["base\nlib\napp"] } := by
  have happ : chain.lookup "app" = .ok { name := "app", fragments := ["base\nlib\napp"] } := by
    decide +kernel
  obtain ⟨-, horder, -, -, hfound, -⟩ := preresolve_invisible chain
  refine ⟨happ, by decide +kernel, ?_, (hfound "app" _ happ).1⟩
  have hup := horder ["base", "lib", "lost", "app"] fun name => List.Perm.mem_iff (by decide)
  have hdown := horder ["app", "lost", "lib", "base"] fun name => Iff.rfl
  exact hup.trans hdown.symm

end Catalog

end Scaffold
