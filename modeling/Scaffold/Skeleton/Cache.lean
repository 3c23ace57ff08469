import Scaffold.Config
import Scaffold.Skeleton.Load

/-!
Catalogs that are loaded when they are first asked for. Later changes on the disk do not show.
-/

namespace Scaffold

/-- The catalogs that have been loaded, by the kinds of their skeletons. -/
abbrev Cache := Entries Catalog

namespace Cache

/-- The catalog of a kind, and the cache with it. -/
def fetch (config : Config) (d : Disk) (kind : Text) (cache : Cache) : Report (Catalog × Cache) :=
  match cache.get? kind with
  | some catalog => pure (catalog, cache)
  | none => do
      let source : Catalog.Source :=
        { kind := kind, base := config.skeletonDir kind, verbose := config.verbose }
      let catalog ← Catalog.load d source
      pure (catalog, cache.insert kind catalog)

end Cache

/-- The names of the known skeletons, one kind a line. -/
def knownSkeletons (projects packages : Catalog) : Text :=
  let names := fun (catalog : Catalog) => Text.join " " (catalog.sortedSkeletons.map Skeleton.name)
  "project skeletons: " ++ names projects ++ "\npackage skeletons: " ++ names packages ++ "\n"

end Scaffold
