import Scaffold.Condition
import Scaffold.Value

/-!
The addresses of a project. An address is the declared one, or else follows from the organization of
the project on GitHub. The condition that asks for an address and the context of templates go by
this address. Three of the five take an empty declaration for none, the two others take it as it is.
-/

namespace Scaffold

/-- The addresses that a project may have. -/
inductive Address where
  /-- The home page. -/
  | homepage
  /-- Where bugs are reported. -/
  | bugReports
  /-- The development repository. -/
  | devRepo
  /-- The general documentation. -/
  | docGen
  /-- The documentation of the interface. -/
  | docApi
  deriving DecidableEq

namespace Address

/-- The address that a project declares. -/
def declared (p : Project) : Address → Option Text
  | homepage => p.homepage
  | bugReports => p.bugReports
  | devRepo => p.devRepo
  | docGen => p.docGen
  | docApi => p.docApi

/-- The address on GitHub of the project of that name of an organization. -/
def derived (organization name : Text) : Address → Text
  | homepage => "https://" ++ organization ++ ".github.io/" ++ name
  | bugReports => "https://github.com/" ++ organization ++ "/" ++ name ++ "/issues"
  | devRepo => "git+https://github.com/" ++ organization ++ "/" ++ name ++ ".git"
  | docGen => "https://" ++ organization ++ ".github.io/" ++ name ++ "/sphinx"
  | docApi => "https://" ++ organization ++ ".github.io/" ++ name ++ "/doc"

/-- The address of a project. -/
def url (p : Project) : Address → Option Text
  | homepage => p.homepageUrl
  | bugReports => p.bugReportsUrl
  | devRepo => p.devRepoUrl
  | docGen => p.docGenUrl
  | docApi => p.docApiUrl

/-- The condition that asks whether a project has an address. -/
def condition : Address → Text
  | homepage => "homepage"
  | bugReports => "bug-reports"
  | devRepo => "dev-repo"
  | docGen => "doc-gen"
  | docApi => "doc-api"

/-- The key of an address in the context of templates. -/
def key : Address → Text
  | homepage => "homepage"
  | bugReports => "bug_reports"
  | devRepo => "dev_repo"
  | docGen => "doc_gen"
  | docApi => "doc_api"

/-- Whether an empty declaration is an address. -/
def keepsEmpty : Address → Bool
  | bugReports | devRepo => true
  | homepage | docGen | docApi => false

variable (p : Project) (address : Address)

/-- The address that a project has on GitHub, if it belongs to an organization there. -/
def onGithub : Option Text :=
  p.githubOrganization.map fun organization => address.derived organization p.name

/-- The declaration that counts. -/
def effective : Option Text :=
  if address.keepsEmpty then address.declared p else Text.nonempty? (address.declared p)

/-- All addresses come about in one way, but for what becomes of an empty declaration. -/
theorem url_eq : address.url p = (address.effective p).or (address.onGithub p) := by
  cases address with
  | homepage =>
      have hpages : p.githubPages = homepage.onGithub p := by
        simp [Project.githubPages, onGithub, derived]
      rw [url, Project.homepageUrl, hpages]
      rfl
  | bugReports | devRepo | docGen | docApi => rfl

theorem effective_of_declared {text : Text} (h : address.declared p = some text)
    (hkept : text ≠ [] ∨ address.keepsEmpty = true) : address.effective p = some text := by
  rw [effective, h]
  rcases hkept with hne | hkeeps
  · simp [Text.nonempty?, hne]
  · rw [if_pos hkeeps]

theorem effective_of_undeclared (h : address.declared p = none) : address.effective p = none := by
  rw [effective, h]
  split <;> rfl

theorem effective_of_empty (h : address.declared p = some [])
    (hdrops : address.keepsEmpty = false) : address.effective p = none := by
  rw [effective, h, hdrops]
  rfl

/-- The condition about an address asks for it. -/
theorem ofProject_condition :
    Condition.ofProject p [address.condition] = .ok (address.url p).isSome := by
  cases address <;> rfl

theorem get?_context :
    p.context.get? address.key = some (.text ((address.url p).getD [])) := by
  cases address <;> rfl

/-- An address that is declared is the address of the project, unless the declaration is empty and
the address is none of those that keep an empty one; otherwise it is the one on GitHub. Whatever it
is, the condition of its name holds exactly if there is an address, and the context of templates has
the address, or the empty text. -/
theorem addresses_agree :
    (∀ text, address.declared p = some text → text ≠ [] ∨ address.keepsEmpty = true →
      address.url p = some text) ∧
    (address.declared p = none ∨ address.declared p = some [] ∧ address.keepsEmpty = false →
      address.url p = p.githubOrganization.map fun organization =>
        address.derived organization p.name) ∧
    Condition.ofProject p [address.condition] = .ok (address.url p).isSome ∧
    p.context.get? address.key = some (.text ((address.url p).getD [])) := by
  refine ⟨fun text hdeclared hkept => ?_, fun hnone => ?_, address.ofProject_condition p,
    address.get?_context p⟩
  · rw [url_eq, address.effective_of_declared p hdeclared hkept]
    rfl
  · have heffective : address.effective p = none := by
      rcases hnone with hundeclared | ⟨hempty, hdrops⟩
      · exact address.effective_of_undeclared p hundeclared
      · exact address.effective_of_empty p hempty hdrops
    rw [url_eq, heffective, Option.none_or]
    rfl

/-- A project that declares empty addresses. -/
def unhoused : Project :=
  { name := "demo", githubOrganization := some "acme", homepage := some [], bugReports := some [] }

theorem addresses_agree_unhoused :
    bugReports.url unhoused = some [] ∧
      docGen.url unhoused = some "https://acme.github.io/demo/sphinx" :=
  ⟨(addresses_agree unhoused bugReports).1 [] rfl (.inr rfl),
    (addresses_agree unhoused docGen).2.1 (.inl rfl)⟩

/-- The home page is not the declared one if that is empty. -/
theorem url_of_empty_homepage :
    homepage.declared unhoused = some [] ∧
      homepage.url unhoused = some "https://acme.github.io/demo" ∧
      homepage.url { unhoused with githubOrganization := none } = none := by
  decide

end Address

end Scaffold
