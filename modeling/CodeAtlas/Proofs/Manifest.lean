import CodeAtlas.Proofs.Outcome
import CodeAtlas.Proofs.Saving

/-!
# What a project takes from its manifest

The node of a project takes its name and the members that it shows from the package manifest, and then its tech stack
from the dependencies.  Each part of this may fail, and unless the manifest is nested too deep the failure ends
nothing.  `ManifestFails` says how, and what has been taken from the manifest by then.

A manifest that cannot be read, or is not an object, leaves the node of a project without one.  One whose
dependencies cannot be joined fails last, and leaves its name and its members in a node whose tags and tech stack are
those of a project without manifest (`projectNode_outcome`).
-/

namespace CodeAtlas

/-- Where the manifest of a workspace is. -/
def manifestPath (workspace : Path) : Path := workspace.child "package.json"

/-- A workspace has no manifest. -/
def ManifestAbsent (fs : FileSystem) (workspace : Path) : Prop := fs.entry? (manifestPath workspace) = none

/-- What a manifest shows under a key: an empty object if nothing is given. -/
def Json.shownUnder (manifest : Json) (key : String) : Json := (manifest.getD key).orElse (.obj [])

/-- The name that a manifest gives to a project, or else that of the workspace. -/
def Json.projectName (manifest : Json) (workspace : Path) : Json := (manifest.getD "name").orElse (.str workspace.name)

/-- How taking a manifest over fails without ending the build.  What is kept of it are its members, or nothing.  A
manifest that is nested too deep is not among these: it ends the build. -/
inductive ManifestFails (fs : FileSystem) (workspace : Path) : Option Members → Prop
  /-- There is no file, no text in it, or no JSON. -/
  | unread {f : Fault} (refused : fs.readJson (manifestPath workspace) = .error f) (shallow : f ≠ .json .tooDeep) :
      ManifestFails fs workspace none
  | noObject {j : Json} (read : fs.readJson (manifestPath workspace) = .ok j) (other : ∀ members, j ≠ .obj members) :
      ManifestFails fs workspace none
  /-- Dependencies of one sort or the other are given, and are not an object. -/
  | unjoined {members : Members} {key : String} (read : fs.readJson (manifestPath workspace) = .ok (.obj members))
      (sort : key ∈ ["dependencies", "devDependencies"])
      (other : ∀ dependencies, (Json.obj members).shownUnder key ≠ .obj dependencies) :
      ManifestFails fs workspace (some members)

/-- The node of a project without manifest. -/
def plainProject (workspace : Path) : Node := projectNodeOf workspace (.str workspace.name) [] []

/-- The node of a project whose manifest has failed. -/
def failedProject (workspace : Path) : Option Members → Node
  | none => plainProject workspace
  | some members => projectNodeOf workspace ((Json.obj members).projectName workspace) [] (shownManifest (.obj members))

/-- The node of a project whose manifest, with dependencies of both sorts, has been taken over. -/
def fullProject (workspace : Path) (members dependencies development : Members) : Node :=
  projectNodeOf workspace ((Json.obj members).projectName workspace)
    (Tags.techStack (Members.merge dependencies development)) (shownManifest (.obj members))

variable {fs : FileSystem} {workspace : Path} {members : Members} {kept : Option Members}

/-- Without manifest there is none that could fail later. -/
theorem ManifestFails.of_absent (absent : ManifestAbsent fs workspace) :
    ManifestFails fs workspace none := by
  obtain ⟨f, refused⟩ := FileSystem.exists_readJson_of_absent absent
  exact .unread refused nofun

/-- What a project takes from an object. -/
theorem projectNode_of_object (read : fs.readJson (manifestPath workspace) = .ok (.obj members)) :
    projectNode fs workspace = .ok (projectNodeOf workspace ((Json.obj members).projectName workspace)
      (stackOf ((Json.obj members).shownUnder "dependencies") ((Json.obj members).shownUnder "devDependencies"))
      (shownManifest (.obj members))) := by
  have found : manifest? fs workspace = .ok (some (.obj members)) := by
    rw [manifest?, ← manifestPath, read]
  rw [projectNode, found]
  rfl

/-- Nothing is taken from anything else. -/
theorem projectNode_of_none (none : manifest? fs workspace = .ok none) :
    projectNode fs workspace = .ok (plainProject workspace) := by
  rw [projectNode, none]
  rfl

/-- There is no tech stack unless the dependencies of both sorts are objects. -/
theorem stackOf_eq_nil {key : String} (sort : key ∈ ["dependencies", "devDependencies"]) {manifest : Json}
    (other : ∀ dependencies, manifest.shownUnder key ≠ .obj dependencies) :
    stackOf (manifest.shownUnder "dependencies") (manifest.shownUnder "devDependencies") = [] := by
  unfold stackOf
  split
  · next dependencies development first second =>
      simp only [List.mem_cons, List.not_mem_nil, or_false] at sort
      rcases sort with rfl | rfl
      · exact absurd first (other dependencies)
      · exact absurd second (other development)
  · rfl

/-- **What a failure leaves** is told by what has been taken by then. -/
theorem ManifestFails.projectNode (fails : ManifestFails fs workspace kept) :
    projectNode fs workspace = .ok (failedProject workspace kept) := by
  cases fails with
  | unread refused shallow =>
      refine projectNode_of_none ?_
      rw [manifest?, ← manifestPath, refused]
      split <;> simp_all
  | noObject read other =>
      refine projectNode_of_none ?_
      rw [manifest?, ← manifestPath, read]
      split <;> simp_all
  | unjoined read sort other => rw [projectNode_of_object read, stackOf_eq_nil sort other, failedProject]

/-- A project that shows members of a manifest is told from one without manifest by them. -/
theorem projectNodeOf_ne_plainProject (workspace : Path) (name : Json) (stack : List String) (manifest : Json) :
    projectNodeOf workspace name stack (shownManifest manifest) ≠ plainProject workspace := by
  intro same
  have properties := congrArg (fun n => Members.get? n.properties "package_json") same
  simp [projectNodeOf, plainProject, shownManifest, Members.get?] at properties

/-- A failed manifest leaves no trace exactly if nothing is kept of it. -/
theorem failedProject_eq_iff : failedProject workspace kept = plainProject workspace ↔ kept = none := by
  cases kept with
  | none => exact iff_of_true rfl rfl
  | some members => exact iff_of_false (projectNodeOf_ne_plainProject _ _ _ _) nofun

/-- Every manifest fails, or is taken over in full, or is nested too deep. -/
theorem manifest_cases (shallow : fs.readJson (manifestPath workspace) ≠ .error (.json .tooDeep)) :
    (∃ kept, ManifestFails fs workspace kept) ∨ ∃ members dependencies development,
      fs.readJson (manifestPath workspace) = .ok (.obj members) ∧
        (Json.obj members).shownUnder "dependencies" = .obj dependencies ∧
        (Json.obj members).shownUnder "devDependencies" = .obj development := by
  cases read : fs.readJson (manifestPath workspace) with
  | error f => exact Or.inl ⟨none, .unread read fun deep => shallow (by rw [read, deep])⟩
  | ok j =>
      by_cases object : ∃ members, j = .obj members
      · obtain ⟨members, rfl⟩ := object
        by_cases both : ∀ key ∈ ["dependencies", "devDependencies"], ∃ dependencies,
            (Json.obj members).shownUnder key = .obj dependencies
        · obtain ⟨dependencies, first⟩ := both "dependencies" (by simp)
          obtain ⟨development, second⟩ := both "devDependencies" (by simp)
          exact Or.inr ⟨members, dependencies, development, rfl, first, second⟩
        · push Not at both
          obtain ⟨key, sort, other⟩ := both
          exact Or.inl ⟨some members, .unjoined read sort other⟩
      · exact Or.inl ⟨none, .noObject read fun members same => object ⟨members, same⟩⟩

/-- **What becomes of a manifest.**  Without one a project is plain.  One that fails leaves a plain project iff
nothing has been taken from it by then, which is so unless its dependencies are what fails, and in any case the tags
and the tech stack of a plain one.  And one that does not fail is taken over in full.  The dependencies are looked at
last, behind the name and the members that are shown, which is why these stay. -/
theorem projectNode_outcome (fs : FileSystem) (workspace : Path) :
    (ManifestAbsent fs workspace → projectNode fs workspace = .ok (plainProject workspace)) ∧
      (∀ kept, ManifestFails fs workspace kept →
        projectNode fs workspace = .ok (failedProject workspace kept) ∧
          (failedProject workspace kept).tags = [.str "project", .str "root"] ∧
          (failedProject workspace kept).techStack = some [] ∧
          (failedProject workspace kept = plainProject workspace ↔ kept = none)) ∧
      ∀ n, projectNode fs workspace = .ok n → (∃ kept, ManifestFails fs workspace kept) ∨
        ∃ members dependencies development, fs.readJson (manifestPath workspace) = .ok (.obj members) ∧
          (Json.obj members).shownUnder "dependencies" = .obj dependencies ∧
          (Json.obj members).shownUnder "devDependencies" = .obj development ∧
          n = fullProject workspace members dependencies development := by
  refine ⟨fun absent => (ManifestFails.of_absent absent).projectNode, ?_, ?_⟩
  · intro kept fails
    refine ⟨fails.projectNode, ?_, ?_, failedProject_eq_iff⟩ <;> cases kept <;> rfl
  · intro n made
    have shallow := exists_projectNode_iff.mp ⟨n, made⟩
    refine (manifest_cases shallow).imp_right ?_
    rintro ⟨members, dependencies, development, read, first, second⟩
    refine ⟨members, dependencies, development, read, first, second, ?_⟩
    rw [projectNode_of_object read, first, second] at made
    exact (Except.ok.inj made).symm

/-- A workspace whose manifest lists its dependencies in an array. -/
def listedDependencies : FileSystem where
  cwd := ⟨.single, []⟩
  entries := [(["ws"], .directory), (["ws", "package.json"],
    .file (Text.encode "\x7b\"name\": \"shop\", \"dependencies\": [\"vue\"]\x7d"))]

/-- The manifest fails, and the project has its name. -/
theorem failed_manifest_keeps_name :
    ∃ members n plain, ManifestFails listedDependencies ⟨.single, ["ws"]⟩ (some members) ∧
      projectNode listedDependencies ⟨.single, ["ws"]⟩ = .ok n ∧
        projectNode (FileSystem.empty ⟨.single, ["ws"]⟩) ⟨.single, ["ws"]⟩ = .ok plain ∧
        n.name = .str "shop" ∧ plain.name = .str "ws" ∧ n ≠ plain := by
  have reads : (listedDependencies.readJson (manifestPath ⟨.single, ["ws"]⟩)).toOption.any
      (Json.alike (.obj [("name", .str "shop"), ("dependencies", .arr [.str "vue"])])) = true := by
    decide +kernel
  obtain ⟨j, read, same⟩ := exists_ok_of_any_toOption reads
  obtain rfl := Json.eq_of_alike same
  have fails : ManifestFails listedDependencies ⟨.single, ["ws"]⟩ (some _) :=
    .unjoined read List.mem_cons_self fun dependencies listed => nomatch listed
  have absent : ManifestAbsent (FileSystem.empty ⟨.single, ["ws"]⟩) ⟨.single, ["ws"]⟩ := rfl
  have plain := (ManifestFails.of_absent absent).projectNode
  refine ⟨_, _, _, fails, fails.projectNode, plain, rfl, rfl, ?_⟩
  exact projectNodeOf_ne_plainProject _ _ _ _

end CodeAtlas
