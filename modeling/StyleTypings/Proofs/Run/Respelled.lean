import Mathlib
import StyleTypings.Proofs.Path.Resolving
import StyleTypings.Proofs.Run.Plan
import StyleTypings.Proofs.Text.Slashes
import StyleTypings.Proofs.World.Effects
import StyleTypings.Run

namespace StyleTypings

structure Arguments.Respelled (a b : Arguments) : Prop where
  workspace : Path.Respelled a.workspace b.workspace
  stylesDir : Option.Rel Path.Respelled a.stylesDir b.stylesDir
  others : b = { a with workspace := b.workspace, stylesDir := b.stylesDir }

/-- Configurations that differ in the spelling of their directory at most. -/
structure Config.Respelled (file other : Config) : Prop where
  stylesDir : Option.Rel Path.Respelled file.stylesDir other.stylesDir
  others : other = { file with stylesDir := other.stylesDir }

variable {a b : Arguments} {file other : Config} {cwd workspace : String}

theorem Path.Respelled.refl (path : String) : Path.Respelled path path := ⟨rfl, rfl⟩

theorem Config.Respelled.refl (file : Config) : file.Respelled file where
  stylesDir := by
    cases file.stylesDir with
    | none => exact .none
    | some dir => exact .some (.refl dir)
  others := rfl

namespace Arguments

theorem merge_merge (a : Arguments) (file : Config) (cwd : String)
    (hworkspace : Path.isAbsolute workspace = true) :
    a.merge (a.merge file cwd workspace) cwd workspace = a.merge file cwd workspace := by
  have hdir : (a.merge (a.merge file cwd workspace) cwd workspace).stylesDir =
      (a.merge file cwd workspace).stylesDir := by
    unfold merge
    cases a.stylesDir with
    | some dir => rfl
    | none =>
      cases file.stylesDir with
      | none => rfl
      | some dir => exact congrArg some (Path.resolve_resolve hworkspace dir)
  have hexclude : a.excludeDirs.or (a.excludeDirs.or file.excludeDirs) =
      a.excludeDirs.or file.excludeDirs := by
    cases a.excludeDirs <;> rfl
  have hformat : ((file.format && !a.noFormat) && !a.noFormat) = (file.format && !a.noFormat) := by
    rw [Bool.and_assoc, Bool.and_self]
  unfold merge at hdir ⊢
  simp only [hexclude, hformat, Config.mk.injEq, and_true]
  exact hdir

/-- A directory that is spelled otherwise is resolved alike. -/
theorem map_resolve_eq {dir dir' : Option String} (h : Option.Rel Path.Respelled dir dir')
    (hcwd : Path.isAbsolute cwd = true) :
    dir'.map (Path.resolve cwd) = dir.map (Path.resolve cwd) := by
  cases h with
  | none => rfl
  | some h => exact congrArg some (h.resolve_eq hcwd)

theorem Respelled.merge_eq (h : a.Respelled b) (hfile : file.Respelled other)
    (hcwd : Path.isAbsolute cwd = true) (hworkspace : Path.isAbsolute workspace = true) :
    b.merge other cwd workspace = a.merge file cwd workspace := by
  have hown := map_resolve_eq h.stylesDir hcwd
  have htheirs := map_resolve_eq hfile.stylesDir hworkspace
  have hmerge (a : Arguments) (file : Config) : a.merge file cwd workspace =
      { stylesDir := (a.stylesDir.map (Path.resolve cwd)).or
          (file.stylesDir.map (Path.resolve workspace))
        excludeDirs := a.excludeDirs.or file.excludeDirs
        format := file.format && !a.noFormat } := by
    unfold merge
    cases a.stylesDir <;> rfl
  rw [hmerge, hmerge, hown, htheirs, h.others, hfile.others]

end Arguments

namespace Run

open Text (Bytes encode)
open World (run_bind run_get)

def fileOf (a : Arguments) (cwd workspace : String) : App Config :=
  match a.config with
  | some path => Config.loadFile (Path.resolve cwd path)
  | none => Config.load workspace

theorem run_configure_of_file (a : Arguments) (cwd workspace : String) (w : World) :
    (configure a cwd workspace).run w =
      (a.merge ((fileOf a cwd workspace).run w).1 cwd workspace,
        ((fileOf a cwd workspace).run w).2) := by
  unfold configure fileOf
  cases a.config <;> rfl

theorem isAbsolute_workingDirectory {d : Disk} (h : workingDirectory d = .ok cwd) :
    Path.isAbsolute cwd = true := by
  unfold workingDirectory at h
  split at h
  · cases h
  next path hpath =>
    split at h
    next text htext =>
      cases h
      obtain ⟨bytes, rfl⟩ : ∃ bytes, path = Disk.slash :: bytes := by
        unfold Disk.workingDirectory at hpath
        split at hpath
        · cases hpath
          cases d.here with
          | nil => exact ⟨_, rfl⟩
          | cons name names => exact ⟨_, rfl⟩
        · cases hpath
      have hbytes := Text.decode?_eq_some_iff.1 htext
      rw [Text.encode_eq_encodeChars] at hbytes
      obtain ⟨front, rest, hchars, hfront, -⟩ :=
        Text.exists_of_encodeChars_eq (u := []) hbytes
      cases front with
      | nil => simp [Path.isAbsolute, hchars]
      | cons c front => simp [String.utf8EncodeChar_ne_nil] at hfront
    · cases h

section Respelled

variable (h : a.Respelled b)
include h

theorem resolve_workspace_eq (hcwd : Path.isAbsolute cwd = true) :
    Path.resolve cwd b.workspace = Path.resolve cwd a.workspace :=
  h.workspace.resolve_eq hcwd

theorem answer_configure_eq {w w' : World} (hcwd : Path.isAbsolute cwd = true)
    (hworkspace : Path.isAbsolute workspace = true)
    (hfile : Config.Respelled ((fileOf a cwd workspace).run w).1
      ((fileOf b cwd workspace).run w').1) :
    ((configure b cwd workspace).run w').1 = ((configure a cwd workspace).run w).1 := by
  rw [run_configure_of_file, run_configure_of_file]
  exact h.merge_eq hfile hcwd hworkspace

theorem run_configure_eq (hcwd : Path.isAbsolute cwd = true)
    (hworkspace : Path.isAbsolute workspace = true) (w : World) :
    (configure b cwd workspace).run w = (configure a cwd workspace).run w := by
  have hfile : fileOf b cwd workspace = fileOf a cwd workspace := by
    unfold fileOf
    rw [h.others]
  rw [run_configure_of_file, run_configure_of_file, hfile,
    h.merge_eq (.refl _) hcwd hworkspace]

theorem run_respelled (milliseconds : Nat) (w : World) :
    (run b milliseconds).run w = (run a milliseconds).run w := by
  have hgenerate : Run.generate b = Run.generate a := by
    rw [h.others]
    rfl
  have hannounce : announce b = announce a := by
    rw [h.others]
    rfl
  unfold run
  rw [run_bind, run_bind, run_get]
  dsimp only
  cases hcwd : workingDirectory w.disk with
  | error f => rfl
  | ok cwd =>
    have habsolute := isAbsolute_workingDirectory hcwd
    dsimp only
    rw [run_bind, run_bind, resolve_workspace_eq h habsolute,
      run_configure_eq h habsolute (Path.isAbsolute_resolve habsolute _), hgenerate, hannounce]

end Respelled

/-- A resolved path is absolute and has neither empty pieces nor dots nor a slash at its end, but
all other segments, the double dots among them. It stays as it is when it is resolved again, and
resolving piece by piece comes to the same as at once; paths are resolved to one string exactly if
they have the same components. So a configuration is resolved once and for all, and the spelling of
directories changes neither the directories of a run nor anything that it does. -/
theorem one_spelling :
    (∀ base path other, Path.isAbsolute base = true →
      Path.Canonical (Path.resolve base path) ∧
      Path.segments (Path.resolve base path) = Path.segments (Path.join base path) ∧
      Path.resolve base (Path.resolve base path) = Path.resolve base path ∧
      Path.resolve (Path.resolve base path) other = Path.resolve base (Path.join path other) ∧
      (Path.resolve base path = Path.resolve base other ↔
        Path.components (Path.join base path) = Path.components (Path.join base other))) ∧
    (∀ (a : Arguments) file cwd workspace, Path.isAbsolute cwd = true →
      Path.isAbsolute workspace = true →
      a.merge (a.merge file cwd workspace) cwd workspace = a.merge file cwd workspace) ∧
    (∀ (a b : Arguments) cwd w w', Path.isAbsolute cwd = true → a.Respelled b →
      Config.Respelled ((fileOf a cwd (Path.resolve cwd a.workspace)).run w).1
        ((fileOf b cwd (Path.resolve cwd b.workspace)).run w').1 →
      Path.resolve cwd b.workspace = Path.resolve cwd a.workspace ∧
        ((configure b cwd (Path.resolve cwd b.workspace)).run w').1 =
          ((configure a cwd (Path.resolve cwd a.workspace)).run w).1) ∧
    ∀ (a b : Arguments) milliseconds w, a.Respelled b →
      (run b milliseconds).run w = (run a milliseconds).run w := by
  refine ⟨fun base path other hbase ↦ ⟨Path.canonical_resolve hbase path,
      Path.segments_resolve hbase path, Path.resolve_resolve hbase path,
      Path.resolve_join hbase path other, ?_⟩,
    fun a file cwd workspace _ hworkspace ↦ a.merge_merge file cwd hworkspace,
    fun a b cwd w w' hcwd h hfile ↦ ?_, fun a b milliseconds w h ↦ run_respelled h milliseconds w⟩
  · rw [Path.resolve_eq_iff hbase, Path.components_eq_iff (Path.isAbsolute_join_of_base hbase path)
      (Path.isAbsolute_join_of_base hbase other)]
  · have hworkspace := resolve_workspace_eq h hcwd
    rw [hworkspace] at hfile ⊢
    exact ⟨rfl, answer_configure_eq h hcwd (Path.isAbsolute_resolve hcwd _) hfile⟩

def plainArguments : Arguments := { workspace := "p" }

def oddArguments : Arguments := { workspace := ".//p/./" }

theorem respelled_oddArguments : plainArguments.Respelled oddArguments where
  workspace := ⟨by decide +kernel, by decide +kernel⟩
  stylesDir := .none
  others := rfl

def configuredDisk (content : Bytes) : Disk where
  top := .dir [([112], .dir [(encode "css-typings.json", .file content false)])]

def plainWorld : World := { disk := configuredDisk (encode "\x7b\"stylesDir\":\"src\"\x7d") }

def oddWorld : World := { disk := configuredDisk (encode "[\"./src//\"]") }

theorem run_load_configuredDisk {text : String} {config : Config}
    (hjson : (Config.ofJson text).toOption = some config) :
    ((Config.load "/p").run { disk := configuredDisk (encode text) }).1 = config := by
  have hpath : Path.join "/p" Config.fileName = "/p/css-typings.json" := by decide +kernel
  have hholds (content : Bytes) :
      (configuredDisk content).holds (encode "/p/css-typings.json") = true := by cbv
  have hread (content : Bytes) :
      (configuredDisk content).read (encode "/p/css-typings.json") = .ok content := by cbv
  obtain ⟨log, hload⟩ := run_load { disk := configuredDisk (encode text) } "/p"
  rw [hload]
  simp only [workspaceConfig, hpath, hholds, if_true, fileConfig, Config.readFile, Disk.readText,
    hread, Text.decode?_eq_some_iff.2 rfl]
  cases h : Config.ofJson text with
  | error complaint =>
    rw [h] at hjson
    cases hjson
  | ok found =>
    rw [h] at hjson
    exact Option.some.inj hjson

/-- Odd arguments in front of an odd configuration lead where plain ones lead. -/
theorem one_spelling_odd :
    (Path.resolve "/b/./c/" "x//./../y/" = "/b/c/x/../y" ∧
      Path.Canonical "/b/c/x/../y" ∧
      Path.segments "/b/c/x/../y" = Path.segments (Path.join "/b/./c/" "x//./../y/") ∧
      Path.resolve "/b/./c/" "/b/c/x/../y" = "/b/c/x/../y" ∧
      Path.resolve "/b/c/x/../y" "./x/../y" = Path.resolve "/b/./c/" "x//./../y/./x/../y" ∧
      Path.components (Path.join "/b/./c/" "x//./../y/") =
        Path.components (Path.join "/b/./c/" "./x/../y")) ∧
    plainArguments.merge { stylesDir := some "/p/src" } "/" "/p" = { stylesDir := some "/p/src" } ∧
    ((configure oddArguments "/" "/p").run oddWorld).1 = { stylesDir := some "/p/src" } ∧
    (run oddArguments 5).run oddWorld = (run plainArguments 5).run oddWorld := by
  obtain ⟨hresolve, hmerge, hconfigure, hrun⟩ := one_spelling
  obtain ⟨hcanonical, hsegments, hagain, hjoin, hiff⟩ :=
    hresolve "/b/./c/" "x//./../y/" "./x/../y" rfl
  have hplace : Path.resolve "/b/./c/" "x//./../y/" = "/b/c/x/../y" := by decide +kernel
  have hbelow : Path.join "x//./../y/" "./x/../y" = "x//./../y/./x/../y" := by decide +kernel
  rw [hplace] at hcanonical hsegments hagain hjoin hiff
  rw [hbelow] at hjoin
  have hmerged : plainArguments.merge { stylesDir := some "src" } "/" "/p" =
      { stylesDir := some "/p/src" } := by decide +kernel
  have hidempotent := hmerge plainArguments { stylesDir := some "src" } "/" "/p" rfl rfl
  rw [hmerged] at hidempotent
  have hfile : ((fileOf plainArguments "/" "/p").run plainWorld).1 = { stylesDir := some "src" } :=
    run_load_configuredDisk (by decide +kernel)
  have hfile' : ((fileOf oddArguments "/" "/p").run oddWorld).1 = { stylesDir := some "./src//" } :=
    run_load_configuredDisk (by decide +kernel)
  have hworkspace : Path.resolve "/" plainArguments.workspace = "/p" := by decide +kernel
  have hworkspace' : Path.resolve "/" oddArguments.workspace = "/p" := by decide +kernel
  have hconfigured := hconfigure plainArguments oddArguments "/" plainWorld oddWorld rfl
    respelled_oddArguments
  rw [hworkspace, hworkspace', hfile, hfile', run_configure_of_file plainArguments, hfile,
    hmerged] at hconfigured
  exact ⟨⟨hplace, hcanonical, hsegments, hagain, hjoin, hiff.1 (by decide +kernel)⟩, hidempotent,
    (hconfigured ⟨.some ⟨by decide +kernel, by decide +kernel⟩, rfl⟩).2,
    hrun plainArguments oddArguments 5 oddWorld respelled_oddArguments⟩

end Run
end StyleTypings
