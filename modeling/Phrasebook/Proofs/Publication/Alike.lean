import Mathlib
import Phrasebook.Proofs.Publication.Outcome
import Phrasebook.Proofs.Text.Separation
import Phrasebook.Report

namespace Phrasebook

open FileTree

/-!
# One source set in two trees

A source set reads the files of its directory below the input directory, and its generated file with
the locations on the way there. Trees that are alike in these give it the same result, and it makes
the same changes to them.
-/

/-! ## Directories of resources -/

namespace FileTree

/-- Whether the path of a directory can be followed. -/
def CanEnter
    (tree : FileTree)
    (directory : Path) :
    Prop :=
  tree.follow (tree.start directory) directory.lead = .ok (directory.place tree.workingDirectory)

/-- A path below a directory is read by entering the directory first. -/
theorem read_below
    {tree : FileTree}
    {directory path : Path}
    {names : List String}
    {bytes : List UInt8}
    (notEmpty : path.text ≠ "")
    (start : path.isAbsolute = directory.isAbsolute)
    (shape : path.segments = directory.lead ++ names) :
    tree.read path = .ok bytes ↔
      CanEnter tree directory ∧
        ∃ location,
          tree.follow (directory.place tree.workingDirectory) names = .ok location ∧
          tree.nodeAt? location = some (.file bytes) := by
  have place : ∀ between, tree.follow (tree.start directory) directory.lead = .ok between →
      between = directory.place tree.workingDirectory := by
    intro between followed
    rw [follow_eq_ok followed, foldl_step_lead]
    rfl
  simp only [read_eq_ok, locate_eq_ok, shape, start_eq_of_isAbsolute start, follow_append]
  constructor
  · rintro ⟨location, ⟨-, between, entered, followed⟩, isFile⟩
    have here := place between entered
    subst here
    exact ⟨entered, location, followed, isFile⟩
  · rintro ⟨entered, location, followed, isFile⟩
    exact ⟨location, ⟨notEmpty, _, entered, followed⟩, isFile⟩

/-- Whether none of two locations lies below the other, and they are not the same. -/
structure AreApart
    (first second : Location) :
    Prop where
  notAbove : ¬ first <+: second
  notBelow : ¬ second <+: first

theorem AreApart.not_isPrefix
    {first second location : Location}
    (apart : AreApart first second)
    (below : first <+: location) :
    ¬ location <+: second ∧ ¬ second <+: location := by
  refine ⟨fun above => apart.notAbove (below.trans above), fun isAbove => ?_⟩
  rcases List.prefix_or_prefix_of_prefix below isAbove with inside | outside
  · exact apart.notAbove inside
  · exact apart.notBelow outside

/-- A location on the way to something in a directory lies above or below the first name on that
way. -/
theorem isPrefix_or_isPrefix
    {directory location : Location}
    {name : String}
    {further : List String}
    (onTheWay : location <+: directory ++ name :: further) :
    location <+: directory ∨ directory ++ [name] <+: location := by
  rw [← List.singleton_append, ← List.append_assoc] at onTheWay
  rcases List.prefix_or_prefix_of_prefix onTheWay (List.prefix_append _ _) with outer | inner
  · rcases List.prefix_concat_iff.mp outer with same | isAbove
    · exact .inr (same ▸ List.prefix_rfl)
    · exact .inl isAbove
  · exact .inr inner

theorem isPrefix_step
    {location : Location}
    (name segment : String) :
    location <+: step (location ++ [name]) segment := by
  unfold step
  split
  · exact List.prefix_append _ _
  · split
    · rw [List.dropLast_concat]
    · rw [List.append_assoc]
      exact List.prefix_append _ _

end FileTree

/-- The path of a resource file is that of the input directory with two more segments. -/
theorem ResourceSet.segments_filePath
    {sourceSet : SourceSet}
    {locale : Locale}
    {name : String}
    (input : Path)
    (isName : Path.IsName name)
    (noSlash : '/' ∉ (sourceSet.fileName locale).toList) :
    (filePath sourceSet (input.join ⟨name⟩) locale).segments =
        input.lead ++ [name, sourceSet.fileName locale] ∧
      (filePath sourceSet (input.join ⟨name⟩) locale).isAbsolute =
        input.isAbsolute := by
  have relative := Path.isAbsolute_of_noSlash noSlash
  rw [filePath, Path.segments_join_eq _ relative, Path.isAbsolute_join_eq _ relative,
    Path.lead_join_name input isName, Path.segments_of_noSlash noSlash, List.append_assoc]
  exact ⟨rfl, Path.isAbsolute_join_eq _ (Path.isAbsolute_of_isName isName)⟩

/-- The file of a locale has no slash in its name if neither the format of file names nor the tag
has one. -/
theorem SourceSet.noSlash_fileName
    {sourceSet : SourceSet}
    {locale : Locale}
    (format : '/' ∉ sourceSet.fileNameFormat.toList)
    (tag : '/' ∉ locale.tag.toList) :
    '/' ∉ (sourceSet.fileName locale).toList := by
  rw [SourceSet.fileName, String.toList_ofList]
  intro isSlash
  rcases Text.mem_of_mem_replaceAll isSlash with inSuffix | inFormat
  · rw [Locale.fileSuffix] at inSuffix
    split at inSuffix
    · simp at inSuffix
    · rw [String.toList_append, List.mem_append] at inSuffix
      rcases inSuffix with inLead | inTag
      · exact absurd inLead (by decide)
      · exact tag inTag
  · exact format inFormat

/-- Whether a source set keeps to one directory: its own name, the format of its file names and the
tags of its locales lead nowhere else. -/
structure NamedSourceSet.KeepsToDirectory
    (declared : NamedSourceSet) :
    Prop where
  name : Path.IsName declared.name
  format : '/' ∉ declared.sourceSet.fileNameFormat.toList
  tags : ∀ locale ∈ declared.sourceSet.locales, '/' ∉ locale.tag.toList

/-! ## Alike trees -/

/-- Whether two trees are alike for a source set of some name: what is below its part of the output
directory and outside the output directory is the same, and above there are at most new
directories. -/
structure Alike
    (output : Location)
    (name : String)
    (before after : FileTree) :
    Prop where
  beforeTree : before.IsTree
  afterTree : after.IsTree
  workingDirectory : after.workingDirectory = before.workingDirectory
  directories :
    ∀ location, before.nodeAt? location = some .directory →
      after.nodeAt? location = some .directory
  above : ∀ location, location <+: output → Persists before after location
  own :
    ∀ location, output ++ [name] <+: location →
      after.nodeAt? location = before.nodeAt? location
  elsewhere :
    ∀ location, ¬ location <+: output → ¬ output <+: location →
      after.nodeAt? location = before.nodeAt? location

/-- Whether the directory of the resources can be entered, or else nothing in the tree differs. -/
def ReadsAlike
    (input : Path)
    (before after : FileTree) :
    Prop :=
  CanEnter before input ∨ ∀ location, after.nodeAt? location = before.nodeAt? location

namespace Alike

variable
  {output : Location}
  {name : String}
  {before after : FileTree}

theorem start_eq
    (alike : Alike output name before after)
    (path : Path) :
    after.start path = before.start path := by
  rw [start, start, alike.workingDirectory]

theorem isGrounded
    (alike : Alike output name before after)
    {path : Path}
    (grounded : before.IsGrounded path) :
    after.IsGrounded path := by
  rw [IsGrounded, alike.start_eq]
  exact LeadsBack.of_directories alike.directories grounded

/-- What lies below the part of the output directory is the same. -/
theorem nodeAt?_own
    (alike : Alike output name before after)
    (further : List String) :
    after.nodeAt? (output ++ name :: further) = before.nodeAt? (output ++ name :: further) :=
  alike.own _ ⟨further, List.append_assoc output [name] further⟩

/-- On the way to something below the part of the output directory no file comes or goes. -/
theorem persists
    (alike : Alike output name before after)
    {location : Location}
    {further : List String}
    (onTheWay : location <+: output ++ name :: further) :
    Persists before after location := by
  rcases isPrefix_or_isPrefix onTheWay with isAbove | below
  · exact alike.above _ isAbove
  · exact .inl (alike.own _ below)

/-! ### Resources of alike trees -/

/-- What lies below a directory apart from the output directory is the same. -/
theorem nodeAt?_of_apart
    (alike : Alike output name before after)
    {directory location : Location}
    (apart : AreApart directory output)
    (below : directory <+: location) :
    after.nodeAt? location = before.nodeAt? location :=
  alike.elsewhere location (apart.not_isPrefix below).1 (apart.not_isPrefix below).2

theorem canEnter
    (alike : Alike output name before after)
    {directory : Path}
    (entered : CanEnter before directory) :
    CanEnter after directory := by
  rw [CanEnter, alike.start_eq, alike.workingDirectory]
  exact follow_of_directories alike.directories entered

/-- The files of a source set are read alike if their directory can be entered. -/
theorem read_filePath_iff
    (alike : Alike output name before after)
    {input : Path}
    (apart : AreApart (input.place before.workingDirectory) output)
    (entered : CanEnter before input)
    {sourceSet : SourceSet}
    {own : String}
    (isName : Path.IsName own)
    {locale : Locale}
    (noSlash : '/' ∉ (sourceSet.fileName locale).toList)
    {bytes : List UInt8} :
    after.read (ResourceSet.filePath sourceSet (input.join ⟨own⟩) locale) = .ok bytes ↔
      before.read (ResourceSet.filePath sourceSet (input.join ⟨own⟩) locale) = .ok bytes := by
  obtain ⟨shape, start⟩ := ResourceSet.segments_filePath input isName noSlash
  have notEmpty : (ResourceSet.filePath sourceSet (input.join ⟨own⟩) locale).text ≠ "" := by
    intro isEmpty
    have alone : (ResourceSet.filePath sourceSet (input.join ⟨own⟩) locale).segments = [""] := by
      simp [Path.segments, isEmpty, List.splitOnP_nil]
    rw [shape] at alone
    simpa using congrArg List.length alone
  have downwards : step (input.place before.workingDirectory) own =
      input.place before.workingDirectory ++ [own] :=
    foldl_step_of_isName _ (List.forall_mem_singleton.mpr isName)
  have here := alike.nodeAt?_of_apart apart List.prefix_rfl
  have inside := alike.nodeAt?_of_apart apart (List.prefix_append _ [own])
  have file := alike.nodeAt?_of_apart apart (isPrefix_step own (sourceSet.fileName locale))
  have followed : ∀ (tree : FileTree) (found : Location),
      tree.follow (input.place before.workingDirectory) [own, sourceSet.fileName locale] =
          .ok found ↔
        tree.nodeAt? (input.place before.workingDirectory) = some .directory ∧
          tree.nodeAt? (input.place before.workingDirectory ++ [own]) = some .directory ∧
          step (input.place before.workingDirectory ++ [own]) (sourceSet.fileName locale) =
            found := by
    intro tree found
    rw [follow_cons, follow_cons, downwards, follow, Except.ok.injEq]
  rw [read_below notEmpty start shape, read_below notEmpty start shape, alike.workingDirectory]
  simp only [entered, alike.canEnter entered, followed, here, inside, and_assoc, exists_and_left,
    exists_eq_left', file]

theorem load_eq
    (alike : Alike output name before after)
    {input : Path}
    (apart : AreApart (input.place before.workingDirectory) output)
    (reads : ReadsAlike input before after)
    {declared : NamedSourceSet}
    (keeps : declared.KeepsToDirectory) :
    ResourceSet.load declared.sourceSet after (input.join ⟨declared.name⟩) =
      ResourceSet.load declared.sourceSet before (input.join ⟨declared.name⟩) := by
  refine ResourceSet.load_congr fun locale isMember bytes => ?_
  rcases reads with entered | same
  · exact alike.read_filePath_iff apart entered keeps.name
      (SourceSet.noSlash_fileName keeps.format (keeps.tags locale isMember))
  · rw [read_eq_ok, read_eq_ok]
    refine exists_congr fun location => ?_
    rw [same]
    refine and_congr_left fun _ => ⟨fun located => ?_, fun located => ?_⟩
    · exact locate_of_directories (fun other => (same other ▸ ·)) alike.workingDirectory.symm located
    · exact locate_of_directories alike.directories alike.workingDirectory located

/-! ### Checks of the output -/

theorem isObstacle_eq
    (alike : Alike output name before after)
    {path : Path}
    (grounded : before.IsGrounded path)
    (onTheWay :
      EndsWithName path →
        before.nodeAt? (path.place before.workingDirectory) = some .directory ∨
          ∃ further, path.place before.workingDirectory <+: output ++ name :: further) :
    Validation.isObstacle after path = Validation.isObstacle before path := by
  rw [Bool.eq_iff_iff, Validation.isObstacle_iff alike.afterTree (alike.isGrounded grounded),
    Validation.isObstacle_iff alike.beforeTree grounded, alike.workingDirectory]
  refine and_congr_right fun ends => exists_congr fun bytes => ?_
  rcases onTheWay ends with isDirectory | ⟨further, onTheWay⟩
  · rw [isDirectory, alike.directories _ isDirectory]
  · exact (alike.persists onTheWay).isFile_iff

/-- A directory of a path below the part of the output directory meets an obstacle in both trees, or
in none. -/
theorem isObstacle_ancestor_eq
    (alike : Alike output name before after)
    {path ancestor : Path}
    {further : List String}
    (grounded : before.IsGrounded path)
    (place : path.place before.workingDirectory = output ++ name :: further)
    (isMember : ancestor ∈ path.ancestors) :
    Validation.isObstacle after ancestor = Validation.isObstacle before ancestor := by
  rcases Path.of_mem_ancestors isMember with rfl | rfl | ⟨segments, notEmpty, shape, sameStart⟩
  · refine alike.isObstacle_eq (leadsBack_of_noParent _ _ (by decide)) fun ends => ?_
    exact absurd rfl (text_ne_empty ends)
  · exact alike.isObstacle_eq (leadsBack_of_noParent _ _ (by decide)) fun _ => .inl rfl
  · have start : before.start ancestor = before.start path :=
      start_eq_of_isAbsolute sameStart
    rw [IsGrounded, shape, leadsBack_append, ← start] at grounded
    refine alike.isObstacle_eq grounded.1 fun _ => ?_
    rcases alike.beforeTree.isPrefix_or_isDirectory grounded.2 with isAbove | isDirectory
    · refine .inr ⟨further, ?_⟩
      rw [← List.foldl_append, ← shape, start] at isAbove
      rw [← place, Path.place, ← FileTree.start, start]
      exact isAbove
    · exact .inl isDirectory

end Alike

/-! ## One directory for each source set -/

section Own

variable
  {tree before after : FileTree}
  {output : Path}
  {name : String}
  {target : TargetName}

theorem place_own
    (workingDirectory : Location)
    (isName : Path.IsName name) :
    (output.join ⟨name⟩).place workingDirectory = output.place workingDirectory ++ [name] :=
  place_of_lead workingDirectory (Path.isAbsolute_join_name output isName)
    (Path.segments_join_name output isName) (by simpa using isName)

theorem isGrounded_own
    (grounded : tree.IsGrounded output)
    (isName : Path.IsName name) :
    tree.IsGrounded (output.join ⟨name⟩) :=
  isGrounded_of_lead grounded (Path.isAbsolute_join_name output isName)
    (Path.segments_join_name output isName) (by simpa using isName)

/-- A generated file lies below the part of the output directory. -/
theorem place_artifactPath
    {output : Location}
    {directory : Path}
    (isTarget : Validation.IsTarget target)
    (place : directory.place tree.workingDirectory = output ++ [name]) :
    (Validation.artifactPath directory target).place tree.workingDirectory =
      output ++ name :: Validation.trail target := by
  rw [isTarget.place_artifactPath, place, List.append_assoc]
  rfl

/-- The checks of the output find the same in trees that are alike. -/
theorem Alike.outputDiagnostics_eq
    {output : Location}
    {directory : Path}
    (alike : Alike output name before after)
    (grounded : before.IsGrounded directory)
    (place : directory.place before.workingDirectory = output ++ [name])
    (isTarget : Validation.IsTarget target) :
    Validation.outputDiagnostics after directory (Validation.artifactPath directory target) =
      Validation.outputDiagnostics before directory
        (Validation.artifactPath directory target) := by
  have artifactGrounded : before.IsGrounded (Validation.artifactPath directory target) :=
    isTarget.isGrounded_artifactPath grounded
  have ends : EndsWithName (Validation.artifactPath directory target) :=
    isTarget.endsWithName_artifactPath directory
  have artifactPlace := place_artifactPath isTarget place
  have obstacle : Validation.isObstacle after directory =
      Validation.isObstacle before directory :=
    alike.isObstacle_eq grounded fun _ => .inr ⟨[], place ▸ List.prefix_rfl⟩
  have artifact :
      after.isDirectory (Validation.artifactPath directory target) =
        before.isDirectory (Validation.artifactPath directory target) := by
    rw [FileTree.isDirectory, FileTree.isDirectory,
      alike.afterTree.find?_eq_nodeAt? (alike.isGrounded artifactGrounded) ends,
      alike.beforeTree.find?_eq_nodeAt? artifactGrounded ends, alike.workingDirectory,
      artifactPlace, alike.nodeAt?_own]
  have modules : ∀ ancestor ∈ Validation.moduleDirectories directory
      (Validation.artifactPath directory target),
      Validation.isObstacle after ancestor = Validation.isObstacle before ancestor :=
    fun ancestor isMember => alike.isObstacle_ancestor_eq artifactGrounded artifactPlace
      (Validation.mem_ancestors_of_mem_moduleDirectories isMember)
  simp only [Validation.outputDiagnostics]
  rw [obstacle, artifact,
    List.flatMap_congr fun ancestor isMember => by rw [modules ancestor isMember]]

variable
  {input : Path}
  {declared : NamedSourceSet}

/-- What a source set is checked for is the same in trees that are alike. -/
theorem Alike.validate_eq
    (alike : Alike (output.place before.workingDirectory) declared.name before after)
    (apart : AreApart (input.place before.workingDirectory) (output.place before.workingDirectory))
    (reads : ReadsAlike input before after)
    (grounded : before.IsGrounded output)
    (keeps : declared.KeepsToDirectory) :
    Publication.validate declared.sourceSet after (input.join ⟨declared.name⟩)
        (output.join ⟨declared.name⟩) =
      Publication.validate declared.sourceSet before (input.join ⟨declared.name⟩)
        (output.join ⟨declared.name⟩) := by
  have targets : ∀ text,
      Validation.targetDiagnostics after (output.join ⟨declared.name⟩) text =
        Validation.targetDiagnostics before (output.join ⟨declared.name⟩) text := by
    intro text
    rw [Validation.targetDiagnostics, Validation.targetDiagnostics]
    split
    · rfl
    · rename_i target checked
      exact alike.outputDiagnostics_eq (isGrounded_own grounded keeps.name)
        (place_own _ keeps.name) (Validation.isTarget_of_checkTarget checked)
  simp only [Publication.validate, Validation.validate, alike.load_eq apart reads keeps,
    Validation.diagnostics, targets]

/-- Whether one tree changes like another one does: where that one changes it becomes the same, and
elsewhere it stays as it is. -/
structure ChangesLike
    (before changed after follower : FileTree) :
    Prop where
  workingDirectory : follower.workingDirectory = after.workingDirectory
  nodes :
    ∀ location,
      follower.nodeAt? location =
        if changed.nodeAt? location = before.nodeAt? location then after.nodeAt? location
        else changed.nodeAt? location

theorem ChangesLike.refl
    (before after : FileTree) :
    ChangesLike before before after after :=
  ⟨rfl, fun _ => (if_pos rfl).symm⟩

/-- The same file is written to two trees, with the directories above it. -/
theorem ChangesLike.of_written
    {changed follower : FileTree}
    {place : Location}
    {bytes : List UInt8}
    (directories :
      ∀ location, before.nodeAt? location = some .directory →
        after.nodeAt? location = some .directory)
    (differs : before.nodeAt? place ≠ some (.file bytes))
    (changedNodes :
      ∀ location,
        changed.nodeAt? location =
          if location = place then some (.file bytes)
          else if location <+: place.dropLast then some .directory
          else before.nodeAt? location)
    (followerNodes :
      ∀ location,
        follower.nodeAt? location =
          if location = place then some (.file bytes)
          else if location <+: place.dropLast then some .directory
          else after.nodeAt? location)
    (workingDirectory : follower.workingDirectory = after.workingDirectory) :
    ChangesLike before changed after follower := by
  refine ⟨workingDirectory, fun location => ?_⟩
  rw [followerNodes, changedNodes]
  by_cases here : location = place
  · have apart : some (FileNode.file bytes) ≠ before.nodeAt? location := by
      rw [here]
      exact differs.symm
    simp only [if_pos here, if_neg apart]
  · simp only [if_neg here]
    by_cases onTheWay : location <+: place.dropLast
    · simp only [if_pos onTheWay]
      split
      · rename_i same
        exact (directories _ same.symm).symm
      · rfl
    · simp only [if_neg onTheWay, if_true]

/-- A file below the part of the output directory is published alike. -/
theorem Alike.publish
    {output : Location}
    (alike : Alike output name before after)
    {path : Path}
    {further : List String}
    (grounded : before.IsGrounded path)
    (ends : EndsWithName path)
    (place : path.place before.workingDirectory = output ++ name :: further)
    (free : before.nodeAt? (path.place before.workingDirectory) ≠ some .directory)
    (bytes : List UInt8) :
    (Publication.publish after path bytes).2 = (Publication.publish before path bytes).2 ∧
      ChangesLike before (Publication.publish before path bytes).1 after
        (Publication.publish after path bytes).1 := by
  have followed : after.IsGrounded path := alike.isGrounded grounded
  have stands : after.nodeAt? (path.place after.workingDirectory) =
      before.nodeAt? (path.place before.workingDirectory) := by
    rw [alike.workingDirectory, place]
    exact alike.nodeAt?_own further
  have persists : ∀ location, location <+: (path.place before.workingDirectory).dropLast →
      Persists before after location := by
    intro location onTheWay
    have isAbove := onTheWay.trans (List.dropLast_prefix _)
    rw [place] at isAbove
    exact alike.persists isAbove
  have outcome := Publication.outcome_publish alike.beforeTree grounded ends free bytes
  generalize Publication.publish before path bytes = result at outcome ⊢
  cases outcome with
  | unchanged holds =>
      rw [Publication.publish_of_holds alike.afterTree followed ends (stands.trans holds)]
      exact ⟨rfl, .refl before after⟩
  | blocked isFile onTheWay parent =>
      obtain ⟨directory, sameParent, failed⟩ := Publication.publish_of_file
        alike.afterTree followed ends ((persists _ onTheWay).isFile_iff.mpr isFile)
        (by rwa [alike.workingDirectory]) bytes
      rw [parent, Option.some.injEq] at sameParent
      subst sameParent
      rw [failed, alike.start_eq]
      exact ⟨rfl, .refl before after⟩
  | written differs noFile workingDirectory nodes =>
      obtain ⟨follower, published, followerDirectory, followerNodes⟩ :=
        Publication.publish_of_noFile alike.afterTree followed ends (stands ▸ free)
          (stands ▸ differs) fun blocker content isFile onTheWay => by
            rw [alike.workingDirectory] at onTheWay
            exact noFile blocker content ((persists _ onTheWay).isFile_iff.mp isFile) onTheWay
      rw [published]
      rw [alike.workingDirectory] at followerNodes
      exact ⟨rfl, .of_written alike.directories differs nodes followerNodes followerDirectory⟩

end Own

end Phrasebook
