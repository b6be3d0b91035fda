import Mathlib
import Phrasebook.Proofs.Publication.Alike

namespace Phrasebook.Report

open FileTree

/-!
# Independence of source sets

Each source set changes nothing but its own part of the output directory and the directories above
it, and reads neither. So what becomes of it is the same whatever was processed before.
-/

/-- Whether the input and the output directory are apart, and the output path leads upwards only
from directories that exist. -/
structure AreSeparate
    (tree : FileTree)
    (input output : Path) :
    Prop where
  isTree : tree.IsTree
  grounded : tree.IsGrounded output
  apart : AreApart (input.place tree.workingDirectory) (output.place tree.workingDirectory)

/-! ## One source set -/

section Process

variable
  {command : Command}
  {before after : FileTree}
  {input output : Path}
  {declared : NamedSourceSet}

/-- In trees that are alike a source set gets the same report and makes the same changes. -/
theorem process_of_alike
    (command : Command)
    (separate : AreSeparate before input output)
    (alike : Alike (output.place before.workingDirectory) declared.name before after)
    (reads : ReadsAlike input before after)
    (keeps : declared.KeepsToDirectory) :
    (process command after input output declared).2 =
        (process command before input output declared).2 ∧
      ChangesLike before (process command before input output declared).1 after
        (process command after input output declared).1 := by
  have same := alike.validate_eq separate.apart reads separate.grounded keeps
  cases command with
  | validate =>
      simp only [process, same]
      exact ⟨trivial, .refl before after⟩
  | generate =>
      simp only [process]
      cases validated : Publication.validate declared.sourceSet before (input.join ⟨declared.name⟩)
          (output.join ⟨declared.name⟩) with
      | error failure =>
          rw [Publication.generate_of_invalid validated,
            Publication.generate_of_invalid (same.trans validated)]
          exact ⟨rfl, .refl before after⟩
      | ok bundle =>
          obtain ⟨isTarget, artifact⟩ := Publication.artifact_of_validate validated
          have clear := Publication.isClear_of_validate separate.isTree
            (isGrounded_own separate.grounded keeps.name) validated
          have published := alike.publish
            (isTarget.isGrounded_artifactPath (isGrounded_own separate.grounded keeps.name))
            (isTarget.endsWithName_artifactPath _)
            (place_artifactPath isTarget (place_own _ keeps.name)) clear.artifact
            (Publication.artifactBytes bundle)
          rw [Publication.generate_of_valid validated,
            Publication.generate_of_valid (same.trans validated), artifact]
          exact ⟨congrArg (ofGenerated declared.name) published.1, published.2⟩

theorem not_isPrefix_of_below
    {output location : Location}
    {name : String}
    (below : output ++ [name] <+: location) :
    ¬ location <+: output :=
  fun isAbove => absurd (below.trans isAbove).length_le (by simp)

/-- A location lies in the part of the output directory of one name at most. -/
theorem name_eq_of_below
    {output location : Location}
    {first second : String}
    (firstBelow : output ++ [first] <+: location)
    (secondBelow : output ++ [second] <+: location) :
    first = second := by
  have same := (List.prefix_of_prefix_length_le firstBelow secondBelow (by simp)).eq_of_length
    (by simp)
  simpa using same

/-- How a source set changes a tree: directories are created above its part of the output directory,
and whatever else changes lies there. -/
structure ChangesOwn
    (output : Location)
    (name : String)
    (before after : FileTree) :
    Prop where
  isTree : after.IsTree
  workingDirectory : after.workingDirectory = before.workingDirectory
  directories :
    ∀ location, before.nodeAt? location = some .directory →
      after.nodeAt? location = some .directory
  within :
    ∀ location, after.nodeAt? location ≠ before.nodeAt? location →
      location <+: output ∧ before.nodeAt? location = none ∧
          after.nodeAt? location = some .directory ∨
        output ++ [name] <+: location

theorem ChangesOwn.refl
    (isTree : before.IsTree)
    (output : Location)
    (name : String) :
    ChangesOwn output name before before :=
  ⟨isTree, rfl, fun _ isDirectory => isDirectory, fun _ differs => absurd rfl differs⟩

theorem changesOwn_publish
    {output : Location}
    {name : String}
    {path : Path}
    {further : List String}
    (isTree : before.IsTree)
    (grounded : before.IsGrounded path)
    (ends : EndsWithName path)
    (place : path.place before.workingDirectory = output ++ name :: further)
    (free : before.nodeAt? (path.place before.workingDirectory) ≠ some .directory)
    (bytes : List UInt8) :
    ChangesOwn output name before (Publication.publish before path bytes).1 := by
  have publishes := Publication.publishes_publish before path bytes
  have outcome := Publication.outcome_publish isTree grounded ends free bytes
  generalize Publication.publish before path bytes = result at outcome publishes ⊢
  cases outcome with
  | unchanged stands =>
      exact .refl isTree output name
  | blocked isFile onTheWay parent =>
      exact .refl isTree output name
  | written differs noFile workingDirectory nodes =>
      refine ⟨publishes.isTree isTree, workingDirectory, fun location isDirectory => ?_,
        fun location changed => ?_⟩
      · have apart : location ≠ path.place before.workingDirectory := by
          rintro rfl
          exact free isDirectory
        rw [nodes, if_neg apart, isDirectory, ite_self]
      · rw [nodes] at changed ⊢
        rw [place] at changed ⊢
        by_cases here : location = output ++ name :: further
        · exact .inr (here ▸ ⟨further, List.append_assoc output [name] further⟩)
        · rw [if_neg here] at changed ⊢
          by_cases onTheWay : location <+: (output ++ name :: further).dropLast
          · rw [if_pos onTheWay] at changed ⊢
            have absent : before.nodeAt? location = none := by
              cases stands : before.nodeAt? location with
              | none =>
                  rfl
              | some node =>
                  cases node with
                  | file content =>
                      exact absurd (place ▸ onTheWay) (noFile location content stands)
                  | directory =>
                      exact absurd stands.symm changed
            exact (isPrefix_or_isPrefix (onTheWay.trans (List.dropLast_prefix _))).imp_left
              fun isAbove => ⟨isAbove, absent, rfl⟩
          · rw [if_neg onTheWay] at changed
            exact absurd rfl changed

/-- Processing a source set changes its own part of the tree. -/
theorem changesOwn_process
    (command : Command)
    (separate : AreSeparate before input output)
    (keeps : declared.KeepsToDirectory) :
    ChangesOwn (output.place before.workingDirectory) declared.name before
      (process command before input output declared).1 := by
  cases command with
  | validate =>
      exact .refl separate.isTree _ _
  | generate =>
      cases validated : Publication.validate declared.sourceSet before (input.join ⟨declared.name⟩)
          (output.join ⟨declared.name⟩) with
      | error failure =>
          simp only [process, Publication.generate_of_invalid validated]
          exact .refl separate.isTree _ _
      | ok bundle =>
          obtain ⟨isTarget, artifact⟩ := Publication.artifact_of_validate validated
          have own := isGrounded_own separate.grounded keeps.name
          have clear := Publication.isClear_of_validate separate.isTree own validated
          simp only [process, Publication.generate_of_valid validated, artifact]
          exact changesOwn_publish separate.isTree (isTarget.isGrounded_artifactPath own)
            (isTarget.endsWithName_artifactPath _)
            (place_artifactPath isTarget (place_own _ keeps.name)) clear.artifact _

/-- A source set changes nothing unless the directory of its resources can be entered. -/
theorem process_eq_or_canEnter
    (keeps : declared.KeepsToDirectory) :
    (process command before input output declared).1 = before ∨ before.CanEnter input := by
  cases command with
  | validate =>
      exact .inl rfl
  | generate =>
      cases validated : Publication.validate declared.sourceSet before (input.join ⟨declared.name⟩)
          (output.join ⟨declared.name⟩) with
      | error failure =>
          exact .inl (by simp only [process, Publication.generate_of_invalid validated])
      | ok bundle =>
          obtain ⟨_, resources, _, loaded, _, _⟩ :=
            Validation.validate_eq_ok_iff.mp (Publication.validate_eq_ok_iff.mp validated)
          obtain ⟨-, root, isMember, -, bytes, read, -⟩ := ResourceSet.load_eq_ok loaded
          obtain ⟨shape, start⟩ := ResourceSet.segments_filePath input keeps.name
            (SourceSet.noSlash_fileName keeps.format (keeps.tags root isMember))
          obtain ⟨location, located, -⟩ := read_eq_ok.mp read
          exact .inr ((read_below (locate_eq_ok.mp located).1 start shape).mp read).1

/-- A source set that fails changes nothing. -/
theorem process_of_failed
    (separate : AreSeparate before input output)
    (keeps : declared.KeepsToDirectory)
    (failed : (process command before input output declared).2.isSuccess = false) :
    (process command before input output declared).1 = before := by
  cases command with
  | validate =>
      rfl
  | generate =>
      cases validated : Publication.validate declared.sourceSet before (input.join ⟨declared.name⟩)
          (output.join ⟨declared.name⟩) with
      | error failure =>
          simp only [process, Publication.generate_of_invalid validated]
      | ok bundle =>
          obtain ⟨isTarget, artifact⟩ := Publication.artifact_of_validate validated
          have own := isGrounded_own separate.grounded keeps.name
          have clear := Publication.isClear_of_validate separate.isTree own validated
          have outcome := Publication.outcome_publish separate.isTree
            (isTarget.isGrounded_artifactPath own) (isTarget.endsWithName_artifactPath _)
            clear.artifact (Publication.artifactBytes bundle)
          simp only [process, Publication.generate_of_valid validated, artifact] at failed ⊢
          generalize Publication.publish before _ (Publication.artifactBytes bundle) = result
            at outcome failed ⊢
          cases outcome with
          | unchanged stands =>
              rfl
          | blocked isFile onTheWay parent =>
              rfl
          | written differs noFile workingDirectory nodes =>
              cases failed

theorem processAll_cons
    (sourceSets : List NamedSourceSet) :
    processAll command input output before (declared :: sourceSets) =
      ((processAll command input output (process command before input output declared).1
          sourceSets).1,
        (process command before input output declared).2 ::
          (processAll command input output (process command before input output declared).1
            sourceSets).2) :=
  rfl

theorem isTree_process
    (isTree : before.IsTree) :
    (process command before input output declared).1.IsTree := by
  cases command with
  | validate =>
      exact isTree
  | generate =>
      exact Publication.isTree_generate isTree

end Process

/-! ## One source set after others -/

/-- Whether a tree has the changes that each of some source sets makes by itself, and no others. -/
structure Merges
    (command : Command)
    (input output : Path)
    (before : FileTree)
    (done : List NamedSourceSet)
    (after : FileTree) :
    Prop where
  isTree : after.IsTree
  workingDirectory : after.workingDirectory = before.workingDirectory
  kept :
    ∀ location,
      (∀ declared ∈ done,
        (process command before input output declared).1.nodeAt? location =
          before.nodeAt? location) →
      after.nodeAt? location = before.nodeAt? location
  gained :
    ∀ declared ∈ done, ∀ location,
      (process command before input output declared).1.nodeAt? location ≠
          before.nodeAt? location →
      after.nodeAt? location =
        (process command before input output declared).1.nodeAt? location

namespace Merges

variable
  {command : Command}
  {before after : FileTree}
  {input output : Path}
  {done : List NamedSourceSet}
  {declared : NamedSourceSet}

theorem nil
    (isTree : before.IsTree) :
    Merges command input output before [] before :=
  ⟨isTree, rfl, fun _ _ => rfl, fun _ isMember => absurd isMember List.not_mem_nil⟩

/-- What differs at a location has been changed by a source set, above or in its own part of the
output directory. -/
theorem change_cases
    (merges : Merges command input output before done after)
    (separate : AreSeparate before input output)
    (keeps : ∀ other ∈ done, other.KeepsToDirectory)
    (location : Location) :
    after.nodeAt? location = before.nodeAt? location ∨
      (location <+: output.place before.workingDirectory ∧
        before.nodeAt? location = none ∧ after.nodeAt? location = some .directory) ∨
      ∃ other ∈ done, output.place before.workingDirectory ++ [other.name] <+: location ∧
        (before.nodeAt? location = some .directory →
          after.nodeAt? location = some .directory) := by
  by_cases changed : ∃ other ∈ done,
      (process command before input output other).1.nodeAt? location ≠ before.nodeAt? location
  · obtain ⟨other, isMember, differs⟩ := changed
    have changes := changesOwn_process command separate (keeps other isMember)
    have same := merges.gained other isMember location differs
    rcases changes.within location differs with ⟨isAbove, absent, added⟩ | below
    · exact .inr (.inl ⟨isAbove, absent, same.trans added⟩)
    · exact .inr (.inr ⟨other, isMember, below, fun isDirectory =>
        same.trans (changes.directories location isDirectory)⟩)
  · refine .inl (merges.kept location fun other isMember => ?_)
    by_contra differs
    exact changed ⟨other, isMember, differs⟩

/-- What has been processed before leaves a tree that is alike for a source set of another name. -/
theorem alike
    (merges : Merges command input output before done after)
    (separate : AreSeparate before input output)
    (keeps : ∀ other ∈ done, other.KeepsToDirectory)
    {name : String}
    (fresh : ∀ other ∈ done, other.name ≠ name) :
    Alike (output.place before.workingDirectory) name before after := by
  have cases := merges.change_cases separate keeps
  refine ⟨separate.isTree, merges.isTree, merges.workingDirectory, ?_, ?_, ?_, ?_⟩
  · intro location isDirectory
    rcases cases location with same | ⟨-, absent, -⟩ | ⟨other, -, -, stays⟩
    · rw [same, isDirectory]
    · rw [isDirectory] at absent
      cases absent
    · exact stays isDirectory
  · intro location isAbove
    rcases cases location with same | ⟨-, added⟩ | ⟨other, -, below, -⟩
    · exact .inl same
    · exact .inr added
    · exact absurd isAbove (not_isPrefix_of_below below)
  · intro location below
    rcases cases location with same | ⟨isAbove, -⟩ | ⟨other, isMember, otherBelow, -⟩
    · exact same
    · exact absurd isAbove (not_isPrefix_of_below below)
    · exact absurd (name_eq_of_below otherBelow below) (fresh other isMember)
  · intro location notAbove notBelow
    rcases cases location with same | ⟨isAbove, -⟩ | ⟨other, -, below, -⟩
    · exact same
    · exact absurd isAbove notAbove
    · exact absurd ((List.prefix_append _ _).trans below) notBelow

theorem readsAlike
    (merges : Merges command input output before done after)
    (keeps : ∀ other ∈ done, other.KeepsToDirectory) :
    ReadsAlike input before after := by
  by_cases entered : before.CanEnter input
  · exact .inl entered
  · refine .inr fun location => merges.kept location fun other isMember => ?_
    rw [(process_eq_or_canEnter (keeps other isMember)).resolve_right entered]

/-- Two source sets with different names change no location in different ways. -/
theorem agree_of_names
    (separate : AreSeparate before input output)
    {first second : NamedSourceSet}
    (firstKeeps : first.KeepsToDirectory)
    (secondKeeps : second.KeepsToDirectory)
    (apart : first.name ≠ second.name)
    {location : Location}
    (firstDiffers :
      (process command before input output first).1.nodeAt? location ≠ before.nodeAt? location)
    (secondDiffers :
      (process command before input output second).1.nodeAt? location ≠ before.nodeAt? location) :
    (process command before input output first).1.nodeAt? location =
      (process command before input output second).1.nodeAt? location := by
  rcases (changesOwn_process command separate firstKeeps).within location firstDiffers with
    ⟨isAbove, -, added⟩ | below
  · rcases (changesOwn_process command separate secondKeeps).within location secondDiffers with
      ⟨-, -, otherAdded⟩ | otherBelow
    · exact added.trans otherAdded.symm
    · exact absurd isAbove (not_isPrefix_of_below otherBelow)
  · rcases (changesOwn_process command separate secondKeeps).within location secondDiffers with
      ⟨isAbove, -, -⟩ | otherBelow
    · exact absurd isAbove (not_isPrefix_of_below below)
    · exact absurd (name_eq_of_below below otherBelow) apart

/-- One more source set adds its own changes, and gets the report that it gets by itself. -/
theorem cons
    (merges : Merges command input output before done after)
    (separate : AreSeparate before input output)
    (keepsDone : ∀ other ∈ done, other.KeepsToDirectory)
    (keeps : declared.KeepsToDirectory)
    (fresh : ∀ other ∈ done, other.name ≠ declared.name) :
    (process command after input output declared).2 =
        (process command before input output declared).2 ∧
      Merges command input output before (declared :: done)
        (process command after input output declared).1 := by
  obtain ⟨report, changes⟩ := process_of_alike command separate
    (merges.alike separate keepsDone fresh) (merges.readsAlike keepsDone) keeps
  refine ⟨report, isTree_process merges.isTree,
    changes.workingDirectory.trans merges.workingDirectory, fun location same => ?_,
    List.forall_mem_cons.mpr
      ⟨fun location differs => ?_, fun other isMember location differs => ?_⟩⟩
  · rw [List.forall_mem_cons] at same
    rw [changes.nodes, if_pos same.1, merges.kept location same.2]
  · rw [changes.nodes, if_neg differs]
  · have gained := merges.gained other isMember location differs
    rw [changes.nodes]
    split
    · exact gained
    · rename_i alsoDiffers
      exact agree_of_names separate keeps (keepsDone other isMember) (fresh other isMember).symm
        alsoDiffers differs

/-- Every source set of a list gets the report that it gets by itself, and the changes of all are
merged. -/
theorem append
    (merges : Merges command input output before done after)
    (separate : AreSeparate before input output)
    {sourceSets : List NamedSourceSet}
    (keepsDone : ∀ other ∈ done, other.KeepsToDirectory)
    (keeps : ∀ declared ∈ sourceSets, declared.KeepsToDirectory)
    (fresh : ∀ other ∈ done, ∀ declared ∈ sourceSets, other.name ≠ declared.name)
    (distinct : (sourceSets.map (·.name)).Nodup) :
    (processAll command input output after sourceSets).2 =
        sourceSets.map (fun declared => (process command before input output declared).2) ∧
      Merges command input output before (sourceSets.reverse ++ done)
        (processAll command input output after sourceSets).1 := by
  induction sourceSets generalizing done after with
  | nil =>
      exact ⟨rfl, merges⟩
  | cons declared sourceSets inductionHypothesis =>
      rw [List.forall_mem_cons] at keeps
      rw [List.map_cons, List.nodup_cons] at distinct
      obtain ⟨report, next⟩ := merges.cons separate keepsDone keeps.1
        fun other isMember => fresh other isMember declared List.mem_cons_self
      have nextFresh : ∀ other ∈ declared :: done, ∀ later ∈ sourceSets,
          other.name ≠ later.name := by
        refine List.forall_mem_cons.mpr ⟨fun later isLater same => ?_, ?_⟩
        · exact distinct.1 (same ▸ List.mem_map_of_mem isLater)
        · exact fun other isMember later isLater =>
            fresh other isMember later (List.mem_cons_of_mem _ isLater)
      obtain ⟨reports, final⟩ := inductionHypothesis next
        (List.forall_mem_cons.mpr ⟨keeps.1, keepsDone⟩) keeps.2 nextFresh distinct.2
      rw [processAll_cons, List.map_cons, reports, report, List.reverse_cons, List.append_assoc]
      exact ⟨rfl, final⟩

theorem of_processAll
    (command : Command)
    (separate : AreSeparate before input output)
    {sourceSets : List NamedSourceSet}
    (keeps : ∀ declared ∈ sourceSets, declared.KeepsToDirectory)
    (distinct : (sourceSets.map (·.name)).Nodup) :
    (processAll command input output before sourceSets).2 =
        sourceSets.map (fun declared => (process command before input output declared).2) ∧
      Merges command input output before sourceSets.reverse
        (processAll command input output before sourceSets).1 := by
  have nothing : ∀ {property : NamedSourceSet → Prop}, ∀ other ∈ [], property other :=
    fun _ isMember => absurd isMember List.not_mem_nil
  have start : Merges command input output before [] before := nil separate.isTree
  have both := start.append separate nothing keeps nothing distinct
  rwa [List.append_nil] at both

/-- Trees that have the changes of the same source sets are the same, source sets without changes
aside. -/
theorem nodeAt?_eq
    {first second : FileTree}
    {other : List NamedSourceSet}
    (merges : Merges command input output before done first)
    (otherMerges : Merges command input output before other second)
    (inOther :
      ∀ declared ∈ done,
        declared ∈ other ∨ (process command before input output declared).1 = before)
    (inDone :
      ∀ declared ∈ other,
        declared ∈ done ∨ (process command before input output declared).1 = before)
    (location : Location) :
    first.nodeAt? location = second.nodeAt? location := by
  by_cases changed : ∃ declared ∈ done,
      (process command before input output declared).1.nodeAt? location ≠ before.nodeAt? location
  · obtain ⟨declared, isMember, differs⟩ := changed
    have alsoMember : declared ∈ other := (inOther declared isMember).resolve_right fun same =>
      differs (by rw [same])
    rw [merges.gained declared isMember location differs,
      otherMerges.gained declared alsoMember location differs]
  · have same : ∀ declared ∈ done,
        (process command before input output declared).1.nodeAt? location =
          before.nodeAt? location := by
      intro declared isMember
      by_contra differs
      exact changed ⟨declared, isMember, differs⟩
    rw [merges.kept location same, otherMerges.kept location fun declared isMember => ?_]
    rcases inDone declared isMember with alsoMember | unchanged
    · exact same declared alsoMember
    · rw [unchanged]

end Merges

/-! ## Main result -/

/-- Whether two trees have the same files and directories, and paths start at the same place. -/
structure SameFiles
    (first second : FileTree) :
    Prop where
  workingDirectory : first.workingDirectory = second.workingDirectory
  nodes : ∀ location, first.nodeAt? location = second.nodeAt? location

/-- What it means that the source sets of a list are processed independently. In every order each of
them gets the report that it gets by itself, and the reports stand in that order; every order leaves
the same files; and neither changes if source sets that fail are left out. -/
structure AreIndependent
    (command : Command)
    (input output : Path)
    (tree : FileTree)
    (sourceSets : List NamedSourceSet) :
    Prop where
  reports :
    ∀ order : List NamedSourceSet, order.Perm sourceSets →
      (processAll command input output tree order).2 =
        order.map fun declared => (process command tree input output declared).2
  files :
    ∀ order : List NamedSourceSet, order.Perm sourceSets →
      SameFiles (processAll command input output tree order).1
        (processAll command input output tree sourceSets).1
  failures :
    ∀ kept : List NamedSourceSet, kept.Sublist sourceSets →
      (∀ declared ∈ sourceSets, declared ∉ kept →
        (process command tree input output declared).2.isSuccess = false) →
      (processAll command input output tree kept).2 =
          kept.map (fun declared => (process command tree input output declared).2) ∧
        SameFiles (processAll command input output tree kept).1
          (processAll command input output tree sourceSets).1

/-- Source sets with different names are processed independently if their names, the formats of
their file names and the tags of their locales keep to one directory each. -/
theorem areIndependent_of_distinct
    {command : Command}
    {input output : Path}
    {tree : FileTree}
    {sourceSets : List NamedSourceSet}
    (separate : AreSeparate tree input output)
    (keeps : ∀ declared ∈ sourceSets, declared.KeepsToDirectory)
    (distinct : (sourceSets.map (·.name)).Nodup) :
    AreIndependent command input output tree sourceSets := by
  obtain ⟨-, final⟩ := Merges.of_processAll command separate keeps distinct
  refine ⟨fun order same => ?_, fun order same => ?_, fun kept isPart failed => ?_⟩
  · have orderKeeps := fun declared isMember => keeps declared (same.subset isMember)
    exact (Merges.of_processAll command separate orderKeeps ((same.map _).nodup_iff.mpr distinct)).1
  · have orderKeeps := fun declared isMember => keeps declared (same.subset isMember)
    obtain ⟨-, merges⟩ :=
      Merges.of_processAll command separate orderKeeps ((same.map _).nodup_iff.mpr distinct)
    refine ⟨merges.workingDirectory.trans final.workingDirectory.symm,
      merges.nodeAt?_eq final ?_ ?_⟩
    · exact fun declared isMember => .inl (by simpa [same.mem_iff] using isMember)
    · exact fun declared isMember => .inl (by simpa [same.mem_iff] using isMember)
  · have keptKeeps := fun declared isMember => keeps declared (isPart.subset isMember)
    obtain ⟨reports, merges⟩ :=
      Merges.of_processAll command separate keptKeeps (distinct.sublist (isPart.map _))
    refine ⟨reports, merges.workingDirectory.trans final.workingDirectory.symm,
      merges.nodeAt?_eq final ?_ ?_⟩
    · exact fun declared isMember => .inl
        (List.mem_reverse.mpr (isPart.subset (List.mem_reverse.mp isMember)))
    · -- What is left out has failed, so it changes nothing.
      intro declared isMember
      have isMember : declared ∈ sourceSets := List.mem_reverse.mp isMember
      by_cases isKept : declared ∈ kept
      · exact .inl (List.mem_reverse.mpr isKept)
      · exact .inr (process_of_failed separate (keeps declared isMember)
          (failed declared isMember isKept))

/-- The output path leads back from a directory that exists, and one of the source sets has no
resources. -/
theorem areIndependent_of_distinct_two_names :
    let tree : FileTree := {
      nodes := [
        (["res"], .directory), (["res", "a"], .directory),
        (["res", "a", "messages.properties"], .file []), (["old"], .directory)
      ]
    }
    let sourceSets : List NamedSourceSet :=
      [⟨"b", Publication.plainSourceSet⟩, ⟨"a", Publication.plainSourceSet⟩]
    AreSeparate tree ⟨"res"⟩ ⟨"old/../out"⟩ ∧
      (∀ declared ∈ sourceSets, declared.KeepsToDirectory) ∧
      (sourceSets.map (·.name)).Nodup ∧
      AreIndependent .generate ⟨"res"⟩ ⟨"old/../out"⟩ tree sourceSets := by
  intro tree sourceSets
  have separate : AreSeparate tree ⟨"res"⟩ ⟨"old/../out"⟩ :=
    ⟨.of_nodes rfl (by decide), by decide +kernel, by decide +kernel, by decide +kernel⟩
  have keeps : ∀ declared ∈ sourceSets, declared.KeepsToDirectory := by
    intro declared isMember
    simp only [sourceSets, List.mem_cons, List.not_mem_nil, or_false] at isMember
    rcases isMember with rfl | rfl
    · exact ⟨⟨by decide, by decide, by decide⟩, by decide +kernel, by decide⟩
    · exact ⟨⟨by decide, by decide, by decide⟩, by decide +kernel, by decide⟩
  have distinct : (sourceSets.map (·.name)).Nodup := by decide
  exact ⟨separate, keeps, distinct, areIndependent_of_distinct separate keeps distinct⟩

/-- The output path leads back from a directory that does not exist. Whichever source set is first
does not see what stands in place of its file, creates the missing directory and fails only then;
the other one is refused by the checks. -/
theorem order_matters_behind_missing_directory :
    let tree : FileTree := {
      nodes := [
        (["res"], .directory),
        (["res", "a"], .directory), (["res", "a", "messages.properties"], .file []),
        (["res", "b"], .directory), (["res", "b", "messages.properties"], .file []),
        (["out"], .directory),
        (["out", "a"], .directory), (["out", "a", "i18n"], .directory),
        (["out", "a", "i18n", "messages.rs"], .directory),
        (["out", "b"], .directory), (["out", "b", "i18n"], .directory),
        (["out", "b", "i18n", "messages.rs"], .directory)
      ]
    }
    let first : NamedSourceSet := ⟨"a", Publication.plainSourceSet⟩
    let second : NamedSourceSet := ⟨"b", Publication.plainSourceSet⟩
    let failure (name : String) (kind : DiagnosticKind) (message : String) : Report := {
      sourceSet := name
      status := .failed
      diagnostics := [{
        kind := kind
        message := message
        file := some ⟨"x/../out/" ++ name ++ "/i18n/messages.rs"⟩
      }]
    }
    tree.IsTree ∧
      AreApart (Path.place tree.workingDirectory ⟨"res"⟩)
        (Path.place tree.workingDirectory ⟨"x/../out"⟩) ∧
      (processAll .generate ⟨"res"⟩ ⟨"x/../out"⟩ tree [first, second]).2 =
        [failure "a" .emit FileFault.isDirectory.message,
          failure "b" .validation "artifact path is an existing directory"] ∧
      (processAll .generate ⟨"res"⟩ ⟨"x/../out"⟩ tree [second, first]).2 =
        [failure "b" .emit FileFault.isDirectory.message,
          failure "a" .validation "artifact path is an existing directory"] := by
  intro tree first second failure
  have alone : ∀ name ∈ ["a", "b"],
      process .generate tree ⟨"res"⟩ ⟨"x/../out"⟩ ⟨name, Publication.plainSourceSet⟩ =
        (tree.put ["x"] .directory, failure name .emit FileFault.isDirectory.message) := by
    intro name isMember
    have path : (Validation.artifactPath (Path.join ⟨"x/../out"⟩ ⟨name⟩) ⟨["i18n"], "Messages"⟩) =
        ⟨"x/../out/" ++ name ++ "/i18n/messages.rs"⟩ := by
      revert name
      decide +kernel
    obtain ⟨bundle, validated, artifact⟩ := Publication.validate_plainSourceSet tree
      (Path.join ⟨"res"⟩ ⟨name⟩) (Path.join ⟨"x/../out"⟩ ⟨name⟩)
      (by revert name; decide +kernel) (by revert name; decide +kernel)
    simp only [process]
    rw [Publication.generate_of_valid validated, artifact, path]
    simp only [List.mem_cons, List.not_mem_nil, or_false] at isMember
    rcases isMember with rfl | rfl
    · rfl
    · rfl
  have later : ∀ name ∈ ["a", "b"],
      process .generate (tree.put ["x"] .directory) ⟨"res"⟩ ⟨"x/../out"⟩
          ⟨name, Publication.plainSourceSet⟩ =
        (tree.put ["x"] .directory,
          failure name .validation "artifact path is an existing directory") := by
    intro name isMember
    let problem : Diagnostic := {
      kind := .validation
      message := "artifact path is an existing directory"
      file := some ⟨"x/../out/" ++ name ++ "/i18n/messages.rs"⟩
    }
    have found :
        Validation.outputDiagnostics (tree.put ["x"] .directory)
          (Path.join ⟨"x/../out"⟩ ⟨name⟩)
          (Validation.artifactPath (Path.join ⟨"x/../out"⟩ ⟨name⟩) ⟨["i18n"], "Messages"⟩) =
            [problem] := by
      revert name
      decide +kernel
    have refused := Publication.validate_plainSourceSet_of_problem
      (tree.put ["x"] .directory) (Path.join ⟨"res"⟩ ⟨name⟩) _
      (by revert name; decide +kernel) found
    simp only [process]
    rw [Publication.generate_of_invalid refused]
    rfl
  refine ⟨.of_nodes rfl (by decide), ⟨by decide +kernel, by decide +kernel⟩, ?_, ?_⟩
  · rw [processAll_cons, alone "a" (by decide), processAll_cons, later "b" (by decide)]
    rfl
  · rw [processAll_cons, alone "b" (by decide), processAll_cons, later "a" (by decide)]
    rfl

end Phrasebook.Report
