import Mathlib
import Phrasebook.Proofs.Publication

namespace Phrasebook

open FileTree Publication

/-!
# Sessions

A session is a sequence of runs into one output directory. Between the runs the configuration and
the files outside the output directory may change in any way. At every time the output directory
holds what the latest successful run for each generated file rendered, and nothing else.
-/

/-- The state between two steps of a session. The files that runs have published stand with their
bytes, the latest one first. -/
structure Session where
  sourceSet : SourceSet
  input : Path
  tree : FileTree
  published : List (Path × List UInt8)

namespace Session

/-- The location of the output directory. -/
def directory
    (output : Path)
    (session : Session) :
    Location :=
  output.place session.tree.workingDirectory

/-- The bundle of the present configuration and resources, or why there is none. -/
def validate
    (output : Path)
    (session : Session) :
    Except Failure Bundle :=
  Publication.validate session.sourceSet session.tree session.input output

/-- The tree after a run in the present state, and the answer of the run. -/
def generate
    (output : Path)
    (session : Session) :
    FileTree × Except Failure Generated :=
  Publication.generate session.sourceSet session.tree session.input output

/-- The state after a run. -/
def afterRun
    (output : Path)
    (session : Session) :
    Session :=
  match session.validate output, session.generate output with
  | .ok bundle, (tree, .ok _) =>
      { session with
        tree := tree
        published :=
          (bundle.artifact, Text.encodeUtf8 (Code.render bundle).toList) :: session.published }
  | _, (tree, _) => { session with tree := tree }

/-- What may happen next in a session. An edit keeps the files below the output directory, and
validation only reads. -/
inductive Step
    (output : Path) :
    Session →
    Session →
    Prop where
  | edit
      {session : Session}
      {tree : FileTree}
      (isTree : tree.IsTree)
      (workingDirectory : tree.workingDirectory = session.tree.workingDirectory)
      (kept :
        ∀ location, IsBelow (session.directory output) location →
          tree.fileAt? location = session.tree.fileAt? location) :
      Step output session { session with tree := tree }
  | configure
      (session : Session)
      (sourceSet : SourceSet)
      (input : Path) :
      Step output session { session with sourceSet := sourceSet, input := input }
  | validate
      (session : Session) :
      Step output session session
  | generate
      (session : Session) :
      Step output session (session.afterRun output)

theorem afterRun_of_ok
    {output : Path}
    {session : Session}
    {bundle : Bundle}
    {tree : FileTree}
    {answer : Generated}
    (validated : session.validate output = .ok bundle)
    (generated : session.generate output = (tree, .ok answer)) :
    session.afterRun output =
      { session with
        tree := tree
        published :=
          (bundle.artifact, Text.encodeUtf8 (Code.render bundle).toList) :: session.published } := by
  rw [afterRun, validated, generated]

theorem afterRun_of_error
    {output : Path}
    {session : Session}
    {tree : FileTree}
    {failure : Failure}
    (generated : session.generate output = (tree, .error failure)) :
    session.afterRun output = { session with tree := tree } := by
  rw [afterRun, generated]
  cases session.validate output <;> rfl

/-! ## The invariant -/

/-- Whether the files below the output directory are exactly the published ones, each with the
bytes that it was last given. -/
def HoldsPublished
    (output : Path)
    (session : Session) :
    Prop :=
  ∀ location bytes,
    IsBelow (session.directory output) location ∧ session.tree.fileAt? location = some bytes ↔
      ∃ path,
        path.place session.tree.workingDirectory = location ∧
        session.published.lookup path = some bytes

/-- What holds in every state of a session. -/
structure IsSound
    (output : Path)
    (session : Session) :
    Prop where
  isTree : session.tree.IsTree
  artifacts :
    ∀ entry ∈ session.published,
      ∃ target, Validation.IsTarget target ∧ entry.1 = Validation.artifactPath output target
  holds : session.HoldsPublished output

/-- A session is sound at its start, when there is nothing below the output directory. -/
theorem isSound_of_empty
    {output : Path}
    {session : Session}
    (isTree : session.tree.IsTree)
    (unpublished : session.published = [])
    (empty :
      ∀ location, IsBelow (session.directory output) location →
        session.tree.fileAt? location = none) :
    session.IsSound output := by
  refine ⟨isTree, by simp [unpublished], fun location bytes => ?_⟩
  rw [unpublished]
  constructor
  · rintro ⟨below, isFile⟩
    rw [empty location below] at isFile
    cases isFile
  · rintro ⟨path, -, found⟩
    cases found

namespace IsSound

variable
  {output : Path}
  {session : Session}

/-- A state is sound if its files below the output directory are those of a sound state. -/
theorem congr
    (sound : session.IsSound output)
    {next : Session}
    (isTree : next.tree.IsTree)
    (workingDirectory : next.tree.workingDirectory = session.tree.workingDirectory)
    (published : next.published = session.published)
    (kept :
      ∀ location, IsBelow (session.directory output) location →
        next.tree.fileAt? location = session.tree.fileAt? location) :
    next.IsSound output := by
  refine ⟨isTree, published ▸ sound.artifacts, fun location bytes => ?_⟩
  have same : next.directory output = session.directory output :=
    congrArg output.place workingDirectory
  rw [same, workingDirectory, published, ← sound.holds location bytes]
  refine and_congr_right fun below => ?_
  rw [kept location below]

/-- A state is sound after a run has given a generated file its bytes. -/
theorem publish
    (sound : session.IsSound output)
    {tree : FileTree}
    {target : TargetName}
    {bytes : List UInt8}
    (isTarget : Validation.IsTarget target)
    (gains : Gains (Validation.artifactPath output target) bytes session.tree tree)
    (isTree : tree.IsTree) :
    IsSound output
      { session with
        tree := tree
        published := (Validation.artifactPath output target, bytes) :: session.published } := by
  refine ⟨isTree, ?_, fun location content => ?_⟩
  · exact List.forall_mem_cons.mpr ⟨⟨target, isTarget, rfl⟩, sound.artifacts⟩
  simp only [directory, gains.workingDirectory, gains.fileAt?_eq, List.lookup_cons]
  by_cases here :
      location =
        (Validation.artifactPath output target).place session.tree.workingDirectory
  · rw [if_pos here]
    constructor
    · rintro ⟨-, same⟩
      exact ⟨_, here.symm, by simpa using same⟩
    · rintro ⟨path, place, found⟩
      have below := isTarget.isBelow_artifactPath session.tree.workingDirectory output
      refine ⟨here ▸ below, ?_⟩
      by_cases same : path = Validation.artifactPath output target
      · simpa [same] using found
      · -- What else was published is published at another place.
        rw [beq_eq_false_iff_ne.mpr same] at found
        obtain ⟨other, isOther, path_eq⟩ := sound.artifacts _ (mem_of_lookup found)
        refine absurd ?_ same
        subst path_eq
        exact Validation.artifactPath_eq_of_place isOther isTarget (place.trans here)
  · rw [if_neg here, ← directory, sound.holds location content]
    refine exists_congr fun path => and_congr_right fun place => ?_
    have apart : path ≠ Validation.artifactPath output target := by
      rintro rfl
      exact here place.symm
    rw [beq_eq_false_iff_ne.mpr apart]

/-- Each step of a session leads from a sound state to a sound state. -/
theorem step
    (sound : session.IsSound output)
    {next : Session}
    (step : Step output session next) :
    next.IsSound output := by
  cases step with
  | edit isTree workingDirectory kept =>
      exact sound.congr isTree workingDirectory rfl kept
  | configure sourceSet input =>
      exact sound.congr sound.isTree rfl rfl fun _ _ => rfl
  | validate =>
      exact sound
  | generate =>
      have isTree : (session.generate output).1.IsTree := isTree_generate sound.isTree
      have workingDirectory :
          (session.generate output).1.workingDirectory = session.tree.workingDirectory :=
        workingDirectory_generate
      cases generated : session.generate output with
      | mk tree answer =>
          rw [generated] at isTree workingDirectory
          cases answer with
          | error failure =>
              rw [afterRun_of_error generated]
              exact sound.congr isTree workingDirectory rfl fun location _ =>
                fileAt?_of_generate_error generated location
          | ok answer =>
              obtain ⟨bundle, validated, -, gains⟩ := gains_of_generate generated
              obtain ⟨isTarget, artifact⟩ := artifact_of_validate validated
              rw [afterRun_of_ok validated generated, artifact]
              rw [artifact] at gains
              exact sound.publish isTarget gains isTree

theorem steps
    (sound : session.IsSound output)
    {next : Session}
    (steps : Relation.ReflTransGen (Step output) session next) :
    next.IsSound output := by
  induction steps with
  | refl =>
      exact sound
  | tail _ last inductionHypothesis =>
      exact inductionHypothesis.step last

end IsSound

/-! ## Main result -/

/-- What holds of the output directory and of the next run in every state of a session. -/
structure IsFaithful
    (output : Path)
    (session : Session) :
    Prop where
  holds : session.HoldsPublished output
  failed :
    ∀ tree failure, session.generate output = (tree, .error failure) →
      ∀ location, tree.fileAt? location = session.tree.fileAt? location
  unchanged :
    ∀ path,
      (session.generate output).2 = .ok (.unchanged path) ↔
        ∃ bundle,
          session.validate output = .ok bundle ∧
          bundle.artifact = path ∧
          session.tree.read bundle.artifact = .ok (Text.encodeUtf8 (Code.render bundle).toList)
  again :
    (∀ locale ∈ session.sourceSet.locales,
        ".." ∉ (ResourceSet.filePath session.sourceSet session.input locale).segments ∧
          ¬IsBelow (session.directory output)
            ((ResourceSet.filePath session.sourceSet session.input locale).place
              session.tree.workingDirectory)) →
      ∀ tree answer, session.generate output = (tree, .ok answer) →
        ∃ bundle,
          session.validate output = .ok bundle ∧
          (session.afterRun output).validate output = .ok bundle ∧
          tree.read answer.path = .ok (Text.encodeUtf8 (Code.render bundle).toList) ∧
          (session.afterRun output).generate output = (tree, .ok (.unchanged answer.path))

/-- At every time of a session that starts with nothing below the output directory, the files below
it are the published ones with the bytes last given to them. A run that fails changes no file, a
run leaves a file unchanged just if it has its bytes already, and a run that directly follows a
successful one finds the file as that one left it, if the resources are elsewhere. -/
theorem isFaithful_of_steps
    {output : Path}
    {initial session : Session}
    (isTree : initial.tree.IsTree)
    (unpublished : initial.published = [])
    (empty :
      ∀ location, IsBelow (initial.directory output) location →
        initial.tree.fileAt? location = none)
    (steps : Relation.ReflTransGen (Step output) initial session) :
    session.IsFaithful output := by
  have sound := (isSound_of_empty isTree unpublished empty).steps steps
  refine ⟨sound.holds, fun tree failure => fileAt?_of_generate_error,
    fun path => generate_unchanged_iff, fun elsewhere tree answer generated => ?_⟩
  obtain ⟨bundle, validated, again, holds, unchanged⟩ :=
    generate_again sound.isTree (fun locale isMember => (elsewhere locale isMember).1)
      (fun locale isMember => (elsewhere locale isMember).2) generated
  rw [afterRun_of_ok validated generated]
  exact ⟨bundle, validated, again, holds, unchanged⟩

/-- A run into an output directory that does not exist yet, and what a further run would do. -/
theorem isFaithful_after_first_run :
    let sourceSet : SourceSet := {
      targetName := "i18n::Messages"
      locales := [⟨"", 1, "0"⟩]
    }
    let tree : FileTree := {
      nodes := [(["messages.properties"], .file "a=b".toUTF8.data.toList)]
    }
    let initial : Session := ⟨sourceSet, ⟨"."⟩, tree, []⟩
    let session := initial.afterRun ⟨"out"⟩
    Relation.ReflTransGen (Step ⟨"out"⟩) initial session ∧
      session.IsFaithful ⟨"out"⟩ ∧
      ∃ bytes, session.published = [(⟨"out/i18n/messages.rs"⟩, bytes)] ∧
        session.tree.fileAt? ["out", "i18n", "messages.rs"] = some bytes ∧
        session.generate ⟨"out"⟩ = (session.tree, .ok (.unchanged ⟨"out/i18n/messages.rs"⟩)) := by
  intro sourceSet tree initial session
  have isTree : tree.IsTree := .of_nodes rfl (by decide)
  have empty : ∀ location, IsBelow (initial.directory ⟨"out"⟩) location →
      initial.tree.fileAt? location = none := by
    rintro _ ⟨further, -, rfl⟩
    have directory : initial.directory ⟨"out"⟩ = ["out"] := by decide +kernel
    rw [directory, fileAt?]
    simp [initial, tree, nodeAt?, List.lookup_cons]
  have steps : Relation.ReflTransGen (Step ⟨"out"⟩) initial session :=
    .single (.generate initial)
  have faithful := isFaithful_of_steps isTree rfl empty steps
  refine ⟨steps, faithful, ?_⟩
  let root : ResourceFile := ⟨"", ⟨"./messages.properties"⟩, [⟨"a", ["b"], 1⟩]⟩
  let resources : ResourceSet := ⟨root, [.loaded root], []⟩
  have target : Validation.checkTarget "i18n::Messages" = .ok ⟨["i18n"], "Messages"⟩ := by
    decide +kernel
  have loaded : ResourceSet.load sourceSet tree ⟨"."⟩ = .ok resources := by decide +kernel
  obtain ⟨bundle, accepted, found⟩ : ∃ bundle,
      Validation.validate sourceSet tree ⟨"."⟩ ⟨"out"⟩ = .ok bundle ∧ _ :=
    Validation.exists_bundle_of_knownRules (by decide) rfl loaded (by decide +kernel)
  have artifact : bundle.artifact = ⟨"out/i18n/messages.rs"⟩ := by
    obtain ⟨isTarget, _, _, _, _, path⟩ := Validation.parts_of_bundleOf? found
    rw [target, Except.ok.injEq] at isTarget
    rw [path, ← isTarget]
    decide +kernel
  have validated : initial.validate ⟨"out"⟩ = .ok bundle :=
    Publication.validate_eq_ok_iff.mpr accepted
  obtain ⟨after, written, workingDirectory⟩ : ∃ after,
      publish tree ⟨"out/i18n/messages.rs"⟩ (artifactBytes bundle) =
          (after, .ok (.written ⟨"out/i18n/messages.rs"⟩)) ∧
        after.workingDirectory = [] :=
    ⟨_, rfl, rfl⟩
  have generated : initial.generate ⟨"out"⟩ = (after, .ok (.written ⟨"out/i18n/messages.rs"⟩)) :=
    (generate_of_valid validated).trans (artifact ▸ written)
  have state : session =
      ⟨sourceSet, ⟨"."⟩, after, [(⟨"out/i18n/messages.rs"⟩, artifactBytes bundle)]⟩ :=
    artifact ▸ afterRun_of_ok validated generated
  have elsewhere : ∀ locale ∈ sourceSet.locales,
      ".." ∉ (ResourceSet.filePath sourceSet ⟨"."⟩ locale).segments ∧
        ¬IsBelow (initial.directory ⟨"out"⟩)
          ((ResourceSet.filePath sourceSet ⟨"."⟩ locale).place tree.workingDirectory) := by
    decide +kernel
  obtain ⟨_, _, _, _, again⟩ :=
    (isFaithful_of_steps isTree rfl empty .refl).again elsewhere after _ generated
  have place : Path.place session.tree.workingDirectory ⟨"out/i18n/messages.rs"⟩ =
      ["out", "i18n", "messages.rs"] := by
    rw [state, workingDirectory]
    decide +kernel
  have file := (faithful.holds ["out", "i18n", "messages.rs"] (artifactBytes bundle)).mpr
    ⟨⟨"out/i18n/messages.rs"⟩, place, by simp [state]⟩
  have sessionTree : session.tree = after := by rw [state]
  refine ⟨artifactBytes bundle, by rw [state], file.2, ?_⟩
  rw [sessionTree]
  exact again

end Session

end Phrasebook
