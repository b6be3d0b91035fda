import Phrasebook.Proofs.Path.Below
import Phrasebook.Proofs.TargetName
import Phrasebook.Validation.Output

namespace Phrasebook.Validation

/-!
# Module directories

The file of a target with legal names lies below the output directory, each of its modules being one
directory on the way. The checks look at just these directories, and stop at the output directory
however it is written.
-/

variable {target : TargetName}

/-! ## Names on the way to the generated file -/

theorem isName_of_isLegal
    {name : String}
    (legal : Identifier.isLegal name) :
    Path.IsName name := by
  obtain ⟨notEmpty, parts⟩ := Identifier.isPart_of_isLegal legal
  have noDot : '.' ∉ name.toList := fun isMember =>
    absurd (List.all_eq_true.mp parts _ isMember) (by decide)
  have noSlash : '/' ∉ name.toList := fun isMember =>
    absurd (List.all_eq_true.mp parts _ isMember) (by decide)
  refine ⟨?_, ?_, noSlash⟩
  · have noLoneDot : name ≠ "." := by
      rintro rfl
      exact noDot (by decide)
    simp [Path.isIdle, notEmpty, noLoneDot]
  · rintro rfl
    exact noDot (by decide)

theorem isName_of_mem_modules
    (legal : target.IsLegal) :
    ∀ name ∈ target.modules, Path.IsName name := fun name isMember =>
  isName_of_isLegal (legal.modules name isMember)

theorem isName_fileName
    (legal : target.IsLegal) :
    Path.IsName target.fileName := by
  have letters :
      target.fileName.toList =
        Identifier.snakeCase target.typeName.toList ++ ['.', 'r', 's'] := by
    simp [TargetName.fileName]
  have long : ∀ {short : String}, short.toList.length < 3 → target.fileName ≠ short := by
    rintro _ isShort rfl
    rw [letters, List.length_append] at isShort
    exact absurd isShort (Nat.not_lt.mpr (Nat.le_add_left 3 _))
  have parts := Identifier.isPart_of_mem_snakeCase
    (Identifier.isPart_of_isLegal legal.typeName).2
  refine ⟨?_, long (by decide), ?_⟩
  · have notEmpty : target.fileName ≠ "" := long (by decide)
    have noLoneDot : target.fileName ≠ "." := long (by decide)
    simp [Path.isIdle, notEmpty, noLoneDot]
  · rw [letters, List.mem_append]
    rintro (inName | inEnding)
    · exact absurd (List.all_eq_true.mp parts _ inName) (by decide)
    · exact absurd inEnding (by decide)

/-- The names on the way from the output directory to the file of a target. -/
def trail
    (target : TargetName) :
    List String :=
  target.modules ++ [target.fileName]

theorem isName_of_mem_trail
    (legal : target.IsLegal) :
    ∀ name ∈ trail target, Path.IsName name :=
  List.forall_mem_append.mpr
    ⟨isName_of_mem_modules legal, List.forall_mem_singleton.mpr (isName_fileName legal)⟩

theorem trail_ne_nil
    (target : TargetName) :
    trail target ≠ [] :=
  List.append_ne_nil_of_right_ne_nil _ (List.cons_ne_nil _ _)

theorem segments_relativePath
    (legal : target.IsLegal) :
    target.relativePath.segments = trail target :=
  Path.segments_below (isName_of_mem_trail legal) ⟨""⟩ (trail_ne_nil target)

theorem isAbsolute_relativePath
    (legal : target.IsLegal) :
    target.relativePath.isAbsolute = false :=
  Path.isAbsolute_below (isName_of_mem_trail legal) ⟨""⟩

/-! ## The path of the generated file -/

theorem segments_artifactPath
    (legal : target.IsLegal)
    (output : Path) :
    (artifactPath output target).segments = output.lead ++ trail target := by
  rw [artifactPath, Path.segments_join_eq output (isAbsolute_relativePath legal),
    segments_relativePath legal]

theorem isAbsolute_artifactPath
    (legal : target.IsLegal)
    (output : Path) :
    (artifactPath output target).isAbsolute = output.isAbsolute :=
  Path.isAbsolute_join_eq output (isAbsolute_relativePath legal)

/-- The path is made by joining the modules and the file to the output directory one after
another. -/
theorem artifactPath_eq_below
    (legal : target.IsLegal)
    (output : Path) :
    artifactPath output target = output.below (trail target) := by
  apply Path.eq_of_segments
  rw [segments_artifactPath legal,
    Path.segments_below (isName_of_mem_trail legal) output (trail_ne_nil target)]

/-! ## The directories that are checked -/

/-- The directories of the modules, up to each of them from the output directory, do not count as
the output directory. -/
theorem sameComponents_below_eq_false
    (legal : target.IsLegal)
    (output : Path)
    {names : List String}
    (isPrefix : names <+: target.modules)
    (notEmpty : names ≠ []) :
    (output.below names).sameComponents output = false := by
  have areNames : ∀ name ∈ names, Path.IsName name := fun name isMember =>
    isName_of_mem_modules legal name (isPrefix.subset isMember)
  simp [Path.sameComponents, Path.components_below areNames output, notEmpty]

/-- The path of the generated file lies in the directories of its modules, the innermost first, and
next in the output directory. -/
theorem exists_ancestors_artifactPath
    (legal : target.IsLegal)
    (output : Path) :
    ∃ stop further,
      (artifactPath output target).ancestors =
        (target.modules.inits.tail.map output.below).reverse ++ stop :: further ∧
      stop.sameComponents output := by
  obtain ⟨stop, further, walk, same⟩ :=
    Path.exists_ancestors_below output (isName_of_mem_modules legal) (isName_fileName legal)
  refine ⟨stop, further, ?_, by simp [Path.sameComponents, same]⟩
  rw [artifactPath_eq_below legal, trail, walk]

/-- The checks look at the directories of the modules and at no others. -/
theorem moduleDirectories_eq
    (legal : target.IsLegal)
    (output : Path) :
    moduleDirectories output (artifactPath output target) =
      (target.modules.inits.tail.map output.below).reverse := by
  obtain ⟨stop, further, walk, stops⟩ := exists_ancestors_artifactPath legal output
  have visited :
      ∀ directory ∈ (target.modules.inits.tail.map output.below).reverse,
        !directory.sameComponents output := by
    intro directory isMember
    obtain ⟨names, isPrefix, rfl⟩ := List.mem_map.mp (List.mem_reverse.mp isMember)
    obtain ⟨isPrefix, notEmpty⟩ := Path.mem_tail_inits_iff.mp isPrefix
    simp [sameComponents_below_eq_false legal output isPrefix notEmpty]
  rw [moduleDirectories, walk, List.takeWhile_append_of_pos visited,
    List.takeWhile_cons_of_neg (by simp [stops]), List.append_nil]

/-- Where the file of a target lies: in the output directory, after the modules of the target and
under one name. The checks of the directories that it lies in meet those of the modules and then the
output directory. -/
structure LiesBelow
    (output : Path)
    (target : TargetName) :
    Prop where
  isName : Path.IsName target.fileName
  ending : ∃ stem, target.fileName = stem ++ ".rs"
  artifact :
    artifactPath output target = output.below (target.modules ++ [target.fileName])
  components :
    (artifactPath output target).components =
      output.components ++ target.modules ++ [target.fileName]
  modules :
    ∀ names, names <+: target.modules →
      (output.below names).components = output.components ++ names
  visited :
    moduleDirectories output (artifactPath output target) =
      (target.modules.inits.tail.map output.below).reverse
  stops :
    ∃ stop further,
      (artifactPath output target).ancestors =
        moduleDirectories output (artifactPath output target) ++ stop :: further ∧
      stop.sameComponents output

theorem liesBelow_of_isLegal
    (legal : target.IsLegal)
    (output : Path) :
    LiesBelow output target where
  isName := isName_fileName legal
  ending := ⟨_, rfl⟩
  artifact := artifactPath_eq_below legal output
  components := by
    rw [artifactPath_eq_below legal, Path.components_below (isName_of_mem_trail legal), trail,
      List.append_assoc]
  modules := fun names isPrefix =>
    Path.components_below
      (fun name isMember => isName_of_mem_modules legal name (isPrefix.subset isMember)) output
  visited := moduleDirectories_eq legal output
  stops := by
    rw [moduleDirectories_eq legal]
    exact exists_ancestors_artifactPath legal output

/-- The texts that name targets are the legal names of modules and a type with a double colon
between neighbours. The targets show as these texts, and their files lie below every output
directory as the modules say. -/
theorem parse_iff_and_liesBelow
    (text : String)
    (target : TargetName) :
    (TargetName.parse text = .ok target ↔ target.IsWrittenAs text) ∧
      (TargetName.parse text = .ok target →
        target.display = text ∧ ∀ output, LiesBelow output target) := by
  refine ⟨TargetName.parse_eq_ok_iff, fun read => ?_⟩
  have written := TargetName.parse_eq_ok_iff.mp read
  refine ⟨?_, liesBelow_of_isLegal written.legal⟩
  rw [written.written, TargetName.display_eq_intercalate]

theorem parse_iff_and_liesBelow_nested :
    TargetName.parse "i18n::ui::Messages" = .ok ⟨["i18n", "ui"], "Messages"⟩ ∧
      LiesBelow ⟨"./out//"⟩ ⟨["i18n", "ui"], "Messages"⟩ := by
  have read : TargetName.parse "i18n::ui::Messages" = .ok ⟨["i18n", "ui"], "Messages"⟩ := by
    decide +kernel
  exact ⟨read, ((parse_iff_and_liesBelow _ _).2 read).2 _⟩

end Phrasebook.Validation
