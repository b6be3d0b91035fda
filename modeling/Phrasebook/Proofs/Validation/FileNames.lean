import Phrasebook.Proofs.Text.Separation
import Phrasebook.Proofs.Validation.LocaleNames

namespace Phrasebook

/-!
# The file names of checked locales

The format of file names tells a locale by what it puts in place of the locale, wherever and however
often that is. So checked locales, whose tags differ, have files of different names.
-/

namespace Locale

theorem variantName_congr
    {first second : Locale}
    (tag : first.tag = second.tag) :
    first.variantName = second.variantName := by
  rw [variantName, variantName, isRoot_congr tag, tag]

/-- The part of a file name that a locale contributes tells the tag of the locale. -/
theorem tag_eq_of_fileSuffix
    {first second : Locale}
    (same : first.fileSuffix = second.fileSuffix) :
    first.tag = second.tag := by
  have underscore : ∀ tag : String, "_" ++ tag ≠ "" := by simp
  unfold fileSuffix at same
  by_cases firstRoot : first.isRoot
  · by_cases secondRoot : second.isRoot
    · rw [String.isEmpty_iff.mp firstRoot, String.isEmpty_iff.mp secondRoot]
    · rw [if_pos firstRoot, if_neg secondRoot] at same
      exact absurd same.symm (underscore second.tag)
  · by_cases secondRoot : second.isRoot
    · rw [if_neg firstRoot, if_pos secondRoot] at same
      exact absurd same (underscore first.tag)
    · rw [if_neg firstRoot, if_neg secondRoot] at same
      simpa using same

end Locale

namespace SourceSet

/-- Where the format mentions the locale, the name of a file tells the tag of its locale. -/
theorem tag_eq_of_fileName
    {sourceSet : SourceSet}
    {first second : Locale}
    (mentioned : Text.occursIn localeDelimiter sourceSet.fileNameFormat.toList)
    (same : sourceSet.fileName first = sourceSet.fileName second) :
    first.tag = second.tag := by
  apply Locale.tag_eq_of_fileSuffix
  apply String.toList_inj.mp
  apply Text.replaceAll_injective mentioned
  rw [fileName, fileName, String.ofList_inj] at same
  exact same

end SourceSet

namespace Validation

/-- The format for several locales mentions the locale. -/
theorem occursIn_of_silent
    {sourceSet : SourceSet}
    (silent : localeDiagnostics sourceSet = [])
    (several : 1 < sourceSet.locales.length) :
    Text.occursIn localeDelimiter sourceSet.fileNameFormat.toList := by
  have noProblem := (List.append_eq_nil_iff.mp silent).2
  by_contra absent
  simp [formatDiagnostics, several, absent] at noProblem

/-- The files of checked locales have names of their own, whatever the format of file names. -/
theorem nodup_fileNames_of_validate
    {sourceSet : SourceSet}
    {tree : FileTree}
    {input output : Path}
    {bundle : Bundle}
    (validated : validate sourceSet tree input output = .ok bundle) :
    (sourceSet.locales.map sourceSet.fileName).Nodup := by
  have mentioned := occursIn_of_silent (localeDiagnostics_of_validate validated)
  have variants := (wellFormedLocales_of_validate validated).variants
  rcases locales : sourceSet.locales with _ | ⟨first, _ | ⟨second, further⟩⟩
  · exact List.nodup_nil
  · exact List.nodup_singleton _
  · rw [locales] at mentioned variants
    refine List.pairwise_map.mpr (variants.imp fun differ same => differ ?_)
    exact Locale.variantName_congr (SourceSet.tag_eq_of_fileName (mentioned (by simp)) same)

/-- A format that mentions the locale twice, the second time within braces that stand for nothing,
and begins a third mention. -/
theorem nodup_fileNames_of_validate_stray_braces :
    let sourceSet : SourceSet := {
      targetName := "Messages"
      fileNameFormat := "m\x7blocale\x7d\x7b\x7blocale\x7d\x7d\x7blocale"
      locales := [⟨"", 1, "0"⟩, ⟨"de", 1, "0"⟩, ⟨"de_AT", 1, "0"⟩]
    }
    let names :=
      ["m\x7b\x7d\x7blocale", "m_de\x7b_de\x7d\x7blocale", "m_de_AT\x7b_de_AT\x7d\x7blocale"]
    let tree : FileTree :=
      { nodes := [(["m\x7b\x7d\x7blocale"], .file "a=b".toUTF8.data.toList)] }
    ∃ bundle,
      validate sourceSet tree ⟨"."⟩ ⟨"out"⟩ = .ok bundle ∧
      sourceSet.locales.map sourceSet.fileName = names ∧ names.Nodup := by
  intro sourceSet names tree
  obtain ⟨bundle, validated⟩ : ∃ bundle, validate sourceSet tree ⟨"."⟩ ⟨"out"⟩ = .ok bundle :=
    exists_bundle_of_passesBeyondRules (by decide) (by decide +kernel)
  have fileNames : sourceSet.locales.map sourceSet.fileName = names := by decide +kernel
  exact ⟨bundle, validated, fileNames, fileNames ▸ nodup_fileNames_of_validate validated⟩

end Validation

end Phrasebook
