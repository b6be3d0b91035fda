import Mathlib
import Phrasebook.Proofs.Code.Dependence
import Phrasebook.Proofs.Code.Layout

namespace Phrasebook

/-!
# One block of code for each key

The code of a valid bundle is a front and an end that the configuration decides, and between them a
block for each key of the root file, in the order of that file. The block of a key depends on the
configuration and on the variants that the files declare for that key, wherever it stands and
whatever else they declare.
-/

namespace Code

/-! ## Balanced lines -/

/-- Whether lines close just the blocks that they open. -/
def IsBalanced
    (lines : List CodeLine) :
    Prop :=
  ∀ level, levelPast level lines = level

theorem levelPast_append
    (level : Nat)
    (first second : List CodeLine) :
    levelPast level (first ++ second) = levelPast (levelPast level first) second :=
  List.foldl_append

namespace IsBalanced

theorem nil :
    IsBalanced [] :=
  fun _ => rfl

theorem append
    {first second : List CodeLine}
    (firstBalanced : IsBalanced first)
    (secondBalanced : IsBalanced second) :
    IsBalanced (first ++ second) := by
  intro level
  rw [levelPast_append, firstBalanced, secondBalanced]

/-- A line that opens and closes nothing stands before others. -/
theorem plain
    {lines : List CodeLine}
    (text : String)
    (balanced : IsBalanced lines) :
    IsBalanced (.plain text :: lines) :=
  balanced

theorem block
    {lines : List CodeLine}
    (opening closing : String)
    (balanced : IsBalanced lines) :
    IsBalanced (Code.block opening lines closing) := by
  intro level
  rw [Code.block, levelPast_append]
  have inside : levelPast level (.opening opening :: lines) = level + 1 := balanced (level + 1)
  rw [inside]
  rfl

theorem flatMap
    {α : Type}
    {lines : α → List CodeLine}
    (list : List α)
    (balanced : ∀ element, IsBalanced (lines element)) :
    IsBalanced (list.flatMap lines) := by
  induction list with
  | nil =>
      exact nil
  | cons element rest inductionHypothesis =>
      exact (balanced element).append inductionHypothesis

theorem map
    {α : Type}
    (text : α → String)
    (list : List α) :
    IsBalanced (list.map fun element => .plain (text element)) := by
  rw [List.map_eq_flatMap]
  exact flatMap list fun element => plain (text element) nil

end IsBalanced

/-- The text of balanced lines, one group of them after another. -/
theorem layoutFrom_flatMap
    {α : Type}
    {lines : α → List CodeLine}
    (level : Nat)
    (list : List α)
    (balanced : ∀ element, IsBalanced (lines element)) :
    layoutFrom level (list.flatMap lines) =
      String.join (list.map fun element => layoutFrom level (lines element)) := by
  induction list with
  | nil =>
      rfl
  | cons element rest inductionHypothesis =>
      rw [List.flatMap_cons, layoutFrom_append, balanced element, inductionHypothesis,
        List.map_cons, String.join_cons]

/-! ## Accessors -/

theorem isBalanced_formLines
    (form : Nat)
    (expressions : List String) :
    IsBalanced (Selection.formLines form expressions) := by
  induction expressions generalizing form with
  | nil =>
      exact .nil
  | cons expression expressions inductionHypothesis =>
      exact .plain _ (inductionHypothesis (form + 1))

theorem Selection.isBalanced_lines
    (before after : String)
    (selection : Selection) :
    IsBalanced (selection.lines before after) := by
  cases selection with
  | always expression =>
      exact .plain _ .nil
  | byForm function initial last =>
      exact .block _ _ ((isBalanced_formLines 0 initial).append (.plain _ .nil))

theorem AccessorBody.isBalanced_lines
    (body : AccessorBody) :
    IsBalanced body.lines := by
  cases body with
  | unconditional selection =>
      exact selection.isBalanced_lines "" ""
  | byLocale arms =>
      exact .block _ _ (.flatMap arms fun (tag, selection) =>
        selection.isBalanced_lines (tag ++ " => ") ",")

theorem Accessor.isBalanced_lines
    (accessor : Accessor) :
    IsBalanced accessor.lines :=
  .plain _ (.block _ _ accessor.body.isBalanced_lines)

/-- The text of an accessor within the generated type, with the empty line before it. -/
def Accessor.text
    (accessor : Accessor) :
    String :=
  layoutFrom 1 (.blank :: accessor.lines)

/-- The keys of a bundle in order, each with the text of its accessor. -/
def blocks
    (bundle : Bundle) :
    List (String × String) :=
  (accessorsOf bundle).map fun accessor => (accessor.key, accessor.text)

/-! ## The front and the end -/

/-- The lines before the block of the generated type's implementation. -/
def outerLines
    (target : TargetName)
    (locales : List Locale) :
    List CodeLine :=
  headerLines target ++
    localeTypeLines locales target.typeName ++
    .blank :: localeMemberLines locales ++
    .blank :: typeLines target.typeName ++
    [.blank, .plain "#[allow(non_snake_case)]"]

/-- The lines before the first accessor. -/
def frontLines
    (target : TargetName)
    (locales : List Locale) :
    List CodeLine :=
  outerLines target locales ++
    .opening ("impl " ++ target.typeName ++ " \x7b") :: memberLines locales

/-- The lines after the last accessor. -/
def endLines
    (locales : List Locale)
    (rules : List Plural.Rule) :
    List CodeLine :=
  .closing "\x7d" ::
    (locales.zip rules).flatMap fun (locale, rule) => pluralFunctionLines locale rule

theorem isBalanced_variantLines
    (locale : Locale) :
    IsBalanced (variantLines locale) := by
  unfold variantLines
  split
  · exact .plain _ (.plain _ .nil)
  · exact .plain _ .nil

theorem isBalanced_pluralFormLines
    (locales : List Locale) :
    IsBalanced (pluralFormLines locales) := by
  unfold pluralFormLines
  split
  · exact .plain _ .nil
  · exact .block _ _ (.map _ _)

theorem isBalanced_memberLines
    (locales : List Locale) :
    IsBalanced (memberLines locales) := by
  have method (opening text : String) : IsBalanced (block opening [.plain text] "\x7d") :=
    .block opening "\x7d" (.plain text .nil)
  have pluralForm :
      IsBalanced (block "pub fn plural_form(&self, n: i64) -> i64 \x7b" (pluralFormLines locales)
        "\x7d") :=
    .block _ _ (isBalanced_pluralFormLines locales)
  exact (((method _ _).append (.plain _ (method _ _))).append (.plain _ (method _ _))).append
    (.plain _ (.plain _ pluralForm))

theorem isBalanced_outerLines
    (target : TargetName)
    (locales : List Locale) :
    IsBalanced (outerLines target locales) := by
  have header : IsBalanced (headerLines target) :=
    .plain _ (.plain _ (.plain _ .nil))
  have localeType : IsBalanced (localeTypeLines locales target.typeName) :=
    .plain _ (.plain _ (.block _ _ (.flatMap _ isBalanced_variantLines)))
  have localeMembers : IsBalanced (localeMemberLines locales) :=
    .block _ _ (.plain _ (.plain _ (.plain _ (.block _ _ (.block _ _ (.map _ _))))))
  have type : IsBalanced (typeLines target.typeName) :=
    .plain _ (.plain _ (.block _ _ (.plain _ .nil)))
  have allowed : IsBalanced [.blank, .plain "#[allow(non_snake_case)]"] :=
    .plain _ (.plain _ .nil)
  exact (((header.append localeType).append (.plain _ localeMembers)).append
    (.plain _ type)).append allowed

theorem levelPast_frontLines
    (level : Nat)
    (target : TargetName)
    (locales : List Locale) :
    levelPast level (frontLines target locales) = level + 1 := by
  -- Only the block of the implementation is still open.
  rw [frontLines, levelPast_append, isBalanced_outerLines target locales]
  exact isBalanced_memberLines locales (level + 1)

theorem moduleLines_eq
    (bundle : Bundle) :
    moduleLines bundle =
      frontLines bundle.target bundle.locales ++
        ((accessorsOf bundle).flatMap fun accessor => .blank :: accessor.lines) ++
        endLines bundle.locales bundle.rules := by
  simp [moduleLines, frontLines, outerLines, endLines, implementationLines, block]

/-- The lines of every bundle close just the blocks that they open. -/
theorem isBalanced_moduleLines
    (bundle : Bundle) :
    IsBalanced (moduleLines bundle) := by
  have accessors :
      IsBalanced ((accessorsOf bundle).flatMap fun accessor => .blank :: accessor.lines) :=
    .flatMap _ fun accessor => .plain "" accessor.isBalanced_lines
  have functions :
      IsBalanced
        ((bundle.locales.zip bundle.rules).flatMap fun (locale, rule) =>
          pluralFunctionLines locale rule) :=
    .flatMap _ fun _ => .plain "" (.block _ _ (.plain _ .nil))
  intro level
  -- The first of the last lines closes the block that the front leaves open.
  have closed : levelPast (level + 1) (endLines bundle.locales bundle.rules) = level :=
    functions level
  rw [moduleLines_eq, levelPast_append, levelPast_append, levelPast_frontLines, accessors, closed]

/-- The code of a bundle, block by block. -/
theorem render_eq
    (bundle : Bundle) :
    render bundle =
      layout (frontLines bundle.target bundle.locales) ++
        String.join ((blocks bundle).map Prod.snd) ++
        layoutFrom 1 (endLines bundle.locales bundle.rules) := by
  have balanced (accessor : Accessor) : IsBalanced (.blank :: accessor.lines) :=
    .plain "" accessor.isBalanced_lines
  rw [render, layout, moduleLines_eq, layoutFrom_append, layoutFrom_append, levelPast_append,
    levelPast_frontLines, Nat.zero_add, IsBalanced.flatMap _ balanced,
    layoutFrom_flatMap 1 _ balanced, blocks, List.map_map]
  rfl

end Code

namespace ResourceSet

/-! ## The declarations of one key -/

theorem lookup_map_declarations
    (properties : List Properties.Property)
    (key : String) :
    (properties.map fun property => (property.key, property.variants)).lookup key =
      (Properties.get? properties key).map Properties.Property.variants := by
  induction properties with
  | nil =>
      rfl
  | cons property properties inductionHypothesis =>
      rw [List.map_cons, List.lookup_cons, inductionHypothesis, BEq.comm]
      unfold Properties.get?
      rw [List.find?_cons]
      cases property.key == key <;> rfl

/-- The root file declares for a key what it declares as one of the files. -/
theorem lookup_rootDeclarations
    {sourceSet : SourceSet}
    {tree : FileTree}
    {input : Path}
    {root : Locale}
    {declarations : List (String × List String)}
    (single : sourceSet.root? = some root)
    (declared : rootDeclarations? sourceSet tree input = some declarations)
    (key : String) :
    declarations.lookup key = variantsIn? sourceSet tree input root key := by
  rw [rootDeclarations?, single, Option.bind_some] at declared
  obtain ⟨properties, found, rfl⟩ := Option.map_eq_some_iff.mp declared
  rw [variantsIn?, found, lookup_map_declarations]
  rfl

/-- The root file declares each key once. -/
theorem nodup_rootDeclarations
    {sourceSet : SourceSet}
    {tree : FileTree}
    {input : Path}
    {declarations : List (String × List String)}
    (declared : rootDeclarations? sourceSet tree input = some declarations) :
    (declarations.map Prod.fst).Nodup := by
  obtain ⟨root, -, found⟩ := Option.bind_eq_some_iff.mp declared
  obtain ⟨properties, usable, rfl⟩ := Option.map_eq_some_iff.mp found
  unfold declarationsAt? at usable
  split at usable
  · cases usable
  · rename_i bytes _
    cases readAs : Properties.readBytes bytes with
    | error error =>
        rw [readAs] at usable
        cases usable
    | ok found =>
        rw [readAs] at usable
        cases usable
        rw [List.map_map]
        exact List.pairwise_map.mpr (Properties.wellDeclared_of_readBytes readAs).distinct

end ResourceSet

namespace Code

/-! ## Two runs -/

/-- The text of the accessor of a key, for the variants that the root file and the files of all
locales declare for it. -/
def blockOf
    (sourceSet : SourceSet)
    (root : Locale)
    (given : Locale → Option (List String))
    (key : String)
    (variants : List String) :
    String :=
  (Accessor.ofEntry sourceSet.locales root (Catalog.entryFrom sourceSet root key variants given)
    (sourceSet.naming.accessorName key)).text

theorem lookup_map_snd
    {α β : Type}
    (text : String → α → β)
    (declarations : List (String × α))
    (key : String) :
    (declarations.map fun declaration =>
        (declaration.1, text declaration.1 declaration.2)).lookup key =
      (declarations.lookup key).map (text key) := by
  induction declarations with
  | nil =>
      rfl
  | cons declaration declarations inductionHypothesis =>
      rw [List.map_cons, List.lookup_cons, List.lookup_cons, inductionHypothesis]
      cases same : key == declaration.1 with
      | true =>
          rw [beq_iff_eq.mp same]
          rfl
      | false =>
          rfl

/-- The blocks of a valid bundle, for the declarations of the root file. -/
theorem blocks_of_validate
    {sourceSet : SourceSet}
    {tree : FileTree}
    {input output : Path}
    {bundle : Bundle}
    (validated : Validation.validate sourceSet tree input output = .ok bundle) :
    ∃ root declarations,
      sourceSet.root? = some root ∧
        ResourceSet.rootDeclarations? sourceSet tree input = some declarations ∧
        blocks bundle = declarations.map fun declaration =>
          (declaration.1, blockOf sourceSet root
            (fun locale => ResourceSet.variantsIn? sourceSet tree input locale declaration.1)
            declaration.1 declaration.2) := by
  obtain ⟨root, declarations, single, declared, accessors⟩ := accessorsOf_of_validate validated
  refine ⟨root, declarations, single, declared, ?_⟩
  rw [blocks, accessors, List.map_map]
  rfl

/-- Whether the code of a bundle is a front, a block for each key of the root file, and an end. -/
structure IsFramed
    (sourceSet : SourceSet)
    (tree : FileTree)
    (input : Path)
    (bundle : Bundle)
    (front rear : String) :
    Prop where
  rendered : render bundle = front ++ String.join ((blocks bundle).map Prod.snd) ++ rear
  keys :
    (ResourceSet.rootDeclarations? sourceSet tree input).map (List.map Prod.fst) =
      some ((blocks bundle).map Prod.fst)
  distinct : ((blocks bundle).map Prod.fst).Nodup

/-- Whether the code of two bundles differs only in the blocks of keys for which the files declare
different variants. -/
structure DifferByKeys
    (sourceSet : SourceSet)
    (firstTree : FileTree)
    (firstInput : Path)
    (first : Bundle)
    (secondTree : FileTree)
    (secondInput : Path)
    (second : Bundle) :
    Prop where
  framed :
    ∃ front rear,
      IsFramed sourceSet firstTree firstInput first front rear ∧
        IsFramed sourceSet secondTree secondInput second front rear
  unchanged :
    ∀ key,
      (∀ locale ∈ sourceSet.locales,
        ResourceSet.variantsIn? sourceSet firstTree firstInput locale key =
          ResourceSet.variantsIn? sourceSet secondTree secondInput locale key) →
      (blocks first).lookup key = (blocks second).lookup key

theorem isFramed_of_validate
    {sourceSet : SourceSet}
    {tree : FileTree}
    {input output : Path}
    {bundle : Bundle}
    (validated : Validation.validate sourceSet tree input output = .ok bundle) :
    IsFramed sourceSet tree input bundle
      (layout (frontLines bundle.target bundle.locales))
      (layoutFrom 1 (endLines bundle.locales bundle.rules)) := by
  obtain ⟨root, declarations, _, declared, found⟩ := blocks_of_validate validated
  have keys : (blocks bundle).map Prod.fst = declarations.map Prod.fst := by
    rw [found, List.map_map]
    rfl
  refine ⟨render_eq bundle, ?_, ?_⟩
  · rw [declared, keys]
    rfl
  · rw [keys]
    exact ResourceSet.nodup_rootDeclarations declared

/-- The block of a key in a valid bundle, if the root file declares the key. -/
theorem lookup_blocks_of_validate
    {sourceSet : SourceSet}
    {tree : FileTree}
    {input output : Path}
    {bundle : Bundle}
    {root : Locale}
    (single : sourceSet.root? = some root)
    (validated : Validation.validate sourceSet tree input output = .ok bundle)
    (key : String) :
    (blocks bundle).lookup key =
      (ResourceSet.variantsIn? sourceSet tree input root key).map
        (blockOf sourceSet root
          (fun locale => ResourceSet.variantsIn? sourceSet tree input locale key) key) := by
  obtain ⟨other, declarations, otherSingle, declared, found⟩ := blocks_of_validate validated
  rw [single, Option.some.injEq] at otherSingle
  subst otherSingle
  rw [found, ← ResourceSet.lookup_rootDeclarations single declared key]
  exact lookup_map_snd
    (fun key => blockOf sourceSet root
      (fun locale => ResourceSet.variantsIn? sourceSet tree input locale key) key)
    declarations key

/-- A change of what is declared for some keys changes no other block. -/
theorem differByKeys_of_validate
    {sourceSet : SourceSet}
    {firstTree secondTree : FileTree}
    {firstInput firstOutput secondInput secondOutput : Path}
    {first second : Bundle}
    (firstValid : Validation.validate sourceSet firstTree firstInput firstOutput = .ok first)
    (secondValid : Validation.validate sourceSet secondTree secondInput secondOutput = .ok second) :
    DifferByKeys sourceSet firstTree firstInput first secondTree secondInput second := by
  obtain ⟨root, _, single, _, _, firstFound⟩ := Validation.validate_eq_ok_iff.mp firstValid
  obtain ⟨_, _, _, _, _, secondFound⟩ := Validation.validate_eq_ok_iff.mp secondValid
  obtain ⟨firstTarget, firstRules, firstLocales, -⟩ := Validation.parts_of_bundleOf? firstFound
  obtain ⟨secondTarget, secondRules, secondLocales, -⟩ := Validation.parts_of_bundleOf? secondFound
  have sameTarget : first.target = second.target :=
    Except.ok.inj (firstTarget.symm.trans secondTarget)
  have sameLocales : first.locales = second.locales :=
    firstLocales.trans secondLocales.symm
  have sameRules : first.rules = second.rules :=
    Option.some.inj (firstRules.symm.trans secondRules)
  constructor
  · refine ⟨_, _, isFramed_of_validate firstValid, ?_⟩
    rw [sameTarget, sameLocales, sameRules]
    exact isFramed_of_validate secondValid
  · intro key alike
    -- The root file is one of the files, so it decides alike which block there is.
    have isRoot := (Validation.isRootIndex_of_root? single).placed
    have rootAlike := alike root (List.mem_of_getElem? isRoot)
    rw [lookup_blocks_of_validate single firstValid, lookup_blocks_of_validate single secondValid,
      rootAlike]
    refine congrArg (Option.map · _) (funext fun variants => ?_)
    rw [blockOf, blockOf, Catalog.entryFrom_congr root key variants fun locale isLocale _ =>
      alike locale isLocale]

/-- Two runs whose files agree only on a key that stands at different places among others. -/
theorem differByKeys_of_validate_other_keys :
    let sourceSet : SourceSet := {
      targetName := "Messages"
      locales := [⟨"fr", 2, "n > 1"⟩, ⟨"", 2, "n > 1"⟩]
    }
    let firstTree : FileTree := {
      nodes := [
        (["messages.properties"], .file "a=b\nkept=\x7b0:x\x7d c".toUTF8.data.toList),
        (["messages_fr.properties"], .file "kept=d \x7bx\x7d\na=e".toUTF8.data.toList)
      ]
    }
    let secondTree : FileTree := {
      nodes := [
        (["messages.properties"], .file "kept=\x7b0:x\x7d c\nitems=f|g".toUTF8.data.toList),
        (["messages_fr.properties"], .file "kept=d \x7bx\x7d".toUTF8.data.toList)
      ]
    }
    ∃ first second,
      Validation.validate sourceSet firstTree ⟨"."⟩ ⟨"out"⟩ = .ok first ∧
        Validation.validate sourceSet secondTree ⟨"."⟩ ⟨"out"⟩ = .ok second ∧
        DifferByKeys sourceSet firstTree ⟨"."⟩ first secondTree ⟨"."⟩ second ∧
        (blocks first).lookup "kept" = (blocks second).lookup "kept" := by
  intro sourceSet firstTree secondTree
  obtain ⟨first, firstValid⟩ : ∃ bundle,
      Validation.validate sourceSet firstTree ⟨"."⟩ ⟨"out"⟩ = .ok bundle :=
    Validation.exists_bundle_of_passesBeyondRules (by decide) (by decide +kernel)
  obtain ⟨second, secondValid⟩ : ∃ bundle,
      Validation.validate sourceSet secondTree ⟨"."⟩ ⟨"out"⟩ = .ok bundle :=
    Validation.exists_bundle_of_passesBeyondRules (by decide) (by decide +kernel)
  have differ := differByKeys_of_validate firstValid secondValid
  exact ⟨first, second, firstValid, secondValid, differ,
    differ.unchanged "kept" (by decide +kernel)⟩

end Code

end Phrasebook
