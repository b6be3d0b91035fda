import Phrasebook.Proofs.Catalog.Outcomes
import Phrasebook.Proofs.Resources
import Phrasebook.Proofs.Validation.Locales

namespace Phrasebook.Catalog

/-!
# The keys of a catalog in each locale

The problems of a catalog are those of the root declarations and, for one locale after another,
those that its keys or its missing file give rise to. A problem of a key names the key, its locale
and its place, so the problems of one key can be told from those of the others, and they are those
of its outcome.
-/

/-! ## Problems -/

/-- The problems that name a key. -/
def problemsOf
    (key : String)
    (diagnostics : List Diagnostic) :
    List Diagnostic :=
  diagnostics.filter (·.key == some key)

/-- Of problems that name the key of what they belong to, those that name a key belong to the one
item of that key. -/
theorem problemsOf_flatMap
    {α : Type}
    {keyOf : α → String}
    {problems : α → List Diagnostic}
    {items : List α}
    (distinct : items.Pairwise fun first second => keyOf first ≠ keyOf second)
    (named : ∀ item ∈ items, ∀ diagnostic ∈ problems item, diagnostic.key = some (keyOf item))
    (key : String) :
    problemsOf key (items.flatMap problems) =
      (items.find? (keyOf · == key)).toList.flatMap problems := by
  induction items with
  | nil =>
      rfl
  | cons item items inductionHypothesis =>
      rw [List.pairwise_cons] at distinct
      rw [List.forall_mem_cons] at named
      have further := inductionHypothesis distinct.2 named.2
      rw [problemsOf] at further ⊢
      rw [List.flatMap_cons, List.filter_append, further]
      by_cases same : keyOf item = key
      · have own : (problems item).filter (·.key == some key) = problems item :=
          List.filter_eq_self.mpr fun diagnostic isMember => by
            simp [named.1 diagnostic isMember, same]
        -- Keys are distinct, so that no item that follows has a problem of this key.
        have noOther : items.find? (keyOf · == key) = none :=
          List.find?_eq_none.mpr fun other isMember otherSame =>
            distinct.1 other isMember (same.trans (beq_iff_eq.mp otherSame).symm)
        simp [own, noOther, same]
      · have noOwn : (problems item).filter (·.key == some key) = [] :=
          List.filter_eq_nil_iff.mpr fun diagnostic isMember => by
            simp [named.1 diagnostic isMember, same]
        simp [noOwn, same]

/-- Whether a problem names a locale, its file, a key, and the line of the declaration of the key if
the file has one. -/
structure IsProblemOf
    (locale : Locale)
    (file : ResourceFile)
    (key : String)
    (diagnostic : Diagnostic) :
    Prop where
  isValidation : diagnostic.kind = .validation
  namesLocale : diagnostic.locale = some locale.tag
  namesFile : diagnostic.file = some file.path
  namesKey : diagnostic.key = some key
  namesLine :
    diagnostic.line = (Properties.get? file.properties key).map Properties.Property.line

theorem isProblemOf_of_mem_entryDiagnostics
    {sourceSet : SourceSet}
    {locale : Locale}
    {file : ResourceFile}
    {entry : RootEntry}
    {diagnostic : Diagnostic}
    (listed : diagnostic ∈ entryDiagnostics sourceSet locale file entry) :
    IsProblemOf locale file entry.key diagnostic := by
  unfold entryDiagnostics at listed
  split at listed
  · rename_i lacking
    unfold missingKeyDiagnostics at listed
    split at listed
    · cases listed
    · rw [List.mem_singleton] at listed
      subst listed
      exact ⟨rfl, rfl, rfl, rfl, by rw [lacking]; rfl⟩
  · rename_i property declared
    obtain ⟨message, _, rfl⟩ := List.mem_map.mp listed
    exact ⟨rfl, rfl, rfl, rfl, by rw [declared]; rfl⟩

theorem isProblemOf_of_mem_extraDiagnostics
    {sourceSet : SourceSet}
    {locale : Locale}
    {file : ResourceFile}
    {rootKeys : List String}
    {diagnostic : Diagnostic}
    (declared : Properties.WellDeclared file.properties)
    (listed : diagnostic ∈ extraDiagnostics sourceSet locale file rootKeys) :
    ∃ key, IsProblemOf locale file key diagnostic := by
  unfold extraDiagnostics at listed
  split at listed
  · cases listed
  · obtain ⟨property, isMember, rfl⟩ := List.mem_map.mp listed
    have found :=
      Properties.get?_eq_some_of_distinct declared.distinct (List.mem_of_mem_filter isMember)
    exact ⟨property.key, rfl, rfl, rfl, rfl, by rw [found]; rfl⟩

theorem isProblemOf_of_mem_localeDiagnostics
    {sourceSet : SourceSet}
    {locale : Locale}
    {file : ResourceFile}
    {entries : List RootEntry}
    {diagnostic : Diagnostic}
    (declared : Properties.WellDeclared file.properties)
    (listed : diagnostic ∈ localeDiagnostics sourceSet entries locale (.loaded file)) :
    ∃ key, IsProblemOf locale file key diagnostic := by
  unfold localeDiagnostics at listed
  split at listed
  · cases listed
  · rcases List.mem_append.mp listed with ofEntries | ofExtra
    · obtain ⟨entry, _, ofEntry⟩ := List.mem_flatMap.mp ofEntries
      exact ⟨entry.key, isProblemOf_of_mem_entryDiagnostics ofEntry⟩
    · exact isProblemOf_of_mem_extraDiagnostics declared ofExtra

/-- The declaration of a key among those of no root key. -/
theorem find?_extra
    (properties : List Properties.Property)
    (rootKeys : List String)
    (key : String) :
    (properties.filter (!rootKeys.contains ·.key)).find? (·.key == key) =
      if key ∈ rootKeys then
        none
      else
        Properties.get? properties key := by
  rw [List.find?_filter]
  split
  · rename_i isRootKey
    refine List.find?_eq_none.mpr fun property _ chosen => ?_
    simp only [Bool.not_eq_true', beq_iff_eq, decide_eq_true_eq] at chosen
    rw [chosen.2, List.contains_eq_mem, decide_eq_false_iff_not] at chosen
    exact chosen.1 isRootKey
  · rename_i noRootKey
    refine congrArg (List.find? · properties) (funext fun property => ?_)
    by_cases same : property.key = key
    · simp [same, noRootKey]
    · simp [same]

/-- The problems that name a key that is no root key. -/
theorem problemsOf_extraDiagnostics
    {sourceSet : SourceSet}
    {locale : Locale}
    {file : ResourceFile}
    {rootKeys : List String}
    (declared : Properties.WellDeclared file.properties)
    (key : String) :
    problemsOf key (extraDiagnostics sourceSet locale file rootKeys) =
      if sourceSet.fallback.ignoreExtraKeys ∨ key ∈ rootKeys then
        []
      else
        (Properties.get? file.properties key).toList.map fun property =>
          keyDiagnostic locale file property.key (some property.line)
            "extraneous key not declared by the root locale" := by
  unfold extraDiagnostics
  cases ignores : sourceSet.fallback.ignoreExtraKeys with
  | true =>
      simp [problemsOf]
  | false =>
      rw [if_neg Bool.false_ne_true, List.map_eq_flatMap,
        problemsOf_flatMap (declared.distinct.filter _) (by simp [keyDiagnostic]), find?_extra]
      by_cases isRootKey : key ∈ rootKeys
      · simp [isRootKey]
      · simp [isRootKey, List.map_eq_flatMap]

/-- The problems that name a key, of those of a file that can be used. -/
theorem problemsOf_localeDiagnostics
    {sourceSet : SourceSet}
    {locale : Locale}
    {file : ResourceFile}
    {entries : List RootEntry}
    (noRoot : locale.isRoot = false)
    (entriesDistinct : entries.Pairwise fun first second => first.key ≠ second.key)
    (declared : Properties.WellDeclared file.properties)
    (key : String) :
    problemsOf key (localeDiagnostics sourceSet entries locale (.loaded file)) =
      match entries.find? (·.key == key) with
      | some entry => entryDiagnostics sourceSet locale file entry
      | none =>
          if sourceSet.fallback.ignoreExtraKeys then
            []
          else
            (Properties.get? file.properties key).toList.map fun property =>
              keyDiagnostic locale file property.key (some property.line)
                "extraneous key not declared by the root locale" := by
  have named :
      ∀ entry ∈ entries, ∀ diagnostic ∈ entryDiagnostics sourceSet locale file entry,
        diagnostic.key = some entry.key :=
    fun entry _ diagnostic listed => (isProblemOf_of_mem_entryDiagnostics listed).namesKey
  have parts :
      problemsOf key (localeDiagnostics sourceSet entries locale (.loaded file)) =
        problemsOf key (entries.flatMap (entryDiagnostics sourceSet locale file)) ++
          problemsOf key (extraDiagnostics sourceSet locale file (entries.map RootEntry.key)) := by
    rw [localeDiagnostics, noRoot, if_neg Bool.false_ne_true]
    exact List.filter_append _ _
  rw [parts, problemsOf_flatMap entriesDistinct named, problemsOf_extraDiagnostics declared]
  cases found : entries.find? (·.key == key) with
  | some entry =>
      have isRootKey : key ∈ entries.map RootEntry.key := by
        have same := List.find?_some found
        exact List.mem_map.mpr ⟨entry, List.mem_of_find?_eq_some found, beq_iff_eq.mp same⟩
      simp [isRootKey]
  | none =>
      have noRootKey : key ∉ entries.map RootEntry.key := by
        intro isRootKey
        obtain ⟨entry, isMember, same⟩ := List.mem_map.mp isRootKey
        exact List.find?_eq_none.mp found entry isMember (beq_iff_eq.mpr same)
      simp [noRootKey]

/-! ## Locales -/

/-- The outcome of a root key is the override that a locale has for it, and the problems of the key
in the file of the locale. -/
theorem outcome_iff_of_rootKey
    {sourceSet : SourceSet}
    {locale : Locale}
    {file : ResourceFile}
    {entry : RootEntry}
    {override : Option Message}
    {messages : List String}
    (noRoot : locale.isRoot = false)
    (declared : Properties.WellDeclared file.properties) :
    Outcome sourceSet locale file entry.key (some entry) override messages ↔
      override = overrideIn sourceSet locale (.loaded file) entry ∧
      messages = (entryDiagnostics sourceSet locale file entry).map Diagnostic.message := by
  rw [overrideIn, entryDiagnostics, noRoot, if_neg Bool.false_ne_true]
  cases found : Properties.get? file.properties entry.key with
  | none =>
      have lacking : ∀ property ∈ file.properties, property.key ≠ entry.key :=
        fun property isMember same => List.find?_eq_none.mp found property isMember (by simp [same])
      rw [outcome_iff_of_missing lacking]
      simp only [missingKeyDiagnostics]
      split <;> rfl
  | some property =>
      have isMember := List.mem_of_find?_eq_some found
      have same : property.key = entry.key := by
        rw [Properties.get?] at found
        have same := List.find?_some found
        exact beq_iff_eq.mp same
      have only : ∀ other ∈ file.properties, other.key = property.key → other = property :=
        fun other otherMember otherSame => declared.eq_of_key_eq otherMember isMember otherSame
      rw [← same, outcome_iff_of_declared isMember only, same]
      simp [keyDiagnostic, Prod.ext_iff, Function.comp_def]

/-- The outcome of a key that is no root key. -/
theorem outcome_iff_of_noRootKey
    {sourceSet : SourceSet}
    {locale : Locale}
    {file : ResourceFile}
    {key : String}
    {override : Option Message}
    {messages : List String} :
    Outcome sourceSet locale file key none override messages ↔
      override = none ∧
      messages =
        (if sourceSet.fallback.ignoreExtraKeys then
          []
        else
          (Properties.get? file.properties key).toList.map fun property =>
            keyDiagnostic locale file property.key (some property.line)
              "extraneous key not declared by the root locale").map Diagnostic.message := by
  rw [outcome_iff_of_unknown]
  have lacking :
      (∀ property ∈ file.properties, property.key ≠ key) ↔
        Properties.get? file.properties key = none := by
    simp [Properties.get?]
  cases sourceSet.fallback.ignoreExtraKeys with
  | true =>
      simp
  | false =>
      cases found : Properties.get? file.properties key with
      | none =>
          simp [lacking, found]
      | some property =>
          simp [lacking, found, keyDiagnostic]

/-- The outcome of a key in a file that can be used. -/
theorem outcome_iff
    {sourceSet : SourceSet}
    {locale : Locale}
    {file : ResourceFile}
    {entries : List RootEntry}
    {key : String}
    {override : Option Message}
    {messages : List String}
    (noRoot : locale.isRoot = false)
    (entriesDistinct : entries.Pairwise fun first second => first.key ≠ second.key)
    (declared : Properties.WellDeclared file.properties) :
    Outcome sourceSet locale file key (entries.find? (·.key == key)) override messages ↔
      override =
        (entries.find? (·.key == key)).bind (overrideIn sourceSet locale (.loaded file)) ∧
      messages =
        (problemsOf key (localeDiagnostics sourceSet entries locale (.loaded file))).map
          Diagnostic.message := by
  rw [problemsOf_localeDiagnostics noRoot entriesDistinct declared]
  cases found : entries.find? (·.key == key) with
  | none =>
      exact outcome_iff_of_noRootKey
  | some entry =>
      have same := List.find?_some found
      rw [← beq_iff_eq.mp same]
      exact outcome_iff_of_rootKey noRoot declared

/-! ## Catalogs -/

/-- The entry of a key. -/
def entryFor?
    (catalog : Catalog)
    (key : String) :
    Option CatalogEntry :=
  catalog.entries.find? (·.key == key)

/-- Whether a catalog accounts for every key in one way, in the locale at some place: each key of a
file that can be used has the override and the problems of its outcome, whereas other files leave no
overrides, and no problems either unless a file has to exist that does not. -/
def AccountsForKeys
    (sourceSet : SourceSet)
    (catalog : Catalog)
    (index : Nat)
    (locale : Locale)
    (problems : List Diagnostic) :
    LocaleResource →
    Prop
  | .loaded file =>
      (∀ key override messages,
        Outcome sourceSet locale file key ((catalog.entryFor? key).map CatalogEntry.toRootEntry)
            override messages ↔
          override = (catalog.entryFor? key).bind (·.override? index) ∧
          messages = (problemsOf key problems).map Diagnostic.message) ∧
      ∀ problem ∈ problems, ∃ key, IsProblemOf locale file key problem
  | .missing path =>
      (∀ entry ∈ catalog.entries, entry.override? index = none) ∧
      problems =
        if sourceSet.fallback.allowMissingFiles then
          []
        else
          [{
            kind := .load
            message := "resource file not found and missing files are not allowed"
            locale := some locale.tag
            file := some path
          }]
  | .broken _ =>
      (∀ entry ∈ catalog.entries, entry.override? index = none) ∧ problems = []

theorem zip_placed
    {locales : List Locale}
    {resources : List LocaleResource}
    {locale : Locale}
    {resource : LocaleResource}
    {index : Nat}
    (localePlaced : locales[index]? = some locale)
    (resourcePlaced : resources[index]? = some resource) :
    (locales.zip resources)[index]? = some (locale, resource) :=
  List.getElem?_zip_eq_some.mpr ⟨localePlaced, resourcePlaced⟩

theorem entryFor?_build
    {sourceSet : SourceSet}
    {root : Locale}
    (resources : ResourceSet)
    (rooted : sourceSet.locales[rootIndexOf sourceSet]? = some root)
    (key : String) :
    (build sourceSet resources).entryFor? key =
      (Properties.get? resources.root.properties key).map
        (entryOf sourceSet resources root) := by
  rw [entryFor?, entries_build resources rooted, List.find?_map]
  rfl

/-- The problems that the locales contribute, one locale after another. -/
def contributions
    (sourceSet : SourceSet)
    (resources : ResourceSet)
    (root : Locale) :
    List (List Diagnostic) :=
  (sourceSet.locales.zip resources.locales).map fun (locale, resource) =>
    localeDiagnostics sourceSet
      (resources.root.properties.map fun property => (rootEntry sourceSet root property).1)
      locale resource

theorem exists_resource_of_placed
    {sourceSet : SourceSet}
    {resources : ResourceSet}
    {found : Locale → LocaleResource → Prop}
    {index : Nat}
    {locale : Locale}
    (all : List.Forall₂ found sourceSet.locales resources.locales)
    (placed : sourceSet.locales[index]? = some locale) :
    ∃ resource, resources.locales[index]? = some resource := by
  obtain ⟨inside, _⟩ := List.getElem?_eq_some_iff.mp placed
  rw [all.length_eq] at inside
  exact ⟨_, List.getElem?_eq_getElem inside⟩

theorem contribution_of_placed
    {sourceSet : SourceSet}
    {resources : ResourceSet}
    {root locale : Locale}
    {index : Nat}
    {resource : LocaleResource}
    (localePlaced : sourceSet.locales[index]? = some locale)
    (resourcePlaced : resources.locales[index]? = some resource) :
    (contributions sourceSet resources root)[index]? =
      some
        (localeDiagnostics sourceSet
          (resources.root.properties.map fun property => (rootEntry sourceSet root property).1)
          locale resource) := by
  rw [contributions, List.getElem?_map, zip_placed localePlaced resourcePlaced]
  rfl

/-- The keys of a locale other than the root locale are accounted for. -/
theorem accountsForKeys_of_placed
    {sourceSet : SourceSet}
    {resources : ResourceSet}
    {root locale : Locale}
    {index : Nat}
    {resource : LocaleResource}
    (rooted : sourceSet.locales[rootIndexOf sourceSet]? = some root)
    (rootDeclared : Properties.WellDeclared resources.root.properties)
    (declared : ∀ file, resource = .loaded file → Properties.WellDeclared file.properties)
    (localePlaced : sourceSet.locales[index]? = some locale)
    (resourcePlaced : resources.locales[index]? = some resource)
    (noRoot : locale.isRoot = false) :
    AccountsForKeys sourceSet (build sourceSet resources) index locale
      (localeDiagnostics sourceSet
        (resources.root.properties.map fun property => (rootEntry sourceSet root property).1)
        locale resource)
      resource := by
  have noOverride :
      (∀ entry, overrideIn sourceSet locale resource entry = none) →
        ∀ entry ∈ (build sourceSet resources).entries, entry.override? index = none := by
    intro nothing entry isEntry
    rw [entries_build resources rooted] at isEntry
    obtain ⟨property, _, rfl⟩ := List.mem_map.mp isEntry
    rw [override?_entryOf (zip_placed localePlaced resourcePlaced), nothing]
  cases resource with
  | missing path =>
      refine ⟨noOverride fun entry => ?_, ?_⟩
      · simp [overrideIn]
      · rw [localeDiagnostics, noRoot, if_neg Bool.false_ne_true]
        rfl
  | broken path =>
      refine ⟨noOverride fun entry => ?_, ?_⟩
      · simp [overrideIn]
      · rw [localeDiagnostics, noRoot, if_neg Bool.false_ne_true]
  | loaded file =>
      have fileDeclared := declared file rfl
      refine ⟨fun key override messages => ?_, fun problem listed =>
        isProblemOf_of_mem_localeDiagnostics fileDeclared listed⟩
      have entriesDistinct :
          (resources.root.properties.map fun property =>
            (rootEntry sourceSet root property).1).Pairwise
              fun first second => first.key ≠ second.key :=
        List.pairwise_map.mpr rootDeclared.distinct
      have found :
          ((build sourceSet resources).entryFor? key).map CatalogEntry.toRootEntry =
            (resources.root.properties.map fun property =>
              (rootEntry sourceSet root property).1).find? (·.key == key) := by
        rw [entryFor?_build resources rooted, List.find?_map, Option.map_map]
        rfl
      have overridden :
          ((build sourceSet resources).entryFor? key).bind (·.override? index) =
            (((build sourceSet resources).entryFor? key).map CatalogEntry.toRootEntry).bind
              (overrideIn sourceSet locale (.loaded file)) := by
        rw [entryFor?_build resources rooted, Option.map_map, Option.bind_map, Option.bind_map]
        exact congrArg _ (funext fun property =>
          override?_entryOf (zip_placed localePlaced resourcePlaced))
      rw [overridden, found]
      exact outcome_iff noRoot entriesDistinct fileDeclared

/-- Whether a catalog has the keys of the root file, and lists, after the problems of the root
declarations, those of each locale, in which it accounts for every key. -/
structure AccountsForLocales
    (sourceSet : SourceSet)
    (resources : ResourceSet)
    (root : Locale)
    (catalog : Catalog)
    (rootProblems : List Diagnostic)
    (localeProblems : List (List Diagnostic)) :
    Prop where
  keys : catalog.entries.map (·.key) = resources.root.properties.map Properties.Property.key
  listed : catalog.diagnostics = rootProblems ++ localeProblems.flatten
  ofRoot : ∀ problem ∈ rootProblems, problem.locale = some root.tag
  aligned : localeProblems.length = sourceSet.locales.length
  atRoot :
    ∀ (index : Nat) (locale : Locale),
      sourceSet.locales[index]? = some locale →
      locale.isRoot →
      localeProblems[index]? = some []
  elsewhere :
    ∀ (index : Nat) (locale : Locale),
      sourceSet.locales[index]? = some locale →
      locale.isRoot = false →
      ∃ resource problems,
        resources.locales[index]? = some resource ∧
        localeProblems[index]? = some problems ∧
        AccountsForKeys sourceSet catalog index locale problems resource

/-- A catalog accounts for every key in every locale other than the root locale. -/
theorem accountsForLocales_build
    {sourceSet : SourceSet}
    {tree : FileTree}
    {input : Path}
    {resources : ResourceSet}
    {root : Locale}
    (single : sourceSet.root? = some root)
    (loaded : ResourceSet.load sourceSet tree input = .ok resources) :
    ∃ rootProblems localeProblems,
      AccountsForLocales sourceSet resources root (build sourceSet resources) rootProblems
        localeProblems := by
  have rooted := (Validation.isRootIndex_of_root? single).placed
  obtain ⟨found, _⟩ := ResourceSet.forall₂_of_load loaded
  obtain ⟨_, _, _, _, _, _, rootRead⟩ := ResourceSet.load_eq_ok loaded
  have rootDeclared := Properties.wellDeclared_of_readBytes rootRead
  refine ⟨resources.root.properties.flatMap (rootDiagnostics sourceSet root resources.root),
    contributions sourceSet resources root, ?_, ?_, ?_, ?_, ?_, ?_⟩
  · rw [entries_build resources rooted, List.map_map]
    rfl
  · rw [diagnostics_build resources rooted, contributions, ← List.flatMap_def]
  · intro problem listed
    obtain ⟨property, _, ofProperty⟩ := List.mem_flatMap.mp listed
    obtain ⟨message, _, rfl⟩ := List.mem_map.mp ofProperty
    rfl
  · simp [contributions, found.length_eq]
  · intro index locale placed isRoot
    obtain ⟨resource, resourcePlaced⟩ := exists_resource_of_placed found placed
    rw [contribution_of_placed placed resourcePlaced]
    simp [localeDiagnostics, isRoot]
  · intro index locale placed noRoot
    obtain ⟨resource, resourcePlaced⟩ := exists_resource_of_placed found placed
    refine ⟨resource, _, resourcePlaced, contribution_of_placed placed resourcePlaced,
      accountsForKeys_of_placed rooted rootDeclared ?_ placed resourcePlaced noRoot⟩
    rintro file rfl
    have member := List.mem_of_getElem? (zip_placed placed resourcePlaced)
    obtain ⟨diagnostics, localeLoaded⟩ := List.forall₂_zip found member
    exact ResourceSet.wellDeclared_of_loadLocale localeLoaded

/-- Locales with a file that declares a key of its own, lacks a key and uses an argument that does
not exist, without a file, and with a file that is not a properties file. -/
theorem accountsForLocales_build_strict :
    let sourceSet : SourceSet := {
      targetName := "Messages"
      fallback := ⟨false, false, false⟩
      locales := [⟨"", 1, "0"⟩, ⟨"de", 1, "0"⟩, ⟨"fr", 1, "0"⟩, ⟨"ja", 1, "0"⟩]
    }
    let tree : FileTree := {
      nodes := [
        (["messages.properties"], .file "a={0}\nb=c\nd=e".toUTF8.data.toList),
        (["messages_de.properties"], .file "a={1}\nb=f\ng=h".toUTF8.data.toList),
        (["messages_ja.properties"], .file "=a".toUTF8.data.toList)
      ]
    }
    let root : ResourceFile :=
      ⟨"", ⟨"./messages.properties"⟩,
        [⟨"a", ["{0}"], 1⟩, ⟨"b", ["c"], 2⟩, ⟨"d", ["e"], 3⟩]⟩
    let other : ResourceFile :=
      ⟨"de", ⟨"./messages_de.properties"⟩,
        [⟨"a", ["{1}"], 1⟩, ⟨"b", ["f"], 2⟩, ⟨"g", ["h"], 3⟩]⟩
    ∃ resources,
      sourceSet.root? = some ⟨"", 1, "0"⟩ ∧
      ResourceSet.load sourceSet tree ⟨"."⟩ = .ok resources ∧
      resources.locales =
        [.loaded root, .loaded other, .missing ⟨"./messages_fr.properties"⟩,
          .broken ⟨"./messages_ja.properties"⟩] ∧
      ∃ rootProblems localeProblems,
        AccountsForLocales sourceSet resources ⟨"", 1, "0"⟩ (build sourceSet resources)
          rootProblems localeProblems := by
  intro sourceSet tree root other
  let resources : ResourceSet :=
    ⟨root,
      [.loaded root, .loaded other, .missing ⟨"./messages_fr.properties"⟩,
        .broken ⟨"./messages_ja.properties"⟩],
      [{
        kind := .parse
        message := "empty key"
        locale := some "ja"
        file := some ⟨"./messages_ja.properties"⟩
        line := some 1
      }]⟩
  have loaded : ResourceSet.load sourceSet tree ⟨"."⟩ = .ok resources := by decide +kernel
  exact ⟨resources, rfl, loaded, rfl, accountsForLocales_build rfl loaded⟩

end Phrasebook.Catalog
