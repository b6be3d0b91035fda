import Phrasebook.Proofs.Code.Accessor

namespace Phrasebook.Code

open Generated

/-!
# Members of the generated type

Besides the accessors there are four members: two make a value, one returns its locale, and the
last returns the plural form of a quantity by the rule of that locale.
-/

/-! ## Making a value and its locale -/

/-- The lexemes of a value of the generated type. -/
def valueLexemes :
    List Lexeme :=
  [.reserved "Self", .mark .openBrace, .name localeField, .mark .closeBrace]

/-- The parameter that a value is made of. -/
def localeDeclared :
    Declared where
  name := localeField
  type := .named Validation.localeTagType

/-- The members that make a value and return its locale. -/
def valueMethods :
    List Function :=
  [
    ⟨"new", false, [localeDeclared], .own, valueLexemes⟩,
    ⟨"locale_tag", true, [], .named Validation.localeTagType, localeFieldLexemes⟩,
    ⟨"with_locale_tag", true, [localeDeclared], .own, valueLexemes⟩
  ]

/-- The lexemes of the members that make a value and return its locale. -/
def valueMethodLexemes :
    List Lexeme :=
  let words := FunctionWords.exportedConstant.lexemes
  (words ++
      functionLexemes "new" (declaredLexemes [localeDeclared]) .own valueLexemes) ++
    ((words ++
        functionLexemes "locale_tag" (methodLexemes []) (.named Validation.localeTagType)
          localeFieldLexemes) ++
      (words ++
        functionLexemes "with_locale_tag" (methodLexemes [localeDeclared]) .own valueLexemes))

/-- The lines of the members that make a value and return its locale. -/
def valueMethodLines :
    List CodeLine :=
  block "pub const fn new(locale_tag: LocaleTag) -> Self \x7b"
    [.plain "Self \x7b locale_tag \x7d"] "\x7d" ++
  .blank ::
  (block "pub const fn locale_tag(&self) -> LocaleTag \x7b" [.plain "self.locale_tag"] "\x7d" ++
  .blank ::
  block "pub const fn with_locale_tag(&self, locale_tag: LocaleTag) -> Self \x7b"
    [.plain "Self \x7b locale_tag \x7d"] "\x7d")

theorem spellsLines_valueMethodLines :
    SpellsLines valueMethodLines valueMethodLexemes := by
  have value : SpellsLines [.plain "Self \x7b locale_tag \x7d"] valueLexemes :=
    .singleton (by decide)
  have field : SpellsLines [.plain "self.locale_tag"] localeFieldLexemes :=
    .singleton (by decide)
  have newOpening :
      Spells "pub const fn new(locale_tag: LocaleTag) -> Self \x7b".toList
        (FunctionWords.exportedConstant.lexemes ++
          ([.name "new", .mark .openParenthesis, .name "locale_tag", .mark .colon,
            .name "LocaleTag", .mark .closeParenthesis, .mark .thinArrow, .reserved "Self",
            .mark .openBrace] : List Lexeme)) := by
    decide +kernel
  have tagOpening :
      Spells "pub const fn locale_tag(&self) -> LocaleTag \x7b".toList
        (FunctionWords.exportedConstant.lexemes ++
          ([.name "locale_tag", .mark .openParenthesis, .mark .ampersand, .keyword .receiver,
            .mark .closeParenthesis, .mark .thinArrow, .name "LocaleTag",
            .mark .openBrace] : List Lexeme)) := by
    decide +kernel
  have withOpening :
      Spells "pub const fn with_locale_tag(&self, locale_tag: LocaleTag) -> Self \x7b".toList
        (FunctionWords.exportedConstant.lexemes ++
          ([.name "with_locale_tag", .mark .openParenthesis, .mark .ampersand,
            .keyword .receiver, .mark .comma, .name "locale_tag", .mark .colon,
            .name "LocaleTag", .mark .closeParenthesis, .mark .thinArrow, .reserved "Self",
            .mark .openBrace] : List Lexeme)) := by
    decide +kernel
  have lines :=
    (SpellsLines.braced newOpening value).append
      ((SpellsLines.braced tagOpening field).append
        (SpellsLines.braced withOpening value).blank).blank
  exact lines

theorem balanced_valueLexemes :
    Balanced valueLexemes := by
  have field : Balanced [.name localeField] := .singleton rfl
  exact .cons rfl (.group rfl field .nil)

/-- The members that make a value and return its locale are read as such. -/
theorem isMembers_valueMethodLexemes :
    IsMembers valueMethodLexemes valueMethods := by
  have newMember :=
    IsMembers.associated .exportedConstant "new" [localeDeclared] .own balanced_valueLexemes
  have tagMember :=
    IsMembers.method .exportedConstant "locale_tag" [] (.named Validation.localeTagType)
      balanced_localeFieldLexemes
  have withMember :=
    IsMembers.method .exportedConstant "with_locale_tag" [localeDeclared] .own
      balanced_valueLexemes
  exact newMember.append (tagMember.append withMember)

/-- What makes a value of the generated type is no term. -/
theorem readValue_valueLexemes :
    readValue valueLexemes = none :=
  readValue_reserved "Self" _

theorem readValue_localeFieldLexemes :
    readValue localeFieldLexemes = some (.field .receiver localeField, []) := by
  have chain :
      readLevel .free loosestLevel localeFieldLexemes =
        some (.field .receiver localeField, []) :=
    readLevel_of_readNegation (readNegation_receiverField localeField rfl) rfl
  rw [readValue, chain]
  all_goals rintro further ⟨⟩

/-- The members that make a value and return its locale are accepted. -/
theorem isAccepted_of_mem_valueMethods :
    ∀ method ∈ valueMethods, method.isAccepted := by
  simp [valueMethods, Function.isAccepted, Function.declaresVariables, Function.parameters,
    Function.term?, readValue_valueLexemes, readValue_localeFieldLexemes, localeDeclared, whole,
    Term.fitsWidth, localeField, preludeVariants]

/-- The members that make a value and return its locale mention no type but that of the locale. -/
theorem typeNames_of_mem_valueMethods :
    ∀ method ∈ valueMethods, ∀ name ∈ method.typeNames, name = Validation.localeTagType := by
  simp [valueMethods, Function.typeNames, Function.term?, readValue_valueLexemes,
    readValue_localeFieldLexemes, localeDeclared, whole, Term.calledTypes, WrittenType.name?]

/-! ## The plural form -/

/-- The parameter of the member that returns the plural form. -/
def formParameter :
    String :=
  "n"

/-- The lexemes of the body of the member that returns the plural form. -/
def pluralFormLexemes :
    List Locale →
    List Lexeme
  | [only] => formCallLexemes formParameter only
  | locales =>
      selectionLexemes localeFieldLexemes
        (locales.map fun locale =>
          (localePathLexemes locale, formCallLexemes formParameter locale))

/-- The term of the body of the member that returns the plural form. -/
def pluralFormTerm :
    List Locale →
    Term
  | [only] => formCall formParameter only
  | locales =>
      .selection (.field .receiver localeField)
        (locales.map fun locale =>
          (.path (localePath locale), formCall formParameter locale))

/-- The parameter of the member that returns the plural form, as it is declared. -/
def formDeclared :
    Declared where
  name := formParameter
  type := .named "i64"

/-- The member that returns the plural form. -/
def pluralFormMethod
    (locales : List Locale) :
    Function where
  name := "plural_form"
  hasReceiver := true
  declared := [formDeclared]
  result := .named "i64"
  body := pluralFormLexemes locales

/-- The lexemes of the member that returns the plural form. -/
def pluralFormMethodLexemes
    (locales : List Locale) :
    List Lexeme :=
  FunctionWords.exported.lexemes ++
    functionLexemes "plural_form" (methodLexemes [formDeclared]) (.named "i64")
      (pluralFormLexemes locales)

/-- The call of a plural function with the parameter `n`. -/
theorem completes_formCall
    {locale : Locale}
    (named : locale.IsNamed) :
    Completes (pluralFunction locale ++ "(n)").toList (formCallLexemes formParameter locale) := by
  have argument :
      Completes ('(' :: "n)".toList)
        [.mark .openParenthesis, .name formParameter, .mark .closeParenthesis] := by
    decide
  have call := (spells_name named.isLegal_pluralFunction).completes (by decide) argument
  simpa [String.toList_append, formCallLexemes] using call

theorem spells_formArm
    {locale : Locale}
    (named : locale.IsNamed) :
    Spells (localeTag locale ++ " => " ++ pluralFunction locale ++ "(n),").toList
      (armLexemes (localePathLexemes locale, formCallLexemes formParameter locale)) := by
  have arrow : Completes (' ' :: "=> ".toList) [.mark .thickArrow] := by decide
  have comma : Completes ",".toList [.mark .comma] := by decide
  have tag := completes_localeTag named (by decide) arrow
  have arm := tag.append ((completes_formCall named).append comma)
  simpa [String.toList_append, armLexemes] using arm.spells

theorem spellsLines_pluralFormLines
    {locales : List Locale}
    (named : ∀ locale ∈ locales, locale.IsNamed) :
    SpellsLines (pluralFormLines locales) (pluralFormLexemes locales) := by
  unfold pluralFormLines pluralFormLexemes
  split
  · rename_i only
    exact .singleton (completes_formCall (named only List.mem_cons_self)).spells
  · have arms :
        SpellsLines
          (locales.flatMap fun locale =>
            [.plain (localeTag locale ++ " => " ++ pluralFunction locale ++ "(n),")])
          (locales.flatMap fun locale =>
            armLexemes (localePathLexemes locale, formCallLexemes formParameter locale)) :=
      .flatMap fun locale member => .singleton (spells_formArm (named locale member))
    rw [← List.map_eq_flatMap] at arms
    have lines := SpellsLines.braced spells_localeSelection arms
    simpa [selectionLexemes, List.flatMap_map] using lines

theorem spellsLines_pluralFormMethod
    {locales : List Locale}
    (named : ∀ locale ∈ locales, locale.IsNamed) :
    SpellsLines
      (.plain "/// Plural form index of `n` in the current locale." ::
        block "pub fn plural_form(&self, n: i64) -> i64 \x7b" (pluralFormLines locales) "\x7d")
      (pluralFormMethodLexemes locales) := by
  have opening :
      Spells "pub fn plural_form(&self, n: i64) -> i64 \x7b".toList
        (FunctionWords.exported.lexemes ++
          ([.name "plural_form", .mark .openParenthesis, .mark .ampersand, .keyword .receiver,
            .mark .comma, .name "n", .mark .colon, .name "i64", .mark .closeParenthesis,
            .mark .thinArrow, .name "i64", .mark .openBrace] : List Lexeme)) := by
    decide +kernel
  have lines := SpellsLines.braced opening (spellsLines_pluralFormLines named)
  have comment : IsComment "/// Plural form index of `n` in the current locale." :=
    ⟨by decide, by decide⟩
  exact lines.comment comment

theorem isMembers_pluralFormMethodLexemes
    (locales : List Locale) :
    IsMembers (pluralFormMethodLexemes locales) [pluralFormMethod locales] := by
  have body : Balanced (pluralFormLexemes locales) := by
    unfold pluralFormLexemes
    split
    · exact balanced_formCallLexemes formParameter _
    · refine balanced_selectionLexemes balanced_localeFieldLexemes fun arm member => ?_
      obtain ⟨locale, _, rfl⟩ := List.mem_map.mp member
      exact ⟨balanced_localePathLexemes locale, balanced_formCallLexemes formParameter locale⟩
  exact .method .exported "plural_form" [formDeclared] (.named "i64") body

theorem readsValue_formCallLexemes
    (locale : Locale) :
    ReadsValue (formCallLexemes formParameter locale) (formCall formParameter locale) :=
  readsValue_of_readNegation
    (fun _ closed => readNegation_formCallLexemes formParameter locale closed)
    (by simp [formCallLexemes])

theorem readsValue_pluralFormLexemes
    (locales : List Locale) :
    ReadsValue (pluralFormLexemes locales) (pluralFormTerm locales) := by
  unfold pluralFormLexemes pluralFormTerm
  split
  · exact readsValue_formCallLexemes _
  · refine readsValue_selection
      (fun rest closed => readNegation_receiverField localeField closed) ?_
    rw [List.forall₂_map_left_iff, List.forall₂_map_right_iff, List.forall₂_same]
    intro locale _
    exact ⟨readPattern_localePathLexemes locale, readsValue_formCallLexemes locale⟩

theorem term?_pluralFormMethod
    (locales : List Locale) :
    (pluralFormMethod locales).term? = some (pluralFormTerm locales) := by
  have read := (readsValue_pluralFormLexemes locales).readValue
  simp [Function.term?, pluralFormMethod, read, whole]

theorem isAccepted_pluralFormMethod
    (locales : List Locale) :
    (pluralFormMethod locales).isAccepted := by
  have declares : (pluralFormMethod locales).declaresVariables := by
    have names : (pluralFormMethod locales).parameters = [formParameter] := rfl
    rw [Function.declaresVariables_iff, names]
    decide
  have fits : ∀ fixed, (pluralFormTerm locales).fitsWidth fixed := by
    unfold pluralFormTerm
    split
    · exact fitsWidth_formCall formParameter _
    · apply Term.fitsWidth_selection
      · rfl
      · rw [List.forall_mem_map]
        exact fun locale _ => fitsWidth_formCall formParameter locale
  exact (Function.isAccepted_iff_of_term (term?_pluralFormMethod locales)).mpr ⟨declares, fits _⟩

/-- The member that returns the plural form mentions no type but that of the quantity. -/
theorem typeNames_pluralFormMethod
    (locales : List Locale) :
    ∀ name ∈ (pluralFormMethod locales).typeNames, name = "i64" := by
  have called : (pluralFormTerm locales).calledTypes = [] := by
    unfold pluralFormTerm
    split
    · rfl
    · apply Term.calledTypes_selection
      · rfl
      · rw [List.forall_mem_map]
        exact fun _ _ => rfl
  rw [Function.typeNames_of_term (term?_pluralFormMethod locales) called]
  simp [pluralFormMethod, formDeclared, WrittenType.name?]

/-- The member that returns the plural form returns what the plural function of the locale
returns. -/
theorem run_pluralFormMethod
    {locales : List Locale}
    {position : Nat}
    {locale : Locale}
    {functions : String → List Value → Outcome Value}
    {fields : List (String × Value)}
    {quantity form : Int64}
    (distinct :
      locales.Pairwise fun first second => first.variantName ≠ second.variantName)
    (placed : locales[position]? = some locale)
    (tagged : fields.lookup localeField = some (.variant (localePath locale)))
    (called : functions (pluralFunction locale) [.integer quantity] = .ok (.integer form)) :
    (pluralFormMethod locales).run functions fields [.integer quantity] =
      .ok (.integer form) := by
  have calls :
      CallsForm ⟨fields, [(formParameter, .integer quantity)], functions⟩ formParameter locale
        form := by
    refine ⟨?_, .integer quantity, rfl, called⟩
    have apart : pluralFunction locale ∉ [formParameter] := by
      rw [List.mem_singleton]
      intro same
      have lengths := congrArg (·.toList.length) same
      simp [pluralFunction, formParameter] at lengths
    exact lookup_zip_of_not_mem apart [.integer quantity]
  have selected :
      (pluralFormTerm locales).run
          ⟨fields, [(formParameter, .integer quantity)], functions⟩ =
        (formCall formParameter locale).run
          ⟨fields, [(formParameter, .integer quantity)], functions⟩ := by
    unfold pluralFormTerm
    split
    · rename_i only
      obtain ⟨inside, same⟩ := List.getElem?_eq_some_iff.mp placed
      have first : position = 0 := Nat.lt_one_iff.mp inside
      subst first
      cases same
      rfl
    · rw [Term.run, Term.run]
      simp only [tagged, found, bind, Except.bind]
      exact runArms_localeArms distinct placed
  rw [Function.run_of_isAccepted (isAccepted_pluralFormMethod locales)
    (term?_pluralFormMethod locales) rfl]
  exact selected.trans (run_formCall calls)

end Phrasebook.Code
