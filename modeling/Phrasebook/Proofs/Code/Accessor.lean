import Phrasebook.Proofs.Code.AccessorBody
import Phrasebook.Proofs.Code.PluralFunction

namespace Phrasebook.Code

open Generated

/-!
# Accessors as methods

An accessor is read as a method whose parameters are the quantity of a plural key and the arguments
of the key. Its call evaluates the string expression of the variant that is chosen, whatever the
values of the arguments are.
-/

/-! ## Parameters -/

/-- The type of a parameter as it is written. -/
def writtenType :
    Placeholder.ArgumentType →
    WrittenType
  | .text => .reference (.named "str")
  | .integer => .named "i64"

/-- The parameters of the accessor of a key, as they are declared. -/
def declaredOf
    (entry : CatalogEntry) :
    List Declared :=
  let quantity : List Declared :=
    if entry.arity.isPlural then
      [⟨Validation.quantityParameter, writtenType .integer⟩]
    else
      []
  quantity ++ entry.arguments.arguments.map fun argument =>
    ⟨argument.name, writtenType argument.type⟩

/-- A declared name is spelled by a parameter. -/
structure Spelled
    (parameter : Parameter)
    (declared : Declared) :
    Prop where
  name : parameter.name = declared.name
  legal : Identifier.isLegal declared.name
  type : ∃ type, parameter.type = type.code ∧ declared.type = writtenType type

theorem spelled_argument
    {arity : Arity}
    {argument : Placeholder.Argument}
    (isParameter : Validation.IsParameter arity argument) :
    Spelled ⟨argument.name, argument.type.code⟩ ⟨argument.name, writtenType argument.type⟩ :=
  ⟨rfl, isParameter.legal, argument.type, rfl, rfl⟩

theorem spelled_parametersOf
    {entry : CatalogEntry}
    (parameters :
      ∀ argument ∈ entry.arguments.arguments, Validation.IsParameter entry.arity argument) :
    List.Forall₂ Spelled (Accessor.parametersOf entry) (declaredOf entry) := by
  have quantity :
      Spelled ⟨Validation.quantityParameter, "i64"⟩
        ⟨Validation.quantityParameter, writtenType .integer⟩ :=
    ⟨rfl, by decide, .integer, rfl, rfl⟩
  have arguments :
      List.Forall₂ Spelled
        (entry.arguments.arguments.map fun argument => ⟨argument.name, argument.type.code⟩)
        (entry.arguments.arguments.map fun argument =>
          ⟨argument.name, writtenType argument.type⟩) := by
    rw [List.forall₂_map_left_iff, List.forall₂_map_right_iff, List.forall₂_same]
    exact fun argument member => spelled_argument (parameters argument member)
  unfold Accessor.parametersOf declaredOf
  by_cases isPlural : entry.arity.isPlural
  · simp only [isPlural, if_true]
    exact .cons quantity arguments
  · simp only [isPlural]
    exact arguments

theorem spells_parameter
    {parameter : Parameter}
    {declared : Declared}
    (spelled : Spelled parameter declared) :
    Spells (parameter.name ++ ": " ++ parameter.type).toList declared.lexemes := by
  obtain ⟨sameName, legal, type, code, written⟩ := spelled
  have typeSpelled : Spells type.code.toList (writtenType type).lexemes := by
    cases type <;> decide
  have whole := (completes_name_colon legal).spells_append typeSpelled
  rw [sameName, code, Declared.lexemes, written]
  simpa [String.toList_append] using whole

/-- Texts with a comma between neighbours have the lexemes of each with a comma between them. -/
theorem spells_intercalate
    {texts : List String}
    {lexemes : List (List Lexeme)}
    (spelled : List.Forall₂ (fun text lexemes => Spells text.toList lexemes) texts lexemes) :
    Spells (", ".intercalate texts).toList ([.mark .comma].intercalate lexemes) := by
  induction spelled with
  | nil =>
      decide
  | @cons text firstLexemes texts lexemes first further inductionHypothesis =>
      cases further with
      | nil =>
          simpa using first
      | cons second rest =>
          have comma : Completes [',', ' '] [.mark .comma] := by decide
          have later := comma.spells_append inductionHypothesis
          have joined : Spells (text.toList ++ ',' :: (' ' :: _)) _ :=
            first.append (by decide) later
          simpa [String.intercalate_cons_cons, String.toList_append] using joined

/-- The signature of an accessor has the lexemes of a receiver and its parameters. -/
theorem spells_signature
    {accessor : Accessor}
    {parameters : List Declared}
    (spelled : List.Forall₂ Spelled accessor.parameters parameters) :
    Spells accessor.signature.toList (methodLexemes parameters) := by
  have receiver : Spells "&self".toList [.mark .ampersand, .keyword .receiver] := by decide
  have later :
      List.Forall₂ (fun text lexemes => Spells text.toList lexemes)
        (accessor.parameters.map fun parameter => parameter.name ++ ": " ++ parameter.type)
        (parameters.map Declared.lexemes) := by
    rw [List.forall₂_map_left_iff, List.forall₂_map_right_iff]
    exact spelled.imp fun _ _ parameterSpelled => spells_parameter parameterSpelled
  exact spells_intercalate (.cons receiver later)

/-! ## Methods -/

/-- The accessor of a key as a method. -/
def methodOf
    (locales : List Locale)
    (root : Locale)
    (entry : CatalogEntry)
    (name : String) :
    Function where
  name := name
  hasReceiver := true
  declared := declaredOf entry
  result := .named "String"
  body := (PieceBody.ofEntry locales root entry).lexemes entry.arguments

/-- The lexemes of the accessor of a key. -/
def accessorLexemes
    (locales : List Locale)
    (root : Locale)
    (entry : CatalogEntry)
    (name : String) :
    List Lexeme :=
  FunctionWords.exported.lexemes ++
    functionLexemes name (methodLexemes (declaredOf entry)) (.named "String")
      ((PieceBody.ofEntry locales root entry).lexemes entry.arguments)

/-- The documentation of a key is a comment. -/
theorem isComment_documentation
    (key : String) :
    IsComment ("/// Message " ++ Text.quotedString key ++ ".") := by
  have lead : IsComment "/// Message " := ⟨by decide, by decide⟩
  have quotation : Text.OnOneLine (Text.quotedString key).toList := by
    rw [Text.quotedString, String.toList_ofList]
    exact Text.onOneLine_quoted key.toList
  exact (lead.append quotation).append (by decide)

/-- The lines of an accessor have its lexemes. -/
theorem spellsLines_accessor
    {locales : List Locale}
    {root : Locale}
    {entry : CatalogEntry}
    {name : String}
    (rootNamed : root.IsNamed)
    (named : ∀ locale ∈ locales, locale.IsNamed)
    (legal : Identifier.isLegal name)
    (parameters :
      ∀ argument ∈ entry.arguments.arguments, Validation.IsParameter entry.arity argument)
    (inhabited : HasVariants entry) :
    SpellsLines (Accessor.ofEntry locales root entry name).lines
      (accessorLexemes locales root entry name) := by
  have words : Completes "pub fn ".toList FunctionWords.exported.lexemes := by decide
  have openingParenthesis : Completes ['('] [.mark .openParenthesis] := by decide
  have result :
      Spells (')' :: " -> String \x7b".toList)
        [.mark .closeParenthesis, .mark .thinArrow, .name "String", .mark .openBrace] := by
    decide
  have signature : Spells (Accessor.ofEntry locales root entry name).signature.toList _ :=
    spells_signature (spelled_parametersOf parameters)
  have declaration :=
    (spells_name legal).append (by decide)
      (openingParenthesis.spells_append (signature.append (by decide) result))
  have opening :
      Spells
        ("pub fn " ++ (Accessor.ofEntry locales root entry name).name ++ "(" ++
          (Accessor.ofEntry locales root entry name).signature ++ ") -> String \x7b").toList
        (FunctionWords.exported.lexemes ++ .name name :: .mark .openParenthesis ::
          (methodLexemes (declaredOf entry) ++
            [.mark .closeParenthesis, .mark .thinArrow, .name "String", .mark .openBrace])) := by
    have nameOf : (Accessor.ofEntry locales root entry name).name = name := rfl
    simpa [nameOf, String.toList_append] using words.spells_append declaration
  have bodyNamed : (PieceBody.ofEntry locales root entry).IsNamed :=
    PieceBody.isNamed_ofEntry entry rootNamed named
  have body := spellsLines_body entry.arguments bodyNamed
  rw [PieceBody.code_ofEntry locales root inhabited] at body
  have lines := SpellsLines.braced opening body
  have documented := lines.comment (isComment_documentation entry.key)
  simpa [Accessor.lines, accessorLexemes, functionLexemes, WrittenType.lexemes, Accessor.ofEntry]
    using documented

/-- The accessor of a key is a member by itself. -/
theorem isMembers_accessorLexemes
    (locales : List Locale)
    (root : Locale)
    (entry : CatalogEntry)
    (name : String) :
    IsMembers (accessorLexemes locales root entry name) [methodOf locales root entry name] :=
  .method .exported name (declaredOf entry) (.named "String") (PieceBody.balanced_lexemes _ _)

/-! ## Calls -/

/-- The values that an accessor is called with: the quantity first, if the key is plural. -/
def valuesWith
    (entry : CatalogEntry)
    (quantity : Int64)
    (values : List Value) :
    List Value :=
  if entry.arity.isPlural then
    .integer quantity :: values
  else
    values

/-- No argument of an entry has a name that a plural function could have. -/
def KeepsPluralFunctions
    (entry : CatalogEntry) :
    Prop :=
  ∀ argument ∈ entry.arguments.arguments,
    ¬"plural_form_".toList <+: argument.name.toList

instance
    (entry : CatalogEntry) :
    Decidable (KeepsPluralFunctions entry) :=
  List.decidableBAll
    (fun argument : Placeholder.Argument => ¬"plural_form_".toList <+: argument.name.toList)
    entry.arguments.arguments

theorem names_declaredOf
    (entry : CatalogEntry) :
    (declaredOf entry).map Declared.name =
      (if entry.arity.isPlural then [Validation.quantityParameter] else []) ++
        entry.arguments.arguments.map Placeholder.Argument.name := by
  unfold declaredOf
  rw [List.map_append, List.map_map]
  split <;> rfl

theorem nodup_names_declaredOf
    {locales : List Locale}
    {rootIndex : Nat}
    {root : Locale}
    {entry : CatalogEntry}
    (wellFormed : WellFormedEntry locales rootIndex root entry) :
    ((declaredOf entry).map Declared.name).Nodup := by
  rw [names_declaredOf]
  by_cases isPlural : entry.arity.isPlural
  · rw [if_pos isPlural, List.singleton_append, List.nodup_cons]
    refine ⟨fun member => ?_, wellFormed.distinct⟩
    obtain ⟨argument, inArguments, same⟩ := List.mem_map.mp member
    exact (wellFormed.parameters argument inArguments).noQuantity isPlural same
  · rw [if_neg isPlural, List.nil_append]
    exact wellFormed.distinct

theorem term?_methodOf
    (locales : List Locale)
    (root : Locale)
    (entry : CatalogEntry)
    (name : String) :
    (methodOf locales root entry name).term? =
      some ((PieceBody.ofEntry locales root entry).term entry.arguments) := by
  have read :=
    (PieceBody.readsValue entry.arguments (PieceBody.ofEntry locales root entry)).readValue
  simp [Function.term?, methodOf, read, whole]

/-- No argument of an entry is called like a variant of the prelude. -/
def KeepsPrelude
    (entry : CatalogEntry) :
    Prop :=
  ∀ argument ∈ entry.arguments.arguments, argument.name ∉ preludeVariants

instance
    (entry : CatalogEntry) :
    Decidable (KeepsPrelude entry) :=
  List.decidableBAll
    (fun argument : Placeholder.Argument => argument.name ∉ preludeVariants)
    entry.arguments.arguments

/-- An accessor whose parameters are distinct is accepted just if each of them is a variable. -/
theorem isAccepted_methodOf_iff
    {entry : CatalogEntry}
    (locales : List Locale)
    (root : Locale)
    (name : String)
    (distinct : ((declaredOf entry).map Declared.name).Nodup) :
    (methodOf locales root entry name).isAccepted ↔ KeepsPrelude entry := by
  have body := term?_methodOf locales root entry name
  have fits := (PieceBody.ofEntry locales root entry).fitsWidth_term entry.arguments
  have names :
      (methodOf locales root entry name).parameters = (declaredOf entry).map Declared.name :=
    rfl
  have declares :
      (methodOf locales root entry name).declaresVariables ↔ KeepsPrelude entry := by
    have noQuantity : Validation.quantityParameter ∉ preludeVariants := by decide
    rw [Function.declaresVariables_iff, names, and_iff_right distinct, names_declaredOf,
      List.forall_mem_append, List.forall_mem_map]
    split <;> simp [noQuantity, KeepsPrelude]
  rw [Function.isAccepted_iff_of_term body, and_iff_left (fits _), declares]

/-- A plural function is not hidden by a parameter. -/
theorem pluralFunction_not_mem_names
    {entry : CatalogEntry}
    (keeps : KeepsPluralFunctions entry)
    (locale : Locale) :
    pluralFunction locale ∉ (declaredOf entry).map Declared.name := by
  have starts : "plural_form_".toList <+: (pluralFunction locale).toList := by
    rw [pluralFunction, String.toList_append]
    exact List.prefix_append _ _
  rw [names_declaredOf, List.mem_append]
  rintro (isQuantity | inArguments)
  · split at isQuantity
    · rw [List.mem_singleton] at isQuantity
      rw [isQuantity] at starts
      revert starts
      decide
    · cases isQuantity
  · obtain ⟨argument, member, same⟩ := List.mem_map.mp inArguments
    exact keeps argument member (same ▸ starts)

theorem lookup_zip_of_not_mem
    {names : List String}
    {name : String}
    (absent : name ∉ names)
    (values : List Value) :
    (names.zip values).lookup name = none := by
  induction names generalizing values with
  | nil =>
      rfl
  | cons first names inductionHypothesis =>
      rw [List.mem_cons, not_or] at absent
      cases values with
      | nil =>
          rfl
      | cons value values =>
          rw [List.zip_cons_cons, List.lookup_cons, beq_eq_false_iff_ne.mpr absent.1]
          exact inductionHypothesis absent.2 values

/-- A selection of a message asks for the form that the plural function of its locale returns. -/
theorem PieceSelection.asks_ofMessage
    {entry : CatalogEntry}
    {origin : Locale}
    {fields : List (String × Value)}
    {functions : String → List Value → Outcome Value}
    {quantity form : Int64}
    (message : Message)
    (values : List Value)
    (keeps : KeepsPluralFunctions entry)
    (called : functions (pluralFunction origin) [.integer quantity] = .ok (.integer form)) :
    (ofMessage entry message origin).Asks
      ⟨fields, ((declaredOf entry).map Declared.name).zip (valuesWith entry quantity values),
        functions⟩
      form := by
  rcases ofMessage_cases entry message origin with
    ⟨pieces, same⟩ | ⟨isPlural, initial, last, same⟩
  · rw [same]
    trivial
  · rw [same]
    refine ⟨lookup_zip_of_not_mem (pluralFunction_not_mem_names keeps origin) _,
      .integer quantity, ?_, called⟩
    rw [names_declaredOf, if_pos isPlural, valuesWith, if_pos isPlural]
    rfl

/-- The call of an accessor evaluates the string expression of the variant that is selected. -/
theorem run_methodOf
    {locales : List Locale}
    {root locale : Locale}
    {entry : CatalogEntry}
    {position : Nat}
    {selection : PieceSelection}
    {functions : String → List Value → Outcome Value}
    {fields : List (String × Value)}
    {values : List Value}
    {form : Int64}
    (name : String)
    (accepted : (methodOf locales root entry name).isAccepted)
    (count : values.length = (declaredOf entry).length)
    (selects :
      (PieceBody.ofEntry locales root entry).SelectsAt position locale selection)
    (tagged : fields.lookup localeField = some (.variant (localePath locale)))
    (asks :
      selection.Asks ⟨fields, ((declaredOf entry).map Declared.name).zip values, functions⟩
        form) :
    (methodOf locales root entry name).run functions fields values =
      .ok (.text (textOf entry.arguments (selection.piecesAt form))) := by
  have body := term?_methodOf locales root entry name
  have fits : (methodOf locales root entry name).parameters.length = values.length := by
    rw [Function.parameters, methodOf, List.length_map, count]
  rw [Function.run_of_isAccepted accepted body fits]
  exact PieceBody.run_term entry.arguments selects tagged asks

end Phrasebook.Code
