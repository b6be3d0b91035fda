import Mathlib
import Phrasebook.Proofs.Generated.Module
import Phrasebook.Proofs.Generated.Reading

namespace Phrasebook.Generated

/-!
# Reading modules from their parts

Lexemes whose groups are all closed again never close the group around them, so the inside of a
group that is made of such lexemes is found as it was put in. Each item is read in front of
whatever follows it.
-/

/-! ## Balanced lexemes -/

/-- Whether a lexeme opens or closes a group. -/
def isGroupMark :
    Lexeme →
    Bool
  | .mark mark => (closer? mark).isSome || isCloser mark
  | _ => false

/-- A group around some lexemes is closed no earlier than what follows them. -/
def Balanced
    (lexemes : List Lexeme) :
    Prop :=
  ∀ innermost outer further,
    takeGroup (innermost :: outer) (lexemes ++ further) =
      (takeGroup (innermost :: outer) further).map fun found => (lexemes ++ found.1, found.2)

namespace Balanced

theorem nil :
    Balanced [] := by
  intro innermost outer further
  simp

theorem append
    {first second : List Lexeme}
    (firstBalanced : Balanced first)
    (secondBalanced : Balanced second) :
    Balanced (first ++ second) := by
  intro innermost outer further
  rw [List.append_assoc, firstBalanced, secondBalanced, Option.map_map]
  congr 1
  funext found
  simp

theorem cons
    {lexeme : Lexeme}
    {lexemes : List Lexeme}
    (plain : isGroupMark lexeme = false)
    (balanced : Balanced lexemes) :
    Balanced (lexeme :: lexemes) := by
  intro innermost outer further
  have kept :
      takeGroup (innermost :: outer) (lexeme :: (lexemes ++ further)) =
        (takeGroup (innermost :: outer) (lexemes ++ further)).map (keep lexeme) := by
    cases lexeme with
    | mark mark =>
        simp only [isGroupMark, Bool.or_eq_false_iff, Option.isSome_eq_false_iff,
          Option.isNone_iff_eq_none] at plain
        simp [takeGroup, plain.1, plain.2]
    | keyword | name | reserved | number | literal | lifetime =>
        rfl
  rw [List.cons_append, kept, balanced, Option.map_map]
  rfl

theorem singleton
    {lexeme : Lexeme}
    (plain : isGroupMark lexeme = false) :
    Balanced [lexeme] :=
  cons plain nil

/-- What opens a group and what closes it are different marks. -/
theorem closer?_of_isCloser
    {mark : Mark}
    (closes : isCloser mark) :
    closer? mark = none := by
  revert closes
  cases mark <;> decide

theorem isCloser_of_closer?
    {opener closer : Mark}
    (opens : closer? opener = some closer) :
    isCloser closer := by
  cases opener <;> cases opens <;> rfl

theorem group
    {opener closer : Mark}
    {inside lexemes : List Lexeme}
    (opens : closer? opener = some closer)
    (insideBalanced : Balanced inside)
    (balanced : Balanced lexemes) :
    Balanced (.mark opener :: (inside ++ .mark closer :: lexemes)) := by
  intro innermost outer further
  have closes := isCloser_of_closer? opens
  have closed :
      takeGroup (closer :: innermost :: outer) (.mark closer :: (lexemes ++ further)) =
        (takeGroup (innermost :: outer) (lexemes ++ further)).map (keep (.mark closer)) := by
    simp [takeGroup, closer?_of_isCloser closes, closes]
  rw [List.cons_append, List.append_assoc, List.cons_append]
  rw [takeGroup]
  simp only [opens]
  rw [insideBalanced, closed, balanced]
  simp only [Option.map_map]
  congr 1
  funext found
  simp [keep]

theorem flatMap
    {α : Type}
    {lexemes : α → List Lexeme}
    {list : List α}
    (balanced : ∀ element ∈ list, Balanced (lexemes element)) :
    Balanced (list.flatMap lexemes) := by
  induction list with
  | nil =>
      exact nil
  | cons element rest inductionHypothesis =>
      rw [List.forall_mem_cons] at balanced
      exact balanced.1.append (inductionHypothesis balanced.2)

/-- The inside of a group is found as it was put in. -/
theorem takeGroup
    {inside : List Lexeme}
    (balanced : Balanced inside)
    (closer : Mark)
    (closes : isCloser closer)
    (rest : List Lexeme) :
    takeGroup [closer] (inside ++ .mark closer :: rest) = some (inside, rest) := by
  rw [balanced]
  simp [Generated.takeGroup, closer?_of_isCloser closes, closes]

end Balanced

/-! ## Types and declared names -/

namespace WrittenType

/-- The lexemes of a type. -/
def lexemes :
    WrittenType →
    List Lexeme
  | .named name => [.name name]
  | .own => [.reserved "Self"]
  | .reference target => .mark .ampersand :: target.lexemes
  | .lasting lifetime target => .mark .ampersand :: .lifetime lifetime :: target.lexemes

theorem balanced_lexemes
    (type : WrittenType) :
    Balanced type.lexemes := by
  induction type with
  | named name =>
      exact .singleton rfl
  | own =>
      exact .singleton rfl
  | reference target targetBalanced =>
      exact .cons rfl targetBalanced
  | lasting lifetime target targetBalanced =>
      exact .cons rfl (.cons rfl targetBalanced)

/-- A type is read from its lexemes wherever they stand. -/
theorem readType_lexemes
    (type : WrittenType)
    (rest : List Lexeme) :
    readType (type.lexemes ++ rest) = some (type, rest) := by
  induction type with
  | named name =>
      rfl
  | own =>
      rfl
  | reference target targetRead =>
      -- No lifetime stands at the front of a type.
      have withoutLifetime :
          readType (.mark .ampersand :: (target.lexemes ++ rest)) =
            (readType (target.lexemes ++ rest)).map (Prod.map .reference id) := by
        cases target <;> rfl
      rw [lexemes, List.cons_append, withoutLifetime, targetRead]
      rfl
  | lasting lifetime target targetRead =>
      rw [lexemes, List.cons_append, List.cons_append, readType, targetRead]
      rfl

end WrittenType

/-- The lexemes of a declared name. -/
def Declared.lexemes
    (declared : Declared) :
    List Lexeme :=
  .name declared.name :: .mark .colon :: declared.type.lexemes

/-- The lexemes of some declared names. -/
def declaredLexemes
    (names : List Declared) :
    List Lexeme :=
  [.mark .comma].intercalate (names.map Declared.lexemes)

theorem declaredLexemes_cons_cons
    (declared next : Declared)
    (rest : List Declared) :
    declaredLexemes (declared :: next :: rest) =
      declared.lexemes ++ .mark .comma :: declaredLexemes (next :: rest) := by
  simp [declaredLexemes, List.intercalate_cons_cons]

theorem balanced_declaredLexemes
    (names : List Declared) :
    Balanced (declaredLexemes names) := by
  induction names with
  | nil =>
      exact .nil
  | cons declared rest inductionHypothesis =>
      have declaredBalanced : Balanced declared.lexemes :=
        .cons rfl (.cons rfl declared.type.balanced_lexemes)
      cases rest with
      | nil =>
          simpa [declaredLexemes] using declaredBalanced
      | cons next rest =>
          rw [declaredLexemes_cons_cons]
          exact declaredBalanced.append (.cons rfl inductionHypothesis)

theorem readNames_declaredLexemes
    (names : List Declared) :
    readNames (declaredLexemes names) = some names := by
  induction names with
  | nil =>
      exact readNames.eq_def _
  | cons declared rest inductionHypothesis =>
      cases rest with
      | nil =>
          have typed := declared.type.readType_lexemes []
          rw [List.append_nil] at typed
          rw [declaredLexemes, List.map_singleton, List.intercalate_singleton, Declared.lexemes,
            readNames]
          simp [typed]
      | cons next rest =>
          have typed :=
            declared.type.readType_lexemes (.mark .comma :: declaredLexemes (next :: rest))
          rw [declaredLexemes_cons_cons, Declared.lexemes, List.cons_append, List.cons_append,
            readNames]
          have shorter :
              (declaredLexemes (next :: rest)).length <
                (declared.type.lexemes ++ .mark .comma :: declaredLexemes (next :: rest)).length := by
            simp only [List.length_append, List.length_cons]
            omega
          simp [typed, lessThan?_of_lt shorter, inductionHypothesis]

/-! ## Functions -/

/-- The lexemes of the receiver and the parameters of a method. -/
def methodLexemes
    (parameters : List Declared) :
    List Lexeme :=
  [.mark .comma].intercalate
    ([.mark .ampersand, .keyword .receiver] :: parameters.map Declared.lexemes)

theorem methodLexemes_cons
    (declared : Declared)
    (rest : List Declared) :
    methodLexemes (declared :: rest) =
      [.mark .ampersand, .keyword .receiver, .mark .comma] ++ declaredLexemes (declared :: rest) := by
  simp [methodLexemes, declaredLexemes, List.intercalate_cons_cons]

theorem balanced_methodLexemes
    (parameters : List Declared) :
    Balanced (methodLexemes parameters) := by
  have receiverBalanced : Balanced [.mark .ampersand, .keyword .receiver] :=
    .cons rfl (.singleton rfl)
  cases parameters with
  | nil =>
      exact receiverBalanced
  | cons declared rest =>
      rw [methodLexemes_cons]
      exact (receiverBalanced.append (.singleton rfl)).append (balanced_declaredLexemes _)

theorem readReceiver_methodLexemes
    (parameters : List Declared) :
    readReceiver (methodLexemes parameters) = (true, declaredLexemes parameters) := by
  cases parameters with
  | nil =>
      rfl
  | cons declared rest =>
      rw [methodLexemes_cons]
      rfl

theorem readReceiver_declaredLexemes
    (parameters : List Declared) :
    readReceiver (declaredLexemes parameters) = (false, declaredLexemes parameters) := by
  cases parameters with
  | nil =>
      rfl
  | cons declared rest =>
      cases rest with
      | nil =>
          rfl
      | cons next rest =>
          rw [declaredLexemes_cons_cons]
          rfl

/-- The lexemes of a function after its keyword, given those between its parentheses. -/
def functionLexemes
    (name : String)
    (inside : List Lexeme)
    (result : WrittenType)
    (body : List Lexeme) :
    List Lexeme :=
  .name name :: .mark .openParenthesis ::
    (inside ++ .mark .closeParenthesis :: .mark .thinArrow ::
      (result.lexemes ++ .mark .openBrace :: (body ++ [.mark .closeBrace])))

theorem balanced_functionLexemes
    {inside body : List Lexeme}
    (name : String)
    (insideBalanced : Balanced inside)
    (result : WrittenType)
    (bodyBalanced : Balanced body) :
    Balanced (functionLexemes name inside result body) := by
  have block : Balanced (.mark .openBrace :: (body ++ [.mark .closeBrace])) :=
    .group rfl bodyBalanced .nil
  exact .cons rfl (.group rfl insideBalanced (.cons rfl (result.balanced_lexemes.append block)))

/-- A function is read with what it is made of. -/
theorem readFunction_functionLexemes
    {inside names body : List Lexeme}
    {hasReceiver : Bool}
    {declared : List Declared}
    (name : String)
    (insideBalanced : Balanced inside)
    (receiver : readReceiver inside = (hasReceiver, names))
    (namesRead : readNames names = some declared)
    (result : WrittenType)
    (bodyBalanced : Balanced body)
    (rest : List Lexeme) :
    readFunction (functionLexemes name inside result body ++ rest) =
      some (⟨name, hasReceiver, declared, result, body⟩, rest) := by
  have bodyTaken := bodyBalanced.takeGroup .closeBrace rfl rest
  have insideTaken :=
    insideBalanced.takeGroup .closeParenthesis rfl
      (.mark .thinArrow ::
        (result.lexemes ++ .mark .openBrace :: (body ++ .mark .closeBrace :: rest)))
  simp [functionLexemes, readFunction, insideTaken, receiver, namesRead, expectMark,
    result.readType_lexemes (.mark .openBrace :: _), bodyTaken]

/-! ## Members -/

/-- The words before a member that is a function. -/
inductive FunctionWords where
  | exported
  | exportedConstant

namespace FunctionWords

/-- The lexemes of the words, that of a function included. -/
def lexemes :
    FunctionWords →
    List Lexeme
  | .exported => [.keyword .exported, .keyword .function]
  | .exportedConstant => [.keyword .exported, .keyword .constant, .keyword .function]

theorem balanced
    (words : FunctionWords) :
    Balanced words.lexemes := by
  cases words with
  | exported =>
      exact .cons rfl (.singleton rfl)
  | exportedConstant =>
      exact .cons rfl (.cons rfl (.singleton rfl))

end FunctionWords

theorem readMembers_nil :
    readMembers [] = some [] := by
  rw [readMembers.eq_def]
  rfl

theorem readMembers_function
    {given rest : List Lexeme}
    {function : Function}
    {functions : List Function}
    (words : FunctionWords)
    (read : readFunction given = some (function, rest))
    (noLonger : rest.length ≤ given.length)
    (furtherRead : readMembers rest = some functions) :
    readMembers (words.lexemes ++ given) = some (function :: functions) := by
  have guarded :
      lessThan? (words.lexemes ++ given) rest =
        some ⟨rest, by cases words <;> simp [FunctionWords.lexemes] <;> omega⟩ :=
    lessThan?_of_lt _
  rw [readMembers.eq_def]
  cases words <;>
    simp only [FunctionWords.lexemes, List.cons_append, List.nil_append, skipExport] at guarded ⊢ <;>
    simp [read, guarded, furtherRead]

theorem readMembers_constant
    {given rest : List Lexeme}
    {functions : List Function}
    (name : String)
    (skipped : skipConstant given = some rest)
    (noLonger : rest.length ≤ given.length)
    (furtherRead : readMembers rest = some functions) :
    readMembers (.keyword .exported :: .keyword .constant :: .name name :: given) =
      some functions := by
  have shorter :
      rest.length <
        (Lexeme.keyword .exported :: .keyword .constant :: .name name :: given).length := by
    simp only [List.length_cons]
    omega
  rw [readMembers.eq_def]
  simp [skipExport, skipped, lessThan?_of_lt shorter, furtherRead]

/-- Some lexemes are members of a type, of which the functions are given, wherever they stand. -/
structure IsMembers
    (lexemes : List Lexeme)
    (functions : List Function) :
    Prop where
  balanced : Balanced lexemes
  read :
    ∀ {rest further}, readMembers rest = some further →
      readMembers (lexemes ++ rest) = some (functions ++ further)

namespace IsMembers

theorem nil :
    IsMembers [] [] :=
  ⟨.nil, fun furtherRead => furtherRead⟩

theorem append
    {first second : List Lexeme}
    {firstFunctions secondFunctions : List Function}
    (firstMembers : IsMembers first firstFunctions)
    (secondMembers : IsMembers second secondFunctions) :
    IsMembers (first ++ second) (firstFunctions ++ secondFunctions) := by
  refine ⟨firstMembers.balanced.append secondMembers.balanced, fun furtherRead => ?_⟩
  rw [List.append_assoc, List.append_assoc]
  exact firstMembers.read (secondMembers.read furtherRead)

theorem flatMap
    {α : Type}
    {lexemes : α → List Lexeme}
    {functionOf : α → Function}
    {list : List α}
    (members : ∀ element ∈ list, IsMembers (lexemes element) [functionOf element]) :
    IsMembers (list.flatMap lexemes) (list.map functionOf) := by
  induction list with
  | nil =>
      exact nil
  | cons element rest inductionHypothesis =>
      rw [List.forall_mem_cons] at members
      exact members.1.append (inductionHypothesis members.2)

/-- A function without a receiver is a member. -/
theorem associated
    {body : List Lexeme}
    (words : FunctionWords)
    (name : String)
    (declared : List Declared)
    (result : WrittenType)
    (bodyBalanced : Balanced body) :
    IsMembers (words.lexemes ++ functionLexemes name (declaredLexemes declared) result body)
      [⟨name, false, declared, result, body⟩] := by
  have insideBalanced := balanced_declaredLexemes declared
  refine ⟨words.balanced.append
    (balanced_functionLexemes name insideBalanced result bodyBalanced), fun furtherRead => ?_⟩
  rw [List.append_assoc]
  exact readMembers_function words
    (readFunction_functionLexemes name insideBalanced (readReceiver_declaredLexemes declared)
      (readNames_declaredLexemes declared) result bodyBalanced _)
    (by simp) furtherRead

/-- A method is a member. -/
theorem method
    {body : List Lexeme}
    (words : FunctionWords)
    (name : String)
    (declared : List Declared)
    (result : WrittenType)
    (bodyBalanced : Balanced body) :
    IsMembers (words.lexemes ++ functionLexemes name (methodLexemes declared) result body)
      [⟨name, true, declared, result, body⟩] := by
  have insideBalanced := balanced_methodLexemes declared
  refine ⟨words.balanced.append
    (balanced_functionLexemes name insideBalanced result bodyBalanced), fun furtherRead => ?_⟩
  rw [List.append_assoc]
  exact readMembers_function words
    (readFunction_functionLexemes name insideBalanced (readReceiver_methodLexemes declared)
      (readNames_declaredLexemes declared) result bodyBalanced _)
    (by simp) furtherRead

theorem readMembers
    {lexemes : List Lexeme}
    {functions : List Function}
    (members : IsMembers lexemes functions) :
    readMembers lexemes = some functions := by
  have read := members.read readMembers_nil
  rwa [List.append_nil, List.append_nil] at read

end IsMembers

/-! ## Items -/

theorem readItems_nil :
    readItems [] = some [] := by
  rw [readItems.eq_def]

/-- Some lexemes are items of a module wherever they stand. -/
structure IsItems
    (lexemes : List Lexeme)
    (items : List Item) :
    Prop where
  read :
    ∀ {rest further}, readItems rest = some further →
      readItems (lexemes ++ rest) = some (items ++ further)

namespace IsItems

theorem nil :
    IsItems [] [] :=
  ⟨fun furtherRead => furtherRead⟩

theorem append
    {first second : List Lexeme}
    {firstItems secondItems : List Item}
    (firstAre : IsItems first firstItems)
    (secondAre : IsItems second secondItems) :
    IsItems (first ++ second) (firstItems ++ secondItems) := by
  refine ⟨fun furtherRead => ?_⟩
  rw [List.append_assoc, List.append_assoc]
  exact firstAre.read (secondAre.read furtherRead)

theorem flatMap
    {α : Type}
    {lexemes : α → List Lexeme}
    {itemOf : α → Item}
    {list : List α}
    (items : ∀ element ∈ list, IsItems (lexemes element) [itemOf element]) :
    IsItems (list.flatMap lexemes) (list.map itemOf) := by
  induction list with
  | nil =>
      exact nil
  | cons element rest inductionHypothesis =>
      rw [List.forall_mem_cons] at items
      exact items.1.append (inductionHypothesis items.2)

/-- An item is read in front of the items that follow it. -/
theorem single
    {lexemes : List Lexeme}
    {item : Item}
    (read :
      ∀ rest, ∃ bare,
        skipAttribute (lexemes ++ rest) = some bare ∧
          readBareItem (skipExport bare) = some (item, rest)) :
    IsItems lexemes [item] := by
  refine ⟨fun {rest further} furtherRead => ?_⟩
  obtain ⟨bare, skipped, itemRead⟩ := read rest
  have taken : lexemes ≠ [] := by
    rintro rfl
    obtain ⟨nothing, nothingSkipped, nothingRead⟩ := read []
    cases nothingSkipped
    cases nothingRead
  have shorter : rest.length < (lexemes ++ rest).length := by
    have positive := List.length_pos_iff.mpr taken
    rw [List.length_append]
    omega
  rw [readItems.eq_def]
  split
  · rename_i isEmpty
    rw [isEmpty] at skipped
    cases skipped
    cases itemRead
  · simp [skipped, itemRead, lessThan?_of_lt shorter, furtherRead]

/-- An item may have an attribute. -/
theorem attributed
    {before lexemes : List Lexeme}
    {item : Item}
    (skipped : ∀ rest, skipAttribute (before ++ rest) = some rest)
    (read : ∀ rest, readBareItem (skipExport (lexemes ++ rest)) = some (item, rest)) :
    IsItems (before ++ lexemes) [item] := by
  refine single fun rest => ⟨lexemes ++ rest, ?_, read rest⟩
  rw [List.append_assoc]
  exact skipped (lexemes ++ rest)

theorem readItems
    {lexemes : List Lexeme}
    {items : List Item}
    (are : IsItems lexemes items) :
    readItems lexemes = some items := by
  have read := are.read readItems_nil
  rwa [List.append_nil, List.append_nil] at read

end IsItems

theorem readBareItem_enumeration
    {inside : List Lexeme}
    {variants : List String}
    (name : String)
    (balanced : Balanced inside)
    (read : readVariants inside = some variants)
    (rest : List Lexeme) :
    readBareItem
        (.keyword .enumeration :: .name name :: .mark .openBrace ::
          (inside ++ .mark .closeBrace :: rest)) =
      some (.enumeration name variants, rest) := by
  simp [readBareItem, balanced.takeGroup .closeBrace rfl rest, read]

theorem readBareItem_record
    {inside : List Lexeme}
    {fields : List Declared}
    (name : String)
    (balanced : Balanced inside)
    (read : readNames inside = some fields)
    (rest : List Lexeme) :
    readBareItem
        (.keyword .record :: .name name :: .mark .openBrace ::
          (inside ++ .mark .closeBrace :: rest)) =
      some (.record name fields, rest) := by
  simp [readBareItem, balanced.takeGroup .closeBrace rfl rest, read]

theorem readBareItem_implementation
    {inside : List Lexeme}
    {functions : List Function}
    (type : String)
    (members : IsMembers inside functions)
    (rest : List Lexeme) :
    readBareItem
        (.keyword .implementation :: .name type :: .mark .openBrace ::
          (inside ++ .mark .closeBrace :: rest)) =
      some (.implementation type functions, rest) := by
  simp [readBareItem, members.balanced.takeGroup .closeBrace rfl rest, members.readMembers]

theorem readBareItem_function
    {given rest : List Lexeme}
    {function : Function}
    (read : readFunction given = some (function, rest)) :
    readBareItem (.keyword .function :: given) = some (.function function, rest) := by
  simp [readBareItem, read]

end Phrasebook.Generated
