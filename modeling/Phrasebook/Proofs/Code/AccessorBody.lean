import Phrasebook.Proofs.Code.Selection
import Phrasebook.Proofs.Validation.Bundle

namespace Phrasebook.Code

open Generated

/-!
# Bodies of accessors

The body of an accessor selects a variant of the message of a locale. Only one arm is for that
locale, as locales differ in the names of their variants, and with one locale there are no arms at
all.
-/

/-- A body whose selections keep their pieces and their locales. -/
inductive PieceBody where
  | unconditional (selection : PieceSelection)
  | byLocale (arms : List (Locale × PieceSelection))

/-- The path of the variant of a locale. -/
def localePath
    (locale : Locale) :
    List String :=
  [Validation.localeTagType, locale.variantName]

/-- The lexemes of the variant of a locale. -/
def localePathLexemes
    (locale : Locale) :
    List Lexeme :=
  [.name Validation.localeTagType, .mark .pathSeparator, .name locale.variantName]

/-- The name of the field that holds the locale. -/
def localeField :
    String :=
  "locale_tag"

/-- The lexemes of the field that holds the locale. -/
def localeFieldLexemes :
    List Lexeme :=
  [.keyword .receiver, .mark .dot, .name localeField]

namespace PieceBody

/-- The body that is written. -/
def code
    (table : Placeholder.ArgumentTable) :
    PieceBody →
    AccessorBody
  | .unconditional selection => .unconditional (selection.code table)
  | .byLocale arms =>
      .byLocale (arms.map fun (locale, selection) => (localeTag locale, selection.code table))

/-- The lexemes of a body. -/
def lexemes
    (table : Placeholder.ArgumentTable) :
    PieceBody →
    List Lexeme
  | .unconditional selection => selection.lexemes table
  | .byLocale arms =>
      selectionLexemes localeFieldLexemes
        (arms.map fun (locale, selection) =>
          (localePathLexemes locale, selection.lexemes table))

/-- The term of a body. -/
def term
    (table : Placeholder.ArgumentTable) :
    PieceBody →
    Term
  | .unconditional selection => selection.term table
  | .byLocale arms =>
      .selection (.field .receiver localeField)
        (arms.map fun (locale, selection) =>
          (.path (localePath locale), selection.term table))

/-- Whether all locales that a body mentions are ones that can be named. -/
def IsNamed :
    PieceBody →
    Prop
  | .unconditional selection => selection.IsNamed
  | .byLocale arms => ∀ arm ∈ arms, arm.1.IsNamed ∧ arm.2.IsNamed

end PieceBody

/-! ## From code to lexemes -/

/-- The tag of a locale goes on with a delimiter. -/
theorem completes_localeTag
    {locale : Locale}
    {after : List Char}
    {afterLexemes : List Lexeme}
    {character : Char}
    (named : locale.IsNamed)
    (delimiter : character ∈ delimiters)
    (further : Completes (character :: after) afterLexemes) :
    Completes ((localeTag locale).toList ++ character :: after)
      (localePathLexemes locale ++ afterLexemes) := by
  have type : Completes "LocaleTag::".toList [.name "LocaleTag", .mark .pathSeparator] := by
    decide
  have tag := type.name named.isLegal_variantName delimiter further
  simpa [localeTag, Validation.localeTagType, localePathLexemes, String.toList_append] using tag

theorem spellsLines_localeArms
    (table : Placeholder.ArgumentTable)
    {arms : List (Locale × PieceSelection)}
    (named : ∀ arm ∈ arms, arm.1.IsNamed ∧ arm.2.IsNamed) :
    SpellsLines
      (arms.flatMap fun (locale, selection) =>
        (selection.code table).lines (localeTag locale ++ " => ") ",")
      (arms.flatMap fun (locale, selection) =>
        armLexemes (localePathLexemes locale, selection.lexemes table)) := by
  refine .flatMap fun arm member => ?_
  obtain ⟨localeNamed, selectionNamed⟩ := named arm member
  have arrow : Completes (' ' :: "=> ".toList) [.mark .thickArrow] := by decide
  have before :
      Completes (localeTag arm.1 ++ " => ").toList
        (localePathLexemes arm.1 ++ [.mark .thickArrow]) := by
    have tag := completes_localeTag localeNamed (by decide) arrow
    simpa [String.toList_append] using tag
  have after : Completes ",".toList [.mark .comma] := by decide
  have lines := spellsLines_selection table selectionNamed before after
  simpa [armLexemes] using lines

/-- The line that opens a selection by the locale of the receiver. -/
theorem spells_localeSelection :
    Spells "match self.locale_tag \x7b".toList
      (.keyword .selection :: (localeFieldLexemes ++ [.mark .openBrace])) := by
  decide

/-- The lines of a body have its lexemes. -/
theorem spellsLines_body
    {body : PieceBody}
    (table : Placeholder.ArgumentTable)
    (named : body.IsNamed) :
    SpellsLines (body.code table).lines (body.lexemes table) := by
  cases body with
  | unconditional selection =>
      have nothing : Completes "".toList [] := by decide
      have lines := spellsLines_selection table named nothing nothing
      simpa [PieceBody.code, AccessorBody.lines, PieceBody.lexemes] using lines
  | byLocale arms =>
      have lines :=
        SpellsLines.braced spells_localeSelection (spellsLines_localeArms table named)
      simpa [PieceBody.code, AccessorBody.lines, PieceBody.lexemes, selectionLexemes,
        List.flatMap_map] using lines

/-! ## Reading -/

theorem balanced_localeFieldLexemes :
    Balanced localeFieldLexemes :=
  .cons rfl (.cons rfl (.singleton rfl))

theorem balanced_localePathLexemes
    (locale : Locale) :
    Balanced (localePathLexemes locale) :=
  .cons rfl (.cons rfl (.singleton rfl))

theorem PieceBody.balanced_lexemes
    (table : Placeholder.ArgumentTable)
    (body : PieceBody) :
    Balanced (body.lexemes table) := by
  cases body with
  | unconditional selection =>
      exact selection.balanced_lexemes table
  | byLocale arms =>
      refine balanced_selectionLexemes balanced_localeFieldLexemes fun arm member => ?_
      obtain ⟨⟨locale, selection⟩, _, rfl⟩ := List.mem_map.mp member
      exact ⟨balanced_localePathLexemes locale, selection.balanced_lexemes table⟩

/-- The variant of a locale is a pattern. -/
theorem readPattern_localePathLexemes
    (locale : Locale)
    (rest : List Lexeme) :
    readPattern (localePathLexemes locale ++ .mark .thickArrow :: rest) =
      some (.path (localePath locale), .mark .thickArrow :: rest) :=
  rfl

theorem PieceBody.readsValue
    (table : Placeholder.ArgumentTable)
    (body : PieceBody) :
    ReadsValue (body.lexemes table) (body.term table) := by
  cases body with
  | unconditional selection =>
      exact selection.readsValue table
  | byLocale arms =>
      refine readsValue_selection
        (fun rest closed => readNegation_receiverField localeField closed) ?_
      rw [List.forall₂_map_left_iff, List.forall₂_map_right_iff, List.forall₂_same]
      intro arm _
      exact ⟨readPattern_localePathLexemes arm.1, arm.2.readsValue table⟩

/-! ## Acceptance -/

theorem PieceBody.fitsWidth_term
    (table : Placeholder.ArgumentTable)
    (body : PieceBody) :
    ∀ fixed, (body.term table).fitsWidth fixed := by
  cases body with
  | unconditional selection =>
      exact selection.fitsWidth_term table
  | byLocale arms =>
      apply Term.fitsWidth_selection
      · rfl
      · rw [List.forall_mem_map]
        exact fun arm _ => arm.2.fitsWidth_term table

/-! ## Running -/

/-- Of arms by locale the one for a locale is run, wherever it stands. -/
theorem runArms_localeArms
    {α : Type}
    {scope : Scope}
    {localeOf : α → Locale}
    {termOf : α → Term}
    {list : List α}
    {position : Nat}
    {element : α}
    (distinct :
      list.Pairwise fun first second =>
        (localeOf first).variantName ≠ (localeOf second).variantName)
    (placed : list[position]? = some element) :
    runArms scope (.variant (localePath (localeOf element)))
        (list.map fun element => (.path (localePath (localeOf element)), termOf element)) =
      (termOf element).run scope := by
  induction list generalizing position with
  | nil =>
      cases placed
  | cons first rest inductionHypothesis =>
      rw [List.pairwise_cons] at distinct
      rw [List.map_cons, runArms]
      cases position with
      | zero =>
          cases placed
          simp [Pattern.fits]
      | succ position =>
          have later := List.getElem?_cons_succ ▸ placed
          have differs := distinct.1 element (List.mem_of_getElem? later)
          have apart :
              Pattern.fits (.path (localePath (localeOf first)))
                  (.variant (localePath (localeOf element))) =
                false := by
            simpa [Pattern.fits, localePath] using differs
          rw [apart]
          exact inductionHypothesis distinct.2 later

/-- What a body selects in the locale at a position. -/
inductive PieceBody.SelectsAt
    (position : Nat)
    (locale : Locale)
    (selection : PieceSelection) :
    PieceBody →
    Prop where
  | unconditional : SelectsAt position locale selection (.unconditional selection)
  | byLocale (arms : List (Locale × PieceSelection))
      (distinct :
        arms.Pairwise fun first second => first.1.variantName ≠ second.1.variantName)
      (placed : arms[position]? = some (locale, selection)) :
      SelectsAt position locale selection (.byLocale arms)

/-- A body evaluates the string expression of the variant that is chosen for the locale. -/
theorem PieceBody.run_term
    {body : PieceBody}
    {position : Nat}
    {locale : Locale}
    {selection : PieceSelection}
    {scope : Scope}
    {form : Int64}
    (table : Placeholder.ArgumentTable)
    (selects : body.SelectsAt position locale selection)
    (tagged : scope.fields.lookup localeField = some (.variant (localePath locale)))
    (asks : selection.Asks scope form) :
    (body.term table).run scope =
      .ok (.text (textOf table (selection.piecesAt form))) := by
  cases selects with
  | unconditional =>
      exact selection.run_term table asks
  | byLocale arms distinct placed =>
      rw [PieceBody.term, Term.run, Term.run]
      simp only [tagged, found, bind, Except.bind]
      rw [← selection.run_term table asks]
      exact runArms_localeArms distinct placed

/-! ## The body for an entry -/

/-- The selection of a message, whose plural form the rule of a locale decides. -/
def PieceSelection.ofMessage
    (entry : CatalogEntry)
    (message : Message)
    (origin : Locale) :
    PieceSelection :=
  match message.variants with
  | [] => .always []
  | first :: rest =>
      match rest.getLast? with
      | none => .always first
      | some last =>
          if entry.arity.isPlural then
            .byForm origin (first :: rest.dropLast) last
          else
            .always first

/-- A selection is always for the only variant or asks for the form in the locale of the message. -/
theorem PieceSelection.ofMessage_cases
    (entry : CatalogEntry)
    (message : Message)
    (origin : Locale) :
    (∃ pieces, ofMessage entry message origin = .always pieces) ∨
      entry.arity.isPlural ∧
        ∃ initial last, ofMessage entry message origin = .byForm origin initial last := by
  unfold ofMessage
  split
  · exact .inl ⟨_, rfl⟩
  · split
    · exact .inl ⟨_, rfl⟩
    · split
      · rename_i isPlural
        exact .inr ⟨isPlural, _, _, rfl⟩
      · exact .inl ⟨_, rfl⟩

theorem PieceSelection.isNamed_ofMessage
    {origin : Locale}
    (entry : CatalogEntry)
    (message : Message)
    (named : origin.IsNamed) :
    (ofMessage entry message origin).IsNamed := by
  rcases ofMessage_cases entry message origin with ⟨pieces, same⟩ | ⟨_, initial, last, same⟩
  · rw [same]
    trivial
  · rw [same]
    exact named

theorem PieceSelection.code_ofMessage
    (entry : CatalogEntry)
    {message : Message}
    (origin : Locale)
    (inhabited : message.variants ≠ []) :
    (ofMessage entry message origin).code entry.arguments =
      Selection.ofMessage entry message origin := by
  unfold ofMessage Selection.ofMessage
  cases variants : message.variants with
  | nil =>
      exact absurd variants inhabited
  | cons first rest =>
      cases last : rest.getLast? with
      | none =>
          simp [last, code]
      | some pieces =>
          simp only [List.map_cons, List.getLast?_map, last, Option.map_some]
          split
          · simp [code, List.map_dropLast]
          · rfl

/-- The selection for an entry in a locale at a position. -/
def PieceSelection.inLocale
    (root : Locale)
    (entry : CatalogEntry)
    (position : Nat)
    (locale : Locale) :
    PieceSelection :=
  match entry.override? position with
  | some message => ofMessage entry message locale
  | none => ofMessage entry entry.root root

/-- The body for an entry. -/
def PieceBody.ofEntry
    (locales : List Locale)
    (root : Locale)
    (entry : CatalogEntry) :
    PieceBody :=
  match locales with
  | [only] => .unconditional (.ofMessage entry entry.root only)
  | locales =>
      .byLocale (locales.zipIdx.map fun (locale, position) =>
        (locale, .inLocale root entry position locale))

/-- Every message of an entry has a variant. -/
structure HasVariants
    (entry : CatalogEntry) :
    Prop where
  root : entry.root.variants ≠ []
  override :
    ∀ position message, entry.override? position = some message → message.variants ≠ []

theorem PieceSelection.code_inLocale
    {entry : CatalogEntry}
    (root locale : Locale)
    (position : Nat)
    (inhabited : HasVariants entry) :
    (inLocale root entry position locale).code entry.arguments =
      AccessorBody.selectionIn root entry locale (entry.override? position) := by
  unfold inLocale AccessorBody.selectionIn AccessorBody.messageIn
  cases overridden : entry.override? position with
  | none =>
      exact code_ofMessage entry root inhabited.root
  | some message =>
      exact code_ofMessage entry locale (inhabited.override position message overridden)

theorem PieceBody.code_ofEntry
    {entry : CatalogEntry}
    (locales : List Locale)
    (root : Locale)
    (inhabited : HasVariants entry) :
    (ofEntry locales root entry).code entry.arguments =
      AccessorBody.ofEntry locales root entry := by
  unfold ofEntry AccessorBody.ofEntry
  split
  · exact congrArg AccessorBody.unconditional
      (PieceSelection.code_ofMessage entry _ inhabited.root)
  · simp only [code, List.map_map]
    congr 2
    funext pair
    simp [PieceSelection.code_inLocale root pair.1 pair.2 inhabited]

theorem PieceSelection.isNamed_inLocale
    {root locale : Locale}
    (entry : CatalogEntry)
    (position : Nat)
    (rootNamed : root.IsNamed)
    (named : locale.IsNamed) :
    (inLocale root entry position locale).IsNamed := by
  unfold inLocale
  split
  · exact isNamed_ofMessage entry _ named
  · exact isNamed_ofMessage entry _ rootNamed

theorem PieceBody.isNamed_ofEntry
    {locales : List Locale}
    {root : Locale}
    (entry : CatalogEntry)
    (rootNamed : root.IsNamed)
    (named : ∀ locale ∈ locales, locale.IsNamed) :
    (ofEntry locales root entry).IsNamed := by
  unfold ofEntry
  split
  · rename_i only
    exact PieceSelection.isNamed_ofMessage entry _ (named only List.mem_cons_self)
  · intro arm member
    obtain ⟨⟨locale, position⟩, pair, rfl⟩ := List.mem_map.mp member
    have localeNamed := named locale (List.fst_mem_of_mem_zipIdx pair)
    exact ⟨localeNamed, PieceSelection.isNamed_inLocale entry position rootNamed localeNamed⟩

/-- The body for an entry selects in each locale what is selected for the entry there. -/
theorem PieceBody.selectsAt_ofEntry
    {locales : List Locale}
    {rootIndex position : Nat}
    {root locale : Locale}
    {entry : CatalogEntry}
    (wellFormed : Validation.WellFormedLocales locales)
    (rooted : Validation.IsRootIndex locales rootIndex root)
    (rootSlot : entry.override? rootIndex = none)
    (placed : locales[position]? = some locale) :
    (ofEntry locales root entry).SelectsAt position locale
      (.inLocale root entry position locale) := by
  unfold ofEntry
  split
  · rename_i only
    have alone :
        ∀ {index : Nat} {found : Locale}, [only][index]? = some found →
          index = 0 ∧ found = only := by
      intro index found foundAt
      obtain ⟨inside, same⟩ := List.getElem?_eq_some_iff.mp foundAt
      have first : index = 0 := Nat.lt_one_iff.mp inside
      subst first
      exact ⟨rfl, same.symm⟩
    obtain ⟨rfl, rfl⟩ := alone rooted.placed
    obtain ⟨rfl, rfl⟩ := alone placed
    have selection :
        PieceSelection.inLocale locale entry 0 locale =
          .ofMessage entry entry.root locale := by
      rw [PieceSelection.inLocale, rootSlot]
    rw [selection]
    exact .unconditional
  · refine .byLocale _ ?_ ?_
    · rw [List.pairwise_map]
      have variants := wellFormed.variants
      rw [← List.zipIdx_map_fst 0 locales, List.pairwise_map] at variants
      exact variants
    · simp [placed]

/-! ## The variant that is chosen -/

/-- The variant of a message for a form: the only one, or else the one of that number, or else the
last. -/
def variantFor?
    (message : Message)
    (form : Int64) :
    Option (List Placeholder.Piece) :=
  match message.variants with
  | [only] => some only
  | variants =>
      if 0 ≤ form.toInt ∧ form.toInt < variants.length then
        variants[form.toInt.toNat]?
      else
        variants.getLast?

/-- The variant of an entry in the locale at a position, for the form by the rule of that locale and
the form by the rule of the root locale. -/
def variantIn?
    (entry : CatalogEntry)
    (position : Nat)
    (ownForm rootForm : Int64) :
    Option (List Placeholder.Piece) :=
  match entry.override? position with
  | some message => variantFor? message ownForm
  | none => variantFor? entry.root rootForm

/-- An element of a list with a last one is that last one if it is none before it. -/
theorem getElem?_concat_of_le
    {α : Type}
    {initial : List α}
    {last : α}
    {index : Nat}
    (inside : index ≤ initial.length) :
    (initial ++ [last])[index]? = some (initial[index]?.getD last) := by
  rcases Nat.lt_or_eq_of_le inside with before | rfl
  · rw [List.getElem?_append_left before, List.getElem?_eq_getElem before]
    rfl
  · simp

/-- A selection chooses the variant for the form that the plural function returns. -/
theorem PieceSelection.variantFor?_eq_piecesAt
    {entry : CatalogEntry}
    {message : Message}
    (origin : Locale)
    (form : Int64)
    (inhabited : message.variants ≠ [])
    (several : 1 < message.variants.length → entry.arity.isPlural) :
    variantFor? message form = some ((ofMessage entry message origin).piecesAt form) := by
  unfold variantFor? ofMessage
  cases variants : message.variants with
  | nil =>
      exact absurd variants inhabited
  | cons first rest =>
      rcases List.eq_nil_or_concat rest with rfl | ⟨initial, last, rfl⟩
      · rfl
      · have isPlural : entry.arity.isPlural := several (by simp [variants])
        have shape : first :: initial.concat last = (first :: initial) ++ [last] := by simp
        have length : ((first :: initial) ++ [last]).length = initial.length + 2 := by simp
        simp only [List.concat_eq_append, List.getLast?_concat, List.dropLast_concat, isPlural,
          if_true]
        split
        · rename_i only same
          exact absurd (congrArg List.length same) (by simp)
        · rw [← List.concat_eq_append, shape, length, piecesAt, List.getLast?_concat]
          by_cases nonnegative : 0 ≤ form.toInt
          · rw [if_pos nonnegative]
            by_cases inside : form.toInt < ((initial.length + 2 : Nat) : Int)
            · rw [if_pos ⟨nonnegative, inside⟩, getElem?_concat_of_le]
              rw [List.length_cons]
              omega
            · have outside : (first :: initial)[form.toInt.toNat]? = none := by
                refine List.getElem?_eq_none ?_
                rw [List.length_cons]
                omega
              rw [if_neg fun both => inside both.2, outside]
              rfl
          · rw [if_neg fun both => nonnegative both.1, if_neg nonnegative]

end Phrasebook.Code
