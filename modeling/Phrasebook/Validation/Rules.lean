import Phrasebook.Plural.Rule
import Phrasebook.Validation.Locales

namespace Phrasebook.Validation

/-!
# Checks of the plural rules

The plural rule of each locale has to be readable and well typed, and has to stay within the plural
forms of the locale at every probed quantity. A locale contributes at most one problem.
-/

/-- The problem of a source text that is no plural rule. -/
def ruleErrorDiagnostic
    (locale : Locale)
    (error : Plural.RuleError) :
    Diagnostic where
  kind :=
    match error with
    | .unreadable _ => .parse
    | .illTyped _ => .semantic
  message := "in plural rule `" ++ locale.pluralSource ++ "`: " ++ error.message
  locale := some locale.tag
  offset := some error.offset

/-- The problem of a rule that leaves the plural forms of its locale. -/
def rangeDiagnostics
    (locale : Locale)
    (rule : Plural.Rule) :
    List Diagnostic :=
  if locale.pluralForms = 0 then
    []
  else
    match rule.firstOutOfRange? with
    | none => []
    | some (quantity, index) =>
        [localeDiagnostic .validation locale
          ("plural rule `" ++ rule.source ++ "` yields " ++ toString index.toInt ++
            " for n = " ++ toString quantity.toInt ++ ", outside [0, " ++
            toString locale.pluralForms ++ ")")]

/-- The plural rule of a locale. -/
def ruleOf
    (locale : Locale) :
    Except Plural.RuleError Plural.Rule :=
  Plural.Rule.compile locale.tag locale.pluralForms locale.pluralSource

/-- The problem of the plural rule of a locale. -/
def ruleDiagnostics
    (locale : Locale) :
    List Diagnostic :=
  match ruleOf locale with
  | .error error => [ruleErrorDiagnostic locale error]
  | .ok rule => rangeDiagnostics locale rule

/-- The plural rules of some locales, if all of them can be compiled. -/
def rules? :
    List Locale →
    Option (List Plural.Rule)
  | [] => some []
  | locale :: locales =>
      match ruleOf locale with
      | .error _ => none
      | .ok rule => (rules? locales).map (rule :: ·)

end Phrasebook.Validation
