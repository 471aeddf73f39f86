import PageSelectors.Grammar
import PageSelectors.Catalog.StepKind

/-!
Everything that can go wrong while a selector is built, compiled or looked up, and the wording of
each fault. A fault may carry the name of the catalog entry it was found in; the innermost name
wins, so a fault is wrapped at most once.
-/

namespace PageSelectors

/-- Why a selector is not valid, where no more special fault applies. -/
inductive Violation where
  | emptyName (what : String)
  | noClasses
  | indexOutOfRange (index : Nat)
  | noSteps
  | pageNotFirst
  | limitedByFirst
  | cssStart
  | limitedByFields
  | parentFields
  | misplacedBoundary (kind : Catalog.StepKind)
  | missingBoundary
  | other (message : String)
  deriving DecidableEq, Repr

def Violation.message : Violation → String
  | .emptyName what => what ++ " should not be empty"
  | .noClasses => "At least one CSS class is required"
  | .indexOutOfRange index => "index " ++ toString index ++ " is out of range"
  | .noSteps => "a selector needs `raw` text or at least one step"
  | .pageNotFirst => "`page` is only valid as the first step"
  | .limitedByFirst => "`limited_by` needs a previous step to constrain"
  | .cssStart => "a CSS selector must start with a `page` or `descendant` step"
  | .limitedByFields => "a `limited_by` step takes only a `boundary`, not `tag` or `where`"
  | .parentFields => "a `parent` step always targets `*` and takes no `tag` or `where`"
  | .misplacedBoundary kind =>
      "`boundary` is only valid on a `limited_by` step, not `" ++ kind.title ++ "`"
  | .missingBoundary => "a limited_by step needs a boundary entry name"
  | .other message => message

inductive ReferenceFault where
  | unknown (name : String)
  /-- The boundaries along this walk lead back to an entry on it. -/
  | cycle (walk : List String)
  /-- The catalog was asked for a name it does not hold. -/
  | absent
  | other (message : String)
  deriving DecidableEq, Repr

def ReferenceFault.message : ReferenceFault → String
  | .unknown name => "unknown selector '" ++ name ++ "'"
  | .cycle walk => "boundary reference cycle: " ++ String.intercalate " -> " walk
  | .absent => "no such selector in catalog"
  | .other message => message

inductive FileFault where
  | missing
  | notText
  | other (message : String)
  deriving DecidableEq, Repr

def FileFault.message : FileFault → String
  | .missing => "No such file or directory (os error 2)"
  | .notText => "stream did not contain valid UTF-8"
  | .other message => message

inductive Format where
  | yaml
  | json
  deriving DecidableEq, Repr

def Format.title : Format → String
  | .yaml => "YAML"
  | .json => "JSON"

inductive Fault where
  | unconstrained (tag : String)
  | emptyTag (grammar : Grammar)
  | whitespace (what value : String)
  | relativeBoundary (expression : String)
  | grammarMismatch (what : String) (grammar : Grammar)
  | invalid (violation : Violation)
  | catalog (entry : String) (reference : ReferenceFault)
  | inEntry (entry : String) (source : Fault)
  | locate (query message : String)
  | unreadable (file : FileFault)
  | malformed (format : Format)
  deriving DecidableEq, Repr

namespace Fault

/-- The wording of a fault, where `refusal` is what the reader of a format says of a text that it
refuses. -/
def wording (refusal : Format → String) : Fault → String
  | unconstrained tag =>
      "No properties were provided for tag '" ++ tag ++
        "'. This would match every element on the page"
  | emptyTag grammar => "Tag text should not be empty for " ++ grammar.title ++ " selectors"
  | whitespace what value =>
      what ++ " '" ++ value ++ "' contains whitespace. This can yield unexpected results"
  | relativeBoundary expression =>
      "Boundary expressions must be page-rooted, but '" ++ expression ++ "' is relative"
  | grammarMismatch what grammar => what ++ " cannot be rendered as " ++ grammar.title
  | invalid violation => "Invalid selector: " ++ violation.message
  | catalog entry reference => "Catalog entry '" ++ entry ++ "': " ++ reference.message
  | inEntry entry source => "Catalog entry '" ++ entry ++ "': " ++ source.wording refusal
  | locate query message => "Element lookup failed for '" ++ query ++ "': " ++ message
  | unreadable file => "I/O error: " ++ file.message
  | malformed format => format.title ++ " error: " ++ refusal format

@[simp]
theorem wording_inEntry (refusal : Format → String) (entry : String) (source : Fault) :
    (inEntry entry source).wording refusal =
      "Catalog entry '" ++ entry ++ "': " ++ source.wording refusal :=
  rfl

def message : Fault → String :=
  wording fun _ => "not well-formed"

/-- Name the entry a fault was found in. A fault that already names an entry is kept as it is. -/
def within (entry : String) : Fault → Fault
  | catalog inner reference => catalog inner reference
  | inEntry inner source => inEntry inner source
  | fault => inEntry entry fault

def rootCause : Fault → Fault
  | inEntry _ source => source.rootCause
  | fault => fault

def source? : Fault → Option Fault
  | inEntry _ source => some source
  | _ => none

/-- Whether the selector itself is at fault. -/
def isValidation (fault : Fault) : Bool :=
  match fault.rootCause with
  | unconstrained _ | emptyTag _ | whitespace _ _ | relativeBoundary _ | invalid _ => true
  | _ => false

end Fault

end PageSelectors
