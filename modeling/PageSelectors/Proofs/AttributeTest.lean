import PageSelectors.Condition
import PageSelectors.Name

/-!
Shared criteria as tests of attributes, which is all that an element has to show for them.
-/

namespace PageSelectors

open Text (trim)

abbrev Attributes := String → Option String

structure AttributeTest where
  name : String
  op : AttributeOp
  operand : String

def SharedCriterion.tests : SharedCriterion → List AttributeTest
  | .attribute name op operand => [⟨trim name, op, operand⟩]
  | .classes names => names.map fun name => ⟨"class", .compare .wholeWord, trim name⟩

end PageSelectors
