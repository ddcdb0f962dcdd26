/-! What a lexer or parser says when the text is wrong, and what it says when the text is only
doubtful. Positions are as the reporter gives them: lines and columns count from one, and any of
them may be missing. -/
namespace SourceUnit

/-- The classes of syntax fault. -/
inductive FaultClass where
  | general
  | indentation
  | tabs
deriving DecidableEq, Repr

/-- The name under which a class of fault is reported. -/
def FaultClass.name : FaultClass → String
  | .general => "SyntaxError"
  | .indentation => "IndentationError"
  | .tabs => "TabError"

/-- A syntax fault with the range it blames. -/
structure SyntaxFault where
  cls : FaultClass := .general
  message : String
  line : Option Int := none
  offset : Option Int := none
  endLine : Option Int := none
  endOffset : Option Int := none
deriving DecidableEq, Repr

/-- A doubt about the text, with the category it is filed under. -/
structure Warning where
  message : String
  category : String
  line : Option Int
deriving DecidableEq, Repr

end SourceUnit
