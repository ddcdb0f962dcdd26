/-! The kinds of syntax node and the names they are shown under. -/
namespace SourceUnit.Grammar

/-- The kinds of node a parse can build. -/
inductive Kind where
  | module
  | functionDef | asyncFunctionDef | classDef | returnStmt | deleteStmt | assign | augAssign
  | annAssign | forStmt | asyncFor | whileStmt | ifStmt | withStmt | asyncWith | matchStmt
  | raiseStmt | tryStmt | tryStar | assertStmt | importStmt | importFrom | globalStmt
  | nonlocalStmt | exprStmt | passStmt | breakStmt | continueStmt
  | boolOp | namedExpr | binOp | unaryOp | lambda | ifExp | dict | set | listComp | setComp
  | dictComp | generatorExp | await | yield | yieldFrom | compare | call | formattedValue
  | joinedStr | constant | attribute | subscript | starred | name | list | tuple | slice
  | load | store | del
  | and | or
  | add | sub | mult | matMult | div | mod | pow | lShift | rShift | bitOr | bitXor | bitAnd
  | floorDiv
  | invert | not | uAdd | uSub
  | eq | notEq | lt | ltE | gt | gtE | is | isNot | isIn | notIn
  | comprehension | exceptHandler | arguments | arg | keyword | alias | withItem | matchCase
  | matchValue | matchSingleton | matchSequence | matchMapping | matchClass | matchStar | matchAs
  | matchOr
deriving DecidableEq, Repr

/-- The name a kind is shown under. -/
def Kind.title : Kind → String
  | .module => "Module"
  | .functionDef => "FunctionDef" | .asyncFunctionDef => "AsyncFunctionDef"
  | .classDef => "ClassDef" | .returnStmt => "Return" | .deleteStmt => "Delete"
  | .assign => "Assign" | .augAssign => "AugAssign" | .annAssign => "AnnAssign"
  | .forStmt => "For" | .asyncFor => "AsyncFor" | .whileStmt => "While" | .ifStmt => "If"
  | .withStmt => "With" | .asyncWith => "AsyncWith" | .matchStmt => "Match"
  | .raiseStmt => "Raise" | .tryStmt => "Try" | .tryStar => "TryStar" | .assertStmt => "Assert"
  | .importStmt => "Import" | .importFrom => "ImportFrom" | .globalStmt => "Global"
  | .nonlocalStmt => "Nonlocal" | .exprStmt => "Expr" | .passStmt => "Pass"
  | .breakStmt => "Break" | .continueStmt => "Continue"
  | .boolOp => "BoolOp" | .namedExpr => "NamedExpr" | .binOp => "BinOp" | .unaryOp => "UnaryOp"
  | .lambda => "Lambda" | .ifExp => "IfExp" | .dict => "Dict" | .set => "Set"
  | .listComp => "ListComp" | .setComp => "SetComp" | .dictComp => "DictComp"
  | .generatorExp => "GeneratorExp" | .await => "Await" | .yield => "Yield"
  | .yieldFrom => "YieldFrom" | .compare => "Compare" | .call => "Call"
  | .formattedValue => "FormattedValue" | .joinedStr => "JoinedStr" | .constant => "Constant"
  | .attribute => "Attribute" | .subscript => "Subscript" | .starred => "Starred"
  | .name => "Name" | .list => "List" | .tuple => "Tuple" | .slice => "Slice"
  | .load => "Load" | .store => "Store" | .del => "Del"
  | .and => "And" | .or => "Or"
  | .add => "Add" | .sub => "Sub" | .mult => "Mult" | .matMult => "MatMult" | .div => "Div"
  | .mod => "Mod" | .pow => "Pow" | .lShift => "LShift" | .rShift => "RShift"
  | .bitOr => "BitOr" | .bitXor => "BitXor" | .bitAnd => "BitAnd" | .floorDiv => "FloorDiv"
  | .invert => "Invert" | .not => "Not" | .uAdd => "UAdd" | .uSub => "USub"
  | .eq => "Eq" | .notEq => "NotEq" | .lt => "Lt" | .ltE => "LtE" | .gt => "Gt" | .gtE => "GtE"
  | .is => "Is" | .isNot => "IsNot" | .isIn => "In" | .notIn => "NotIn"
  | .comprehension => "comprehension" | .exceptHandler => "ExceptHandler"
  | .arguments => "arguments" | .arg => "arg" | .keyword => "keyword" | .alias => "alias"
  | .withItem => "withitem" | .matchCase => "match_case"
  | .matchValue => "MatchValue" | .matchSingleton => "MatchSingleton"
  | .matchSequence => "MatchSequence" | .matchMapping => "MatchMapping"
  | .matchClass => "MatchClass" | .matchStar => "MatchStar" | .matchAs => "MatchAs"
  | .matchOr => "MatchOr"

end SourceUnit.Grammar
