import SourceUnit.ParsedUnit

/-! What comments say about the lines where a rule does not count. -/
namespace SourceUnit

/-- Lines from a first one up to, but not including, a last one. -/
structure LineRange where
  start : Int
  stop : Int
deriving DecidableEq, Repr

/-- The ranges in which each rule is switched off. -/
structure CommentConfig where
  disabled : List (String × List LineRange) := []
deriving DecidableEq, Repr

namespace CommentConfig

/-- Sets the ranges of a rule; a rule that is there keeps its place. -/
def put (c : CommentConfig) (rule : String) (ranges : List LineRange) : CommentConfig :=
  if c.disabled.any (·.1 == rule) then
    ⟨c.disabled.map fun e => if e.1 == rule then (rule, ranges) else e⟩
  else ⟨c.disabled ++ [(rule, ranges)]⟩

def ofEntries (entries : List (String × List LineRange)) : CommentConfig :=
  entries.foldl (fun c e => c.put e.1 e.2) {}

end CommentConfig

/-- The comment configuration of a unit, from whoever can make one. -/
def ParsedUnit.commentConfig (u : ParsedUnit) (make : Option (ParsedUnit → CommentConfig)) :
    Except Error CommentConfig :=
  match make with
  | some f => .ok (f u)
  | none => .error (.noCommentConfig u.filePath)

end SourceUnit
