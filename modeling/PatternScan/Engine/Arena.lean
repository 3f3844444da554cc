import PatternScan.Engine.RegexArena
import PatternScan.Pattern.Search

namespace PatternScan

/-- A matcher for the part of the syntax that `Pattern.Expr.ofSource` reads. -/
instance : Regex Pattern.Program where
  compile source := (Pattern.Program.ofSource source).mapError Pattern.Fault.message
  capturesAt := Pattern.Program.search?

abbrev Arena := RegexArena Pattern.Program

end PatternScan
