/-
# About the compiler

What the compiler promises about its output, in a few lines of text.
-/

namespace Blueprint

/-- The version. -/
def version : String := "0.1.0"

/-- What the compiler promises. -/
def about : String :=
  "objcompiler " ++ version ++ "\n" ++
    "Instruction order: Construct -> AssignField (declaration order) -> InvokeMethod " ++
    "(declaration order).\n" ++
    "Lazy entries: one InstallLazyPlaceholder wrapping the eager sequence; initialized once on " ++
    "first use.\n" ++
    "Errors: InvalidDefinition is reported per entry; any other CompilationError aborts the pass."

end Blueprint
