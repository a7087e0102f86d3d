/-
# Compiling many definitions

A pass compiles every definition, in order.  Mistakes are collected, and at the end the pass
fails with all of them; any other failure ends it at once.  A name that was already compiled
ends it too, before the second definition of that name is looked at.
-/
import Blueprint.Plan.Compile

namespace Blueprint

/-- Named plans, in the order of their definitions. -/
abbrev CompiledEntries := List (Value × Plan)

/-- Named plans in a row, put together by their names: a repeated name keeps its first place and
takes its last plan.  Every name has to be able to be a key. -/
def CompiledEntries.ofList (entries : List (Value × Plan)) : Except Failure CompiledEntries :=
  match entries.findSome? fun entry => entry.1.unhashable? with
  | some typeName => .error (.unhashable typeName)
  | none => .ok (Entries.ofList entries)

namespace Pass

/-- Goes on with a pass, given the plans and the mistakes so far. -/
def go (types : Introspector) (compiled : CompiledEntries) (mistakes : List EntryMistake) :
    List Definition → Run CompiledEntries
  | [] =>
    if mistakes.isEmpty then do
      Run.note (.compiled compiled.length)
      return compiled
    else Run.fail (.mistakes mistakes)
  | d :: rest =>
    match d.name.unhashable? with
    | some typeName => Run.fail (.unhashable typeName)
    | none =>
      if Entries.contains d.name compiled then Run.fail (.duplicateEntry d.name)
      else do
        match ← Run.attempt (compile types d) with
        | .ok plan => go types (compiled ++ [(d.name, plan)]) mistakes rest
        | .error (.mistake m) =>
          Run.note (.rejected d.name m.cause)
          go types compiled (mistakes ++ [m]) rest
        | .error failure => Run.fail failure

end Pass

/-- Compiles all definitions, or fails. -/
def compileAll (types : Introspector) (definitions : List Definition) : Run CompiledEntries :=
  Pass.go types [] [] definitions

end Blueprint
