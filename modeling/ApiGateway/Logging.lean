import ApiGateway.Config.Environment

/-! # Log filters

A filter is a list of directives: a level for everything, or a level for the targets that begin with
a text. Of the directives for a target the one with the longest text counts.
-/

namespace ApiGateway

structure LogDirective where
  target : Text
  /-- From 0, which shows nothing, to 5, which shows everything. -/
  level : Nat
  deriving DecidableEq, Repr

namespace LogFilter

def levelNames : List Text := ["off", "error", "warn", "info", "debug", "trace"].map String.toList

def errorLevel : Nat := 1

def infoLevel : Nat := 3

def traceLevel : Nat := 5

/-- A level by its name or its number; an empty text is the level of errors. -/
def level? (s : Text) : Option Nat :=
  if s = [] then some errorLevel
  else match Text.numeral? 10 s with
  | some n => if n ≤ traceLevel then some n else none
  | none => levelNames.findIdx? (·.equalIgnoringCase s)

/-- A directive is a level, a target, or a target with a level. -/
def directive? (s : Text) : Option LogDirective :=
  match Text.cutFirst '=' s with
  | some (target, level) => (level? level).map fun level => ⟨target, level⟩
  | none =>
    match level? s with
    | some level => some ⟨[], level⟩
    | none => some ⟨s, traceLevel⟩

def pieces (s : Text) : List Text := (s.split ',').filter (· ≠ [])

/-- Reads a filter in which every directive must be one. -/
def strict? (s : Text) : Option (List LogDirective) := (pieces s).mapM directive?

/-- Reads a filter without what is no directive. -/
def lenient (s : Text) : List LogDirective := (pieces s).filterMap directive?

/-- The level at which a target is shown; without a directive only errors are. -/
def levelOf (directives : List LogDirective) (target : Text) : Nat :=
  let matching := directives.filter fun d => d.target.isPrefixOf target
  match matching with
  | [] => if directives = [] then errorLevel else 0
  | first :: rest =>
    let longer (best d : LogDirective) := if best.target.length ≤ d.target.length then d else best
    (rest.foldl longer first).level

/-- The variable that sets the filter in place of the configuration. -/
def variableName : Text := "RUST_LOG"

/-- The filter of a process: from the environment, or from the configured level. -/
def ofProcess (env : Environment) (level : Text) : List LogDirective :=
  match (env variableName).bind strict? with
  | some directives => directives
  | none => lenient (Observability.filter level)

def gatewayTarget : Text := "edge_gateway"

def showsInfo (env : Environment) (level : Text) : Bool :=
  infoLevel ≤ levelOf (ofProcess env level) gatewayTarget

end LogFilter

end ApiGateway
