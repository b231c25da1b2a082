import Subgraph.Path

/-!
# Command — the command line

`Invocation.parse` reads the arguments of the program.  A command has options and operands, in any
order; an option may be given once, as `--name value`, `--name=value`, or by a letter, and behind a
lone `--` there are only operands.  The general options may stand before the command too.

A reading that does not come to a command has a `Halt`: the arguments are wrong, or ask for the
version or for help.
-/

namespace Subgraph

/-- What an option sets. -/
inductive Setting where
  | verbose
  | jsonLogs
  | config
  | outputDir
  | sourceDir
  | skipValidation
  | skipNetworks
  | json
  deriving DecidableEq, Repr

namespace Setting

/-- The name of an option. -/
def name : Setting → String
  | .verbose => "verbose"
  | .jsonLogs => "json-logs"
  | .config => "config"
  | .outputDir => "output-dir"
  | .sourceDir => "source-dir"
  | .skipValidation => "skip-validation"
  | .skipNetworks => "skip-network-validation"
  | .json => "json"

/-- The letter of an option. -/
def letter? : Setting → Option Char
  | .verbose => some 'v'
  | .outputDir => some 'o'
  | _ => none

/-- The value of the option is a path; the other options have no value. -/
def hasPath : Setting → Bool
  | .config | .outputDir | .sourceDir => true
  | _ => false

/-- The options of every command. -/
def general : List Setting := [.verbose, .jsonLogs, .config]

end Setting

/-- The commands by name. -/
inductive Verb where
  | codegen
  | validate
  | resolve
  | protocols
  deriving DecidableEq, Repr

namespace Verb

def name : Verb → String
  | .codegen => "codegen"
  | .validate => "validate"
  | .resolve => "resolve"
  | .protocols => "protocols"

def ofName? (text : String) : Option Verb :=
  [codegen, validate, resolve, protocols].find? fun verb => verb.name == text

/-- The options of a command, besides the general ones. -/
def settings : Verb → List Setting
  | .codegen => [.outputDir, .sourceDir, .skipValidation, .skipNetworks]
  | .validate => [.skipNetworks, .json]
  | .resolve => [.json]
  | .protocols => []

/-- The greatest number of operands. -/
def maxOperands : Verb → Nat
  | .protocols => 0
  | _ => 1

end Verb

/-- Why no command is carried out. -/
inductive Halt where
  /-- The arguments are wrong. -/
  | usage
  | version
  | help
  deriving DecidableEq, Repr

/-- The arguments as far as they have been read. -/
structure Arguments where
  /-- The options, with their values. -/
  given : List (Setting × String) := []
  /-- An option whose value comes next. -/
  pending? : Option Setting := none
  operands : List String := []
  /-- What follows are operands. -/
  escaped : Bool := false
  deriving DecidableEq, Repr

namespace Arguments

/-- With one more option. -/
def give (a : Arguments) (s : Setting) (value : String) : Except Halt Arguments :=
  if a.given.any (·.1 == s) then .error .usage
  else if s.hasPath && value.isEmpty then .error .usage
  else .ok { a with given := a.given ++ [(s, value)], pending? := none }

/-- With an option by its name. -/
def giveNamed (known : List Setting) (isFirst : Bool) (a : Arguments) (text : List Char) :
    Except Halt Arguments :=
  let name := String.ofList (text.takeWhile (· != '='))
  match known.find? (·.name == name), text.dropWhile (· != '=') with
  | some s, [] => if s.hasPath then .ok { a with pending? := some s } else a.give s ""
  | some s, _ :: value => if s.hasPath then a.give s (String.ofList value) else .error .usage
  | none, [] =>
    if name = "help" then .error .help
    else if name = "version" ∧ isFirst then .error .version
    else .error .usage
  | none, _ => .error .usage

/-- With options by their letters. -/
def giveLetters (known : List Setting) (isFirst : Bool) (a : Arguments) :
    List Char → Except Halt Arguments
  | [] => .ok a
  | c :: rest =>
    match known.find? (·.letter? == some c) with
    | some s =>
      if ¬ s.hasPath then do giveLetters known isFirst (← a.give s "") rest
      else match rest with
        | [] => .ok { a with pending? := some s }
        | '=' :: value => a.give s (String.ofList value)
        | value => a.give s (String.ofList value)
    | none =>
      if c = 'h' then .error .help
      else if c = 'V' ∧ isFirst then .error .version
      else .error .usage

/-- With one more argument. -/
def add (known : List Setting) (isFirst : Bool) (a : Arguments) (argument : String) :
    Except Halt Arguments :=
  let operand : Except Halt Arguments := .ok { a with operands := a.operands ++ [argument] }
  if a.escaped then operand
  else match argument.toList, a.pending? with
    | '-' :: _ :: _, some _ => .error .usage
    | ['-', '-'], none => .ok { a with escaped := true }
    | '-' :: '-' :: text, none => a.giveNamed known isFirst text
    | '-' :: c :: letters, none => a.giveLetters known isFirst (c :: letters)
    | _, some s => a.give s argument
    | _, none => operand

/-- No option lacks its value. -/
def complete (a : Arguments) : Except Halt Arguments :=
  if a.pending?.isSome then .error .usage else .ok a

/-- With one more argument of a command. -/
def addFor (verb : Verb) (a : Arguments) (argument : String) : Except Halt Arguments := do
  let next ← a.add (Setting.general ++ verb.settings) false argument
  if next.operands.length ≤ verb.maxOperands then return next else throw .usage

/-- The arguments of a command. -/
def ofVerb (verb : Verb) (arguments : List String) : Except Halt Arguments := do
  (← arguments.foldlM (addFor verb) {}).complete

/-- What a request for help comes to, by what follows it: nothing, or one command, which may be the
request for help itself. -/
def haltOfHelp : List String → Halt
  | [] => .help
  | [name] => if name = "help" ∨ (Verb.ofName? name).isSome then .help else .usage
  | _ => .usage

/-- The arguments before the command, the command, and those behind it. -/
def split (a : Arguments) : List String → Except Halt (Arguments × Verb × List String)
  | [] => .error .usage
  | argument :: rest => do
    let next ← a.add Setting.general true argument
    match next.operands with
    | [] => split next rest
    | _ =>
      if next.escaped then throw .usage
      else match Verb.ofName? argument with
        | some verb => return (a, verb, rest)
        | none => throw (if argument = "help" then haltOfHelp rest else .usage)

def has (a : Arguments) (s : Setting) : Bool := a.given.any (·.1 == s)

def path? (a : Arguments) (s : Setting) : Option Path := (a.given.lookup s).map Path.mk

end Arguments

/-- A command with its options. -/
inductive Command where
  /-- Make all files for a manifest. -/
  | codegen (manifest : Path) (outputDir? sourceDir? : Option Path)
      (skipValidation skipNetworks : Bool)
  /-- Check a manifest. -/
  | validate (manifest : Path) (skipNetworks json : Bool)
  /-- Show the family of a kind. -/
  | resolve (kind : String) (json : Bool)
  /-- List the families. -/
  | protocols
  deriving DecidableEq, Repr

/-- A command with the general options. -/
structure Invocation where
  verbose : Bool
  jsonLogs : Bool
  config? : Option Path
  command : Command
  deriving DecidableEq, Repr

namespace Invocation

/-- The manifest that is meant if none is named. -/
def defaultManifest : String := "subgraph.yaml"

/-- The operand that is a manifest. -/
def manifestOf (a : Arguments) : Except Halt Path :=
  let text := a.operands.head?.getD defaultManifest
  if text = "" then .error .usage else .ok ⟨text⟩

/-- The command with its arguments. -/
def commandOf (verb : Verb) (a : Arguments) : Except Halt Command := do
  match verb with
  | .codegen =>
    return .codegen (← manifestOf a) (a.path? .outputDir) (a.path? .sourceDir)
      (a.has .skipValidation) (a.has .skipNetworks)
  | .validate => return .validate (← manifestOf a) (a.has .skipNetworks) (a.has .json)
  | .resolve =>
    match a.operands with
    | kind :: _ => return .resolve kind (a.has .json)
    | [] => throw .usage
  | .protocols => return .protocols

/-- The invocation that the arguments of the program are. -/
def parse (arguments : List String) : Except Halt Invocation := do
  let (before, verb, rest) ← Arguments.split {} arguments
  let a ← Arguments.ofVerb verb rest
  return {
    verbose := before.has .verbose || a.has .verbose
    jsonLogs := before.has .jsonLogs || a.has .jsonLogs
    config? := (a.path? .config).or (before.path? .config)
    command := ← commandOf verb a }

end Invocation

end Subgraph
