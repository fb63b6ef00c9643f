/-
SchemaDoc.Command.Line — the command lines of this program.

Options for every command stand before the command's name, options of a
command behind it. A command line is read into what it asks for, or into the
reason why there is nothing to do.

§1 options, §2 grammars, §3 invocations.
-/
import SchemaDoc.Command.Grammar
import SchemaDoc.Context

namespace SchemaDoc.Command

/-! ## §1 Options -/

/-- The name of the program. -/
def program : String := "apidoc-schema"

/-- The name and version of the program. -/
def versionText : String := program ++ " 0.1.0"

/-- The option that asks for help. -/
def helpSwitch : Switch := ⟨["-h", "--help"], .help, none⟩

/-- An option that takes any text. -/
def textSwitch (name : String) : Switch := ⟨[name], .value [], none⟩

/-- The option that asks for a check of schemas. -/
def strictSwitch : Switch := ⟨["--strict"], .set, none⟩

/-- Two options of which one may be given. -/
def rivals (a b : String) : List Switch := [⟨[a], .set, some b⟩, ⟨[b], .set, some a⟩]

/-! ## §2 Grammars -/

/-- The names of the commands. -/
def commandNames : List String := ["version", "describe", "expand"]

/-- The command line as a whole. -/
def mainGrammar : Grammar where
  program := program
  usage := "usage: apidoc-schema [-h] [--version] [--run-id RUN_ID] [--base-dir BASE_DIR]\n"
    ++ "                     [--log-format \x7btext,json\x7d] [--verbose | --quiet]\n"
    ++ "                     \x7bversion,describe,expand\x7d ...\n"
  help := "positional arguments:\n"
    ++ "  \x7bversion,describe,expand\x7d\n"
    ++ "    version             print the tool version\n"
    ++ "    describe            print one apiDoc parameter line per schema field\n"
    ++ "    expand              expand `\x7bschema\x7d` apiDoc tags in source files\n"
    ++ "\n"
    ++ "options:\n"
    ++ "  -h, --help            show this help message and exit\n"
    ++ "  --version             show program's version number and exit\n"
    ++ "  --run-id RUN_ID       run identifier attached to log events\n"
    ++ "  --base-dir BASE_DIR   directory schema paths and references resolve against\n"
    ++ "  --log-format \x7btext,json\x7d\n"
    ++ "                        log event format on stderr\n"
    ++ "  --verbose             enable debug log events\n"
    ++ "  --quiet               only emit errors\n"
  switches := [helpSwitch, ⟨["--version"], .version, none⟩, textSwitch "--run-id",
    textSwitch "--base-dir", ⟨["--log-format"], .value ["text", "json"], none⟩]
    ++ rivals "--verbose" "--quiet"
  operand := some ⟨"cmd", .command commandNames⟩

/-- The command that tells the version. -/
def versionGrammar : Grammar where
  program := program ++ " version"
  usage := "usage: apidoc-schema version [-h]\n"
  help := "options:\n"
    ++ "  -h, --help  show this help message and exit\n"
  switches := [helpSwitch]
  operand := none

/-- The command that describes the fields of a schema. -/
def describeGrammar : Grammar where
  program := program ++ " describe"
  usage := "usage: apidoc-schema describe [-h] [--group GROUP] [--strict] schema\n"
  help := "positional arguments:\n"
    ++ "  schema         schema file (.json, .yaml, .yml), relative to the base\n"
    ++ "                 directory\n"
    ++ "\n"
    ++ "options:\n"
    ++ "  -h, --help     show this help message and exit\n"
    ++ "  --group GROUP  apiDoc group prepended as `(group)` to every line\n"
    ++ "  --strict       check the resolved schema against its meta-schema\n"
  switches := [helpSwitch, textSwitch "--group", strictSwitch]
  operand := some ⟨"schema", .one⟩

/-- The command that expands the tags of source files. -/
def expandGrammar : Grammar where
  program := program ++ " expand"
  usage := "usage: apidoc-schema expand [-h] [--in-place | --check] [--strict]\n"
    ++ "                            files [files ...]\n"
  help := "positional arguments:\n"
    ++ "  files       source files holding apiDoc comment blocks\n"
    ++ "\n"
    ++ "options:\n"
    ++ "  -h, --help  show this help message and exit\n"
    ++ "  --in-place  rewrite files instead of printing them\n"
    ++ "  --check     fail when any file still holds `\x7bschema\x7d` tags\n"
    ++ "  --strict    check resolved schemas against their meta-schema\n"
  switches := [helpSwitch] ++ rivals "--in-place" "--check" ++ [strictSwitch]
  operand := some ⟨"files", .many⟩

/-! ## §3 Invocations -/

/-- What is done with an expanded source file. -/
inductive Mode where
  | print
  | inPlace
  | check
  deriving DecidableEq

/-- A command. -/
inductive Action where
  | version
  | describe (schema : String) (group : Option String)
  | expand (files : List String) (mode : Mode)

/-- The name of a command. -/
def Action.name : Action → String
  | .version => "version"
  | .describe .. => "describe"
  | .expand .. => "expand"

/-- What a command line asks for. -/
structure Invocation where
  settings : Settings
  action : Action

/-- The command of a name with the words behind it, whether it is strict, and the words left
over. -/
def readAction (name : String) (words : List String) : Except Stop (Action × Bool × List String) :=
  if name = "describe" then do
    let g ← describeGrammar.read words
    return (.describe ((g.operand.getD []).headD "") (g.value? "--group"), g.has "--strict",
      g.leftOver)
  else if name = "expand" then do
    let g ← expandGrammar.read words
    let mode := if g.has "--in-place" then Mode.inPlace
      else if g.has "--check" then .check else .print
    return (.expand (g.operand.getD []) mode, g.has "--strict", g.leftOver)
  else do
    let g ← versionGrammar.read words
    return (.version, false, g.leftOver)

/-- What a command line asks for. Words that belong to nothing are refused last. -/
def Invocation.read (words : List String) : Except Stop Invocation := do
  let g ← mainGrammar.read words
  match g.operand with
  | some (name :: rest) =>
    let (action, strict, left) ← readAction name rest
    if !(g.leftOver ++ left).isEmpty then
      throw (.misuse mainGrammar (.leftOver (g.leftOver ++ left)))
    return {
      settings := {
        runId := g.value? "--run-id"
        baseDirectory := g.value? "--base-dir"
        logFormat := g.value? "--log-format"
        verbose := g.has "--verbose"
        quiet := g.has "--quiet"
        strict := strict }
      action := action }
  | _ => throw (.misuse mainGrammar (.missing "cmd"))

end SchemaDoc.Command
