import FlowGate.CommandLine.Options
import FlowGate.Version

/-!
# Usage

The texts that explain the command line: the usage, which also stands in front of every refusal, and
the help.
-/

namespace FlowGate.CommandLine

def programName : String := "dddflow-validate"

def versionLine : String := programName ++ " " ++ programVersion

def usageLines : List String :=
  ["usage: dddflow-validate [-h] [--json] [--strict] [--domain ID] [--verbose]",
    "                        [--version]",
    "                        [project_dir]"]

def helpLines : List String :=
  usageLines ++
  ["",
    "dddflow project validator - check flows, domains and event wiring",
    "",
    "positional arguments:",
    "  project_dir  Project root containing the project manifest (default: current",
    "               directory)",
    "",
    "options:",
    "  -h, --help   show this help message and exit",
    "  --json       Output machine-readable JSON with per-flow/domain/system",
    "               results",
    "  --strict     Treat warnings as errors (also enabled by DDDFLOW_STRICT)",
    "  --domain ID  Only validate flows and the domain document of this domain",
    "  --verbose    Enable debug logging and list passing targets",
    "  --version    show program's version number and exit",
    "",
    "Exit Codes:",
    "  0 - All validation checks passed",
    "  1 - Validation failed (errors, or warnings under --strict)",
    "  2 - Fatal error (missing manifest, parse errors)",
    "",
    "Examples:",
    "  dddflow-validate",
    "  dddflow-validate path/to/project --json",
    "  dddflow-validate --domain billing --strict",
    "        "]

def UsageFault.lines (fault : UsageFault) : List String :=
  usageLines ++ [programName ++ ": error: " ++ fault.message]

end FlowGate.CommandLine
