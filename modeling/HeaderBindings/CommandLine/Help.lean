/-!
What the command line says about itself.
-/

namespace HeaderBindings

def programName : String := "h2ffi"

def versionText : String := programName ++ " 0.1.0\n"

def helpLines : List String :=
  ["usage: h2ffi [-h] [--version] [-m MODULE] [-l LIBRARY] [-p PREFIX] [-b NAME]",
    "             [-o FILE] [--format \x7bruby,yaml\x7d] [--config FILE]",
    "             [headers ...]",
    "",
    "positional arguments:",
    "  headers               Headers to bind.",
    "",
    "options:",
    "  -h, --help            show this help message and exit",
    "  --version             show program's version number and exit",
    "  -m MODULE, --module MODULE",
    "                        Name of the generated module.",
    "  -l LIBRARY, --library LIBRARY",
    "                        Library passed to `ffi_lib`.",
    "  -p PREFIX, --prefix PREFIX",
    "                        Prefix to strip from generated names (repeatable).",
    "  -b NAME, --blacklist NAME",
    "                        Declaration to leave out of the bindings (repeatable).",
    "  -o FILE, --output FILE",
    "                        Output file (default: stdout).",
    "  --format \x7bruby,yaml\x7d  Render Ruby FFI bindings (default) or dump the model",
    "                        as YAML.",
    "  --config FILE         YAML file holding the same settings."]

def helpText : String := String.join (helpLines.map (· ++ "\n"))

end HeaderBindings
