import OatImage.CommandLine.Request

/-!
# Help

What is shown to a user who asks for help, for the tool and for each of its commands.
-/
namespace OatImage.CommandLine.Help

def version : String := "1.0.0"

def versionLine : String := "oatwalk, version " ++ version

def tool : List String :=
  ["Usage: cli [OPTIONS] COMMAND [ARGS]...",
   "",
   "  ArtScope Oatwalk -- Android Runtime OAT image navigator.",
   "",
   "  Walk the dex files embedded in an OAT image and resolve methods to their",
   "  ahead-of-time compiled code.",
   "",
   "Options:",
   "  --config FILE                   Path to ArtScope configuration file (TOML).",
   "  -v, --verbose                   Enable debug logging.",
   "  --json                          Print results as JSON to stdout.",
   "  --base-address TEXT             Absolute address of the image start",
   "                                  (default: 0, or oatdata for ELF).",
   "  --isa [auto|thumb|none|arm|arm64|thumb2|x86|x86_64|mips|mips64]",
   "                                  Instruction set override for code-pointer",
   "                                  decoding.",
   "  --version                       Show the version and exit.",
   "  --help                          Show this message and exit.",
   "",
   "Commands:",
   "  dex     List the dex-file records of an OAT image.",
   "  info    Show the header, key-value store and dex files of an OAT image.",
   "  method  Resolve a method to its compiled code."]

def plain (name purpose : String) : List String :=
  ["Usage: cli " ++ name ++ " [OPTIONS] PATH",
   "",
   "  " ++ purpose,
   "",
   "Options:",
   "  --help  Show this message and exit."]

def command : Command → List String
  | .info => plain "info" "Show the header, key-value store and dex files of an OAT image."
  | .dex => plain "dex" "List the dex-file records of an OAT image."
  | .method =>
    ["Usage: cli method [OPTIONS] PATH",
     "",
     "  Resolve a method to its compiled code.",
     "",
     "Options:",
     "  -c, --class TEXT      Class descriptor, e.g. Ljava/lang/String;  [required]",
     "  -m, --method TEXT     Method name.  [required]",
     "  -s, --signature TEXT  Method signature, e.g. (I)V  [required]",
     "  --dex TEXT            Only search the dex file with this exact location.",
     "  --help                Show this message and exit."]

end OatImage.CommandLine.Help
