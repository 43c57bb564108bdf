import MetadataAudit.CommandLine.Arguments

/-! # Usage

What the program says of itself when it is asked.
-/
namespace MetadataAudit
namespace Usage

/-- The name and the version of the program. -/
def version : List String := ["dlp-cli 0.1.0"]

/-- The commands and the options. -/
def help : List String := [
  "Validate CSV metadata against a named profile of checks.",
  "",
  "Profiles are kept in a JSON store; each names the checks to run.",
  "Problems are reported as a table or as report JSON.",
  "",
  "Usage: dlp-cli [OPTIONS] <COMMAND>",
  "",
  "Commands:",
  "  validate <CSV>          Validate a CSV file against a profile",
  "  profiles list           List stored profiles",
  "  profiles show <NAME>    Show one profile's validations",
  "  profiles add <NAME>     Create a profile, or add validations to an existing one",
  "  profiles remove <NAME>  Delete a profile",
  "  checks                  List every registered check",
  "  help                    Print this message",
  "",
  "Options:",
  "      --profiles-file <PATH>     Profile store file; created on first save",
  "      --rules-file <PATH>        Rule book JSON replacing the built-in one",
  "  -v, --verbose...               Increase logging verbosity",
  "  -q, --quiet...                 Decrease logging verbosity",
  "      --color <WHEN>             Controls when to use color",
  "      --log-level <LOG_LEVEL>    Explicit log level (overrides -v/-q flags)",
  "      --log-format <LOG_FORMAT>  Log output format",
  "      --log-file <PATH>          Write logs to a file instead of stderr",
  "      --log-data                 Include cell values in trace-level logs",
  "  -h, --help                     Print help",
  "  -V, --version                  Print version",
  "",
  "Options of validate:",
  "  -p, --profile <PROFILE>        Profile naming the checks to run",
  "      --format <FORMAT>          Output format for the report",
  "      --host-dir <DIR>           Directory that File Name values are resolved against",
  "      --url-timeout-secs <SECS>  Seconds to wait for a license URL before giving up",
  "      --offline                  Skip checks that need network access",
  "",
  "Options of profiles add:",
  "      --validation <NAME>        Check name to include; repeat for several"]

/-- The answer to an option that asks for a text. -/
def answerTo (topic : String) : List String :=
  if topic = "version" then version else help

end Usage
end MetadataAudit
