import AsmLint.CommandLine.Invocation

/-!
# Help

The text that shows how the program is called, alone before an error and with an explanation of each
argument on demand.
-/

namespace AsmLint.Help

def usage : List Text := [
  "usage: checker.py [-h] [--max-tokens MAX_TOKENS]",
  "                  [--max-line-length MAX_LINE_LENGTH] [--reference-limits]",
  "                  [--reject-unsupported] [--strict] [--explain]",
  "                  [source]"]

def arguments : List Text := [
  "",
  "Check assembly statements line by line.",
  "",
  "positional arguments:",
  "  source                Statement file, '-' for stdin (default: a.txt)",
  "",
  "options:",
  "  -h, --help            show this help message and exit",
  "  --max-tokens MAX_TOKENS",
  "                        Tokens checked per line; the rest is dropped (default:",
  "                        10)",
  "  --max-line-length MAX_LINE_LENGTH",
  "                        Keep only the first N characters of each line",
  "                        (default: unbounded)",
  "  --reference-limits    Same as --max-line-length 255 --max-tokens 10",
  "  --reject-unsupported  Report blank lines and lines of 5+ tokens as errors",
  "                        instead of valid",
  "  --strict              Exit with status 1 if any statement is invalid",
  "  --explain             Print which vocabulary each offending token belongs to",
  "                        (stderr)"]

def text : Text := unlines (usage ++ arguments)

/-- What is written when the arguments are rejected. -/
def rejection (e : UsageError) : Text := unlines (usage ++ ["checker.py: error: " ++ e.message])

end AsmLint.Help
