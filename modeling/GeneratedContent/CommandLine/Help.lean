import GeneratedContent.Text.Basic

/-!
# Help

What is shown of the switches when help is asked for, and before an error in a command line, in lines of
at most 78 characters.
-/

namespace GeneratedContent.CommandLine

/-- What a command line looks like. -/
def usageLines : List Text := [
  "usage: pseudoshim [-h] [--css CSS] [--output OUTPUT] [--css-output CSS_OUTPUT]",
  "                  [--container-class NAME] [--tree-backend TREE_BACKEND]",
  "                  [--quiet] [--verbose]",
  "                  html"].map String.toList

/-- What the program does, and what its operand and its switches are for. -/
def helpLines : List Text := usageLines ++ [
  "",
  "Replace ::before/::after rules of a theme stylesheet with real elements",
  "injected into an HTML fragment.",
  "",
  "positional arguments:",
  "  html                  HTML fragment to convert; \"-\" reads standard input.",
  "",
  "options:",
  "  -h, --help            show this help message and exit",
  "  --css CSS             Theme stylesheet whose pseudo-element rules are",
  "                        emulated.",
  "  --output OUTPUT, -o OUTPUT",
  "                        Write the converted HTML here instead of standard",
  "                        output.",
  "  --css-output CSS_OUTPUT",
  "                        Write the stylesheet without pseudo-element rules",
  "                        here.",
  "  --container-class NAME",
  "                        Class of the preview container stripped from",
  "                        selectors; may be repeated (default: \"preview-",
  "                        content\").",
  "  --tree-backend TREE_BACKEND",
  "                        Document tree implementation (default: \"soup\").",
  "  --quiet               Suppress progress output (errors only).",
  "  --verbose             Report how many rules were found and removed."].map String.toList

end GeneratedContent.CommandLine
