/- The texts about the command line itself. -/
namespace SourceTally.CommandLine

def programName : String := "scnt"

def versionText : String := s!"{programName} 1.1.0\n"

def usageText : String := s!"usage: {programName} [options] [<file>|<directory>|<glob>...]\n"

def optionLines : List String :=
  ["  -h, --help            show this help message and exit",
    "  -v, --version         show program's version number and exit",
    "  -d, --debug           extra output info when processing",
    "  -e REGEX, --exclude REGEX",
    "                        exclude files matching the regular expression,",
    "                        repeatable",
    "  -a EXT=EXT, --alias EXT=EXT",
    "                        alias one extension for another, repeatable",
    "  -p ID [ID ...], --parsers ID [ID ...]",
    "                        parser ids to use, defaults to all",
    "  -u, --allow-unknowns  process unknown file types with the default parser",
    "  -D ID, --default ID   parser id used for unknown file types",
    "  --dry                 do not read any files, only report what would be",
    "                        counted",
    "  --list-ids            list the available parser ids and exit",
    "  --json                Output JSON",
    "  --output OUTPUT       Write output to file"]

def helpText : String :=
  usageText ++
    "\nCount source code lines and characters\n" ++
    "\npositional arguments:\n" ++
    "  paths                 Files, directories or glob patterns\n" ++
    "\noptions:\n" ++
    String.join (optionLines.map (· ++ "\n"))

def errorText (message : String) : String := usageText ++ s!"{programName}: error: {message}\n"

end SourceTally.CommandLine
