import SenderPolicy.CommandLine.Arguments

/-!
# Help

The texts that tell how the program is used.
-/

namespace SenderPolicy.CommandLine

/-- Lines, each with its end. -/
def ofLines (lines : List String) : Text :=
  lines.flatMap fun line => line.toList ++ ['\n']

namespace Topic

def programText : Text :=
  ofLines
    ["Évalue les politiques SPF (RFC 7208)",
      "",
      "Usage: spfcheck-cli [OPTIONS] [COMMAND]",
      "",
      "Commands:",
      "  check  vérifie qu'une IP peut émettre pour l'expéditeur",
      "  parse  analyse un enregistrement sans interroger le DNS",
      "  help   Print this message or the help of the given subcommand(s)",
      "",
      "Options:",
      "      --stdin",
      "          lit des lignes \"expéditeur ip [helo]\" depuis stdin",
      "      --out <OUT>",
      "          write report to file (JSON/NDJSON/CSV selon --format)",
      "      --format <FORMAT>",
      "          format: human|json|ndjson|csv [default: human]",
      "      --config <CONFIG>",
      "          fichier de configuration JSON (feature `with-serde`)",
      "      --max-lookups <MAX_DNS_LOOKUPS>",
      "          limite de requêtes DNS par vérification",
      "      --max-void-lookups <MAX_VOID_LOOKUPS>",
      "          limite de réponses vides/NXDOMAIN",
      "      --timeout <TIMEOUT_MS>",
      "          timeout DNS (ms)",
      "      --receiving-domain <RECEIVING_DOMAIN>",
      "          domaine du récepteur pour %\x7br\x7d",
      "      --cache",
      "          garde les réponses DNS en mémoire entre deux vérifications",
      "  -v, --verbose...",
      "          verbosité des logs (-v debug, -vv trace)",
      "  -h, --help",
      "          Print help"]

def checkText : Text :=
  ofLines
    ["vérifie qu'une IP peut émettre pour l'expéditeur",
      "",
      "Usage: spfcheck-cli check [OPTIONS] <SENDER> <IP>",
      "",
      "Arguments:",
      "  <SENDER>  adresse (local@domaine) ou domaine seul",
      "  <IP>      adresse IPv4 ou IPv6 du client SMTP",
      "",
      "Options:",
      "      --helo <HELO>  identité HELO/EHLO",
      "  -h, --help         Print help"]

def parseText : Text :=
  ofLines
    ["analyse un enregistrement sans interroger le DNS",
      "",
      "Usage: spfcheck-cli parse <RECORD>",
      "",
      "Arguments:",
      "  <RECORD>  texte de l'enregistrement, ex. \"v=spf1 mx -all\"",
      "",
      "Options:",
      "  -h, --help  Print help"]

def helpText : Text :=
  ofLines
    ["Print this message or the help of the given subcommand(s)",
      "",
      "Usage: spfcheck-cli help [COMMAND]...",
      "",
      "Arguments:",
      "  [COMMAND]...  Print help for the subcommand(s)"]

def text : Topic → Text
  | program => programText
  | check => checkText
  | parse => parseText
  | help => helpText

end Topic

end SenderPolicy.CommandLine
