/-!
# Help texts
-/
namespace TaxFlow.CommandLine

def usageLines : List String :=
  [ "usage: lstgen [-h] [-V] [-l LANG] [-p PAP] [-x XML_PATH] [--pap-versions]",
    "              [--outfile OUTFILE] [--class-name CLASS_NAME] [--indent INDENT]",
    "              [--java-package-name JAVA_PACKAGE]",
    "              [--go-package-name GO_PACKAGE] [--php-ns PHP_NAMESPACE]" ]

def helpLines : List String :=
  [ "",
    "Erzeugt validen Code für die Lohnsteuerberechung aus PAP XML",
    "",
    "options:",
    "  -h, --help            show this help message and exit",
    "  -V, --version         show program's version number and exit",
    "  -l LANG, --lang LANG  Programmiersprache (golang, java, javascript, php,",
    "                        python)",
    "  -p PAP, --pap-version PAP",
    "                        PAP Version (z.B. \"2016\"), falls kein PAP XML Pfad",
    "                        angegeben wurde, siehe auch Option --pap-versions",
    "  -x XML_PATH, --pap-xml XML_PATH",
    "                        Pfad zur PAP XML, falls keine PAP Version ausgewählt",
    "                        wurde.",
    "  --pap-versions        Gibt die Liste der verfügbaren PAP Version aus.",
    "  --outfile OUTFILE     Ausgabedatei, default: STDOUT",
    "  --class-name CLASS_NAME",
    "                        Name der generierten Klasse, standardmässig wird der",
    "                        Name der PAP Elements verwendet",
    "  --indent INDENT       Zeichenkette mit der eingerückt wird, default: 4",
    "                        Leerzeichen",
    "  --java-package-name JAVA_PACKAGE",
    "                        Package-Name (falls LANG=java), standardmässig wird",
    "                        'default' verwendet",
    "  --go-package-name GO_PACKAGE",
    "                        Package-Name (falls LANG=golang), standardmässig wird",
    "                        'tax' verwendet",
    "  --php-ns PHP_NAMESPACE",
    "                        Namespace-Name (falls LANG=php)" ]

/-- Lines, each with its end. -/
def asText (lines : List String) : String := String.join (lines.map (· ++ "\n"))

def usage : String := asText usageLines

def help : String := asText (usageLines ++ helpLines)

def versionText : String := "LstGen Version 0.6.6\n"

end TaxFlow.CommandLine
