import HeaderSurvey.Text.Basic

/-!
# The texts of a test harness

The fixed text of a generated harness, with placeholders between at signs for what varies: the
preamble up to the reading of arguments, the main function with and without test cases, and the
registration of one test case.
-/

namespace HeaderSurvey.Harness

/-- The lines as one text, with a newline between two of them. -/
def joinLines (lines : List String) : List Char :=
  Text.join ['\n'] (lines.map String.toList)

/-- Puts a value in place of a placeholder, wherever it stands in the text. -/
def fill (placeholder : String) (value text : List Char) : List Char :=
  Text.replace placeholder.toList value text

/-- The includes and the function that reads the arguments. -/
def preambleTemplate : List Char :=
  joinLines [
    "#include <functional>",
    "#include <memory>",
    "#include <map>",
    "",
    "#ifdef __DREAMCAST__",
    "#include <kos.h>",
    "KOS_INIT_FLAGS(INIT_DEFAULT | INIT_MALLOCSTATS | INIT_NET);",
    "#endif",
    "",
    "#include \"@RUNTIME_HEADER@\"",
    "",
    "@INCLUDES@",
    "",
    "",
    "std::map<std::string, std::string> parse_args(int argc, char* argv[]) \x7b",
    "    std::map<std::string, std::string> ret;",
    "",
    "    for(int i = 1; i < argc; ++i) \x7b",
    "        std::string arg = argv[i];",
    "",
    "        auto eq = arg.find('=');",
    "        if(eq != std::string::npos && arg[0] == '-' && arg[1] == '-') \x7b",
    "            auto key = std::string(arg.begin(), arg.begin() + eq);",
    "            auto value = std::string(arg.begin() + eq + 1, arg.end());",
    "            ret[key] = value;",
    "        \x7d else if(arg[0] == '-' && arg[1] == '-') \x7b",
    "            auto key = arg;",
    "            if(i < (argc - 1)) \x7b",
    "                auto value = argv[++i];",
    "                ret[key] = value;",
    "            \x7d else \x7b",
    "                ret[key] = \"\";",
    "            \x7d",
    "        \x7d else \x7b",
    "            ret[arg] = \"\";  // Positional, not key=value",
    "        \x7d",
    "    \x7d",
    "",
    "    return ret;",
    "\x7d",
    ""
  ]

/-- The main function that runs the registered test cases. -/
def mainTemplate : List Char :=
  joinLines [
    "",
    "int main(int argc, char* argv[]) \x7b",
    "    auto runner = std::make_shared<@RUNNER_TYPE@>();",
    "",
    "    auto args = parse_args(argc, argv);",
    "",
    "    std::string junit_xml;",
    "    auto junit_xml_it = args.find(\"--junit-xml\");",
    "    if(junit_xml_it != args.end()) \x7b",
    "        junit_xml = junit_xml_it->second;",
    "        std::cout << \"    Outputting junit XML to: \" << junit_xml << std::endl;",
    "        args.erase(junit_xml_it);",
    "    \x7d",
    "",
    "    std::string test_case;",
    "    if(args.size()) \x7b",
    "        test_case = args.begin()->first;",
    "    \x7d",
    "@REGISTRATIONS@",
    "",
    "    return runner->run(test_case, junit_xml);",
    "\x7d",
    ""
  ]

/-- The main function where there are no test cases. -/
def emptyMain : List Char :=
  joinLines [
    "",
    "int main(int argc, char* argv[]) \x7b",
    "    auto args = parse_args(argc, argv);",
    "    (void) args;",
    "",
    "    return 0;",
    "\x7d",
    ""
  ]

/-- The registration of one test case: pointers to its methods and their names. -/
def registrationTemplate : List Char :=
  joinLines [
    "",
    "    runner->register_case<@CLASS@>(",
    "        std::vector<void (@CLASS@::*)()>(\x7b@MEMBERS@\x7d),",
    "        \x7b@NAMES@\x7d",
    "    );"
  ]

end HeaderSurvey.Harness
