/-!
# The text of the helper script

## Main definitions

* `Script.helperText` — the text that is loaded into the engine after the library.
-/

namespace CoffeeHost.Script

/-- The helper script. It defines one object with one function, which wraps the function of the
library and always returns a JSON message. -/
def helperText : String :=
  "var coffeeScriptHelper = (function (coffeeScript) \x7b\n" ++
  "\t'use strict';\n" ++
  "\n" ++
  "\t// SyntaxError#toString reads process.stdout.isTTY, which the host does not define\n" ++
  "\tif (typeof process === 'object' && process !== null && !process.stdout) \x7b\n" ++
  "\t\tprocess.stdout = \x7b\x7d;\n" ++
  "\t\x7d\n" ++
  "\n" ++
  "\tfunction getErrorDetails(e) \x7b\n" ++
  "\t\tvar location = e.location || \x7b\x7d;\n" ++
  "\n" ++
  "\t\treturn \x7b\n" ++
  "\t\t\tmessage: e.message || String(e),\n" ++
  "\t\t\tlineNumber: typeof location.first_line === 'number' ? location.first_line + 1 : 0,\n" ++
  "\t\t\tcolumnNumber: typeof location.first_column === 'number' ? location.first_column + 1 : 0\n" ++
  "\t\t\x7d;\n" ++
  "\t\x7d\n" ++
  "\n" ++
  "\tfunction compile(code, options) \x7b\n" ++
  "\t\tvar result = \x7b\x7d;\n" ++
  "\n" ++
  "\t\ttry \x7b\n" ++
  "\t\t\tresult.compiledCode = coffeeScript.compile(code, options);\n" ++
  "\t\t\x7d\n" ++
  "\t\tcatch (e) \x7b\n" ++
  "\t\t\tresult.errors = [getErrorDetails(e)];\n" ++
  "\t\t\x7d\n" ++
  "\n" ++
  "\t\treturn JSON.stringify(result);\n" ++
  "\t\x7d\n" ++
  "\n" ++
  "\treturn \x7b\n" ++
  "\t\tcompile: compile\n" ++
  "\t\x7d;\n" ++
  "\x7d(CoffeeScript));\n"

end CoffeeHost.Script
