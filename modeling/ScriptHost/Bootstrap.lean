/-
The bootstrap: the source that is evaluated once in a new session, before any other. It is bundled,
or it is the file that the settings name; that file is always read without its terminator.
-/
import ScriptHost.Source

namespace ScriptHost.Bootstrap

/-- The lines of the bundled bootstrap. -/
def bundledLines : List String := [
  "// Bootstrap evaluated once in the host instance before any input file.",
  "//",
  "// Host functions available here: print, sandbox, readfile.",
  "",
  "// sandboxedAction evaluates the body of an action in a fresh sandbox.",
  "//",
  "// The body runs as a function of one argument, env, with env.bindings",
  "// holding a copy of bs and env.out(x) collecting messages to emit. The",
  "// body's return value becomes the new bindings.",
  "//",
  "// Returns \x7bbs: BINDINGS, emitted: MESSAGES\x7d, or \x7bbs: BINDINGS, error: ERR\x7d",
  "// when the body threw or did not produce JSON.",
  "function sandboxedAction(bs, src) \x7b",
  "    if (!bs) \x7b",
  "        bs = \x7b\x7d;",
  "    \x7d",
  "",
  "    var code = \"\\n\" +",
  "        \"var emitting = [];\\n\" +",
  "        \"var env = \x7b\\n\" +",
  "        \"  bindings: \" + JSON.stringify(bs) + \",\\n\" +",
  "        \"  out: function(x) \x7b emitting.push(x); \x7d\\n\" +",
  "        \"\x7d;\\n\" +",
  "        \"var bs = (function(_) \x7b\\n\" + src + \"\\n\x7d)(env);\\n\" +",
  "        \"JSON.stringify(\x7bbs: bs, emitted: emitting\x7d);\\n\";",
  "",
  "    var result_js = sandbox(code);",
  "    try \x7b",
  "        return JSON.parse(result_js);",
  "    \x7d catch (e) \x7b",
  "        // sandbox() returns error descriptions as plain strings.",
  "        var err = String(result_js);",
  "        print(\"sandboxedAction error\", err);",
  "        bs.error = err;",
  "        return \x7bbs: bs, error: err\x7d;",
  "    \x7d",
  "\x7d",
  "",
  "// load evaluates a file in the host instance and returns its value.",
  "function load(path) \x7b",
  "    return (0, eval)(readfile(path));",
  "\x7d"]

/-- The bundled bootstrap. -/
def bundled : Text := (bundledLines.map fun line => Text.ofString line ++ "\n").flatten

/-- What the bundled bootstrap is called in reports. -/
def bundledOrigin : Text := "<bundled bootstrap.js>"

/-- The source of the bootstrap and what it is called in reports. -/
def load (path : Option Text) (encoding : Text) : Action (Text × Text) :=
  match path with
  | none => return (bundled, bundledOrigin)
  | some p => do
    let source ← Source.read ⟨true, encoding⟩ p
    return (source, p)

end ScriptHost.Bootstrap
