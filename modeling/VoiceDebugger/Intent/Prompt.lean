import VoiceDebugger.Intent.Kind

/-!
How the kinds of intents are described to a chat model.
-/

namespace VoiceDebugger

def IntentKind.description : IntentKind → String
  | .findErrors => "Find syntax, runtime, or logical errors in code"
  | .explainCode => "Explain what a piece of code does in natural language"
  | .findSymbol => "Find where a symbol (variable, function, class) is defined or used"
  | .navigateTo => "Navigate to a specific location in code"
  | .runTests => "Execute unit tests or test suites"
  | .explainTrace => "Explain a stack trace and identify root cause"
  | .proposeFix => "Suggest a fix for a code issue"
  | .applyFix => "Apply a proposed code modification"
  | .formatFile => "Format/prettify code according to style guidelines"
  | .renameSymbol => "Rename a symbol across the entire codebase"

/-- Sentences that ask for a kind, for those kinds that have some. -/
def IntentKind.examples? : IntentKind → Option (List String)
  | .findErrors => some [
      "find all syntax errors in main.py",
      "check for bugs in this file",
      "what's wrong with my code",
      "show me errors"]
  | .explainCode => some [
      "explain what this function does",
      "what does this code do",
      "describe this class",
      "help me understand this"]
  | .findSymbol => some [
      "find where userData is defined",
      "show me all uses of counter",
      "where is this variable modified",
      "find references to handleClick"]
  | .runTests => some [
      "run tests",
      "execute unit tests",
      "test this file",
      "run pytest"]
  | .explainTrace => some [
      "explain this error",
      "what caused this exception",
      "analyze this stack trace",
      "why did this fail"]
  | .proposeFix => some [
      "fix this error",
      "suggest a solution",
      "how do I fix this",
      "propose a fix for indentation"]
  | _ => none

/-- What a chat model is told about intents. -/
def intentPrompt : String :=
  let kinds := IntentKind.values.map fun k => s!"- {k.name}: {k.description}"
  "\n".intercalate ([
    "You are an NLU router for EchoDebug, a voice-controlled debugger.",
    "Your job is to classify user commands into structured intents.",
    "",
    "Valid intents:"] ++ kinds ++ [
    "",
    "Output ONLY valid JSON matching this schema:",
    "\x7b",
    "  \"intent\": \"<intent_type>\",",
    "  \"confidence\": <0.0-1.0>,",
    "  \"entities\": \x7b",
    "    \"file\": \"<filename or null>\",",
    "    \"symbol\": \"<symbol_name or null>\",",
    "    \"language\": \"<python|javascript|typescript|java>\",",
    "    \"scope\": \"<all|reads|writes|declarations>\",",
    "    \"line\": <line_number or null>,",
    "    \"function\": \"<function_name or null>\",",
    "    \"error_type\": \"<error_type or null>\"",
    "  \x7d,",
    "  \"follow_up_allowed\": <true|false>",
    "\x7d",
    "",
    "Rules:",
    "1. Always output valid JSON",
    "2. Use only the intents listed above",
    "3. Extract all relevant entities from the user's command",
    "4. Set confidence based on clarity of the command",
    "5. If the command is ambiguous, choose the most likely intent",
    "6. Refuse commands outside the scope of debugging/code analysis",
    ""])

end VoiceDebugger
