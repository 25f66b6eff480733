/-!
The kinds of intents, the languages and the scopes that a request can name.
-/

namespace VoiceDebugger

/-- What a user can ask for. -/
inductive IntentKind where
  | findErrors
  | explainCode
  | findSymbol
  | navigateTo
  | runTests
  | explainTrace
  | proposeFix
  | applyFix
  | formatFile
  | renameSymbol
  deriving Repr, BEq, DecidableEq

/-- The languages that are told apart. -/
inductive Language where
  | python
  | javascript
  | typescript
  | java
  | unknown
  deriving Repr, BEq, DecidableEq

/-- Which occurrences of a symbol are meant. -/
inductive SymbolScope where
  | all
  | reads
  | writes
  | declarations
  deriving Repr, BEq, DecidableEq

namespace IntentKind

def values : List IntentKind :=
  [.findErrors, .explainCode, .findSymbol, .navigateTo, .runTests, .explainTrace, .proposeFix,
    .applyFix, .formatFile, .renameSymbol]

def name : IntentKind → String
  | .findErrors => "find_errors"
  | .explainCode => "explain_code"
  | .findSymbol => "find_symbol"
  | .navigateTo => "navigate_to"
  | .runTests => "run_tests"
  | .explainTrace => "explain_trace"
  | .proposeFix => "propose_fix"
  | .applyFix => "apply_fix"
  | .formatFile => "format_file"
  | .renameSymbol => "rename_symbol"

def ofName? (s : String) : Option IntentKind :=
  values.find? (·.name == s)

def isDestructive : IntentKind → Bool
  | .applyFix | .renameSymbol | .formatFile => true
  | _ => false

end IntentKind

namespace Language

/-- All languages, in order. -/
def values : List Language :=
  [.python, .javascript, .typescript, .java, .unknown]

def name : Language → String
  | .python => "python"
  | .javascript => "javascript"
  | .typescript => "typescript"
  | .java => "java"
  | .unknown => "unknown"

def ofName? (s : String) : Option Language :=
  values.find? (·.name == s)

end Language

namespace SymbolScope

/-- All scopes, in order. -/
def values : List SymbolScope :=
  [.all, .reads, .writes, .declarations]

def name : SymbolScope → String
  | .all => "all"
  | .reads => "reads"
  | .writes => "writes"
  | .declarations => "declarations"

def ofName? (s : String) : Option SymbolScope :=
  values.find? (·.name == s)

end SymbolScope

end VoiceDebugger
