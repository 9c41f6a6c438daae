import Criteria.Command.Arguments
import Criteria.Command.LogFilter
import Criteria.Document
import Criteria.Settings

/-!
What the program does with its arguments, apart from reading its input.

`plan` ends at once where no input is needed; otherwise it names the source of the
document and says what comes of each text. The exit code is 0 if all results are true, 1
if one is false, and 2 after an error, in which case no result is written. A log filter
that cuts a character is a failure of its own, with the exit code 101.
-/

namespace Criteria.Command

/-! ## Outcomes -/

inductive Failure where
  | misuse
  | invalidLogFilter (filter : String)
  | cutLogFilter (filter : String)
  | cannotOpen (path reason : String)
  | cannotRead (reason : String)
  | document (error : DocumentError)
  deriving DecidableEq, Repr

def usage : String :=
  "Usage: filterexpr [OPTIONS] <EXPRESSION> [FILE]\n"

def Failure.message : Failure → String
  | .misuse => "wrong arguments\n\n" ++ usage
  | .invalidLogFilter filter => "invalid log level filter: " ++ filter
  | .cutLogFilter filter => "a part of the log filter cuts a character: " ++ filter
  | .cannotOpen path reason => "failed to open " ++ path ++ ": " ++ reason
  | .cannotRead reason => "failed to read input: " ++ reason
  | .document error => error.fullMessage

def Failure.exitCode : Failure → Nat
  | .cutLogFilter _ => 101
  | _ => 2

inductive Outcome where
  | shown (text : String)
  | decided (report : String) (allHold : Bool)
  | failed (failure : Failure)
  deriving DecidableEq, Repr

namespace Outcome

def exitCode : Outcome → Nat
  | .shown _ => 0
  | .decided _ allHold => if allHold then 0 else 1
  | .failed failure => failure.exitCode

def output : Outcome → String
  | .shown text => text
  | .decided report _ => report
  | .failed _ => ""

def complaint? : Outcome → Option String
  | .failed failure => some ("error: " ++ failure.message)
  | _ => none

end Outcome

/-! ## Plans -/

inductive Source where
  | standardInput
  | file (path : String)
  deriving DecidableEq, Repr

inductive Plan where
  | finish (outcome : Outcome)
  | evaluate (source : Source) (outcome : Except Failure String → Outcome)

def help : String :=
  "Evaluates a filter expression on a JSON document\n\n" ++ usage ++
    "\nArguments:\n" ++
    "  <EXPRESSION>  The expression\n" ++
    "  [FILE]        The document, standard input without it\n" ++
    "\nOptions:\n" ++
    "      --each               Evaluate on each element of an array\n" ++
    "  -q, --quiet              Write no results\n" ++
    "      --log-level <LEVEL>  Filter of the log\n" ++
    "  -h, --help               Show this help\n" ++
    "  -V, --version            Show the version\n"

def version : String :=
  "filterexpr 0.1.0\n"

def outcome (arguments : Arguments) (text : String) : Outcome :=
  let extent : Document.Extent := if arguments.each then .elements else .whole
  match Document.read text >>=
    Document.evaluate .standard arguments.expression extent with
  | .ok results =>
      .decided (if arguments.quiet then "" else Document.report results)
        (Document.allHold results)
  | .error error => .failed (.document error)

/-- The failure of the log filter that counts. An environment variable of the log
itself comes before the arguments, and these before the settings; what is malformed in
it is left out. -/
def logFilterFailure? (arguments : Arguments) (environment : String → Option String) :
    Option Failure :=
  match environment "RUST_LOG" with
  | some filter =>
      if LogFilter.cutsCharacter filter then some (.cutLogFilter filter) else none
  | none =>
      let filter := arguments.logLevel.getD (Settings.ofEnvironment environment).logLevel
      (LogFilter.fault? filter).map fun
        | .malformed => .invalidLogFilter filter
        | .cutCharacter => .cutLogFilter filter

def plan (words : List String) (environment : String → Option String) : Plan :=
  match Request.ofWords words with
  | .help => .finish (.shown help)
  | .version => .finish (.shown version)
  | .misuse => .finish (.failed .misuse)
  | .run arguments =>
      match logFilterFailure? arguments environment with
      | some failure => .finish (.failed failure)
      | none =>
          .evaluate (arguments.file.elim .standardInput .file) fun text =>
            match text with
            | .ok text => outcome arguments text
            | .error failure => .failed failure

end Criteria.Command
