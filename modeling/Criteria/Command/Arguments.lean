/-!
The arguments of the command line.

Words are read from left to right, and the first one that decides the matter does: a
word that is out of place, or a request for the help or the version. Only when all words
are read it shows whether the expression is missing.
-/

namespace Criteria.Command

structure Arguments where
  expression : String
  file : Option String := none
  each : Bool := false
  quiet : Bool := false
  logLevel : Option String := none
  deriving DecidableEq, Repr

inductive Request where
  | run (arguments : Arguments)
  | help
  | version
  | misuse
  deriving DecidableEq, Repr

namespace Request

structure Reader where
  expression : Option String := none
  file : Option String := none
  each : Bool := false
  quiet : Bool := false
  logLevel : Option String := none

namespace Reader

abbrev Result : Type := Except Request Reader

/-- A word that is no option: the expression, and then the file, whose name is not
empty. -/
def positional (reader : Reader) (word : String) : Result :=
  if reader.expression.isNone then .ok { reader with expression := some word }
  else if reader.file.isNone && !word.isEmpty then .ok { reader with file := some word }
  else .error .misuse

def setEach (reader : Reader) : Result :=
  if reader.each then .error .misuse else .ok { reader with each := true }

def setQuiet (reader : Reader) : Result :=
  if reader.quiet then .error .misuse else .ok { reader with quiet := true }

def setLogLevel (reader : Reader) (level : String) : Result :=
  if reader.logLevel.isSome then .error .misuse
    else .ok { reader with logLevel := some level }

def short (reader : Reader) (letter : Char) : Result :=
  match letter with
  | 'q' => reader.setQuiet
  | 'h' => .error .help
  | 'V' => .error .version
  | _ => .error .misuse

def long (reader : Reader) (name : String) (value : Option String) : Result :=
  match name, value with
  | "each", none => reader.setEach
  | "quiet", none => reader.setQuiet
  | "log-level", some level => reader.setLogLevel level
  | "help", none => .error .help
  | "version", none => .error .version
  | _, _ => .error .misuse

def finish (reader : Reader) : Request :=
  match reader.expression with
  | some expression =>
      .run { expression, file := reader.file, each := reader.each, quiet := reader.quiet,
             logLevel := reader.logLevel }
  | none => .misuse

end Reader

def isPlain (word : String) : Bool :=
  match word.toList with
  | '-' :: _ :: _ => false
  | _ => true

/-- Reads words. After the word of two dashes all words stand for themselves. -/
def readWords (reader : Reader) : List String → Reader.Result
  | [] => .ok reader
  | "--" :: rest => rest.foldlM Reader.positional reader
  | "--log-level" :: rest =>
      match rest with
      | level :: rest =>
          if isPlain level then do readWords (← reader.setLogLevel level) rest
            else .error .misuse
      | [] => .error .misuse
  | word :: rest => do
      let reader ←
        match word.toList with
        | '-' :: '-' :: text =>
            let (name, value) := text.span (· != '=')
            reader.long (String.ofList name)
              (if value.isEmpty then none else some (String.ofList value.tail))
        | '-' :: letter :: letters => (letter :: letters).foldlM Reader.short reader
        | _ => reader.positional word
      readWords reader rest

def ofWords (words : List String) : Request :=
  match readWords {} words with
  | .ok reader => reader.finish
  | .error request => request

end Request

end Criteria.Command
