import FlowGate.Text.Digit
import FlowGate.Text.Quoted
import FlowGate.Text.Split

/-!
# Options

`Request.ofArguments` reads the arguments of a command line. Every argument is classified first: a
long option may be shortened to any beginning that no other option has, and its value may stand
behind an equals sign; after `--` all are words. Then they are followed from left to right. The
first word is the folder of the project, every other word and every unknown option is left over, and
what is left over is refused in the end; help and version are answered as soon as they are met.
-/

namespace FlowGate.CommandLine

inductive Flag where
  | help
  | json
  | strict
  | domain
  | verbose
  | version
  deriving DecidableEq, Repr

namespace Flag

def all : List Flag := [help, json, strict, domain, verbose, version]

def long : Flag → String
  | help => "--help"
  | json => "--json"
  | strict => "--strict"
  | domain => "--domain"
  | verbose => "--verbose"
  | version => "--version"

/-- What an option is called in a message: all its forms. -/
def called : Flag → String
  | help => "-h/--help"
  | f => f.long

end Flag

structure Options where
  project : String
  json : Bool
  strict : Bool
  verbose : Bool
  domain : Option String
  deriving DecidableEq, Repr

/-- The options where none is given: the current folder, nothing else. -/
def Options.default : Options := ⟨".", false, false, false, none⟩

inductive Request where
  | help
  | version
  | check (options : Options)
  deriving DecidableEq, Repr

inductive UsageFault where
  | unrecognized (arguments : List String)
  | ambiguous (argument : String) (candidates : List Flag)
  | valueMissing (flag : Flag)
  | valueIgnored (flag : Flag) (value : String)
  deriving DecidableEq, Repr

def UsageFault.message : UsageFault → String
  | unrecognized arguments => "unrecognized arguments: " ++ " ".intercalate arguments
  | ambiguous argument candidates =>
    "ambiguous option: " ++ argument ++ " could match "
      ++ ", ".intercalate (candidates.map Flag.long)
  | valueMissing flag => "argument " ++ flag.called ++ ": expected one argument"
  | valueIgnored flag value =>
    "argument " ++ flag.called ++ ": ignored explicit argument " ++ Text.quoted value

inductive Piece where
  | word (s : String)
  | separator
  /-- An option and the value behind its equals sign. -/
  | flag (f : Flag) (value : Option String)
  /-- The short form of help with characters behind it. -/
  | shortHelp (rest : List Char)
  | unknown (s : String)
  deriving DecidableEq, Repr

namespace Piece

def text : Piece → String
  | word s => s
  | separator => "--"
  | flag f value => f.long ++ (value.map ("=" ++ ·)).getD ""
  | shortHelp rest => String.ofList ('-' :: 'h' :: rest)
  | unknown s => s

/-- Whether characters are decimal digits, at least one. -/
def isDigits (cs : List Char) : Bool := !cs.isEmpty && cs.all fun c => (Text.digitValue? c).isSome

/-- Whether what follows a dash makes a negative number: digits, or a point with digits behind it.
A line break at the end does not count. -/
def isNumber (cs : List Char) : Bool :=
  let cs := if cs.getLast? = some '\n' then cs.dropLast else cs
  let whole := cs.takeWhile fun c => (Text.digitValue? c).isSome
  match cs.drop whole.length with
  | [] => isDigits whole
  | '.' :: places => isDigits places
  | _ => false

def ofOther (s : String) (cs : List Char) : Piece :=
  if isNumber cs || cs.contains ' ' then .word s else .unknown s

/-- The piece that an argument is, where two dashes alone are a word. -/
def ofArgument (s : String) : Except UsageFault Piece :=
  match s.toList with
  | '-' :: '-' :: cs =>
    let (name, value) := Text.cut '=' ('-' :: '-' :: cs)
    let value := value.map String.ofList
    match Flag.all.find? (·.long.toList = name) with
    | some f => .ok (.flag f value)
    | none =>
      match Flag.all.filter (name.isPrefixOf ·.long.toList) with
      | [] => .ok (ofOther s ('-' :: cs))
      | [f] => .ok (.flag f value)
      | fs => .error (.ambiguous s fs)
  | ['-', 'h'] => .ok (.flag .help none)
  | '-' :: 'h' :: rest => .ok (.shortHelp rest)
  | '-' :: c :: cs => .ok (ofOther s (c :: cs))
  | _ => .ok (.word s)

/-- The pieces of the arguments; after a separator all are words. -/
def ofArguments : List String → Except UsageFault (List Piece)
  | [] => .ok []
  | s :: rest =>
    if s = "--" then .ok (.separator :: rest.map .word)
    else do
      let p ← ofArgument s
      return p :: (← ofArguments rest)

end Piece

/-- What the short form of help with characters behind it asks for: help again and again, but no
value. An equals sign right behind the form is not part of the value. -/
def shortHelpRequest (rest : List Char) : Except UsageFault Request :=
  let value := match rest with
    | '=' :: value => value
    | value => value
  match value.dropWhile (· = 'h') with
  | [] => if value.isEmpty then .error (.valueIgnored .help "") else .ok .help
  | value => .error (.valueIgnored .help (String.ofList value))

structure Gathered where
  options : Options
  hasProject : Bool
  leftOver : List String

namespace Gathered

def start : Gathered := ⟨.default, false, []⟩

def leave (g : Gathered) (s : String) : Gathered := { g with leftOver := g.leftOver ++ [s] }

def take (g : Gathered) (project : String) : Gathered :=
  { g with options := { g.options with project }, hasProject := true }

def finish (g : Gathered) : Except UsageFault Request :=
  if g.leftOver.isEmpty then .ok (.check g.options) else .error (.unrecognized g.leftOver)

def switch (g : Gathered) : Flag → Gathered
  | .json => { g with options := { g.options with json := true } }
  | .strict => { g with options := { g.options with strict := true } }
  | .verbose => { g with options := { g.options with verbose := true } }
  | _ => g

def choose (g : Gathered) (id : String) : Gathered :=
  { g with options := { g.options with domain := some id } }

/-- With the domain of a value behind an equals sign; two dashes alone stand for no identifier. -/
def chooseValue (g : Gathered) (value : String) : Gathered :=
  g.choose (if value = "--" then "" else value)

def follow (g : Gathered) : List Piece → Except UsageFault Request
  | [] => g.finish
  | .word s :: .separator :: rest =>
    if g.hasProject then follow ((g.leave s).leave "--") rest else follow (g.take s) rest
  | .word s :: rest => follow (if g.hasProject then g.leave s else g.take s) rest
  | .separator :: rest =>
    if g.hasProject then follow (g.leave "--") rest
    else
      match rest with
      | .word s :: rest => follow (g.take s) rest
      | rest => follow g rest
  | .unknown s :: rest => follow (g.leave s) rest
  | .shortHelp cs :: _ => shortHelpRequest cs
  | .flag .domain (some value) :: rest => follow (g.chooseValue value) rest
  | .flag .domain none :: .word id :: rest => follow (g.choose id) rest
  | .flag .domain none :: _ => .error (.valueMissing .domain)
  | .flag f (some value) :: _ => .error (.valueIgnored f value)
  | .flag .help none :: _ => .ok .help
  | .flag .version none :: _ => .ok .version
  | .flag f none :: rest => follow (g.switch f) rest

end Gathered

def Request.ofArguments (arguments : List String) : Except UsageFault Request := do
  Gathered.start.follow (← Piece.ofArguments arguments)

end FlowGate.CommandLine
