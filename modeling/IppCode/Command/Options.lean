import IppCode.Text.Cut
import IppCode.Text.Quoted

/-!
# Command line arguments

The command takes two options with a value, `-i` or `--input` and `-o` or `--output`, each at most
once, and no other arguments. A value is attached to its option, with or without a `=`, or follows
as an argument of its own, which then must not look like an option. Help is only given when nothing
else is asked for.

Arguments are read in two steps. What a single argument is depends on its text alone
(`Argument.ofText`); what it means depends on those before it (`Options.addAll`), and the first that
does not fit ends the reading.
-/

namespace IppCode.Command

/-- Where the source comes from and where the document goes; by default standard input and
standard output. -/
structure Options where
  /-- The path of the source, if it is a file. -/
  input : Option String
  /-- The path of the document, if it goes to a file. -/
  output : Option String
  deriving DecidableEq

namespace Options

/-- Standard input and standard output. -/
def default : Options :=
  ⟨none, none⟩

/-- An optional path as log lines show it. -/
def pathForm : Option String → String
  | some path => "Some(" ++ Text.quoted path ++ ")"
  | none => "None"

/-- The options as log lines show them. -/
def logForm (options : Options) : String :=
  "parse\x7binput=" ++ pathForm options.input ++ " output=" ++ pathForm options.output ++ "\x7d"

end Options

/-- The options that take a value. -/
inductive Setting
  | input
  | output
  deriving DecidableEq

/-- The option by its long name, as complaints name it. -/
def Setting.name : Setting → String
  | input => "--input"
  | output => "--output"

/-- Why arguments are not accepted. -/
inductive Refusal
  /-- An argument that is no option of the command, or that nothing calls for. -/
  | unexpected (argument : String)
  /-- An option stands without a value. -/
  | missingValue (setting : Setting)
  /-- An option is given twice. -/
  | repeated (setting : Setting)
  /-- Help is asked for among other arguments. -/
  | helpNotAlone
  /-- Help was asked for rightly, but could not be printed. -/
  | helpNotPrinted (reason : String)
  deriving DecidableEq

/-- The complaint in words. -/
def Refusal.message : Refusal → String
  | unexpected argument => s!"error: unexpected argument '{argument}' found"
  | missingValue setting => s!"error: a value is required for '{setting.name}'"
  | repeated setting => s!"error: the argument '{setting.name}' cannot be used multiple times"
  | helpNotAlone => "--help cannot be combined with other arguments"
  | helpNotPrinted reason => s!"failed to print help: {reason}"

/-! ### Single arguments -/

/-- What a single argument is. -/
inductive Argument
  | help
  /-- An option, with the value attached to it, if there is one. -/
  | setting (setting : Setting) (value? : Option String)
  /-- The mark behind which no options follow. -/
  | endOfOptions
  | other
  deriving DecidableEq

namespace Argument

/-- The value attached to an option of one letter. A `=` in front of the value is not part of it,
and without anything attached the value is still to come. -/
def attached : List Char → Option String
  | [] => none
  | '=' :: value => some (String.ofList value)
  | value => some (String.ofList value)

/-- An option with a long name. Help takes no value. -/
def ofName (name : String) (value? : Option String) : Argument :=
  if name = "input" then setting .input value?
  else if name = "output" then setting .output value?
  else if name = "help" ∧ value? = none then help
  else other

/-- What an argument is, from its text alone. A dash alone is no option. -/
def ofText (text : String) : Argument :=
  match text.toList with
  | ['-', '-'] => endOfOptions
  | '-' :: '-' :: rest =>
    match Text.cutAt? '=' rest with
    | some (name, value) => ofName (String.ofList name) (some (String.ofList value))
    | none => ofName (String.ofList rest) none
  | '-' :: 'i' :: rest => setting .input (attached rest)
  | '-' :: 'o' :: rest => setting .output (attached rest)
  | '-' :: 'h' :: _ => help
  | _ => other

end Argument

/-- The argument begins with a dash and is not a dash alone. -/
def looksLikeOption (text : String) : Bool :=
  text.toList.head? = some '-' && text ≠ "-"

/-! ### Whole command lines -/

namespace Options

/-- The options with one more setting. A setting cannot be given twice, not even with the same
value. -/
def set (options : Options) (setting : Setting) (value : String) : Except Refusal Options :=
  match setting, options.input, options.output with
  | .input, none, _ => .ok { options with input := some value }
  | .output, _, none => .ok { options with output := some value }
  | setting, _, _ => .error (.repeated setting)

/-- The options with all the settings of a command line. The arguments are gone through from the
left, and a value that follows its option is passed over with it. -/
def addAll (options : Options) : List String → Except Refusal Options
  | [] => .ok options
  | text :: texts =>
    match Argument.ofText text with
    | .setting setting (some value) => do (← options.set setting value).addAll texts
    | .setting setting none =>
      match texts with
      | [] => .error (.missingValue setting)
      | value :: texts =>
        if looksLikeOption value then .error (.missingValue setting)
        else do (← options.set setting value).addAll texts
    | .endOfOptions =>
      match texts with
      | [] => .ok options
      | extra :: _ => .error (.unexpected extra)
    | .help => .error .helpNotAlone
    | .other => .error (.unexpected text)

end Options

/-- What the command is asked to do. -/
inductive Request
  | help
  | parse (options : Options)
  deriving DecidableEq

/-- What the command line asks for. An argument for help counts only if it is the only argument. -/
def Request.ofArguments (texts : List String) : Except Refusal Request :=
  match texts with
  | [text] =>
    if Argument.ofText text = .help then .ok .help
    else (Options.default.addAll texts).map .parse
  | _ => (Options.default.addAll texts).map .parse

end IppCode.Command
