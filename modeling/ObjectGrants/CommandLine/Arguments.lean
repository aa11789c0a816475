import ObjectGrants.Enrichment
import ObjectGrants.Number.Decimal

/-!
The grammar of the command line. A command has options, which are written with two hyphens
and may have a value, and operands. Options and operands may be mixed; behind a lone `--`
everything is an operand. An option is given once at most.
-/

namespace ObjectGrants.CommandLine

/-- What a user asks for. -/
inductive Command where
  | upload (category : Category) (files : List String) (contentType : Option String)
    (isPublic put : Bool)
  | verify (token : String)
  | download (tokens : List String) (waitSecs : Option Nat)
  | status (tokens : List String)
  | constraints (category : Category)
  deriving DecidableEq, Repr

/-- A command with the correlation identifier that was given for it. -/
structure Invocation where
  requestId : Option String
  command : Command
  deriving DecidableEq, Repr

/-- What comes of reading arguments that are no invocation. -/
inductive NoInvocation where
  | help
  | usage
  deriving DecidableEq, Repr

/-- An option that a command knows, and the values that it accepts if it takes one. -/
structure OptionKind where
  name : String
  accepts : Option (String → Bool) := none

/-- What a command knows: its options, and the operands that it accepts. -/
structure CommandKind where
  options : List OptionKind
  mostOperands : Option Nat := none
  acceptsOperand : String → Bool := fun _ => true

/-- Arguments sorted into options, with their values, and operands. -/
structure Sorted where
  options : List (String × String) := []
  operands : List String := []
  deriving DecidableEq, Repr

/-- Whether an argument stands for an option rather than for an operand or a value. -/
def isOptionLike (argument : String) : Bool :=
  match argument.toList with
  | '-' :: _ :: _ => true
  | _ => false

/-- The name and the attached value of an argument with two hyphens. -/
def splitOption (argument : String) : String × Option String :=
  let body := argument.toList.drop 2
  let name := String.ofList (body.takeWhile (· ≠ '='))
  match body.dropWhile (· ≠ '=') with
  | [] => (name, none)
  | _ :: value => (name, some (String.ofList value))

/-- Whether an argument asks for help. What follows the short form in the same argument does
not matter. -/
def asksForHelp (argument : String) : Bool :=
  argument = "--help" || ['-', 'h'].isPrefixOf argument.toList

/-- Adds an option unless it has been given before. -/
def Sorted.withOption (name value : String) (sorted : Sorted) : Except NoInvocation Sorted :=
  if (sorted.options.lookup name).isSome then .error .usage
  else .ok { sorted with options := (name, value) :: sorted.options }

/-- Adds an operand that the command accepts. -/
def Sorted.withOperand (kind : CommandKind) (operand : String) (sorted : Sorted)
    : Except NoInvocation Sorted :=
  if (kind.mostOperands.all (sorted.operands.length < ·)) && kind.acceptsOperand operand then
    .ok { sorted with operands := sorted.operands ++ [operand] }
  else .error .usage

/-- Sorts the arguments of a command. The first argument that cannot be accepted, or that asks
for help, decides. -/
def sort (kind : CommandKind) (sorted : Sorted) : List String → Except NoInvocation Sorted
  | [] => .ok sorted
  | "--" :: operands =>
      operands.foldlM (fun sorted operand => sorted.withOperand kind operand) sorted
  | argument :: rest =>
      if asksForHelp argument then .error .help
      else if !isOptionLike argument then do sort kind (← sorted.withOperand kind argument) rest
      else if argument.toList.take 2 ≠ ['-', '-'] then .error .usage
      else
        let (name, attached) := splitOption argument
        match kind.options.find? (·.name == name) with
        | none => .error .usage
        | some option =>
            match option.accepts, attached, rest with
            | none, some _, _ => .error .usage
            | none, none, rest => do sort kind (← sorted.withOption name "") rest
            | some accepts, some value, rest =>
                if accepts value then do sort kind (← sorted.withOption name value) rest
                else .error .usage
            | some accepts, none, value :: rest =>
                if !isOptionLike value && accepts value then do
                  sort kind (← sorted.withOption name value) rest
                else .error .usage
            | some _, none, [] => .error .usage

/-- The option with the correlation identifier, which may also stand in front of the command. -/
def requestIdOption : OptionKind := ⟨"request-id", some fun _ => true⟩

/-- The category that a person has spelled, if it is one. -/
def category? (spelling : String) : Option Category :=
  match Category.ofSpelling spelling with
  | .ok category => some category
  | .error _ => none

/-- A number of seconds. -/
def seconds? (text : String) : Option Nat :=
  match Number.Decimal.read UInt64.size text.toList with
  | .ok seconds => some seconds
  | .error _ => none

/-- The commands by their names. -/
def commandKinds : List (String × CommandKind) :=
  let category : OptionKind := ⟨"category", some fun spelling => (category? spelling).isSome⟩
  let wait : OptionKind := ⟨"wait", some fun text => (seconds? text).isSome⟩
  let contentType : OptionKind := ⟨"content-type", some fun _ => true⟩
  [("upload",
      { options := [requestIdOption, category, contentType, ⟨"public", none⟩, ⟨"put", none⟩]
        acceptsOperand := fun path => path ≠ "" }),
    ("verify", { options := [requestIdOption], mostOperands := some 1 }),
    ("download", { options := [requestIdOption, wait] }),
    ("status", { options := [requestIdOption] }),
    ("constraints", { options := [requestIdOption, category], mostOperands := some 0 })]

/-- The category that has to be given. -/
def Sorted.category (sorted : Sorted) : Except NoInvocation Category :=
  match (sorted.options.lookup "category").bind category? with
  | some category => .ok category
  | none => .error .usage

/-- The operands, of which there has to be one at least. -/
def Sorted.someOperands (sorted : Sorted) : Except NoInvocation (List String) :=
  if sorted.operands.isEmpty then .error .usage else .ok sorted.operands

/-- The command of a name, with its arguments sorted. -/
def commandOf (name : String) (sorted : Sorted) : Except NoInvocation Command := do
  let given (option : String) : Bool := (sorted.options.lookup option).isSome
  if name = "upload" then
    let category ← sorted.category
    let files ← sorted.someOperands
    pure (.upload category files (sorted.options.lookup "content-type") (given "public")
      (given "put"))
  else if name = "verify" then
    match sorted.operands with
    | [token] => pure (.verify token)
    | _ => .error .usage
  else if name = "download" then
    pure (.download (← sorted.someOperands) ((sorted.options.lookup "wait").bind seconds?))
  else if name = "status" then pure (.status (← sorted.someOperands))
  else if name = "constraints" then pure (.constraints (← sorted.category))
  else .error .usage

/-- Whether a request for help names nothing or one command. -/
def isHelpTopic : List String → Bool
  | [] => true
  | [name] => name = "help" || (commandKinds.lookup name).isSome
  | _ => false

/-- Reads a command and its arguments; `requestId` is what was given in front of it. -/
def readCommand (requestId : Option String) (name : String) (arguments : List String)
    : Except NoInvocation Invocation :=
  if name = "help" then .error (if isHelpTopic arguments then .help else .usage)
  else match commandKinds.lookup name with
    | none => .error .usage
    | some kind => do
        let sorted ← sort kind {} arguments
        let command ← commandOf name sorted
        pure ⟨(sorted.options.lookup requestIdOption.name).or requestId, command⟩

/-- Reads the arguments of an invocation. -/
def read (requestId : Option String) : List String → Except NoInvocation Invocation
  | [] => .error .usage
  | argument :: rest =>
      if asksForHelp argument then .error .help
      else if !isOptionLike argument then readCommand requestId argument rest
      else
        let (name, attached) := splitOption argument
        if argument.toList.take 2 ≠ ['-', '-'] ∨ name ≠ requestIdOption.name
            ∨ requestId.isSome then .error .usage
        else match attached, rest with
          | some value, rest => read (some value) rest
          | none, value :: rest =>
              if isOptionLike value then .error .usage else read (some value) rest
          | none, [] => .error .usage

/-- The invocation that some arguments are. -/
def Invocation.ofArguments (arguments : List String) : Except NoInvocation Invocation :=
  read none arguments

/-- What a user who asks for help is told. -/
def helpText : String :=
  "Upload and download grants CLI\n\n"
    ++ "Usage: grantgate [--request-id <ID>] <COMMAND>\n\n"
    ++ "Commands:\n"
    ++ "  upload --category <CATEGORY> [--content-type <TYPE>] [--public] [--put] <FILES>...\n"
    ++ "  verify <TOKEN>\n"
    ++ "  download [--wait <SECONDS>] <TOKENS>...\n"
    ++ "  status <TOKENS>...\n"
    ++ "  constraints --category <CATEGORY>\n"

end ObjectGrants.CommandLine
