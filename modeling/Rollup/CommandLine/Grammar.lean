/-
Command lines and their grammars.

A grammar lists parameters, which are given by name (`--name value`, `--name=value`,
`-n value`, `-n=value` or `-nvalue`), at most one operand, which is given by its
place, and the names of subcommands. Reading goes from left to right and stops at
the first argument that cannot be used, or at a subcommand, whose arguments have a
grammar of their own. Behind a lone `--` there are no parameters any more.

A value that is attached to its parameter is looked at at once. One that stands on
its own is kept until the next parameter or operand is used, so that an argument
which is not known at all is reported before a bad value in front of it.
-/

set_option autoImplicit false

namespace Rollup.CommandLine

/-- Why arguments are not run as a command. -/
inductive Usage where
  /-- Help was asked for. -/
  | help
  /-- The version was asked for. -/
  | version
  /-- There are no arguments at all. -/
  | nothingGiven
  | missingSubcommand
  | invalidSubcommand
  | unknownArgument
  /-- A parameter lacks its value, or the value is not one of its choices. -/
  | invalidValue
  /-- A value could not be read. -/
  | unreadableValue
  /-- A parameter is given twice, or together with one that excludes it. -/
  | conflict
  /-- A value is attached to a parameter that takes none. -/
  | surplusValue
  | missingParameter
  /-- The reader of a value broke down. -/
  | crash
  deriving DecidableEq, Repr

/-- The exit status of a program with such arguments. -/
def Usage.status : Usage → Nat
  | .help => 0
  | .version => 0
  | .crash => 101
  | _ => 2

/-! ## Grammars -/

/-- What a parameter does to the values that are collected. -/
inductive Role (σ : Type) where
  /-- It takes a value, and may be given once. -/
  | value (isGiven : σ → Bool) (put : String → σ → Except Usage σ)
  /-- It takes no value, and may be given once. -/
  | switch (isGiven : σ → Bool) (put : σ → σ)
  /-- It takes no value, and its occurrences are counted. -/
  | counter (put : σ → σ)
  | help
  | version

/-- A parameter that is given by name. -/
structure Parameter (σ : Type) where
  /-- Its name behind two hyphens. -/
  long : String
  /-- Its name behind one hyphen. -/
  short : Option Char
  /-- Whether its value may begin with a hyphen although it stands on its own. -/
  takesHyphens : Bool
  role : Role σ

/-- What can be given on a command line. -/
structure Grammar (σ : Type) where
  parameters : List (Parameter σ)
  /-- What the operand does. -/
  operand : Option (String → σ → Except Usage σ)
  subcommands : List String

namespace Grammar

variable {σ : Type}

/-- The parameter with a long name. -/
def long? (g : Grammar σ) (name : List Char) : Option (Parameter σ) :=
  g.parameters.find? fun p => p.long.toList = name

/-- The parameter with a short name. -/
def short? (g : Grammar σ) (c : Char) : Option (Parameter σ) :=
  g.parameters.find? fun p => p.short = some c

/-- The subcommand that an argument names, in full or by the start of its name if no other one
starts like this. -/
def subcommand? (g : Grammar σ) (arg : String) : Option String :=
  match g.subcommands.filter fun name => arg.toList.isPrefixOf name.toList with
  | [name] => some name
  | _ => g.subcommands.find? (· = arg)

end Grammar

/-! ## Reading -/

/-- What has been read but not used yet. -/
inductive Pending (σ : Type) where
  | nothing
  /-- A parameter whose value comes next. -/
  | awaiting (p : Parameter σ)
  /-- A value, with what it does. -/
  | holding (use : σ → Except Usage σ)

/-- How far a command line has been read. -/
structure Scan (σ : Type) where
  values : σ
  pending : Pending σ
  /-- Whether a lone `--` was read. -/
  trailing : Bool
  /-- Whether the operand was read. -/
  hasOperand : Bool

namespace Scan

variable {σ : Type}

/-- Nothing read yet. -/
def start (values : σ) : Scan σ := ⟨values, .nothing, false, false⟩

/-- Uses what is pending. -/
def resolve (s : Scan σ) : Except Usage (Scan σ) :=
  match s.pending with
  | .nothing => .ok s
  | .awaiting _ => .error .invalidValue
  | .holding use => do .ok { s with values := ← use s.values, pending := .nothing }

/-- Uses a value of a parameter. -/
def use (isGiven : σ → Bool) (put : String → σ → Except Usage σ) (text : String) (values : σ) :
    Except Usage σ :=
  if isGiven values then .error .conflict else put text values

/-- A parameter without a value attached to it. -/
def name (s : Scan σ) (p : Parameter σ) : Except Usage (Scan σ) := do
  let s ← s.resolve
  match p.role with
  | .value _ _ => .ok { s with pending := .awaiting p }
  | .switch isGiven put =>
    -- A switch may be given once only.
    if isGiven s.values then .error .conflict else .ok { s with values := put s.values }
  | .counter put => .ok { s with values := put s.values }
  | .help => .error .help
  | .version => .error .version

/-- A parameter with a value attached to it. -/
def attach (s : Scan σ) (p : Parameter σ) (text : List Char) : Except Usage (Scan σ) :=
  match p.role with
  | .value isGiven put => do
    let s ← s.resolve
    .ok { s with values := ← use isGiven put (String.ofList text) s.values }
  | _ => .error .surplusValue

/-- The value of the parameter that awaits one. -/
def hold (s : Scan σ) (p : Parameter σ) (text : String) : Scan σ :=
  match p.role with
  | .value isGiven put => { s with pending := .holding (use isGiven put text) }
  | _ => s

/-- What stands behind two hyphens. -/
def long (g : Grammar σ) (s : Scan σ) (text : List Char) : Except Usage (Scan σ) :=
  match g.long? (text.takeWhile (· ≠ '=')) with
  | none => .error .unknownArgument
  | some p =>
    match text.dropWhile (· ≠ '=') with
    | [] => s.name p
    | _ :: value => s.attach p value

/-- What stands behind one hyphen: parameters, of which the last one may take what follows it as
its value. -/
def shorts (g : Grammar σ) (s : Scan σ) : List Char → Except Usage (Scan σ)
  | [] => .ok s
  | c :: rest =>
    match g.short? c with
    | none => .error .unknownArgument
    | some p =>
      match p.role, rest with
      -- Behind the letter of a value stands the value, with an equals sign or without.
      | .value _ _, '=' :: value => s.attach p value
      | .value _ _, _ :: _ => s.attach p rest
      | _, _ => do (← s.name p).shorts g rest

/-- An argument with a hyphen in front. -/
def hyphened (g : Grammar σ) (s : Scan σ) : List Char → Except Usage (Scan σ)
  | ['-', '-'] => .ok { s with trailing := true }
  | '-' :: '-' :: text => s.long g text
  | '-' :: text => s.shorts g text
  | _ => .ok s

/-- An argument that is neither a parameter nor a value of one. -/
def operand (g : Grammar σ) (s : Scan σ) (arg : String) : Except Usage (Scan σ) :=
  match g.operand, s.hasOperand with
  | some put, false => do
    let s ← s.resolve
    .ok { s with pending := .holding (put arg), hasOperand := true }
  | _, _ =>
    -- Where there are subcommands, anything else is taken for one that does not exist.
    if g.subcommands.isEmpty || (s.trailing && (g.subcommand? arg).isSome) then
      .error .unknownArgument
    else .error .invalidSubcommand

/-- Whether an argument has a hyphen in front of something. -/
def isHyphened : List Char → Bool
  | '-' :: _ :: _ => true
  | _ => false

/-- An argument that is no subcommand. -/
def argument (g : Grammar σ) (s : Scan σ) (arg : String) : Except Usage (Scan σ) :=
  if s.trailing then s.operand g arg
  else match s.pending with
    | .awaiting p =>
      if p.takesHyphens || !isHyphened arg.toList then .ok (s.hold p arg)
      else s.hyphened g arg.toList
    | _ => if isHyphened arg.toList then s.hyphened g arg.toList else s.operand g arg

/-- The subcommand that the next argument is. -/
def subcommand? (g : Grammar σ) (s : Scan σ) (arg : String) : Option String :=
  match s.trailing, s.pending with
  | true, _ => none
  | false, .awaiting _ => none
  | false, _ => g.subcommand? arg

/-- Reads arguments up to a subcommand, which is given with the arguments behind it. -/
def read (g : Grammar σ) (s : Scan σ) :
    List String → Except Usage (Scan σ × Option (String × List String))
  | [] => .ok (s, none)
  | arg :: rest =>
    match s.subcommand? g arg with
    | some name => .ok (s, some (name, rest))
    | none => do (← s.argument g arg).read g rest

end Scan

end Rollup.CommandLine
