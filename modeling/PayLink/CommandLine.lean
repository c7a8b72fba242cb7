import PayLink.Address
/-!
# Command lines

How the words of a command line are taken apart. Words belong to a level: first to the program, and
after the name of a command to that command. A level has options, each with a value, and perhaps one
place for a word that belongs to no option. The value of an option is checked when the next option
begins or the words end, so of two faults the one that shows first is reported.
-/

namespace PayLink.CommandLine

/-- Why a command line is not carried out. -/
inductive Misuse
  /-- The help was asked for. -/
  | help
  /-- The version was asked for. -/
  | version
  /-- Nothing was given at all. -/
  | nothingGiven
  /-- Options were given and no command. -/
  | missingCommand
  /-- A word is no command. -/
  | unknownCommand
  /-- A word is no option and has no place. -/
  | unknownArgument
  /-- An option has no value. -/
  | missingValue
  /-- A value is not of the kind that its option takes. -/
  | badValue
  /-- A value was given to what takes none. -/
  | unexpectedValue
  /-- An option occurs twice. -/
  | repeatedOption
  /-- An option or word that must be there is missing. -/
  | missingArgument
  deriving DecidableEq, Repr

/-- An option. -/
structure OptionRule where
  /-- Its name, without the two dashes. -/
  name : String
  /-- Whether it must be an address. -/
  isAddress : Bool := false
  /-- Whether it must be given. -/
  isRequired : Bool := false
  /-- Whether it may be given more than once. -/
  isRepeatable : Bool := false
  deriving DecidableEq, Repr

/-- What a level takes. -/
structure Level where
  /-- The options. -/
  options : List OptionRule
  /-- Whether a word may stand by itself, and then must. -/
  takesWord : Bool := false
  /-- Whether the version may be asked for. -/
  hasVersion : Bool := false
  deriving Repr

/-- What has been given at a level. -/
structure Given where
  /-- The options with their values, in order. -/
  values : List (OptionRule × String) := []
  /-- The option that is not settled yet, with its value if that has been given. -/
  pending : Option (OptionRule × Option String) := none
  /-- The word that stands by itself. -/
  word : Option String := none
  /-- Whether only words that stand by themselves may follow. -/
  wordsOnly : Bool := false
  deriving Repr

/-- Whether a value is of the kind that an option takes. -/
def OptionRule.admits (o : OptionRule) (value : String) : Bool :=
  !o.isAddress || Address.isText value

namespace Given

/-- Settles the option that is not settled yet. -/
def settle (g : Given) : Except Misuse Given :=
  match g.pending with
  | none => .ok g
  | some (_, none) => .error .missingValue
  | some (o, some value) =>
    if !o.isRepeatable ∧ g.values.any (fun v => v.1.name = o.name) then .error .repeatedOption
    else if o.admits value then
      .ok { g with values := g.values ++ [(o, value)], pending := none }
    else .error .badValue

/-- Whether an option waits for its value. -/
def awaitsValue (g : Given) : Bool :=
  match g.pending with
  | some (_, none) => true
  | _ => false

/-- The values of an option, in order. -/
def all (g : Given) (name : String) : List String :=
  (g.values.filter fun v => v.1.name = name).map fun v => v.2

/-- The value of an option. -/
def get? (g : Given) (name : String) : Option String :=
  (g.all name).head?

end Given

/-- Asks for the help or the version, once what is pending is settled. -/
def request (g : Given) (m : Misuse) (value : Option String) : Except Misuse Given :=
  if value.isSome then .error .unexpectedValue
  else
    match g.settle with
    | .ok _ => .error m
    | .error e => .error e

/-- A word that two dashes begin, with what follows its equals sign. -/
def longOption (level : Level) (g : Given) (name : String) (value : Option String) :
    Except Misuse Given :=
  match level.options.find? fun o => o.name = name with
  | some o => do
    let g ← g.settle
    match value with
    | none => pure { g with pending := some (o, none) }
    | some _ => Given.settle { g with pending := some (o, value) }
  | none =>
    if name = "help" then request g .help value
    else if name = "version" ∧ level.hasVersion then request g .version value
    else .error .unknownArgument

/-- A word that one dash begins, by its first letter. -/
def shortOption (level : Level) (g : Given) (letter : Char) : Except Misuse Given :=
  if letter = 'h' then request g .help none
  else if letter = 'V' ∧ level.hasVersion then request g .version none
  else .error .unknownArgument

/-- A word that stands by itself. -/
def loneWord (level : Level) (g : Given) (word : String) : Except Misuse Given := do
  if level.takesWord ∧ g.word.isNone then
    let g ← g.settle
    pure { g with word := some word }
  else throw .unknownArgument

/-- The name and the value of an option that is written as one word. -/
def splitValue (cs : List Char) : String × Option String :=
  let name := cs.takeWhile (· ≠ '=')
  match cs.drop name.length with
  | [] => (String.ofList name, none)
  | _ :: value => (String.ofList name, some (String.ofList value))

/-- One word of a level. -/
def step (level : Level) (g : Given) (word : String) : Except Misuse Given :=
  if g.wordsOnly then loneWord level g word
  else
    match word.toList with
    | ['-', '-'] => .ok { g with wordsOnly := true }
    | '-' :: '-' :: cs => longOption level g (splitValue cs).1 (splitValue cs).2
    | '-' :: letter :: _ => shortOption level g letter
    | _ =>
      match g.pending with
      | some (o, none) => .ok { g with pending := some (o, some word) }
      | _ => loneWord level g word

/-- Whether all that must be given has been given. -/
def isComplete (level : Level) (g : Given) : Bool :=
  level.options.all (fun o => !o.isRequired || (g.get? o.name).isSome)
    && (!level.takesWord || g.word.isSome)

/-- What has been given at a level by all its words. -/
def read (level : Level) (words : List String) : Except Misuse Given := do
  let g ← words.foldlM (step level) {}
  let g ← g.settle
  if isComplete level g then pure g else throw .missingArgument

/-- What has been given to the program before its command, and the command with its words. -/
def splitCommand (level : Level) (isCommand : String → Bool) :
    Given → List String → Except Misuse (Given × Option (String × List String))
  | g, [] => .ok (g, none)
  | g, w :: ws =>
    if isCommand w ∧ !g.wordsOnly ∧ !g.awaitsValue then .ok (g, some (w, ws))
    else
      match step level g w with
      | .ok g => splitCommand level isCommand g ws
      | .error .unknownArgument =>
        if g.wordsOnly then
          .error (if isCommand w then .unknownArgument else .unknownCommand)
        else if isLone w then .error .unknownCommand
        else .error .unknownArgument
      | .error e => .error e
where
  /-- Whether a word would stand by itself. -/
  isLone (w : String) : Bool :=
    match w.toList with
    | '-' :: _ :: _ => false
    | _ => true

end PayLink.CommandLine
