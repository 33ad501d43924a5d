import BreakageAdvisor.Text.CharacterClass
import BreakageAdvisor.Text.Printable

/-!
# Grammars of command lines

A command line is a list of words. Words that begin with a dash are options; a long option may be
cut short as long as it is clear which is meant. The other words are matched with the positional
arguments in order, as many as possible at a time, so an argument that may be absent is taken as
absent as soon as no word for it follows directly.
-/

namespace BreakageAdvisor

/-- How many words a positional argument takes. -/
inductive Arity where
  | one
  /-- One word or none. -/
  | optional
  /-- A word and all that follows, options included. -/
  | command
  deriving DecidableEq, Repr

/-- A positional argument. -/
structure Positional where
  name : Text
  arity : Arity
  /-- The words that may stand for it, if not all may. -/
  choices : Option (List Text) := none

/-- An option that takes a value. -/
structure ValuedOption where
  spelling : Text
  choices : List Text

/-- The grammar of the command line of a program. Every program has the option for help. -/
structure Grammar where
  program : Text
  options : List ValuedOption := []
  positionals : List Positional := []

/-- Why a command line is not carried out. -/
inductive CommandLineStop where
  /-- Help for a program is asked for. -/
  | help (program : Text)
  /-- The command line of a program is at fault. -/
  | usage (program complaint : Text)
  deriving DecidableEq, Repr

namespace CommandLineStop

/-- The last line that is written about a faulty command line. -/
def message : CommandLineStop → Text
  | help program => "usage: " ++ program
  | usage program complaint => program ++ ": error: " ++ complaint

end CommandLineStop

namespace Grammar

/-- What an option means. -/
inductive Meaning where
  | help
  | valued (option : ValuedOption)

/-- How messages name an option. -/
def Meaning.name : Meaning → Text
  | help => "-h/--help"
  | valued option => option.spelling

/-- What a word is in a command line. -/
inductive Token where
  | word (text : Text)
  /-- The first pair of dashes, behind which every word is an argument. -/
  | dashes
  /-- An option that the program does not have. -/
  | unknown (text : Text)
  /-- An option with the spelling that was meant, and the value that is written into the word. -/
  | option (text : Text) (meaning : Meaning) (spelling : Text) (explicit : Option Text)

/-- The word of a token. -/
def Token.text : Token → Text
  | word text => text
  | dashes => "--"
  | unknown text => text
  | option text _ _ _ => text

/-- Whether a token is an option. -/
def Token.isOption : Token → Bool
  | unknown _ => true
  | option _ _ _ _ => true
  | _ => false

/-- The spellings of all options. -/
def spellings (g : Grammar) : List (Text × Meaning) :=
  ("-h", .help) :: ("--help", .help) ::
    g.options.map fun option => (option.spelling, .valued option)

/-- Whether a word is a negative number. -/
def isNegativeNumber : Text → Bool
  | [] => false
  | c :: rest =>
    let digits (t : Text) : Bool := t.all (·.digitValue?.isSome)
    c == CodePoint.ofChar '-' &&
      (match Text.splitFirst? '.' rest with
        | none => !rest.isEmpty && digits rest
        | some (whole, fraction) => digits whole && !fraction.isEmpty && digits fraction)

/-- A word cut at its first equals sign. -/
def cutValue (t : Text) : Text × Option Text :=
  match Text.splitFirst? '=' t with
  | some (spelling, value) => (spelling, some value)
  | none => (t, none)

/-- The options that a word may be short for. A single dash and a letter may have their value
attached. -/
def candidates (g : Grammar) (t : Text) : List Token :=
  if Text.isPrefixOf "--" t then
    let (start, value) := cutValue t
    g.spellings.filterMap fun (spelling, meaning) =>
      if Text.isPrefixOf start spelling then some (.option t meaning spelling value) else none
  else
    g.spellings.filterMap fun (spelling, meaning) =>
      if spelling = t.take 2 then some (.option t meaning spelling (some (t.drop 2)))
      else if Text.isPrefixOf t spelling then some (.option t meaning spelling none)
      else none

/-- A word that begins with a dash and is no option of the program by its full spelling. -/
def classifyDashed (g : Grammar) (t : Text) : Except CommandLineStop Token :=
  match g.candidates t with
  | [token] => .ok token
  | [] =>
    if isNegativeNumber t || t.contains (CodePoint.ofChar ' ') then .ok (.word t)
    else .ok (.unknown t)
  | several =>
    let matching := several.filterMap fun
      | .option _ _ spelling _ => some spelling
      | _ => none
    .error (.usage g.program
      ("ambiguous option: " ++ t ++ " could match " ++ Text.join ", " matching))

/-- What a word is. -/
def classify (g : Grammar) (t : Text) : Except CommandLineStop Token :=
  if t.head? != some (CodePoint.ofChar '-') then .ok (.word t)
  else match g.spellings.lookup t with
    | some meaning => .ok (.option t meaning t none)
    | none =>
      if t.length = 1 then .ok (.word t)
      else
        let (spelling, value) := cutValue t
        match g.spellings.lookup spelling with
        | some meaning => .ok (.option t meaning spelling value)
        | none => g.classifyDashed t

/-- What the words of a command line are. -/
def tokens (g : Grammar) : List Text → Except CommandLineStop (List Token)
  | [] => .ok []
  | t :: rest =>
    if t = "--" then .ok (.dashes :: rest.map .word)
    else do
      let token ← g.classify t
      let others ← tokens g rest
      return token :: others

/-- What was found on a command line. -/
structure Found where
  /-- The positional arguments that are not matched yet. -/
  open_ : List Positional
  /-- The words of the positional arguments matched. -/
  arguments : List (Text × List Text) := []
  /-- The values of options; the last one counts. -/
  values : List (Text × Text) := []
  /-- The words that nothing takes. -/
  extra : List Text := []

/-- How many tokens a positional argument takes, if it can be matched here. -/
def count? : Arity → List Token → Option Nat
  | .one, .word _ :: .dashes :: _ => some 2
  | .one, .word _ :: _ => some 1
  | .one, .dashes :: .word _ :: _ => some 2
  | .one, _ => none
  | .optional, .word _ :: .dashes :: _ => some 2
  | .optional, .word _ :: _ => some 1
  | .optional, .dashes :: .word _ :: _ => some 2
  | .optional, .dashes :: _ => some 1
  | .optional, _ => some 0
  | .command, .word w :: rest => some (Token.word w :: rest).length
  | .command, .dashes :: .word w :: rest => some (Token.dashes :: .word w :: rest).length
  | .command, _ => none

/-- The complaint about a word that is none of the choices. -/
def invalidChoice (name word : Text) (choices : List Text) : Text :=
  "argument " ++ name ++ ": invalid choice: " ++ word.quoted ++ " (choose from "
    ++ Text.join ", " (choices.map (·.quoted)) ++ ")"

/-- Checks a word against the choices for an argument. -/
def checkChoice (g : Grammar) (name word : Text) : Option (List Text) → Except CommandLineStop Unit
  | none => .ok ()
  | some choices =>
    if word ∈ choices then .ok () else .error (.usage g.program (invalidChoice name word choices))

/-- The words of a positional argument; a pair of dashes in front of or behind it is dropped. -/
def wordsOf (arity : Arity) (tokens : List Token) : List Text :=
  let words := tokens.map (·.text)
  match arity with
  | .command => words
  | _ => words.erase "--"

/-- Matches as many positional arguments as possible, and gives the tokens that remain. -/
def matchPositionals (g : Grammar) (found : Found) (tokens : List Token) :
    List Positional → Except CommandLineStop (Found × List Token)
  | [] => .ok ({ found with open_ := [] }, tokens)
  | p :: rest =>
    match count? p.arity tokens with
    | none => .ok ({ found with open_ := p :: rest }, tokens)
    | some n => do
      let words := wordsOf p.arity (tokens.take n)
      if let word :: _ := words then g.checkChoice p.name word p.choices
      matchPositionals g { found with arguments := found.arguments ++ [(p.name, words)] }
        (tokens.drop n) rest

/-- The complaint about a value that an option does not take. -/
def ignoredValue (meaning : Meaning) (value : Text) : Text :=
  "argument " ++ meaning.name ++ ": ignored explicit argument " ++ value.quoted

/-- Reads the letters that are attached to the option for help. -/
def attachedHelp (g : Grammar) : Text → CommandLineStop
  | [] => .help g.program
  | c :: rest =>
    if c = 'h' then attachedHelp g rest
    else .usage g.program (ignoredValue .help (c :: rest))

/-- Reads an option with the tokens behind it, and gives the tokens that remain. -/
def readOption (g : Grammar) (found : Found) (rest : List Token) :
    Token → Except CommandLineStop (Found × List Token)
  | .option _ .help _ none => .error (.help g.program)
  | .option _ .help spelling (some value) =>
    if spelling = "-h" && !value.isEmpty then .error (g.attachedHelp value)
    else .error (.usage g.program (ignoredValue .help value))
  | .option _ (.valued o) _ (some value) => do
    g.checkChoice o.spelling value (some o.choices)
    return ({ found with values := (o.spelling, value) :: found.values }, rest)
  | .option _ (.valued o) _ none =>
    match rest with
    | .word value :: rest => do
      g.checkChoice o.spelling value (some o.choices)
      return ({ found with values := (o.spelling, value) :: found.values }, rest)
    | _ => .error (.usage g.program ("argument " ++ o.spelling ++ ": expected one argument"))
  | token => .ok ({ found with extra := found.extra ++ [token.text] }, rest)

/-- Reads tokens: arguments and options by turns, up to the last option, then the arguments behind
it. The fuel is the number of tokens. -/
def readTokens (g : Grammar) : Nat → Found → List Token → Except CommandLineStop Found
  | 0, found, _ => .ok found
  | fuel + 1, found, tokens =>
    if tokens.any (·.isOption) then do
      let front := tokens.takeWhile (!·.isOption)
      let (found, rest) ←
        if front.isEmpty then .ok (found, tokens) else g.matchPositionals found tokens found.open_
      if rest.length < tokens.length then readTokens g fuel found rest
      else
        match tokens.dropWhile (!·.isOption) with
        | [] => .ok found
        | token :: behind =>
          let found := { found with extra := found.extra ++ front.map (·.text) }
          let (found, rest) ← g.readOption found behind token
          readTokens g fuel found rest
    else do
      let (found, rest) ← g.matchPositionals found tokens found.open_
      return { found with extra := found.extra ++ rest.map (·.text) }

/-- Reads a command line. -/
def read (g : Grammar) (words : List Text) : Except CommandLineStop Found := do
  let tokens ← g.tokens words
  let found ← g.readTokens (tokens.length + 1) { open_ := g.positionals } tokens
  match found.open_.filter (·.arity == .one) with
  | [] => return found
  | missing =>
    throw (.usage g.program
      ("the following arguments are required: " ++ Text.join ", " (missing.map (·.name))))

namespace Found

/-- The words of a positional argument. -/
def wordsOf (found : Found) (name : Text) : List Text := (found.arguments.lookup name).getD []

/-- The single word of a positional argument. -/
def word? (found : Found) (name : Text) : Option Text := (found.wordsOf name).head?

end Found

end Grammar

end BreakageAdvisor
