import PolicyHost.Text.Quoted

/-!
# Grammars of command lines

A command line consists of arguments. One that starts with a hyphen is an option: a short one of one
letter, which may stand together with others and with its value, or a long one of several, which may
be shortened and may carry its value behind an equals sign. What is left is the operand. Behind two
hyphens nothing is an option.

* `Grammar`: the options and the operand that a program knows.
* `Grammar.classify`: what a single argument is.
* `Grammar.parse`: what a command line says, in order, up to the problem that ends it.
* `Problem.message`: the wording.
-/

namespace PolicyHost

/-- An option: its label, its names, whether it has a value and whether it has to be there. -/
structure Switch (ι : Type) where
  label : ι
  names : List Text
  hasValue : Bool
  required : Bool

/-- What stands beside the options: one word, which has to be there, or a choice that takes all that
follows as its own. -/
inductive Operand
  | word (name : Text)
  | choice (name : Text) (choices : List Text)

/-- What a program knows. -/
structure Grammar (ι : Type) where
  program : Text
  switches : List (Switch ι)
  operand : Operand

/-- Why a command line cannot be used. -/
inductive Problem
  | ambiguous (given : Text) (names : List Text)
  | valueMissing (name : Text)
  | valueUnused (name given : Text)
  | noChoice (name given : Text) (choices : List Text)
  | missing (names : List Text)
  | unknown (arguments : List Text)
deriving DecidableEq

/-- What a command line says: an option, an option with a value, the word, or the choice with all
that follows. -/
inductive Saying (ι : Type)
  | flag (label : ι)
  | value (label : ι) (given : Text)
  | word (given : Text)
  | choice (given : Text) (rest : List Text)

/-- The text behind the name of an option in the same argument, and whether an equals sign sets it
off. -/
structure Attached where
  text : Text
  marked : Bool

/-- What a single argument is: plain, an option with what is attached to it, or something that looks
like one. -/
inductive Argument (ι : Type)
  | plain (text : Text)
  | switch (text : Text) (switch : Switch ι) (name : Text) (attached : Option Attached)
  | stranger (text : Text)
  | bar

/-- What a command line says, in order, what is left over, and the problem that ends it. -/
structure Parsed (ι : Type) where
  sayings : List (Saying ι)
  extras : List Text
  problem : Option Problem

def bars : Text := "--"

namespace Switch

variable {ι : Type}

def title (s : Switch ι) : Text := Text.joinWith "/" s.names

end Switch

namespace Argument

variable {ι : Type}

def text : Argument ι → Text
  | .plain t | .switch t .. | .stranger t => t
  | .bar => bars

end Argument

namespace Grammar

variable {ι : Type}

/-- The names of all options, each with its option. -/
def names (g : Grammar ι) : List (Text × Switch ι) :=
  g.switches.flatMap fun s => s.names.map fun name => (name, s)

def find? (g : Grammar ι) (name : Text) : Option (Switch ι) :=
  (g.names.find? fun entry => entry.1 = name).map Prod.snd

/-- A text in front of an equals sign, and what stands behind it. -/
def splitMark (t : Text) : Text × Option Text :=
  let before := t.takeWhile fun (c : CodePoint) => c != '='
  match t.drop before.length with
  | _ :: rest => (before, some rest)
  | [] => (before, none)

/-- Decimal digits of any script, at least one. -/
def areDigits (t : Text) : Bool := t ≠ [] && t.all CodePoint.isDecimal

/-- A negative number: digits, or digits around a point with at least one behind it. A line break may
follow. -/
def isNegative (t : Text) : Bool :=
  match t with
  | c :: rest =>
    let body := if rest.getLast? = some '\n' then rest.dropLast else rest
    let whole := body.takeWhile CodePoint.isDecimal
    let tail := body.drop whole.length
    c == '-' && (areDigits body || (tail.head? == some '.' && areDigits tail.tail))
  | [] => false

/-- The options that a long name may be short for. -/
def completions (g : Grammar ι) (beginning : Text) : List (Text × Switch ι) :=
  g.names.filter fun entry => entry.1.startsWith beginning

/-- An argument that starts with a hyphen and is no name of an option: a long name that may be short
for another, a short name with something attached, or neither. -/
def classifyHyphen (g : Grammar ι) (t : Text) : Except Problem (Argument ι) :=
  let (before, behind) := splitMark t
  let attached := behind.map fun text => (⟨text, true⟩ : Attached)
  let found : List (Argument ι) :=
    if t.startsWith bars then
      (g.completions before).map fun entry => .switch t entry.2 entry.1 attached
    else
      (g.find? (t.take 2)).toList.map fun s => .switch t s (t.take 2) (some ⟨t.drop 2, false⟩)
  match found with
  | [one] => .ok one
  | _ :: _ :: _ => .error (.ambiguous t ((g.completions before).map Prod.fst))
  | [] => .ok (if isNegative t || t.contains ' ' then .plain t else .stranger t)

def classify (g : Grammar ι) (t : Text) : Except Problem (Argument ι) :=
  let (before, behind) := splitMark t
  if t.head? ≠ some '-' then .ok (.plain t)
  else
    match g.find? t, behind, g.find? before with
    | some s, _, _ => .ok (.switch t s t none)
    | none, some text, some s => .ok (.switch t s before (some ⟨text, true⟩))
    | _, _, _ => if t.length = 1 then .ok (.plain t) else g.classifyHyphen t

/-- What each argument is. Behind two hyphens all are plain. -/
def classifyAll (g : Grammar ι) : List Text → Except Problem (List (Argument ι))
  | [] => .ok []
  | t :: rest => do
    if t = bars then return .bar :: rest.map .plain
    else return (← g.classify t) :: (← g.classifyAll rest)

/-- What options that stand together say, whether something is left over, and the option that waits
for its value. -/
structure Cluster (ι : Type) where
  sayings : List (Saying ι)
  extras : List Text
  waiting : Option (Switch ι)

/-- An option without anything attached. -/
def bare (s : Switch ι) : Cluster ι :=
  if s.hasValue then ⟨[], [], some s⟩ else ⟨[.flag s.label], [], none⟩

/-- Options that stand together behind one hyphen: one of them, and the letters attached to it. -/
def cluster (g : Grammar ι) (s : Switch ι) (short marked : Bool) :
    Text → Except Problem (Cluster ι)
  | [] => if s.hasValue then .ok ⟨[.value s.label []], [], none⟩ else .error (.valueUnused s.title [])
  | c :: rest =>
    if s.hasValue then .ok ⟨[.value s.label (c :: rest)], [], none⟩
    else if !short || marked || c == '-' then .error (.valueUnused s.title (c :: rest))
    else
      match g.find? ['-', c], rest with
      | none, _ => .ok ⟨[.flag s.label], ['-' :: c :: rest], none⟩
      | some next, [] => .ok { bare next with sayings := .flag s.label :: (bare next).sayings }
      | some next, d :: more => do
        let inner ← if d = '=' then g.cluster next true true more
          else g.cluster next true false (d :: more)
        return { inner with sayings := .flag s.label :: inner.sayings }

/-- What the argument of an option says. -/
def expand (g : Grammar ι) (s : Switch ι) (name : Text) :
    Option Attached → Except Problem (Cluster ι)
  | none => .ok (bare s)
  | some attached => g.cluster s (!name.startsWith bars) attached.marked attached.text

end Grammar

namespace Parsed

variable {ι : Type}

/-- Adds what comes first. -/
def after (p : Parsed ι) (sayings : List (Saying ι)) (extras : List Text) : Parsed ι :=
  { p with sayings := sayings ++ p.sayings, extras := extras ++ p.extras }

def stuck (problem : Problem) : Parsed ι := ⟨[], [], some problem⟩

def hasWord (p : Parsed ι) : Bool :=
  p.sayings.any fun
    | .word _ => true
    | _ => false

/-- An option has been said. -/
def hasSwitch [DecidableEq ι] (p : Parsed ι) (label : ι) : Bool :=
  p.sayings.any fun
    | .flag other | .value other _ => other = label
    | _ => false

end Parsed

namespace Grammar

variable {ι : Type}

/-- Reads arguments in order. The operand is still to come as long as `waits` holds. A word may have
two hyphens on either side; a choice takes all that follows. -/
def parseFrom (g : Grammar ι) (waits : Bool) : List (Argument ι) → Parsed ι
  | [] => ⟨[], [], none⟩
  | .stranger t :: rest => (g.parseFrom waits rest).after [] [t]
  | .switch _ s name attached :: rest =>
    match g.expand s name attached with
    | .error problem => .stuck problem
    | .ok found =>
      match found.waiting with
      | none => (g.parseFrom waits rest).after found.sayings found.extras
      | some last =>
        match rest with
        | .plain given :: more =>
          (g.parseFrom waits more).after (found.sayings ++ [.value last.label given]) found.extras
        | _ => .stuck (.valueMissing last.title)
  | .plain t :: rest =>
    match waits, g.operand with
    | true, .word _ =>
      match rest with
      | .bar :: more => (g.parseFrom false more).after [.word t] []
      | others => (g.parseFrom false others).after [.word t] []
    | true, .choice name choices =>
      if choices.contains t then ⟨[.choice t (rest.map Argument.text)], [], none⟩
      else .stuck (.noChoice name t choices)
    | false, _ => (g.parseFrom false rest).after [] [t]
  | .bar :: rest =>
    match waits, g.operand, rest with
    | true, .word _, first :: more => (g.parseFrom false more).after [.word first.text] []
    | true, .choice name choices, _ :: _ => .stuck (.noChoice name bars choices)
    | _, _, others => ⟨[], bars :: others.map Argument.text, none⟩

/-- What has to be said and is not. -/
def missing [DecidableEq ι] (g : Grammar ι) (p : Parsed ι) : List Text :=
  let word := match g.operand with
    | .word name => if p.hasWord then [] else [name]
    | .choice .. => []
  let options := g.switches.filter fun s => s.required && !p.hasSwitch s.label
  word ++ options.map Switch.title

/-- What a command line says, in order, up to the problem that ends it. -/
def parse [DecidableEq ι] (g : Grammar ι) (arguments : List Text) : Parsed ι :=
  match g.classifyAll arguments with
  | .error problem => .stuck problem
  | .ok classified =>
    let p := g.parseFrom true classified
    match p.problem, g.missing p with
    | none, name :: names => { p with problem := some (.missing (name :: names)) }
    | _, _ => p

end Grammar

/-- A problem with one argument, which its wording names. -/
def Problem.ofArgument (name message : Text) : Text := "argument " ++ name ++ ": " ++ message

def Problem.message : Problem → Text
  | .ambiguous given names =>
    "ambiguous option: " ++ given ++ " could match " ++ Text.joinWith ", " names
  | .valueMissing name => ofArgument name "expected one argument"
  | .valueUnused name given => ofArgument name ("ignored explicit argument " ++ given.quoted)
  | .noChoice name given choices =>
    ofArgument name ("invalid choice: " ++ given.quoted ++ " (choose from "
      ++ Text.joinWith ", " (choices.map Text.quoted) ++ ")")
  | .missing names => "the following arguments are required: " ++ Text.joinWith ", " names
  | .unknown arguments => "unrecognized arguments: " ++ Text.joinWith " " arguments

end PolicyHost
