import Mathlib.Data.List.Nodup

/-!
# Texts read by a shell

A POSIX shell takes the quotes off a text, cuts it into words and leaves out redirections.
The words up to the first that is no assignment set variables, the others are run.

## Implementation notes

Only a text that is one simple command is read. How far an expansion reaches and what it
comes to depends on the shell and on its variables: both are parameters. A text ends at its
first null character. A here-document needs a second line and is not read.
-/

namespace Library.Shell

def blanks : List Char := [' ', '\t']

def operators : List Char := ['|', '&', ';', '<', '>', '(', ')', '\n']

def quotes : List Char := ['\x5C', '\x27', '\x22']

def expanders : List Char := ['$', '\x60']

/-- A character that stands for itself outside quotes. -/
def Ordinary (c : Char) : Prop :=
  c ∉ blanks ++ operators ++ quotes ++ expanders ++ ['\x00']

instance : DecidablePred Ordinary := fun _ => inferInstanceAs (Decidable (_ ∉ _))

/-! ## Quoting -/

/-- What the characters of a text come to. An opening quote leaves a mark: a pair of quotes
is a word, if an empty one. -/
inductive Symbol
  | blank
  | operator (c : Char)
  | plain (c : Char)
  | quoted (c : Char)
  | mark
  | expansion (text : List Char) (quoted : Bool)
  deriving DecidableEq

/-- Where the reading stands. It is `fresh` where a comment may begin. -/
inductive Mode
  | unquoted (fresh : Bool)
  | escaped (fresh : Bool)
  | single
  | double
  | doubleEscaped
  | comment
  | expansion (left : Nat) (quoted : Bool)

namespace Mode

/-- The mode in which `left` characters of an expansion are still to come. -/
def within : Nat → Bool → Mode
  | 0, false => .unquoted false
  | 0, true => .double
  | left + 1, quoted => .expansion left quoted

/-- A text may end here. -/
def complete : Mode → Bool
  | .unquoted _ | .comment => true
  | _ => false

/-- No quote is open. -/
def Open : Mode → Prop
  | .unquoted _ | .comment | .expansion _ false => True
  | _ => False

theorem open_unquoted (fresh : Bool) : (unquoted fresh).Open := trivial

theorem open_within (left : Nat) : (within left false).Open := by
  cases left <;> trivial

end Mode

section

-- How many of the characters after `$` or a backquote belong to the expansion it opens.
variable (extent : Char → List Char → Option Nat)

def openExpansion (quoted : Bool) (c : Char) (rest : List Char) :
    Option (List Symbol × Mode) :=
  (extent c rest).map fun n => ([.expansion (c :: rest.take n) quoted], .within n quoted)

/-- Read a character. A backslash in double quotes is one only before some characters. -/
def step : Mode → Char → List Char → Option (List Symbol × Mode)
  | .unquoted fresh, c, rest =>
      if c ∈ blanks then some ([.blank], .unquoted true)
      else if c ∈ operators then some ([.operator c], .unquoted true)
      else if c = '\x5C' then some ([], .escaped fresh)
      else if c = '\x27' then some ([.mark], .single)
      else if c = '\x22' then some ([.mark], .double)
      else if c ∈ expanders then openExpansion extent false c rest
      else if c = '#' ∧ fresh then some ([], .comment)
      else some ([.plain c], .unquoted false)
  | .escaped fresh, c, _ =>
      if c = '\n' then some ([], .unquoted fresh) else some ([.quoted c], .unquoted false)
  | .single, c, _ =>
      if c = '\x27' then some ([], .unquoted false) else some ([.quoted c], .single)
  | .double, c, rest =>
      if c = '\x22' then some ([], .unquoted false)
      else if c ∈ expanders then openExpansion extent true c rest
      else if c = '\x5C' ∧ rest.head?.any (· ∈ '\n' :: '\x5C' :: '\x22' :: expanders) then
        some ([], .doubleEscaped)
      else some ([.quoted c], .double)
  | .doubleEscaped, c, _ => some (if c = '\n' then [] else [.quoted c], .double)
  | .comment, c, _ =>
      if c = '\n' then some ([.operator c], .unquoted true) else some ([], .comment)
  | .expansion left quoted, _, _ => some ([], .within left quoted)

def symbols : Mode → List Char → Option (List Symbol)
  | mode, [] => if mode.complete then some [] else none
  | mode, c :: rest =>
      (step extent mode c rest).bind fun (read, next) =>
        (symbols next rest).map (read ++ ·)

end

/-! ## Words and redirections -/

inductive Token
  | blank
  | operator (c : Char)
  | word (symbols : List Symbol)
  deriving DecidableEq

/-- A symbol before tokens begins a token or is the first of the one they begin with. -/
def addSymbol : Symbol → List Token → List Token
  | .blank, more => .blank :: more
  | .operator c, more => .operator c :: more
  | symbol, .word word :: more => .word (symbol :: word) :: more
  | symbol, more => .word [symbol] :: more

def tokens (syms : List Symbol) : List Token := syms.foldr addSymbol []

/-- What is still to come of a redirection. -/
inductive Redirection
  | none
  | began (c : Char)
  | target

/-- The second characters of the operators of a redirection. -/
def Redirection.joins (c : Char) : List Char :=
  if c = '>' then ['>', '&', '|'] else ['>', '&']

def IsRedirecting (c : Char) : Prop := c = '<' ∨ c = '>'

instance : DecidablePred IsRedirecting := fun _ => inferInstanceAs (Decidable (_ ∨ _))

def startsRedirection : List Token → Bool
  | .operator c :: _ => IsRedirecting c
  | _ => false

def isNumber (word : List Symbol) : Bool :=
  word.all fun
    | .plain c => c.isDigit
    | _ => false

/-- The words but for redirections. Digits before a redirection belong to it. -/
def commandWords : Redirection → List Token → Option (List (List Symbol))
  | .none, [] => some []
  | _, [] => none
  | .none, .blank :: rest => commandWords .none rest
  | .none, .operator c :: rest =>
      if IsRedirecting c then commandWords (.began c) rest else none
  | .none, .word word :: rest =>
      if isNumber word ∧ startsRedirection rest then commandWords .none rest
      else (commandWords .none rest).map (word :: ·)
  | .began c, .operator d :: rest =>
      if d ∈ Redirection.joins c then commandWords .target rest else none
  | .target, .operator _ :: _ => none
  | _, .blank :: rest => commandWords .target rest
  | _, .word _ :: rest => commandWords .none rest

/-- The words of a text. -/
def shellWords (extent : Char → List Char → Option Nat) (text : List Char) :
    Option (List (List Symbol)) :=
  (symbols extent (.unquoted true) text).bind fun symbols => commandWords .none (tokens symbols)

/-! ## Assignments -/

def isNameStart (c : Char) : Bool := c.isAlpha || c == '_'

def isNamePart (c : Char) : Bool := c.isAlphanum || c == '_'

def IsName : List Char → Prop
  | [] => False
  | c :: rest => isNameStart c ∧ rest.all isNamePart

instance : DecidablePred IsName
  | [] => inferInstanceAs (Decidable False)
  | _ :: _ => inferInstanceAs (Decidable (_ ∧ _))

/-- The unquoted characters up to the first `=`, and what follows it. -/
def cutEquals : List Symbol → Option (List Char × List Symbol)
  | .plain c :: rest =>
      if c = '=' then some ([], rest)
      else (cutEquals rest).map fun (name, value) => (c :: name, value)
  | _ => none

def asAssignment (word : List Symbol) : Option (List Char × List Symbol) :=
  (cutEquals word).filter fun cut => IsName cut.1

def splitAssignments : List (List Symbol) → List (List Char × List Symbol) × List (List Symbol)
  | [] => ([], [])
  | word :: rest =>
      match asAssignment word with
      | none => ([], word :: rest)
      | some assignment =>
          (assignment :: (splitAssignments rest).1, (splitAssignments rest).2)

def reserved : List (List Char) :=
  ["!", "\x7b", "\x7d", "case", "do", "done", "elif", "else", "esac", "fi", "for", "if", "in",
    "then", "until", "while"].map String.toList

/-! ## Expansion -/

/-- What the expansions of a shell come to: the text of one, the home directory of a login
name, and the fields of a word that is no assignment. -/
structure Results where
  expansion : List Char → List Char
  home : List Char → List Char
  fields : List Symbol → List (List Char)

def Symbol.char? : Symbol → Option Char
  | .plain c | .quoted c => some c
  | _ => none

def content (word : List Symbol) : List Char := word.filterMap Symbol.char?

/-- The login name after a tilde, if none of it is quoted. -/
def login : List Symbol → Option (List Char)
  | [] => some []
  | .plain c :: rest =>
      if c = '/' ∨ c = ':' then some [] else (login rest).map (c :: ·)
  | _ => none

/-- Where the reading of a value stands. A tilde counts at its start and after a colon. -/
inductive ValueMode
  | start
  | inner
  | login

/-- What is assigned. -/
def value (results : Results) : ValueMode → List Symbol → List Char
  | _, [] => []
  | .login, .plain c :: rest =>
      if c = '/' then c :: value results .inner rest
      else if c = ':' then c :: value results .start rest
      else value results .login rest
  | .login, _ :: rest => value results .login rest
  | .start, .plain c :: rest =>
      if c = '~' then
        match login rest with
        | some name => results.home name ++ value results .login rest
        | none => c :: value results .inner rest
      else c :: value results (if c = ':' then .start else .inner) rest
  | .inner, .plain c :: rest =>
      c :: value results (if c = ':' then .start else .inner) rest
  | _, .expansion text _ :: rest => results.expansion text ++ value results .inner rest
  | _, symbol :: rest => symbol.char?.toList ++ value results .inner rest

/-- The word may come to other fields than its content. -/
def expands (word : List Symbol) : Bool :=
  word.head? == some (.plain '~') || word.any fun
    | .plain c => ['*', '?', '['].contains c
    | .expansion _ _ => true
    | _ => false

def fields (results : Results) (word : List Symbol) : List (List Char) :=
  if expands word then results.fields word else [content word]

/-! ## Simple commands -/

structure SimpleCommand where
  assignments : List (List Char × List Char)
  words : List (List Char)

abbrev Environment := List Char → Option (List Char)

/-- What a command sees in an environment. The last assignment of a variable counts. -/
def SimpleCommand.environment (command : SimpleCommand) (base : Environment) : Environment :=
  fun name => (command.assignments.reverse.lookup name).or (base name)

theorem lookup_eq_some_iff_of_nodup {entries : List (List Char × List Char)}
    (hkeys : (entries.map Prod.fst).Nodup) {name text : List Char} :
    entries.lookup name = some text ↔ (name, text) ∈ entries := by
  rw [List.lookup_eq_some_iff]
  constructor
  · rintro ⟨front, back, rfl, -⟩
    simp
  · intro hmem
    obtain ⟨front, back, rfl⟩ := List.append_of_mem hmem
    refine ⟨front, back, rfl, fun entry hentry => ?_⟩
    rw [List.map_append, List.nodup_append] at hkeys
    have hne := hkeys.2.2 entry.1 (List.mem_map_of_mem hentry) name (by simp)
    exact bne_iff_ne.mpr hne.symm

theorem SimpleCommand.mem_of_environment {command : SimpleCommand} {name text : List Char}
    (h : command.environment (fun _ => none) name = some text) :
    (name, text) ∈ command.assignments := by
  rw [environment, Option.or_none, List.lookup_eq_some_iff] at h
  obtain ⟨front, back, hreverse, -⟩ := h
  rw [← List.mem_reverse, hreverse]
  simp

/-- Assignments of different variables are all seen. -/
theorem SimpleCommand.environment_of_nodup {command : SimpleCommand}
    (hkeys : (command.assignments.map Prod.fst).Nodup) {found : Environment}
    (hfound : ∀ name text, found name = some text ↔ (name, text) ∈ command.assignments)
    (base : Environment) :
    command.environment base = fun name => (found name).or (base name) := by
  ext1 name
  have hlookup : command.assignments.reverse.lookup name = found name := by
    ext text
    rw [lookup_eq_some_iff_of_nodup (by rwa [List.map_reverse, List.nodup_reverse]),
      List.mem_reverse, hfound]
  rw [environment, hlookup]

def startsReserved (words : List (List Symbol)) : Bool :=
  words.head?.any fun word => reserved.any fun text => word == text.map Symbol.plain

/-- The simple command that a text is, if it is one. -/
def read (extent : Char → List Char → Option Nat) (results : Results) (text : List Char) :
    Option SimpleCommand :=
  (shellWords extent (text.takeWhile (· ≠ '\x00'))).bind fun words =>
    if startsReserved words then none
    else some {
      assignments := (splitAssignments words).1.map fun assignment =>
        (assignment.1, value results .start assignment.2)
      words := (splitAssignments words).2.flatMap (fields results) }

end Library.Shell
