import LintBench.Host.Octets

/-!
# Commands of the shell

What scripts are made of. A word is a row of fragments, which say what is put in
their place; a command is made of words, of changes to where its descriptors lead,
and of other commands.
-/

namespace LintBench.Host.Shell

/-- The family of a shell. -/
inductive Dialect where
  /-- It knows what all shells know. -/
  | plain
  /-- It knows more. -/
  | extended
deriving DecidableEq, Repr, Inhabited

mutual

/-- A part of a word. -/
inductive Fragment where
  /-- Characters as they are. -/
  | text (quoted : Bool) (text : Octets)
  /-- What a name stands for. -/
  | variable (quoted : Bool) (name : String) (use : VariableUse)
  /-- What a script writes. -/
  | output (quoted : Bool) (script : Command)
  /-- The value of an expression. -/
  | number (quoted : Bool) (expression : List Fragment)

/-- What is made of the value of a variable. An empty value may count as none. -/
inductive VariableUse where
  /-- The value itself. -/
  | value
  /-- Its length. -/
  | length
  /-- The value, or a word if there is none. -/
  | orElse (ifEmpty : Bool) (other : List Fragment)
  /-- The value, or a word that becomes the value if there is none. -/
  | orSet (ifEmpty : Bool) (other : List Fragment)
  /-- The value; the shell ends if there is none, and tells a word. -/
  | orFail (ifEmpty : Bool) (why : List Fragment)
  /-- A word, if there is a value. -/
  | instead (ifEmpty : Bool) (other : List Fragment)
  /-- The value without the longest or shortest end or start that a pattern stands for. -/
  | without (atEnd longest : Bool) (pattern : List Fragment)
  /-- The value with something in place of the first part, or of all parts, that a pattern stands
  for. -/
  | replaced (everywhere : Bool) (pattern replacement : List Fragment)
  /-- The value in capital letters. -/
  | capital

/-- A change to where a descriptor leads. -/
inductive Redirection where
  /-- It leads to a file that is read. -/
  | read (descriptor : Nat) (file : List Fragment)
  /-- It leads to a file that is written, anew or at its end. -/
  | write (descriptor : Nat) (appends : Bool) (file : List Fragment)
  /-- It leads where another one leads. -/
  | copy (descriptor : Nat) (other : List Fragment)
  /-- It leads to a text that the script supplies, by the number of the text. -/
  | supply (descriptor document : Nat)

/-- A command. -/
inductive Command where
  /-- Nothing. -/
  | nothing
  /-- Settings of variables and words, from a line of the script. -/
  | simple (line : Nat) (settings : List (String × List Fragment)) (words : List (List Fragment))
      (changes : List Redirection)
  /-- A command with descriptors of its own. -/
  | redirected (command : Command) (changes : List Redirection)
  /-- Commands each of which reads what the one before it writes. -/
  | pipe (commands : List Command)
  /-- The second command if the first one goes well. -/
  | andThen (first second : Command)
  /-- The second command if the first one fails. -/
  | orElse (first second : Command)
  /-- One command after the other. -/
  | sequence (first second : Command)
  /-- A command beside the script. -/
  | beside (command : Command)
  /-- A command whose failure counts as success. -/
  | negated (command : Command)
  /-- A command in a shell of its own. -/
  | nested (command : Command)
  /-- One of two commands, by how a condition ends. -/
  | choose (condition yes no : Command)
  /-- A command again and again, as long as a condition goes well or fails. -/
  | repeated (failing : Bool) (condition body : Command)
  /-- A command for each of some words. -/
  | each (name : String) (words : List (List Fragment)) (body : Command)
  /-- The first command that has a pattern which stands for a word. -/
  | select (subject : List Fragment) (branches : List (List (List Fragment) × Command))
  /-- A name for a command. -/
  | define (name : String) (body : Command)
  /-- Whether a pattern stands for a word, or does not. -/
  | holds (subject : List Fragment) (differs : Bool) (pattern : List Fragment)

end

instance : Inhabited Command := ⟨.nothing⟩

/-- A row of fragments. -/
abbrev Word := List Fragment

/-- The characters of a word as they are written, with what stands for nothing else. -/
def plainText (word : Word) : Octets :=
  word.flatMap fun
    | .text _ text => text
    | _ => []

/-- Whether a name can start with a character. -/
def isNameStart (c : Char) : Bool := c.isAlpha || c = '_'

/-- Whether a character can stand in a name. -/
def isNameChar (c : Char) : Bool := c.isAlphanum || c = '_'

end LintBench.Host.Shell
