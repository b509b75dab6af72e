import LintBench.CommandLine.Request

/-!
# Reading arguments

An option has a long name or is a letter; letters can be written together, and a
value can be written with its option or after it. Two hyphens end the options.
-/

namespace LintBench.Host

open CommandLine (Arguments Options UsageFault)

/-- What one argument says: some options, and an option whose value is the next argument. -/
structure Reading (ι : Type) where
  /-- The options that are complete. -/
  complete : List (ι × String) := []
  /-- The option that waits for its value. -/
  waiting : Option ι := none

namespace Reading

variable {ι : Type}

/-- Whether an argument is written as an option. -/
def isOption (argument : String) : Bool := argument.startsWith "-" && argument ≠ "-"

/-- Read letters that are written together. -/
def ofLetters (known : Options ι) : List Char → Except UsageFault (Reading ι)
  | [] => .ok {}
  | letter :: rest =>
    match known.short.lookup letter with
    | none => .error .unknownOption
    | some option =>
      if known.takesValue option then
        .ok (if rest.isEmpty then { waiting := some option }
          else { complete := [(option, String.ofList rest)] })
      else do
        let reading ← ofLetters known rest
        return { reading with complete := (option, "") :: reading.complete }

/-- Read an argument that is an option: a long name first of all, and letters if it is none. -/
def ofOption (known : Options ι) (argument : String) : Except UsageFault (Reading ι) :=
  let chars := argument.toList
  let name := String.ofList (chars.takeWhile (· ≠ '='))
  let value := match chars.dropWhile (· ≠ '=') with
    | _ :: value => some (String.ofList value)
    | [] => none
  match known.long.lookup name with
  | some option =>
    match known.takesValue option, value with
    | true, some value => .ok { complete := [(option, value)] }
    | true, none => .ok { waiting := some option }
    | false, some _ => .error .takesNoValue
    | false, none => .ok { complete := [(option, "")] }
  | none =>
    if argument.startsWith "--" then .error .unknownOption
    else ofLetters known (chars.drop 1)

end Reading

variable {ι : Type}

/-- Put options in front of arguments. -/
def withOptions (complete : List (ι × String)) (arguments : Arguments ι) : Arguments ι :=
  { arguments with options := complete ++ arguments.options }

/-- Read arguments. -/
def readOptions (known : Options ι) (mixed : Bool) :
    List String → Except UsageFault (Arguments ι)
  | [] => .ok {}
  | argument :: rest =>
    if argument = "--" then .ok { others := rest }
    else if Reading.isOption argument then
      match Reading.ofOption known argument with
      | .error fault => .error fault
      | .ok ⟨complete, none⟩ => (readOptions known mixed rest).map (withOptions complete)
      | .ok ⟨complete, some option⟩ =>
        match rest with
        | [] => .error .lacksValue
        | value :: rest =>
          (readOptions known mixed rest).map (withOptions (complete ++ [(option, value)]))
    else if mixed then
      (readOptions known mixed rest).map fun arguments =>
        { arguments with others := argument :: arguments.others }
    else .ok { others := argument :: rest }

end LintBench.Host
