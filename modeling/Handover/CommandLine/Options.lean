import Handover.Text.Cut
import Handover.Text.Numeral
import Handover.Text.Quoted

/-! Command lines. A grammar has flags, which may be shortened as long as they stay unambiguous, and
at most one positional argument. Flags and positional arguments may come in any order; after a lone
`--` there are no more flags. A separator is never a value: joined to a flag, as in `--name=--`, it
leaves the flag without one, as in the recorded runs; a later parser than the one followed keeps it as the
value. Words that nothing accounts for are left over. -/

set_option autoImplicit false

namespace Handover.CommandLine

inductive Stop where
  | help
  | failed (program message : String)
  deriving DecidableEq, Repr

inductive FlagAction (σ : Type) where
  | help
  /-- Takes one value, or says why it does not. The value is absent when a lone separator was
  joined to the flag. -/
  | value (store : Option String → σ → Except String σ)

structure Flag (σ : Type) where
  names : List String
  action : FlagAction σ

structure Positional (σ : Type) where
  name : String
  /-- Whether it takes all further words, flags included. -/
  greedy : Bool
  /-- Stores the words and tells those left over. -/
  take : List String → σ → Except Stop (σ × List String)

structure Grammar (σ : Type) where
  program : String
  flags : List (Flag σ)
  positional : Option (Positional σ)

inductive Word (σ : Type) where
  | plain (text : String)
  | separator
  | flag (text name : String) (flag : Flag σ) (joined : Option String)
  | unknownFlag (text : String)

def Word.text {σ : Type} : Word σ → String
  | plain text | flag text _ _ _ | unknownFlag text => text
  | separator => "--"

def Word.isSeparator {σ : Type} : Word σ → Bool
  | separator => true
  | _ => false

def showText (s : String) : String := String.ofList (Text.quoted s.toList)

def quotedList (choices : List String) : String := ", ".intercalate (choices.map showText)

def invalidChoice (text : String) (choices : List String) : String :=
  "invalid choice: " ++ showText text ++ " (choose from " ++ quotedList choices ++ ")"

def ignoredValue (text : String) : String := "ignored explicit argument " ++ showText text

def about (label message : String) : String := "argument " ++ label ++ ": " ++ message

def Flag.label {σ : Type} (f : Flag σ) : String := "/".intercalate f.names

/-- A minus and digits with at most one point before some of them: such a word is no flag. -/
def isNegativeNumber (text : List Char) : Bool :=
  let digits (s : List Char) : Bool := !s.isEmpty && s.all fun c => (Text.decimal? c).isSome
  match text with
  | '-' :: rest =>
      let rest := if rest.getLast? = some '\n' then rest.dropLast else rest
      digits rest ||
        ((Text.before '.' rest).all (fun c => (Text.decimal? c).isSome) && '.' ∈ rest &&
          digits (Text.after '.' rest))
  | _ => false

namespace Grammar

variable {σ : Type}

def names (g : Grammar σ) : List (String × Flag σ) :=
  g.flags.flatMap fun flag => flag.names.map fun name => (name, flag)

def find? (g : Grammar σ) (name : String) : Option (Flag σ) := g.names.lookup name

/-- The flags that a word may be short for. A long flag is shortened from its end and may have a
value after an equals sign; a word with one dash may be a one-letter flag with its value. -/
def candidates (g : Grammar σ) (word : List Char) : List (String × Flag σ × Option String) :=
  if word.take 2 = ['-', '-'] then
    let start := Text.before '=' word
    let joined := if '=' ∈ word then some (String.ofList (Text.after '=' word)) else none
    (g.names.filter fun (name, _) => start.isPrefixOf name.toList).map fun (name, flag) =>
      (name, flag, joined)
  else
    g.names.filterMap fun (name, flag) =>
      if name.toList = word.take 2 then some (name, flag, some (String.ofList (word.drop 2)))
      else if word.isPrefixOf name.toList then some (name, flag, none)
      else none

def ambiguous (word : String) (found : List String) : String :=
  "ambiguous option: " ++ word ++ " could match " ++ ", ".intercalate found

def classify (g : Grammar σ) (text : String) : Except Stop (Word σ) :=
  let word := text.toList
  if word.head? ≠ some '-' then .ok (.plain text)
  else match g.find? text with
    | some flag => .ok (.flag text text flag none)
    | none =>
        if word.length = 1 then .ok (.plain text)
        else
          let name := String.ofList (Text.before '=' word)
          match if '=' ∈ word then g.find? name else none with
          | some flag => .ok (.flag text name flag (some (String.ofList (Text.after '=' word))))
          | none =>
              match g.candidates word with
              | [(name, flag, joined)] => .ok (.flag text name flag joined)
              | [] =>
                  if isNegativeNumber word || ' ' ∈ word then .ok (.plain text)
                  else .ok (.unknownFlag text)
              | found => .error (.failed g.program (ambiguous text (found.map (·.1))))

/-- All words; behind the separator there are no flags. -/
def classifyAll (g : Grammar σ) : List String → Except Stop (List (Word σ))
  | [] => .ok []
  | text :: rest =>
      if text = "--" then .ok (.separator :: rest.map .plain)
      else
        match g.classify text with
        | .error stop => .error stop
        | .ok word => (classifyAll g rest).map (word :: ·)

def fail {α : Type} (g : Grammar σ) (message : String) : Except Stop α :=
  .error (.failed g.program message)

/-- A value joined to the flag for help: further letters of that flag count as the flag again. -/
def helpWith (g : Grammar σ) (name : String) (flag : Flag σ) (joined : String) : Stop :=
  let left := if name.length = 2 then joined.toList.dropWhile (· == 'h') else joined.toList
  if left.isEmpty && !joined.isEmpty then .help
  else .failed g.program (about flag.label (ignoredValue (String.ofList left)))

/-- The value that a flag is given by a text. -/
def value? (text : String) : Option String := if text = "--" then none else some text

def store (g : Grammar σ) (flag : Flag σ) (f : Option String → σ → Except String σ)
    (text : String) (s : σ) : Except Stop σ :=
  match f (value? text) s with
  | .ok stored => .ok stored
  | .error message => g.fail (about flag.label message)

/-- The words of a single positional argument: the first plain one, with separators around it. -/
def single? (words : List (Word σ)) : Option (List String × List (Word σ)) :=
  let before := words.takeWhile (·.isSeparator)
  match words.dropWhile (·.isSeparator) with
  | .plain text :: rest =>
      some (before.map Word.text ++ text :: (rest.takeWhile (·.isSeparator)).map Word.text,
        rest.dropWhile (·.isSeparator))
  | _ => none

theorem length_single? {words rest : List (Word σ)} {taken : List String}
    (found : single? words = some (taken, rest)) : rest.length < words.length := by
  have shrink (ws : List (Word σ)) : (ws.dropWhile (·.isSeparator)).length ≤ ws.length :=
    (List.dropWhile_suffix _).length_le
  unfold single? at found
  split at found
  · next text tail kept =>
    simp only [Option.some.injEq, Prod.mk.injEq] at found
    have := shrink words
    rw [kept] at this
    have := shrink tail
    simp only [List.length_cons] at *
    rw [← found.2]; omega
  · cases found

/-- Goes through the words, with the positional argument that is still to come, what is stored so
far and what is left over so far. -/
def consume (g : Grammar σ) (words : List (Word σ)) (due : Option (Positional σ)) (s : σ)
    (left : List String) : Except Stop (σ × List String) :=
  match words with
  | [] =>
      match due with
      | some positional =>
          g.fail ("the following arguments are required: " ++ positional.name)
      | none => .ok (s, left)
  | .unknownFlag text :: rest => consume g rest due s (left ++ [text])
  | .flag _ name flag joined :: rest =>
      match flag.action, joined with
      | .help, none => .error .help
      | .help, some text => .error (g.helpWith name flag text)
      | .value f, some text =>
          match g.store flag f text s with
          | .ok stored => consume g rest due stored left
          | .error stop => .error stop
      | .value f, none =>
          match rest with
          | .plain text :: rest =>
              match g.store flag f text s with
              | .ok stored => consume g rest due stored left
              | .error stop => .error stop
          | _ => g.fail (about flag.label "expected one argument")
  | word :: rest =>
      match due with
      | none => consume g rest none s (left ++ [word.text])
      | some positional =>
          if positional.greedy then
            match (word :: rest).find? (fun w => !w.isSeparator) with
            | none => consume g rest due s (left ++ [word.text])
            | some _ =>
                match positional.take ((word :: rest).map Word.text) s with
                | .ok (stored, others) => .ok (stored, left ++ others)
                | .error stop => .error stop
          else
            match found : single? (word :: rest) with
            | none => consume g rest due s (left ++ [word.text])
            | some (texts, others) =>
                have : others.length ≤ rest.length := Nat.le_of_lt_succ (length_single? found)
                match positional.take (texts.erase "--") s with
                | .ok (stored, unused) => consume g others none stored (left ++ unused)
                | .error stop => .error stop
termination_by words.length

/-- What is stored in the end, and the words left over. -/
def parseKnown (g : Grammar σ) (arguments : List String) (s : σ) :
    Except Stop (σ × List String) :=
  match g.classifyAll arguments with
  | .error stop => .error stop
  | .ok words => g.consume words g.positional s []

def parse (g : Grammar σ) (arguments : List String) (s : σ) : Except Stop σ :=
  match g.parseKnown arguments s with
  | .error stop => .error stop
  | .ok (stored, []) => .ok stored
  | .ok (_, left) => g.fail ("unrecognized arguments: " ++ " ".intercalate left)

end Grammar

end Handover.CommandLine
