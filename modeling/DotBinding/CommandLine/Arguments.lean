import DotBinding.CommandLine.Help
import DotBinding.Template

/-!
# Arguments

The arguments of the program: switches, a command, and the switches and paths of the command. A
long switch may be cut short as long as only one switch starts that way, short switches may be run
together, and everything behind `--` is a word.
-/

namespace DotBinding.CommandLine

inductive Switch where
  | help
  | verbose
  | kind
  | format
  deriving DecidableEq

namespace Switch

def takesValue : Switch → Bool
  | help | verbose => false
  | kind | format => true

/-- The switches before the command. -/
def ofProgram : List (List Char × Switch) :=
  [("-h".toList, help), ("--help".toList, help), ("-v".toList, verbose),
    ("--verbose".toList, verbose)]

def ofBind : List (List Char × Switch) :=
  [("-h".toList, help), ("--help".toList, help), ("--kind".toList, kind),
    ("--format".toList, format)]

def ofParse : List (List Char × Switch) :=
  [("-h".toList, help), ("--help".toList, help), ("--kind".toList, kind)]

end Switch

/-- Why no command is run. -/
inductive Stop where
  | help (page : HelpPage)
  | usage
  deriving DecidableEq

/-- A switch found in an argument. The value is what the argument holds behind its name. -/
structure Found where
  switch : Switch
  /-- Whether it has the long form, which cannot be run together with others. -/
  long : Bool
  value? : Option (List Char)
  deriving DecidableEq

def separatorText : String :=
  "--"

/-- What an argument is taken for. -/
inductive Item where
  | word
  | separator
  | switch (found : Found)
  | unknownSwitch
  deriving DecidableEq

namespace Item

/-- The parts of an argument around its first equals sign. -/
def splitAssignment (cs : List Char) : List Char × Option (List Char) :=
  match cs.dropWhile (· != '=') with
  | _ :: value => (cs.takeWhile (· != '='), some value)
  | [] => (cs, none)

/-- A minus sign with a number behind it. -/
def isNegativeNumber : List Char → Bool
  | '-' :: cs =>
    let cs := if cs.getLast? == some '\n' then cs.dropLast else cs
    match cs.dropWhile Text.isDecimalDigit with
    | [] => !cs.isEmpty
    | '.' :: fraction => !fraction.isEmpty && fraction.all Text.isDecimalDigit
    | _ => false
  | _ => false

/-- The switches that an argument other than the name of one may mean. -/
def candidates (switches : List (List Char × Switch)) : List Char → List Found
  | '-' :: '-' :: cs =>
    let (start, value?) := splitAssignment ('-' :: '-' :: cs)
    (switches.filter fun s => start.isPrefixOf s.1).map fun s =>
      ⟨s.2, true, value?⟩
  | '-' :: c :: cs =>
    (switches.filter fun s => s.1 == ['-', c]).map fun s => ⟨s.2, false, some cs⟩
  | _ => []

/-- Takes an argument for a switch or a word. It must not mean several switches. -/
def ofArgument (switches : List (List Char × Switch)) (cs : List Char) : Except Stop Item :=
  match cs with
  | '-' :: c :: _ =>
    match switches.lookup cs with
    | some s => .ok (switch ⟨s, c == '-', none⟩)
    | none =>
      let (name, value?) := splitAssignment cs
      match switches.lookup name, value? with
      | some s, some value => .ok (switch ⟨s, c == '-', some value⟩)
      | _, _ =>
        match candidates switches cs with
        | [found] => .ok (switch found)
        | _ :: _ :: _ => .error .usage
        | [] =>
          if isNegativeNumber cs || cs.contains ' ' then .ok word else .ok unknownSwitch
  | _ => .ok word

/-- What each argument is taken for. Behind the separator there are only words. -/
def ofArguments (switches : List (List Char × Switch)) :
    List String → Except Stop (List (String × Item))
  | [] => .ok []
  | a :: rest =>
    if a = separatorText then .ok ((a, separator) :: rest.map (·, word))
    else do
      let item ← ofArgument switches a.toList
      let items ← ofArguments switches rest
      return (a, item) :: items

end Item

/-- Switches with their values, in order. -/
structure Settings where
  switches : List (Switch × List Char)
  /-- Whether the next argument is the last value. -/
  usedNext : Bool

namespace Settings

/-- A switch and the switches run together behind it, all of which take no value. -/
def ofShort (switches : List (List Char × Switch)) (s : Switch) (more : List Char) :
    Except Stop Settings :=
  match more.mapM fun c => switches.lookup ['-', c] with
  | some others => .ok ⟨(s :: others).map (·, []), false⟩
  | none => .error .usage

/-- The settings of one argument. A value that it lacks is the next argument, which has to be a
word. -/
def ofFound (switches : List (List Char × Switch)) (f : Found) (next : Option (String × Item)) :
    Except Stop Settings :=
  match f.switch.takesValue, f.value? with
  | true, some value => .ok ⟨[(f.switch, value)], false⟩
  | true, none =>
    match next with
    | some (w, .word) => .ok ⟨[(f.switch, w.toList)], true⟩
    | _ => .error .usage
  | false, none => .ok ⟨[(f.switch, [])], false⟩
  | false, some value =>
    if f.long || value.isEmpty then .error .usage else ofShort switches f.switch value

end Settings

/-- A text that was given, or none if it was a separator: that counts as no text. -/
def given (s : String) : Option String :=
  if s = separatorText then none else some s

/-- What has been taken so far: words, settings, and whether something was left over. -/
structure Taken where
  words : List (Option String)
  kind : Option TemplateKind
  format : Option Format
  verbose : Bool
  leftOver : Bool

namespace Taken

def start : Taken :=
  ⟨[], some .dot, some .descriptors, false, false⟩

/-- The choice that a text names, if a text was given. -/
def choice {α : Type} (ofName? : String → Option α) (value : List Char) :
    Except Stop (Option α) :=
  match given (String.ofList value) with
  | none => .ok none
  | some name => (ofName? name).elim (.error .usage) (.ok ∘ some)

/-- Sets a switch. Help is shown at once. -/
def set (page : HelpPage) (t : Taken) : Switch × List Char → Except Stop Taken
  | (.help, _) => .error (.help page)
  | (.verbose, _) => .ok { t with verbose := true }
  | (.kind, value) => (choice TemplateKind.ofName? value).map ({ t with kind := · })
  | (.format, value) => (choice Format.ofName? value).map ({ t with format := · })

def setAll (page : HelpPage) (t : Taken) (s : Settings) : Except Stop Taken :=
  s.switches.foldlM (set page) t

end Taken

/-- What stands right before an argument. -/
inductive Before where
  /-- A word of the command. -/
  | word
  /-- A separator that does not stand behind a word. -/
  | separator
  | other
  deriving DecidableEq

/-- Takes a word. Of the separators around it one counts for nothing. -/
def Taken.word (before : Before) (t : Taken) (w : String) : Taken :=
  { t with words := t.words ++ [if before = .separator then some w else given w] }

/-- Takes the arguments of a command that has `room` words. A separator belongs to the word before
it, or else to the one behind it. -/
def takeAll (page : HelpPage) (switches : List (List Char × Switch)) (room : Nat) (before : Before)
    (t : Taken) : List (String × Item) → Except Stop Taken
  | [] => .ok (if before = .separator then { t with leftOver := true } else t)
  | (w, .word) :: rest =>
    if t.words.length < room then takeAll page switches room .word (t.word before w) rest
    else takeAll page switches room .other { t with leftOver := true } rest
  | (_, .separator) :: rest =>
    takeAll page switches room (if before = .word then .other else .separator) t rest
  | (_, .unknownSwitch) :: rest =>
    takeAll page switches room .other { t with leftOver := true } rest
  | (_, .switch f) :: rest =>
    match Settings.ofFound switches f rest.head? with
    | .error stop => .error stop
    | .ok settings =>
      match t.setAll page settings with
      | .error stop => .error stop
      | .ok t =>
        match settings.usedNext, rest with
        | true, _ :: rest => takeAll page switches room .other t rest
        | _, rest => takeAll page switches room .other t rest

/-- What the program is asked to do. A path or a choice is missing where a separator was given for
it. -/
inductive Command where
  | bind (template values : Option String) (kind : Option TemplateKind) (format : Option Format)
  | parse (template : Option String) (kind : Option TemplateKind)
  deriving DecidableEq

/-- The arguments of `bind`. -/
def Command.bindOf (args : List String) : Except Stop Command := do
  let items ← Item.ofArguments Switch.ofBind args
  let t ← takeAll .bind Switch.ofBind 2 .other .start items
  match t.words with
  | [template, values] =>
    if t.leftOver then .error .usage else return .bind template values t.kind t.format
  | _ => .error .usage

/-- The arguments of `parse`. -/
def Command.parseOf (args : List String) : Except Stop Command := do
  let items ← Item.ofArguments Switch.ofParse args
  let t ← takeAll .parse Switch.ofParse 1 .other .start items
  match t.words with
  | [template] => if t.leftOver then .error .usage else return .parse template t.kind
  | _ => .error .usage

def Command.ofWord (name : String) (args : List String) : Except Stop Command :=
  if name = "bind" then bindOf args
  else if name = "parse" then parseOf args
  else .error .usage

/-- The arguments of the program: whether every step is logged, and the command if there is one. -/
structure Arguments where
  verbose : Bool
  command? : Option Command
  deriving DecidableEq

/-- Takes the switches before the command, and then the command with all that follows. -/
def Arguments.take (t : Taken) : List (String × Item) → Except Stop Arguments
  | [] => if t.leftOver then .error .usage else .ok ⟨t.verbose, none⟩
  | (name, .word) :: rest =>
    match Command.ofWord name (rest.map (·.1)) with
    | .error stop => .error stop
    | .ok command => if t.leftOver then .error .usage else .ok ⟨t.verbose, some command⟩
  | (_, .separator) :: _ => .error .usage
  | (_, .unknownSwitch) :: rest => take { t with leftOver := true } rest
  | (_, .switch f) :: rest =>
    match Settings.ofFound Switch.ofProgram f rest.head? with
    | .error stop => .error stop
    | .ok settings =>
      match t.setAll .main settings with
      | .error stop => .error stop
      | .ok t => take t rest

/-- The arguments of the program. -/
def Arguments.ofList (args : List String) : Except Stop Arguments :=
  (Item.ofArguments Switch.ofProgram args).bind (take .start)

end DotBinding.CommandLine
