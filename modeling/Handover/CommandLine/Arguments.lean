import Handover.CommandLine.Options
import Handover.Decimal.Typed
import Handover.Settings

/-! The command line of the program: `listen` and `connect BUNDLE`, with the same flags. A flag that
has a default may still end up without a value; what becomes of that is for the run to tell. -/

set_option autoImplicit false

namespace Handover.CommandLine

inductive Task where
  | listen
  | connect (bundle : String)
  deriving DecidableEq, Repr

structure Arguments where
  task : Task
  logLevel : Option String
  /-- The file to send once connected. -/
  send : Option String
  /-- The file to write a received message to, when one was asked for. -/
  out : Option (Option String)
  port : Option Int
  bindHost : Option String
  /-- The host to put into the bundle, when one was asked for. -/
  advertiseHost : Option (Option String)
  readTimeout : Option Timeout
  frameTimeout : Option Timeout
  /-- How long to wait for each event. -/
  wait : Option Timeout
  deriving DecidableEq, Repr

namespace Arguments

def default : Arguments where
  task := .listen
  logLevel := some "WARNING"
  send := none
  out := none
  port := some Settings.defaultPort
  bindHost := some Settings.default.bindHost
  advertiseHost := none
  readTimeout := some Settings.defaultReadTimeout
  frameTimeout := some Settings.defaultFrameTimeout
  wait := some (Binary64.ofInt 300)

/-- The settings of the session. An absent value leaves the usual one. -/
def settings (a : Arguments) : Settings :=
  { Settings.default with
    port := a.port.getD Settings.default.port
    bindHost := a.bindHost.getD Settings.default.bindHost
    advertiseHost := a.advertiseHost.join
    readTimeout := a.readTimeout.getD Settings.defaultReadTimeout
    frameTimeout := a.frameTimeout.getD Settings.defaultFrameTimeout }

/-- Whether the session has its timeouts; without one of them it cannot be opened. -/
def isTimed (a : Arguments) : Bool := a.readTimeout.isSome && a.frameTimeout.isSome

/-- How long the end of the session is waited for. -/
def patience (a : Arguments) : Timeout := a.settings.frameTimeout.add a.settings.readTimeout

end Arguments

def program : String := "keytransfer"

def logLevels : List String := ["DEBUG", "INFO", "WARNING", "ERROR"]

def textFlag (name : String) (set : Option String → Arguments → Arguments) : Flag Arguments :=
  ⟨[name], .value fun text a => .ok (set text a)⟩

/-- A flag whose value is read from its text; an absent value needs no reading. -/
def readFlag {α : Type} (name kind : String) (read? : List Char → Option α)
    (set : Option α → Arguments → Arguments) : Flag Arguments :=
  ⟨[name], .value fun
    | none, a => .ok (set none a)
    | some text, a => match read? text.toList with
      | some found => .ok (set (some found) a)
      | none => .error ("invalid " ++ kind ++ " value: " ++ showText text)⟩

def wholeFlag (name : String) (set : Option Int → Arguments → Arguments) : Flag Arguments :=
  readFlag name "int" Text.readInt? set

def timeoutFlag (name : String) (set : Option Timeout → Arguments → Arguments) : Flag Arguments :=
  readFlag name "float" Binary64.read? set

def choiceFlag (name : String) (choices : List String)
    (set : Option String → Arguments → Arguments) : Flag Arguments :=
  ⟨[name], .value fun
    | none, a => .ok (set none a)
    | some text, a =>
        if text ∈ choices then .ok (set (some text) a) else .error (invalidChoice text choices)⟩

def helpFlag : Flag Arguments := ⟨["-h", "--help"], .help⟩

def taskFlags : List (Flag Arguments) :=
  [helpFlag,
    textFlag "--send" fun text a => { a with send := text },
    textFlag "--out" fun text a => { a with out := some text },
    wholeFlag "--port" fun n a => { a with port := n },
    textFlag "--bind-host" fun text a => { a with bindHost := text },
    textFlag "--advertise-host" fun text a => { a with advertiseHost := some text },
    timeoutFlag "--read-timeout" fun timeout a => { a with readTimeout := timeout },
    timeoutFlag "--frame-timeout" fun timeout a => { a with frameTimeout := timeout },
    timeoutFlag "--wait" fun timeout a => { a with wait := timeout }]

def listenGrammar : Grammar Arguments := ⟨program ++ " listen", taskFlags, none⟩

def bundleArgument : Positional Arguments where
  name := "bundle"
  greedy := false
  take texts a := .ok ({ a with task := .connect (texts.headD "") }, [])

def connectGrammar : Grammar Arguments := ⟨program ++ " connect", taskFlags, some bundleArgument⟩

def tasks : List String := ["listen", "connect"]

/-- The first word names the task; the words after it are the task's own. -/
def taskArgument : Positional Arguments where
  name := "cmd"
  greedy := true
  take texts a := match texts with
    | "listen" :: rest => listenGrammar.parseKnown rest { a with task := .listen }
    | "connect" :: rest => connectGrammar.parseKnown rest a
    | other => .error (.failed program (about "cmd" (invalidChoice (other.headD "") tasks)))

def grammar : Grammar Arguments where
  program := program
  flags := [helpFlag, choiceFlag "--log-level" logLevels fun text a => { a with logLevel := text }]
  positional := some taskArgument

def Arguments.parse (arguments : List String) : Except Stop Arguments :=
  grammar.parse arguments .default

end Handover.CommandLine
