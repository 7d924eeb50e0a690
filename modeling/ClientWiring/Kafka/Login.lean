import ClientWiring.Kafka.Client
import ClientWiring.Settings.Kafka

/-!
# Login modules

A login module is a class name, a control flag and options.  It is kept whole, so that its classic
one-line form can be written, and it derives the entries by which the client library logs in.  A
derived entry never replaces one that is already there.  An option that names a file is taken only
if the file can be opened, and a failed update changes nothing.
-/

namespace ClientWiring.Kafka

/-- What the outcome of a login module means for the login as a whole. -/
inductive ControlFlag where
  | required
  | requisite
  | sufficient
  | optional
deriving DecidableEq, Repr

namespace ControlFlag

/-- The name of a flag. -/
def name : ControlFlag → String
  | required => "required"
  | requisite => "requisite"
  | sufficient => "sufficient"
  | optional => "optional"

/-- All flags. -/
def all : List ControlFlag := [required, requisite, sufficient, optional]

/-- The flag of a name, whatever the case of its letters. -/
def parse (s : String) : Except IoFault ControlFlag :=
  let s := Text.lower s
  match all.find? (·.name = s) with
  | some flag => .ok flag
  | none => .error (.unknownControlFlag s)

instance : Inspect ControlFlag := ⟨fun
  | required => "Required"
  | requisite => "Requisite"
  | sufficient => "Sufficient"
  | optional => "Optional"⟩

end ControlFlag

/-- A login module with its options. -/
structure Login where
  loginModule : String
  flag : ControlFlag
  options : SortedMap String
deriving DecidableEq

namespace Login

/-- The module that is used when none is named. -/
def defaultModule : String := "com.sun.security.auth.module.Krb5LoginModule"

/-- The option that names a file. -/
def fileOption : String := "keyTab"

/-- Checks that the file which the options name can be opened. -/
def checkFile (fs : FileSystem) (options : SortedMap String) : Except IoFault Unit :=
  match options.get? fileOption with
  | none => .ok ()
  | some path =>
    match fs.openFile path with
    | .ok () => .ok ()
    | .error fault => .error (.cannotOpen fault)

/-- Takes new options in place of the old ones. -/
def setOptions (fs : FileSystem) (l : Login) (options : SortedMap String) : Except IoFault Login :=
  match checkFile fs options with
  | .ok () => .ok { l with options }
  | .error fault => .error fault

/-- Takes new options on the spot: what the login is afterwards, and whether it took them.  The file is
checked before the options are written. -/
def update (fs : FileSystem) (options : SortedMap String) (l : Login) :
    Login × Except IoFault Unit :=
  match checkFile fs options with
  | .error fault => (l, .error fault)
  | .ok () => ({ l with options }, .ok ())

/-- The flag that settings name. -/
def flagOfSettings (s : JaasSettings) : Except IoFault ControlFlag :=
  match s.controlFlag with
  | none => .ok .required
  | some name => ControlFlag.parse name

/-- The login module that settings describe; its flag is checked before its options. -/
def ofSettings (fs : FileSystem) (s : JaasSettings) : Except IoFault Login :=
  match flagOfSettings s with
  | .error fault => .error fault
  | .ok flag => setOptions fs ⟨s.loginModule.getD defaultModule, flag, .empty⟩ s.options

/-! ## The classic form -/

/-- An option with its value between quotes. -/
def quotedOption (option : String × String) : String :=
  " " ++ option.1 ++ "=\"" ++ option.2 ++ "\""

/-- The login module on one line. -/
def classicForm (l : Login) : String :=
  l.loginModule ++ " " ++ l.flag.name ++ String.join (l.options.pairs.map quotedOption) ++ ";"

/-! ## Entries -/

/-- The part of a class name after its last point. -/
def simpleName (name : String) : String :=
  String.ofList (name.toList.reverse.takeWhile (· ≠ '.')).reverse

/-- The families of login modules that have entries. -/
inductive Family where
  | kerberos
  | plain
  | scram
  | bearer
deriving DecidableEq, Repr

/-- The family of a login module. -/
def family? (l : Login) : Option Family :=
  match simpleName l.loginModule with
  | "Krb5LoginModule" => some .kerberos
  | "PlainLoginModule" => some .plain
  | "ScramLoginModule" => some .scram
  | "OAuthBearerLoginModule" => some .bearer
  | _ => none

/-- The entry for the mechanism. -/
def mechanismKey : String := "sasl.mechanism"

/-- The mechanism of a family. -/
def Family.mechanism : Family → String
  | .kerberos => "GSSAPI"
  | .plain => "PLAIN"
  | .scram => "SCRAM-SHA-512"
  | .bearer => "OAUTHBEARER"

/-- All options as names and values with blanks between them. -/
def joinedOptions (options : SortedMap String) : Option String :=
  if options.isEmpty then none
  else some (" ".intercalate (options.pairs.map fun p => p.1 ++ "=" ++ p.2))

/-- The entries of a family that stand for options, where the options are there. -/
def Family.optionEntries (options : SortedMap String) : Family → List (String × Option String)
  | .kerberos =>
    [("sasl.kerberos.keytab", options.get? fileOption),
     ("sasl.kerberos.principal", options.get? "principal"),
     ("sasl.kerberos.service.name", options.get? "serviceName")]
  | .plain | .scram =>
    [("sasl.username", options.get? "username"), ("sasl.password", options.get? "password")]
  | .bearer => [("sasl.oauthbearer.config", joinedOptions options)]

/-- The entries that a login module derives. -/
def entries (l : Login) : List (String × Option String) :=
  match l.family? with
  | none => []
  | some family => (mechanismKey, some family.mechanism) :: family.optionEntries l.options

/-- Sets a derived entry that has a value and is not there yet. -/
def addEntry (c : Client) (entry : String × Option String) : Client :=
  match entry.2 with
  | none => c
  | some value => c.setIfNew entry.1 value

/-- Adds the derived entries to a client. -/
def apply (l : Login) (c : Client) : Client := l.entries.foldl addEntry c

/-! ## Texts for people -/

open Inspect

instance : Inspect Login := ⟨fun l => record "KafkaJaasLoginModuleInitializer"
  [field "login_module" (inspect l.loginModule), field "control_flag" (inspect l.flag),
   field "options" (Redaction.inspectEntries l.options)]⟩

end Login

end ClientWiring.Kafka
