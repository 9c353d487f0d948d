import Passbook.Binary64.Reading
import Passbook.Policy

/-!
Settings of a ledger, read from named texts such as an environment. A missing one has its default; the
first one that cannot be read, in the order of the settings, decides the fault.
-/

set_option autoImplicit false
set_option relaxedAutoImplicit false

namespace Passbook

/-- All that can be set. What operations consult is a value of any kind, since it can be set anew; they
decide what they accept. -/
structure Settings where
  applicationName : String := "Ledger Core"
  applicationVersion : String := "0.1.0"
  debug : Bool := false
  logLevel : String := "INFO"
  host : String := "0.0.0.0"
  port : Int := 8000
  databaseUrl : String := "sqlite:///./ledger.db"
  databaseBusyTimeout : Binary64 := Binary64.ofInt 5
  depositCeiling : Value := .decimal (.ofInt 500000)
  withdrawalCeiling : Value := .decimal (.ofInt 50000)
  transferCeiling : Value := .decimal (.ofInt 100000)
  interestCeiling : Value := .decimal (.ofInt 500000)
  lockTimeout : Value := .binary (Binary64.ofInt 5)
  maxAttempts : Value := .integer 3
  retryBackoff : Value := .binary (Binary64.ofDecimal false 5 (-2))
  historyLimit : Value := .integer 50
  environment : String := "development"
deriving Repr

/-- Why a setting cannot be read. -/
inductive SettingFault where
  | noWholeNumber (text : String)
  /-- The whole number is written with too many digits. -/
  | tooManyDigits (count : Nat)
  | noNumber (text : String)
  | noDecimal
deriving DecidableEq, Repr

/-- The fault in words, where there are any. -/
def SettingFault.message? : SettingFault → Option String
  | .noWholeNumber text =>
    some ("invalid literal for int() with base 10: " ++ Text.quotedStart text)
  | .tooManyDigits count =>
    some ("Exceeds the limit (4300 digits) for integer string conversion: value has " ++
      toString count ++ " digits; use sys.set_int_max_str_digits() to increase the limit")
  | .noNumber text => some ("could not convert string to float: " ++ Text.quoted text)
  | .noDecimal => none

namespace Settings

/-- The whole number of a setting. Too many digits at its start are a fault of their own, whatever
follows them. -/
def readInt (text : String) : Except SettingFault Int :=
  let count := Text.leadingDigits text
  if Value.maxWrittenDigits < count then .error (.tooManyDigits count)
  else match Text.wholeNumber? text with
    | some number => .ok number
    | none => .error (.noWholeNumber text)

/-- The binary number of a setting. -/
def readBinary (text : String) : Except SettingFault Binary64 :=
  match Binary64.ofText? text with
  | none => .error (.noNumber text)
  | some number => .ok number

/-- The decimal of a setting. -/
def readDecimal (text : String) : Except SettingFault Value :=
  match Decimal.ofText? text with
  | none => .error .noDecimal
  | some number => .ok (.decimal number)

/-- A setting that counts something. -/
def readCount (text : String) : Except SettingFault Value := (readInt text).map .integer

/-- A setting that is a length of time. -/
def readSeconds (text : String) : Except SettingFault Value := (readBinary text).map .binary

/-- The settings among named texts. -/
def ofTexts (named : String → Option String) : Except SettingFault Settings := do
  let standard : Settings := {}
  let read {Kind : Type} (name : String) (reader : String → Except SettingFault Kind)
      (usual : Kind) : Except SettingFault Kind :=
    match named name with
    | some text => reader text
    | none => .ok usual
  let port ← read "PORT" readInt standard.port
  let databaseBusyTimeout ←
    read "DB_BUSY_TIMEOUT_SECONDS" readBinary standard.databaseBusyTimeout
  let depositCeiling ← read "DEPOSIT_CEILING" readDecimal standard.depositCeiling
  let withdrawalCeiling ← read "WITHDRAWAL_CEILING" readDecimal standard.withdrawalCeiling
  let transferCeiling ← read "TRANSFER_CEILING" readDecimal standard.transferCeiling
  let interestCeiling ← read "INTEREST_CEILING" readDecimal standard.interestCeiling
  let lockTimeout ← read "LOCK_TIMEOUT_SECONDS" readSeconds standard.lockTimeout
  let maxAttempts ← read "MAX_ATTEMPTS" readCount standard.maxAttempts
  let retryBackoff ← read "RETRY_BACKOFF_SECONDS" readSeconds standard.retryBackoff
  let historyLimit ← read "HISTORY_LIMIT" readCount standard.historyLimit
  return { standard with
    debug := ((named "DEBUG").map fun text ↦ text.map Char.toLower == "true").getD standard.debug
    logLevel := (named "LOG_LEVEL").getD standard.logLevel
    host := (named "HOST").getD standard.host
    port
    databaseUrl := (named "DATABASE_URL").getD standard.databaseUrl
    databaseBusyTimeout
    depositCeiling
    withdrawalCeiling
    transferCeiling
    interestCeiling
    lockTimeout
    maxAttempts
    retryBackoff
    historyLimit
    environment := (named "ENVIRONMENT").getD standard.environment }

/-- The settings by name, each as a value. -/
def entries (settings : Settings) : List (String × Value) := [
  ("APP_NAME", .text settings.applicationName),
  ("APP_VERSION", .text settings.applicationVersion),
  ("DEBUG", .truth settings.debug),
  ("LOG_LEVEL", .text settings.logLevel),
  ("HOST", .text settings.host),
  ("PORT", .integer settings.port),
  ("DATABASE_URL", .text settings.databaseUrl),
  ("DB_BUSY_TIMEOUT_SECONDS", .binary settings.databaseBusyTimeout),
  ("DEPOSIT_CEILING", settings.depositCeiling),
  ("WITHDRAWAL_CEILING", settings.withdrawalCeiling),
  ("TRANSFER_CEILING", settings.transferCeiling),
  ("INTEREST_CEILING", settings.interestCeiling),
  ("LOCK_TIMEOUT_SECONDS", settings.lockTimeout),
  ("MAX_ATTEMPTS", settings.maxAttempts),
  ("RETRY_BACKOFF_SECONDS", settings.retryBackoff),
  ("HISTORY_LIMIT", settings.historyLimit),
  ("ENVIRONMENT", .text settings.environment)]

/-- The ceilings of all kinds of transactions. -/
def ceilings (settings : Settings) : Ceilings := ⟨[
  (.deposit, settings.depositCeiling),
  (.withdrawal, settings.withdrawalCeiling),
  (.transfer, settings.transferCeiling),
  (.interest, settings.interestCeiling)]⟩

/-- The settings with one of those that operations consult set anew. -/
def override (settings : Settings) (name : String) (value : Value) : Settings :=
  match name with
  | "DEPOSIT_CEILING" => { settings with depositCeiling := value }
  | "WITHDRAWAL_CEILING" => { settings with withdrawalCeiling := value }
  | "TRANSFER_CEILING" => { settings with transferCeiling := value }
  | "INTEREST_CEILING" => { settings with interestCeiling := value }
  | "LOCK_TIMEOUT_SECONDS" => { settings with lockTimeout := value }
  | "MAX_ATTEMPTS" => { settings with maxAttempts := value }
  | "RETRY_BACKOFF_SECONDS" => { settings with retryBackoff := value }
  | "HISTORY_LIMIT" => { settings with historyLimit := value }
  | _ => settings

end Settings

end Passbook
