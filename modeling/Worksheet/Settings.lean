import Worksheet.Service.Field

/-!
# Settings

Settings are read from the environment; what is not set has a default.
-/

namespace Worksheet

open Service

structure Settings where
  host : Text := "127.0.0.1".toList
  port : Int := 8000
  logLevel : Text := "info".toList
  liveRates : Bool := false
  ratesUrl : Text := "https://api.exchangerate.host/latest".toList
  ratesTimeout : Float := 3

namespace Settings

/-- What the names of all variables begin with. -/
def variablePrefix : String := "SMARTCALC_"

/-- A setting as the environment has it. -/
def setting? {α : Type} (environment : List (Text × Text)) (name : String)
    (read : Text → Except FieldFault α) (default : α) : Checked α :=
  match environment.lookup (variablePrefix.toList ++ Text.upperAscii name.toList) with
  | none => .ok default
  | some t => (read t).mapError fun f => [⟨name.toList, f⟩]

/-- The settings of an environment, or what is wrong with it. -/
def ofEnvironment (environment : List (Text × Text)) : Checked Settings :=
  let d : Settings := {}
  let all := (setting? environment "host" .ok d.host).and <|
    (setting? environment "port" wholeOfText d.port).and <|
    (setting? environment "log_level" .ok d.logLevel).and <|
    (setting? environment "live_rates" truthOfText d.liveRates).and <|
    (setting? environment "rates_url" .ok d.ratesUrl).and <|
    setting? environment "rates_timeout" realOfText d.ratesTimeout
  all.map fun (host, port, logLevel, liveRates, ratesUrl, ratesTimeout) =>
    { host, port, logLevel, liveRates, ratesUrl, ratesTimeout }

end Settings

end Worksheet
