import NodeRelief.Controller

/-!
# The command

Reads the settings from the file `.env` and from the variables of the process, and tells whether a
controller can be launched from them.
-/

namespace NodeRelief.Command

/-- The name of the variable of a setting, in capitals. -/
def environmentName (name : String) : String :=
  String.ofList ((Setting.family ++ name).toList.map Char.toUpper)

def readVariables : IO (List (String × String)) :=
  Setting.names.filterMapM fun name => do
    return (← IO.getEnv (environmentName name)).map (environmentName name, ·)

def readFile : IO String := do
  try IO.FS.readFile ".env" catch _ => return ""

def describe (f : SettingFlaw.At) : String := f.name ++ ": " ++ f.flaw.message

def launch (s : Settings) : IO UInt32 := do
  let together := s.config.map fun _ => ()
  match together with
  | .ok () => IO.eprintln "Starting kube-balance rebalancer"
  | .error f => IO.eprintln ("Fatal error: " ++ f.message)
  return (Launch.run s together none).exitCode.toUInt32

def run : IO UInt32 := do
  match Settings.read (.ofParts (← readFile) (← readVariables)) with
  | .ok s => launch s
  | .error flaws =>
    flaws.forM fun f => IO.eprintln (describe f)
    return Launch.failed.toUInt32

end NodeRelief.Command

def main : IO UInt32 := NodeRelief.Command.run
