import EvmClient.Config
import EvmClient.Json.Writer

/-
The command line: shows the configuration in force.

   With an argument, the configuration is read from the file of that name, otherwise from the
   environment. It is printed as one line of JSON; what is wrong with it goes to the error output. -/
namespace EvmClient.Main

def readConfig : List String → IO (Except ClientError Config)
  | path :: _ => do
    let content : Except String Bytes ← try
        pure (.ok (← IO.FS.readBinFile path).toList)
      catch e => pure (.error e.toString)
    return Config.ofFile path content
  | [] => do
    let values ← Config.settings.mapM fun name => return (name, ← IO.getEnv name)
    return Config.ofEnvironment fun name => (values.lookup name).join

end EvmClient.Main

def main (args : List String) : IO UInt32 := do
  match ← EvmClient.Main.readConfig args with
  | .ok config =>
    IO.println config.toJson.text
    return 0
  | .error e =>
    IO.eprintln e.message
    return 1
