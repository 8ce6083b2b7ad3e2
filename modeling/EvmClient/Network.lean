import EvmClient.Error
import EvmClient.Json.Record
import EvmClient.Text.Blank

/-
The networks that the client knows by name, and what is fixed for them. -/
namespace EvmClient

inductive Network where
  | main
  | test
deriving DecidableEq, Repr

namespace Network

def endpoint : Network → String
  | .main => "https://node.fibochain.org"
  | .test => "https://test.fibochain.org"

/-- Both networks have the same chain id. -/
def chain (_ : Network) : Word64 := 12306

def name : Network → String
  | .main => "mainnet"
  | .test => "testnet"

/-- The decimals of the native coin. -/
def nativeDecimals : Nat := 18

/-- The gas that a native transfer is given. -/
def nativeGasLimit : Word64 := 30000

/-- Reads a network's name as a user writes it: short or long, in any case of its ASCII letters. -/
def parse (s : String) : Except ClientError Network :=
  let lower := (Text.trim s.toList).map Char.toLower
  match String.ofList lower with
  | "main" => .ok .main
  | "mainnet" => .ok .main
  | "test" => .ok .test
  | "testnet" => .ok .test
  | other => .error (.config ("未知网络: " ++ other))

def toJson (n : Network) : Json := .string n.name

def ofName? : String → Option Network
  | "mainnet" => some .main
  | "testnet" => some .test
  | _ => none

/-- The name, which may also be the one member of an object, with null as its value. -/
def ofJson? : Json → Option Network
  | .string name => ofName? name
  | .object [(name, .null)] => ofName? name
  | _ => none

end Network
end EvmClient
