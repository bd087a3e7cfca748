import InfobaseGateway.Config.Environment
import InfobaseGateway.Config.Gateway
import InfobaseGateway.Yaml.Value

/-!
# Loading the configuration

The settings of the environment are laid over those of the file, and the result is read as the
configuration of a gateway. Without a file there are only the environment and the defaults.
-/

namespace InfobaseGateway

open Config

namespace GatewayConfig

/-- The path of the configuration file that is read when no other is named. -/
def defaultPath : String :=
  "./ras_gateway.yaml"

/-- The variable that names another configuration file. -/
def pathVariable : String :=
  "CONFIG_PATH"

/-- Reads the configuration that a file, if there is one, and the environment describe. -/
def ofTrees (file : Option ConfigTree) (environment : Environment) : Decoded GatewayConfig :=
  decodeRoot ((file.getD (.dict [])).merge environment.toTree)

/-- Reads the configuration from the text of a file, if there is one, and the environment. -/
def load (file : Option String) (environment : Environment) : Decoded GatewayConfig :=
  match file with
  | none => ofTrees none environment
  | some text =>
    match Yaml.read? text with
    | some tree => ofTrees (some tree) environment
    | none => fail .unreadable

end GatewayConfig

end InfobaseGateway
