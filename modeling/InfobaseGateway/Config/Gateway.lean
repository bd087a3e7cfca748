import InfobaseGateway.Config.StoreSeed
import InfobaseGateway.Log.Filter

/-!
# Settings of the gateway

The configuration of a gateway: where it listens, how large messages may be, which endpoint it
fronts, and how it is traced. Every setting has a default, except the endpoint that traces go to.
-/

namespace InfobaseGateway

open Config

/-- The endpoint that a gateway fronts. -/
inductive EndpointConfig
  | inMemory (seed : StoreSeed)
  deriving DecidableEq

namespace EndpointConfig

/-- Reads an endpoint: a dictionary of its kind to its settings. -/
def decode (tree : ConfigTree) : Decoded EndpointConfig := do
  match ← Decode.variant ["InMemory"] tree with
  | (name, some content) => inMemory <$> (StoreSeed.fields.decode content).under name
  | (_, none) => fail .invalidType

def toTree : EndpointConfig → ConfigTree
  | inMemory seed => .dict [("InMemory", seed.toTree)]

def view : EndpointConfig → String
  | inMemory seed => "InMemory(" ++ seed.view ++ ")"

end EndpointConfig

/-- Where traces go, and which events are logged. -/
structure TracingConfig where
  endpoint : String
  serviceName : String
  filters : List LogFilter
  deriving DecidableEq

namespace TracingConfig

/-- The name under which a gateway is traced that has no other. -/
def defaultServiceName : String :=
  "ras-gateway"

def fields : Fields TracingConfig :=
  mk <$> .required "endpoint" Decode.text
    <*> .defaulted "service_name" Decode.text defaultServiceName
    <*> .defaulted "filters" (Decode.list LogFilter.fields.decode) []

def toTree (config : TracingConfig) : ConfigTree :=
  .dict [("endpoint", .text config.endpoint), ("service_name", .text config.serviceName),
    ("filters", listTree LogFilter.toTree config.filters)]

def view (config : TracingConfig) : String :=
  Text.showRecord "OpenTelemetryConfig"
    [("endpoint", Text.quote config.endpoint), ("service_name", Text.quote config.serviceName),
      ("filters", Text.showList (config.filters.map LogFilter.view))]

end TracingConfig

/-- The configuration of a gateway. Sizes are in bytes; the grace period, in seconds, is the time
between the signal to stop and the end. -/
structure GatewayConfig where
  port : UInt16 := 3002
  endpoint : EndpointConfig := .inMemory .empty
  tracing : Option TracingConfig := none
  maxEncodingSize : UInt64 := 32000000
  maxDecodingSize : UInt64 := 32000000
  shutdownGrace : UInt64 := 1
  deriving DecidableEq

namespace GatewayConfig

/-- The configuration in which nothing is set. -/
def initial : GatewayConfig := {}

/-- Reads the port to listen on. -/
def decodePort (tree : ConfigTree) : Decoded UInt16 :=
  UInt16.ofNat <$> Decode.unsigned 16 tree

/-- Reads a size or a number of seconds. -/
def decodeWord (tree : ConfigTree) : Decoded UInt64 :=
  UInt64.ofNat <$> Decode.unsigned 64 tree

def fields : Fields GatewayConfig :=
  mk <$> .defaulted "port" decodePort initial.port
    <*> .defaulted "endpoint" EndpointConfig.decode initial.endpoint
    <*> .optional "opentelemetry" TracingConfig.fields.decode
    <*> .defaulted "max_encoding_message_size" decodeWord initial.maxEncodingSize
    <*> .defaulted "max_decoding_message_size" decodeWord initial.maxDecodingSize
    <*> .defaulted "grpc_shutdown_grace_period_seconds" decodeWord initial.shutdownGrace

/-- Reads the configuration below its key in the file. -/
def decodeRoot (tree : ConfigTree) : Decoded GatewayConfig :=
  (Fields.defaulted "gateway" fields.decode initial).decode tree

/-- The tree of the configuration, with every member. -/
def toTree (config : GatewayConfig) : ConfigTree :=
  .dict [("port", .integer config.port.toNat),
    ("endpoint", config.endpoint.toTree),
    ("opentelemetry", optionTree TracingConfig.toTree config.tracing),
    ("max_encoding_message_size", .integer config.maxEncodingSize.toNat),
    ("max_decoding_message_size", .integer config.maxDecodingSize.toNat),
    ("grpc_shutdown_grace_period_seconds", .integer config.shutdownGrace.toNat)]

def toRoot (config : GatewayConfig) : ConfigTree :=
  .dict [("gateway", config.toTree)]

def view (config : GatewayConfig) : String :=
  Text.showRecord "GatewayConfig"
    [("port", toString config.port.toNat),
      ("endpoint", config.endpoint.view),
      ("opentelemetry", Text.showOption (config.tracing.map TracingConfig.view)),
      ("max_encoding_message_size", toString config.maxEncodingSize.toNat),
      ("max_decoding_message_size", toString config.maxDecodingSize.toNat),
      ("grpc_shutdown_grace_period", toString config.shutdownGrace.toNat ++ "s")]

def viewRoot (config : GatewayConfig) : String :=
  Text.showRecord "RootConfig" [("gateway", config.view)]

end GatewayConfig

end InfobaseGateway
