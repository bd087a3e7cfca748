import InfobaseGateway.Startup

/-!
# The gateway process

Reads the configuration file and the environment, starts the gateway and reports how that went.
-/

namespace InfobaseGateway

/-- The variables of this process. -/
def readEnvironment : IO Config.Environment := do
  let entries := (← IO.FS.readFile "/proc/self/environ").splitOn "\x00"
  return entries.filterMap fun entry =>
    match entry.toList.span (· ≠ '=') with
    | (name, _ :: value) => some (String.ofList name, String.ofList value)
    | _ => none

/-- The text of a file, if it can be read. -/
def readFile? (path : String) : IO (Option String) := do
  try return some (← IO.FS.readFile path) catch _ => return none

/-- Uuids for infobases that have none: random digits and a counter. -/
def makeUuids : IO (Nat → String) := do
  let bytes ← IO.getRandomBytes 10
  let digits := bytes.toList.flatMap fun byte =>
    [Nat.digitChar (byte.toNat / 16), Nat.digitChar (byte.toNat % 16)]
  let part (start count : Nat) := String.ofList ((digits.drop start).take count)
  return fun n =>
    part 0 8 ++ "-" ++ part 8 4 ++ "-4" ++ part 12 3 ++ "-a" ++ part 15 3 ++ "-"
      ++ Instant.padded 12 (n + 1)

end InfobaseGateway

open InfobaseGateway

/-- Starts the gateway. -/
def main : IO UInt32 := do
  let environment ← readEnvironment
  let path := (environment.lookup GatewayConfig.pathVariable).getD GatewayConfig.defaultPath
  let config := GatewayConfig.load (← readFile? path) environment
  let startup := Startup.ofConfig (← makeUuids) config
  let directives := environment.lookup "RUST_LOG"
  for notice in startup.notices directives do
    IO.eprintln notice
  for line in startup.logged directives do
    IO.println line.render
  return UInt32.ofNat startup.exitStatus
