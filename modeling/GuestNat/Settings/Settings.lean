import GuestNat.Files.Path
import GuestNat.Settings.Document
import GuestNat.Text.Utf8

/-!
# Settings

Each setting is taken from the first place that gives it: the command line or the environment, the
settings file, the built-in value.

- `FileSettings.ofContent` reads the file.
- `Settings.resolve` puts the layers together and checks what comes out.
-/

namespace GuestNat

/-- The settings given on the command line or in the environment. -/
structure Overrides where
  tap : Option String := none
  uplink : Option String := none
  subnet : Option String := none
  iptables : Option String := none
deriving DecidableEq, Repr

/-- All that one invocation works with. -/
structure Settings where
  net : NatConfig := {}
  /-- The firewall command. -/
  iptables : String := "iptables"
deriving DecidableEq

/-- The settings that a file holds, given what reading the file came to. -/
def FileSettings.ofContent (path : String) : Except OsError Bytes → Except ConfigFault FileSettings
  | .error cause => .error (.unreadable path cause)
  | .ok bytes =>
    match Text.Utf8.decode? bytes with
    | none => .error (.unreadable path .notText)
    | some text => (Document.parse text).mapError (.unparsable path)

namespace Settings

/-- The settings file that is read when none is named. The directory for settings is `configHome`
when that is absolute, and `.config` in the home directory otherwise. -/
def defaultPath (configHome home : Option String) : Option String :=
  let dir :=
    match configHome.filter Path.isAbsolute with
    | some dir => some dir
    | none => home.map (Path.join · ".config")
  dir.map fun dir => Path.join (Path.join dir "tapnat") "config.json"

/-- The subnet of the topmost layer that names one. -/
def resolveSubnet (overrides : Overrides) (file : FileSettings) : Except ConfigFault Subnet :=
  match overrides.subnet with
  | some cidr => (Subnet.parse cidr).mapError .subnet
  | none => .ok (file.subnet.getD ({} : NatConfig).subnet)

/-- The settings of all layers together. -/
def resolve (overrides : Overrides) (file : FileSettings) : Except ConfigFault Settings := do
  let builtIn : Settings := {}
  let subnet ← resolveSubnet overrides file
  let net : NatConfig :=
    { tap := (overrides.tap <|> file.tap).getD builtIn.net.tap
      uplink := (overrides.uplink <|> file.uplink).getD builtIn.net.uplink
      subnet }
  net.check.mapError .interfaces
  return { net, iptables := (overrides.iptables <|> file.iptables).getD builtIn.iptables }

end Settings

end GuestNat
