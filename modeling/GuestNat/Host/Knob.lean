import GuestNat.Files.FileTree
import GuestNat.Host.HostError
import GuestNat.Text.Blank
import GuestNat.Text.Quoted
import GuestNat.Text.Utf8

/-!
# The forwarding knob

IPv4 forwarding is a file that holds `1` or `0`. The kernel makes the file; it is read and
overwritten, never created.
-/

namespace GuestNat.Knob

/-- Where the kernel keeps the knob. -/
def standardPath : String := "/proc/sys/net/ipv4/ip_forward"

/-- The digit that stands for a setting. -/
def digit (on : Bool) : String := if on then "1" else "0"

/-- The whole content of the file for a setting: the digit and a line feed. -/
def content (on : Bool) : Bytes := [if on then 0x31 else 0x30, 0x0A]

/-- The knob is written from its start, without what it held. It is not to come into being. -/
def openMode : OpenMode := { write := true, truncate := true }

/-- The kernel has no knob under this name. -/
def missing (path : String) : HostError :=
  .unsupportedPlatform ("IPv4 forwarding control " ++ path ++ " not present")

/-- What a refusal of the operating system means for the knob. A read-only mount is how a container
withholds permission. -/
def refused (path : String) : OsError → HostError
  | .notFound => missing path
  | .permissionDenied => .permissionDenied
  | .readOnly => .permissionDenied
  | cause => .io cause.message

/-- The setting that the file's text stands for. Blanks around the digit do not matter. -/
def setting (path text : String) : Except HostError Bool :=
  let shown := Text.trim text
  if shown = "1" then .ok true
  else if shown = "0" then .ok false
  else .error (.unsupportedPlatform ("unexpected value " ++ Text.quote shown ++ " in " ++ path))

/-- The setting, given what reading the file came to. -/
def reading (path : String) : Except OsError Bytes → Except HostError Bool
  | .error cause => .error (refused path cause)
  | .ok bytes =>
    match Text.Utf8.decode? bytes with
    | none => .error (refused path .notText)
    | some text => setting path text

/-- Whether the file may be written, given what looking for it came to. -/
def writable (path : String) : Except OsError Bool → Except HostError Unit
  | .error cause => .error (refused path cause)
  | .ok false => .error (missing path)
  | .ok true => .ok ()

end GuestNat.Knob
