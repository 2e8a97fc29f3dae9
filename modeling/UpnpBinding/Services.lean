import UpnpBinding.Text.Lower
/-!
Known services of a player device, with their endpoints relative to the device URL. A service
is found by its exact name, else by its name in any case.
-/
namespace UpnpBinding

/-- A known service and its endpoints. -/
structure KnownService where
  name : String
  serviceType : String
  controlPath : String
  eventPath : String
  scpdPath : String
deriving DecidableEq, Repr

def serviceTypeOf (name : String) : String := "urn:schemas-upnp-org:service:" ++ name ++ ":1"

namespace KnownService

def make (name pre : String) : KnownService :=
  ⟨name, serviceTypeOf name, pre ++ "/" ++ name ++ "/Control", pre ++ "/" ++ name ++ "/Event",
    "/xml/" ++ name ++ "1.xml"⟩

def all : List KnownService :=
  [make "AlarmClock" "", make "AVTransport" "/MediaRenderer",
    make "ConnectionManager" "/MediaServer", make "ContentDirectory" "/MediaServer",
    make "DeviceProperties" "", make "GroupManagement" "",
    make "GroupRenderingControl" "/MediaRenderer", make "MusicServices" "", make "QPlay" "",
    make "Queue" "/MediaRenderer", make "RenderingControl" "/MediaRenderer",
    make "SystemProperties" "", make "VirtualLineIn" "/MediaRenderer",
    make "ZoneGroupTopology" ""]

def find? (name : String) : Option KnownService :=
  match all.find? (·.name == name) with
  | some s => some s
  | none => all.find? (fun s => Text.lower s.name == Text.lower name)

end KnownService

end UpnpBinding
