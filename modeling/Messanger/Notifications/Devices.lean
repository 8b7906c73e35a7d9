import Messanger.Chats.Models
import Messanger.Library.Slices
import Messanger.Library.Table

/-!
The device tokens of the users, the commands that register and withdraw them, and the pushes that
are sent to the active ones.
-/

namespace Messanger

open Relational

namespace Devices

inductive PlatformEnum where
  | ios
  | web
  | android
  deriving DecidableEq, Repr

structure UserDeviceToken where
  userId : UserId
  did : String
  token : String
  platform : PlatformEnum
  deviceName : Option String
  isActive : Bool := true
  deriving DecidableEq, Repr

namespace UserDeviceToken

/-- `uq_device_token`. -/
def key (device : UserDeviceToken) : UserId × String := (device.userId, device.token)

def create (userId : UserId) (token : String) (platform : PlatformEnum) (deviceName : String)
    (did : String) : UserDeviceToken :=
  { userId := userId, did := did, token := token, platform := platform
    deviceName := some deviceName }

def activate (device : UserDeviceToken) : UserDeviceToken := { device with isActive := true }

def deactivate (device : UserDeviceToken) : UserDeviceToken := { device with isActive := false }

end UserDeviceToken

abbrev DeviceTable := Table UserDeviceToken (UserId × String) UserDeviceToken.key

/-- The rows the session sees and those that are committed: what it changes is lost when it closes
without a commit. -/
structure Session where
  committed : DeviceTable
  seen : DeviceTable

namespace Session

def start (devices : DeviceTable) : Session := ⟨devices, devices⟩

def commit (session : Session) : Session := { session with committed := session.seen }

def close (session : Session) : DeviceTable := session.committed

end Session

inductive DeviceError where
  | alreadyExistDeviceToken
  | notFoundUserDevice
  | integrityError
  | dataError
  deriving DecidableEq, Repr

section Repository

variable (devices : DeviceTable)

def getActiveByUserId (userId : UserId) : List UserDeviceToken :=
  devices.select fun device => device.userId == userId && device.isActive

def getDeviceByUserDid (userId : UserId) (did : String) : Option UserDeviceToken :=
  devices.rows.find? fun device => device.userId == userId && device.did == did

def getDeviceByUserToken (userId : UserId) (token : String) : Option UserDeviceToken :=
  devices.find? (userId, token)

def setActive (wanted : UserDeviceToken → Bool) (active : Bool) : DeviceTable :=
  devices.update wanted (fun device => { device with isActive := active }) fun _ => rfl

def deactivateTokens (tokens : List String) : DeviceTable :=
  setActive devices (fun device => tokens.contains device.token) false

end Repository

def fits (width : Nat) (text : String) : Bool :=
  decide (text.length ≤ width) && !text.toList.contains '\x00'

def UserDeviceToken.fitsColumns (device : UserDeviceToken) : Bool :=
  fits 128 device.did && fits 512 device.token && device.deviceName.all (fits 128)

/-- The `INSERT`, with the second unique key `uq_device_did`. -/
def insertDevice (devices : DeviceTable) (device : UserDeviceToken) :
    Except DeviceError DeviceTable :=
  if !device.fitsColumns then .error .dataError
  else if (getDeviceByUserDid devices device.userId device.did).isSome then .error .integrityError
  else .ok (devices.insert device)

def createUserDevice (devices : DeviceTable) (userId : UserId) (did token : String)
    (platform : PlatformEnum) (deviceName : String) : Except DeviceError DeviceTable :=
  let session := Session.start devices
  match getDeviceByUserToken session.seen userId token with
  | some device =>
      if device.isActive then .error .alreadyExistDeviceToken
      else
        .ok { session with
          seen := setActive session.seen (fun row => decide (row.key = device.key)) true }.commit.close
  | none => do
      let device := UserDeviceToken.create userId token platform deviceName did
      let seen ← insertDevice session.seen device
      .ok { session with seen := seen }.commit.close

def deleteUserDevice (devices : DeviceTable) (userId : UserId) (did : String) :
    Except DeviceError DeviceTable :=
  let session := Session.start devices
  match getDeviceByUserDid session.seen userId did with
  | none => .error .notFoundUserDevice
  | some device =>
      .ok { session with
        seen := setActive session.seen (fun row => decide (row.key = device.key)) false }.commit.close

inductive PushResponse where
  | success
  | unregistered
  | senderIdMismatch
  | failure
  deriving DecidableEq, Repr

def PushResponse.isUnregistered : PushResponse → Bool
  | unregistered => true
  | senderIdMismatch => true
  | _ => false

/-- The answers to the multicasts of one push; none is a multicast that fails. -/
abbrev Provider := List String → Option (List PushResponse)

def sendBatchLimit : Nat := 500

def collectInvalidTokens (tokens : List String) (responses : List PushResponse) : List String :=
  (tokens.zip responses).filterMap fun answer =>
    if answer.2.isUnregistered then some answer.1 else none

/-- The multicasts of a push and the tokens they report, as `FirebaseAdminPushService.push` makes
them. -/
def push (session : Session) (userId : UserId) (provider : Provider) :
    List (List String) × Session :=
  let tokens := (getActiveByUserId session.seen userId).map (·.token)
  let sent := Python.slices sendBatchLimit tokens
  let invalidTokens := sent.flatMap fun chunk =>
    match provider chunk with
    | none => []
    | some responses => collectInvalidTokens chunk responses
  (sent, { session with seen := deactivateTokens session.seen invalidTokens })

/-- The handler: the notification, which is left out here, is committed before the push. -/
def pushNotification (devices : DeviceTable) (userId : UserId) (provider : Provider) :
    List (List String) × DeviceTable :=
  let (sent, session) := push (Session.start devices).commit userId provider
  (sent, session.close)

inductive Command where
  | create (userId : UserId) (did token : String) (platform : PlatformEnum) (deviceName : String)
  | delete (userId : UserId) (did : String)
  | push (userId : UserId) (provider : Provider)

def Command.exec (command : Command) (devices : DeviceTable) : DeviceTable :=
  match command with
  | .create userId did token platform deviceName =>
      (createUserDevice devices userId did token platform deviceName).toOption.getD devices
  | .delete userId did => (deleteUserDevice devices userId did).toOption.getD devices
  | .push userId provider => (pushNotification devices userId provider).2

/-- The tokens a push is sent to. -/
def sentTokens (devices : DeviceTable) (userId : UserId) (provider : Provider) : List String :=
  (pushNotification devices userId provider).1.flatten

def reportedTokens (devices : DeviceTable) (userId : UserId) (provider : Provider) : List String :=
  (pushNotification devices userId provider).1.flatMap fun chunk =>
    match provider chunk with
    | none => []
    | some responses => collectInvalidTokens chunk responses

end Devices

end Messanger
