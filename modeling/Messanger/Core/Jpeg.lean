import Mathlib.Data.List.Basic

/-!
A JPEG without its metadata.  The stripper walks over the markers and copies what is to stay; what
it reads is a sequence of items, and what it writes are the items that are kept, without fill bytes.
-/

namespace Messanger.Jpeg

abbrev Bytes := List UInt8

def soi : Bytes := [0xFF, 0xD8]
def eoi : UInt8 := 0xD9
def sos : UInt8 := 0xDA
def app0 : UInt8 := 0xE0
def app2 : UInt8 := 0xE2
def app14 : UInt8 := 0xEE
def app15 : UInt8 := 0xEF
def com : UInt8 := 0xFE
def standalone : List UInt8 := [0x01, 0xD0, 0xD1, 0xD2, 0xD3, 0xD4, 0xD5, 0xD6, 0xD7]

def jfif : Bytes := [0x4A, 0x46, 0x49, 0x46, 0x00]
def iccProfile : Bytes := [0x49, 0x43, 0x43, 0x5F, 0x50, 0x52, 0x4F, 0x46, 0x49, 0x4C, 0x45, 0x00]
def adobe : Bytes := [0x41, 0x64, 0x6F, 0x62, 0x65]

def keep (marker : UInt8) (payload : Bytes) : Bool :=
  if marker = app0 then jfif.isPrefixOf payload
  else if marker = app2 then iccProfile.isPrefixOf payload
  else if marker = app14 then adobe.isPrefixOf payload
  else !((decide (app0 ≤ marker) && decide (marker ≤ app15)) || marker == com)

/-- What may follow `0xFF` inside a scan. -/
def stuffed (following : UInt8) : Bool :=
  following == 0x00 || (decide (0xD0 ≤ following) && decide (following ≤ 0xD7))

def entropyEnd : Bytes → Option Nat
  | [] => none
  | [_] => none
  | byte :: following :: rest =>
      if byte ≠ 0xFF then (entropyEnd (following :: rest)).map (· + 1)
      else if stuffed following then (entropyEnd rest).map (· + 2)
      else some 0

/-- The loop of `strip_jpeg_metadata`, from a position on and with what is written so far. -/
def stripFrom : Nat → Bytes → Bytes → Option Bytes
  | 0, _, _ => none
  | fuel + 1, data, out =>
      if data.head? ≠ some 0xFF then none
      else
        match data.dropWhile (· == 0xFF) with
        | [] => none
        | marker :: rest =>
            if marker = eoi then some (out ++ [0xFF, 0xD9])
            else if marker ∈ standalone then stripFrom fuel rest (out ++ [0xFF, marker])
            else
              match rest with
              | high :: low :: payload =>
                  let length := high.toNat * 256 + low.toNat
                  if length < 2 ∨ rest.length < length then none
                  else
                    let out := if keep marker payload then out ++ [0xFF, marker] ++ rest.take length
                      else out
                    if marker = sos then
                      match entropyEnd (rest.drop length) with
                      | none => none
                      | some scanEnd =>
                          stripFrom fuel ((rest.drop length).drop scanEnd)
                            (out ++ (rest.drop length).take scanEnd)
                    else stripFrom fuel (rest.drop length) out
              | _ => none

def stripJpegMetadata (data : Bytes) : Option Bytes :=
  if soi.isPrefixOf data then stripFrom data.length (data.drop 2) soi else none

section Items

/-- What begins with a marker, behind some fill bytes. -/
inductive Item where
  | lone (fill : Nat) (marker : UInt8)
  | segment (fill : Nat) (marker : UInt8) (payload : Bytes)
  | scan (fill : Nat) (payload entropy : Bytes)
  deriving DecidableEq, Repr

def lengthField (payload : Bytes) : Bytes :=
  [UInt8.ofNat ((payload.length + 2) / 256), UInt8.ofNat ((payload.length + 2) % 256)]

def mark (fill : Nat) (marker : UInt8) : Bytes := List.replicate (fill + 1) 0xFF ++ [marker]

namespace Item

def bytes : Item → Bytes
  | .lone fill marker => mark fill marker
  | .segment fill marker payload => mark fill marker ++ lengthField payload ++ payload
  | .scan fill payload entropy => mark fill sos ++ lengthField payload ++ payload ++ entropy

def bare : Item → Item
  | .lone _ marker => .lone 0 marker
  | .segment _ marker payload => .segment 0 marker payload
  | .scan _ payload entropy => .scan 0 payload entropy

/-- All but the segments with metadata, which their marker and their own payload tell. -/
def kept : Item → Bool
  | .segment _ marker payload => keep marker payload
  | _ => true

end Item

/-- `0xFF` is followed by `0x00` or by a restart marker only. -/
def isEntropy : Bytes → Bool
  | [] => true
  | [byte] => byte != 0xFF
  | byte :: following :: rest =>
      if byte ≠ 0xFF then isEntropy (following :: rest) else stuffed following && isEntropy rest

/-- An item whose parts are in the ranges that the format has for them; `0x00` is no marker. -/
def Item.Formed : Item → Prop
  | .lone _ marker => marker ∈ standalone
  | .segment _ marker payload => marker ∉ standalone ∧ marker ≠ eoi ∧ marker ≠ sos ∧
      marker ≠ 0xFF ∧ payload.length + 2 < 65536
  | .scan _ payload entropy => payload.length + 2 < 65536 ∧ isEntropy entropy = true

def Item.marker : Item → UInt8
  | .lone _ marker => marker
  | .segment _ marker _ => marker
  | .scan _ _ _ => sos

/-- A whole file: the items, the fill bytes before the end of the image, and what is behind it. -/
structure File where
  items : List Item
  fill : Nat := 0
  trailing : Bytes := []

def File.bytes (file : File) : Bytes :=
  soi ++ file.items.flatMap Item.bytes ++ mark file.fill eoi ++ file.trailing

/-- The items that are kept, and nothing else. -/
def File.stripped (file : File) : File where
  items := (file.items.filter Item.kept).map Item.bare

end Items

section Reading

def readPayload : Bytes → Option (Bytes × Bytes)
  | high :: low :: rest =>
      let length := high.toNat * 256 + low.toNat
      if length < 2 ∨ rest.length + 2 < length then none
      else some (rest.take (length - 2), rest.drop (length - 2))
  | _ => none

def readFrom : Nat → Bytes → Option (List Item)
  | 0, _ => none
  | fuel + 1, data =>
      if data.head? ≠ some 0xFF then none
      else
        let fill := (data.takeWhile (· == 0xFF)).length - 1
        match data.dropWhile (· == 0xFF) with
        | [] => none
        | marker :: rest =>
            if marker = eoi then some []
            else if marker ∈ standalone then (readFrom fuel rest).map (.lone fill marker :: ·)
            else
              match readPayload rest with
              | none => none
              | some (payload, rest) =>
                  if marker = sos then
                    match entropyEnd rest with
                    | none => none
                    | some scanEnd => (readFrom fuel (rest.drop scanEnd)).map
                        (.scan fill payload (rest.take scanEnd) :: ·)
                  else (readFrom fuel rest).map (.segment fill marker payload :: ·)

def read (data : Bytes) : Option (List Item) :=
  if soi.isPrefixOf data then readFrom data.length (data.drop 2) else none

/-- Behind a scan, what looks like one of its stuffed bytes is read as part of it: a segment marked
`0x00` there has no marker of another item in it. -/
def unbroken : Bool → List Item → Bool
  | _, [] => true
  | behind, .lone fill marker :: rest =>
      unbroken (behind && fill == 0 && stuffed marker) rest
  | behind, .segment fill marker payload :: rest =>
      let joins := behind && fill == 0 && marker == 0x00
      (!joins || isEntropy (lengthField payload ++ payload)) && unbroken joins rest
  | _, .scan _ _ _ :: rest => unbroken true rest

end Reading

end Messanger.Jpeg
